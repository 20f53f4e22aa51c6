import K8sPlatform.Lib.Access
import K8sPlatform.Auth.Middleware
import K8sPlatform.Auth.Seed

/-! # What the flattened permission tree authorises -/

namespace K8sPlatform.Auth

variable {orm : NamingStrategy} {db : Database} {userId : Nat}

/-- The bindings the loader reads: those of the user to an enabled role. -/
def Database.joinedBindings (db : Database) (userId : Nat) : Set SysUserRole :=
  {ur | ∃ r, db.Joined userId ur r}

/-- The codes that the role of a binding grants. -/
def Database.granted (db : Database) (ur : SysUserRole) : Set String :=
  {p | Grants (db.roleCodes ur.roleId) p}

/-- The namespaces that a scope covers, each with its cluster. -/
def Scope.region (sc : Scope) : Set (String × String) :=
  {at_ | sc.Covers at_.1 at_.2}

theorem grants_of_mem_perms {p : String}
    (h : Grants {c | c ∈ (loadPermissionTree orm db userId).perms} p) :
    ∃ ur ∈ db.joinedBindings userId, p ∈ db.granted ur := by
  have sub : {c | c ∈ (loadPermissionTree orm db userId).perms} ⊆
      {c | ∃ j : db.joinedBindings userId, c ∈ db.roleCodes j.1.roleId} := by
    intro c mem
    obtain ⟨_, ur, r, joined, code⟩ := mem_perms_iff.1 mem
    exact ⟨⟨ur, r, joined⟩, code⟩
  obtain ⟨⟨ur, joined⟩, grants⟩ := (grants_iUnion _ p).1 (h.mono sub)
  exact ⟨ur, joined, grants⟩

theorem moduleWildcard_ne_empty {p wildcard : String} (h : moduleWildcard p = some wildcard) :
    wildcard ≠ "" := by
  simp only [moduleWildcard] at h
  split at h
  · intro empty
    have := congrArg String.toList (Option.some.inj h)
    simp [empty] at this
  · cases h

theorem mem_perms_of_grants {p : String} (nonempty : p ≠ "")
    (h : ∃ ur ∈ db.joinedBindings userId, p ∈ db.granted ur) :
    Grants {c | c ∈ (loadPermissionTree orm db userId).perms} p := by
  obtain ⟨ur, ⟨r, joined⟩, grants⟩ := h
  have keep {c : String} (ne : c ≠ "") (code : c ∈ db.roleCodes ur.roleId) :
      c ∈ (loadPermissionTree orm db userId).perms :=
    mem_perms_iff.2 ⟨ne, ur, r, joined, code⟩
  obtain all | exact_ | ⟨wildcard, mem, eq⟩ := grants
  · exact .inl (keep (by decide) all)
  · exact .inr (.inl (keep nonempty exact_))
  · exact .inr (.inr ⟨wildcard, keep (moduleWildcard_ne_empty eq) mem, eq⟩)

/-- `HasPerm` on the loaded tree: a platform-scoped binding to any enabled role suffices. -/
theorem hasPerm_loaded_iff {p : String} (nonempty : p ≠ "") :
    (loadPermissionTree orm db userId).hasPerm p = true ↔
      (∃ ur ∈ db.joinedBindings userId, ur.scopeType = scopePlatform) ∨
      ∃ ur ∈ db.joinedBindings userId, p ∈ db.granted ur := by
  rw [PermissionTree.hasPerm_iff, isPlatformAdmin_iff]
  refine or_congr ?_ ⟨grants_of_mem_perms, mem_perms_of_grants nonempty⟩
  constructor
  · rintro ⟨ur, r, joined, platform⟩; exact ⟨ur, ⟨r, joined⟩, platform⟩
  · rintro ⟨ur, ⟨r, joined⟩, platform⟩; exact ⟨ur, r, joined, platform⟩

/-- The user's bindings are live, and each is cluster- or namespace-scoped. -/
def LiveScoped (db : Database) (userId : Nat) : Prop :=
  ∀ ur ∈ db.userRoles, ur.userId = userId →
    ur.deleted = false ∧ (ur.scopeType = scopeCluster ∨ ur.scopeType = scopeNamespace)

instance : Decidable (LiveScoped db userId) :=
  inferInstanceAs (Decidable (∀ ur ∈ db.userRoles, ur.userId = userId →
    ur.deleted = false ∧ (ur.scopeType = scopeCluster ∨ ur.scopeType = scopeNamespace)))

/-- The checks that a namespaced action passes: the permission and any access to the
cluster in `RBACMiddleware`, the namespace in the handler. -/
structure Admitted (pt : PermissionTree) (p clusterCode ns : String) : Prop where
  perm : pt.hasPerm p = true
  cluster : pt.hasAnyAccessToCluster clusterCode = true
  scope : requireNamespaceScope (some pt) clusterCode ns = .ok ()

theorem Admitted.of_rbacCheck {pt : PermissionTree} {req : Request} {ns : String}
    (rbac : rbacCheck pt req = .ok ()) (cluster : (requestClusterCode req).1 ≠ "")
    (scope : requireNamespaceScope (some pt) (requestClusterCode req).1 ns = .ok ()) :
    Admitted pt (resolvePermCode req.method req.fullPath) (requestClusterCode req).1 ns := by
  obtain ⟨_, perm, _, any⟩ := rbacCheck_ok.1 rbac
  exact ⟨perm, any cluster, scope⟩

theorem not_isPlatformAdmin_of_liveScoped (live : LiveScoped db userId) :
    (loadPermissionTree orm db userId).isPlatformAdmin = false := by
  rw [← Bool.not_eq_true, isPlatformAdmin_iff]
  rintro ⟨ur, r, joined, platform⟩
  rcases (live ur joined.binding joined.user).2 with h | h <;>
    · rw [h] at platform; revert platform; decide

/-- What is admitted is authorised by the flattened bindings. -/
theorem admitted_mem_flattened {p c n : String} (live : LiveScoped db userId) (ns : n ≠ "")
    (h : Admitted (loadPermissionTree orm db userId) p c n) :
    (p, (c, n)) ∈ Access.flattened (db.joinedBindings userId) db.granted
      (fun ur => (orm.readScope ur).region) := by
  have admin : (loadPermissionTree orm db userId).isPlatformAdmin = false :=
    not_isPlatformAdmin_of_liveScoped live
  rw [Access.mem_flattened]
  constructor
  · obtain platform | grants := PermissionTree.hasPerm_iff.1 h.perm
    · rw [admin] at platform; cases platform
    · exact grants_of_mem_perms grants
  · have scope := requireNamespaceScope_ok.1 h.scope
    rw [if_neg ns] at scope
    obtain platform | ⟨sc, mem, covers⟩ := PermissionTree.hasNamespaceScope_iff.1 scope
    · rw [admin] at platform; cases platform
    · obtain ⟨ur, r, joined, rfl⟩ := exists_joined_of_mem_scopes mem
      exact ⟨ur, ⟨r, joined⟩, covers⟩

/-- A scope read with a cluster code is the binding's own. -/
theorem covers_own_of_covers_read {ur : SysUserRole} {c n : String} (code : c ≠ "")
    (covers : (orm.readScope ur).Covers c n) : ur.scope.Covers c n := by
  by_cases fills : orm.FillsScopeCluster
  · rwa [readScope_of_fills fills] at covers
  · simp only [readScope_eq, fills, if_false, Scope.Covers, Scope.CoversCluster] at covers
    obtain (platform | ⟨_, empty⟩) | ⟨_, empty, _⟩ := covers
    · exact .inl (.inl platform)
    · exact absurd empty.symm code
    · exact absurd empty.symm code

/-- An admitted action has its permission from a live binding to an enabled role, and its
namespace from a live binding to an enabled role. They need not be the same binding. -/
theorem permission_and_scope_bound {p c n : String} (live : LiveScoped db userId) (ns : n ≠ "")
    (h : Admitted (loadPermissionTree orm db userId) p c n) :
    (∃ ur r, db.Joined userId ur r ∧ ur.deleted = false ∧ Grants (db.roleCodes ur.roleId) p) ∧
    ∃ ur r, db.Joined userId ur r ∧ ur.deleted = false ∧
      (orm.readScope ur).Covers c n ∧ (c ≠ "" → ur.scope.Covers c n) := by
  obtain ⟨⟨ur, ⟨r, joined⟩, grants⟩, ur', ⟨r', joined'⟩, covers⟩ :=
    Access.mem_flattened.1 (admitted_mem_flattened live ns h)
  exact ⟨⟨ur, r, joined, (live ur joined.binding joined.user).1, grants⟩,
    ur', r', joined', (live ur' joined'.binding joined'.user).1, covers,
    fun code => covers_own_of_covers_read code covers⟩

/-- A cluster administrator of `team-a` who is also a developer of `team-b`. -/
def twoTeams : Database where
  users := [⟨7, "u", "", userStatusEnabled, false⟩]
  roles := [⟨2, "cluster-admin", 1, 1, false⟩, ⟨3, "namespace-developer", 1, 1, false⟩]
  permissions := seedPermissions
  rolePermissions := [⟨2, "resource:list"⟩, ⟨2, "resource:delete"⟩, ⟨3, "resource:list"⟩]
  userRoles := [⟨1, 7, 2, scopeNamespace, "prod", "team-a", false⟩,
    ⟨2, 7, 3, scopeNamespace, "prod", "team-b", false⟩]
  nextRoleId := 4
  nextUserRoleId := 3

theorem twoTeams_liveScoped : LiveScoped twoTeams 7 := by decide

theorem permission_and_scope_bound_twoTeams :
    (∃ ur r, twoTeams.Joined 7 ur r ∧ ur.deleted = false ∧
      Grants (twoTeams.roleCodes ur.roleId) "resource:delete") ∧
    ∃ ur r, twoTeams.Joined 7 ur r ∧ ur.deleted = false ∧
      (scopeClusterMapped.readScope ur).Covers "prod" "team-b" ∧
      ("prod" ≠ "" → ur.scope.Covers "prod" "team-b") :=
  permission_and_scope_bound twoTeams_liveScoped (by decide)
    ⟨by decide, by decide, by decide⟩

/-- One binding grants the permission and covers the namespace. -/
def PerBinding (db : Database) (userId : Nat) (p c n : String) : Prop :=
  ∃ ur r, db.Joined userId ur r ∧ Grants (db.roleCodes ur.roleId) p ∧ ur.scope.Covers c n

/-- Bindings that all carry one role pair each permission with each scope. -/
theorem perBinding_of_one_role {p c n : String} {roleId : Nat} (live : LiveScoped db userId)
    (one : ∀ ur ∈ db.joinedBindings userId, ur.roleId = roleId) (code : c ≠ "") (ns : n ≠ "")
    (h : Admitted (loadPermissionTree orm db userId) p c n) : PerBinding db userId p c n := by
  have rect : Access.flattened (db.joinedBindings userId) db.granted
      (fun ur => (orm.readScope ur).region) ⊆
        Access.perBinding (db.joinedBindings userId) db.granted
          (fun ur => (orm.readScope ur).region) := by
    apply Access.flattened_subset_perBinding_iff.2
    intro b hb b' hb' q hq at_ hat
    have granted : q ∈ db.granted b' := by
      rwa [Database.granted, one b' hb', ← one b hb]
    exact ⟨b', hb', granted, hat⟩
  obtain ⟨ur, ⟨r, joined⟩, grants, covers⟩ :=
    Access.mem_perBinding.1 (rect (admitted_mem_flattened live ns h))
  exact ⟨ur, r, joined, grants, covers_own_of_covers_read code covers⟩

/-- `resource:delete` of `team-a` deletes in `team-b`, with the cluster code read or not. -/
theorem admitted_across_bindings :
    (LiveScoped twoTeams 7 ∧
      Admitted (loadPermissionTree scopeClusterMapped twoTeams 7)
        "resource:delete" "prod" "team-b" ∧
      ¬ PerBinding twoTeams 7 "resource:delete" "prod" "team-b") ∧
    Admitted (loadPermissionTree gormDefault twoTeams 7) "resource:delete" "" "team-b" ∧
      ¬ PerBinding twoTeams 7 "resource:delete" "" "team-b" := by
  have delete_of_role {id : Nat} (h : Grants (twoTeams.roleCodes id) "resource:delete") :
      id = 2 := by
    simpa [Grants, Database.roleCodes, roleCodesOf, twoTeams, moduleWildcard, eq_comm] using h
  have scope_of_role {ur : SysUserRole} (mem : ur ∈ twoTeams.userRoles) (role : ur.roleId = 2) :
      ur.scope = ⟨scopeNamespace, "prod", "team-a"⟩ := by
    simp only [twoTeams, List.mem_cons, List.not_mem_nil, or_false] at mem
    obtain rfl | rfl := mem
    · rfl
    · cases role
  refine ⟨⟨twoTeams_liveScoped, ⟨by decide, by decide, by decide⟩, ?_⟩,
    ⟨by decide, by decide, by decide⟩, ?_⟩ <;>
  · rintro ⟨ur, r, joined, grants, covers⟩
    rw [scope_of_role joined.binding (delete_of_role grants)] at covers
    revert covers
    simp [Scope.Covers, Scope.CoversCluster, scopeNamespace, scopeCluster, scopePlatform]

/-- A live binding to a live, enabled role grants the permission. -/
def BoundGrants (db : Database) (userId : Nat) (p : String) : Prop :=
  ∃ ur r, db.Joined userId ur r ∧ ur.deleted = false ∧ r.deleted = false ∧
    Grants (db.roleCodes ur.roleId) p

/-- A soft-deleted binding, or one to a soft-deleted role, grants the permission. -/
def LeftoverGrants (db : Database) (userId : Nat) (p : String) : Prop :=
  ∃ ur r, db.Joined userId ur r ∧ (ur.deleted = true ∨ r.deleted = true) ∧
    Grants (db.roleCodes ur.roleId) p

/-- Some binding to an enabled role has platform scope. -/
def PlatformBound (db : Database) (userId : Nat) : Prop :=
  ∃ ur ∈ db.joinedBindings userId, ur.scopeType = scopePlatform

theorem exists_granted_iff {p : String} :
    (∃ ur ∈ db.joinedBindings userId, p ∈ db.granted ur) ↔
      LeftoverGrants db userId p ∨ BoundGrants db userId p := by
  constructor
  · rintro ⟨ur, ⟨r, joined⟩, grants⟩
    by_cases live : ur.deleted = false ∧ r.deleted = false
    · exact .inr ⟨ur, r, joined, live.1, live.2, grants⟩
    · refine .inl ⟨ur, r, joined, ?_, grants⟩
      cases hu : ur.deleted <;> cases hr : r.deleted <;> simp_all
  · rintro (⟨ur, r, joined, _, grants⟩ | ⟨ur, r, joined, _, _, grants⟩) <;>
      exact ⟨ur, ⟨r, joined⟩, grants⟩

/-- `HasPerm` answers from the roles alone exactly when a platform-scoped binding, or one
left over from a deletion, adds nothing to what the live bindings grant. -/
theorem hasPerm_from_roles_iff {p : String} (form : ':' ∈ p.toList) :
    ((loadPermissionTree orm db userId).hasPerm p = true ↔ BoundGrants db userId p) ↔
      (PlatformBound db userId ∨ LeftoverGrants db userId p → BoundGrants db userId p) := by
  have nonempty : p ≠ "" := by
    rintro rfl
    simp at form
  rw [hasPerm_loaded_iff nonempty, exists_granted_iff]
  constructor
  · rintro roles (platform | leftover)
    · exact roles.1 (.inl platform)
    · exact roles.1 (.inr (.inl leftover))
  · intro covered
    refine ⟨?_, fun bound => .inr (.inr bound)⟩
    rintro (platform | leftover | bound)
    · exact covered (.inl platform)
    · exact covered (.inr leftover)
    · exact bound

/-- The read-only role, bound at platform scope. -/
def platformViewerBound : Database :=
  { seedDatabase "" with
    users := [⟨7, "viewer", "", userStatusEnabled, false⟩]
    userRoles := [⟨2, 7, 4, scopePlatform, "", "", false⟩] }

theorem hasPerm_from_roles_viewer :
    ((loadPermissionTree gormDefault platformViewerBound 7).hasPerm "cluster:list" = true ↔
      BoundGrants platformViewerBound 7 "cluster:list") ↔
      (PlatformBound platformViewerBound 7 ∨
        LeftoverGrants platformViewerBound 7 "cluster:list" →
          BoundGrants platformViewerBound 7 "cluster:list") :=
  hasPerm_from_roles_iff (by decide)

theorem platformViewer_joined :
    platformViewerBound.Joined 7 ⟨2, 7, 4, scopePlatform, "", "", false⟩
      ⟨4, "platform-viewer", 1, 1, false⟩ :=
  ⟨by decide, rfl, by decide, rfl, rfl⟩

theorem platformViewer_not_granted : ¬ BoundGrants platformViewerBound 7 "cluster:delete" := by
  rintro ⟨ur, r, joined, _, _, grants⟩
  have role : ur.roleId = 4 := by
    have mem := joined.binding
    simp only [platformViewerBound, List.mem_singleton] at mem
    rw [mem]
  have codes : ∀ rp ∈ platformViewerBound.rolePermissions, rp.roleId = 4 →
      rp.permissionCode ∉ ["*:*", "cluster:delete", "cluster:*"] := by decide +kernel
  rw [role] at grants
  obtain ⟨rp, mem, id, eq⟩ | ⟨rp, mem, id, eq⟩ | ⟨wildcard, ⟨rp, mem, id, eq⟩, w⟩ := grants
  · exact codes rp mem id (by simp [eq])
  · exact codes rp mem id (by simp [eq])
  · obtain rfl : "cluster:*" = wildcard := Option.some.inj (Eq.trans (by decide) w)
    exact codes rp mem id (by simp [eq])

/-- The read-only role bound at platform scope may delete clusters. -/
theorem platformViewer_hasPerm_delete :
    ¬ ((loadPermissionTree gormDefault platformViewerBound 7).hasPerm "cluster:delete" = true ↔
      BoundGrants platformViewerBound 7 "cluster:delete") := by
  intro h
  refine platformViewer_not_granted (h.1 ?_)
  rw [hasPerm_loaded_iff (by decide)]
  exact .inl ⟨_, ⟨_, platformViewer_joined⟩, rfl⟩

end K8sPlatform.Auth
