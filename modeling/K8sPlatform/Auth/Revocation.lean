import K8sPlatform.Lib.Transition
import K8sPlatform.Auth.RoleEffect
import K8sPlatform.Auth.Seed

/-! # When a revocation reaches the loader -/

namespace K8sPlatform.Auth

/-- The grants as the successful requests leave them: who is bound and not since unbound,
which roles exist, which are enabled, and what each grants. -/
structure Ledger where
  bound : Set (Nat × Nat × Scope)
  exists_ : Set Nat
  enabled : Set Nat
  codes : Nat → Set String

/-- A request to unbind names a scope by type, and by cluster and namespace where the
type has them. -/
def UserRoleReq.Names (req : UserRoleReq) (sc : Scope) : Prop :=
  sc.scopeType = req.scopeType ∧
    (req.scopeType = scopeCluster → sc.clusterCode = req.clusterCode) ∧
    (req.scopeType = scopeNamespace → sc.clusterCode = req.clusterCode ∧ sc.ns = req.ns)

namespace Ledger

def record (l : Ledger) : Change → Ledger
  | .none => l
  | .bind userId req => { l with bound := insert (userId, req.roleId, req.scope) l.bound }
  | .unbind userId req =>
      { l with bound := {b ∈ l.bound | ¬ (b.1 = userId ∧ b.2.1 = req.roleId ∧ req.Names b.2.2)} }
  | .setCodes roleId codes =>
      { l with codes := fun id => if id = roleId then {c | c ∈ codes} else l.codes id }
  | .setStatus roleId status =>
      { l with enabled := {id | if id = roleId then status = 1 else id ∈ l.enabled} }
  | .create roleId codes =>
      { l with
        exists_ := insert roleId l.exists_
        enabled := insert roleId l.enabled
        codes := fun id => if id = roleId then {c | c ∈ codes} else l.codes id }
  | .delete roleId => { l with exists_ := l.exists_ \ {roleId} }

/-- The user holds the role with the scope, and the role exists and is enabled. -/
def Holds (l : Ledger) (userId roleId : Nat) (sc : Scope) : Prop :=
  (userId, roleId, sc) ∈ l.bound ∧ roleId ∈ l.exists_ ∧ roleId ∈ l.enabled

/-- The tree has exactly the permissions, scopes and platform flag of the user's grants. -/
structure Agrees (l : Ledger) (userId : Nat) (pt : PermissionTree) : Prop where
  perms : ∀ c, c ∈ pt.perms ↔ ∃ roleId sc, l.Holds userId roleId sc ∧ c ∈ l.codes roleId
  scopes : ∀ sc, sc ∈ pt.scopes ↔ ∃ roleId, l.Holds userId roleId sc
  admin : pt.isPlatformAdmin = true ↔
    ∃ roleId sc, l.Holds userId roleId sc ∧ sc.scopeType = scopePlatform

/-- The grants that the tables hold. -/
def ofDatabase (db : Database) : Ledger where
  bound := {b | ∃ ur ∈ db.userRoles, ur.deleted = false ∧ (ur.userId, ur.roleId, ur.scope) = b}
  exists_ := {id | ∃ r ∈ db.roles, r.deleted = false ∧ r.id = id}
  enabled := {id | ∃ r ∈ db.roles, r.deleted = false ∧ r.id = id ∧ r.status = 1}
  codes := db.roleCodes

end Ledger

/-- Two bindings of one user whose scopes share a key have the same scope. -/
def KeysDistinct (rows : List SysUserRole) : Prop :=
  ∀ a ∈ rows, ∀ b ∈ rows, a.userId = b.userId → scopeKey a.scope = scopeKey b.scope →
    a.scope = b.scope

/-- Tables from which nothing was ever revoked, and whose scopes the loader reads in full. -/
structure Unrevoked (orm : NamingStrategy) (db : Database) : Prop where
  roleIds : (db.roles.map (·.id)).Nodup
  nextRoleId : ∀ r ∈ db.roles, r.id < db.nextRoleId
  bindings : ∀ ur ∈ db.userRoles, ur.deleted = false ∧ (db.findRole ur.roleId).isSome
  keys : KeysDistinct db.userRoles
  read : orm.FillsScopeCluster ∨ ∀ ur ∈ db.userRoles, ur.scopeClusterCode = ""
  permissionCodes : ∀ p ∈ db.permissions, p.code ≠ ""
  roleCodes : ∀ rp ∈ db.rolePermissions, rp.permissionCode ≠ ""

/-- The change revokes nothing that still has rows, and binds no scope that the loader
cannot tell apart or cannot read. -/
def Change.Clean (orm : NamingStrategy) (db : Database) : Change → Prop
  | .bind userId req =>
      (orm.FillsScopeCluster ∨ req.clusterCode = "") ∧
      ∀ ur ∈ db.userRoles, ur.userId = userId → scopeKey ur.scope = scopeKey req.scope →
        ur.scope = req.scope
  | .unbind userId req => ∀ ur ∈ db.userRoles, unbindMatches userId req ur → ur.deleted
  | .create roleId _ => ∀ rp ∈ db.rolePermissions, rp.roleId ≠ roleId
  | .delete roleId => ∀ ur ∈ db.userRoles, ur.roleId = roleId → ur.deleted
  | _ => True

def roleAdminNext (s : Database × Ledger) (op : Op) : Database × Ledger :=
  ((handle s.1 op).2, s.2.record (changeOf s.1 op))

/-- Runs of the six handlers, with the ledger kept beside the tables. -/
def roleAdmin (orm : NamingStrategy) : Transition.System (Database × Ledger) Op :=
  .ofFn (fun s => Unrevoked orm s.1 ∧ s.2 = .ofDatabase s.1) roleAdminNext

/-- The steps after which the loader still reads what the ledger says. -/
def CleanStep (orm : NamingStrategy) (s : Database × Ledger) (op : Op) : Prop :=
  (changeOf s.1 op).Clean orm s.1

/-! ## The invariant of clean runs -/

/-- The tables are unrevoked and the ledger is what they hold. -/
structure Synced (orm : NamingStrategy) (db : Database) (l : Ledger) : Prop where
  unrevoked : Unrevoked orm db
  bound : ∀ b, b ∈ l.bound ↔ ∃ ur ∈ db.userRoles, (ur.userId, ur.roleId, ur.scope) = b
  exists_ : ∀ id, id ∈ l.exists_ ↔ (db.findRole id).isSome
  enabled : ∀ id r, db.findRole id = some r → (id ∈ l.enabled ↔ r.status = 1)
  codes : ∀ id, (db.findRole id).isSome → ∀ c, c ∈ l.codes id ↔ c ∈ db.roleCodes id

theorem findRole_eq_some {db : Database} (roleIds : (db.roles.map (·.id)).Nodup) {id : Nat}
    {r : SysRole} :
    db.findRole id = some r ↔ r ∈ db.roles ∧ r.id = id ∧ r.deleted = false := by
  constructor
  · intro found
    have mem := List.mem_of_find?_eq_some found
    have sat := List.find?_some found
    simp only [Bool.and_eq_true, beq_iff_eq, Bool.not_eq_true'] at sat
    exact ⟨mem, sat⟩
  · rintro ⟨mem, rfl, live⟩
    obtain ⟨r', found⟩ : ∃ r', db.findRole r.id = some r' :=
      Option.isSome_iff_exists.1 (List.find?_isSome.2 ⟨r, mem, by simp [live]⟩)
    have mem' := List.mem_of_find?_eq_some found
    have sat := List.find?_some found
    simp only [Bool.and_eq_true, beq_iff_eq] at sat
    rw [found, List.inj_on_of_nodup_map roleIds mem' mem sat.1]

theorem softDeleteUserRoles_eq {matching : SysUserRole → Bool} {rows : List SysUserRole}
    (none_ : ∀ ur ∈ rows, matching ur → ur.deleted) : softDeleteUserRoles matching rows = rows := by
  refine (List.map_congr_left fun ur mem => ?_).trans (List.map_id rows)
  by_cases h : matching ur = true
  · simp [markDeleted, none_ ur mem h]
  · simp [markDeleted, h]

theorem unbindMatches_iff {id : Nat} {req : UserRoleReq} {ur : SysUserRole} :
    unbindMatches id req ur = true ↔
      ur.userId = id ∧ ur.roleId = req.roleId ∧ req.Names ur.scope := by
  simp only [unbindMatches, UserRoleReq.Names, SysUserRole.scope, Bool.and_eq_true, beq_iff_eq,
    and_assoc]
  by_cases cluster : req.scopeType = scopeCluster
  · have ns : req.scopeType ≠ scopeNamespace := by rw [cluster]; decide
    simp [cluster, show scopeCluster ≠ scopeNamespace by decide]
  · by_cases ns : req.scopeType = scopeNamespace
    · simp [ns, show scopeNamespace ≠ scopeCluster by decide]
    · simp [cluster, ns]

theorem mem_roleCodesOf_append {rows : List SysRolePermission} {codes : List String}
    {roleId id : Nat} {c : String} :
    c ∈ roleCodesOf (rows ++ codes.map (⟨roleId, ·⟩)) id ↔
      c ∈ roleCodesOf rows id ∨ id = roleId ∧ c ∈ codes := by
  simp only [roleCodesOf, Set.mem_ofPred_eq, List.mem_append, List.mem_map, or_and_right,
    exists_or, exists_exists_and_eq_and]
  refine or_congr_right ⟨?_, ?_⟩
  · rintro ⟨code, mem, rfl, rfl⟩; exact ⟨rfl, mem⟩
  · rintro ⟨rfl, mem⟩; exact ⟨c, mem, rfl, rfl⟩

theorem mem_roleCodesOf_filter {rows : List SysRolePermission} {roleId id : Nat} {c : String} :
    c ∈ roleCodesOf (rows.filter (·.roleId != roleId)) id ↔
      id ≠ roleId ∧ c ∈ roleCodesOf rows id := by
  simp only [roleCodesOf, Set.mem_ofPred_eq, List.mem_filter, bne_iff_ne]
  constructor
  · rintro ⟨rp, ⟨mem, ne⟩, rfl, rfl⟩; exact ⟨ne, rp, mem, rfl, rfl⟩
  · rintro ⟨ne, rp, mem, rfl, rfl⟩; exact ⟨rp, ⟨mem, ne⟩, rfl, rfl⟩

/-- A search for rows that an update neither adds nor removes finds them updated. -/
theorem find?_map_of_keeps {α : Type} {found : α → Bool} {update : α → α} {rows : List α}
    (keeps : ∀ r ∈ rows, found (update r) = found r) :
    (rows.map update).find? found = (rows.find? found).map update := by
  induction rows with
  | nil => rfl
  | cons r rows ih =>
      have rest := ih fun r' mem => keeps r' (List.mem_cons_of_mem r mem)
      simp only [List.map_cons, List.find?_cons, keeps r List.mem_cons_self]
      cases found r <;> simp [rest]

theorem findRole_setRoleStatus (db : Database) (roleId : Nat) (status : Int) (id : Nat) :
    (db.setRoleStatus roleId status).findRole id =
      (db.findRole id).map fun r => if id = roleId then { r with status := status } else r := by
  simp only [Database.findRole, Database.setRoleStatus]
  rw [find?_map_of_keeps fun r _ => by split <;> rfl]
  cases found : db.roles.find? fun r => r.id == id && !r.deleted with
  | none => rfl
  | some r =>
      have sat := List.find?_some found
      simp only [Bool.and_eq_true, beq_iff_eq] at sat
      simp only [Option.map_some, sat, beq_iff_eq, Bool.and_true]

theorem findRole_removeRole (db : Database) (roleId id : Nat) :
    (db.removeRole roleId).findRole id = if id = roleId then none else db.findRole id := by
  simp only [Database.findRole, Database.removeRole]
  by_cases eq : id = roleId
  · subst eq
    simp only [if_true, List.find?_eq_none, List.mem_map]
    rintro _ ⟨r, _, rfl⟩
    split <;> simp_all
  · rw [if_neg eq, find?_map_of_keeps]
    · cases found : db.roles.find? fun r => r.id == id && !r.deleted with
      | none => rfl
      | some r =>
          have sat := List.find?_some found
          simp only [Bool.and_eq_true, beq_iff_eq] at sat
          simp [sat.1, eq]
    · intro r _
      split
      · rename_i hit
        simp only [Bool.and_eq_true, beq_iff_eq] at hit
        simp [hit.1, Ne.symm eq]
      · rfl

variable {orm : NamingStrategy} {db : Database} {l : Ledger}

theorem bind_synced (h : Synced orm db l) {userId : Nat} {req : UserRoleReq}
    (clean : (Change.bind userId req).Clean orm db) (role : (db.findRole req.roleId).isSome) :
    Synced orm
      { db with
        userRoles := db.userRoles ++ [⟨db.nextUserRoleId, userId, req.roleId,
          req.scopeType, req.clusterCode, req.ns, false⟩]
        nextUserRoleId := db.nextUserRoleId + 1 }
      (l.record (.bind userId req)) := by
  obtain ⟨read, keys⟩ := clean
  have old := h.unrevoked
  refine ⟨{ old with bindings := ?bindings, keys := ?keys, read := ?read }, ?bound, h.exists_,
    h.enabled, h.codes⟩
  case bindings =>
    intro ur mem
    obtain mem | mem := List.mem_append.1 mem
    · exact old.bindings ur mem
    · rw [List.mem_singleton.1 mem]; exact ⟨rfl, role⟩
  case keys =>
    intro a ma b mb user key
    rcases List.mem_append.1 ma with ma | ma <;> rcases List.mem_append.1 mb with mb | mb
    · exact old.keys a ma b mb user key
    · obtain rfl := List.mem_singleton.1 mb
      exact keys a ma user key
    · obtain rfl := List.mem_singleton.1 ma
      exact (keys b mb user.symm key.symm).symm
    · rw [List.mem_singleton.1 ma, List.mem_singleton.1 mb]
  case read =>
    obtain fills | codes := old.read
    · exact .inl fills
    · apply read.imp_right
      intro code ur mem
      obtain mem | mem := List.mem_append.1 mem
      · exact codes ur mem
      · rw [List.mem_singleton.1 mem]; exact code
  case bound =>
    intro b
    simp only [Ledger.record, Set.mem_insert_iff, h.bound, List.mem_append, List.mem_singleton,
      or_and_right, exists_or, exists_eq_left]
    exact or_comm.trans (or_congr_right eq_comm)

theorem unbind_synced (h : Synced orm db l) {userId : Nat} {req : UserRoleReq}
    (clean : (Change.unbind userId req).Clean orm db) :
    Synced orm
      { db with userRoles := softDeleteUserRoles (unbindMatches userId req) db.userRoles }
      (l.record (.unbind userId req)) := by
  rw [softDeleteUserRoles_eq clean]
  refine { h with bound := fun b => ?_ }
  simp only [Ledger.record, h.bound]
  refine ⟨And.left, fun bound => ⟨bound, ?_⟩⟩
  obtain ⟨ur, mem, rfl⟩ := bound
  rintro ⟨user, role, names⟩
  have hit := clean ur mem (unbindMatches_iff.2 ⟨user, role, names⟩)
  rw [(h.unrevoked.bindings ur mem).1] at hit
  cases hit

theorem setCodes_synced (h : Synced orm db l) {roleId : Nat} {codes : List String}
    (known : ∀ c ∈ codes, ∃ p ∈ db.permissions, p.code = c) :
    Synced orm
      { db with
        rolePermissions := db.rolePermissions.filter (·.roleId != roleId) ++
          codes.map fun code => ⟨roleId, code⟩ }
      (l.record (.setCodes roleId codes)) := by
  have old := h.unrevoked
  refine ⟨{ old with roleCodes := ?_ }, h.bound, h.exists_, h.enabled, fun id role c => ?_⟩
  · intro rp mem
    obtain mem | mem := List.mem_append.1 mem
    · exact old.roleCodes rp (List.mem_filter.1 mem).1
    · obtain ⟨code, mc, rfl⟩ := List.mem_map.1 mem
      obtain ⟨p, mp, rfl⟩ := known code mc
      exact old.permissionCodes p mp
  · refine Iff.trans ?_ mem_roleCodesOf_append.symm
    rw [mem_roleCodesOf_filter]
    have codes' := h.codes id role c
    by_cases eq : id = roleId
    · simp [Ledger.record, eq]
    · simpa [Ledger.record, eq, Database.roleCodes] using codes'

theorem setStatus_synced (h : Synced orm db l) {roleId : Nat} (status : Int) :
    Synced orm (db.setRoleStatus roleId status) (l.record (.setStatus roleId status)) := by
  have old := h.unrevoked
  have ids : (db.setRoleStatus roleId status).roles.map (·.id) = db.roles.map (·.id) := by
    simp only [Database.setRoleStatus, List.map_map]
    apply List.map_congr_left
    intro r _
    simp only [Function.comp]
    split <;> rfl
  have found (id : Nat) :
      ((db.setRoleStatus roleId status).findRole id).isSome = (db.findRole id).isSome := by
    rw [findRole_setRoleStatus, Option.isSome_map]
  refine ⟨{ old with
    roleIds := ?roleIds, nextRoleId := ?nextRoleId, bindings := ?bindings }, h.bound, ?exists_,
    ?enabled, ?codes⟩
  case roleIds =>
    rw [ids]
    exact old.roleIds
  case nextRoleId =>
    intro r mem
    obtain ⟨r', mem', eq⟩ := List.mem_map.1 (ids ▸ List.mem_map_of_mem mem)
    exact eq ▸ old.nextRoleId r' mem'
  case bindings =>
    intro ur mem
    rw [found]
    exact old.bindings ur mem
  case exists_ =>
    intro id
    rw [found]
    exact h.exists_ id
  case enabled =>
    intro id r eq
    rw [findRole_setRoleStatus] at eq
    obtain ⟨r', eq', rfl⟩ := Option.map_eq_some_iff.1 eq
    by_cases same : id = roleId
    · simp [Ledger.record, same]
    · simpa [Ledger.record, same] using h.enabled id r' eq'
  case codes =>
    intro id role
    rw [found] at role
    exact h.codes id role

theorem create_synced (h : Synced orm db l) {code : String} {codes : List String}
    (clean : (Change.create db.nextRoleId codes).Clean orm db)
    (known : ∀ c ∈ codes, ∃ p ∈ db.permissions, p.code = c) :
    Synced orm
      { db with
        roles := db.roles ++ [⟨db.nextRoleId, code, 0, 1, false⟩]
        rolePermissions := db.rolePermissions ++ codes.map fun c => ⟨db.nextRoleId, c⟩
        nextRoleId := db.nextRoleId + 1 }
      (l.record (.create db.nextRoleId codes)) := by
  have old := h.unrevoked
  have fresh : db.findRole db.nextRoleId = none := by
    refine List.find?_eq_none.2 fun r mem => ?_
    have := old.nextRoleId r mem
    simp only [Bool.and_eq_true, beq_iff_eq, not_and]
    omega
  have found (id : Nat) :
      Database.findRole { db with
        roles := db.roles ++ [⟨db.nextRoleId, code, 0, 1, false⟩]
        rolePermissions := db.rolePermissions ++ codes.map fun c => ⟨db.nextRoleId, c⟩
        nextRoleId := db.nextRoleId + 1 } id =
          if id = db.nextRoleId then some ⟨db.nextRoleId, code, 0, 1, false⟩
          else db.findRole id := by
    simp only [Database.findRole, List.find?_append]
    by_cases same : id = db.nextRoleId
    · rw [same]
      simp only [Database.findRole] at fresh
      simp [fresh]
    · simp [same, Ne.symm same]
  refine ⟨{ old with
    roleIds := ?roleIds, nextRoleId := ?nextRoleId, bindings := ?bindings,
    roleCodes := ?roleCodes }, h.bound, ?exists_, ?enabled, ?codes⟩
  case roleIds =>
    simp only [List.map_append, List.map_cons, List.map_nil]
    apply List.Nodup.append old.roleIds (List.nodup_singleton _)
    intro id mem last
    obtain ⟨r, mr, rfl⟩ := List.mem_map.1 mem
    have := old.nextRoleId r mr
    rw [List.mem_singleton.1 last] at this
    omega
  case nextRoleId =>
    intro r mem
    obtain mem | mem := List.mem_append.1 mem
    · have := old.nextRoleId r mem; dsimp only; omega
    · rw [List.mem_singleton.1 mem]; exact Nat.lt_succ_self _
  case bindings =>
    intro ur mem
    refine ⟨(old.bindings ur mem).1, ?_⟩
    rw [found]
    split
    · rfl
    · exact (old.bindings ur mem).2
  case roleCodes =>
    intro rp mem
    obtain mem | mem := List.mem_append.1 mem
    · exact old.roleCodes rp mem
    · obtain ⟨c, mc, rfl⟩ := List.mem_map.1 mem
      obtain ⟨p, mp, rfl⟩ := known c mc
      exact old.permissionCodes p mp
  case exists_ =>
    intro id
    rw [found]
    by_cases same : id = db.nextRoleId <;> simp [Ledger.record, same, h.exists_]
  case enabled =>
    intro id r eq
    rw [found] at eq
    by_cases same : id = db.nextRoleId
    · rw [if_pos same, Option.some.injEq] at eq
      subst eq
      simp [Ledger.record, same]
    · rw [if_neg same] at eq
      simpa [Ledger.record, same] using h.enabled id r eq
  case codes =>
    intro id role c
    rw [found] at role
    refine Iff.trans ?_ mem_roleCodesOf_append.symm
    by_cases same : id = db.nextRoleId
    · have noneLeft : c ∉ roleCodesOf db.rolePermissions id := by
        rintro ⟨rp, mem, eq, -⟩
        exact clean rp mem (eq.trans same)
      rw [or_iff_right noneLeft]
      simp [Ledger.record, same]
    · rw [if_neg same] at role
      simpa [Ledger.record, same, Database.roleCodes] using h.codes id role c

theorem delete_synced (h : Synced orm db l) {roleId : Nat}
    (clean : (Change.delete roleId).Clean orm db) :
    Synced orm (db.removeRole roleId) (l.record (.delete roleId)) := by
  have old := h.unrevoked
  have unbound : ∀ ur ∈ db.userRoles, ur.roleId ≠ roleId := by
    intro ur mem eq
    have hit := clean ur mem eq
    rw [(old.bindings ur mem).1] at hit
    cases hit
  have rows : (db.removeRole roleId).userRoles = db.userRoles :=
    softDeleteUserRoles_eq fun ur mem hit => absurd (beq_iff_eq.1 hit) (unbound ur mem)
  have ids : (db.removeRole roleId).roles.map (·.id) = db.roles.map (·.id) := by
    simp only [Database.removeRole, List.map_map]
    apply List.map_congr_left
    intro r _
    simp only [Function.comp]
    split <;> rfl
  refine ⟨⟨?roleIds, ?nextRoleId, ?bindings, ?keys, ?read, old.permissionCodes, ?roleCodes⟩,
    ?bound, ?exists_, ?enabled, ?codes⟩
  case roleIds =>
    rw [ids]
    exact old.roleIds
  case nextRoleId =>
    intro r mem
    obtain ⟨r', mem', eq⟩ := List.mem_map.1 (ids ▸ List.mem_map_of_mem mem)
    exact eq ▸ old.nextRoleId r' mem'
  case bindings =>
    intro ur mem
    rw [rows] at mem
    rw [findRole_removeRole, if_neg (unbound ur mem)]
    exact old.bindings ur mem
  case keys =>
    rw [rows]
    exact old.keys
  case read =>
    rw [rows]
    exact old.read
  case roleCodes => exact fun rp mem => old.roleCodes rp (List.mem_filter.1 mem).1
  case bound =>
    intro b
    rw [rows]
    exact h.bound b
  case exists_ =>
    intro id
    rw [findRole_removeRole]
    by_cases same : id = roleId <;> simp [Ledger.record, same, h.exists_]
  case enabled =>
    intro id r eq
    rw [findRole_removeRole] at eq
    split at eq
    · cases eq
    · exact h.enabled id r eq
  case codes =>
    intro id role c
    rw [findRole_removeRole] at role
    split at role
    · cases role
    · rename_i ne
      exact (h.codes id role c).trans
        ((and_iff_right ne).symm.trans mem_roleCodesOf_filter.symm)

theorem effect_synced (h : Synced orm db l) {change : Change} {db' : Database}
    (effect : Effect db change db') (clean : change.Clean orm db) :
    Synced orm db' (l.record change) := by
  cases effect with
  | none => exact h
  | bind userId req role => exact bind_synced h clean role
  | unbind userId req => exact unbind_synced h clean
  | setCodes roleId codes known => exact setCodes_synced h known
  | setStatus roleId status role => exact setStatus_synced h status
  | create code codes known => exact create_synced h clean known
  | delete roleId role => exact delete_synced h clean

/-! ## The loader reads the ledger -/

theorem initial_synced (h : Unrevoked orm db) : Synced orm db (.ofDatabase db) := by
  refine ⟨h, ?_, ?_, ?_, fun id role c => Iff.rfl⟩
  · intro b
    constructor
    · rintro ⟨ur, mem, _, eq⟩; exact ⟨ur, mem, eq⟩
    · rintro ⟨ur, mem, eq⟩; exact ⟨ur, mem, (h.bindings ur mem).1, eq⟩
  · intro id
    rw [Option.isSome_iff_exists]
    constructor
    · rintro ⟨r, mem, live, eq⟩; exact ⟨r, (findRole_eq_some h.roleIds).2 ⟨mem, eq, live⟩⟩
    · rintro ⟨r, found⟩
      obtain ⟨mem, eq, live⟩ := (findRole_eq_some h.roleIds).1 found
      exact ⟨r, mem, live, eq⟩
  · intro id r found
    obtain ⟨mem, eq, live⟩ := (findRole_eq_some h.roleIds).1 found
    constructor
    · rintro ⟨r', mem', live', eq', enabled⟩
      have found' := (findRole_eq_some h.roleIds).2 ⟨mem', eq', live'⟩
      rw [found] at found'
      rwa [Option.some.inj found']
    · exact fun enabled => ⟨r, mem, live, eq, enabled⟩

/-- What the loader joins is what the ledger holds. -/
theorem Synced.holds_iff (h : Synced orm db l) {userId roleId : Nat} {sc : Scope} :
    l.Holds userId roleId sc ↔
      ∃ ur r, db.Joined userId ur r ∧ ur.roleId = roleId ∧ ur.scope = sc := by
  have ids := h.unrevoked.roleIds
  constructor
  · rintro ⟨bound, exists_, enabled⟩
    obtain ⟨ur, mem, eq⟩ := (h.bound _).1 bound
    obtain ⟨rfl, rfl, rfl⟩ : ur.userId = userId ∧ ur.roleId = roleId ∧ ur.scope = sc := by
      simpa using eq
    obtain ⟨r, found⟩ := Option.isSome_iff_exists.1 ((h.exists_ _).1 exists_)
    obtain ⟨mr, id, _⟩ := (findRole_eq_some ids).1 found
    exact ⟨ur, r, ⟨mem, rfl, mr, id.symm, (h.enabled _ r found).1 enabled⟩, rfl, rfl⟩
  · rintro ⟨ur, r, joined, rfl, rfl⟩
    have role := (h.unrevoked.bindings ur joined.binding).2
    obtain ⟨r', found⟩ := Option.isSome_iff_exists.1 role
    obtain ⟨mr', id', _⟩ := (findRole_eq_some ids).1 found
    obtain rfl := List.inj_on_of_nodup_map ids mr' joined.role (id'.trans joined.roleId)
    refine ⟨(h.bound _).2 ⟨ur, joined.binding, ?_⟩, (h.exists_ _).2 role,
      (h.enabled _ r' found).2 joined.enabled⟩
    rw [joined.user]

theorem Synced.readScope (h : Synced orm db l) {ur : SysUserRole} (mem : ur ∈ db.userRoles) :
    orm.readScope ur = ur.scope := by
  obtain fills | codes := h.unrevoked.read
  · exact readScope_of_fills fills ur
  · simp [readScope_eq, SysUserRole.scope, codes ur mem]

theorem Synced.agrees (h : Synced orm db l) (userId : Nat) :
    l.Agrees userId (loadPermissionTree orm db userId) := by
  constructor
  · intro c
    rw [mem_perms_iff]
    constructor
    · rintro ⟨_, ur, r, joined, code⟩
      have role := (h.unrevoked.bindings ur joined.binding).2
      exact ⟨ur.roleId, ur.scope, h.holds_iff.2 ⟨ur, r, joined, rfl, rfl⟩,
        (h.codes _ role c).2 code⟩
    · rintro ⟨roleId, sc, holds, code⟩
      obtain ⟨ur, r, joined, rfl, rfl⟩ := h.holds_iff.1 holds
      have code' := (h.codes _ (h.unrevoked.bindings ur joined.binding).2 c).1 code
      obtain ⟨rp, mem, _, rfl⟩ := id code'
      exact ⟨h.unrevoked.roleCodes rp mem, ur, r, joined, code'⟩
  · intro sc
    constructor
    · intro mem
      obtain ⟨ur, r, joined, rfl⟩ := exists_joined_of_mem_scopes mem
      rw [h.readScope joined.binding]
      exact ⟨ur.roleId, h.holds_iff.2 ⟨ur, r, joined, rfl, rfl⟩⟩
    · rintro ⟨roleId, holds⟩
      obtain ⟨ur, r, joined, _, rfl⟩ := h.holds_iff.1 holds
      obtain ⟨sc, mem, key⟩ := exists_mem_scopes_of_joined joined
      obtain ⟨ur', r', joined', rfl⟩ := exists_joined_of_mem_scopes mem
      rw [h.readScope joined'.binding] at mem key
      rw [h.readScope joined.binding] at key
      rwa [← h.unrevoked.keys ur' joined'.binding ur joined.binding
        (joined'.user.trans joined.user.symm) key]
  · rw [isPlatformAdmin_iff]
    constructor
    · rintro ⟨ur, r, joined, platform⟩
      exact ⟨ur.roleId, ur.scope, h.holds_iff.2 ⟨ur, r, joined, rfl, rfl⟩, platform⟩
    · rintro ⟨roleId, sc, holds, platform⟩
      obtain ⟨ur, r, joined, rfl, rfl⟩ := h.holds_iff.1 holds
      exact ⟨ur, r, joined, platform⟩

theorem clean_synced :
    Transition.Invariant ((roleAdmin orm).guard (CleanStep orm))
      fun s => Synced orm s.1 s.2 where
  init := by
    rintro ⟨db, l⟩ ⟨unrevoked, start⟩
    rw [show l = .ofDatabase db from start]
    exact initial_synced unrevoked
  step := by
    rintro ⟨db, l⟩ op _ synced ⟨clean, rfl⟩
    exact effect_synced synced (handle_effect db op) clean

/-- After every run of clean requests, the loader returns for each user exactly what the
ledger grants. -/
theorem loader_agrees_of_clean_run {s : Database × Ledger}
    (run : Transition.Reachable ((roleAdmin orm).guard (CleanStep orm)) s) (userId : Nat) :
    s.2.Agrees userId (loadPermissionTree orm s.1 userId) :=
  (clean_synced.holds run).agrees userId

/-- The seeded tables and a user without bindings. -/
def seededWithUser : Database :=
  { seedDatabase "" with
    users :=
      [⟨1, "admin", "", userStatusEnabled, false⟩, ⟨7, "dev", "", userStatusEnabled, false⟩] }

theorem seededWithUser_unrevoked (orm : NamingStrategy) : Unrevoked orm seededWithUser where
  roleIds := by decide
  nextRoleId := by decide
  bindings := by decide
  keys := by
    intro a ma b mb _ _
    simp only [seededWithUser, seedDatabase, List.mem_singleton] at ma mb
    rw [ma, mb]
  read := .inr (by decide)
  permissionCodes := by decide
  roleCodes := fun rp mem empty => by
    have known := seed_roleCodes "" rp mem
    rw [empty] at known
    revert known
    decide

def viewTeamA : UserRoleReq := ⟨4, scopeNamespace, "prod", "team-a"⟩

def bindDev : Op := .bindUserRole "7" (.ok viewTeamA) none

def unbindDev : Op := .unbindUserRole "7" (.ok viewTeamA) none

def devStart : Database × Ledger := (seededWithUser, .ofDatabase seededWithUser)

theorem bindDev_change : changeOf seededWithUser bindDev = .bind 7 viewTeamA := rfl

theorem loader_agrees_after_bind :
    (roleAdminNext devStart bindDev).2.Agrees 7
      (loadPermissionTree scopeClusterMapped (roleAdminNext devStart bindDev).1 7) := by
  refine loader_agrees_of_clean_run (.step (.init ⟨seededWithUser_unrevoked _, rfl⟩) ⟨?_, rfl⟩) 7
  show (changeOf seededWithUser bindDev).Clean _ _
  rw [bindDev_change]
  exact ⟨.inl scopeClusterMapped_fills, by decide⟩

/-- The loader still grants a scope that was bound and unbound. -/
theorem unbound_scope_still_loaded :
    Transition.Reachable (roleAdmin scopeClusterMapped)
        (Transition.exec roleAdminNext devStart [bindDev, unbindDev]) ∧
      ¬ (Transition.exec roleAdminNext devStart [bindDev, unbindDev]).2.Agrees 7
        (loadPermissionTree scopeClusterMapped
          (Transition.exec roleAdminNext devStart [bindDev, unbindDev]).1 7) := by
  refine ⟨Transition.Reachable.exec _ (.init ⟨seededWithUser_unrevoked _, rfl⟩), fun agrees => ?_⟩
  have loaded : viewTeamA.scope ∈ (loadPermissionTree scopeClusterMapped
      (Transition.exec roleAdminNext devStart [bindDev, unbindDev]).1 7).scopes := by
    decide +kernel
  obtain ⟨roleId, ⟨bound, unnamed⟩, _⟩ := (agrees.scopes _).1 loaded
  obtain new | ⟨ur, mem, _, eq⟩ := bound
  · obtain ⟨-, rfl⟩ : 7 = pathId "7" ∧ roleId = 4 := by simpa [viewTeamA] using new
    exact unnamed ⟨rfl, rfl, rfl, fun _ => rfl, fun _ => ⟨rfl, rfl⟩⟩
  · simp only [seededWithUser, seedDatabase, List.mem_singleton] at mem
    rw [mem] at eq
    cases eq

theorem markDeleted_eq (matching : SysUserRole → Bool) (ur : SysUserRole) :
    ∃ deleted, markDeleted matching ur = { ur with deleted := deleted } := by
  simp only [markDeleted]
  split
  · exact ⟨true, rfl⟩
  · exact ⟨ur.deleted, rfl⟩

@[simp] theorem markDeleted_userId (matching : SysUserRole → Bool) (ur : SysUserRole) :
    (markDeleted matching ur).userId = ur.userId := by
  obtain ⟨deleted, eq⟩ := markDeleted_eq matching ur
  rw [eq]

@[simp] theorem markDeleted_roleId (matching : SysUserRole → Bool) (ur : SysUserRole) :
    (markDeleted matching ur).roleId = ur.roleId := by
  obtain ⟨deleted, eq⟩ := markDeleted_eq matching ur
  rw [eq]

@[simp] theorem resultRow_markDeleted (matching : SysUserRole → Bool) (ur : SysUserRole)
    (r : Option SysRole) (rp : Option SysRolePermission) :
    resultRow (markDeleted matching ur) r rp = resultRow ur r rp := by
  obtain ⟨deleted, eq⟩ := markDeleted_eq matching ur
  rw [eq]
  rfl

/-- Marking bindings as deleted changes no row of the permission query. -/
theorem selectPermRows_softDelete (db : Database) (matching : SysUserRole → Bool)
    (userId : Nat) :
    selectPermRows { db with userRoles := softDeleteUserRoles matching db.userRoles } userId =
      selectPermRows db userId := by
  simp only [selectPermRows, softDeleteUserRoles]
  rw [Relational.leftJoin_map fun ur r => by rw [markDeleted_roleId],
    Relational.leftJoin_map fun j rp => by rw [markDeleted_roleId]]
  simp [List.filter_map, Function.comp_def]

/-- No request to unbind changes what the loader returns for any user. -/
theorem loadPermissionTree_unbindUserRole (idStr : String) (body : Body UserRoleReq)
    (fault : Option String) (userId : Nat) :
    loadPermissionTree orm (unbindUserRole db idStr body fault).2 userId =
      loadPermissionTree orm db userId := by
  have effect := unbindUserRole_handled db idStr body fault
  obtain ⟨err, refused⟩ | ⟨reply, db', done, effect⟩ := effect
  · simp only [handle] at refused
    rw [refused]
  · simp only [handle] at done
    rw [done]
    cases body with
    | error err => cases effect; rfl
    | ok req =>
      cases effect with
      | unbind id req => simp only [loadPermissionTree, selectPermRows_softDelete]

end K8sPlatform.Auth
