import K8sPlatform.Frontend.Access
import K8sPlatform.Resource.Listing
import Mathlib.Data.Finset.Card

/-! # The namespaces that the pages offer -/

namespace K8sPlatform.Frontend

open Auth Errcode Resource

/-- The loop over the roles; it stops at a role for the whole cluster. -/
def fromRoles (clusterCode : String) : List Scope → Finset String → Bool × Finset String
  | [], found => (false, found)
  | role :: roles, found =>
      if role.scopeType = scopePlatform then (true, found)
      else if role.scopeType = scopeCluster ∧ role.clusterCode = clusterCode then (true, found)
      else if role.scopeType = scopeNamespace ∧ role.clusterCode = clusterCode ∧ role.ns ≠ "" then
        fromRoles clusterCode roles (insert role.ns found)
      else fromRoles clusterCode roles found

/-- `(isFullCluster, fromRoles)` -/
def CurrentUser.scope (u : CurrentUser) (clusterCode : String) : Bool × Finset String :=
  if clusterCode = "" then (false, ∅)
  else if u.isPlatformAdmin then (true, ∅)
  else fromRoles clusterCode u.roles ∅

def enforcePerm (pt : PermissionTree) (permCode : String) : Except Error Unit :=
  if permCode = "" then .error (.new .permissionDenied "未声明访问权限")
  else if pt.hasPerm permCode then .ok ()
  else .error (.new .permissionDenied ("缺少权限: " ++ permCode))

/-- A request for the objects of a kind. The pages send neither of the platform's headers. -/
def listRequest (clusterCode : String) : Request :=
  ⟨"GET", "/api/v1/clusters/:code/resources/:apiVersion/:kind", clusterCode, ""⟩

/-- The answer, behind the middlewares. -/
def listAnswer (pt : PermissionTree) (srv : Server) (found : Listed) (clusterCode : String)
    (gvk : GVK) (ns keyword : String) (page size : Int) : Except ListFailure ListResult := do
  (rbacCheck pt (listRequest clusterCode)).mapError .failed
  (enforcePerm pt "resource:list").mapError .failed
  (validateScope (some pt) ⟨clusterCode, "", ""⟩ gvk ns).mapError .failed
  listResources srv found clusterCode gvk ns keyword page size

def namespaceGVK : GVK := ⟨"", "v1", "Namespace"⟩

/-- `listNamespaces`, with the defaults of the query. A code that is a step of a path is gone from
the URL that the browser sends, which then has no route. -/
def listNamespaces (pt : PermissionTree) (srv : Server) (found : Listed) (clusterCode : String) :
    Option (List String) :=
  if clusterCode = "." ∨ clusterCode = ".." then none
  else
    match listAnswer pt srv found clusterCode namespaceGVK "" "" 1 20 with
    | .ok result => some (result.items.map Json.name)
    | .error _ => none

/-- Of a full cluster the namespaces are those that the server has listed. -/
def useAllowedNamespaces (u : CurrentUser) (clusterCode : String) (data : Option (List String)) :
    Finset String :=
  if (u.scope clusterCode).1 then (data.getD []).toFinset else (u.scope clusterCode).2

variable {orm : NamingStrategy} {db : Database} {userId : Nat}

/-- Without bars in the bindings, the loader keeps the scope of every binding in force. -/
theorem mem_scopes_iff
    (plain : ∀ ur ∈ db.userRoles, '|' ∉ ur.scopeType.toList ∧ '|' ∉ ur.scopeClusterCode.toList)
    {sc : Scope} :
    sc ∈ (loadPermissionTree orm db userId).scopes ↔
      ∃ ur r, db.Joined userId ur r ∧ orm.readScope ur = sc := by
  constructor
  · exact exists_joined_of_mem_scopes
  · have bars {ur : SysUserRole} (mem : ur ∈ db.userRoles) :
        (orm.readScope ur).scopeType.toList.count '|' = 0 ∧
          (orm.readScope ur).clusterCode.toList.count '|' = 0 := by
      obtain ⟨ofType, ofCode⟩ := plain ur mem
      rw [readScope_eq]
      refine ⟨List.count_eq_zero.2 ofType, ?_⟩
      dsimp only
      split
      · exact List.count_eq_zero.2 ofCode
      · rfl
    rintro ⟨ur, r, joined, rfl⟩
    have kept : ∃ sc ∈ (loadPermissionTree orm db userId).scopes,
        scopeKey sc = scopeKey (orm.readScope ur) := exists_mem_scopes_of_joined joined
    obtain ⟨sc, mem, key⟩ := kept
    obtain ⟨ur', r', joined', rfl⟩ := exists_joined_of_mem_scopes mem
    obtain ⟨ofType, ofCode⟩ := bars joined.binding
    obtain ⟨ofType', ofCode'⟩ := bars joined'.binding
    have same : orm.readScope ur' = orm.readScope ur :=
      Scope.eq_of_pieces (scopeKey_eq_iff.1 key) (ofType'.trans ofType.symm)
        (ofCode'.trans ofCode.symm)
    exact same ▸ mem

/-- Of two bindings that cover a namespace, one in force grants it. -/
theorem covered_iff
    (plain : ∀ ur ∈ db.userRoles, '|' ∉ ur.scopeType.toList ∧ '|' ∉ ur.scopeClusterCode.toList)
    {clusterCode ns : String} :
    (∃ ur ∈ db.userRoles, ur.userId = userId ∧ (orm.readScope ur).Covers clusterCode ns) ↔
      (loadPermissionTree orm db userId).hasNamespaceScope clusterCode ns = true ∨
        ∃ ur ∈ db.userRoles, ur.userId = userId ∧
          (∀ r ∈ db.roles, r.id = ur.roleId → r.status ≠ 1) ∧
          (orm.readScope ur).Covers clusterCode ns := by
  rw [PermissionTree.hasNamespaceScope_iff]
  constructor
  · rintro ⟨ur, bound, user, covers⟩
    by_cases inForce : ∃ r ∈ db.roles, r.id = ur.roleId ∧ r.status = 1
    · obtain ⟨r, role, same, enabled⟩ := inForce
      have joined : db.Joined userId ur r := ⟨bound, user, role, same.symm, enabled⟩
      exact .inl (.inr ⟨_, (mem_scopes_iff plain).2 ⟨ur, r, joined, rfl⟩, covers⟩)
    · have off : ∀ r ∈ db.roles, r.id = ur.roleId → r.status ≠ 1 := by
        intro r role same enabled
        exact inForce ⟨r, role, same, enabled⟩
      exact .inr ⟨ur, bound, user, off, covers⟩
  · rintro ((admin | ⟨sc, mem, covers⟩) | ⟨ur, bound, user, -, covers⟩)
    · obtain ⟨ur, r, joined, platform⟩ := isPlatformAdmin_iff.1 admin
      refine ⟨ur, joined.binding, joined.user, .inl (.inl ?_)⟩
      rw [readScope_eq]
      exact platform
    · obtain ⟨ur, r, joined, rfl⟩ := exists_joined_of_mem_scopes mem
      exact ⟨ur, joined.binding, joined.user, covers⟩
    · exact ⟨ur, bound, user, covers⟩

/-- What the pages offer to a user, once the server has answered. -/
def offered (orm : NamingStrategy) (db : Database) (userId : Nat) (srv : Server) (found : Listed)
    (clusterCode : String) : Finset String :=
  let pt := loadPermissionTree orm db userId
  useAllowedNamespaces (currentUser orm db userId pt) clusterCode
    (listNamespaces pt srv found clusterCode)

/-- The server lists the namespace to the user. -/
def Lists (pt : PermissionTree) (srv : Server) (found : Listed) (clusterCode ns : String) : Prop :=
  pt.hasPerm "resource:list" = true ∧ pt.hasClusterScope clusterCode = true ∧
    ∃ result, listResources srv found clusterCode namespaceGVK "" "" 1 20 = .ok result ∧
      ns ∈ result.items.map Json.name

/-- A user of the namespace `shop`, by a role that is switched off. -/
def switchedOff : Database where
  users := [⟨7, "shopper", "", userStatusEnabled, false⟩]
  roles := [⟨4, "ns-developer", 0, 0, false⟩]
  permissions := []
  rolePermissions := []
  userRoles := [⟨1, 7, 4, scopeNamespace, "prod", "shop", false⟩]
  nextRoleId := 5
  nextUserRoleId := 2

end K8sPlatform.Frontend
