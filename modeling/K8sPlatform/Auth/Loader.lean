import K8sPlatform.Lib.Relational
import K8sPlatform.Auth.Tables

namespace K8sPlatform.Auth

/-- gorm's naming strategy, which gives each field of a scan target the result column it
reads. `ScopeCluster` gets a column of its own; nothing is assumed about which. -/
structure NamingStrategy where
  columnName : String → String
  permissionCode : columnName "PermissionCode" = "permission_code"
  scopeType : columnName "ScopeType" = "scope_type"
  scopeNamespace : columnName "ScopeNamespace" = "scope_namespace"
  roleCode : columnName "RoleCode" = "role_code"
  scopeCluster : columnName "ScopeCluster" ∉
    ["permission_code", "scope_type", "scope_namespace", "role_code"]

/-- A result row by column, `none` for NULL. -/
abbrev ResultRow := List (String × Option String)

/-- A field whose column is missing or NULL keeps its zero value. -/
def NamingStrategy.scanField (orm : NamingStrategy) (row : ResultRow) (field : String) : String :=
  ((row.lookup (orm.columnName field)).getD none).getD ""

structure PermRow where
  permissionCode : String
  scopeType : ScopeType
  scopeCluster : String
  scopeNamespace : String
  roleCode : String
  deriving DecidableEq, Repr

def NamingStrategy.scan (orm : NamingStrategy) (row : ResultRow) : PermRow where
  permissionCode := orm.scanField row "PermissionCode"
  scopeType := orm.scanField row "ScopeType"
  scopeCluster := orm.scanField row "ScopeCluster"
  scopeNamespace := orm.scanField row "ScopeNamespace"
  roleCode := orm.scanField row "RoleCode"

/-- The select list of the permission query for one joined row. -/
def resultRow (ur : SysUserRole) (r : Option SysRole) (rp : Option SysRolePermission) :
    ResultRow :=
  [("permission_code", rp.map (·.permissionCode)),
   ("scope_type", some ur.scopeType),
   ("scope_cluster_code", some ur.scopeClusterCode),
   ("scope_namespace", some ur.scopeNamespace),
   ("role_code", r.map (·.code))]

/-- `sys_user_role ur LEFT JOIN sys_role r LEFT JOIN sys_role_permission rp
WHERE ur.user_id = ? AND r.status = 1`, without a filter on `deleted_at`. -/
def selectPermRows (db : Database) (userId : Nat) : List ResultRow :=
  let withRole := Relational.leftJoin (fun ur r => ur.roleId == r.id) db.userRoles db.roles
  let withPerm := Relational.leftJoin
    (fun (j : SysUserRole × Option SysRole) rp => j.1.roleId == rp.roleId)
    withRole db.rolePermissions
  (withPerm.filter fun row =>
    row.1.1.userId == userId && row.1.2.any (·.status == 1)).map fun row =>
      resultRow row.1.1 row.1.2 row.2

def scopeKey (sc : Scope) : String :=
  sc.scopeType ++ "|" ++ sc.clusterCode ++ "|" ++ sc.ns

def PermRow.scope (row : PermRow) : Scope :=
  ⟨row.scopeType, row.scopeCluster, row.scopeNamespace⟩

/-- The loop body: the tree so far and the scope keys already seen. -/
def addPermRow (acc : PermissionTree × Finset String) (row : PermRow) :
    PermissionTree × Finset String :=
  let pt := acc.1
  let perms := if row.permissionCode ≠ "" then insert row.permissionCode pt.perms else pt.perms
  let key := scopeKey row.scope
  let seen := decide (key ∈ acc.2)
  ({ perms := perms
     scopes := if seen then pt.scopes else pt.scopes ++ [row.scope]
     isPlatformAdmin := pt.isPlatformAdmin || row.scopeType == scopePlatform },
   if seen then acc.2 else insert key acc.2)

def buildTree (rows : List PermRow) : PermissionTree :=
  (rows.foldl addPermRow (⟨∅, [], false⟩, ∅)).1

def loadPermissionTree (orm : NamingStrategy) (db : Database) (userId : Nat) : PermissionTree :=
  buildTree ((selectPermRows db userId).map orm.scan)

/-- What the loop has built from the rows it has read. -/
structure Built (rows : List PermRow) (acc : PermissionTree × Finset String) : Prop where
  perms : ∀ c, c ∈ acc.1.perms ↔ c ≠ "" ∧ ∃ row ∈ rows, row.permissionCode = c
  admin : acc.1.isPlatformAdmin = true ↔ ∃ row ∈ rows, row.scopeType = scopePlatform
  scopes : ∀ sc ∈ acc.1.scopes, ∃ row ∈ rows, row.scope = sc
  keys : ∀ row ∈ rows, ∃ sc ∈ acc.1.scopes, scopeKey sc = scopeKey row.scope
  seen : ∀ key, key ∈ acc.2 ↔ ∃ sc ∈ acc.1.scopes, scopeKey sc = key

theorem built_nil : Built [] (⟨∅, [], false⟩, ∅) := by
  constructor <;> simp

theorem addPermRow_built {rows : List PermRow} {acc : PermissionTree × Finset String}
    (h : Built rows acc) (row : PermRow) : Built (rows ++ [row]) (addPermRow acc row) := by
  have mem_rows (P : PermRow → Prop) :
      (∃ r ∈ rows ++ [row], P r) ↔ (∃ r ∈ rows, P r) ∨ P row := by
    simp only [List.mem_append, List.mem_singleton, or_and_right, exists_or, exists_eq_left]
  constructor
  case perms =>
    intro c
    rw [mem_rows]
    by_cases empty : row.permissionCode = ""
    · simp only [addPermRow, empty, ne_eq, not_true_eq_false, if_false, h.perms]
      grind
    · simp only [addPermRow, empty, ne_eq, not_false_eq_true, if_true, Finset.mem_insert, h.perms]
      grind
  case admin =>
    rw [mem_rows]
    simp [addPermRow, h.admin]
  case scopes =>
    intro sc mem
    rw [mem_rows]
    by_cases seen : scopeKey row.scope ∈ acc.2
    · simp only [addPermRow, seen, decide_true, if_true] at mem
      exact .inl (h.scopes sc mem)
    · simp only [addPermRow, seen, decide_false, Bool.false_eq_true, if_false, List.mem_append,
        List.mem_singleton] at mem
      obtain old | new := mem
      · exact .inl (h.scopes sc old)
      · exact .inr new.symm
  case keys =>
    intro r mem
    have present : ∃ sc ∈ (addPermRow acc row).1.scopes, scopeKey sc = scopeKey row.scope := by
      by_cases seen : scopeKey row.scope ∈ acc.2
      · simpa [addPermRow, seen] using (h.seen _).1 seen
      · exact ⟨row.scope, by simp [addPermRow, seen], rfl⟩
    obtain old | new := List.mem_append.1 mem
    · obtain ⟨sc, msc, eq⟩ := h.keys r old
      refine ⟨sc, ?_, eq⟩
      simp only [addPermRow]
      split
      · exact msc
      · exact List.mem_append_left _ msc
    · rwa [List.mem_singleton.1 new]
  case seen =>
    intro key
    by_cases seen : scopeKey row.scope ∈ acc.2
    · simp only [addPermRow, seen, decide_true, if_true, h.seen]
    · simp only [addPermRow, seen, decide_false, Bool.false_eq_true, if_false, Finset.mem_insert,
        h.seen, List.mem_append, List.mem_singleton, or_and_right, exists_or, exists_eq_left]
      exact or_comm.trans (or_congr_right eq_comm)

theorem foldl_built {rows : List PermRow} {acc : PermissionTree × Finset String}
    (h : Built rows acc) (rest : List PermRow) :
    Built (rows ++ rest) (rest.foldl addPermRow acc) := by
  induction rest generalizing rows acc with
  | nil => simpa using h
  | cons row rest ih => simpa using ih (addPermRow_built h row)

theorem buildTree_built (rows : List PermRow) :
    ∃ seen, Built rows (buildTree rows, seen) :=
  ⟨_, foldl_built built_nil rows⟩

/-! ## What the tree is made of -/

/-- The loader joins the user's binding to a role row and finds that row enabled.
Neither row need be live. -/
structure Database.Joined (db : Database) (userId : Nat) (ur : SysUserRole) (r : SysRole) :
    Prop where
  binding : ur ∈ db.userRoles
  user : ur.userId = userId
  role : r ∈ db.roles
  roleId : ur.roleId = r.id
  enabled : r.status = 1

/-- The scope of a binding as the loader reads it. -/
def NamingStrategy.readScope (orm : NamingStrategy) (ur : SysUserRole) : Scope :=
  (orm.scan (resultRow ur none none)).scope

/-- gorm fills `ScopeCluster` from the column that the query selects. -/
def NamingStrategy.FillsScopeCluster (orm : NamingStrategy) : Prop :=
  orm.columnName "ScopeCluster" = "scope_cluster_code"

instance (orm : NamingStrategy) : Decidable orm.FillsScopeCluster :=
  inferInstanceAs (Decidable (_ = _))

/-- gorm's default column for a field: snake case. -/
def snakeCase (field : String) : String :=
  String.ofList ((field.toList.flatMap fun c => if c.isUpper then ['_', c.toLower] else [c]).drop 1)

/-- The default strategy leaves `ScopeCluster` without a column. -/
def gormDefault : NamingStrategy where
  columnName := snakeCase
  permissionCode := by decide
  scopeType := by decide
  scopeNamespace := by decide
  roleCode := by decide
  scopeCluster := by decide

/-- A strategy that matches `ScopeCluster` with the selected column. -/
def scopeClusterMapped : NamingStrategy where
  columnName := fun field =>
    if field = "ScopeCluster" then "scope_cluster_code" else snakeCase field
  permissionCode := by decide
  scopeType := by decide
  scopeNamespace := by decide
  roleCode := by decide
  scopeCluster := by decide

theorem scopeClusterMapped_fills : scopeClusterMapped.FillsScopeCluster := by decide

variable {orm : NamingStrategy} {db : Database} {userId : Nat}

theorem scan_resultRow (ur : SysUserRole) (r : Option SysRole) (rp : Option SysRolePermission) :
    orm.scan (resultRow ur r rp) =
      ⟨(rp.map (·.permissionCode)).getD "", ur.scopeType,
        if orm.FillsScopeCluster then ur.scopeClusterCode else "",
        ur.scopeNamespace, (r.map (·.code)).getD ""⟩ := by
  have own := orm.scopeCluster
  simp only [List.mem_cons, List.not_mem_nil, or_false, not_or] at own
  obtain ⟨hp, ht, hn, hr⟩ := own
  simp only [NamingStrategy.scan, NamingStrategy.scanField, resultRow, orm.permissionCode,
    orm.scopeType, orm.scopeNamespace, orm.roleCode, NamingStrategy.FillsScopeCluster]
  by_cases fills : orm.columnName "ScopeCluster" = "scope_cluster_code"
  · simp [fills, List.lookup_cons]
  · simp [fills, List.lookup_cons, hp, ht, hn, hr, beq_eq_false_iff_ne.2]

theorem readScope_eq (ur : SysUserRole) :
    orm.readScope ur =
      ⟨ur.scopeType, if orm.FillsScopeCluster then ur.scopeClusterCode else "",
        ur.scopeNamespace⟩ := by
  simp [NamingStrategy.readScope, PermRow.scope, scan_resultRow]

theorem scan_resultRow_scope (ur : SysUserRole) (r : Option SysRole)
    (rp : Option SysRolePermission) :
    (orm.scan (resultRow ur r rp)).scope = orm.readScope ur := by
  simp [PermRow.scope, scan_resultRow, readScope_eq]

theorem readScope_of_fills (fills : orm.FillsScopeCluster) (ur : SysUserRole) :
    orm.readScope ur = ur.scope := by
  simp [readScope_eq, fills, SysUserRole.scope]

theorem mem_selectPermRows {row : ResultRow} :
    row ∈ selectPermRows db userId ↔
      ∃ ur r rp, db.Joined userId ur r ∧ row = resultRow ur (some r) rp ∧
        ((ur, some r), rp) ∈ Relational.leftJoin
          (fun (j : SysUserRole × Option SysRole) rp => j.1.roleId == rp.roleId)
          (Relational.leftJoin (fun ur r => ur.roleId == r.id) db.userRoles db.roles)
          db.rolePermissions := by
  simp only [selectPermRows, List.mem_map, List.mem_filter, Bool.and_eq_true, beq_iff_eq]
  constructor
  · rintro ⟨⟨⟨ur, r⟩, rp⟩, ⟨mem, user, enabled⟩, rfl⟩
    cases r with
    | none => simp at enabled
    | some r =>
        obtain ⟨mb, mr, on⟩ := Relational.mem_leftJoin_some.1 (Relational.mem_of_mem_leftJoin mem)
        exact ⟨ur, r, rp, ⟨mb, user, mr, by simpa using on, by simpa using enabled⟩, rfl, mem⟩
  · rintro ⟨ur, r, rp, joined, rfl, mem⟩
    exact ⟨((ur, some r), rp), ⟨mem, joined.user, by simp [joined.enabled]⟩, rfl⟩

theorem Database.Joined.mem_leftJoin {ur : SysUserRole} {r : SysRole}
    (h : db.Joined userId ur r) :
    (ur, some r) ∈ Relational.leftJoin (fun ur r => ur.roleId == r.id) db.userRoles db.roles :=
  Relational.mem_leftJoin_some.2 ⟨h.binding, h.role, by simp [h.roleId]⟩

/-- Some row of the query result satisfies a property of bindings. -/
theorem exists_permRow_binding (P : Scope → Prop) :
    (∃ row ∈ (selectPermRows db userId).map orm.scan, P row.scope) ↔
      ∃ ur r, db.Joined userId ur r ∧ P (orm.readScope ur) := by
  simp only [List.mem_map, exists_exists_and_eq_and]
  constructor
  · rintro ⟨row, mem, h⟩
    obtain ⟨ur, r, rp, joined, rfl, _⟩ := mem_selectPermRows.1 mem
    exact ⟨ur, r, joined, by rwa [scan_resultRow_scope] at h⟩
  · rintro ⟨ur, r, joined, h⟩
    obtain ⟨rp, mem⟩ := Relational.exists_mem_leftJoin joined.mem_leftJoin
    exact ⟨resultRow ur (some r) rp, mem_selectPermRows.2 ⟨ur, r, rp, joined, rfl, mem⟩,
      by rwa [scan_resultRow_scope]⟩

/-- The permissions of the tree are the codes of the joined roles. -/
theorem mem_perms_iff {code : String} :
    code ∈ (loadPermissionTree orm db userId).perms ↔
      code ≠ "" ∧ ∃ ur r, db.Joined userId ur r ∧ code ∈ db.roleCodes ur.roleId := by
  obtain ⟨seen, built⟩ := buildTree_built ((selectPermRows db userId).map orm.scan)
  rw [loadPermissionTree, built.perms]
  simp only [List.mem_map, exists_exists_and_eq_and]
  apply and_congr_right
  intro nonempty
  constructor
  · rintro ⟨row, selected, eq⟩
    obtain ⟨ur, r, rp, joined, rfl, mem⟩ := mem_selectPermRows.1 selected
    rw [scan_resultRow] at eq
    cases rp with
    | none => exact absurd eq.symm nonempty
    | some rp =>
        obtain ⟨_, mrp, on⟩ := Relational.mem_leftJoin_some.1 mem
        exact ⟨ur, r, joined, rp, mrp, (beq_iff_eq.1 on).symm, eq⟩
  · rintro ⟨ur, r, joined, rp, mrp, role, eq⟩
    refine ⟨_, mem_selectPermRows.2 ⟨ur, r, some rp, joined, rfl, ?_⟩, ?_⟩
    · exact Relational.mem_leftJoin_some.2 ⟨joined.mem_leftJoin, mrp, beq_iff_eq.2 role.symm⟩
    · simpa [scan_resultRow] using eq

/-- A platform-scoped binding to any enabled role makes the tree an administrator's. -/
theorem isPlatformAdmin_iff :
    (loadPermissionTree orm db userId).isPlatformAdmin = true ↔
      ∃ ur r, db.Joined userId ur r ∧ ur.scopeType = scopePlatform := by
  obtain ⟨seen, built⟩ := buildTree_built ((selectPermRows db userId).map orm.scan)
  rw [loadPermissionTree, built.admin]
  apply (exists_permRow_binding fun sc => sc.scopeType = scopePlatform).trans
  simp only [readScope_eq]

theorem exists_joined_of_mem_scopes {sc : Scope}
    (mem : sc ∈ (loadPermissionTree orm db userId).scopes) :
    ∃ ur r, db.Joined userId ur r ∧ orm.readScope ur = sc := by
  obtain ⟨seen, built⟩ := buildTree_built ((selectPermRows db userId).map orm.scan)
  exact (exists_permRow_binding fun s => s = sc).1 (built.scopes sc mem)

theorem exists_mem_scopes_of_joined {ur : SysUserRole} {r : SysRole}
    (joined : db.Joined userId ur r) :
    ∃ sc ∈ (loadPermissionTree orm db userId).scopes,
      scopeKey sc = scopeKey (orm.readScope ur) := by
  obtain ⟨seen, built⟩ := buildTree_built ((selectPermRows db userId).map orm.scan)
  obtain ⟨row, mem, eq⟩ :=
    (exists_permRow_binding fun s => s = orm.readScope ur).2 ⟨ur, r, joined, rfl⟩
  obtain ⟨sc, msc, key⟩ := built.keys row mem
  exact ⟨sc, msc, by rw [key, eq]⟩

end K8sPlatform.Auth
