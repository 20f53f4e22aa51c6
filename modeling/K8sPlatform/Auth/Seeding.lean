import K8sPlatform.Auth.RoleEffect
import K8sPlatform.Auth.Seed
import K8sPlatform.Kubeconfig.Parser
import Mathlib.Data.List.Basic

/-! # Seeding the built-in roles

The seed reads the wildcards of a role when it binds permissions, `HasPerm` reads them when it
checks one. -/

namespace K8sPlatform.Auth

open Kubeconfig (Ranging)

/-- The order in which a run ranges over the codes of a role, and whether the database hands back
the id of a row that an upsert updates. -/
structure SeedRun where
  order : Ranging
  returnsId : Bool

def Database.livePermissions (db : Database) : List SysPermission :=
  db.permissions.filter fun p => !p.deleted

def Database.deletedRoleCodes (db : Database) : List String :=
  (db.roles.filter (·.deleted)).map (·.code)

/-- The row that an upsert updates; that it is deleted stays as it is. -/
def SysRole.seeded (r : SysRole) : SysRole := { r with builtin := 1, status := 1 }

theorem SysRole.seeded_of_enabled {r : SysRole} (builtin : r.builtin = 1) (status : r.status = 1) :
    r.seeded = r := by
  cases r
  cases builtin
  cases status
  rfl

/-- The upsert by code, with the id that `Create` hands back. -/
def Database.upsertRole (returnsId : Bool) (db : Database) (code : String) :
    Except String (Database × Nat) :=
  match db.roles.find? fun r => r.code == code with
  | some r =>
      .ok ({ db with
          roles := db.roles.map fun r => if r.code = code then r.seeded else r
          nextRoleId := db.nextRoleId + 1 },
        if returnsId then r.id else 0)
  | none =>
      if db.nextRoleId ∈ db.roles.map (·.id) then
        .error "duplicate key value violates unique constraint"
      else
        .ok ({ db with
            roles := db.roles ++ [⟨db.nextRoleId, code, 1, 1, false⟩]
            nextRoleId := db.nextRoleId + 1 },
          db.nextRoleId)

/-- Without an id the role is read again by its code. -/
def Database.seededRoleId (db : Database) (code : String) (returned : Nat) : Except String Nat :=
  if returned = 0 then
    match db.roles.find? fun r => r.code == code && !r.deleted with
    | some r => .ok r.id
    | none => .error "record not found"
  else .ok returned

def seedRole (x : SeedRun) (allPerms : List SysPermission) (db : Database) (sd : SeedRoleDef) :
    Except String Database :=
  match db.upsertRole x.returnsId sd.code with
  | .error err => .error err
  | .ok (db, returned) =>
    match db.seededRoleId sd.code returned with
    | .error err => .error err
    | .ok id =>
      let kept := db.rolePermissions.filter (·.roleId != id)
      match insertRolePermissions kept
          ((x.order.keys (bindCodes allPerms sd)).map fun code => ⟨id, code⟩) with
      | none => .error "duplicate key value violates unique constraint"
      | some rows => .ok { db with rolePermissions := rows }

def seedRoles (x : SeedRun) (db : Database) : Except String Database :=
  seedRolesData.foldlM (seedRole x db.livePermissions) db

/-- A pattern that ends in `:*` names a module before it. -/
def NamesModule (pattern : String) : Prop :=
  pattern.toList.drop (pattern.length - 2) = [':', '*'] →
    pattern.toList.take (pattern.length - 2) ≠ [] ∧
      ':' ∉ pattern.toList.take (pattern.length - 2)

instance (pattern : String) : Decidable (NamesModule pattern) :=
  inferInstanceAs (Decidable (_ → _))

/-- The code is made of the module and an action. -/
def SysPermission.Shaped (p : SysPermission) : Prop :=
  ':' ∉ p.module.toList ∧ ∃ action, p.code = p.module ++ ":" ++ action

theorem SysPermission.Shaped.moduleWildcard {p : SysPermission} (shaped : p.Shaped) :
    moduleWildcard p.code = some (p.module ++ ":*") := by
  obtain ⟨plain, action, code⟩ := shaped
  have chars : p.code.toList = p.module.toList ++ ':' :: action.toList := by simp [code]
  have before : p.code.toList.takeWhile (· ≠ ':') = p.module.toList := by
    have all : ∀ c ∈ p.module.toList, decide (c ≠ ':') = true := by
      intro c mem
      rw [decide_eq_true_eq]
      rintro rfl
      exact plain mem
    rw [chars, List.takeWhile_append_of_pos all]
    simp
  rw [Auth.moduleWildcard, if_pos (by simp [chars]), before, String.ofList_toList]

/-- A wildcard for a module without colons ends in `:*`, behind the module. -/
theorem wildcard_ends (m : String) :
    (m ++ ":*").toList.take ((m ++ ":*").length - 2) = m.toList ∧
      (m ++ ":*").toList.drop ((m ++ ":*").length - 2) = [':', '*'] := by
  have chars : (m ++ ":*").toList = m.toList ++ [':', '*'] := by simp
  have length : (m ++ ":*").length - 2 = m.toList.length := by
    rw [← String.length_toList, chars, List.length_append]
    rfl
  rw [length, chars]
  exact ⟨List.take_left, List.drop_left⟩

/-- What a pattern matches is granted by it. -/
theorem grants_of_mem_matchSeedPerm {perms : List SysPermission} (shaped : ∀ p ∈ perms, p.Shaped)
    {codes : Set String} {pattern : String} (mem : pattern ∈ codes) {code : String}
    (bound : code ∈ matchSeedPerm perms pattern) :
    (∃ p ∈ perms, p.code = code) ∧ Grants codes code := by
  unfold matchSeedPerm at bound
  split_ifs at bound with all wildcard exact_
  · subst all
    exact ⟨by simpa using bound, .inl mem⟩
  · obtain ⟨p, found, rfl⟩ := List.mem_map.1 bound
    obtain ⟨live, module⟩ := List.mem_filter.1 found
    refine ⟨⟨p, live, rfl⟩, .inr (.inr ⟨pattern, mem, ?_⟩)⟩
    rw [(shaped p live).moduleWildcard, beq_iff_eq.1 module]
    apply congrArg some
    apply String.toList_inj.1
    have parts := List.take_append_drop (pattern.length - 2) pattern.toList
    rw [wildcard.2] at parts
    rw [String.toList_append, String.toList_ofList]
    exact parts
  · rw [List.mem_singleton.1 bound]
    exact ⟨by simpa using exact_, .inr (.inl mem)⟩
  · cases bound

/-- The wildcard of a module matches its codes. -/
theorem mem_matchSeedPerm_of_module {perms : List SysPermission} {p : SysPermission}
    (live : p ∈ perms) (named : NamesModule (p.module ++ ":*")) (other : p.module ++ ":*" ≠ "*:*") :
    p.code ∈ matchSeedPerm perms (p.module ++ ":*") := by
  obtain ⟨front, back⟩ := wildcard_ends p.module
  have some_ := (named back).1
  rw [front] at some_
  have long : 2 < (p.module ++ ":*").length := by
    have lengths := congrArg List.length front
    have positive := List.length_pos_iff.2 some_
    rw [List.length_take, String.length_toList] at lengths
    omega
  unfold matchSeedPerm
  rw [if_neg other, if_pos ⟨long, back⟩, front, String.ofList_toList]
  exact List.mem_map.2 ⟨p, List.mem_filter.2 ⟨live, beq_self_eq_true _⟩, rfl⟩

/-- A code that ends like a wildcard is the one of its own module. -/
theorem SysPermission.Shaped.code_eq {p : SysPermission} (shaped : p.Shaped)
    (named : NamesModule p.code)
    (wild : p.code.toList.drop (p.code.length - 2) = [':', '*']) : p.code = p.module ++ ":*" := by
  obtain ⟨-, plain⟩ := named wild
  obtain ⟨-, action, code⟩ := shaped
  have chars : p.code.toList = p.module.toList ++ ':' :: action.toList := by simp [code]
  have parts := List.take_append_drop (p.code.length - 2) p.code.toList
  rw [wild] at parts
  obtain ⟨-, -, star⟩ :=
    (List.append_cons_inj_of_notMem plain (by decide)).1 (parts.trans chars)
  apply String.toList_inj.1
  rw [chars, ← star, String.toList_append]
  rfl

/-- What the patterns of a role bind is what they grant. -/
theorem mem_bindCodes_iff {perms : List SysPermission} (shaped : ∀ p ∈ perms, p.Shaped)
    {sd : SeedRoleDef} (modules : ∀ pattern ∈ sd.perms, NamesModule pattern) (code : String) :
    code ∈ bindCodes perms sd ↔
      (∃ p ∈ perms, p.code = code) ∧
        (⟨sd.perms.toFinset, [], false⟩ : PermissionTree).hasPerm code = true := by
  have granted : (⟨sd.perms.toFinset, [], false⟩ : PermissionTree).hasPerm code = true ↔
      Grants {c | c ∈ sd.perms} code := by
    rw [PermissionTree.hasPerm_iff]
    simp
  rw [granted, bindCodes, List.mem_eraseDups, List.mem_flatMap]
  constructor
  · rintro ⟨pattern, mem, bound⟩
    exact grants_of_mem_matchSeedPerm shaped mem bound
  · rintro ⟨⟨p, live, rfl⟩, grants⟩
    have known : p.code ∈ perms.map (·.code) := List.mem_map.2 ⟨p, live, rfl⟩
    obtain all | exact_ | ⟨wildcard, mem, eq⟩ := grants
    · exact ⟨"*:*", all, by simpa [matchSeedPerm] using known⟩
    · refine ⟨p.code, exact_, ?_⟩
      by_cases all : p.code = "*:*"
      · unfold matchSeedPerm
        rw [if_pos all]
        exact known
      by_cases wild : p.code.toList.drop (p.code.length - 2) = [':', '*']
      · -- the code is itself a wildcard, of its own module
        have named := modules p.code exact_
        have own := (shaped p live).code_eq named wild
        have matched := mem_matchSeedPerm_of_module live (own ▸ named) (own ▸ all)
        rwa [← own] at matched
      · unfold matchSeedPerm
        rw [if_neg all, if_neg fun both => wild both.2, if_pos known]
        exact List.mem_singleton_self _
    · rw [(shaped p live).moduleWildcard] at eq
      obtain rfl := Option.some.inj eq
      by_cases all : p.module ++ ":*" = "*:*"
      · exact ⟨"*:*", all ▸ mem, by simpa [matchSeedPerm] using known⟩
      · exact ⟨_, mem, mem_matchSeedPerm_of_module live (modules _ mem) all⟩

/-! ## One role -/

/-- The keys of the table of roles. -/
structure RolesUnique (db : Database) : Prop where
  codes : (db.roles.map (·.code)).Nodup
  ids : (db.roles.map (·.id)).Nodup

theorem RolesUnique.eq_of_code {db : Database} (unique : RolesUnique db) {r r' : SysRole}
    (mem : r ∈ db.roles) (mem' : r' ∈ db.roles) (same : r.code = r'.code) : r = r' :=
  List.inj_on_of_nodup_map unique.codes mem mem' same

theorem RolesUnique.eq_of_id {db : Database} (unique : RolesUnique db) {r r' : SysRole}
    (mem : r ∈ db.roles) (mem' : r' ∈ db.roles) (same : r.id = r'.id) : r = r' :=
  List.inj_on_of_nodup_map unique.ids mem mem' same

/-- What the upsert of a code leaves. -/
structure Upserted (db : Database) (code : String) (row : SysRole) (db' : Database) : Prop where
  mem : row ∈ db'.roles
  ofCode : row.code = code
  builtin : row.builtin = 1
  status : row.status = 1
  others : ∀ r, r.code ≠ code → (r ∈ db'.roles ↔ r ∈ db.roles)
  unique : RolesUnique db'
  bindings : db'.rolePermissions = db.rolePermissions
  permissions : db'.permissions = db.permissions
  deleted : db'.deletedRoleCodes = db.deletedRoleCodes

/-- The row can be found by its code or by the id that is handed back. -/
def SysRole.Reached (returnsId : Bool) (r : SysRole) : Prop :=
  returnsId = true ∧ r.id ≠ 0 ∨ r.deleted = false

variable {returnsId : Bool} {db db' : Database} {code : String} {returned id : Nat}

theorem upsertRole_ok (unique : RolesUnique db)
    (ok : db.upsertRole returnsId code = .ok (db', returned)) :
    ∃ row : SysRole, Upserted db code row db' ∧
      (row.deleted = false ∧ returned = row.id ∨ returned = if returnsId then row.id else 0) := by
  unfold Database.upsertRole at ok
  split at ok
  · rename_i r found
    cases ok
    have mem := List.mem_of_find?_eq_some found
    have ofCode : r.code = code := by simpa using List.find?_some found
    have sameCode (r : SysRole) : (if r.code = code then r.seeded else r).code = r.code := by
      split <;> rfl
    have sameId (r : SysRole) : (if r.code = code then r.seeded else r).id = r.id := by
      split <;> rfl
    have sameDeleted (r : SysRole) :
        (if r.code = code then r.seeded else r).deleted = r.deleted := by
      split <;> rfl
    refine ⟨r.seeded,
      ⟨?_, ofCode, rfl, rfl, fun other differs => ?_, ⟨?_, ?_⟩, rfl, rfl, ?_⟩, .inr rfl⟩
    · exact List.mem_map.2 ⟨r, mem, if_pos ofCode⟩
    · constructor
      · intro memOther
        obtain ⟨old, memOld, rfl⟩ := List.mem_map.1 memOther
        rw [sameCode] at differs
        rwa [if_neg differs]
      · exact fun memOther => List.mem_map.2 ⟨other, memOther, if_neg differs⟩
    · simpa only [List.map_map, Function.comp_def, sameCode] using unique.codes
    · simpa only [List.map_map, Function.comp_def, sameId] using unique.ids
    · simp only [Database.deletedRoleCodes, List.filter_map, List.map_map, Function.comp_def,
        sameCode, sameDeleted]
  · rename_i missing
    split at ok
    · cases ok
    · rename_i fresh
      cases ok
      have absent : code ∉ db.roles.map (·.code) := by
        intro mem
        obtain ⟨r, memR, ofCode⟩ := List.mem_map.1 mem
        have other := List.find?_eq_none.1 missing r memR
        exact other (by simpa using ofCode)
      refine ⟨⟨db.nextRoleId, code, 1, 1, false⟩,
        ⟨List.mem_append_right _ List.mem_cons_self, rfl, rfl, rfl, fun other differs => ?_,
          ⟨?_, ?_⟩, rfl, rfl, ?_⟩, .inl ⟨rfl, rfl⟩⟩
      · constructor
        · intro memOther
          obtain old | new := List.mem_append.1 memOther
          · exact old
          · rw [List.mem_singleton.1 new] at differs
            exact absurd rfl differs
        · exact List.mem_append_left _
      · rw [List.map_append]
        exact unique.codes.append (List.nodup_singleton _) (by simpa using absent)
      · rw [List.map_append]
        exact unique.ids.append (List.nodup_singleton _) (by simpa using fresh)
      · simp [Database.deletedRoleCodes]

/-- The id is that of the row, whether it is handed back or read again. -/
theorem seededRoleId_ok {row : SysRole} (after : Upserted db code row db')
    (handed : row.deleted = false ∧ returned = row.id ∨
      returned = if returnsId then row.id else 0)
    (ok : db'.seededRoleId code returned = .ok id) : id = row.id ∧ row.Reached returnsId := by
  unfold Database.seededRoleId at ok
  split at ok
  · split at ok
    · rename_i r found
      cases ok
      have mem := List.mem_of_find?_eq_some found
      have cond := List.find?_some found
      simp only [Bool.and_eq_true, beq_iff_eq, Bool.not_eq_true'] at cond
      have same := after.unique.eq_of_code mem after.mem (cond.1.trans after.ofCode.symm)
      subst same
      exact ⟨rfl, .inr cond.2⟩
    · cases ok
  · rename_i some_
    cases ok
    obtain ⟨live, rfl⟩ | returned_ := handed
    · exact ⟨rfl, .inr live⟩
    · cases returnsId with
      | true => exact ⟨returned_, .inl ⟨rfl, fun zero => some_ (returned_.trans zero)⟩⟩
      | false => exact absurd returned_ some_

/-- The codes that a role is bound to, row by row. -/
def Database.boundCodes (db : Database) (roleId : Nat) : List String :=
  (db.rolePermissions.filter (·.roleId == roleId)).map (·.permissionCode)

/-- Without its old rows a role can be bound to codes that differ. -/
theorem insertRolePermissions_isSome {rows : List SysRolePermission} {codes : List String}
    (distinct : codes.Nodup) (unbound : ∀ rp ∈ rows, rp.roleId ≠ id) :
    insertRolePermissions rows (codes.map fun code => ⟨id, code⟩) =
      some (rows ++ codes.map fun code => ⟨id, code⟩) := by
  suffices grows : ∀ codes' : List String, (∀ code ∈ codes, code ∉ codes') →
      insertRolePermissions (rows ++ codes'.map fun code => ⟨id, code⟩)
        (codes.map fun code => ⟨id, code⟩) =
      some (rows ++ codes'.map (fun code => ⟨id, code⟩) ++ codes.map fun code => ⟨id, code⟩) by
    simpa using grows [] (by simp)
  induction codes with
  | nil => simp [insertRolePermissions]
  | cons code codes ih =>
      intro codes' fresh
      obtain ⟨notLater, distinct⟩ := List.nodup_cons.1 distinct
      have free : (⟨id, code⟩ : SysRolePermission) ∉
          rows ++ codes'.map fun code => ⟨id, code⟩ := by
        intro mem
        obtain old | new := List.mem_append.1 mem
        · exact unbound _ old rfl
        · obtain ⟨code', mem', eq⟩ := List.mem_map.1 new
          obtain rfl : code' = code := congrArg SysRolePermission.permissionCode eq
          exact fresh code' List.mem_cons_self mem'
      have next := ih distinct (codes' ++ [code]) (by
        intro c mem
        rw [List.mem_append, List.mem_singleton, not_or]
        exact ⟨fresh c (List.mem_cons_of_mem _ mem), fun eq => notLater (eq ▸ mem)⟩)
      rw [List.map_append, ← List.append_assoc] at next
      rw [List.map_cons, insertRolePermissions, if_neg free]
      simpa using next

/-- The rows after the old ones of a role are replaced. -/
theorem boundCodes_replaced {rows : List SysRolePermission} {codes : List String} (id' : Nat) :
    ((rows.filter (·.roleId != id) ++
        codes.map fun code => (⟨id, code⟩ : SysRolePermission)).filter
          (·.roleId == id')).map (·.permissionCode) =
      if id' = id then codes else (rows.filter (·.roleId == id')).map (·.permissionCode) := by
  rw [List.filter_append, List.filter_filter, List.map_append]
  by_cases same : id' = id
  · subst same
    have none_ : rows.filter (fun rp => rp.roleId == id' && rp.roleId != id') = [] :=
      List.filter_eq_nil_iff.2 fun rp _ both => by simp at both
    simp [none_, List.filter_map, Function.comp_def]
  · have kept : rows.filter (fun rp => rp.roleId == id' && rp.roleId != id) =
        rows.filter (·.roleId == id') := by
      apply List.filter_congr
      intro rp _
      by_cases here : rp.roleId = id'
      · simp [here, same]
      · simp [here]
    have others : (fun code : String => id == id') = fun _ => false := by
      funext _
      exact beq_eq_false_iff_ne.2 (Ne.symm same)
    simp [kept, same, List.filter_map, Function.comp_def, others]

variable {x : SeedRun} {perms : List SysPermission} {sd : SeedRoleDef}

/-- The role is there, enabled, and bound to the codes of its patterns. -/
def Seeded (returnsId : Bool) (perms : List SysPermission) (db : Database)
    (sd : SeedRoleDef) : Prop :=
  ∃ row ∈ db.roles, row.code = sd.code ∧ row.builtin = 1 ∧ row.status = 1 ∧
    row.Reached returnsId ∧ (db.boundCodes row.id).Perm (bindCodes perms sd)

/-- What `seedRole` does when it succeeds. -/
theorem seedRole_ok (unique : RolesUnique db) (ok : seedRole x perms db sd = .ok db') :
    ∃ row upserted, Upserted db sd.code row upserted ∧ row.Reached x.returnsId ∧
      db' = { upserted with
        rolePermissions := db.rolePermissions.filter (·.roleId != row.id) ++
          (x.order.keys (bindCodes perms sd)).map fun code => ⟨row.id, code⟩ } := by
  unfold seedRole at ok
  split at ok
  · cases ok
  rename_i upserted returned ofUpsert
  obtain ⟨row, after, handed⟩ := upsertRole_ok unique ofUpsert
  split at ok
  · cases ok
  rename_i id ofId
  obtain ⟨rfl, reached⟩ := seededRoleId_ok after handed ofId
  dsimp only at ok
  split at ok
  · cases ok
  rename_i rows inserted
  cases ok
  refine ⟨row, upserted, after, reached, ?_⟩
  rw [insertRolePermissions_eq inserted, after.bindings]

theorem seedRole_permissions (unique : RolesUnique db) (ok : seedRole x perms db sd = .ok db') :
    db'.permissions = db.permissions := by
  obtain ⟨row, upserted, after, -, rfl⟩ := seedRole_ok unique ok
  exact after.permissions

theorem seedRole_unique (unique : RolesUnique db) (ok : seedRole x perms db sd = .ok db') :
    RolesUnique db' := by
  obtain ⟨row, upserted, after, -, rfl⟩ := seedRole_ok unique ok
  exact ⟨after.unique.codes, after.unique.ids⟩

/-- A step revives no role and deletes none. -/
theorem seedRole_deletedRoleCodes (unique : RolesUnique db)
    (ok : seedRole x perms db sd = .ok db') : db'.deletedRoleCodes = db.deletedRoleCodes := by
  obtain ⟨row, upserted, after, -, rfl⟩ := seedRole_ok unique ok
  exact after.deleted

/-- One step seeds its role. -/
theorem seedRole_seeds (unique : RolesUnique db) (ok : seedRole x perms db sd = .ok db') :
    Seeded x.returnsId perms db' sd := by
  obtain ⟨row, upserted, after, reached, rfl⟩ := seedRole_ok unique ok
  refine ⟨row, after.mem, after.ofCode, after.builtin, after.status, reached, ?_⟩
  rw [Database.boundCodes, boundCodes_replaced, if_pos rfl]
  exact x.order.perm _

/-- One step leaves the other roles as they are seeded. -/
theorem seedRole_keeps {other : SeedRoleDef} (differs : other.code ≠ sd.code)
    (unique : RolesUnique db) (ok : seedRole x perms db sd = .ok db')
    (seeded : Seeded x.returnsId perms db other) : Seeded x.returnsId perms db' other := by
  obtain ⟨row, upserted, after, -, rfl⟩ := seedRole_ok unique ok
  obtain ⟨old, mem, ofCode, builtin, status, reached, bound⟩ := seeded
  have memAfter := (after.others old (ofCode ▸ differs)).2 mem
  have apart : old.id ≠ row.id := by
    intro same
    have eq := after.unique.eq_of_id memAfter after.mem same
    exact differs (ofCode.symm.trans ((congrArg SysRole.code eq).trans after.ofCode))
  refine ⟨old, memAfter, ofCode, builtin, status, reached, ?_⟩
  rw [Database.boundCodes, boundCodes_replaced, if_neg apart]
  exact bound

/-! ## All roles -/

/-- A run over roles with different codes seeds each of them. -/
theorem seeded_of_run {sds : List SeedRoleDef} (distinct : (sds.map (·.code)).Nodup)
    (unique : RolesUnique db) (ok : sds.foldlM (seedRole x perms) db = .ok db') :
    RolesUnique db' ∧ db'.permissions = db.permissions ∧
      db'.deletedRoleCodes = db.deletedRoleCodes ∧
      (∀ sd ∈ sds, Seeded x.returnsId perms db' sd) ∧
      ∀ other, other.code ∉ sds.map (·.code) → Seeded x.returnsId perms db other →
        Seeded x.returnsId perms db' other := by
  induction sds generalizing db with
  | nil =>
      cases ok
      exact ⟨unique, rfl, rfl, by simp, fun _ _ seeded => seeded⟩
  | cons sd sds ih =>
      obtain ⟨first, distinct⟩ := List.nodup_cons.1 distinct
      rw [List.foldlM_cons] at ok
      cases step : seedRole x perms db sd with
      | error err =>
          rw [step] at ok
          cases ok
      | ok next =>
          rw [step] at ok
          have uniqueNext := seedRole_unique unique step
          obtain ⟨unique', permissions, deleted, seeds, keeps⟩ := ih distinct uniqueNext ok
          refine ⟨unique', permissions.trans (seedRole_permissions unique step),
            deleted.trans (seedRole_deletedRoleCodes unique step), ?_, ?_⟩
          · intro sd' mem
            obtain rfl | later := List.mem_cons.1 mem
            · exact keeps sd' first (seedRole_seeds unique step)
            · exact seeds sd' later
          · intro other differs seeded
            rw [List.map_cons, List.mem_cons, not_or] at differs
            exact keeps other differs.2 (seedRole_keeps differs.1 unique step seeded)

/-- The upsert of a role that is as it should be changes nothing but the sequence. -/
theorem upsertRole_seeded {row : SysRole} (unique : RolesUnique db) (mem : row ∈ db.roles)
    (builtin : row.builtin = 1) (status : row.status = 1) :
    db.upsertRole returnsId row.code =
      .ok ({ db with nextRoleId := db.nextRoleId + 1 }, if returnsId then row.id else 0) := by
  have found : db.roles.find? (fun r => r.code == row.code) = some row := by
    cases first : db.roles.find? fun r => r.code == row.code with
    | none =>
        have other := List.find?_eq_none.1 first row mem
        simp at other
    | some r =>
        have same : r.code = row.code := by simpa using List.find?_some first
        rw [unique.eq_of_code (List.mem_of_find?_eq_some first) mem same]
  have same : db.roles.map (fun r => if r.code = row.code then r.seeded else r) = db.roles := by
    refine (List.map_congr_left fun r memR => ?_).trans (List.map_id' _)
    split
    · rename_i ofCode
      rw [unique.eq_of_code memR mem ofCode, SysRole.seeded_of_enabled builtin status]
    · rfl
  unfold Database.upsertRole
  rw [found]
  dsimp only
  rw [same]

theorem seededRoleId_reached {row : SysRole} (unique : RolesUnique db) (mem : row ∈ db.roles)
    (reached : row.Reached returnsId) :
    db.seededRoleId row.code (if returnsId then row.id else 0) = .ok row.id := by
  have again (live : row.deleted = false) : db.seededRoleId row.code 0 = .ok row.id := by
    have found : db.roles.find? (fun r => r.code == row.code && !r.deleted) = some row := by
      cases first : db.roles.find? fun r => r.code == row.code && !r.deleted with
      | none =>
          have other := List.find?_eq_none.1 first row mem
          simp [live] at other
      | some r =>
          have cond := List.find?_some first
          simp only [Bool.and_eq_true, beq_iff_eq] at cond
          rw [unique.eq_of_code (List.mem_of_find?_eq_some first) mem cond.1]
    rw [Database.seededRoleId, if_pos rfl, found]
  have handed (named : row.id ≠ 0) : db.seededRoleId row.code row.id = .ok row.id := by
    rw [Database.seededRoleId, if_neg named]
  cases returnsId with
  | false => exact again (reached.resolve_left fun both => Bool.false_ne_true both.1)
  | true =>
      rw [if_pos rfl]
      by_cases named : row.id = 0
      · rw [named]
        exact (again (reached.resolve_left fun both => both.2 named)).trans (by rw [named])
      · exact handed named

/-- Two states of the tables that differ in the order of the bindings, and in the sequence. -/
structure SameSeed (db db' : Database) : Prop where
  roles : db'.roles = db.roles
  bindings : db'.rolePermissions.Perm db.rolePermissions

theorem Seeded.same {returnsId : Bool} (seeded : Seeded returnsId perms db sd)
    (alike : SameSeed db db') : Seeded returnsId perms db' sd := by
  obtain ⟨row, mem, ofCode, builtin, status, reached, bound⟩ := seeded
  refine ⟨row, alike.roles ▸ mem, ofCode, builtin, status, reached, ?_⟩
  exact ((alike.bindings.filter _).map _).trans bound

/-- A role that is seeded is seeded again to the same rows. -/
theorem seedRole_again (unique : RolesUnique db) (seeded : Seeded x.returnsId perms db sd) :
    ∃ db', seedRole x perms db sd = .ok db' ∧ SameSeed db db' := by
  obtain ⟨row, mem, ofCode, builtin, status, reached, bound⟩ := seeded
  have upsert : db.upsertRole x.returnsId row.code =
      .ok ({ db with nextRoleId := db.nextRoleId + 1 }, if x.returnsId then row.id else 0) :=
    upsertRole_seeded unique mem builtin status
  have found := seededRoleId_reached unique mem reached
  have distinct : (x.order.keys (bindCodes perms sd)).Nodup :=
    (x.order.perm _).nodup_iff.2 (Relational.nodup_eraseDups _)
  have unbound (rp : SysRolePermission)
      (memRow : rp ∈ db.rolePermissions.filter (·.roleId != row.id)) : rp.roleId ≠ row.id := by
    simpa using (List.mem_filter.1 memRow).2
  have inserted := insertRolePermissions_isSome distinct unbound
  refine ⟨{ db with
      nextRoleId := db.nextRoleId + 1
      rolePermissions := db.rolePermissions.filter (·.roleId != row.id) ++
        (x.order.keys (bindCodes perms sd)).map fun code => ⟨row.id, code⟩ }, ?_, rfl, ?_⟩
  · have found' : Database.seededRoleId { db with nextRoleId := db.nextRoleId + 1 } row.code
        (if x.returnsId then row.id else 0) = .ok row.id := found
    unfold seedRole
    rw [← ofCode, upsert]
    dsimp only
    rw [found']
    dsimp only
    rw [inserted]
  · have own : db.rolePermissions.filter (·.roleId == row.id) =
        (db.boundCodes row.id).map fun code => ⟨row.id, code⟩ := by
      rw [Database.boundCodes, List.map_map]
      refine ((List.map_congr_left fun rp memRow => ?_).trans (List.map_id' _)).symm
      have ofRole : rp.roleId = row.id := by simpa using (List.mem_filter.1 memRow).2
      rw [Function.comp_apply, ← ofRole]
    have again : ((x.order.keys (bindCodes perms sd)).map fun code =>
        (⟨row.id, code⟩ : SysRolePermission)).Perm
        (db.rolePermissions.filter (·.roleId == row.id)) := by
      rw [own]
      exact ((x.order.perm _).trans bound.symm).map _
    have parts := List.filter_append_perm (fun rp => rp.roleId != row.id) db.rolePermissions
    simp only [bne, Bool.not_not] at parts
    exact (again.append_left _).trans parts

theorem run_again {sds : List SeedRoleDef} (unique : RolesUnique db)
    (seeded : ∀ sd ∈ sds, Seeded x.returnsId perms db sd) :
    ∃ db', sds.foldlM (seedRole x perms) db = .ok db' ∧ SameSeed db db' := by
  induction sds generalizing db with
  | nil => exact ⟨db, rfl, rfl, .refl _⟩
  | cons sd sds ih =>
      obtain ⟨next, step, alike⟩ := seedRole_again unique (seeded sd List.mem_cons_self)
      obtain ⟨db', rest, alike'⟩ := ih (seedRole_unique unique step)
        fun sd' mem => (seeded sd' (List.mem_cons_of_mem _ mem)).same alike
      refine ⟨db', ?_, alike'.roles.trans alike.roles, alike'.bindings.trans alike.bindings⟩
      rw [List.foldlM_cons, step]
      exact rest

/-! ## The seed -/

theorem seedRolesData_distinct : (seedRolesData.map (·.code)).Nodup := by decide

theorem seedRolesData_modules :
    ∀ sd ∈ seedRolesData, ∀ pattern ∈ sd.perms, NamesModule pattern := by
  decide

/-- The sequence of the ids is past those of the rows, none of which is zero. -/
structure IdsPast (db : Database) : Prop where
  rows : ∀ r ∈ db.roles, r.id ≠ 0 ∧ r.id < db.nextRoleId
  next : db.nextRoleId ≠ 0

theorem upsertRole_succeeds (past : IdsPast db) (code : String) :
    ∃ db' returned, db.upsertRole true code = .ok (db', returned) ∧ returned ≠ 0 ∧
      IdsPast db' := by
  unfold Database.upsertRole
  split
  · rename_i r found
    have mem := List.mem_of_find?_eq_some found
    refine ⟨_, _, rfl, (past.rows r mem).1, ⟨fun row memRow => ?_, Nat.succ_ne_zero _⟩⟩
    obtain ⟨old, memOld, rfl⟩ := List.mem_map.1 memRow
    have sameId : (if old.code = code then old.seeded else old).id = old.id := by
      split <;> rfl
    obtain ⟨named, below⟩ := past.rows old memOld
    rw [sameId]
    exact ⟨named, Nat.lt_succ_of_lt below⟩
  · have fresh : db.nextRoleId ∉ db.roles.map (·.id) := by
      intro mem
      obtain ⟨r, memR, eq⟩ := List.mem_map.1 mem
      exact absurd eq (past.rows r memR).2.ne
    rw [if_neg fresh]
    refine ⟨_, _, rfl, past.next, ⟨fun row memRow => ?_, Nat.succ_ne_zero _⟩⟩
    obtain old | new := List.mem_append.1 memRow
    · obtain ⟨named, below⟩ := past.rows row old
      exact ⟨named, Nat.lt_succ_of_lt below⟩
    · rw [List.mem_singleton.1 new]
      exact ⟨past.next, Nat.lt_succ_self _⟩

theorem seedRole_succeeds (returns : x.returnsId = true) (past : IdsPast db) (sd : SeedRoleDef) :
    ∃ db', seedRole x perms db sd = .ok db' ∧ IdsPast db' := by
  obtain ⟨upserted, returned, ok, named, past'⟩ := upsertRole_succeeds past sd.code
  have distinct : (x.order.keys (bindCodes perms sd)).Nodup :=
    (x.order.perm _).nodup_iff.2 (Relational.nodup_eraseDups _)
  have unbound (rp : SysRolePermission)
      (memRow : rp ∈ upserted.rolePermissions.filter (·.roleId != returned)) :
      rp.roleId ≠ returned := by
    simpa using (List.mem_filter.1 memRow).2
  have inserted := insertRolePermissions_isSome distinct unbound
  refine ⟨{ upserted with
      rolePermissions := upserted.rolePermissions.filter (·.roleId != returned) ++
        (x.order.keys (bindCodes perms sd)).map fun code => ⟨returned, code⟩ },
    ?_, ⟨past'.rows, past'.next⟩⟩
  unfold seedRole
  rw [returns, ok]
  dsimp only
  rw [Database.seededRoleId, if_neg named]
  dsimp only
  rw [inserted]

/-- The seed succeeds where updates hand back their ids. -/
theorem seedRoles_succeeds (returns : x.returnsId = true) (past : IdsPast db) :
    ∃ db', seedRoles x db = .ok db' := by
  have run (sds : List SeedRoleDef) (perms : List SysPermission) :
      ∃ db', sds.foldlM (seedRole x perms) db = .ok db' := by
    induction sds generalizing db with
    | nil => exact ⟨db, rfl⟩
    | cons sd sds ih =>
        obtain ⟨next, step, past'⟩ : ∃ next, seedRole x perms db sd = .ok next ∧ IdsPast next :=
          seedRole_succeeds returns past sd
        obtain ⟨db', rest⟩ := ih past'
        refine ⟨db', ?_⟩
        rw [List.foldlM_cons, step]
        exact rest
  exact run seedRolesData db.livePermissions

theorem RolesUnique.live_iff (unique : RolesUnique db) {row : SysRole} (mem : row ∈ db.roles) :
    row.deleted = false ↔ row.code ∉ db.deletedRoleCodes := by
  constructor
  · intro live listed
    obtain ⟨r, memR, same⟩ := List.mem_map.1 listed
    obtain ⟨memR, deleted⟩ := List.mem_filter.1 memR
    rw [unique.eq_of_code memR mem same, live] at deleted
    exact Bool.false_ne_true deleted
  · intro unlisted
    by_contra deleted
    rw [Bool.not_eq_false] at deleted
    exact unlisted (List.mem_map.2 ⟨row, List.mem_filter.2 ⟨mem, deleted⟩, rfl⟩)

/-- After the seed each built-in role is there, enabled and bound, once each, to the codes that its
patterns grant, and the seed run again gives the same roles and bindings, exactly when none of the
built-in roles had been deleted: the upsert finds the row of a deleted role and leaves it so. -/
theorem seedRoles_expands_iff (x : SeedRun) (db db' : Database)
    (codes : (db.roles.map (·.code)).Nodup) (ids : (db.roles.map (·.id)).Nodup)
    (shaped : ∀ p ∈ db.livePermissions, p.Shaped) (ran : seedRoles x db = .ok db') :
    ((db'.roles.map (·.code)).Nodup ∧
      (∀ sd ∈ seedRolesData, ∃ row ∈ db'.roles, row.code = sd.code ∧
        row.deleted = false ∧ row.status = 1 ∧ (db'.boundCodes row.id).Nodup ∧
        ∀ code, code ∈ db'.boundCodes row.id ↔
          (∃ p ∈ db.livePermissions, p.code = code) ∧
            (⟨sd.perms.toFinset, [], false⟩ : PermissionTree).hasPerm code = true) ∧
      ∀ order : Ranging, ∃ db'', seedRoles ⟨order, x.returnsId⟩ db' = .ok db'' ∧
        db''.roles = db'.roles ∧ db''.rolePermissions.Perm db'.rolePermissions) ↔
    ∀ sd ∈ seedRolesData, sd.code ∉ db.deletedRoleCodes := by
  obtain ⟨unique, permissions, deleted, seeded, -⟩ :=
    seeded_of_run seedRolesData_distinct ⟨codes, ids⟩ ran
  constructor
  · rintro ⟨-, enabled, -⟩ sd mem
    obtain ⟨row, memRow, ofCode, live, -⟩ := enabled sd mem
    rw [← deleted, ← ofCode]
    exact (unique.live_iff memRow).1 live
  · intro spared
    have live : db'.livePermissions = db.livePermissions := by
      rw [Database.livePermissions, permissions]
      rfl
    refine ⟨unique.codes, fun sd mem => ?_, fun order => ?_⟩
    · obtain ⟨row, memRow, ofCode, -, status, -, bound⟩ := seeded sd mem
      have there : row.deleted = false := by
        rw [unique.live_iff memRow, deleted, ofCode]
        exact spared sd mem
      refine ⟨row, memRow, ofCode, there, status, ?_, fun code => ?_⟩
      · exact bound.nodup_iff.2 (Relational.nodup_eraseDups _)
      · rw [bound.mem_iff, mem_bindCodes_iff shaped (seedRolesData_modules sd mem)]
    · obtain ⟨db'', again, same⟩ := run_again (x := ⟨order, x.returnsId⟩) unique seeded
      refine ⟨db'', ?_, same.roles, same.bindings⟩
      rw [seedRoles, live]
      exact again

/-- Tables with the built-in permissions, a custom role that was deleted, and a built-in one that
was disabled and bound to a code too many. -/
def olderTables : Database where
  users := []
  roles := [⟨1, "auditor", 0, 1, true⟩, ⟨2, "platform-viewer", 1, 0, false⟩]
  permissions := seedPermissions
  rolePermissions := [⟨1, "audit:list"⟩, ⟨2, "cluster:delete"⟩]
  userRoles := []
  nextRoleId := 3
  nextUserRoleId := 1

def codesInOrder : Ranging := ⟨fun keys => keys, .refl⟩

theorem olderTables_shaped : ∀ p ∈ olderTables.livePermissions, p.Shaped := by
  have table : ∀ p ∈ olderTables.livePermissions, ':' ∉ p.module.toList ∧
      p.code = p.module ++ ":" ++ String.ofList (p.code.toList.drop (p.module.length + 1)) := by
    decide +kernel
  exact fun p mem => ⟨(table p mem).1, _, (table p mem).2⟩

theorem seedRoles_expands_older :
    ∃ db', seedRoles ⟨codesInOrder, true⟩ olderTables = .ok db' ∧
      ∃ row ∈ db'.roles, row.code = "platform-viewer" ∧ row.deleted = false ∧ row.status = 1 ∧
        "cluster:list" ∈ db'.boundCodes row.id ∧ "cluster:delete" ∉ db'.boundCodes row.id := by
  have past : IdsPast olderTables := ⟨by decide, by decide⟩
  obtain ⟨db', ran⟩ := seedRoles_succeeds (x := ⟨codesInOrder, true⟩) rfl past
  obtain ⟨-, bound, -⟩ := (seedRoles_expands_iff ⟨codesInOrder, true⟩ olderTables db' (by decide)
    (by decide) olderTables_shaped ran).2 (by decide)
  obtain ⟨row, mem, ofCode, live, status, -, codes⟩ := bound platformViewer (by decide)
  refine ⟨db', ran, row, mem, ofCode, live, status, (codes _).2 ?_, fun extra => ?_⟩
  · exact ⟨⟨⟨"cluster:list", "cluster", false⟩, by decide, rfl⟩, by decide⟩
  · exact absurd ((codes _).1 extra).2 (by decide)

/-- Tables in which a custom role was deleted whose code a built-in role has now. -/
def viewerDeletedTables : Database :=
  { olderTables with roles := [⟨2, "platform-viewer", 0, 1, true⟩] }

/-- The seed returns without an error, and nobody can see the viewer. -/
theorem deleted_viewer_stays_deleted :
    (viewerDeletedTables.permissions.map (·.code)).Nodup ∧
      (∀ p ∈ viewerDeletedTables.livePermissions, p.Shaped) ∧
      ∃ db', seedRoles ⟨codesInOrder, true⟩ viewerDeletedTables = .ok db' ∧
        ∀ row ∈ db'.roles, row.code = "platform-viewer" → row.deleted = true := by
  have past : IdsPast viewerDeletedTables := ⟨by decide, by decide⟩
  obtain ⟨db', ran⟩ := seedRoles_succeeds (x := ⟨codesInOrder, true⟩) rfl past
  refine ⟨by decide +kernel, olderTables_shaped, db', ran, fun row mem ofCode => ?_⟩
  obtain ⟨unique, -, deleted, -⟩ :=
    seeded_of_run seedRolesData_distinct ⟨by decide, by decide⟩ ran
  have listed : row.code ∈ db'.deletedRoleCodes := by
    rw [deleted, ofCode]
    decide
  by_contra live
  exact (unique.live_iff mem).1 (Bool.eq_false_of_not_eq_true live) listed

end K8sPlatform.Auth
