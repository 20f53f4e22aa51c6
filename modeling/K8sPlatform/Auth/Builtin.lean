import K8sPlatform.Lib.Transition
import K8sPlatform.Auth.RoleEffect
import K8sPlatform.Auth.Revocation

/-! # Whether the built-in roles stay in force -/

namespace K8sPlatform.Auth

/-- The primary key of the roles. -/
structure RolesKeyed (db : Database) : Prop where
  ids : (db.roles.map (·.id)).Nodup
  next : ∀ r ∈ db.roles, r.id < db.nextRoleId

/-- The built-in roles of the start are there, and each is in force: the loader joins the roles
whose status is 1. -/
structure BuiltinEffective (start db : Database) : Prop where
  present : ∀ r ∈ start.roles, r.builtin = 1 → ∃ r' ∈ db.roles, r'.id = r.id ∧ r'.builtin = 1
  enabled : ∀ r ∈ db.roles, r.builtin = 1 → r.deleted = false ∧ r.status = 1

/-- An update that the database takes gives no built-in role a status but 0, which is refused,
and 1. -/
def SparesBuiltin (db : Database) : Op → Prop
  | .updateRole idStr (.ok req) none =>
      ∀ id role status, Validation.parseUint64 idStr = some id → db.findRole id = some role →
        req.status = some status → role.builtin = 1 → status = 0 ∨ status = 1
  | _ => True

def roleRequest (db : Database) (op : Op) : Database := (handle db op).2

/-- The roles after a request, and what its handler checked. -/
inductive RolesAfter (db : Database) (op : Op) (db' : Database) : Prop
  | kept (spares : SparesBuiltin db op) (roles : db'.roles = db.roles)
      (next : db'.nextRoleId = db.nextRoleId)
  | status (id : Nat) (role : SysRole) (status : Int) (found : db.findRole id = some role)
      (guarded : ¬(role.builtin = 1 ∧ status = 0))
      (spares : SparesBuiltin db op ↔ (role.builtin = 1 → status = 0 ∨ status = 1))
      (after : db' = db.setRoleStatus id status)
  | created (code : String) (spares : SparesBuiltin db op)
      (roles : db'.roles = db.roles ++ [⟨db.nextRoleId, code, 0, 1, false⟩])
      (next : db'.nextRoleId = db.nextRoleId + 1)
  | deleted (id : Nat) (role : SysRole) (found : db.findRole id = some role)
      (guarded : role.builtin ≠ 1) (spares : SparesBuiltin db op) (after : db' = db.removeRole id)

variable {db : Database}

theorem bindUserRole_rolesAfter (db : Database) (idStr : String) (body : Body UserRoleReq)
    (fault : Option String) :
    RolesAfter db (.bindUserRole idStr body fault) (bindUserRole db idStr body fault).2 := by
  unfold bindUserRole
  repeat' split
  all_goals exact .kept trivial rfl rfl

theorem unbindUserRole_rolesAfter (db : Database) (idStr : String) (body : Body UserRoleReq)
    (fault : Option String) :
    RolesAfter db (.unbindUserRole idStr body fault) (unbindUserRole db idStr body fault).2 := by
  unfold unbindUserRole
  repeat' split
  all_goals exact .kept trivial rfl rfl

theorem setRolePermissions_rolesAfter (db : Database) (idStr : String)
    (body : Body (List String)) (fault : Option String) :
    RolesAfter db (.setRolePermissions idStr body fault)
      (setRolePermissions db idStr body fault).2 := by
  unfold setRolePermissions
  dsimp only
  repeat' split
  all_goals exact .kept trivial rfl rfl

theorem createRole_rolesAfter (db : Database) (body : Body CreateRoleReq)
    (fault : Option String) :
    RolesAfter db (.createRole body fault) (createRole db body fault).2 := by
  unfold createRole
  split
  · exact .kept trivial rfl rfl
  split
  · exact .kept trivial rfl rfl
  split_ifs
  · exact .kept trivial rfl rfl
  · split <;> exact .kept trivial rfl rfl
  split
  · exact .kept trivial rfl rfl
  split
  · exact .kept trivial rfl rfl
  · exact .created _ trivial rfl rfl

theorem sparesBuiltin_updateRole {idStr : String} {id : Nat} {role : SysRole}
    (parsed : Validation.parseUint64 idStr = some id) (found : db.findRole id = some role)
    (req : UpdateRoleReq) :
    SparesBuiltin db (.updateRole idStr (.ok req) none) ↔
      ∀ status, req.status = some status → role.builtin = 1 → status = 0 ∨ status = 1 := by
  constructor
  · intro spares status
    exact spares id role status parsed found
  · intro spares id' role' status parsed' found'
    obtain rfl : id = id' := Option.some.inj (parsed.symm.trans parsed')
    obtain rfl : role = role' := Option.some.inj (found.symm.trans found')
    exact spares status

theorem updateRole_rolesAfter (db : Database) (idStr : String) (body : Body UpdateRoleReq)
    (fault : Option String) :
    RolesAfter db (.updateRole idStr body fault) (updateRole db idStr body fault).2 := by
  unfold updateRole
  cases body with
  | error err => split <;> exact .kept trivial rfl rfl
  | ok req =>
  cases fault with
  | some err =>
      dsimp only
      repeat' split
      all_goals exact .kept trivial rfl rfl
  | none =>
  cases parsed : Validation.parseUint64 idStr with
  | none =>
      refine .kept ?_ rfl rfl
      intro id role status known
      simp [parsed] at known
  | some id =>
  dsimp only
  cases found : db.findRole id with
  | none =>
      refine .kept ?_ rfl rfl
      intro id' role status known found'
      obtain rfl : id = id' := Option.some.inj (parsed.symm.trans known)
      simp [found] at found'
  | some role =>
  dsimp only
  have spares := sparesBuiltin_updateRole parsed found req
  by_cases guarded : role.builtin = 1 ∧ req.status = some 0
  · rw [if_pos guarded]
    refine .kept (spares.2 fun status asked _ => .inl ?_) rfl rfl
    exact Option.some.inj (asked.symm.trans guarded.2)
  rw [if_neg guarded]
  cases asked : req.status with
  | none =>
      have kept : SparesBuiltin db (.updateRole idStr (.ok req) none) :=
        spares.2 fun status given => by simp [asked] at given
      split_ifs <;> exact .kept kept rfl rfl
  | some status =>
      rw [if_neg (by simp)]
      refine .status id role status found (by simpa [asked] using guarded) ?_ rfl
      simp [spares, asked]

theorem deleteRole_rolesAfter (db : Database) (idStr : String) (fault : Option String) :
    RolesAfter db (.deleteRole idStr fault) (deleteRole db idStr fault).2 := by
  unfold deleteRole
  cases Validation.parseUint64 idStr with
  | none => exact .kept trivial rfl rfl
  | some id =>
  dsimp only
  cases found : db.findRole id with
  | none => exact .kept trivial rfl rfl
  | some role =>
  dsimp only
  by_cases builtin : role.builtin = 1
  · rw [if_pos builtin]
    exact .kept trivial rfl rfl
  rw [if_neg builtin]
  cases fault with
  | some err => exact .kept trivial rfl rfl
  | none => exact .deleted id role found builtin trivial rfl

theorem roleRequest_rolesAfter (db : Database) (op : Op) :
    RolesAfter db op (roleRequest db op) := by
  cases op with
  | bindUserRole id body fault => exact bindUserRole_rolesAfter db id body fault
  | unbindUserRole id body fault => exact unbindUserRole_rolesAfter db id body fault
  | setRolePermissions id body fault => exact setRolePermissions_rolesAfter db id body fault
  | updateRole id body fault => exact updateRole_rolesAfter db id body fault
  | createRole body fault => exact createRole_rolesAfter db body fault
  | deleteRole id fault => exact deleteRole_rolesAfter db id fault

/-! ## One request -/

/-- A request that rewrites the rows of one role keeps the primary key. -/
theorem RolesKeyed.map (keyed : RolesKeyed db) {db' : Database} {f : SysRole → SysRole}
    (roles : db'.roles = db.roles.map f) (next : db'.nextRoleId = db.nextRoleId)
    (id : ∀ r, (f r).id = r.id) : RolesKeyed db' := by
  constructor
  · rw [roles, List.map_map, show (·.id) ∘ f = (·.id) from funext id]
    exact keyed.ids
  · intro r mem
    rw [roles] at mem
    obtain ⟨r', mem', rfl⟩ := List.mem_map.1 mem
    rw [id, next]
    exact keyed.next r' mem'

theorem RolesKeyed.step (keyed : RolesKeyed db) {op : Op} {db' : Database}
    (after : RolesAfter db op db') : RolesKeyed db' := by
  cases after with
  | kept spares roles next => exact ⟨roles ▸ keyed.ids, roles ▸ next ▸ keyed.next⟩
  | status id role status found guarded spares after =>
      subst after
      exact keyed.map rfl rfl fun r => by split_ifs <;> rfl
  | created code spares roles next =>
      constructor
      · rw [roles, List.map_append, List.map_singleton]
        apply List.Nodup.append keyed.ids (List.nodup_singleton _)
        intro id mem same
        obtain ⟨r, mem', rfl⟩ := List.mem_map.1 mem
        exact absurd (List.mem_singleton.1 same) (keyed.next r mem').ne
      · intro r mem
        rw [roles] at mem
        rw [next]
        rcases List.mem_append.1 mem with old | new
        · exact Nat.lt_succ_of_lt (keyed.next r old)
        · rw [List.mem_singleton.1 new]
          exact Nat.lt_succ_self _
  | deleted id role found guarded spares after =>
      subst after
      exact keyed.map rfl rfl fun r => by split_ifs <;> rfl

/-- A request that leaves the flag of every role alone keeps every built-in role. -/
theorem BuiltinEffective.present_map {start : Database} (effective : BuiltinEffective start db)
    {f : SysRole → SysRole} (kept : ∀ r, (f r).id = r.id ∧ (f r).builtin = r.builtin) :
    ∀ r ∈ start.roles, r.builtin = 1 →
      ∃ r' ∈ db.roles.map f, r'.id = r.id ∧ r'.builtin = 1 := by
  intro r mem builtin
  obtain ⟨r', mem', id, builtin'⟩ := effective.present r mem builtin
  exact ⟨f r', List.mem_map_of_mem mem', (kept r').1.trans id, (kept r').2.trans builtin'⟩

/-- A request keeps the built-in roles in force exactly when it spares them. -/
theorem BuiltinEffective.step_iff {start : Database} (keyed : RolesKeyed db)
    (effective : BuiltinEffective start db) {op : Op} {db' : Database}
    (after : RolesAfter db op db') : BuiltinEffective start db' ↔ SparesBuiltin db op := by
  cases after with
  | kept spares roles next =>
      refine iff_of_true ⟨?_, ?_⟩ spares
      · rw [roles]
        exact effective.present
      · rw [roles]
        exact effective.enabled
  | created code spares roles next =>
      refine iff_of_true ⟨?_, ?_⟩ spares
      · intro r mem builtin
        obtain ⟨r', mem', same⟩ := effective.present r mem builtin
        exact ⟨r', roles ▸ List.mem_append_left _ mem', same⟩
      · intro r mem builtin
        rw [roles] at mem
        rcases List.mem_append.1 mem with old | new
        · exact effective.enabled r old builtin
        · rw [List.mem_singleton.1 new] at builtin
          cases builtin
  | deleted id role found guarded spares after =>
      subst after
      refine iff_of_true ⟨effective.present_map fun r => ?_, ?_⟩ spares
      · split_ifs <;> exact ⟨rfl, rfl⟩
      · intro r mem builtin
        obtain ⟨r', mem', rfl⟩ := List.mem_map.1 mem
        by_cases hit : (r'.id == id && !r'.deleted) = true
        · simp only [Bool.and_eq_true, beq_iff_eq, Bool.not_eq_true'] at hit
          have same := (findRole_eq_some keyed.ids).2 ⟨mem', hit⟩
          obtain rfl : role = r' := Option.some.inj (found.symm.trans same)
          rw [if_pos (by simp [hit])] at builtin
          exact absurd builtin guarded
        · rw [if_neg hit] at builtin ⊢
          exact effective.enabled r' mem' builtin
  | status id role status found guarded spares after =>
      subst after
      obtain ⟨mem, named, live⟩ := (findRole_eq_some keyed.ids).1 found
      rw [spares]
      constructor
      · intro stays builtin
        have changed : { role with status := status } ∈ (db.setRoleStatus id status).roles :=
          List.mem_map.2 ⟨role, mem, if_pos (by simp [named, live])⟩
        exact .inr (stays.enabled _ changed builtin).2
      · intro spares
        refine ⟨effective.present_map fun r => ?_, ?_⟩
        · split_ifs <;> exact ⟨rfl, rfl⟩
        · intro r mem builtin
          obtain ⟨r', mem', rfl⟩ := List.mem_map.1 mem
          by_cases hit : (r'.id == id && !r'.deleted) = true
          · rw [if_pos hit] at builtin ⊢
            simp only [Bool.and_eq_true, beq_iff_eq, Bool.not_eq_true'] at hit
            have same := (findRole_eq_some keyed.ids).2 ⟨mem', hit⟩
            obtain rfl : role = r' := Option.some.inj (found.symm.trans same)
            rcases spares builtin with zero | one
            · exact absurd ⟨builtin, zero⟩ guarded
            · exact ⟨live, one⟩
          · rw [if_neg hit] at builtin ⊢
            exact effective.enabled r' mem' builtin

/-- In every state of a run the built-in roles of the start are there and in force, exactly when
every request spares them. -/
theorem builtin_effective_iff (start : Database) (keyed : RolesKeyed start)
    (effective : BuiltinEffective start start) (ops : List Op) :
    (∀ n, BuiltinEffective start (Transition.exec roleRequest start (ops.take n))) ↔
      Transition.Along SparesBuiltin roleRequest start ops := by
  apply Transition.always_iff_along (I := RolesKeyed)
  · intro db op keyed
    exact keyed.step (roleRequest_rolesAfter db op)
  · intro db op keyed effective
    exact effective.step_iff keyed (roleRequest_rolesAfter db op)
  · exact keyed
  · exact effective

theorem seed_rolesKeyed : RolesKeyed (seedDatabase "") := ⟨by decide, by decide⟩

theorem seed_builtinEffective : BuiltinEffective (seedDatabase "") (seedDatabase "") :=
  ⟨fun r mem builtin => ⟨r, mem, rfl, builtin⟩, by decide⟩

/-- A new name for `platform-admin`, and an attempt to disable it. -/
def adminRequests : List Op :=
  [.updateRole "1" (.ok ⟨some "root", none, none⟩) none,
   .updateRole "1" (.ok ⟨none, none, some 0⟩) none]

theorem admin_effective : BuiltinEffective (seedDatabase "")
    (Transition.exec roleRequest (seedDatabase "") adminRequests) := by
  have spares : Transition.Along SparesBuiltin roleRequest (seedDatabase "") adminRequests := by
    refine ⟨?_, ?_, trivial⟩
    · intro id role status _ _ asked
      cases asked
    · intro id role status _ _ asked _
      exact .inl (Option.some.inj asked).symm
  exact (builtin_effective_iff _ seed_rolesKeyed seed_builtinEffective _).2 spares 2

/-- Status 2 is not 0 and not in force: `platform-admin` gives nobody anything any more. -/
theorem admin_locked :
    BuiltinEffective (seedDatabase "") (seedDatabase "") ∧
      ¬BuiltinEffective (seedDatabase "")
        (roleRequest (seedDatabase "") (.updateRole "1" (.ok ⟨none, none, some 2⟩) none)) ∧
      selectPermRows (seedDatabase "") 1 ≠ [] ∧
      selectPermRows (roleRequest (seedDatabase "")
        (.updateRole "1" (.ok ⟨none, none, some 2⟩) none)) 1 = [] := by
  refine ⟨seed_builtinEffective, fun effective => ?_, by decide +kernel, by decide +kernel⟩
  have locked := effective.enabled ⟨1, "platform-admin", 1, 2, false⟩ (by decide +kernel) rfl
  exact absurd locked.2 (by decide)

end K8sPlatform.Auth
