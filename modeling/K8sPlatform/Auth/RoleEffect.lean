import K8sPlatform.Auth.RoleAdmin

/-! # What a role-administration request changes -/

namespace K8sPlatform.Auth

/-- What a successful request means for the grants. -/
inductive Change
  | none
  | bind (userId : Nat) (req : UserRoleReq)
  | unbind (userId : Nat) (req : UserRoleReq)
  | setCodes (roleId : Nat) (codes : List String)
  | setStatus (roleId : Nat) (status : Int)
  | create (roleId : Nat) (codes : List String)
  | delete (roleId : Nat)

def pathId (idStr : String) : Nat := (Validation.parseUint64 idStr).getD 0

/-- The change that a request asks for. -/
def Op.requested (db : Database) : Op → Change
  | .bindUserRole idStr (.ok req) _ => .bind (pathId idStr) req
  | .unbindUserRole idStr (.ok req) _ => .unbind (pathId idStr) req
  | .setRolePermissions idStr (.ok perms) _ => .setCodes (pathId idStr) (db.validPerms perms)
  | .updateRole idStr (.ok ⟨_, _, some status⟩) _ => .setStatus (pathId idStr) status
  | .createRole (.ok req) _ => .create db.nextRoleId (db.validPerms req.perms)
  | .deleteRole idStr _ => .delete (pathId idStr)
  | _ => .none

/-- The change that a request makes: the one it asks for, if it is answered with success. -/
def changeOf (db : Database) (op : Op) : Change :=
  match (handle db op).1 with
  | .ok _ => op.requested db
  | .error _ => .none

/-- The tables after a change, and what the handler checked before it. -/
inductive Effect (db : Database) : Change → Database → Prop
  | none : Effect db .none db
  | bind (userId : Nat) (req : UserRoleReq) (role : (db.findRole req.roleId).isSome) :
      Effect db (.bind userId req)
        { db with
          userRoles := db.userRoles ++ [⟨db.nextUserRoleId, userId, req.roleId,
            req.scopeType, req.clusterCode, req.ns, false⟩]
          nextUserRoleId := db.nextUserRoleId + 1 }
  | unbind (userId : Nat) (req : UserRoleReq) :
      Effect db (.unbind userId req)
        { db with userRoles := softDeleteUserRoles (unbindMatches userId req) db.userRoles }
  | setCodes (roleId : Nat) (codes : List String)
      (known : ∀ c ∈ codes, ∃ p ∈ db.permissions, p.code = c) :
      Effect db (.setCodes roleId codes)
        { db with
          rolePermissions := db.rolePermissions.filter (·.roleId != roleId) ++
            codes.map fun code => ⟨roleId, code⟩ }
  | setStatus (roleId : Nat) (status : Int) (role : (db.findRole roleId).isSome) :
      Effect db (.setStatus roleId status) (db.setRoleStatus roleId status)
  | create (code : String) (codes : List String)
      (known : ∀ c ∈ codes, ∃ p ∈ db.permissions, p.code = c) :
      Effect db (.create db.nextRoleId codes)
        { db with
          roles := db.roles ++ [⟨db.nextRoleId, code, 0, 1, false⟩]
          rolePermissions := db.rolePermissions ++ codes.map fun c => ⟨db.nextRoleId, c⟩
          nextRoleId := db.nextRoleId + 1 }
  | delete (roleId : Nat) (role : (db.findRole roleId).isSome) :
      Effect db (.delete roleId) (db.removeRole roleId)

theorem insertRolePermissions_eq {rows binds rows' : List SysRolePermission}
    (h : insertRolePermissions rows binds = some rows') : rows' = rows ++ binds := by
  induction binds generalizing rows with
  | nil => simpa [insertRolePermissions, eq_comm] using h
  | cons bind binds ih =>
      simp only [insertRolePermissions] at h
      split at h
      · cases h
      · simpa using ih h

theorem validPerms_known (db : Database) (perms : List String) :
    ∀ c ∈ db.validPerms perms, ∃ p ∈ db.permissions, p.code = c := by
  intro c mem
  obtain ⟨p, mp, eq⟩ := List.mem_map.1 mem
  exact ⟨p, (List.mem_filter.1 mp).1, eq⟩

/-- The request is answered with an error and the tables stay as they are. -/
def Refused (db : Database) (out : Outcome) : Prop := ∃ err, out = (.error err, db)

/-- A request is refused, or succeeds with the effect of the change it asks for. -/
def Handled (db : Database) (op : Op) : Prop :=
  Refused db (handle db op) ∨
    ∃ reply db', handle db op = (.ok reply, db') ∧ Effect db (op.requested db) db'

theorem bindUserRole_handled (db : Database) (idStr : String) (body : Body UserRoleReq)
    (fault : Option String) : Handled db (.bindUserRole idStr body fault) := by
  simp only [Handled, handle, bindUserRole]
  split
  · exact .inl ⟨_, rfl⟩
  rename_i id parsed
  split
  · exact .inl ⟨_, rfl⟩
  rename_i req
  split
  · exact .inl ⟨_, rfl⟩
  split_ifs with _ _ _ role
  · exact .inl ⟨_, rfl⟩
  · exact .inl ⟨_, rfl⟩
  · exact .inl ⟨_, rfl⟩
  · exact .inl ⟨_, rfl⟩
  · split <;> exact .inl ⟨_, rfl⟩
  split
  · exact .inl ⟨_, rfl⟩
  · refine .inr ⟨_, _, rfl, ?_⟩
    simp only [Op.requested, pathId, parsed, Option.getD_some]
    exact .bind id req (by simpa [Option.isSome_iff_ne_none] using role)

theorem unbindUserRole_handled (db : Database) (idStr : String) (body : Body UserRoleReq)
    (fault : Option String) : Handled db (.unbindUserRole idStr body fault) := by
  simp only [Handled, handle, unbindUserRole]
  split
  · exact .inl ⟨_, rfl⟩
  rename_i id parsed
  split
  · exact .inl ⟨_, rfl⟩
  rename_i req
  split
  · exact .inl ⟨_, rfl⟩
  split
  · exact .inl ⟨_, rfl⟩
  · refine .inr ⟨_, _, rfl, ?_⟩
    simp only [Op.requested, pathId, parsed, Option.getD_some]
    exact .unbind id req

theorem setRolePermissions_handled (db : Database) (idStr : String) (body : Body (List String))
    (fault : Option String) : Handled db (.setRolePermissions idStr body fault) := by
  simp only [Handled, handle, setRolePermissions]
  split
  · exact .inl ⟨_, rfl⟩
  rename_i id parsed
  split
  · exact .inl ⟨_, rfl⟩
  rename_i perms
  split
  · exact .inl ⟨_, rfl⟩
  split
  · exact .inl ⟨_, rfl⟩
  · rename_i rows inserted
    refine .inr ⟨_, _, rfl, ?_⟩
    simp only [Op.requested, pathId, parsed, Option.getD_some]
    rw [insertRolePermissions_eq inserted]
    exact .setCodes id _ (validPerms_known db perms)

theorem createRole_handled (db : Database) (body : Body CreateRoleReq)
    (fault : Option String) : Handled db (.createRole body fault) := by
  simp only [Handled, handle, createRole]
  split
  · exact .inl ⟨_, rfl⟩
  rename_i req
  split
  · exact .inl ⟨_, rfl⟩
  split_ifs
  · exact .inl ⟨_, rfl⟩
  · split <;> exact .inl ⟨_, rfl⟩
  split
  · exact .inl ⟨_, rfl⟩
  split
  · exact .inl ⟨_, rfl⟩
  · rename_i rows inserted
    refine .inr ⟨_, _, rfl, ?_⟩
    simp only [Op.requested]
    rw [insertRolePermissions_eq inserted]
    exact .create req.code _ (validPerms_known db req.perms)

theorem updateRole_handled (db : Database) (idStr : String) (body : Body UpdateRoleReq)
    (fault : Option String) : Handled db (.updateRole idStr body fault) := by
  simp only [Handled, handle, updateRole]
  split
  · exact .inl ⟨_, rfl⟩
  rename_i id parsed
  split
  · exact .inl ⟨_, rfl⟩
  rename_i req
  split
  · exact .inl ⟨_, rfl⟩
  rename_i role found
  have requested : Op.requested db (.updateRole idStr (.ok req) fault) =
      req.status.elim .none (.setStatus id) := by
    obtain ⟨name, description, status⟩ := req
    cases status <;> simp [Op.requested, pathId, parsed]
  split_ifs with _ noUpdates
  · exact .inl ⟨_, rfl⟩
  · refine .inr ⟨_, _, rfl, ?_⟩
    rw [requested, show req.status = none by simp_all]
    exact .none
  split
  · exact .inl ⟨_, rfl⟩
  · refine .inr ⟨_, _, rfl, ?_⟩
    rw [requested]
    cases req.status with
    | none => exact .none
    | some status => exact .setStatus id status (by simp [found])

theorem deleteRole_handled (db : Database) (idStr : String) (fault : Option String) :
    Handled db (.deleteRole idStr fault) := by
  simp only [Handled, handle, deleteRole]
  split
  · exact .inl ⟨_, rfl⟩
  rename_i id parsed
  split
  · exact .inl ⟨_, rfl⟩
  rename_i role found
  split_ifs
  · exact .inl ⟨_, rfl⟩
  split
  · exact .inl ⟨_, rfl⟩
  · refine .inr ⟨_, _, rfl, ?_⟩
    simp only [Op.requested, pathId, parsed, Option.getD_some]
    exact .delete id (by simp [found])

theorem handle_handled (db : Database) (op : Op) : Handled db op := by
  cases op with
  | bindUserRole id body fault => exact bindUserRole_handled db id body fault
  | unbindUserRole id body fault => exact unbindUserRole_handled db id body fault
  | setRolePermissions id body fault => exact setRolePermissions_handled db id body fault
  | updateRole id body fault => exact updateRole_handled db id body fault
  | createRole body fault => exact createRole_handled db body fault
  | deleteRole id fault => exact deleteRole_handled db id fault

theorem handle_effect (db : Database) (op : Op) :
    Effect db (changeOf db op) (handle db op).2 := by
  obtain ⟨err, refused⟩ | ⟨reply, db', done, effect⟩ := handle_handled db op
  · simpa [changeOf, refused] using .none
  · simpa [changeOf, done] using effect

/-- What `BindUserRole` asks of a scope. -/
def Scope.Accepted (sc : Scope) : Prop :=
  (sc.scopeType = scopeCluster → sc.clusterCode ≠ "") ∧
    (sc.scopeType = scopeNamespace → sc.clusterCode ≠ "" ∧ sc.ns ≠ "")

def Database.BindingsAccepted (db : Database) : Prop := ∀ ur ∈ db.userRoles, ur.scope.Accepted

theorem softDeleteUserRoles_accepted {matching : SysUserRole → Bool} {rows : List SysUserRole}
    (accepted : ∀ ur ∈ rows, ur.scope.Accepted) :
    ∀ ur ∈ softDeleteUserRoles matching rows, ur.scope.Accepted := by
  intro ur mem
  obtain ⟨old, memOld, rfl⟩ := List.mem_map.1 mem
  have same : (markDeleted matching old).scope = old.scope := by
    unfold markDeleted
    split <;> rfl
  rw [same]
  exact accepted old memOld

theorem bindUserRole_accepted {db : Database} (accepted : db.BindingsAccepted) (idStr : String)
    (body : Body UserRoleReq) (fault : Option String) :
    (bindUserRole db idStr body fault).2.BindingsAccepted := by
  unfold bindUserRole
  split
  · exact accepted
  split
  · exact accepted
  rename_i req
  split
  · exact accepted
  by_cases cluster : req.scopeType = scopeCluster ∧ req.clusterCode = ""
  · rw [if_pos cluster]
    exact accepted
  by_cases ns : req.scopeType = scopeNamespace ∧ (req.clusterCode = "" ∨ req.ns = "")
  · rw [if_neg cluster, if_pos ns]
    exact accepted
  rw [if_neg cluster, if_neg ns]
  split
  · exact accepted
  split
  · exact accepted
  cases fault with
  | some err => exact accepted
  | none =>
      dsimp only
      split
      · exact accepted
      · intro ur mem
        obtain old | new := List.mem_append.1 mem
        · exact accepted ur old
        · rw [List.mem_singleton.1 new]
          refine ⟨fun type unnamed => cluster ⟨type, unnamed⟩, fun type => ?_⟩
          exact ⟨fun unnamed => ns ⟨type, .inl unnamed⟩, fun unnamed => ns ⟨type, .inr unnamed⟩⟩

theorem Effect.accepted {db db' : Database} {c : Change} (effect : Effect db c db')
    (notBind : ∀ userId req, c ≠ .bind userId req) (accepted : db.BindingsAccepted) :
    db'.BindingsAccepted := by
  cases effect with
  | none => exact accepted
  | bind userId req role => exact absurd rfl (notBind userId req)
  | unbind => exact softDeleteUserRoles_accepted accepted
  | setCodes => exact accepted
  | setStatus => exact accepted
  | create => exact accepted
  | delete => exact softDeleteUserRoles_accepted accepted

/-- Only a request to bind binds. -/
theorem changeOf_ne_bind {db : Database} {op : Op}
    (other : ∀ idStr body fault, op ≠ .bindUserRole idStr body fault) (userId : Nat)
    (req : UserRoleReq) : changeOf db op ≠ .bind userId req := by
  unfold changeOf
  split
  · unfold Op.requested
    split
    · exact absurd rfl (other _ _ _)
    all_goals exact Change.noConfusion
  · exact Change.noConfusion

/-- Every request keeps the bindings to what can be bound. -/
theorem handle_accepted {db : Database} (accepted : db.BindingsAccepted) (op : Op) :
    (handle db op).2.BindingsAccepted := by
  cases op with
  | bindUserRole idStr body fault => exact bindUserRole_accepted accepted idStr body fault
  | unbindUserRole | setRolePermissions | updateRole | createRole | deleteRole =>
      exact (handle_effect db _).accepted (changeOf_ne_bind fun _ _ _ => Op.noConfusion) accepted

/-- So do requests one after the other. -/
theorem requests_accepted {db : Database} (accepted : db.BindingsAccepted) (ops : List Op) :
    (ops.foldl (fun db op => (handle db op).2) db).BindingsAccepted := by
  induction ops generalizing db with
  | nil => exact accepted
  | cons op ops ih => exact ih (handle_accepted accepted op)

end K8sPlatform.Auth
