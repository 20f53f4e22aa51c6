import K8sPlatform.Lib.Validation
import K8sPlatform.Auth.Tables

namespace K8sPlatform.Auth

open Errcode

/-- A decoded request body, or the decoder's error. -/
abbrev Body (α : Type) := Except String α

/-- The body of `BindUserRole` and of `UnbindUserRole`. -/
structure UserRoleReq where
  roleId : Nat
  scopeType : ScopeType
  clusterCode : String
  ns : String
  deriving DecidableEq, Repr

structure CreateRoleReq where
  code : String
  name : String
  perms : List String
  deriving DecidableEq, Repr

structure UpdateRoleReq where
  name : Option String
  description : Option String
  status : Option Int
  deriving DecidableEq, Repr

inductive Reply
  | bound (id : Nat)
  | unbound (deleted : Nat)
  | role (id : Nat)
  | created (code : String)
  | permsSet (id permCount : Nat)
  deriving DecidableEq, Repr

abbrev Outcome := Except Error Reply × Database

def invalidUserId : Error := .new .invalidArgument "无效的用户 ID"
def invalidRoleId : Error := .new .invalidArgument "无效的角色 ID"
def userNotFound : Error := .new .notFound "用户不存在"
def roleNotFound : Error := .new .notFound "角色不存在"

def UserRoleReq.scope (req : UserRoleReq) : Scope := ⟨req.scopeType, req.clusterCode, req.ns⟩

def UserRoleReq.validate (struct_ : String) (req : UserRoleReq) : Option String :=
  Validation.check struct_
    [⟨"RoleID", [("required", req.roleId != 0)]⟩,
     ⟨"ScopeType", [("required", req.scopeType != "")]⟩]

/-- The unique index `uk_user_role_scope`, which soft-deleted rows still occupy. -/
def Database.scopeTaken (db : Database) (userId : Nat) (req : UserRoleReq) : Bool :=
  db.userRoles.any fun ur => ur.userId == userId && ur.roleId == req.roleId && ur.scope == req.scope

/-- The codes fit the columns of `sys_user_role`. -/
def UserRoleReq.fits (req : UserRoleReq) : Bool :=
  req.scopeType.length ≤ 32 && req.clusterCode.length ≤ 64 && req.ns.length ≤ 64

/-- `fault` is the error of a write that the database refuses, here and below. -/
def bindUserRole (db : Database) (idStr : String) (body : Body UserRoleReq)
    (fault : Option String) : Outcome :=
  match Validation.parseUint64 idStr with
  | none => (.error invalidUserId, db)
  | some id =>
    match body with
    | .error err => (.error (.new .invalidArgument err), db)
    | .ok req =>
      match req.validate "bindUserRoleReq" with
      | some err => (.error (.new .invalidArgument err), db)
      | none =>
        if req.scopeType = scopeCluster ∧ req.clusterCode = "" then
          (.error (.new .invalidArgument "集群范围必须指定 cluster_code"), db)
        else if req.scopeType = scopeNamespace ∧ (req.clusterCode = "" ∨ req.ns = "") then
          (.error (.new .invalidArgument "命名空间范围必须指定 cluster_code 和 namespace"), db)
        else if (db.findUser id).isNone then (.error userNotFound, db)
        else if (db.findRole req.roleId).isNone then (.error roleNotFound, db)
        else
          match fault with
          | some err => (.error (.wrapMsg .databaseError err "绑定关系已存在或创建失败"), db)
          | none =>
            if db.scopeTaken id req || !req.fits then
              (.error (.wrapMsg .databaseError "insert" "绑定关系已存在或创建失败"), db)
            else
              (.ok (.bound db.nextUserRoleId),
                { db with
                  userRoles := db.userRoles ++ [⟨db.nextUserRoleId, id, req.roleId,
                    req.scopeType, req.clusterCode, req.ns, false⟩]
                  nextUserRoleId := db.nextUserRoleId + 1 })

/-- The condition of the delete: the cluster and namespace count by scope type. -/
def unbindMatches (id : Nat) (req : UserRoleReq) (ur : SysUserRole) : Bool :=
  ur.userId == id && ur.roleId == req.roleId && ur.scopeType == req.scopeType &&
    (if req.scopeType = scopeCluster then ur.scopeClusterCode == req.clusterCode
     else if req.scopeType = scopeNamespace then
       ur.scopeClusterCode == req.clusterCode && ur.scopeNamespace == req.ns
     else true)

def markDeleted (matching : SysUserRole → Bool) (ur : SysUserRole) : SysUserRole :=
  if matching ur && !ur.deleted then { ur with deleted := true } else ur

/-- gorm's `Delete` on a model with `DeletedAt`: live rows that match are marked. -/
def softDeleteUserRoles (matching : SysUserRole → Bool) (rows : List SysUserRole) :
    List SysUserRole :=
  rows.map (markDeleted matching)

def unbindUserRole (db : Database) (idStr : String) (body : Body UserRoleReq)
    (fault : Option String) : Outcome :=
  match Validation.parseUint64 idStr with
  | none => (.error invalidUserId, db)
  | some id =>
    match body with
    | .error err => (.error (.new .invalidArgument err), db)
    | .ok req =>
      match req.validate "unbindUserRoleReq" with
      | some err => (.error (.new .invalidArgument err), db)
      | none =>
        match fault with
        | some err => (.error (.wrap .databaseError err), db)
        | none =>
          (.ok (.unbound (db.userRoles.countP fun ur => unbindMatches id req ur && !ur.deleted)),
            { db with userRoles := softDeleteUserRoles (unbindMatches id req) db.userRoles })

/-- The requested codes that exist, as `Pluck` returns them. -/
def Database.validPerms (db : Database) (perms : List String) : List String :=
  (db.permissions.filter fun p => decide (p.code ∈ perms) && !p.deleted).map (·.code)

/-- Inserts under the unique index `uk_role_perm`. -/
def insertRolePermissions (rows : List SysRolePermission) :
    List SysRolePermission → Option (List SysRolePermission)
  | [] => some rows
  | bind :: binds =>
      if bind ∈ rows then none else insertRolePermissions (rows ++ [bind]) binds

def setRolePermissions (db : Database) (idStr : String) (body : Body (List String))
    (fault : Option String) : Outcome :=
  match Validation.parseUint64 idStr with
  | none => (.error invalidRoleId, db)
  | some id =>
    match body with
    | .error err => (.error (.new .invalidArgument err), db)
    | .ok perms =>
      match fault with
      | some err => (.error (.wrap .databaseError err), db)
      | none =>
        let kept := db.rolePermissions.filter (·.roleId != id)
        match insertRolePermissions kept ((db.validPerms perms).map fun code => ⟨id, code⟩) with
        | none => (.error (.wrap .databaseError "insert"), db)
        | some rows =>
            (.ok (.permsSet id perms.length), { db with rolePermissions := rows })

def CreateRoleReq.validate (req : CreateRoleReq) : Option String :=
  Validation.check "createRoleReq"
    [⟨"Code", [("required", req.code != ""), ("min", 2 ≤ req.code.length),
      ("max", req.code.length ≤ 64)]⟩,
     ⟨"Name", [("required", req.name != ""), ("min", 1 ≤ req.name.length),
      ("max", req.name.length ≤ 128)]⟩]

def createRole (db : Database) (body : Body CreateRoleReq) (fault : Option String) : Outcome :=
  match body with
  | .error err => (.error (.new .invalidArgument err), db)
  | .ok req =>
    match req.validate with
    | some err => (.error (.new .invalidArgument err), db)
    | none =>
      if db.roles.any fun r => r.code == req.code && !r.deleted then
        (.error (.new .alreadyExists "角色 code 已存在"), db)
      else
        match fault with
        | some err => (.error (.wrap .databaseError err), db)
        | none =>
          -- the unique index on `code` also counts soft-deleted roles
          if db.roles.any (·.code == req.code) then (.error (.wrap .databaseError "insert"), db)
          else
            match insertRolePermissions db.rolePermissions
              ((db.validPerms req.perms).map fun code => ⟨db.nextRoleId, code⟩) with
            | none => (.error (.wrap .databaseError "insert"), db)
            | some rows =>
                (.ok (.created req.code),
                  { db with
                    roles := db.roles ++ [⟨db.nextRoleId, req.code, 0, 1, false⟩]
                    rolePermissions := rows
                    nextRoleId := db.nextRoleId + 1 })

/-- gorm's `Updates` on a found role. -/
def Database.setRoleStatus (db : Database) (id : Nat) (status : Int) : Database :=
  { db with
    roles := db.roles.map fun r =>
      if r.id == id && !r.deleted then { r with status := status } else r }

def updateRole (db : Database) (idStr : String) (body : Body UpdateRoleReq)
    (fault : Option String) : Outcome :=
  match Validation.parseUint64 idStr with
  | none => (.error invalidRoleId, db)
  | some id =>
    match body with
    | .error err => (.error (.new .invalidArgument err), db)
    | .ok req =>
      match db.findRole id with
      | none => (.error roleNotFound, db)
      | some role =>
        if role.builtin = 1 ∧ req.status = some 0 then
          (.error (.new .permissionDenied "内置角色不可禁用"), db)
        else if req.name.isNone && req.description.isNone && req.status.isNone then
          (.ok (.role id), db)
        else
          match fault with
          | some err => (.error (.wrap .databaseError err), db)
          | none =>
              (.ok (.role id), match req.status with
                | none => db
                | some status => db.setRoleStatus id status)

/-- The transaction of `DeleteRole`: permissions go for good, bindings and the role are
marked. -/
def Database.removeRole (db : Database) (id : Nat) : Database :=
  { db with
    rolePermissions := db.rolePermissions.filter (·.roleId != id)
    userRoles := softDeleteUserRoles (·.roleId == id) db.userRoles
    roles := db.roles.map fun r =>
      if r.id == id && !r.deleted then { r with deleted := true } else r }

def deleteRole (db : Database) (idStr : String) (fault : Option String) : Outcome :=
  match Validation.parseUint64 idStr with
  | none => (.error invalidRoleId, db)
  | some id =>
    match db.findRole id with
    | none => (.error roleNotFound, db)
    | some role =>
      if role.builtin = 1 then (.error (.new .permissionDenied "内置角色不可删除"), db)
      else
        match fault with
        | some err => (.error (.wrap .databaseError err), db)
        | none => (.ok (.role id), db.removeRole id)

/-- A request to one of the six handlers; `fault` as in each of them. -/
inductive Op
  | bindUserRole (id : String) (body : Body UserRoleReq) (fault : Option String)
  | unbindUserRole (id : String) (body : Body UserRoleReq) (fault : Option String)
  | setRolePermissions (id : String) (body : Body (List String)) (fault : Option String)
  | updateRole (id : String) (body : Body UpdateRoleReq) (fault : Option String)
  | createRole (body : Body CreateRoleReq) (fault : Option String)
  | deleteRole (id : String) (fault : Option String)

def handle (db : Database) : Op → Outcome
  | .bindUserRole id body fault => bindUserRole db id body fault
  | .unbindUserRole id body fault => unbindUserRole db id body fault
  | .setRolePermissions id body fault => setRolePermissions db id body fault
  | .updateRole id body fault => updateRole db id body fault
  | .createRole body fault => createRole db body fault
  | .deleteRole id fault => deleteRole db id fault

end K8sPlatform.Auth
