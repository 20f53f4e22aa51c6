import K8sPlatform.Auth.Tree

namespace K8sPlatform.Auth

/-- `deleted` is whether `deleted_at` is set. -/
structure SysUser where
  id : Nat
  username : String
  passwordHash : String
  status : Int
  deleted : Bool
  deriving DecidableEq, Repr

def userStatusEnabled : Int := 1
def userStatusLocked : Int := 2

structure SysRole where
  id : Nat
  code : String
  builtin : Int
  status : Int
  deleted : Bool
  deriving DecidableEq, Repr

structure SysPermission where
  code : String
  module : String
  deleted : Bool
  deriving DecidableEq, Repr

/-- This table has no `deleted_at`: its rows are removed for good. -/
structure SysRolePermission where
  roleId : Nat
  permissionCode : String
  deriving DecidableEq, Repr

structure SysUserRole where
  id : Nat
  userId : Nat
  roleId : Nat
  scopeType : ScopeType
  scopeClusterCode : String
  scopeNamespace : String
  deleted : Bool
  deriving DecidableEq, Repr

/-- The tables of users, roles and bindings, with the next free primary keys. -/
structure Database where
  users : List SysUser
  roles : List SysRole
  permissions : List SysPermission
  rolePermissions : List SysRolePermission
  userRoles : List SysUserRole
  nextRoleId : Nat
  nextUserRoleId : Nat
  deriving DecidableEq, Repr

/-- The permission codes that the rows give a role. -/
def roleCodesOf (rows : List SysRolePermission) (roleId : Nat) : Set String :=
  {c | ∃ rp ∈ rows, rp.roleId = roleId ∧ rp.permissionCode = c}

namespace Database

/-- What gorm's `First` by primary key finds: soft-deleted rows are left out. -/
def findUser (db : Database) (id : Nat) : Option SysUser :=
  db.users.find? fun u => u.id == id && !u.deleted

def findRole (db : Database) (id : Nat) : Option SysRole :=
  db.roles.find? fun r => r.id == id && !r.deleted

def roleCodes (db : Database) (roleId : Nat) : Set String :=
  roleCodesOf db.rolePermissions roleId

end Database

/-- The binding's own scope, as it was bound. -/
def SysUserRole.scope (ur : SysUserRole) : Scope :=
  ⟨ur.scopeType, ur.scopeClusterCode, ur.scopeNamespace⟩

end K8sPlatform.Auth
