import K8sPlatform.Auth.Loader

namespace K8sPlatform.Auth

/-- `(code, module)` of the built-in permissions. -/
def seedPermissionsData : List (String × String) :=
  [("auth:login", "auth"), ("cluster:list", "cluster"), ("cluster:create", "cluster"),
   ("cluster:update", "cluster"), ("cluster:delete", "cluster"), ("cluster:ping", "cluster"),
   ("resource:list", "resource"), ("resource:get", "resource"), ("resource:create", "resource"),
   ("resource:update", "resource"), ("resource:delete", "resource"), ("version:list", "version"),
   ("version:diff", "version"), ("version:rollback", "version"), ("backup:list", "backup"),
   ("backup:create", "backup"), ("backup:restore", "backup"), ("backup:delete", "backup"),
   ("helm:view", "helm"), ("helm:install", "helm"), ("helm:uninstall", "helm"),
   ("helm:rollback", "helm"), ("plugin:list", "plugin"), ("plugin:enable", "plugin"),
   ("system:config", "system"), ("audit:list", "audit"), ("user:manage", "user"),
   ("role:manage", "role")]

structure SeedRoleDef where
  code : String
  perms : List String
  deriving DecidableEq, Repr

def platformAdmin : SeedRoleDef := ⟨"platform-admin", ["*:*"]⟩

def clusterAdmin : SeedRoleDef where
  code := "cluster-admin"
  perms := ["cluster:list", "cluster:ping", "resource:*", "version:*", "backup:*",
    "helm:view", "helm:install", "helm:uninstall", "helm:rollback", "plugin:list"]

def namespaceDeveloper : SeedRoleDef where
  code := "namespace-developer"
  perms := ["cluster:list", "cluster:ping",
    "resource:list", "resource:get", "resource:create", "resource:update",
    "version:list", "version:diff", "backup:list", "backup:create", "backup:restore",
    "helm:view"]

def platformViewer : SeedRoleDef where
  code := "platform-viewer"
  perms := ["cluster:list", "cluster:ping", "resource:list", "resource:get",
    "version:list", "version:diff", "backup:list", "helm:view", "plugin:list"]

def seedRolesData : List SeedRoleDef :=
  [platformAdmin, clusterAdmin, namespaceDeveloper, platformViewer]

/-- The permissions that one pattern of a role binds, from those that exist. -/
def matchSeedPerm (allPerms : List SysPermission) (pattern : String) : List String :=
  if pattern = "*:*" then allPerms.map (·.code)
  else if 2 < pattern.length ∧ pattern.toList.drop (pattern.length - 2) = [':', '*'] then
    let mod := String.ofList (pattern.toList.take (pattern.length - 2))
    (allPerms.filter (·.module == mod)).map (·.code)
  else if pattern ∈ allPerms.map (·.code) then [pattern]
  else []

def bindCodes (allPerms : List SysPermission) (sd : SeedRoleDef) : List String :=
  (sd.perms.flatMap (matchSeedPerm allPerms)).eraseDups

/-- A role binds only permissions that exist. -/
theorem bindCodes_subset (allPerms : List SysPermission) (sd : SeedRoleDef) :
    ∀ code ∈ bindCodes allPerms sd, ∃ p ∈ allPerms, p.code = code := by
  intro code mem
  obtain ⟨pattern, _, h⟩ := List.mem_flatMap.1 (List.mem_eraseDups.1 mem)
  simp only [matchSeedPerm] at h
  split_ifs at h with all wildcard exact_
  · simpa using h
  · obtain ⟨p, mp, eq⟩ := List.mem_map.1 h
    exact ⟨p, (List.mem_filter.1 mp).1, eq⟩
  · rw [List.mem_singleton.1 h]
    simpa using exact_
  · simp at h

def seedPermissions : List SysPermission :=
  seedPermissionsData.map fun (code, module) => ⟨code, module, false⟩

/-- The tables after `SeedInitialData` on an empty database: role and user ids count
from 1, and `admin` holds `platform-admin` at platform scope. -/
def seedDatabase (adminPasswordHash : String) : Database where
  users := [⟨1, "admin", adminPasswordHash, userStatusEnabled, false⟩]
  roles := seedRolesData.mapIdx fun i sd => ⟨i + 1, sd.code, 1, 1, false⟩
  permissions := seedPermissions
  rolePermissions := (seedRolesData.mapIdx fun i sd =>
    (bindCodes seedPermissions sd).map fun code => ⟨i + 1, code⟩).flatten
  userRoles := [⟨1, 1, 1, scopePlatform, "", "", false⟩]
  nextRoleId := 5
  nextUserRoleId := 2

theorem seed_roleCodes (hash : String) :
    ∀ p ∈ (seedDatabase hash).rolePermissions, p.permissionCode ∈ seedPermissions.map (·.code) := by
  intro p mem
  obtain ⟨codes, mc, hp⟩ := List.mem_flatten.1 mem
  obtain ⟨i, bound, rfl⟩ := List.mem_mapIdx.1 mc
  obtain ⟨code, mcode, rfl⟩ := List.mem_map.1 hp
  obtain ⟨perm, mperm, eq⟩ := bindCodes_subset _ _ _ mcode
  exact List.mem_map.2 ⟨perm, mperm, eq⟩

end K8sPlatform.Auth
