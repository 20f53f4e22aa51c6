import K8sPlatform.Auth.Tree

namespace K8sPlatform.Auth

open Errcode

def requireClusterScope (pt : Option PermissionTree) (clusterCode : String) : Except Error Unit :=
  match pt with
  | none => .error (.new .scopeDenied "权限未加载，拒绝访问集群")
  | some pt =>
      if pt.hasClusterScope clusterCode then .ok ()
      else .error (.new .scopeDenied ("无权以集群范围访问: " ++ clusterCode))

def requireAnyClusterAccess (pt : Option PermissionTree) (clusterCode : String) :
    Except Error Unit :=
  match pt with
  | none => .error (.new .scopeDenied "权限未加载，拒绝访问集群")
  | some pt =>
      if pt.hasAnyAccessToCluster clusterCode then .ok ()
      else .error (.new .scopeDenied ("无权访问集群: " ++ clusterCode))

def requireNamespaceScope (pt : Option PermissionTree) (clusterCode ns : String) :
    Except Error Unit :=
  match pt with
  | none => .error (.new .scopeDenied "权限未加载，拒绝访问命名空间")
  | some tree =>
      if ns = "" then requireClusterScope pt clusterCode
      else if tree.hasNamespaceScope clusterCode ns then .ok ()
      else .error (.new .scopeDenied ("无权访问命名空间: " ++ clusterCode ++ "/" ++ ns))

def allowedNamespaces (pt : Option PermissionTree) (clusterCode : String) : List String × Bool :=
  match pt with
  | none => ([], false)
  | some pt => pt.allowedNamespaces clusterCode

def allowedClusters (pt : Option PermissionTree) : List String × Bool :=
  match pt with
  | none => ([], false)
  | some pt => pt.allowedClusters

@[simp] theorem requireClusterScope_ok {pt : PermissionTree} {c : String} :
    requireClusterScope (some pt) c = .ok () ↔ pt.hasClusterScope c = true := by
  simp only [requireClusterScope]
  split <;> simp_all

@[simp] theorem requireAnyClusterAccess_ok {pt : PermissionTree} {c : String} :
    requireAnyClusterAccess (some pt) c = .ok () ↔ pt.hasAnyAccessToCluster c = true := by
  simp only [requireAnyClusterAccess]
  split <;> simp_all

/-- An empty namespace asks for the whole cluster. -/
theorem requireNamespaceScope_ok {pt : PermissionTree} {c ns : String} :
    requireNamespaceScope (some pt) c ns = .ok () ↔
      if ns = "" then pt.hasClusterScope c = true else pt.hasNamespaceScope c ns = true := by
  by_cases empty : ns = ""
  · simp [requireNamespaceScope, empty]
  · simp only [requireNamespaceScope, empty, if_false]
    split <;> simp_all

/-! ## RBAC -/

/-- Permission codes by method and registered route. -/
def routePermExact : List (String × String) :=
  [("GET /api/v1/clusters", "cluster:list"),
   ("POST /api/v1/clusters", "cluster:create"),
   ("GET /api/v1/clusters/:code", "cluster:list"),
   ("PUT /api/v1/clusters/:code", "cluster:update"),
   ("DELETE /api/v1/clusters/:code", "cluster:delete"),
   ("POST /api/v1/clusters/:code/ping", "cluster:ping"),
   ("GET /api/v1/clusters/:code/resources/:apiVersion/:kind", "resource:list"),
   ("GET /api/v1/clusters/:code/resources/:apiVersion/:kind/:namespace/:name", "resource:get"),
   ("POST /api/v1/clusters/:code/resources/:apiVersion/:kind", "resource:create"),
   ("PUT /api/v1/clusters/:code/resources/:apiVersion/:kind/:namespace/:name", "resource:update"),
   ("DELETE /api/v1/clusters/:code/resources/:apiVersion/:kind/:namespace/:name",
     "resource:delete"),
   ("GET /api/v1/versions", "version:list"),
   ("GET /api/v1/versions/diff", "version:diff"),
   ("POST /api/v1/versions/diff", "version:diff"),
   ("POST /api/v1/versions/rollback", "version:rollback"),
   ("POST /api/v1/clusters/:code/backups", "backup:create"),
   ("GET /api/v1/backups", "backup:list"),
   ("GET /api/v1/backups/:id", "backup:list"),
   ("GET /api/v1/backups/:id/download", "backup:list"),
   ("POST /api/v1/backups/:id/restore", "backup:restore"),
   ("DELETE /api/v1/backups/:id", "backup:delete"),
   ("GET /api/v1/clusters/:code/helm/releases", "helm:view"),
   ("POST /api/v1/clusters/:code/helm/releases", "helm:install"),
   ("DELETE /api/v1/clusters/:code/helm/releases/:namespace/:name", "helm:uninstall"),
   ("POST /api/v1/clusters/:code/helm/releases/:namespace/:name/rollback", "helm:rollback"),
   ("GET /api/v1/clusters/:code/helm/releases/:namespace/:name/history", "helm:view"),
   ("GET /api/v1/clusters/:code/helm/check", "helm:view"),
   ("GET /api/v1/helm/repos", "helm:view"),
   ("POST /api/v1/helm/repos", "helm:install"),
   ("DELETE /api/v1/helm/repos/:name", "helm:install"),
   ("POST /api/v1/helm/repos/update", "helm:install"),
   ("GET /api/v1/helm/charts", "helm:view"),
   ("GET /api/v1/clusters/:code/pods/:namespace/:pod/logs", "resource:get"),
   ("GET /api/v1/users", "user:manage"),
   ("POST /api/v1/users", "user:manage"),
   ("PUT /api/v1/users/:id", "user:manage"),
   ("PATCH /api/v1/users/:id/status", "user:manage"),
   ("POST /api/v1/users/:id/reset-password", "user:manage"),
   ("GET /api/v1/users/:id/roles", "user:manage"),
   ("POST /api/v1/users/:id/roles", "user:manage"),
   ("DELETE /api/v1/users/:id/roles", "user:manage"),
   ("GET /api/v1/roles", "role:manage"),
   ("POST /api/v1/roles", "role:manage"),
   ("PUT /api/v1/roles/:id", "role:manage"),
   ("DELETE /api/v1/roles/:id", "role:manage"),
   ("GET /api/v1/roles/:id/permissions", "role:manage"),
   ("POST /api/v1/roles/:id/permissions", "role:manage"),
   ("GET /api/v1/permissions", "role:manage"),
   ("GET /api/v1/audit-logs", "audit:list")]

/-- The part of a request that the permission check reads; `fullPath` is the registered
route, empty when none matched. -/
structure Request where
  method : String
  fullPath : String
  paramCode : String
  headerClusterCode : String
  deriving DecidableEq, Repr

def resolvePermCode (method fullPath : String) : String :=
  if fullPath = "" then "" else (routePermExact.lookup (method ++ " " ++ fullPath)).getD ""

/-- `(code, mismatch)`: the path parameter first, the header otherwise. -/
def requestClusterCode (req : Request) : String × Bool :=
  let trimmed := Text.trimSpace req.paramCode
  let fromHeader := Text.trimSpace req.headerClusterCode
  let fromPath := if trimmed = "_" then "" else trimmed
  if fromPath ≠ "" ∧ fromHeader ≠ "" ∧ fromPath ≠ fromHeader then (fromPath, true)
  else if fromPath ≠ "" then (fromPath, false)
  else (fromHeader, false)

/-- `RBACMiddleware` once the permission tree is in the context. -/
def rbacCheck (pt : PermissionTree) (req : Request) : Except Error Unit :=
  let permCode := resolvePermCode req.method req.fullPath
  if permCode = "" then .error (.new .permissionDenied "未授权的接口")
  else if pt.hasPerm permCode then
    let (clusterCode, mismatch) := requestClusterCode req
    if mismatch then .error (.new .scopeDenied "X-Cluster-Code 与路径不一致")
    else if clusterCode ≠ "" then requireAnyClusterAccess (some pt) clusterCode
    else .ok ()
  else .error (.new .permissionDenied ("缺少权限: " ++ permCode))

theorem rbacCheck_ok {pt : PermissionTree} {req : Request} :
    rbacCheck pt req = .ok () ↔
      resolvePermCode req.method req.fullPath ≠ "" ∧
      pt.hasPerm (resolvePermCode req.method req.fullPath) = true ∧
      (requestClusterCode req).2 = false ∧
      ((requestClusterCode req).1 ≠ "" →
        pt.hasAnyAccessToCluster (requestClusterCode req).1 = true) := by
  simp only [rbacCheck]
  by_cases undeclared : resolvePermCode req.method req.fullPath = ""
  · simp [undeclared]
  by_cases perm : pt.hasPerm (resolvePermCode req.method req.fullPath) = true
  · cases mismatch : (requestClusterCode req).2
    · by_cases global : (requestClusterCode req).1 = "" <;>
        simp [undeclared, perm, global]
    · simp [undeclared, perm]
  · simp [undeclared, perm]

end K8sPlatform.Auth
