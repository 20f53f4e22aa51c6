import K8sPlatform.Auth.Middleware
import K8sPlatform.Lib.Routing

/-! # The routes of the API server -/

namespace K8sPlatform.Api

open Routing

/-- What is registered under a route: the handler, and the code of its `RequirePermission`. Routes
without a code are not behind `RBACMiddleware`. -/
structure Endpoint where
  method : String
  fullPath : String
  handler : String
  permission : Option String
  deriving DecidableEq

def piece : List Char → Piece
  | ':' :: name => .param (String.ofList name)
  | chars => .literal (Text.utf8 chars)

def pieces (fullPath : String) : List Piece := ((fullPath.toList.splitOn '/').drop 1).map piece

def Endpoint.route (e : Endpoint) : Route Endpoint := ⟨e.method, pieces e.fullPath, e⟩

def authRoutes : List Endpoint :=
  [⟨"POST", "/api/v1/auth/login", "LoginHandler", none⟩,
   ⟨"POST", "/api/v1/auth/refresh", "RefreshHandler", none⟩,
   ⟨"GET", "/api/v1/auth/me", "CurrentUserHandler", none⟩,
   ⟨"POST", "/api/v1/auth/logout", "LogoutHandler", none⟩]

def userRoutes : List Endpoint :=
  [⟨"GET", "/api/v1/users", "ListUsers", some "user:manage"⟩,
   ⟨"POST", "/api/v1/users", "CreateUser", some "user:manage"⟩,
   ⟨"PUT", "/api/v1/users/:id", "UpdateUser", some "user:manage"⟩,
   ⟨"PATCH", "/api/v1/users/:id/status", "UpdateUserStatus", some "user:manage"⟩,
   ⟨"POST", "/api/v1/users/:id/reset-password", "ResetPassword", some "user:manage"⟩,
   ⟨"GET", "/api/v1/users/:id/roles", "ListUserRoles", some "user:manage"⟩,
   ⟨"POST", "/api/v1/users/:id/roles", "BindUserRole", some "user:manage"⟩,
   ⟨"DELETE", "/api/v1/users/:id/roles", "UnbindUserRole", some "user:manage"⟩]

def roleRoutes : List Endpoint :=
  [⟨"GET", "/api/v1/roles", "ListRoles", some "role:manage"⟩,
   ⟨"POST", "/api/v1/roles", "CreateRole", some "role:manage"⟩,
   ⟨"PUT", "/api/v1/roles/:id", "UpdateRole", some "role:manage"⟩,
   ⟨"DELETE", "/api/v1/roles/:id", "DeleteRole", some "role:manage"⟩,
   ⟨"GET", "/api/v1/roles/:id/permissions", "GetRolePermissions", some "role:manage"⟩,
   ⟨"POST", "/api/v1/roles/:id/permissions", "SetRolePermissions", some "role:manage"⟩,
   ⟨"GET", "/api/v1/permissions", "ListPermissions", some "role:manage"⟩]

def auditRoutes : List Endpoint :=
  [⟨"GET", "/api/v1/audit-logs", "ListAuditLogs", some "audit:list"⟩]

def clusterRoutes : List Endpoint :=
  [⟨"POST", "/api/v1/clusters", "ImportCluster", some "cluster:create"⟩,
   ⟨"GET", "/api/v1/clusters", "ListClusters", some "cluster:list"⟩,
   ⟨"GET", "/api/v1/clusters/:code", "GetCluster", some "cluster:list"⟩,
   ⟨"PUT", "/api/v1/clusters/:code", "UpdateCluster", some "cluster:update"⟩,
   ⟨"DELETE", "/api/v1/clusters/:code", "DeleteCluster", some "cluster:delete"⟩,
   ⟨"POST", "/api/v1/clusters/:code/ping", "PingCluster", some "cluster:ping"⟩]

def resourcesPath : String := "/api/v1/clusters/:code/resources/:apiVersion/:kind"

def resourcePath : String := "/api/v1/clusters/:code/resources/:apiVersion/:kind/:namespace/:name"

def resourceRoutes : List Endpoint :=
  [⟨"GET", resourcesPath, "ListResources", some "resource:list"⟩,
   ⟨"GET", resourcePath, "GetResource", some "resource:get"⟩,
   ⟨"POST", resourcesPath, "CreateResource", some "resource:create"⟩,
   ⟨"PUT", resourcePath, "UpdateResource", some "resource:update"⟩,
   ⟨"DELETE", resourcePath, "DeleteResource", some "resource:delete"⟩]

def versionRoutes : List Endpoint :=
  [⟨"GET", "/api/v1/versions", "ListVersions", some "version:list"⟩,
   ⟨"GET", "/api/v1/versions/diff", "DiffVersions", some "version:diff"⟩,
   ⟨"POST", "/api/v1/versions/diff", "DiffVersions", some "version:diff"⟩,
   ⟨"POST", "/api/v1/versions/rollback", "Rollback", some "version:rollback"⟩]

def backupRoutes : List Endpoint :=
  [⟨"POST", "/api/v1/clusters/:code/backups", "CreateBackup", some "backup:create"⟩,
   ⟨"GET", "/api/v1/backups", "ListBackups", some "backup:list"⟩,
   ⟨"GET", "/api/v1/backups/:id", "GetBackup", some "backup:list"⟩,
   ⟨"GET", "/api/v1/backups/:id/download", "DownloadBackup", some "backup:list"⟩,
   ⟨"POST", "/api/v1/backups/:id/restore", "RestoreBackup", some "backup:restore"⟩,
   ⟨"DELETE", "/api/v1/backups/:id", "DeleteBackup", some "backup:delete"⟩]

def releasePath : String := "/api/v1/clusters/:code/helm/releases/:namespace/:name"

def helmRoutes : List Endpoint :=
  [⟨"GET", "/api/v1/helm/repos", "ListRepos", some "helm:view"⟩,
   ⟨"POST", "/api/v1/helm/repos", "AddRepo", some "helm:install"⟩,
   ⟨"DELETE", "/api/v1/helm/repos/:name", "RemoveRepo", some "helm:install"⟩,
   ⟨"POST", "/api/v1/helm/repos/update", "UpdateRepos", some "helm:install"⟩,
   ⟨"GET", "/api/v1/helm/charts", "SearchCharts", some "helm:view"⟩,
   ⟨"GET", "/api/v1/clusters/:code/helm/releases", "ListReleases", some "helm:view"⟩,
   ⟨"POST", "/api/v1/clusters/:code/helm/releases", "InstallRelease", some "helm:install"⟩,
   ⟨"DELETE", releasePath, "UninstallRelease", some "helm:uninstall"⟩,
   ⟨"POST", releasePath ++ "/rollback", "RollbackRelease", some "helm:rollback"⟩,
   ⟨"GET", releasePath ++ "/history", "ListHistory", some "helm:view"⟩,
   ⟨"GET", "/api/v1/clusters/:code/helm/check", "CheckHelmCLI", some "helm:view"⟩]

def websocketRoutes : List Endpoint :=
  [⟨"GET", "/api/v1/ws", "WsHandler", none⟩,
   ⟨"GET", "/api/v1/clusters/:code/pods/:namespace/:pod/logs", "StreamPodLogsHandler",
     some "resource:get"⟩]

/-- `RegisterAPIRoutes`. -/
def apiEndpoints : List Endpoint :=
  [⟨"GET", "/healthz", "healthz", none⟩, ⟨"GET", "/readyz", "readyz", none⟩,
   ⟨"GET", "/api/v1", "info", none⟩] ++
  authRoutes ++ userRoutes ++ roleRoutes ++ auditRoutes ++ clusterRoutes ++ resourceRoutes ++
  versionRoutes ++ backupRoutes ++ helmRoutes ++ websocketRoutes

def apiRoutes : List (Route Endpoint) := apiEndpoints.map Endpoint.route

/-- No path is served by two routes. -/
theorem apiRoutes_apart : Apart apiRoutes := by
  unfold Apart
  decide +kernel

/-- The table of `RBACMiddleware` has the code of each route that is behind it. -/
theorem permissions_registered : ∀ e ∈ apiEndpoints, ∀ code, e.permission = some code →
    code ≠ "" ∧ Auth.resolvePermCode e.method e.fullPath = code := by
  have all : apiEndpoints.all (fun e => e.permission.all fun code =>
      code != "" && Auth.resolvePermCode e.method e.fullPath == code) = true := by
    decide +kernel
  intro e mem code needed
  have own := List.all_eq_true.1 all e mem
  rw [needed, Option.all_some, Bool.and_eq_true, bne_iff_ne, beq_iff_eq] at own
  exact own

end K8sPlatform.Api
