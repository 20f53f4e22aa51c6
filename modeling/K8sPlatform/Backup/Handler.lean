import K8sPlatform.Auth.Middleware
import K8sPlatform.Backup.Manager
import K8sPlatform.Lib.Validation

/-! # The backup endpoints -/

namespace K8sPlatform.Backup

open Errcode Auth

/-- What the middleware left in the request's context: the permission tree and the user. -/
structure Caller where
  tree : Option PermissionTree
  user : Option (Nat × String)
  deriving DecidableEq

structure CreateBackupReq where
  mode : String
  ns : String
  namespaces : List String
  targetKind : String
  kindFilter : List String
  targetName : String
  storageType : String
  scope : String
  deriving DecidableEq, Repr

def modeFromRequest (reqMode scope : String) : BackupMode :=
  let mode := Text.toLower (Text.trimSpace reqMode)
  let scope := Text.toLower (Text.trimSpace scope)
  if mode ∈ ["single", "object"] then .single
  else if mode ∈ ["namespace_batch", "namespace-batch", "batch", "namespace"] then .namespaceBatch
  else if scope ∈ ["object", "single"] then .single
  else if scope ∈ ["namespace", "batch"] then .namespaceBatch
  else .single

def kindNeedsClusterScope (kind : String) : Bool :=
  kind ∈ ["Namespace", "Node", "PersistentVolume", "ClusterRole", "ClusterRoleBinding",
    "StorageClass", "PriorityClass", "CustomResourceDefinition", "CSIDriver", "CSINode"]

def mustCurrentUser (caller : Caller) : Except Error (Nat × String) :=
  match caller.user with
  | none => .error (.new .unauthenticated "无法识别当前用户")
  | some user => .ok user

namespace CreateBackupReq

variable (req : CreateBackupReq)

/-- The namespaces of a batch; an old client gives a single one in `namespace`. -/
def batchNamespaces : List String :=
  let ns := Text.trimSpace req.ns
  if req.namespaces = [] ∧ ns ≠ "" then [ns] else req.namespaces

def batchKindFilter : List String :=
  let kind := Text.trimSpace req.targetKind
  if req.kindFilter = [] ∧ kind ≠ "" then [kind] else req.kindFilter

def effectiveMode : BackupMode := modeFromRequest req.mode req.scope

end CreateBackupReq

/-- The scope checks on a batch: each namespace, and the cluster once for the kinds. -/
def batchScope (tree : Option PermissionTree) (code : String)
    (namespaces kindFilter : List String) :
    Except Error Unit :=
  match namespaces.find? fun ns => (requireNamespaceScope tree code ns).toOption.isNone with
  | some ns => requireNamespaceScope tree code ns
  | none =>
    if kindFilter.any kindNeedsClusterScope then
      match requireClusterScope tree code with
      | .error _ => .error (.new .scopeDenied "批量备份包含集群级资源，需要集群范围权限")
      | .ok () => .ok ()
    else .ok ()

/-- The input that a request submits, once it is checked. -/
def CreateBackupReq.input (caller : Caller) (code : String) (req : CreateBackupReq) :
    Except Error SubmitBackupInput :=
  match mustCurrentUser caller with
  | .error err => .error err
  | .ok (operatorId, operator) =>
    let inp : SubmitBackupInput :=
      ⟨code, "", "", "", [], [], req.effectiveMode, req.storageType, operator, operatorId⟩
    if req.effectiveMode = .namespaceBatch then
      if req.batchNamespaces = [] then
        .error (.new .invalidArgument "命名空间批量模式必须至少选择一个命名空间")
      else if req.batchKindFilter = [] then
        .error (.new .invalidArgument "命名空间批量模式必须至少选择一种资源类型")
      else
        match batchScope caller.tree code req.batchNamespaces req.batchKindFilter with
        | .error err => .error err
        | .ok () =>
            .ok { inp with namespaces := req.batchNamespaces, kindFilter := req.batchKindFilter }
    else
      let ns := Text.trimSpace req.ns
      let kind := Text.trimSpace req.targetKind
      let name := Text.trimSpace req.targetName
      if kind = "" ∨ name = "" then
        .error (.new .invalidArgument "target_kind 和 target_name 不能为空")
      else
        match requireNamespaceScope caller.tree code ns with
        | .error err => .error err
        | .ok () => .ok { inp with ns := ns, targetKind := kind, targetName := name }

def createBackup (cfg : BackupConfig) (h : Health) (s : Store) (caller : Caller) (code : String)
    (body : Except String CreateBackupReq) : Store × Except Error BackupTask :=
  if code = "" then (s, .error (.new .invalidArgument "cluster code 不能为空"))
  else
    match body with
    | .error err => (s, .error (.wrapMsg .invalidArgument err "请求体解析失败"))
    | .ok req =>
      match req.input caller code with
      | .error err => (s, .error err)
      | .ok inp => submitBackupTask cfg h s inp

def isMulti (ns : String) : Bool := Text.hasPrefix "multi:" ns

/-- The check on a single record. The operator of a batch may read it, whatever his scopes. -/
def requireBackupRecordScope (caller : Caller) (item : BackupTask) : Except Error Unit :=
  let nsStr := item.ns.getD ""
  if isNamespaceBatch item.backupType || isMulti nsStr then
    match caller.tree with
    | none => .error (.new .scopeDenied "权限未加载，拒绝访问备份")
    | some pt =>
        if pt.hasClusterScope item.clusterCode then .ok ()
        else if caller.user.any (·.1 == item.operatorId) then .ok ()
        else if nsStr ≠ "" && !isMulti nsStr then
          requireNamespaceScope caller.tree item.clusterCode nsStr
        else .error (.new .scopeDenied "无权访问该批量备份")
  else requireNamespaceScope caller.tree item.clusterCode nsStr

structure ListBackupsQuery where
  page : String
  size : String
  clusterCode : String
  status : String
  keyword : String
  backupType : String
  deriving DecidableEq, Repr

/-- An unknown status filters nothing. -/
def parseStatus (s : String) : Option BackupTaskStatus :=
  [BackupTaskStatus.pending, .running, .success, .failed, .cancelled].find? (·.text == s)

def ListBackupsQuery.input (q : ListBackupsQuery) : ListInput :=
  ⟨Validation.atoiValue q.page, Validation.atoiValue q.size, q.clusterCode, parseStatus q.status,
    q.keyword, q.backupType, [], []⟩

/-- The list is cut to the namespaces of the chosen cluster, or to the clusters in reach; when
there are none it is empty. -/
def listBackups (low : Lowering) (h : Health) (s : Store) (caller : Caller)
    (q : ListBackupsQuery) : Except Error ListResult :=
  let inp := q.input
  if q.clusterCode ≠ "" then
    match allowedNamespaces caller.tree q.clusterCode with
    | (_, true) => list low h s inp
    | (nsList, false) =>
        if nsList = [] then .ok ⟨0, []⟩ else list low h s { inp with namespaces := nsList }
  else
    match allowedClusters caller.tree with
    | (_, true) => list low h s inp
    | (codes, false) =>
        if codes = [] then .ok ⟨0, []⟩ else list low h s { inp with clusterCodes := codes }

def getBackup (h : Health) (s : Store) (caller : Caller) (id : String) : Except Error BackupTask :=
  match Validation.parseUint64 id with
  | none | some 0 => .error (.new .invalidArgument "id 无效")
  | some id =>
    match get h s id with
    | .error err => .error err
    | .ok item =>
      match requireBackupRecordScope caller item with
      | .error err => .error err
      | .ok () => .ok item

end K8sPlatform.Backup
