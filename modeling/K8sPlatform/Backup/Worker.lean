import K8sPlatform.Backup.Manager

/-! # The backup worker -/

namespace K8sPlatform.Backup

open Errcode

structure GVR where
  group : String
  version : String
  resource : String
  deriving DecidableEq, Repr

/-- The kinds that `resolveGVR` knows. -/
def gvrTable : List (String × GVR) :=
  [("Pod", ⟨"", "v1", "pods"⟩),
   ("Service", ⟨"", "v1", "services"⟩),
   ("ConfigMap", ⟨"", "v1", "configmaps"⟩),
   ("Secret", ⟨"", "v1", "secrets"⟩),
   ("Namespace", ⟨"", "v1", "namespaces"⟩),
   ("Deployment", ⟨"apps", "v1", "deployments"⟩),
   ("StatefulSet", ⟨"apps", "v1", "statefulsets"⟩),
   ("DaemonSet", ⟨"apps", "v1", "daemonsets"⟩),
   ("ReplicaSet", ⟨"apps", "v1", "replicasets"⟩),
   ("Job", ⟨"batch", "v1", "jobs"⟩),
   ("CronJob", ⟨"batch", "v1", "cronjobs"⟩),
   ("Ingress", ⟨"networking.k8s.io", "v1", "ingresses"⟩),
   ("PersistentVolume", ⟨"", "v1", "persistentvolumes"⟩),
   ("PersistentVolumeClaim", ⟨"", "v1", "persistentvolumeclaims"⟩),
   ("ServiceAccount", ⟨"", "v1", "serviceaccounts"⟩),
   ("Role", ⟨"rbac.authorization.k8s.io", "v1", "roles"⟩),
   ("ClusterRole", ⟨"rbac.authorization.k8s.io", "v1", "clusterroles"⟩),
   ("RoleBinding", ⟨"rbac.authorization.k8s.io", "v1", "rolebindings"⟩),
   ("ClusterRoleBinding", ⟨"rbac.authorization.k8s.io", "v1", "clusterrolebindings"⟩)]

def resolveGVR (kind : String) : Except String GVR :=
  match gvrTable.lookup kind with
  | some gvr => .ok gvr
  | none =>
      .error ("unknown kind " ++ Text.quote kind ++
        " (MVP_TODO: dynamic discovery via APIResourceList)")

theorem mem_gvrTable {kind : String} {gvr : GVR} (h : resolveGVR kind = .ok gvr) :
    (kind, gvr) ∈ gvrTable := by
  unfold resolveGVR at h
  split at h
  · rename_i found
    obtain ⟨before, after, split, -⟩ := List.lookup_eq_some_iff.1 found
    obtain rfl := Except.ok.inj h
    exact split ▸ List.mem_append_right _ List.mem_cons_self
  · cases h

/-- A kind that resolves is one component of a path. -/
theorem slash_not_mem_kind {kind : String} {gvr : GVR} (h : resolveGVR kind = .ok gvr) :
    '/' ∉ kind.toList := by
  have table : ∀ entry ∈ gvrTable, '/' ∉ entry.1.toList := by decide
  exact table _ (mem_gvrTable h)

/-- Among these are kinds that `resolveGVR` does not know. -/
def isNamespacedKind (kind : String) : Bool :=
  kind ∉ ["Namespace", "Node", "PersistentVolume", "ClusterRole", "ClusterRoleBinding",
    "StorageClass", "PriorityClass", "CustomResourceDefinition", "CSIDriver", "CSINode"]

inductive Verb
  | list | get
  deriving DecidableEq, Repr

/-- A request to the API server of a cluster; with no namespace it is a request at cluster
level, and with an empty one it reaches every namespace. -/
structure ApiCall where
  verb : Verb
  kind : String
  gvr : GVR
  ns : Option String
  name : String
  deriving DecidableEq, Repr

/-- What the worker meets while it executes a task: the error of each client, the answers of
the API servers, the outcome of applying a restored object, the date and the fault of the n-th
upload, the order of the n-th loop over a map, and the ends of its reads and writes. -/
structure Environment where
  client : String → Option String
  list : String → ApiCall → Except String (List String)
  get : String → ApiCall → Except String String
  apply : BackupTask → String → Except String Unit
  date : Nat → String
  disk : Nat → Option String
  order : Nat → List (String × GVR) → List (String × GVR)
  order_perm : ∀ n kinds, (order n kinds).Perm kinds
  load : Option String
  claim : WriteResult
  payload : Option String
  result : WriteResult
  failure : WriteResult

/-- A worker whose cluster answers and is empty. -/
def quiet : Environment where
  client := fun _ => none
  list := fun _ _ => .ok []
  get := fun _ _ => .error ""
  apply := fun _ _ => .ok ()
  date := fun _ => "20260101"
  disk := fun _ => none
  order := fun _ kinds => kinds
  order_perm := fun _ kinds => .refl kinds
  load := none
  claim := .done
  payload := none
  result := .done
  failure := .done

/-- A worker whose cluster holds an object and takes it back. -/
def answering : Environment := { quiet with get := fun _ _ => .ok "kind: ConfigMap" }

variable (cfg : BackupConfig) (e : Environment)

def Environment.upload (st : Storage) (files : Files) (n : Nat) (key content : String) :
    Except String (Files × UploadResult) :=
  match e.disk n with
  | some err => .error err
  | none => st.upload cfg files key content

/-- The object that a single backup reads. -/
def readSingle (task : BackupTask) : Except String (String × String × String) :=
  match e.client task.clusterCode with
  | some err => .error ("get cluster client: " ++ err)
  | none =>
    match task.targetKind, task.targetName with
    | some kind, some name =>
      match resolveGVR kind with
      | .error err => .error ("resolve GVR: " ++ err)
      | .ok gvr =>
        let ns := task.ns.getD ""
        match e.get task.clusterCode ⟨.get, kind, gvr, if ns = "" then none else some ns, name⟩ with
        | .error err => .error ("get resource " ++ kind ++ "/" ++ name ++ ": " ++ err)
        | .ok yaml => .ok (kind, name, yaml)
    | _, _ => .error (Error.text (.new .invalidArgument "target_kind/target_name missing"))

/-- An object that the execution of a task put into a storage. -/
structure Upload where
  storageType : String
  key : String
  content : String
  deriving DecidableEq, Repr

/-- The upload of a single backup, with the files after it. -/
def uploadSingle (files : Files) (task : BackupTask) :
    Except String (Upload × Files × UploadResult) :=
  match readSingle e task with
  | .error err => .error err
  | .ok (kind, name, yaml) =>
    match cfg.getStorage task.storageType with
    | .error err => .error ("get storage " ++ task.storageType ++ ": " ++ err.text)
    | .ok st =>
      let key := buildKey task.clusterCode (e.date 0) (toString task.id) kind name
      match e.upload cfg st files 0 key yaml with
      | .error err => .error (Error.text (.wrapMsg .backupStorageError err "上传备份失败"))
      | .ok (files, res) => .ok (⟨task.storageType, key, yaml⟩, files, res)

def doBackupSingle (s : Store) (task : BackupTask) : Store × Except String Unit :=
  match uploadSingle cfg e s.files task with
  | .error err => (s, .error err)
  | .ok (_, files, res) =>
    let stored := { s with files := files }.update e.result task.id fun t =>
      { t with
        status := .success, sizeBytes := some res.sizeBytes, objectCount := 1,
        storagePath := res.storagePath }
    match e.result.error with
    | some err => (stored, .error ("update backup result: " ++ err))
    | none => (stored, .ok ())

/-! ## A batch backup -/

/-- The kinds of a filter that resolve, each once, as the keys of a map. -/
def batchKinds (kindFilter : List String) : List (String × GVR) :=
  kindFilter.eraseDups.filterMap fun kind => (resolveGVR kind).toOption.map fun gvr => (kind, gvr)

/-- A cluster-scoped kind is asked for without a namespace. -/
def batchCall (verb : Verb) (ns : String) (kind : String × GVR) (name : String) : ApiCall :=
  ⟨verb, kind.1, kind.2, if isNamespacedKind kind.1 then some ns else none, name⟩

structure PlanItem where
  ns : String
  kind : String × GVR
  name : String
  deriving DecidableEq, Repr

/-- The pairs that a batch lists, in order. -/
def batchPairs (namespaces : List String) (kinds : List (String × GVR)) :
    List (String × String × GVR) :=
  namespaces.zipIdx.flatMap fun (ns, n) => (e.order n kinds).map fun kind => (ns, kind)

/-- The objects that one list call finds; `none` when it fails. -/
def listPair (code : String) (pair : String × String × GVR) : Option (List PlanItem) :=
  match e.list code (batchCall .list pair.1 pair.2 "") with
  | .error _ => none
  | .ok names => some ((names.filter (· ≠ "")).map fun name => ⟨pair.1, pair.2, name⟩)

/-- The objects that the list calls find, in order. -/
def batchItems (code : String) (pairs : List (String × String × GVR)) : List PlanItem :=
  (pairs.filterMap (listPair e code)).flatten

structure BatchProgress where
  calls : List ApiCall
  files : Files
  done : Nat
  failed : Nat
  totalSize : Nat
  lastStorage : String

/-- `%05d`. -/
def pad5 (n : Nat) : String :=
  let digits := toString n
  String.ofList (List.replicate (5 - digits.length) '0') ++ digits

def backupItem (task : BackupTask) (st : Storage) (p : BatchProgress) (item : PlanItem × Nat) :
    BatchProgress :=
  let (it, i) := item
  let call := batchCall .get it.ns it.kind it.name
  let p := { p with calls := p.calls ++ [call] }
  match e.get task.clusterCode call with
  | .error _ => { p with failed := p.failed + 1 }
  | .ok yaml =>
    let key := buildKey task.clusterCode (e.date i) (toString task.id ++ "-" ++ pad5 (i + 1))
      it.kind.1 it.name
    match e.upload cfg st p.files i key yaml with
    | .error _ => { p with failed := p.failed + 1 }
    | .ok (files, res) =>
        { p with
          files := files, done := p.done + 1, totalSize := p.totalSize + res.sizeBytes,
          lastStorage := res.storagePath }

/-- The calls that a batch made, and how it ended. -/
structure BatchRun where
  calls : List ApiCall
  store : Store
  result : Except String Unit

/-- The two phases of a batch: list every pair, then get and upload every object found. -/
def runBatch (s : Store) (task : BackupTask) (st : Storage) (namespaces : List String)
    (kinds : List (String × GVR)) : BatchRun :=
  let pairs := batchPairs e namespaces kinds
  let items := batchItems e task.clusterCode pairs
  let unlisted := pairs.countP fun pair => (listPair e task.clusterCode pair).isNone
  let listed := pairs.map fun pair => batchCall .list pair.1 pair.2 ""
  if items = [] then
    let msg := "枚举结果为 0：可能所有命名空间都没有对应类型的对象"
    ⟨listed, s.update e.result task.id fun t => { t with errorMessage := some msg }, .error msg⟩
  else
    let p := items.zipIdx.foldl (backupItem cfg e task st)
      ⟨listed, s.files, 0, unlisted, 0, ""⟩
    let s := { s with files := p.files }
    if p.done = 0 then
      let msg := "所有 " ++ toString items.length ++ " 对象均备份失败，任务整体标记失败"
      ⟨p.calls, s.update e.result task.id fun t =>
        { t with status := .failed, errorMessage := some msg, objectCount := 0 }, .error msg⟩
    else
      let summary := "批量完成：成功 " ++ toString p.done ++ "，失败 " ++ toString p.failed ++
        "，总对象 " ++ toString items.length
      let storagePath := batchObjectPrefix task.id p.lastStorage
      let stored := s.update e.result task.id fun t =>
        { t with
          status := .success, sizeBytes := some p.totalSize, objectCount := p.done,
          storagePath := if storagePath = "" then p.lastStorage else storagePath,
          errorMessage := some summary }
      match e.result.error with
      | some err => ⟨p.calls, stored, .error ("update backup result: " ++ err)⟩
      | none => ⟨p.calls, stored, .ok ()⟩

def doBackupNamespaceBatch (s : Store) (task : BackupTask) : BatchRun :=
  match e.payload with
  | some err => ⟨[], s, .error ("read batch payload from redis: " ++ err)⟩
  | none =>
    let (namespaces, kindFilter) := ((s.payloads task.id).map BatchPayload.decode).getD ([], [])
    if namespaces = [] ∨ kindFilter = [] then
      ⟨[], s, .error ("batch payload empty (namespaces=" ++ toString namespaces.length ++
        " kinds=" ++ toString kindFilter.length ++ ")")⟩
    else
      match e.client task.clusterCode with
      | some err => ⟨[], s, .error ("get cluster client: " ++ err)⟩
      | none =>
        match cfg.getStorage task.storageType with
        | .error err =>
            ⟨[], s, .error ("get storage " ++ task.storageType ++ ": " ++ err.text)⟩
        | .ok st =>
          if batchKinds kindFilter = [] then ⟨[], s, .error "没有合法的 kind_filter，已全部跳过"⟩
          else runBatch cfg e s task st namespaces (batchKinds kindFilter)

def doRestore (s : Store) (task : BackupTask) : Store × Except String Unit :=
  if task.storagePath = "" then (s, .error "storage_path empty, backup not usable")
  else if task.storagePath.toList.getLast? = some '-' then (s, .error "批量备份暂不支持恢复")
  else
    match cfg.getStorage task.storageType with
    | .error err => (s, .error ("get storage " ++ task.storageType ++ ": " ++ err.text))
    | .ok st =>
      match st.download cfg s.files task.storagePath with
      | .error err => (s, .error (Error.text (.wrapMsg .backupStorageError err "下载备份失败")))
      | .ok data =>
        match e.apply task data with
        | .error err => (s, .error err)
        | .ok () =>
          let stored := s.update e.result task.id fun t =>
            { t with
              status := .success, sizeBytes := some data.utf8ByteSize, objectCount := 1 }
          match e.result.error with
          | some err => (stored, .error ("update restore result: " ++ err))
          | none => (stored, .ok ())

/-! ## A task -/

/-- `UPDATE … WHERE id = ? AND status = 'pending'`, and whether it changed a row. -/
def claimTask (s : Store) (w : WriteResult) (id : Nat) : Store × Bool :=
  if s.tasks.any fun t => t.id == id && t.status == .pending then
    (s.update w id fun t => if t.status = .pending then { t with status := .running } else t,
      w.applies)
  else (s, false)

def executeTask (s : Store) (task : BackupTask) (taskType : TaskType) :
    Store × Except String Unit :=
  match taskType with
  | .backup =>
      if task.backupType = BackupMode.namespaceBatch.text then
        let run := doBackupNamespaceBatch cfg e s task
        (run.store, run.result)
      else doBackupSingle cfg e s task
  | .restore => doRestore cfg e s task
  | .unknown text => (s, .error ("unknown task_type " ++ Text.quote text))

/-- The write after a failed execution; its own error is dropped. -/
def failTask (s : Store) (w : WriteResult) (id : Nat) (errMsg : String) : Store :=
  match Text.truncateBytes 1024 errMsg.toList with
  | none => s
  | some msg =>
      s.update w id fun t => { t with status := .failed, errorMessage := some (String.ofList msg) }

/-- A delivery after its claim: the execution, and the write after a failure. -/
def runTask (s : Store) (task : BackupTask) (taskType : TaskType) : Store × Except String Unit :=
  let run := executeTask cfg e s task taskType
  match run.2 with
  | .ok () => run
  | .error err => (failTask run.1 e.failure task.id err, .error err)

/-- One delivery handled with no other process in between; an error leaves the message
unacknowledged. -/
def handleTask (s : Store) (id : Nat) (taskType : TaskType) : Store × Except String Unit :=
  match e.load with
  | some err => (s, .error ("load task " ++ toString id ++ ": " ++ err))
  | none =>
    match s.find id with
    | none => (s, .ok ())
    | some task =>
      if task.status ≠ .pending then (s, .ok ())
      else
        let claimed := claimTask s e.claim id
        match e.claim.error with
        | some err => (claimed.1, .error ("cas claim task " ++ toString id ++ ": " ++ err))
        | none =>
            if claimed.2 then runTask cfg e claimed.1 { task with status := .running } taskType
            else (claimed.1, .ok ())

/-- A row after a claim of the id. -/
def BackupTask.claimed (w : WriteResult) (id : Nat) (t : BackupTask) : BackupTask :=
  if w.applies = true ∧ t.id = id ∧ t.status = .pending then { t with status := .running } else t

@[simp] theorem BackupTask.claimed_id (w : WriteResult) (id : Nat) (t : BackupTask) :
    (t.claimed w id).id = t.id := by
  unfold claimed
  split <;> rfl

theorem claimTask_store (s : Store) (w : WriteResult) (id : Nat) :
    (claimTask s w id).1 = { s with tasks := s.tasks.map (·.claimed w id) } := by
  have unchanged (same : ∀ t ∈ s.tasks, t.claimed w id = t) :
      s = { s with tasks := s.tasks.map (·.claimed w id) } := by
    have kept : s.tasks.map (·.claimed w id) = s.tasks := by
      rw [List.map_congr_left same, List.map_id']
    rw [kept]
  unfold claimTask
  split
  · unfold Store.update
    split
    · rename_i applies
      refine congrArg (fun tasks => { s with tasks := tasks }) (List.map_congr_left fun t _ => ?_)
      unfold BackupTask.claimed
      by_cases isId : t.id = id <;> simp [isId, applies]
    · rename_i refused
      refine unchanged fun t _ => if_neg ?_
      rintro ⟨applies, -⟩
      exact refused applies
  · rename_i none_
    refine unchanged fun t mem => if_neg ?_
    rintro ⟨-, isId, pending⟩
    exact none_ (List.any_eq_true.2 ⟨t, mem, by simp [isId, pending]⟩)

/-- A claim succeeds when it takes effect on a pending row. -/
theorem claimTask_won (s : Store) (w : WriteResult) (id : Nat) :
    (claimTask s w id).2 = true ↔
      w.applies = true ∧ ∃ t ∈ s.tasks, t.id = id ∧ t.status = .pending := by
  have any : (s.tasks.any fun t => t.id == id && t.status == .pending) = true ↔
      ∃ t ∈ s.tasks, t.id = id ∧ t.status = .pending := by
    simp
  unfold claimTask
  split
  · rename_i found
    exact ⟨fun applies => ⟨applies, any.1 found⟩, And.left⟩
  · rename_i none_
    exact ⟨nofun, fun ⟨_, found⟩ => absurd (any.2 found) none_⟩

end K8sPlatform.Backup
