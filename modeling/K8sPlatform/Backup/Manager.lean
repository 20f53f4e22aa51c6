import K8sPlatform.Backup.Task

/-! # The backup manager -/

namespace K8sPlatform.Backup

open Errcode

def restoreModeOverwrite : String := "overwrite"
def restoreModeCreateNew : String := "create-new"

structure SubmitBackupInput where
  clusterCode : String
  ns : String
  targetKind : String
  targetName : String
  namespaces : List String
  kindFilter : List String
  mode : BackupMode
  storageType : String
  operator : String
  operatorId : Nat
  deriving DecidableEq, Repr

structure SubmitRestoreInput where
  backupId : Nat
  targetClusterCode : String
  operator : String
  operatorId : Nat
  mode : String
  targetNamespace : String
  deriving DecidableEq, Repr

/-- How the database and Redis answer during a call: the error of a read, and the end of each
write. -/
structure Health where
  read : Option String
  create : WriteResult
  payload : WriteResult
  push : WriteResult
  update : WriteResult
  remove : WriteResult

def healthy : Health := ⟨none, .done, .done, .done, .done, .done⟩

def normalizeStorageType (s : String) : String :=
  let lower := Text.toLower (Text.trimSpace s)
  if lower = "" then "local" else lower

/-! ## Submission -/

/-- The mode with its default. -/
def SubmitBackupInput.effectiveMode (inp : SubmitBackupInput) : BackupMode :=
  if inp.mode = .unknown "" then .single else inp.mode

/-- The checks of `SubmitBackupTask` on its input. -/
def SubmitBackupInput.validate (cfg : BackupConfig) (inp : SubmitBackupInput) :
    Except Error Unit :=
  if inp.clusterCode = "" then .error (.new .invalidArgument "cluster_code 不能为空")
  else
    match cfg.getStorage (normalizeStorageType inp.storageType) with
    | .error err => .error err
    | .ok _ =>
      match inp.effectiveMode with
      | .single =>
          if inp.targetKind = "" ∨ inp.targetName = "" then
            .error (.new .invalidArgument "target_kind 和 target_name 不能为空")
          else .ok ()
      | .namespaceBatch =>
          if inp.namespaces = [] then
            .error (.new .invalidArgument "命名空间批量模式必须提供 namespaces 列表")
          else if inp.kindFilter = [] then
            .error (.new .invalidArgument "命名空间批量模式必须提供 kind_filter 列表")
          else .ok ()
      | .unknown text => .error (.new .invalidArgument ("未知备份模式: " ++ text))

/-- The namespace column: none, the only namespace, or `multi:<count>`. -/
def SubmitBackupInput.nsColumn (inp : SubmitBackupInput) : Option String :=
  if inp.effectiveMode = .single then
    if inp.ns = "" then none else some inp.ns
  else
    match inp.namespaces with
    | [] => none
    | [ns] => some ns
    | nss => some ("multi:" ++ toString nss.length)

/-- The row of a new task; its id comes with the insertion. -/
def SubmitBackupInput.row (inp : SubmitBackupInput) : BackupTask where
  id := 0
  clusterCode := inp.clusterCode
  ns := inp.nsColumn
  targetKind := if inp.effectiveMode = .single then some inp.targetKind else inp.kindFilter.head?
  targetName := if inp.effectiveMode = .single then some inp.targetName else none
  backupType := inp.effectiveMode.text
  restoreMode := ""
  storageType := normalizeStorageType inp.storageType
  storagePath := ""
  status := .pending
  sizeBytes := none
  operator := inp.operator
  operatorId := inp.operatorId
  errorMessage := none
  objectCount := 0

@[simp] theorem SubmitBackupInput.row_storageType (inp : SubmitBackupInput) :
    inp.row.storageType = normalizeStorageType inp.storageType := by
  simp only [SubmitBackupInput.row]

@[simp] theorem SubmitBackupInput.row_clusterCode (inp : SubmitBackupInput) :
    inp.row.clusterCode = inp.clusterCode := by
  simp only [SubmitBackupInput.row]

/-- What `writeBatchPayload` stores. -/
def SubmitBackupInput.payload (inp : SubmitBackupInput) : BatchPayload where
  namespaces := Text.join ',' inp.namespaces
  kindFilter := Text.join ',' inp.kindFilter
  cluster := inp.clusterCode
  operator := inp.operator

/-- A message cut to 1024 bytes that ends inside a character is no text to the database. -/
def setTaskError (h : Health) (s : Store) (id : Nat) (errMsg : String) : Store :=
  match Text.truncateBytes 1024 errMsg.toList with
  | none => s
  | some msg =>
      s.update h.update id fun t =>
        { t with status := .failed, errorMessage := some (String.ofList msg) }

/-- The steps after the insertion: the payload of a batch, then the stream. -/
def enqueue (h : Health) (s : Store) (task : BackupTask) (payload : Option BatchPayload)
    (taskType : TaskType) : Store × Except Error BackupTask :=
  let failed (s : Store) (err : Error) := (setTaskError h s task.id err.text, Except.error err)
  let pushed (s : Store) :=
    let s := s.push h.push ⟨task.id, taskType⟩
    match h.push.error with
    | some err => failed s (.wrapMsg .redisError err "写入 Redis Stream 失败")
    | none => (s, .ok task)
  match payload with
  | none => pushed s
  | some payload =>
      let s := s.setPayload h.payload task.id payload
      match h.payload.error with
      | some err => failed s (.wrapMsg .redisError err "写入 batch payload")
      | none => pushed s

def submitBackupTask (cfg : BackupConfig) (h : Health) (s : Store) (inp : SubmitBackupInput) :
    Store × Except Error BackupTask :=
  match inp.validate cfg with
  | .error err => (s, .error err)
  | .ok () =>
    let stored := s.insert h.create inp.row
    match h.create.error with
    | some err => (stored, .error (.wrapMsg .databaseError err "创建备份任务失败"))
    | none =>
        enqueue h stored { inp.row with id := s.lastId + 1 }
          (if inp.effectiveMode = .namespaceBatch then some inp.payload else none) .backup

def get (h : Health) (s : Store) (id : Nat) : Except Error BackupTask :=
  if id = 0 then .error (.new .invalidArgument "id 不能为空")
  else
    match h.read with
    | some err => .error (.wrap .databaseError err)
    | none =>
      match s.find id with
      | none => .error (.ofCode .backupNotFound)
      | some t => .ok t

/-- The row of a restore task, with the storage of its source. -/
def SubmitRestoreInput.row (inp : SubmitRestoreInput) (src : BackupTask) (mode uuid : String) :
    BackupTask where
  id := 0
  clusterCode := if inp.targetClusterCode = "" then src.clusterCode else inp.targetClusterCode
  ns := if inp.targetNamespace = "" then src.ns else some inp.targetNamespace
  targetKind := src.targetKind
  targetName := some ("restore-" ++ toString inp.backupId ++ "-" ++ uuid)
  backupType := "restore"
  restoreMode := mode
  storageType := src.storageType
  storagePath := src.storagePath
  status := .pending
  sizeBytes := none
  operator := inp.operator
  operatorId := inp.operatorId
  errorMessage := none
  objectCount := 0

/-- The source and the mode of a restore, once both are accepted. -/
def SubmitRestoreInput.source (cfg : BackupConfig) (h : Health) (s : Store)
    (inp : SubmitRestoreInput) : Except Error (BackupTask × String) :=
  let mode := if inp.mode = "" then restoreModeCreateNew else inp.mode
  if inp.backupId = 0 then .error (.new .invalidArgument "backup_id 不能为空")
  else if mode ≠ restoreModeOverwrite ∧ mode ≠ restoreModeCreateNew then
    .error (.new .invalidArgument "mode 只能是 overwrite 或 create-new")
  else
    match get h s inp.backupId with
    | .error err => .error err
    | .ok src =>
      if src.status ≠ .success then
        .error (.new .backupRestoreFail ("源备份状态为 " ++ src.status.text ++ "，仅 success 可恢复"))
      else if isNamespaceBatch src.backupType then
        .error (.new .invalidArgument "批量备份暂不支持恢复")
      else
        match cfg.getStorage src.storageType with
        | .error err => .error err
        | .ok _ => .ok (src, mode)

def submitRestoreTask (cfg : BackupConfig) (h : Health) (s : Store) (inp : SubmitRestoreInput)
    (uuid : String) : Store × Except Error BackupTask :=
  match inp.source cfg h s with
  | .error err => (s, .error err)
  | .ok (src, mode) =>
    let row := inp.row src mode uuid
    let stored := s.insert h.create row
    match h.create.error with
    | some err => (stored, .error (.wrapMsg .databaseError err "创建恢复任务失败"))
    | none => enqueue h stored { row with id := s.lastId + 1 } none .restore

def decodeList (field : String) : List String :=
  if field = "" then [] else Text.split ',' field

/-- The two lists of a payload, as the worker and `GetBatchPayload` decode them. -/
def BatchPayload.decode (payload : BatchPayload) : List String × List String :=
  (decodeList payload.namespaces, decodeList payload.kindFilter)

def getBatchPayload (h : Health) (s : Store) (id : Nat) :
    Except Error (List String × List String) :=
  match h.read with
  | some err => .error (.wrapMsg .redisError err "读取 batch payload")
  | none =>
    match s.payloads id with
    | none =>
        .error (.new .invalidArgument "该任务没有 batch payload（可能不是 namespace_batch 模式）")
    | some payload => .ok payload.decode

/-- The prefix `cluster/date/<id>-` of a batch, from a key or from the prefix itself. -/
def batchObjectPrefix (taskId : Nat) (storagePath : String) : String :=
  let p := storagePath.toList.map fun c => if c = '\\' then '/' else c
  let idPrefix := (toString taskId ++ "-").toList
  if p = [] then ""
  else if idPrefix.isSuffixOf p then String.ofList p
  else String.ofList ((p.reverse.dropWhile (· ≠ '/')).reverse ++ idPrefix)

/-- Deletes the objects of a batch that `listed` finds under its prefix, or else the object at
the path of the record. Errors are logged only. -/
def deleteStorageObjects (cfg : BackupConfig) (listed : Storage → String → List String)
    (files : Files) (t : BackupTask) : Files :=
  if t.storagePath = "" then files
  else
    match cfg.getStorage t.storageType with
    | .error _ => files
    | .ok st =>
      let remove (acc : Files × Nat) (key : String) : Files × Nat :=
        match st.delete cfg acc.1 key with
        | .error _ => acc
        | .ok files => (files, acc.2 + 1)
      let batch := if isNamespaceBatch t.backupType then
          (listed st (batchObjectPrefix t.id t.storagePath)).foldl remove (files, 0)
        else (files, 0)
      if batch.2 = 0 then (remove batch t.storagePath).1 else batch.1

/-- The objects go before the record does. -/
def delete (cfg : BackupConfig) (h : Health) (listed : Storage → String → List String)
    (s : Store) (id : Nat) : Store × Except Error Unit :=
  match get h s id with
  | .error err => (s, .error err)
  | .ok t =>
    let emptied := { s with files := deleteStorageObjects cfg listed s.files t }
    let removed := emptied.remove h.remove id
    match h.remove.error with
    | some err => (removed, .error (.wrapMsg .databaseError err "删除备份记录失败"))
    | none => ({ removed with payloads := Function.update removed.payloads id none }, .ok ())

/-- The bytes of a backup. -/
def download (cfg : BackupConfig) (h : Health) (s : Store) (id : Nat) : Except Error String :=
  match get h s id with
  | .error err => .error err
  | .ok t =>
    if t.status ≠ .success then
      .error (.new .backupRestoreFail ("备份状态为 " ++ t.status.text ++ "，仅 success 可下载"))
    else if isNamespaceBatch t.backupType then
      .error (.new .invalidArgument "批量备份暂不支持下载（尚未打包为单个文件）")
    else if t.storagePath = "" then .error (.new .backupRestoreFail "该备份无存储文件")
    else
      match cfg.getStorage t.storageType with
      | .error err => .error err
      | .ok st =>
        match st.download cfg s.files t.storagePath with
        | .error err => .error (.wrapMsg .backupStorageError err "下载备份文件失败")
        | .ok content => .ok content

/-! ## Listing -/

structure ListInput where
  page : Int
  size : Int
  clusterCode : String
  status : Option BackupTaskStatus
  keyword : String
  backupType : String
  clusterCodes : List String
  namespaces : List String
  deriving DecidableEq, Repr

structure ListResult where
  total : Nat
  items : List BackupTask
  deriving DecidableEq, Repr

/-- SQL `LIKE`, with `%`, `_` and the escape character. -/
def like : List Char → List Char → Bool
  | [], s => s.isEmpty
  | '%' :: p, s => s.tails.any (like p)
  | '_' :: p, _ :: s => like p s
  | '\\' :: c :: p, d :: s => c == d && like p s
  | c :: p, d :: s => c == d && like p s
  | _ :: _, [] => false

/-- Lower case, in the program and in the database. -/
structure Lowering where
  toLower : String → String
  sqlLower : String → String

def keywordMatches (low : Lowering) (keyword : String) (t : BackupTask) : Bool :=
  let kw := ("%" ++ low.toLower keyword ++ "%").toList
  [t.targetKind.getD "", t.targetName.getD "", t.clusterCode, t.operator].any fun column =>
    like kw (low.sqlLower column).toList

/-- The conditions of the query; a null namespace is in no list. -/
def ListInput.selects (low : Lowering) (inp : ListInput) (t : BackupTask) : Bool :=
  (inp.clusterCode == "" || t.clusterCode == inp.clusterCode) &&
    (inp.clusterCodes.isEmpty || inp.clusterCodes.contains t.clusterCode) &&
    (inp.namespaces.isEmpty || t.ns.any inp.namespaces.contains) &&
    (inp.status.all (t.status == ·)) &&
    (inp.backupType == "" || t.backupType == inp.backupType) &&
    (inp.keyword == "" || keywordMatches low inp.keyword t)

/-- `OFFSET` and `LIMIT`, in 64-bit arithmetic. -/
def ListInput.window (inp : ListInput) : Nat × Nat :=
  let page := if inp.page < 1 then 1 else inp.page
  let size := if inp.size < 1 then 20 else if inp.size > 200 then 200 else inp.size
  ((Int.bmod ((page - 1) * size) (2 ^ 64)).toNat, size.toNat)

def list (low : Lowering) (h : Health) (s : Store) (inp : ListInput) :
    Except Error ListResult :=
  match h.read with
  | some err => .error (.wrap .databaseError err)
  | none =>
    let rows := s.tasks.filter (inp.selects low)
    let (offset, limit) := inp.window
    .ok ⟨rows.length,
      ((rows.mergeSort fun x y => decide (y.id ≤ x.id)).drop offset).take limit⟩

/-- An accepted batch has a registered storage and two lists that are not empty. -/
theorem SubmitBackupInput.validate_batch {cfg : BackupConfig} {inp : SubmitBackupInput}
    (batch : inp.effectiveMode = .namespaceBatch) (ok : inp.validate cfg = .ok ()) :
    (∃ st, cfg.getStorage (normalizeStorageType inp.storageType) = .ok st) ∧
      inp.namespaces ≠ [] ∧ inp.kindFilter ≠ [] := by
  unfold validate at ok
  rw [batch] at ok
  by_cases code : inp.clusterCode = ""
  · simp [code] at ok
  · cases storage : cfg.getStorage (normalizeStorageType inp.storageType) with
    | error err => simp [code, storage] at ok
    | ok st =>
        simp only [code, storage, if_false] at ok
        refine ⟨⟨st, rfl⟩, ?_, ?_⟩
        · intro empty
          simp [empty] at ok
        · intro empty
          by_cases nss : inp.namespaces = [] <;> simp [empty, nss] at ok

/-- The same rows and files. -/
def Store.SameRows (s t : Store) : Prop :=
  t.tasks = s.tasks ∧ t.lastId = s.lastId ∧ t.files = s.files

/-- Enqueueing leaves the rows alone, or a failure of Redis marks the new row as failed. -/
theorem enqueue_cases {h : Health} {s s' : Store} {task : BackupTask}
    {payload : Option BatchPayload} {taskType : TaskType} {res : Except Error BackupTask}
    (run : enqueue h s task payload taskType = (s', res)) :
    (res = .ok task ∧ s.SameRows s' ∧ ∀ p, payload = some p → s'.payloads task.id = some p) ∨
      ∃ t err, s.SameRows t ∧ res = .error err ∧ s' = setTaskError h t task.id err.text := by
  unfold enqueue at run
  cases payload with
  | none =>
      cases pushed : h.push.error with
      | none =>
          simp only [pushed, Prod.mk.injEq] at run
          obtain ⟨rfl, rfl⟩ := run
          exact .inl ⟨rfl, ⟨by simp, by simp, by simp⟩, nofun⟩
      | some err =>
          simp only [pushed, Prod.mk.injEq] at run
          obtain ⟨rfl, rfl⟩ := run
          exact .inr ⟨_, _, ⟨by simp, by simp, by simp⟩, rfl, rfl⟩
  | some p =>
      cases stored : h.payload.error with
      | some err =>
          simp only [stored, Prod.mk.injEq] at run
          obtain ⟨rfl, rfl⟩ := run
          exact .inr ⟨_, _, ⟨by simp, by simp, by simp⟩, rfl, rfl⟩
      | none =>
          have applied : h.payload = .done := by
            cases eq : h.payload <;> simp_all [WriteResult.error]
          cases pushed : h.push.error with
          | none =>
              simp only [stored, pushed, Prod.mk.injEq] at run
              obtain ⟨rfl, rfl⟩ := run
              refine .inl ⟨rfl, ⟨by simp, by simp, by simp⟩, ?_⟩
              intro stored eq
              cases eq
              simp [Store.setPayload, applied, WriteResult.applies]
          | some err =>
              simp only [stored, pushed, Prod.mk.injEq] at run
              obtain ⟨rfl, rfl⟩ := run
              exact .inr ⟨_, _, ⟨by simp, by simp, by simp⟩, rfl, rfl⟩

/-- An accepted batch is a task of its cluster and storage with its payload beside it. -/
theorem submitBackupTask_batch {cfg : BackupConfig} {h : Health} {s s' : Store}
    {inp : SubmitBackupInput} {task : BackupTask} (batch : inp.mode = .namespaceBatch)
    (ok : submitBackupTask cfg h s inp = (s', .ok task)) :
    (∃ st, cfg.getStorage task.storageType = .ok st) ∧ inp.namespaces ≠ [] ∧
      inp.kindFilter ≠ [] ∧ task.clusterCode = inp.clusterCode ∧
      s'.payloads task.id = some inp.payload := by
  have mode : inp.effectiveMode = .namespaceBatch := by
    simp [SubmitBackupInput.effectiveMode, batch]
  unfold submitBackupTask at ok
  cases valid : inp.validate cfg with
  | error err => simp [valid] at ok
  | ok _ =>
      obtain ⟨storage, nss, kinds⟩ := SubmitBackupInput.validate_batch mode valid
      cases created : h.create.error with
      | some err => simp [valid, created] at ok
      | none =>
          simp only [valid, created, mode, if_true] at ok
          obtain ⟨res, _, payload⟩ | ⟨_, _, _, res, _⟩ := enqueue_cases ok
          · have new := Except.ok.inj res
            subst new
            exact ⟨by simpa using storage, nss, kinds, by simp, payload _ rfl⟩
          · cases res

theorem get_ok_iff {h : Health} {s : Store} {id : Nat} {t : BackupTask} :
    get h s id = .ok t ↔ id ≠ 0 ∧ h.read = none ∧ s.find id = some t := by
  unfold get
  by_cases zero : id = 0
  · simp [zero]
  · cases h.read with
    | some err => simp [zero]
    | none => cases s.find id <;> simp [zero]

/-- What a deletion leaves of the rows and files. -/
theorem delete_cases (cfg : BackupConfig) (h : Health) (listed : Storage → String → List String)
    (s : Store) (id : Nat) :
    (delete cfg h listed s id).1 = s ∨ ∃ t, get h s id = .ok t ∧
      (delete cfg h listed s id).1.lastId = s.lastId ∧
      (delete cfg h listed s id).1.files = deleteStorageObjects cfg listed s.files t ∧
      (delete cfg h listed s id).1.tasks =
        if h.remove.applies then s.tasks.filter (·.id != id) else s.tasks := by
  unfold delete
  cases found : get h s id with
  | error err => exact .inl rfl
  | ok t =>
      right
      refine ⟨t, rfl, ?_⟩
      dsimp only
      unfold Store.remove
      cases h.remove.applies <;> cases h.remove.error <;> exact ⟨rfl, rfl, rfl⟩

end K8sPlatform.Backup
