import Mathlib.Data.List.Nodup
import K8sPlatform.Backup.Storage

/-! # Backup tasks and the state they live in -/

namespace K8sPlatform.Backup

open Errcode

inductive BackupTaskStatus
  | pending | running | success | failed | cancelled
  deriving DecidableEq, Repr

def BackupTaskStatus.text : BackupTaskStatus → String
  | .pending => "pending"
  | .running => "running"
  | .success => "success"
  | .failed => "failed"
  | .cancelled => "cancelled"

inductive BackupMode
  | single | namespaceBatch | unknown (text : String)
  deriving DecidableEq, Repr

def BackupMode.text : BackupMode → String
  | .single => "single"
  | .namespaceBatch => "namespace_batch"
  | .unknown text => text

structure BackupTask where
  id : Nat
  clusterCode : String
  ns : Option String
  targetKind : Option String
  targetName : Option String
  backupType : String
  restoreMode : String
  storageType : String
  storagePath : String
  status : BackupTaskStatus
  sizeBytes : Option Nat
  operator : String
  operatorId : Nat
  errorMessage : Option String
  objectCount : Nat
  deriving DecidableEq, Repr

def isNamespaceBatch (backupType : String) : Bool :=
  backupType ∈ [BackupMode.namespaceBatch.text, "namespace"]

/-- The hash `backup:batch:<id>`. -/
structure BatchPayload where
  namespaces : String
  kindFilter : String
  cluster : String
  operator : String
  deriving DecidableEq, Repr

inductive TaskType
  | backup | restore | unknown (text : String)
  deriving DecidableEq, Repr

def TaskType.text : TaskType → String
  | .backup => "backup"
  | .restore => "restore"
  | .unknown text => text

/-- An entry of the stream `stream:backup:tasks`. -/
structure StreamMessage where
  taskId : Nat
  taskType : TaskType
  deriving DecidableEq, Repr

/-- The live rows of `backup_task`, the last id given out, the batch payloads and the stream in
Redis, and the files of the storages. -/
structure Store where
  tasks : List BackupTask
  lastId : Nat
  payloads : Nat → Option BatchPayload
  stream : List StreamMessage
  files : Files

/-- How a write to the database or to Redis ends; an unreported one takes effect and still
answers with an error. -/
inductive WriteResult
  | done
  | refused (err : String)
  | unreported (err : String)
  deriving DecidableEq, Repr

def WriteResult.applies : WriteResult → Bool
  | .refused _ => false
  | .done | .unreported _ => true

def WriteResult.error : WriteResult → Option String
  | .done => none
  | .refused err | .unreported err => some err

theorem applies_of_error {w : WriteResult} (done : w.error = none) : w.applies = true := by
  cases w with
  | done => rfl
  | refused err => cases done
  | unreported err => rfl

namespace Store

def empty : Store := ⟨[], 0, fun _ => none, [], fun _ => none⟩

def find (s : Store) (id : Nat) : Option BackupTask := s.tasks.find? (·.id == id)

/-- `UPDATE … WHERE id = ?`. -/
def update (s : Store) (w : WriteResult) (id : Nat) (change : BackupTask → BackupTask) : Store :=
  if w.applies then
    { s with tasks := s.tasks.map fun t => if t.id = id then change t else t }
  else s

/-- `INSERT`: the row gets the next id. -/
def insert (s : Store) (w : WriteResult) (row : BackupTask) : Store :=
  if w.applies then
    { s with tasks := s.tasks ++ [{ row with id := s.lastId + 1 }], lastId := s.lastId + 1 }
  else s

/-- A soft delete: the row is no longer live. -/
def remove (s : Store) (w : WriteResult) (id : Nat) : Store :=
  if w.applies then { s with tasks := s.tasks.filter (·.id != id) } else s

def push (s : Store) (w : WriteResult) (msg : StreamMessage) : Store :=
  if w.applies then { s with stream := s.stream ++ [msg] } else s

def setPayload (s : Store) (w : WriteResult) (id : Nat) (payload : BatchPayload) : Store :=
  if w.applies then { s with payloads := Function.update s.payloads id (some payload) } else s

variable (s : Store) (w : WriteResult)

@[simp] theorem update_files (id : Nat) (change : BackupTask → BackupTask) :
    (s.update w id change).files = s.files := by unfold update; split <;> rfl

@[simp] theorem update_lastId (id : Nat) (change : BackupTask → BackupTask) :
    (s.update w id change).lastId = s.lastId := by unfold update; split <;> rfl

@[simp] theorem update_payloads (id : Nat) (change : BackupTask → BackupTask) :
    (s.update w id change).payloads = s.payloads := by unfold update; split <;> rfl

@[simp] theorem update_stream (id : Nat) (change : BackupTask → BackupTask) :
    (s.update w id change).stream = s.stream := by unfold update; split <;> rfl

@[simp] theorem push_tasks (msg : StreamMessage) : (s.push w msg).tasks = s.tasks := by
  unfold push; split <;> rfl

@[simp] theorem push_lastId (msg : StreamMessage) : (s.push w msg).lastId = s.lastId := by
  unfold push; split <;> rfl

@[simp] theorem push_files (msg : StreamMessage) : (s.push w msg).files = s.files := by
  unfold push; split <;> rfl

@[simp] theorem push_payloads (msg : StreamMessage) : (s.push w msg).payloads = s.payloads := by
  unfold push; split <;> rfl

@[simp] theorem setPayload_tasks (id : Nat) (payload : BatchPayload) :
    (s.setPayload w id payload).tasks = s.tasks := by unfold setPayload; split <;> rfl

@[simp] theorem setPayload_lastId (id : Nat) (payload : BatchPayload) :
    (s.setPayload w id payload).lastId = s.lastId := by unfold setPayload; split <;> rfl

@[simp] theorem setPayload_files (id : Nat) (payload : BatchPayload) :
    (s.setPayload w id payload).files = s.files := by unfold setPayload; split <;> rfl

@[simp] theorem insert_files (row : BackupTask) : (s.insert w row).files = s.files := by
  unfold insert; split <;> rfl

@[simp] theorem remove_files (id : Nat) : (s.remove w id).files = s.files := by
  unfold remove; split <;> rfl

@[simp] theorem remove_lastId (id : Nat) : (s.remove w id).lastId = s.lastId := by
  unfold remove; split <;> rfl

theorem mem_insert {row t : BackupTask} (h : t ∈ (s.insert w row).tasks) :
    t ∈ s.tasks ∨ t = { row with id := s.lastId + 1 } := by
  unfold insert at h
  split at h
  · simpa using h
  · exact .inl h

theorem find_mem {s : Store} {id : Nat} {t : BackupTask} (h : s.find id = some t) :
    t ∈ s.tasks ∧ t.id = id :=
  ⟨List.mem_of_find?_eq_some h, by simpa using List.find?_some h⟩

theorem find_eq {s : Store} {t : BackupTask} (ids : (s.tasks.map (·.id)).Nodup)
    (mem : t ∈ s.tasks) : s.find t.id = some t := by
  cases found : s.find t.id with
  | none =>
      have none_ := List.find?_eq_none.1 found t mem
      simp at none_
  | some t' =>
      obtain ⟨mem', same⟩ := find_mem found
      rw [List.inj_on_of_nodup_map ids mem' mem same]

theorem find_map {s s' : Store} {change : BackupTask → BackupTask}
    (tasks : s'.tasks = s.tasks.map change) (keeps : ∀ t, (change t).id = t.id) (id : Nat) :
    s'.find id = (s.find id).map change := by
  have same : ((·.id == id) ∘ change) = (·.id == id) := by
    funext t
    simp only [Function.comp_apply, keeps]
  rw [find, find, tasks, List.find?_map, same]

theorem find_change {s s' : Store} {change : BackupTask → BackupTask} {id : Nat}
    (tasks : s'.tasks = s.tasks.map fun t => if t.id = id then change t else t)
    (keeps : ∀ t, (change t).id = t.id) : s'.find id = (s.find id).map change := by
  have mapped : s'.find id = (s.find id).map fun t => if t.id = id then change t else t := by
    apply find_map tasks
    intro t
    split
    · exact keeps t
    · rfl
  rw [mapped]
  cases found : s.find id with
  | none => rfl
  | some t => simp only [Option.map_some, if_pos (find_mem found).2]

theorem find_update {id : Nat} (change : BackupTask → BackupTask)
    (keeps : ∀ t, (change t).id = t.id) :
    (s.update w id change).find id =
      if w.applies = true then (s.find id).map change else s.find id := by
  unfold update
  split
  · exact find_change rfl keeps
  · rfl

theorem find_insert {s : Store} (bound : ∀ t ∈ s.tasks, t.id ≤ s.lastId) (row : BackupTask) :
    (s.insert .done row).find (s.lastId + 1) = some { row with id := s.lastId + 1 } := by
  have old : s.tasks.find? (·.id == s.lastId + 1) = none := by
    refine List.find?_eq_none.2 fun t mem => ?_
    have le := bound t mem
    simp only [beq_iff_eq]
    omega
  show (s.tasks ++ [_]).find? _ = _
  rw [List.find?_append, old]
  simp

theorem find_remove (id : Nat) :
    (s.remove w id).find id = if w.applies = true then none else s.find id := by
  unfold remove
  split
  · simp [find]
  · rfl

end Store

/-- The rows after are rows from before, each changed as `R` says. -/
structure RowsTo (R : BackupTask → BackupTask → Prop) (s s' : Store) : Prop where
  lastId : s'.lastId = s.lastId
  ids : (s'.tasks.map (·.id)).Sublist (s.tasks.map (·.id))
  rows : ∀ t' ∈ s'.tasks, ∃ t ∈ s.tasks, R t t'

theorem RowsTo.refl {R : BackupTask → BackupTask → Prop} {s s' : Store} (same : ∀ t, R t t)
    (tasks : s'.tasks = s.tasks) (lastId : s'.lastId = s.lastId) : RowsTo R s s' := by
  refine ⟨lastId, ?_, ?_⟩
  · rw [tasks]
  · intro t mem
    exact ⟨t, tasks ▸ mem, same t⟩

theorem RowsTo.trans {R R' R'' : BackupTask → BackupTask → Prop} {s s₁ s₂ : Store}
    (h : RowsTo R s s₁) (h' : RowsTo R' s₁ s₂)
    (comp : ∀ {a b c}, R a b → R' b c → R'' a c) : RowsTo R'' s s₂ := by
  refine ⟨h'.lastId.trans h.lastId, h'.ids.trans h.ids, ?_⟩
  intro t₂ mem₂
  obtain ⟨t₁, mem₁, step'⟩ := h'.rows t₂ mem₂
  obtain ⟨t, mem, step⟩ := h.rows t₁ mem₁
  exact ⟨t, mem, comp step step'⟩

theorem RowsTo.map {R : BackupTask → BackupTask → Prop} {s s' : Store}
    {change : BackupTask → BackupTask} (tasks : s'.tasks = s.tasks.map change)
    (lastId : s'.lastId = s.lastId) (keeps : ∀ t, (change t).id = t.id)
    (changed : ∀ t ∈ s.tasks, R t (change t)) : RowsTo R s s' := by
  refine ⟨lastId, ?_, ?_⟩
  · have ids : s'.tasks.map (·.id) = s.tasks.map (·.id) := by
      rw [tasks, List.map_map]
      exact List.map_congr_left fun t _ => keeps t
    rw [ids]
  · intro t' mem
    rw [tasks] at mem
    obtain ⟨t, memT, rfl⟩ := List.mem_map.1 mem
    exact ⟨t, memT, changed t memT⟩

theorem RowsTo.update {R : BackupTask → BackupTask → Prop} {s : Store} {w : WriteResult} {id : Nat}
    {change : BackupTask → BackupTask} (same : ∀ t, R t t)
    (changed : ∀ t, t.id = id → R t (change t)) (keeps : ∀ t, (change t).id = t.id) :
    RowsTo R s (s.update w id change) := by
  unfold Store.update
  split
  · refine .map rfl rfl (fun t => ?_) fun t _ => ?_
    · split
      · exact keeps t
      · rfl
    · split
      · rename_i isId
        exact changed t isId
      · exact same t
  · exact .refl same rfl rfl

end K8sPlatform.Backup
