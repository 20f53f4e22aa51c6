import K8sPlatform.Backup.Worker

/-! # What executions do to the rows -/

namespace K8sPlatform.Backup

/-- A row stays, or is over: it neither waits again nor starts to run. -/
def Ends (old new : BackupTask) : Prop :=
  new.id = old.id ∧ (new.status = old.status ∨ new.status = .success ∨ new.status = .failed)

theorem Ends.refl (t : BackupTask) : Ends t t := ⟨rfl, .inl rfl⟩

theorem RowsTo.ends_update {s s' : Store} {w : WriteResult} {id : Nat}
    {change : BackupTask → BackupTask} (tasks : s'.tasks = s.tasks) (lastId : s'.lastId = s.lastId)
    (ends : ∀ t, Ends t (change t)) : RowsTo Ends s (s'.update w id change) := by
  obtain ⟨last, ids, rows⟩ := RowsTo.update (s := s') (w := w) .refl (fun t _ => ends t)
    fun t => (ends t).1
  exact ⟨last.trans lastId, tasks ▸ ids, tasks ▸ rows⟩

theorem setTaskError_ends (h : Health) (s : Store) (id : Nat) (err : String) :
    RowsTo Ends s (setTaskError h s id err) := by
  unfold setTaskError
  split
  · exact .refl .refl rfl rfl
  · exact .ends_update rfl rfl fun t => ⟨rfl, .inr (.inr rfl)⟩

theorem failTask_ends (s : Store) (w : WriteResult) (id : Nat) (err : String) :
    RowsTo Ends s (failTask s w id err) := by
  unfold failTask
  split
  · exact .refl .refl rfl rfl
  · exact .ends_update rfl rfl fun t => ⟨rfl, .inr (.inr rfl)⟩

theorem delete_ends {cfg : BackupConfig} (h : Health) (listed : Storage → String → List String)
    (s : Store) (id : Nat) : RowsTo Ends s (delete cfg h listed s id).1 := by
  rcases delete_cases cfg h listed s id with
    same | ⟨t, -, lastId, -, tasks⟩
  · rw [same]
    exact .refl .refl rfl rfl
  · have sub : (delete cfg h listed s id).1.tasks.Sublist s.tasks := by
      rw [tasks]
      split
      · exact List.filter_sublist
      · exact .refl _
    exact ⟨lastId, sub.map _, fun t mem => ⟨t, sub.subset mem, .refl t⟩⟩

/-- An update that takes effect leaves no row of the id running when its change does not. -/
theorem Store.update_settles {s : Store} {w : WriteResult} {id : Nat}
    {change : BackupTask → BackupTask} (applies : w.applies = true)
    (settled : ∀ t, (change t).status ≠ .running) :
    ∀ t ∈ (s.update w id change).tasks, t.id = id → t.status ≠ .running := by
  intro t mem isId
  unfold Store.update at mem
  rw [if_pos applies] at mem
  obtain ⟨old, -, rfl⟩ := List.mem_map.1 mem
  split at isId
  · rename_i own
    rw [if_pos own]
    exact settled old
  · rename_i other
    exact absurd isId other

/-- An execution ends rows at most, and one that succeeds ends its own. -/
def Executes (id : Nat) (s : Store) (run : Store × Except String Unit) : Prop :=
  RowsTo Ends s run.1 ∧
    (run.2 = .ok () → ∀ t ∈ run.1.tasks, t.id = id → t.status ≠ .running)

variable {cfg : BackupConfig} {e : Environment}

/-- An execution ends with at most one write to the rows, to that of its task; one that succeeds
has marked it as a success. -/
def Writes (id : Nat) (s : Store) (run : Store × Except String Unit) : Prop :=
  ∃ files w change, run.1 = { s with files := files }.update w id change ∧
    (∀ t, Ends t (change t)) ∧
    (run.2 = .ok () → w.error = none ∧ ∀ t, (change t).status = .success)

theorem Writes.failed {id : Nat} (s : Store) (err : String) : Writes id s (s, .error err) :=
  ⟨s.files, .refused err, fun t => t, rfl, .refl, nofun⟩

/-- The last write of an execution marks the task as a success. -/
theorem Writes.result {id : Nat} {s : Store} {files : Files} {w : WriteResult} {msg : String}
    {change : BackupTask → BackupTask}
    (success : ∀ t, (change t).id = t.id ∧ (change t).status = .success) :
    Writes id s (match w.error with
      | some err => ({ s with files := files }.update w id change, .error (msg ++ err))
      | none => ({ s with files := files }.update w id change, .ok ())) := by
  have ends (t : BackupTask) : Ends t (change t) := ⟨(success t).1, .inr (.inl (success t).2)⟩
  cases done : w.error with
  | some err => exact ⟨files, w, change, rfl, ends, nofun⟩
  | none => exact ⟨files, w, change, rfl, ends, fun _ => ⟨done, fun t => (success t).2⟩⟩

theorem doBackupSingle_writes (s : Store) (task : BackupTask) :
    Writes task.id s (doBackupSingle cfg e s task) := by
  unfold doBackupSingle
  split
  · exact .failed s _
  · exact .result fun t => ⟨rfl, rfl⟩

theorem doRestore_writes (s : Store) (task : BackupTask) :
    Writes task.id s (doRestore cfg e s task) := by
  unfold doRestore
  split
  · exact .failed s _
  split
  · exact .failed s _
  split
  · exact .failed s _
  split
  · exact .failed s _
  split
  · exact .failed s _
  · exact Writes.result fun t => ⟨rfl, rfl⟩

theorem runBatch_writes (s : Store) (task : BackupTask) (st : Storage) (namespaces : List String)
    (kinds : List (String × GVR)) :
    Writes task.id s ((runBatch cfg e s task st namespaces kinds).store,
      (runBatch cfg e s task st namespaces kinds).result) := by
  unfold runBatch
  dsimp only
  split
  · exact ⟨s.files, e.result, _, rfl, fun t => ⟨rfl, .inl rfl⟩, nofun⟩
  split
  · exact ⟨_, e.result, _, rfl, fun t => ⟨rfl, .inr (.inr rfl)⟩, nofun⟩
  · have ends (t : BackupTask) (size count : Nat) (path msg : String) :
        Ends t { t with
          status := .success, sizeBytes := some size, objectCount := count, storagePath := path
          errorMessage := some msg } := ⟨rfl, .inr (.inl rfl)⟩
    cases done : e.result.error with
    | some err => exact ⟨_, e.result, _, rfl, fun t => ends t _ _ _ _, nofun⟩
    | none => exact ⟨_, e.result, _, rfl, fun t => ends t _ _ _ _, fun _ => ⟨done, fun _ => rfl⟩⟩

theorem executeTask_writes (cfg : BackupConfig) (e : Environment) (s : Store) (task : BackupTask)
    (taskType : TaskType) : Writes task.id s (executeTask cfg e s task taskType) := by
  cases taskType with
  | restore => exact doRestore_writes s task
  | unknown text => exact .failed s _
  | backup =>
      unfold executeTask
      dsimp only
      split
      · unfold doBackupNamespaceBatch
        split
        · exact .failed s _
        · dsimp only
          split
          · exact .failed s _
          split
          · exact .failed s _
          split
          · exact .failed s _
          split
          · exact .failed s _
          · exact runBatch_writes s task _ _ _
      · exact doBackupSingle_writes s task

theorem executeTask_executes (cfg : BackupConfig) (e : Environment) (s : Store) (task : BackupTask)
    (taskType : TaskType) :
    Executes task.id s (executeTask cfg e s task taskType) := by
  obtain ⟨files, w, change, run, ends, success⟩ := executeTask_writes cfg e s task taskType
  constructor
  · rw [run]
    exact .ends_update rfl rfl ends
  · intro ok
    obtain ⟨done, status⟩ := success ok
    rw [run]
    apply Store.update_settles (applies_of_error done)
    intro t
    rw [status t]
    nofun

end K8sPlatform.Backup
