import K8sPlatform.Backup.Worker
import K8sPlatform.Lib.Transition

/-! # The platform with its files -/

namespace K8sPlatform.Backup

open Errcode FilePath

/-- The state of the platform, and what the execution of each task uploaded. -/
structure Vault where
  store : Store
  uploads : Nat → Option Upload

def Vault.empty : Vault := ⟨.empty, fun _ => none⟩

/-- One call on the manager, or one delivery of a task to a worker. -/
inductive Event
  | submitBackup (h : Health) (inp : SubmitBackupInput)
  | submitRestore (h : Health) (inp : SubmitRestoreInput) (uuid : String)
  | handle (e : Environment) (id : Nat) (taskType : TaskType)
  | delete (h : Health) (listed : Storage → String → List String) (id : Nat)

variable (cfg : BackupConfig)

/-- The task that a delivery executes as a single backup, if it does. -/
def singleExecuted (e : Environment) (s : Store) (id : Nat) (taskType : TaskType) :
    Option BackupTask :=
  match s.find id with
  | none => none
  | some task =>
      if e.load = none ∧ task.status = .pending ∧ e.claim.error = none ∧ taskType = .backup ∧
          task.backupType ≠ BackupMode.namespaceBatch.text then
        some { task with status := .running }
      else none

def uploadOf (e : Environment) (s : Store) (id : Nat) (taskType : TaskType) : Option Upload :=
  match singleExecuted e s id taskType with
  | none => none
  | some task => (uploadSingle cfg e s.files task).toOption.map (·.1)

def Vault.next (v : Vault) : Event → Vault
  | .submitBackup h inp => { v with store := (submitBackupTask cfg h v.store inp).1 }
  | .submitRestore h inp uuid =>
      { v with store := (submitRestoreTask cfg h v.store inp uuid).1 }
  | .handle e id taskType =>
      { store := (handleTask cfg e v.store id taskType).1
        uploads := match uploadOf cfg e v.store id taskType with
          | none => v.uploads
          | some u => Function.update v.uploads id (some u) }
  | .delete h listed id => { v with store := (delete cfg h listed v.store id).1 }

/-- Batches are not executed. -/
def Event.NotBatch (v : Vault) : Event → Prop
  | .handle _ id _ => ∀ t, v.store.find id = some t → isNamespaceBatch t.backupType = false
  | _ => True

/-- The platform with its single backups, restores and deletions. -/
def vaultSystem : Transition.System Vault Event :=
  (Transition.System.ofFn (· = .empty) (Vault.next cfg)).guard fun v ev => ev.NotBatch v

/-- The record is a backup that can be downloaded and restored. -/
def BackupTask.Live (t : BackupTask) : Prop :=
  t.backupType = BackupMode.single.text ∧ t.status = .success ∧ t.storagePath ≠ ""

instance (t : BackupTask) : Decidable t.Live := by
  unfold BackupTask.Live
  infer_instance

/-- A download gives back what the task uploaded, and a restore is accepted and reads it. -/
def Vault.Readable (v : Vault) (t : BackupTask) : Prop :=
  ∃ u st, v.uploads t.id = some u ∧ download cfg healthy v.store t.id = .ok u.content ∧
    cfg.getStorage t.storageType = .ok st ∧
    st.download cfg v.store.files t.storagePath = .ok u.content ∧
    ∀ inp : SubmitRestoreInput, inp.backupId = t.id →
      inp.mode ∈ ["", restoreModeOverwrite, restoreModeCreateNew] →
      ∃ mode, inp.source cfg healthy v.store = .ok (t, mode)

/-- The condition on a step. Local storage finds the key of a backup again: it does not start with a
slash, or the storage begins at the root and the host finds the key as it is written. A record that
is deleted shares its object with no other live backup, and if it is one, its row goes with the
object. -/
def Event.Kept (v : Vault) : Event → Prop
  | .handle e id taskType => ∀ task, singleExecuted e v.store id taskType = some task →
      ∀ up files res, uploadSingle cfg e v.store.files task = .ok (up, files, res) →
        ∀ baseDir, cfg.getStorage task.storageType = .ok (.localStorage baseDir) →
          cfg.Finds baseDir up.key
  | .delete h _ id => ∀ t, get h v.store id = .ok t → t.storagePath ≠ "" →
      ∀ other ∈ v.store.tasks, other.Live → other.storageType = t.storageType →
        other.storagePath = t.storagePath → other = t ∧ h.remove.applies = true
  | _ => True

/-! ## What a delivery does to the rows -/

/-- The same record, whatever became of it. -/
def SameRecord (old new : BackupTask) : Prop :=
  new.id = old.id ∧ new.clusterCode = old.clusterCode ∧ new.backupType = old.backupType ∧
    new.storageType = old.storageType

theorem SameRecord.refl (t : BackupTask) : SameRecord t t := ⟨rfl, rfl, rfl, rfl⟩

theorem SameRecord.trans {a b c : BackupTask} (h : SameRecord a b) (h' : SameRecord b c) :
    SameRecord a c := by
  obtain ⟨id, code, type, storage⟩ := h
  obtain ⟨id', code', type', storage'⟩ := h'
  exact ⟨id'.trans id, code'.trans code, type'.trans type, storage'.trans storage⟩

/-- Only the row of the task changes, and not where its object is. -/
def Touched (id : Nat) (old new : BackupTask) : Prop :=
  SameRecord old new ∧ new.storagePath = old.storagePath ∧ (old.id = id ∨ new = old)

/-- Only the row of the task changes; if it was pending it is no longer, and it is a success
only with its key. -/
def Stored (id : Nat) (key : String) (old new : BackupTask) : Prop :=
  SameRecord old new ∧ (old.id = id ∨ new = old) ∧
    (old.id = id → old.status = .pending → new.status ≠ .pending ∧
      (new.storagePath = old.storagePath ∨ new.storagePath = key) ∧
      (new.status = .success → new.storagePath = key))

theorem Touched.refl (id : Nat) (t : BackupTask) : Touched id t t :=
  ⟨.refl t, rfl, .inr rfl⟩

theorem Touched.trans {id : Nat} {a b c : BackupTask} (h : Touched id a b) (h' : Touched id b c) :
    Touched id a c := by
  obtain ⟨record, path, only⟩ := h
  obtain ⟨record', path', only'⟩ := h'
  refine ⟨record.trans record', path'.trans path, ?_⟩
  obtain isId | rfl := only
  · exact .inl isId
  · exact only'

theorem claimTask_touched (s : Store) (w : WriteResult) (id : Nat) :
    RowsTo (Touched id) s (claimTask s w id).1 ∧ (claimTask s w id).1.files = s.files := by
  rw [claimTask_store]
  refine ⟨.map rfl rfl (fun t => t.claimed_id w id) fun t _ => ?_, rfl⟩
  unfold BackupTask.claimed
  split
  · rename_i own
    exact ⟨⟨rfl, rfl, rfl, rfl⟩, rfl, .inl own.2.1⟩
  · exact .refl id t

theorem failTask_touched (s : Store) (w : WriteResult) (id : Nat) (err : String) :
    RowsTo (Touched id) s (failTask s w id err) ∧ (failTask s w id err).files = s.files := by
  unfold failTask
  split
  · exact ⟨.refl (.refl id) rfl rfl, rfl⟩
  · refine ⟨RowsTo.update (Touched.refl id) ?_ fun _ => rfl, by simp⟩
    intro t isId
    exact ⟨⟨rfl, rfl, rfl, rfl⟩, rfl, .inl isId⟩

variable {cfg} {e : Environment}

theorem doRestore_touched (s : Store) (task : BackupTask) :
    RowsTo (Touched task.id) s (doRestore cfg e s task).1 ∧
      (doRestore cfg e s task).1.files = s.files := by
  have unchanged : RowsTo (Touched task.id) s s ∧ s.files = s.files :=
    ⟨.refl (.refl _) rfl rfl, rfl⟩
  unfold doRestore
  split
  · exact unchanged
  split
  · exact unchanged
  split
  · exact unchanged
  split
  · exact unchanged
  split
  · exact unchanged
  · have updated : ∀ change : BackupTask → BackupTask,
        (∀ t, SameRecord t (change t) ∧ (change t).storagePath = t.storagePath) →
        RowsTo (Touched task.id) s (s.update e.result task.id change) := by
      intro change keeps
      refine RowsTo.update (Touched.refl _) ?_ fun t => (keeps t).1.1
      intro t isId
      exact ⟨(keeps t).1, (keeps t).2, .inl isId⟩
    cases reported : e.result.error <;>
      exact ⟨updated _ fun t => ⟨⟨rfl, rfl, rfl, rfl⟩, rfl⟩, by simp⟩

/-- A claim that succeeds takes the pending row to running. -/
def Claimed (id : Nat) (old new : BackupTask) : Prop :=
  Touched id old new ∧ (old.id = id → old.status = .pending → new.status = .running)

theorem claimTask_claimed {s : Store} {w : WriteResult} (done : w.error = none) (id : Nat) :
    RowsTo (Claimed id) s (claimTask s w id).1 := by
  have applies := applies_of_error done
  rw [claimTask_store]
  refine .map rfl rfl (fun t => t.claimed_id w id) fun t _ => ?_
  unfold BackupTask.claimed
  split
  · rename_i own
    exact ⟨⟨⟨rfl, rfl, rfl, rfl⟩, rfl, .inl own.2.1⟩, fun _ _ => rfl⟩
  · rename_i other
    exact ⟨.refl id t, fun isId pending => absurd ⟨applies, isId, pending⟩ other⟩

/-- The write of a result leaves the row, or makes it a success with its key. -/
def Placed (id : Nat) (key : String) (old new : BackupTask) : Prop :=
  SameRecord old new ∧ (old.id = id ∨ new = old) ∧
    (new = old ∨ new.status = .success ∧ new.storagePath = key)

theorem Stored.of_claimed_placed {id : Nat} {key : String} {a b c : BackupTask}
    (h : Claimed id a b) (h' : Placed id key b c) : Stored id key a c := by
  obtain ⟨⟨record, path, only⟩, running⟩ := h
  obtain ⟨record', only', placed⟩ := h'
  refine ⟨record.trans record', ?_, ?_⟩
  · obtain isId | rfl := only
    · exact .inl isId
    · exact only'
  · intro isId pending
    have status := running isId pending
    obtain rfl | ⟨success, key_⟩ := placed
    · rw [status]
      exact ⟨nofun, .inl path, nofun⟩
    · rw [success, key_]
      exact ⟨nofun, .inr rfl, fun _ => rfl⟩

/-- The write after a failure leaves the row, or marks it as failed. -/
def Failing (id : Nat) (old new : BackupTask) : Prop :=
  Touched id old new ∧ (new = old ∨ new.status = .failed)

theorem failTask_failing (s : Store) (w : WriteResult) (id : Nat) (err : String) :
    RowsTo (Failing id) s (failTask s w id err) := by
  unfold failTask
  split
  · exact .refl (fun t => ⟨.refl id t, .inl rfl⟩) rfl rfl
  · refine RowsTo.update (fun t => ⟨.refl id t, .inl rfl⟩) ?_ fun _ => rfl
    intro t isId
    exact ⟨⟨⟨rfl, rfl, rfl, rfl⟩, rfl, .inl isId⟩, .inr rfl⟩

theorem Stored.trans_failing {id : Nat} {key : String} {a b c : BackupTask}
    (h : Stored id key a b) (h' : Failing id b c) : Stored id key a c := by
  obtain ⟨record, only, stored⟩ := h
  obtain ⟨⟨record', path', only'⟩, failing⟩ := h'
  refine ⟨record.trans record', ?_, ?_⟩
  · obtain isId | rfl := only
    · exact .inl isId
    · exact only'
  · intro isId pending
    obtain ⟨left, path, success⟩ := stored isId pending
    rw [path']
    obtain rfl | failed := failing
    · exact ⟨left, path, success⟩
    · rw [failed]
      exact ⟨nofun, path, nofun⟩

/-- A single backup reads an object of a kind it can resolve. -/
theorem readSingle_resolves {task : BackupTask} {kind name yaml : String}
    (h : readSingle e task = .ok (kind, name, yaml)) : ∃ gvr, resolveGVR kind = .ok gvr := by
  unfold readSingle at h
  cases client : e.client task.clusterCode with
  | some err => simp [client] at h
  | none =>
      cases targetKind : task.targetKind with
      | none => simp [client, targetKind] at h
      | some k =>
          cases targetName : task.targetName with
          | none => simp [client, targetKind, targetName] at h
          | some n =>
              simp only [client, targetKind, targetName] at h
              cases resolved : resolveGVR k with
              | error err => simp [resolved] at h
              | ok gvr =>
                  simp only [resolved] at h
                  split at h
                  · cases h
                  · cases h
                    exact ⟨gvr, resolved⟩

/-- What an upload of a task puts where. -/
theorem uploadSingle_ok {files files' : Files} {task : BackupTask} {u : Upload} {res : UploadResult}
    (h : uploadSingle cfg e files task = .ok (u, files', res)) :
    ∃ kind gvr name st path, resolveGVR kind = .ok gvr ∧
      cfg.getStorage task.storageType = .ok st ∧ u.storageType = task.storageType ∧
      u.key = buildKey task.clusterCode (e.date 0) (toString task.id) kind name ∧
      res.storagePath = u.key ∧ st.uploadPath cfg u.key = .ok path ∧
      files' = Function.update files path (some u.content) := by
  unfold uploadSingle at h
  cases found : readSingle e task with
  | error err => simp [found] at h
  | ok object =>
      obtain ⟨kind, name, yaml⟩ := object
      cases storage : cfg.getStorage task.storageType with
      | error err => simp [found, storage] at h
      | ok st =>
          obtain ⟨gvr, resolved⟩ := readSingle_resolves found
          simp only [found, storage, Environment.upload, Storage.upload] at h
          cases disk : e.disk 0 with
          | some err => simp [disk] at h
          | none =>
              cases placed : st.uploadPath cfg (buildKey task.clusterCode (e.date 0)
                  (toString task.id) kind name) with
              | error err =>
                  simp only [disk, placed] at h
                  cases h
              | ok path =>
                  simp only [disk, placed, Except.ok.injEq, Prod.mk.injEq] at h
                  obtain ⟨rfl, rfl, rfl⟩ := h
                  exact ⟨kind, gvr, name, st, path, resolved, rfl, rfl, rfl, rfl, placed, rfl⟩

/-- The execution of a single backup either fails before its upload and changes nothing, or
uploads and then writes the result. -/
theorem doBackupSingle_cases (cfg : BackupConfig) (e : Environment) (s : Store)
    (task : BackupTask) :
    (∃ err, uploadSingle cfg e s.files task = .error err ∧
      doBackupSingle cfg e s task = (s, .error err)) ∨
      ∃ u files res, uploadSingle cfg e s.files task = .ok (u, files, res) ∧
        (doBackupSingle cfg e s task).1.files = files ∧
        RowsTo (Placed task.id u.key) s (doBackupSingle cfg e s task).1 := by
  unfold doBackupSingle
  cases uploaded : uploadSingle cfg e s.files task with
  | error err => exact .inl ⟨err, rfl, rfl⟩
  | ok r =>
      obtain ⟨u, files, res⟩ := r
      obtain ⟨_, _, _, _, _, -, -, -, -, key, -, -⟩ := uploadSingle_ok uploaded
      refine .inr ⟨u, files, res, rfl, ?_⟩
      have placed : RowsTo (Placed task.id u.key) { s with files := files }
          ({ s with files := files }.update e.result task.id fun t =>
            { t with
              status := .success, sizeBytes := some res.sizeBytes, objectCount := 1,
              storagePath := res.storagePath }) := by
        refine RowsTo.update (fun t => ⟨.refl t, .inr rfl, .inl rfl⟩) ?_ fun _ => rfl
        intro t isId
        exact ⟨⟨rfl, rfl, rfl, rfl⟩, .inl isId, .inr ⟨rfl, key⟩⟩
      have fromHere : RowsTo (Placed task.id u.key) s
          ({ s with files := files }.update e.result task.id fun t =>
            { t with
              status := .success, sizeBytes := some res.sizeBytes, objectCount := 1,
              storagePath := res.storagePath }) := ⟨placed.lastId, placed.ids, placed.rows⟩
      cases reported : e.result.error <;> exact ⟨by simp, fromHere⟩

/-- A delivery that claims its task. -/
theorem handleTask_claimed {s : Store} {id : Nat} {taskType : TaskType} {task : BackupTask}
    (load : e.load = none) (found : s.find id = some task) (pending : task.status = .pending)
    (claim : e.claim.error = none) :
    handleTask cfg e s id taskType =
      runTask cfg e (claimTask s e.claim id).1 { task with status := .running } taskType := by
  have won : (claimTask s e.claim id).2 = true := by
    obtain ⟨mem, isId⟩ := Store.find_mem found
    have there : s.tasks.any (fun t => t.id == id && t.status == .pending) = true :=
      List.any_eq_true.2 ⟨task, mem, by simp [isId, pending]⟩
    unfold claimTask
    rw [if_pos there]
    exact applies_of_error claim
  unfold handleTask
  simp [load, found, pending, claim, won]

/-- An execution that uploads nothing leaves its own row touched, at most. -/
theorem runTask_touched {s : Store} {task : BackupTask} {taskType : TaskType}
    (h : RowsTo (Touched task.id) s (executeTask cfg e s task taskType).1 ∧
      (executeTask cfg e s task taskType).1.files = s.files) :
    RowsTo (Touched task.id) s (runTask cfg e s task taskType).1 ∧
      (runTask cfg e s task taskType).1.files = s.files := by
  obtain ⟨rows, files⟩ := h
  unfold runTask
  dsimp only
  split
  · exact ⟨rows, files⟩
  · rename_i err _
    obtain ⟨failed, kept⟩ := failTask_touched (executeTask cfg e s task taskType).1 e.failure
      task.id err
    exact ⟨rows.trans failed Touched.trans, kept.trans files⟩

/-- A claimed delivery whose execution uploads nothing leaves its own row touched, at most. -/
theorem runTask_claimed_touched {s : Store} {task : BackupTask} {taskType : TaskType}
    (executed : RowsTo (Touched task.id) (claimTask s e.claim task.id).1
        (executeTask cfg e (claimTask s e.claim task.id).1 { task with status := .running }
          taskType).1 ∧
      (executeTask cfg e (claimTask s e.claim task.id).1 { task with status := .running }
        taskType).1.files = (claimTask s e.claim task.id).1.files) :
    (runTask cfg e (claimTask s e.claim task.id).1 { task with status := .running }
        taskType).1.files = s.files ∧
      RowsTo (Touched task.id) s (runTask cfg e (claimTask s e.claim task.id).1
        { task with status := .running } taskType).1 := by
  obtain ⟨rows, files⟩ := claimTask_touched s e.claim task.id
  obtain ⟨rows', files'⟩ :=
    @runTask_touched cfg e _ { task with status := .running } taskType executed
  exact ⟨files'.trans files, rows.trans rows' Touched.trans⟩

/-- A claimed single backup: it fails before its upload, or it uploads and its row is stored. -/
theorem handleTask_single_cases (cfg : BackupConfig) {s : Store} {task : BackupTask}
    (load : e.load = none) (found : s.find task.id = some task) (pending : task.status = .pending)
    (claim : e.claim.error = none) (single : task.backupType ≠ BackupMode.namespaceBatch.text) :
    (uploadOf cfg e s task.id .backup = none ∧
        (handleTask cfg e s task.id .backup).1.files = s.files ∧
        RowsTo (Touched task.id) s (handleTask cfg e s task.id .backup).1) ∨
      ∃ run u files res, singleExecuted e s task.id .backup = some run ∧ SameRecord task run ∧
        uploadSingle cfg e s.files run = .ok (u, files, res) ∧
        uploadOf cfg e s task.id .backup = some u ∧
        (handleTask cfg e s task.id .backup).1.files = files ∧
        RowsTo (Stored task.id u.key) s (handleTask cfg e s task.id .backup).1 := by
  have files := (claimTask_touched s e.claim task.id).2
  have body : executeTask cfg e (claimTask s e.claim task.id).1
      { task with status := .running } .backup =
        doBackupSingle cfg e (claimTask s e.claim task.id).1 { task with status := .running } := by
    unfold executeTask
    dsimp only
    rw [if_neg single]
  have run : singleExecuted e s task.id .backup = some { task with status := .running } := by
    unfold singleExecuted
    simp [load, found, pending, claim, single]
  rw [handleTask_claimed load found pending claim]
  rcases doBackupSingle_cases cfg e (claimTask s e.claim task.id).1
      { task with status := .running } with
    ⟨err, failed, same⟩ | ⟨u, files', res, uploaded, placedFiles, placed⟩
  · refine .inl ⟨?_, runTask_claimed_touched ?_⟩
    · rw [files] at failed
      simp [uploadOf, run, failed, Except.toOption]
    · rw [body, same]
      exact ⟨.refl (.refl _) rfl rfl, rfl⟩
  · right
    have stored := (claimTask_claimed claim task.id).trans placed Stored.of_claimed_placed
    rw [files] at uploaded
    refine ⟨_, u, files', res, run, ⟨rfl, rfl, rfl, rfl⟩, uploaded, ?_, ?_⟩
    · simp [uploadOf, run, uploaded, Except.toOption]
    · unfold runTask
      dsimp only
      rw [body]
      split
      · exact ⟨placedFiles, stored⟩
      · rename_i err _
        obtain ⟨-, kept⟩ := failTask_touched (doBackupSingle cfg e
          (claimTask s e.claim task.id).1 { task with status := .running }).1 e.failure
          task.id err
        exact ⟨kept.trans placedFiles,
          stored.trans (failTask_failing _ e.failure task.id err) Stored.trans_failing⟩

/-- A delivery outside batches: nothing happens, or the pending row of the task is touched
without an upload, or it is executed as a single backup that uploads. -/
theorem handleTask_cases (cfg : BackupConfig) (e : Environment) {s : Store} {id : Nat}
    (taskType : TaskType)
    (notBatch : ∀ t, s.find id = some t → isNamespaceBatch t.backupType = false) :
    ((handleTask cfg e s id taskType).1 = s ∧ uploadOf cfg e s id taskType = none) ∨
      ∃ task, s.find id = some task ∧ task.status = .pending ∧
        ((uploadOf cfg e s id taskType = none ∧ (handleTask cfg e s id taskType).1.files = s.files ∧
            RowsTo (Touched id) s (handleTask cfg e s id taskType).1) ∨
          ∃ run u files res, singleExecuted e s id taskType = some run ∧ SameRecord task run ∧
            uploadSingle cfg e s.files run = .ok (u, files, res) ∧
            uploadOf cfg e s id taskType = some u ∧
            (handleTask cfg e s id taskType).1.files = files ∧
            RowsTo (Stored id u.key) s (handleTask cfg e s id taskType).1) := by
  cases load : e.load with
  | some err =>
      left
      unfold handleTask uploadOf singleExecuted
      cases s.find id <;> simp [load]
  | none =>
  cases found : s.find id with
  | none =>
      left
      unfold handleTask uploadOf singleExecuted
      simp [load, found]
  | some task =>
  by_cases pending : task.status = .pending
  swap
  · left
    unfold handleTask uploadOf singleExecuted
    simp [load, found, pending]
  right
  refine ⟨task, rfl, pending, ?_⟩
  obtain ⟨mem, rfl⟩ := Store.find_mem found
  cases claim : e.claim.error with
  | some err =>
      left
      obtain ⟨rows, files⟩ := claimTask_touched s e.claim task.id
      have after : (handleTask cfg e s task.id taskType).1 = (claimTask s e.claim task.id).1 := by
        unfold handleTask
        simp [load, found, pending, claim]
      rw [after]
      refine ⟨?_, files, rows⟩
      unfold uploadOf singleExecuted
      simp [found, claim]
  | none =>
  cases taskType with
  | restore =>
      rw [handleTask_claimed load found pending claim]
      refine .inl ⟨?_, runTask_claimed_touched
        (doRestore_touched _ { task with status := .running })⟩
      unfold uploadOf singleExecuted
      simp [found]
  | unknown text =>
      rw [handleTask_claimed load found pending claim]
      refine .inl ⟨?_, runTask_claimed_touched ⟨.refl (.refl _) rfl rfl, rfl⟩⟩
      unfold uploadOf singleExecuted
      simp [found]
  | backup =>
      apply handleTask_single_cases cfg load found pending claim
      intro eq
      have batch := notBatch task found
      rw [eq] at batch
      revert batch
      decide

/-! ## What a submission does to the rows -/

/-- At most one row is added, under the next id, pending or already failed. -/
def Adds (row : BackupTask) (s s' : Store) : Prop :=
  s'.files = s.files ∧
    (s'.tasks = s.tasks ∧ s'.lastId = s.lastId ∨
      s'.lastId = s.lastId + 1 ∧ ∃ new, s'.tasks = s.tasks ++ [new] ∧ new.id = s.lastId + 1 ∧
        SameRecord { row with id := s.lastId + 1 } new ∧ new.storagePath = row.storagePath ∧
        (new.status = .pending ∨ new.status = .failed))

theorem setTaskError_last {h : Health} {s : Store} {olds : List BackupTask} {new : BackupTask}
    {id : Nat} (tasks : s.tasks = olds ++ [new]) (older : ∀ t ∈ olds, t.id ≠ id)
    (isId : new.id = id) (pending : new.status = .pending) (err : String) :
    (setTaskError h s id err).lastId = s.lastId ∧ (setTaskError h s id err).files = s.files ∧
      ∃ last, (setTaskError h s id err).tasks = olds ++ [last] ∧ SameRecord new last ∧
        last.storagePath = new.storagePath ∧ (last.status = .pending ∨ last.status = .failed) := by
  have unchanged : ∃ last, s.tasks = olds ++ [last] ∧ SameRecord new last ∧
      last.storagePath = new.storagePath ∧ (last.status = .pending ∨ last.status = .failed) :=
    ⟨new, tasks, .refl new, rfl, .inl pending⟩
  unfold setTaskError
  split
  · exact ⟨rfl, rfl, unchanged⟩
  · refine ⟨by simp, by simp, ?_⟩
    unfold Store.update
    split
    · rename_i msg _ _
      refine ⟨{ new with status := .failed, errorMessage := some (String.ofList msg) }, ?_,
        ⟨rfl, rfl, rfl, rfl⟩, rfl, .inr rfl⟩
      have kept : olds.map (fun t => if t.id = id then
          { t with status := .failed, errorMessage := some (String.ofList msg) } else t) =
          olds := by
        apply (List.map_congr_left fun t mem => if_neg (older t mem)).trans
        exact List.map_id' olds
      simp only [tasks, List.map_append, List.map_cons, List.map_nil, isId, if_true, kept]
    · exact unchanged

theorem enqueue_adds {h : Health} {s : Store} {row : BackupTask} {payload : Option BatchPayload}
    {taskType : TaskType} (bound : ∀ t ∈ s.tasks, t.id ≤ s.lastId)
    (pending : row.status = .pending) (created : h.create.error = none) :
    Adds row s (enqueue h (s.insert h.create row) { row with id := s.lastId + 1 } payload
      taskType).1 := by
  rcases run : enqueue h (s.insert h.create row) { row with id := s.lastId + 1 } payload taskType
    with ⟨s', res⟩
  have inserted : s.insert h.create row = { s with
      tasks := s.tasks ++ [{ row with id := s.lastId + 1 }], lastId := s.lastId + 1 } := by
    unfold Store.insert
    rw [if_pos (applies_of_error created)]
  rw [inserted] at run
  rcases enqueue_cases run with
    ⟨-, ⟨tasks, lastId, files⟩, -⟩ | ⟨t, err, ⟨tasks, lastId, files⟩, -, rfl⟩
  · exact ⟨files, .inr ⟨lastId, _, tasks, rfl, .refl _, rfl, .inl pending⟩⟩
  · have older : ∀ old ∈ s.tasks, old.id ≠ s.lastId + 1 := by
      intro old mem
      have le := bound old mem
      omega
    obtain ⟨lastId', files', last, tasks', record, path, status⟩ :=
      setTaskError_last (h := h) tasks older rfl pending err.text
    refine ⟨files'.trans files, .inr ?_⟩
    exact ⟨lastId'.trans lastId, last, tasks', record.1, record, path, status⟩

/-- A row that was refused, or came without the caller learning of it. -/
theorem insert_adds {s : Store} {w : WriteResult} {row : BackupTask}
    (pending : row.status = .pending) :
    Adds row s (s.insert w row) := by
  unfold Store.insert
  split
  · exact ⟨rfl, .inr ⟨rfl, _, rfl, rfl, .refl _, rfl, .inl pending⟩⟩
  · exact ⟨rfl, .inl ⟨rfl, rfl⟩⟩

theorem submitBackupTask_adds (cfg : BackupConfig) (h : Health) {s : Store}
    (inp : SubmitBackupInput)
    (bound : ∀ t ∈ s.tasks, t.id ≤ s.lastId) :
    (submitBackupTask cfg h s inp).1 = s ∨
      inp.validate cfg = .ok () ∧ Adds inp.row s (submitBackupTask cfg h s inp).1 := by
  unfold submitBackupTask
  cases valid : inp.validate cfg with
  | error err => exact .inl rfl
  | ok _ =>
      right
      refine ⟨rfl, ?_⟩
      dsimp only
      cases created : h.create.error with
      | some err => exact insert_adds rfl
      | none => exact enqueue_adds bound rfl created

theorem submitRestoreTask_adds (cfg : BackupConfig) (h : Health) {s : Store}
    (inp : SubmitRestoreInput) (uuid : String)
    (bound : ∀ t ∈ s.tasks, t.id ≤ s.lastId) :
    (submitRestoreTask cfg h s inp uuid).1 = s ∨
      ∃ src mode, inp.source cfg h s = .ok (src, mode) ∧
        Adds (inp.row src mode uuid) s (submitRestoreTask cfg h s inp uuid).1 := by
  unfold submitRestoreTask
  cases source : inp.source cfg h s with
  | error err => exact .inl rfl
  | ok found =>
      obtain ⟨src, mode⟩ := found
      right
      refine ⟨src, mode, rfl, ?_⟩
      dsimp only
      cases created : h.create.error with
      | some err => exact insert_adds rfl
      | none => exact enqueue_adds bound rfl created

theorem get_ok {h : Health} {s : Store} {id : Nat} {t : BackupTask} (found : get h s id = .ok t) :
    id ≠ 0 ∧ t ∈ s.tasks ∧ t.id = id := by
  obtain ⟨positive, -, row⟩ := get_ok_iff.1 found
  exact ⟨positive, Store.find_mem row⟩

theorem source_mem {h : Health} {s : Store} {inp : SubmitRestoreInput} {src : BackupTask}
    {mode : String} (source : inp.source cfg h s = .ok (src, mode)) : src ∈ s.tasks := by
  unfold SubmitRestoreInput.source at source
  dsimp only at source
  generalize (if inp.mode = "" then restoreModeCreateNew else inp.mode) = chosen at source
  split at source
  · cases source
  split at source
  · cases source
  split at source
  · cases source
  · rename_i found
    split at source
    · cases source
    split at source
    · cases source
    split at source
    · cases source
    · cases source
      exact (get_ok found).2.1

end K8sPlatform.Backup
