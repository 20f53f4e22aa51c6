import K8sPlatform.Backup.Files

/-! # A deletion beside the execution of its task -/

namespace K8sPlatform.Backup

open Errcode

variable (cfg : BackupConfig) (e : Environment) (h : Health)
  (listed : Storage → String → List String) (id : Nat)

/-- Where a worker is in `HandleTask` on the message of a single backup. -/
inductive Stage
  | start
  | loaded (task : BackupTask)
  | claimed (task : BackupTask)
  | uploaded (task : BackupTask) (up : Upload) (res : UploadResult)
  | failing (task : BackupTask) (errMsg : String)
  | returned (result : Except String Unit)

/-- Where a call of `Delete` is. -/
inductive Deletion
  | start
  | read (t : BackupTask)
  | emptied
  | removed
  | returned (result : Except Error Unit)

def Stage.advance (s : Store) : Stage → Store × Stage
  | .start =>
    match e.load with
    | some err => (s, .returned (.error ("load task " ++ toString id ++ ": " ++ err)))
    | none =>
      match s.find id with
      | none => (s, .returned (.ok ()))
      | some task =>
          if task.status ≠ .pending then (s, .returned (.ok ())) else (s, .loaded task)
  | .loaded task =>
    let claimed := claimTask s e.claim id
    match e.claim.error with
    | some err =>
        (claimed.1, .returned (.error ("cas claim task " ++ toString id ++ ": " ++ err)))
    | none =>
        if claimed.2 then (claimed.1, .claimed { task with status := .running })
        else (claimed.1, .returned (.ok ()))
  | .claimed task =>
    match uploadSingle cfg e s.files task with
    | .error err => (s, .failing task err)
    | .ok (up, files, res) => ({ s with files := files }, .uploaded task up res)
  | .uploaded task _ res =>
    let stored := s.update e.result task.id fun t =>
      { t with
        status := .success, sizeBytes := some res.sizeBytes, objectCount := 1,
        storagePath := res.storagePath }
    match e.result.error with
    | some err => (stored, .failing task ("update backup result: " ++ err))
    | none => (stored, .returned (.ok ()))
  | .failing task err => (failTask s e.failure task.id err, .returned (.error err))
  | .returned res => (s, .returned res)

def Deletion.advance (s : Store) : Deletion → Store × Deletion
  | .start =>
    match get h s id with
    | .error err => (s, .returned (.error err))
    | .ok t => (s, .read t)
  | .read t => ({ s with files := deleteStorageObjects cfg listed s.files t }, .emptied)
  | .emptied =>
    let removed := s.remove h.remove id
    match h.remove.error with
    | some err => (removed, .returned (.error (.wrapMsg .databaseError err "删除备份记录失败")))
    | none => (removed, .removed)
  | .removed => ({ s with payloads := Function.update s.payloads id none }, .returned (.ok ()))
  | .returned res => (s, .returned res)

/-- Without anything in between, the steps of the worker are those of `handleTask`. -/
theorem Stage.advance_alone {s : Store}
    (single : ∀ t, s.find id = some t → t.backupType ≠ BackupMode.namespaceBatch.text) :
    (fun p : Store × Stage => p.2.advance cfg e id p.1)^[5] (s, .start) =
      ((handleTask cfg e s id .backup).1, .returned (handleTask cfg e s id .backup).2) := by
  simp only [Function.iterate_succ, Function.iterate_zero, Function.comp_apply, id_eq]
  unfold handleTask
  cases load : e.load with
  | some err => simp [Stage.advance, load]
  | none =>
  cases found : s.find id with
  | none => simp [Stage.advance, load, found]
  | some task =>
  by_cases pending : task.status = .pending
  swap
  · simp [Stage.advance, load, found, pending]
  obtain ⟨-, rfl⟩ := Store.find_mem found
  have mode := single task found
  cases claim : e.claim.error with
  | some err => simp [Stage.advance, load, found, pending, claim]
  | none =>
  cases won : (claimTask s e.claim task.id).2 with
  | false => simp [Stage.advance, load, found, pending, claim, won]
  | true =>
  cases uploaded : uploadSingle cfg e (claimTask s e.claim task.id).1.files
      { task with status := .running } with
  | error err =>
      simp [Stage.advance, load, found, pending, claim, won, runTask, executeTask, mode,
        doBackupSingle, uploaded]
  | ok put =>
      cases result : e.result.error with
      | some err =>
          simp [Stage.advance, load, found, pending, claim, won, runTask, executeTask, mode,
            doBackupSingle, uploaded, result]
      | none =>
          simp [Stage.advance, load, found, pending, claim, won, runTask, executeTask, mode,
            doBackupSingle, uploaded, result]

theorem Deletion.advance_alone (s : Store) :
    (fun p : Store × Deletion => p.2.advance cfg h listed id p.1)^[4] (s, .start) =
      ((delete cfg h listed s id).1, .returned (delete cfg h listed s id).2) := by
  simp only [Function.iterate_succ, Function.iterate_zero, Function.comp_apply, id_eq]
  unfold delete
  cases found : get h s id with
  | error err => simp [Deletion.advance, found]
  | ok t =>
      cases removed : h.remove.error with
      | some err => simp [Deletion.advance, found, removed]
      | none => simp [Deletion.advance, found, removed]

inductive Party
  | worker
  | deletion
  deriving DecidableEq, Repr

/-- A worker and a deletion over the same store, and what the worker has uploaded. -/
structure Race where
  store : Store
  worker : Stage
  deletion : Deletion
  put : Option Upload

/-- The row has just been inserted. -/
def Race.start (s : Store) (inp : SubmitBackupInput) : Race :=
  ⟨s.insert .done inp.row, .start, .start, none⟩

def Stage.upload : Stage → Option Upload
  | .uploaded _ up _ => some up
  | _ => none

def Race.next (r : Race) : Party → Race
  | .worker =>
    let stepped := r.worker.advance cfg e id r.store
    { r with store := stepped.1, worker := stepped.2, put := stepped.2.upload.or r.put }
  | .deletion =>
    let stepped := r.deletion.advance cfg h listed id r.store
    { r with store := stepped.1, deletion := stepped.2 }

def Race.Finished (r : Race) : Prop :=
  (∃ res, r.worker = .returned res) ∧ ∃ res, r.deletion = .returned res

/-- Nothing is left of what the worker has uploaded. -/
def Race.NoOrphan (r : Race) : Prop :=
  ∀ up, r.put = some up → ∀ st path, cfg.getStorage up.storageType = .ok st →
    st.uploadPath cfg up.key = .ok path → r.store.files path = none

/-- `Delete` of the storage looks for a key where `Upload` writes it. -/
def FoundAgain (up : Upload) : Prop :=
  ∀ st, cfg.getStorage up.storageType = .ok st →
    ∀ path, st.uploadPath cfg up.key = .ok path → st.objectPath cfg "Delete" up.key = .ok path

/-- The condition on a step: the deletion finds what is uploaded, the result is written before
the deletion reads the row, and the read of a deletion after the upload does not fail. -/
def Race.Ordered (r : Race) : Party → Prop
  | .worker =>
    match r.worker with
    | .claimed task => ∀ up files res,
        uploadSingle cfg e r.store.files task = .ok (up, files, res) → FoundAgain cfg up
    | .uploaded .. => r.deletion = .start ∧ e.result.applies = true
    | _ => True
  | .deletion => r.deletion = .start → r.put.isSome = true → h.read = none

variable {cfg e h listed id}

/-! ## What the steps do to the row -/

/-- The row of the task, of the given storage and with the given path. -/
def Ours (typ path : String) (t : BackupTask) : Prop :=
  t.storagePath = path ∧ t.storageType = typ ∧ isNamespaceBatch t.backupType = false

/-- A write that leaves the storage of a row alone. -/
def KeepsObject (change : BackupTask → BackupTask) : Prop :=
  ∀ t, (change t).storagePath = t.storagePath ∧ (change t).storageType = t.storageType ∧
    (change t).backupType = t.backupType

theorem Ours.change {typ path : String} {t : BackupTask} {change : BackupTask → BackupTask}
    (ours : Ours typ path t) (keeps : KeepsObject change) : Ours typ path (change t) := by
  obtain ⟨samePath, sameType, sameMode⟩ := keeps t
  exact ⟨samePath.trans ours.1, sameType.trans ours.2.1, sameMode ▸ ours.2.2⟩

theorem claimTask_find (s : Store) (w : WriteResult) (id : Nat) :
    ∃ change, KeepsObject change ∧ (claimTask s w id).1.find id = (s.find id).map change := by
  refine ⟨(·.claimed w id), fun t => ?_, ?_⟩
  · dsimp only
    unfold BackupTask.claimed
    split <;> exact ⟨rfl, rfl, rfl⟩
  · rw [claimTask_store]
    exact Store.find_map rfl (fun t => t.claimed_id w id) id

theorem failTask_find (s : Store) (w : WriteResult) (own id : Nat) (err : String) :
    ∃ change, KeepsObject change ∧ (failTask s w own err).find id = (s.find id).map change := by
  have unchanged : ∃ change, KeepsObject change ∧ s.find id = (s.find id).map change :=
    ⟨fun t => t, fun t => ⟨rfl, rfl, rfl⟩, by simp⟩
  unfold failTask
  cases Text.truncateBytes 1024 err.toList with
  | none => exact unchanged
  | some msg =>
      unfold Store.update
      dsimp only
      split
      · refine ⟨fun t => if t.id = own then
          { t with status := .failed, errorMessage := some (String.ofList msg) } else t, ?_, ?_⟩
        · intro t
          dsimp only
          split <;> exact ⟨rfl, rfl, rfl⟩
        · refine Store.find_map rfl (fun t => ?_) id
          split <;> rfl
      · exact unchanged

variable (cfg h listed id) in
/-- A deletion leaves the row alone or removes it. -/
theorem Deletion.advance_find (s : Store) (d : Deletion) :
    ((d.advance cfg h listed id s).1.find id = s.find id ∨
      (d.advance cfg h listed id s).1.find id = none) ∧
    (d.advance cfg h listed id s).2 ≠ .start := by
  cases d with
  | start =>
      unfold Deletion.advance
      cases get h s id with
      | error err => exact ⟨.inl rfl, by simp⟩
      | ok t => exact ⟨.inl rfl, by simp⟩
  | read t => exact ⟨.inl rfl, by simp [Deletion.advance]⟩
  | emptied =>
      have removed : (s.remove h.remove id).find id = s.find id ∨
          (s.remove h.remove id).find id = none := by
        rw [Store.find_remove]
        split
        · exact .inr rfl
        · exact .inl rfl
      unfold Deletion.advance
      cases h.remove.error with
      | some err => exact ⟨removed, by simp⟩
      | none => exact ⟨removed, by simp⟩
  | removed => exact ⟨.inl rfl, by simp [Deletion.advance]⟩
  | returned res => exact ⟨.inl rfl, by simp [Deletion.advance]⟩

/-- Only the step after the read touches the files. -/
theorem Deletion.advance_files (s : Store) {d : Deletion} (other : ∀ t, d ≠ .read t) :
    (d.advance cfg h listed id s).1.files = s.files := by
  cases d with
  | start => unfold Deletion.advance; cases get h s id <;> rfl
  | read t => exact absurd rfl (other t)
  | emptied =>
      unfold Deletion.advance
      cases h.remove.error <;> exact Store.remove_files s h.remove id
  | removed => rfl
  | returned res => rfl

/-- A read in progress is one of the row. -/
theorem Deletion.advance_read {s : Store} {d : Deletion} {t : BackupTask}
    (reads : (d.advance cfg h listed id s).2 = .read t) : d = .start ∧ s.find id = some t := by
  cases d with
  | start =>
      unfold Deletion.advance at reads
      cases found : get h s id with
      | error err => simp [found] at reads
      | ok t' =>
          simp only [found, Deletion.read.injEq] at reads
          subst reads
          exact ⟨rfl, (get_ok_iff.1 found).2.2⟩
  | read t' => cases reads
  | emptied =>
      unfold Deletion.advance at reads
      cases removed : h.remove.error <;> simp [removed] at reads
  | removed => cases reads
  | returned res => cases reads

/-- The worker has not uploaded anything; the task in its hands is the one of the row. -/
def Stage.Before (id : Nat) (typ : String) : Stage → Prop
  | .loaded task | .claimed task => task.id = id ∧ task.storageType = typ
  | .uploaded .. => False
  | .start | .failing .. | .returned _ => True

/-- The worker will not upload any more. -/
def Stage.Over : Stage → Prop
  | .failing .. | .returned _ => True
  | _ => False

variable (cfg e id) in
/-- Besides the upload and the result, no step of the worker touches the objects. -/
theorem Stage.advance_quiet (s : Store) {w : Stage} (notClaimed : ∀ task, w ≠ .claimed task)
    (notUploaded : w.upload = none) :
    (w.advance cfg e id s).1.files = s.files ∧
      (∃ change, KeepsObject change ∧
        (w.advance cfg e id s).1.find id = (s.find id).map change) ∧
      (w.advance cfg e id s).2.upload = none := by
  have unchanged : ∃ change, KeepsObject change ∧ s.find id = (s.find id).map change :=
    ⟨fun t => t, fun t => ⟨rfl, rfl, rfl⟩, by simp⟩
  cases w with
  | start =>
      unfold Stage.advance
      cases e.load with
      | some err => exact ⟨rfl, unchanged, rfl⟩
      | none =>
          dsimp only
          split
          · exact ⟨rfl, unchanged, rfl⟩
          · split <;> exact ⟨rfl, unchanged, rfl⟩
  | loaded task =>
      have files : (claimTask s e.claim id).1.files = s.files := by
        rw [claimTask_store]
      unfold Stage.advance
      cases e.claim.error with
      | some err => exact ⟨files, claimTask_find s e.claim id, rfl⟩
      | none =>
          dsimp only
          split <;> exact ⟨files, claimTask_find s e.claim id, rfl⟩
  | claimed task => exact absurd rfl (notClaimed task)
  | uploaded task up res => cases notUploaded
  | failing task err =>
      have files : (failTask s e.failure task.id err).files = s.files := by
        unfold failTask
        split
        · rfl
        · exact Store.update_files s e.failure _ _
      exact ⟨files, failTask_find s e.failure task.id id err, rfl⟩
  | returned res => exact ⟨rfl, unchanged, rfl⟩

theorem Stage.advance_over {w : Stage} (ended : w.Over) (s : Store) :
    (w.advance cfg e id s).2.Over := by
  cases w with
  | failing task err => exact True.intro
  | returned res => exact True.intro
  | _ => cases ended

theorem Stage.Over.quiet {w : Stage} (ended : w.Over) :
    (∀ task, w ≠ .claimed task) ∧ w.upload = none := by
  cases w with
  | claimed => cases ended
  | uploaded => cases ended
  | _ => exact ⟨by simp, rfl⟩

theorem Stage.Before.advance {s : Store} {w : Stage} {typ : String} (before : w.Before id typ)
    (notClaimed : ∀ task, w ≠ .claimed task)
    (row : ∀ t, s.find id = some t → t.storageType = typ) :
    (w.advance cfg e id s).2.Before id typ := by
  cases w with
  | start =>
      unfold Stage.advance
      cases e.load with
      | some err => exact True.intro
      | none =>
          cases found : s.find id with
          | none => exact True.intro
          | some task =>
              dsimp only
              split
              · trivial
              · exact ⟨(Store.find_mem found).2, row task found⟩
  | loaded task =>
      unfold Stage.advance
      cases e.claim.error with
      | some err => exact True.intro
      | none =>
          dsimp only
          split
          · exact before
          · trivial
  | claimed task => exact absurd rfl (notClaimed task)
  | uploaded => cases before
  | failing => exact True.intro
  | returned => exact True.intro

variable (cfg e) in
/-- The write of the result puts the path of the upload into the row, or nothing. -/
theorem Stage.advance_uploaded (s : Store) {task : BackupTask} (up : Upload) (res : UploadResult)
    (isId : task.id = id) :
    let stepped := (Stage.uploaded task up res).advance cfg e id s
    stepped.1.files = s.files ∧ stepped.2.Over ∧
      (stepped.1.find id).map (fun t => (t.storagePath, t.storageType, t.backupType)) =
        (s.find id).map fun t =>
          (if e.result.applies = true then res.storagePath else t.storagePath,
            t.storageType, t.backupType) := by
  subst isId
  let change (t : BackupTask) : BackupTask :=
    { t with
      status := .success, sizeBytes := some res.sizeBytes, objectCount := 1,
      storagePath := res.storagePath }
  have files : (s.update e.result task.id change).files = s.files := Store.update_files ..
  have row : ((s.update e.result task.id change).find task.id).map
        (fun t => (t.storagePath, t.storageType, t.backupType)) =
      (s.find task.id).map fun t =>
        (if e.result.applies = true then res.storagePath else t.storagePath,
          t.storageType, t.backupType) := by
    rw [Store.find_update s e.result change fun t => rfl]
    split
    · cases s.find task.id <;> rfl
    · rfl
  unfold Stage.advance
  cases e.result.error with
  | some err => exact ⟨files, True.intro, row⟩
  | none => exact ⟨files, True.intro, row⟩

/-! ## Runs that go well and runs that do not -/

/-- The upload lies at the location. -/
def Upload.PutAt (cfg : BackupConfig) (up : Upload) (path : List String) : Prop :=
  up.key ≠ "" ∧ ∃ st, cfg.getStorage up.storageType = .ok st ∧ st.uploadPath cfg up.key = .ok path

/-- The row with its path, which is there until the deletion has read it. -/
structure Race.Row (id : Nat) (typ path : String) (r : Race) : Prop where
  ours : ∀ t, r.store.find id = some t → Ours typ path t
  live : r.deletion = .start → (r.store.find id).isSome = true

/-- Before the upload, between upload and result, and after the result of a run that meets the
condition. -/
inductive Race.Good (cfg : BackupConfig) (id : Nat) (typ : String) (r : Race) : Prop
  | before (put : r.put = none) (stage : r.worker.Before id typ) (row : r.Row id typ "")
      (copy : ∀ t, r.deletion = .read t → Ours typ "" t)
  | between {task : BackupTask} {up : Upload} {res : UploadResult} {path : List String}
      (put : r.put = some up) (stage : r.worker = .uploaded task up res) (isId : task.id = id)
      (key : res.storagePath = up.key) (type : up.storageType = typ) (lies : up.PutAt cfg path)
      (found : FoundAgain cfg up) (there : r.store.files path ≠ none) (row : r.Row id typ "")
      (copy : ∀ t, r.deletion = .read t → Ours typ "" t)
  | after {up : Upload} {path : List String} (put : r.put = some up) (stage : r.worker.Over)
      (type : up.storageType = typ) (lies : up.PutAt cfg path) (found : FoundAgain cfg up)
      (row : r.Row id typ up.key)
      (object : match r.deletion with
        | .start => r.store.files path ≠ none
        | .read t => Ours typ up.key t
        | _ => r.store.files path = none)

/-- The deletion of a record of the storage with the path leaves the location alone. -/
def Spares (cfg : BackupConfig) (listed : Storage → String → List String) (typ key : String)
    (path : List String) : Prop :=
  ∀ t files, Ours typ key t → deleteStorageObjects cfg listed files t path = files path

/-- The object is there, and the deletion will not find it. -/
structure Race.Doomed (cfg : BackupConfig) (listed : Storage → String → List String) (id : Nat)
    (typ : String) (up : Upload) (path : List String) (r : Race) : Prop where
  put : r.put = some up
  lies : up.PutAt cfg path
  there : r.store.files path ≠ none
  stage : r.worker.Over ∨ ∃ task res, r.worker = .uploaded task up res ∧ task.id = id ∧
    (r.deletion = .start → Spares cfg listed typ res.storagePath path)
  row : r.deletion = .start → ∃ key, Spares cfg listed typ key path ∧ r.Row id typ key
  copy : ∀ t, r.deletion = .read t → ∃ key, Spares cfg listed typ key path ∧ Ours typ key t

theorem spares_empty (typ : String) (path : List String) : Spares cfg listed typ "" path := by
  rintro t files ⟨empty, -, -⟩
  simp [deleteStorageObjects, empty]

/-- A deletion that looks for the key elsewhere, or nowhere, spares the object. -/
theorem Upload.PutAt.spares {up : Upload} {path : List String} (lies : up.PutAt cfg path)
    (lost : ¬FoundAgain cfg up) : Spares cfg listed up.storageType up.key path := by
  rintro t files ⟨key, type, single⟩
  obtain ⟨-, st, storage, placed⟩ := lies
  have notBatch : isNamespaceBatch t.backupType = true → t.storagePath = "" := by
    simp [single]
  obtain kept | ⟨-, st', other, storage', place, removed⟩ :=
    deleteStorageObjects_cases cfg listed files notBatch
  · rw [kept]
  · rw [removed, Function.update_of_ne]
    rintro rfl
    apply lost
    intro st'' storage'' path' placed'
    rw [type, storage''] at storage'
    rw [key] at place
    obtain rfl := Except.ok.inj storage'
    obtain rfl := Except.ok.inj (storage''.symm.trans storage)
    obtain rfl := Except.ok.inj (placed.symm.trans placed')
    exact place

/-- A deletion that finds the object removes it. -/
theorem Upload.PutAt.removes {up : Upload} {path : List String} (lies : up.PutAt cfg path)
    (found : FoundAgain cfg up) {t : BackupTask} (ours : Ours up.storageType up.key t)
    (files : Files) : deleteStorageObjects cfg listed files t path = none := by
  obtain ⟨key, type, single⟩ := ours
  obtain ⟨named, st, storage, placed⟩ := lies
  have place := found st storage path placed
  rw [← type] at storage
  unfold deleteStorageObjects
  simp [key, storage, single, Storage.delete, place, named]

theorem Race.Row.change {r r' : Race} {typ path : String} (row : r.Row id typ path)
    {change : BackupTask → BackupTask} (keeps : KeepsObject change)
    (find : r'.store.find id = (r.store.find id).map change)
    (deletion : r'.deletion = r.deletion) : r'.Row id typ path := by
  constructor
  · intro t' found'
    rw [find] at found'
    obtain ⟨t, found, rfl⟩ := Option.map_eq_some_iff.1 found'
    exact (row.ours t found).change keeps
  · intro start
    rw [find, Option.isSome_map]
    exact row.live (deletion ▸ start)

theorem Race.Row.deletion {r : Race} {typ path : String} (row : r.Row id typ path) :
    (r.next cfg e h listed id .deletion).Row id typ path := by
  obtain ⟨kept | gone, started⟩ :=
    Deletion.advance_find cfg h listed id r.store r.deletion
  · exact ⟨fun t found => row.ours t (kept ▸ found), fun start => absurd start started⟩
  · refine ⟨fun t found => ?_, fun start => absurd start started⟩
    rw [show (r.next cfg e h listed id .deletion).store.find id = none from gone] at found
    cases found

theorem uploadSingle_putAt {files files' : Files} {task : BackupTask} {up : Upload}
    {res : UploadResult} (uploaded : uploadSingle cfg e files task = .ok (up, files', res)) :
    up.storageType = task.storageType ∧ res.storagePath = up.key ∧
      ∃ path, up.PutAt cfg path ∧ files' path ≠ none := by
  obtain ⟨kind, gvr, name, st, path, -, storage, type, key, result, placed, wrote⟩ :=
    uploadSingle_ok uploaded
  refine ⟨type, result, path, ⟨?_, st, by rw [type]; exact storage, placed⟩, ?_⟩
  · rw [key]
    simp [buildKey]
  · rw [wrote, Function.update_self]
    simp

/-! ## The steps of the worker -/

section Steps

variable {typ : String} {r : Race}

variable (cfg e h listed) in
theorem Race.next_quiet (notClaimed : ∀ task, r.worker ≠ .claimed task)
    (notUploaded : r.worker.upload = none) :
    (r.next cfg e h listed id .worker).store.files = r.store.files ∧
      (r.next cfg e h listed id .worker).put = r.put ∧
      ∀ path, r.Row id typ path → (r.next cfg e h listed id .worker).Row id typ path := by
  obtain ⟨files, ⟨change, keeps, find⟩, upload⟩ :=
    Stage.advance_quiet cfg e id r.store notClaimed notUploaded
  refine ⟨files, ?_, fun path row => row.change keeps find rfl⟩
  show (Stage.upload _).or r.put = r.put
  rw [upload, Option.none_or]

/-- The upload: it leads on when the deletion looks for it where it lies. -/
theorem Race.next_upload {task : BackupTask} (put : r.put = none)
    (stage : r.worker = .claimed task) (isId : task.id = id) (type : task.storageType = typ)
    (row : r.Row id typ "") (copy : ∀ t, r.deletion = .read t → Ours typ "" t) :
    (r.Ordered cfg e h .worker → (r.next cfg e h listed id .worker).Good cfg id typ) ∧
      (¬r.Ordered cfg e h .worker →
        ∃ up path, (r.next cfg e h listed id .worker).Doomed cfg listed id typ up path) := by
  unfold Race.Ordered
  simp only [stage]
  cases uploaded : uploadSingle cfg e r.store.files task with
  | error err =>
      have next : r.next cfg e h listed id .worker = { r with worker := .failing task err } := by
        simp [Race.next, stage, Stage.advance, uploaded, Stage.upload]
      rw [next]
      refine ⟨fun _ => .before put True.intro ⟨row.ours, row.live⟩ copy, fun breaks => ?_⟩
      simp at breaks
  | ok result =>
      obtain ⟨up, files, res⟩ := result
      have next : r.next cfg e h listed id .worker =
          { store := { r.store with files := files }, worker := .uploaded task up res,
            deletion := r.deletion, put := some up } := by
        simp [Race.next, stage, Stage.advance, uploaded, Stage.upload]
      obtain ⟨upType, key, path, lies, there⟩ := uploadSingle_putAt uploaded
      rw [next]
      constructor
      · intro ordered
        exact .between rfl rfl isId key (upType.trans type) lies (ordered up files res rfl) there
          ⟨row.ours, row.live⟩ copy
      · intro breaks
        have lost : ¬FoundAgain cfg up := by
          intro found
          apply breaks
          intro up' files' res' eq
          cases eq
          exact found
        refine ⟨up, path, rfl, lies, there, .inr ⟨task, res, rfl, isId, fun _ => ?_⟩,
          fun _ => ⟨"", spares_empty typ path, row.ours, row.live⟩,
          fun t reads => ⟨"", spares_empty typ path, copy t reads⟩⟩
        rw [key, ← type, ← upType]
        exact lies.spares lost

variable (cfg e h listed) in
/-- The result puts the path of the upload into the row, where it takes effect. -/
theorem Race.next_uploaded {task : BackupTask} {up : Upload} {res : UploadResult}
    (put : r.put = some up) (stage : r.worker = .uploaded task up res) (isId : task.id = id) :
    (r.next cfg e h listed id .worker).store.files = r.store.files ∧
      (r.next cfg e h listed id .worker).put = some up ∧
      (r.next cfg e h listed id .worker).worker.Over ∧
      ∀ path, r.Row id typ path → (r.next cfg e h listed id .worker).Row id typ
        (if e.result.applies = true then res.storagePath else path) := by
  obtain ⟨files, ended, find⟩ :=
    Stage.advance_uploaded cfg e r.store up res isId
  rw [← stage] at files ended find
  refine ⟨files, ?_, ended, fun path row => ⟨fun t' found' => ?_, fun start => ?_⟩⟩
  · show (Stage.upload _).or r.put = some up
    rw [ended.quiet.2, put, Option.none_or]
  · have changed : ((r.worker.advance cfg e id r.store).1.find id).map
        (fun t => (t.storagePath, t.storageType, t.backupType)) =
        some (t'.storagePath, t'.storageType, t'.backupType) := by
      rw [show (r.worker.advance cfg e id r.store).1.find id = some t' from found']
      rfl
    rw [find] at changed
    obtain ⟨t, found, same⟩ := Option.map_eq_some_iff.1 changed
    obtain ⟨ofPath, ofType, single⟩ := row.ours t found
    simp only [Prod.mk.injEq] at same
    obtain ⟨samePath, sameType, sameMode⟩ := same
    refine ⟨?_, sameType ▸ ofType, sameMode ▸ single⟩
    rw [← samePath, ofPath]
  · have same := congrArg Option.isSome find
    rw [Option.isSome_map, Option.isSome_map] at same
    exact same.trans (row.live start)

variable (h listed) in
/-- The result has to come before the deletion reads the row, and to take effect. -/
theorem Race.next_result {task : BackupTask} {up : Upload} {res : UploadResult}
    {path : List String} (put : r.put = some up) (stage : r.worker = .uploaded task up res)
    (isId : task.id = id) (key : res.storagePath = up.key) (type : up.storageType = typ)
    (lies : up.PutAt cfg path) (found : FoundAgain cfg up) (there : r.store.files path ≠ none)
    (row : r.Row id typ "") (copy : ∀ t, r.deletion = .read t → Ours typ "" t) :
    (r.Ordered cfg e h .worker → (r.next cfg e h listed id .worker).Good cfg id typ) ∧
      (¬r.Ordered cfg e h .worker →
        (r.next cfg e h listed id .worker).Doomed cfg listed id typ up path) := by
  obtain ⟨files, put', ended, rows⟩ := Race.next_uploaded cfg e h listed
    put stage isId
  have row' := rows "" row
  have there' : (r.next cfg e h listed id .worker).store.files path ≠ none := by
    rw [files]
    exact there
  unfold Race.Ordered
  simp only [stage]
  constructor
  · rintro ⟨start, applies⟩
    rw [if_pos applies, key] at row'
    refine .after put' ended type lies found row' ?_
    have start' : (r.next cfg e h listed id .worker).deletion = .start := start
    rw [start']
    exact there'
  · intro breaks
    refine ⟨put', lies, there', .inl ended, fun start => ?_, fun t reads => ?_⟩
    · have refused : ¬e.result.applies = true := fun applies => breaks ⟨start, applies⟩
      rw [if_neg refused] at row'
      exact ⟨"", spares_empty typ path, row'⟩
    · exact ⟨"", spares_empty typ path, copy t reads⟩

theorem Race.Good.worker (good : r.Good cfg id typ) :
    (r.Ordered cfg e h .worker → (r.next cfg e h listed id .worker).Good cfg id typ) ∧
      (¬r.Ordered cfg e h .worker →
        ∃ up path, (r.next cfg e h listed id .worker).Doomed cfg listed id typ up path) := by
  cases good with
  | before put stage row copy =>
      by_cases claimed : ∃ task, r.worker = .claimed task
      · obtain ⟨task, worker⟩ := claimed
        rw [worker] at stage
        exact Race.next_upload put worker stage.1 stage.2 row copy
      · have notClaimed : ∀ task, r.worker ≠ .claimed task := fun task eq => claimed ⟨task, eq⟩
        have notUploaded : r.worker.upload = none := by
          cases worker : r.worker with
          | uploaded => rw [worker] at stage; cases stage
          | _ => rfl
        obtain ⟨-, samePut, rows⟩ := Race.next_quiet cfg e h listed
          notClaimed notUploaded
        refine ⟨fun _ => .before (samePut.trans put) ?_ (rows "" row) copy, fun breaks => ?_⟩
        · exact stage.advance notClaimed fun t found => (row.ours t found).2.1
        · refine absurd ?_ breaks
          unfold Race.Ordered
          cases worker : r.worker with
          | claimed task => exact absurd worker (notClaimed task)
          | uploaded => rw [worker] at notUploaded; cases notUploaded
          | _ => trivial
  | between put stage isId key type lies found there row copy =>
      obtain ⟨on, off⟩ := Race.next_result h listed put stage isId key type lies
        found there row copy
      exact ⟨on, fun breaks => ⟨_, _, off breaks⟩⟩
  | after put stage type lies found row object =>
      obtain ⟨notClaimed, notUploaded⟩ := stage.quiet
      obtain ⟨sameFiles, samePut, rows⟩ := Race.next_quiet cfg e h listed
        notClaimed notUploaded
      refine ⟨fun _ => .after (samePut.trans put) (Stage.advance_over stage r.store) type lies
        found (rows _ row) ?_, fun breaks => ?_⟩
      · rw [sameFiles]
        exact object
      · refine absurd ?_ breaks
        unfold Race.Ordered
        cases worker : r.worker with
        | failing => trivial
        | returned => trivial
        | _ => rw [worker] at stage; cases stage

/-- A read in progress is one of the row as it was. -/
theorem Race.Row.copied {path : String} (row : r.Row id typ path) {t : BackupTask}
    (reads : (r.next cfg e h listed id .deletion).deletion = .read t) : Ours typ path t :=
  row.ours t (Deletion.advance_read reads).2

/-- With the path still missing, the deletion touches no object. -/
theorem Race.next_unaware (copy : ∀ t, r.deletion = .read t → Ours typ "" t) (path : List String) :
    (r.next cfg e h listed id .deletion).store.files path = r.store.files path := by
  by_cases reading : ∃ t, r.deletion = .read t
  · obtain ⟨t, reads⟩ := reading
    show (r.deletion.advance cfg h listed id r.store).1.files path = _
    rw [reads]
    exact spares_empty typ path t r.store.files (copy t reads)
  · have other : ∀ t, r.deletion ≠ .read t := fun t eq => reading ⟨t, eq⟩
    exact congrFun (Deletion.advance_files r.store other) path

variable (cfg e listed) in
/-- Where the row has the path of the upload, a read that does not fail finds it. -/
theorem Race.Row.reads {path : String} (row : r.Row id typ path) (start : r.deletion = .start)
    (positive : id ≠ 0) (answers : h.read = none) :
    ∃ t, (r.next cfg e h listed id .deletion).deletion = .read t ∧ Ours typ path t := by
  obtain ⟨t, found⟩ := Option.isSome_iff_exists.1 (row.live start)
  have read : get h r.store id = .ok t := get_ok_iff.2 ⟨positive, answers, found⟩
  refine ⟨t, ?_, row.ours t found⟩
  simp [Race.next, start, Deletion.advance, read]

variable (cfg listed id) in
theorem Deletion.advance_refused (s : Store) {err : String} (fails : h.read = some err) :
    ∃ res, (Deletion.start.advance cfg h listed id s) = (s, .returned (.error res)) := by
  unfold Deletion.advance
  cases found : get h s id with
  | error res => exact ⟨res, rfl⟩
  | ok t =>
      rw [(get_ok_iff.1 found).2.1] at fails
      cases fails

/-- A read that fails leaves the upload where it is. -/
theorem Race.next_refused {up : Upload} {path : List String} (put : r.put = some up)
    (lies : up.PutAt cfg path) (there : r.store.files path ≠ none)
    (stage : r.worker.Over ∨ ∃ task res, r.worker = .uploaded task up res ∧ task.id = id)
    (breaks : ¬r.Ordered cfg e h .deletion) :
    (r.next cfg e h listed id .deletion).Doomed cfg listed id typ up path := by
  unfold Race.Ordered at breaks
  simp only [Classical.not_imp] at breaks
  obtain ⟨start, -, fails⟩ := breaks
  obtain ⟨err, fails⟩ := Option.ne_none_iff_exists'.1 fails
  obtain ⟨res, refused⟩ :=
    Deletion.advance_refused cfg listed id r.store fails
  have next : r.next cfg e h listed id .deletion =
      { r with deletion := .returned (.error res) } := by
    simp [Race.next, start, refused]
  rw [next]
  refine ⟨put, lies, there, ?_, by simp, by simp⟩
  exact stage.imp_right fun ⟨task, res, worker, isId⟩ => ⟨task, res, worker, isId, by simp⟩

theorem Race.Good.deletion (good : r.Good cfg id typ) (positive : id ≠ 0) :
    (r.Ordered cfg e h .deletion → (r.next cfg e h listed id .deletion).Good cfg id typ) ∧
      (¬r.Ordered cfg e h .deletion →
        ∃ up path, (r.next cfg e h listed id .deletion).Doomed cfg listed id typ up path) := by
  cases good with
  | before put stage row copy =>
      refine ⟨fun _ => .before put stage row.deletion fun t reads => row.copied reads, ?_⟩
      intro breaks
      refine absurd (fun _ some_ => ?_) breaks
      rw [put] at some_
      cases some_
  | @between task up res path put stage isId key type lies found there row copy =>
      have there' : (r.next cfg e h listed id .deletion).store.files path ≠ none := by
        rw [Race.next_unaware copy]
        exact there
      refine ⟨fun _ => ?_, fun breaks => ?_⟩
      · exact .between put stage isId key type lies found there' row.deletion
          fun t reads => row.copied reads
      · exact ⟨up, path, Race.next_refused put lies there (.inr ⟨task, res, stage, isId⟩) breaks⟩
  | @after up path put stage type lies found row object =>
      have settled (gone : match (r.next cfg e h listed id .deletion).deletion with
          | .start => (r.next cfg e h listed id .deletion).store.files path ≠ none
          | .read t => Ours typ up.key t
          | _ => (r.next cfg e h listed id .deletion).store.files path = none) :
          (r.next cfg e h listed id .deletion).Good cfg id typ :=
        .after put stage type lies found row.deletion gone
      by_cases start : r.deletion = .start
      · rw [start] at object
        refine ⟨fun ordered => ?_, fun breaks => ?_⟩
        · have answers : h.read = none := ordered start (by rw [put]; rfl)
          obtain ⟨t, reads, ours⟩ := row.reads cfg e listed start
            positive answers
          apply settled
          rw [reads]
          exact ours
        · exact ⟨up, path, Race.next_refused put lies object (.inl stage) breaks⟩
      · have ordered : r.Ordered cfg e h .deletion := fun started => absurd started start
        refine ⟨fun _ => settled ?_, fun breaks => absurd ordered breaks⟩
        cases deletion : r.deletion with
        | start => exact absurd deletion start
        | read t =>
            rw [deletion] at object
            have gone : deleteStorageObjects cfg listed r.store.files t path = none :=
              lies.removes found (type ▸ object) r.store.files
            simpa [Race.next, deletion, Deletion.advance] using gone
        | emptied =>
            rw [deletion] at object
            cases removed : h.remove.error with
            | some err => simpa [Race.next, deletion, Deletion.advance, removed] using object
            | none => simpa [Race.next, deletion, Deletion.advance, removed] using object
        | removed =>
            rw [deletion] at object
            simpa [Race.next, deletion, Deletion.advance] using object
        | returned res =>
            rw [deletion] at object
            simpa [Race.next, deletion, Deletion.advance] using object

/-! ## Lost objects stay -/

theorem Race.Doomed.worker {up : Upload} {path : List String}
    (doomed : r.Doomed cfg listed id typ up path) :
    (r.next cfg e h listed id .worker).Doomed cfg listed id typ up path := by
  obtain ⟨put, lies, there, stage, row, copy⟩ := doomed
  obtain ended | ⟨task, res, worker, isId, coming⟩ := stage
  · obtain ⟨notClaimed, notUploaded⟩ := ended.quiet
    obtain ⟨files, samePut, rows⟩ := Race.next_quiet cfg e h listed
      notClaimed notUploaded
    refine ⟨samePut.trans put, lies, ?_, .inl (Stage.advance_over ended r.store), ?_, copy⟩
    · rw [files]
      exact there
    · intro start
      obtain ⟨key, spares, before⟩ := row start
      exact ⟨key, spares, rows key before⟩
  · obtain ⟨files, put', ended, rows⟩ := Race.next_uploaded cfg e h listed
      put worker isId
    refine ⟨put', lies, ?_, .inl ended, ?_, copy⟩
    · rw [files]
      exact there
    · intro start
      obtain ⟨key, spares, before⟩ := row start
      refine ⟨_, ?_, rows key before⟩
      split
      · exact coming start
      · exact spares

theorem Race.Doomed.deletion {up : Upload} {path : List String}
    (doomed : r.Doomed cfg listed id typ up path) :
    (r.next cfg e h listed id .deletion).Doomed cfg listed id typ up path := by
  obtain ⟨put, lies, there, stage, row, copy⟩ := doomed
  obtain ⟨-, started⟩ :=
    Deletion.advance_find cfg h listed id r.store r.deletion
  refine ⟨put, lies, ?_, ?_, fun start => absurd start started, fun t reads => ?_⟩
  · by_cases reading : ∃ t, r.deletion = .read t
    · obtain ⟨t, reads⟩ := reading
      obtain ⟨key, spares, ours⟩ := copy t reads
      show (r.deletion.advance cfg h listed id r.store).1.files path ≠ none
      rw [reads]
      show deleteStorageObjects cfg listed r.store.files t path ≠ none
      rw [spares t r.store.files ours]
      exact there
    · have other : ∀ t, r.deletion ≠ .read t := fun t eq => reading ⟨t, eq⟩
      show (r.deletion.advance cfg h listed id r.store).1.files path ≠ none
      rw [Deletion.advance_files r.store other]
      exact there
  · exact stage.imp_right fun ⟨task, res, worker, isId, _⟩ =>
      ⟨task, res, worker, isId, fun start => absurd start started⟩
  · obtain ⟨start, found⟩ := Deletion.advance_read reads
    obtain ⟨key, spares, rows⟩ := row start
    exact ⟨key, spares, rows.ours t found⟩

end Steps

/-- The row of a single backup has just been inserted. -/
theorem Race.good_start {s : Store} {inp : SubmitBackupInput}
    (bound : ∀ t ∈ s.tasks, t.id ≤ s.lastId) (single : inp.effectiveMode = .single) :
    (Race.start s inp).Good cfg (s.lastId + 1) inp.row.storageType := by
  have found : (Race.start s inp).store.find (s.lastId + 1) =
      some { inp.row with id := s.lastId + 1 } := Store.find_insert bound inp.row
  refine .before rfl True.intro ⟨fun t eq => ?_, fun _ => ?_⟩ (by simp [Race.start])
  · rw [found] at eq
    rw [← Option.some.inj eq]
    have mode : isNamespaceBatch inp.effectiveMode.text = false := by
      rw [single]
      decide
    exact ⟨by simp only [SubmitBackupInput.row], by simp only, mode⟩
  · rw [found]
    rfl

/-- A good run that has finished has removed what it uploaded. -/
theorem Race.Good.noOrphan {r : Race} {typ : String} (good : r.Good cfg id typ)
    (finished : r.Finished) : r.NoOrphan cfg := by
  obtain ⟨⟨res, worker⟩, res', deletion⟩ := finished
  intro up' put' st' path' storage' placed'
  cases good with
  | before put =>
      rw [put] at put'
      cases put'
  | between put stage =>
      rw [worker] at stage
      cases stage
  | after put stage type lies found row object =>
      rw [put] at put'
      obtain rfl := Option.some.inj put'
      obtain ⟨-, st, storage, placed⟩ := lies
      obtain rfl := Except.ok.inj (storage.symm.trans storage')
      obtain rfl := Except.ok.inj (placed.symm.trans placed')
      rw [deletion] at object
      exact object

/-- When a worker and a deletion have both finished, nothing is left of the upload exactly when
all their steps met the condition. -/
theorem no_orphan_iff (cfg : BackupConfig) (e : Environment) (h : Health)
    (listed : Storage → String → List String) {s : Store} {inp : SubmitBackupInput}
    (bound : ∀ t ∈ s.tasks, t.id ≤ s.lastId) (single : inp.effectiveMode = .single)
    (run : List Party)
    (finished : (Transition.exec (Race.next cfg e h listed (s.lastId + 1)) (.start s inp)
      run).Finished) :
    (Transition.exec (Race.next cfg e h listed (s.lastId + 1)) (.start s inp) run).NoOrphan cfg ↔
      Transition.Along (Race.Ordered cfg e h) (Race.next cfg e h listed (s.lastId + 1))
        (.start s inp) run := by
  let next := Race.next cfg e h listed (s.lastId + 1)
  let Good := Race.Good cfg (s.lastId + 1) inp.row.storageType
  let Lost (r : Race) := ∃ up path, r.Doomed cfg listed (s.lastId + 1) inp.row.storageType up path
  have good {r : Race} {p : Party} (before : Good r) : (r.Ordered cfg e h p → Good (next r p)) ∧
      (¬r.Ordered cfg e h p → Lost (next r p)) := by
    cases p with
    | worker => exact before.worker
    | deletion => exact before.deletion (Nat.succ_ne_zero _)
  have stays {r : Race} {p : Party} : Lost r → Lost (next r p) := by
    rintro ⟨up, path, doomed⟩
    cases p with
    | worker => exact ⟨up, path, doomed.worker⟩
    | deletion => exact ⟨up, path, doomed.deletion⟩
  obtain ⟨along, reached⟩ | ⟨breaks, up, path, doomed⟩ := Transition.exec_good_or_bad
    (fun before => (good before).1) (fun before => (good before).2) stays
    (Race.good_start bound single) run
  · refine iff_of_true (reached.noOrphan finished) along
  · refine iff_of_false (fun clean => ?_) breaks
    obtain ⟨-, st, storage, placed⟩ := doomed.lies
    exact doomed.there (clean up doomed.put st path storage placed)

def configMapBackup : SubmitBackupInput :=
  ⟨"prod", "default", "ConfigMap", "app", [], [], .single, "local", "dev", 7⟩

/-- The first task on local storage, executed and deleted in the given order. -/
def raceAfter (run : List Party) : Race :=
  Transition.exec (Race.next localOnly answering healthy (fun _ _ => []) 1)
    (.start .empty configMapBackup) run

/-- The worker uploads; the deletion comes and goes; the worker writes its result. -/
def crossed : List Party :=
  [.worker, .worker, .worker, .deletion, .deletion, .deletion, .deletion, .worker]

/-- Both have succeeded, the row is gone, and the object is still there. -/
theorem deletion_leaves_orphan :
    (raceAfter crossed).Finished ∧ (raceAfter crossed).store.tasks = [] ∧
      ¬(raceAfter crossed).NoOrphan localOnly := by
  refine ⟨⟨⟨.ok (), rfl⟩, .ok (), rfl⟩, rfl, fun clean => ?_⟩
  have gone := clean ⟨"local", "prod/20260101/1_ConfigMap_app.yaml", "kind: ConfigMap"⟩ (by decide)
    (.localStorage "/data/backups")
    ["data", "backups", "prod", "20260101", "1_ConfigMap_app.yaml"] (by decide) (by decide)
  revert gone
  decide

/-- The deletion after the execution. -/
theorem no_orphan_in_sequence :
    (raceAfter [.worker, .worker, .worker, .worker, .deletion, .deletion, .deletion,
        .deletion]).NoOrphan localOnly ↔
      Transition.Along (Race.Ordered localOnly answering healthy)
        (Race.next localOnly answering healthy (fun _ _ => []) 1)
        (.start .empty configMapBackup)
        [.worker, .worker, .worker, .worker, .deletion, .deletion, .deletion, .deletion] :=
  no_orphan_iff localOnly answering healthy (fun _ _ => []) (s := .empty) (by simp [Store.empty])
    rfl _ ⟨⟨.ok (), rfl⟩, .ok (), rfl⟩

end K8sPlatform.Backup
