import K8sPlatform.Backup.Vault

/-! # Live backups and their files -/

namespace K8sPlatform.Backup

open FilePath

variable {cfg : BackupConfig} {e : Environment}

/-- Where every operation of its storage looks for an uploaded object. -/
def Upload.LiesAt (cfg : BackupConfig) (u : Upload) (path : List String) : Prop :=
  ∃ st, cfg.getStorage u.storageType = .ok st ∧ ∀ op, st.objectPath cfg op u.key = .ok path

/-- The path of a record belongs to an upload. -/
def Vault.Origin (v : Vault) (t : BackupTask) : Prop :=
  ∃ o u, v.uploads o = some u ∧ u.key = t.storagePath ∧ u.storageType = t.storageType

/-- The record shows its own upload, and the object is there. -/
def Vault.Own (cfg : BackupConfig) (v : Vault) (t : BackupTask) : Prop :=
  ∃ u path, v.uploads t.id = some u ∧ u.key = t.storagePath ∧ u.storageType = t.storageType ∧
    u.LiesAt cfg path ∧ v.store.files path = some u.content

structure Vault.Inv (cfg : BackupConfig) (v : Vault) : Prop where
  ids : (v.store.tasks.map (·.id)).Nodup
  bound : ∀ t ∈ v.store.tasks, t.id ≤ v.store.lastId
  positive : ∀ t ∈ v.store.tasks, t.id ≠ 0
  batch : ∀ t ∈ v.store.tasks, isNamespaceBatch t.backupType = true → t.storagePath = ""
  waiting : ∀ t ∈ v.store.tasks, t.status = .pending →
    v.uploads t.id = none ∧ (t.backupType = BackupMode.single.text → t.storagePath = "")
  fresh : ∀ id, v.store.lastId < id → v.uploads id = none
  placed : ∀ o u, v.uploads o = some u → ∃ path kind name, u.LiesAt cfg path ∧
    path.getLast? = some (objectName (toString o) kind name)
  origin : ∀ t ∈ v.store.tasks, t.storagePath ≠ "" → v.Origin t
  live : ∀ t ∈ v.store.tasks, t.Live → v.Own cfg t

theorem Upload.LiesAt.unique {u : Upload} {path path' : List String} (h : u.LiesAt cfg path)
    (h' : u.LiesAt cfg path') : path = path' := by
  obtain ⟨st, storage, place⟩ := h
  obtain ⟨st', storage', place₂⟩ := h'
  rw [storage] at storage'
  obtain rfl := Except.ok.inj storage'
  have same := (place "Download").symm.trans (place₂ "Download")
  exact Except.ok.inj same

theorem Vault.Inv.unique {v : Vault} (inv : v.Inv cfg) {t t' : BackupTask}
    (mem : t ∈ v.store.tasks) (mem' : t' ∈ v.store.tasks) (same : t.id = t'.id) : t = t' :=
  List.inj_on_of_nodup_map inv.ids mem mem' same

/-- Objects of different tasks lie at different places. -/
theorem Vault.Inv.apart {v : Vault} (inv : v.Inv cfg) {o o' : Nat} {u u' : Upload}
    {path : List String} (up : v.uploads o = some u) (up' : v.uploads o' = some u')
    (place : u.LiesAt cfg path) (place₂ : u'.LiesAt cfg path) : o = o' := by
  obtain ⟨at_, kind, name, lies, last⟩ := inv.placed o u up
  obtain ⟨at', kind', name', lies', last'⟩ := inv.placed o' u' up'
  rw [lies.unique place] at last
  rw [lies'.unique place₂, last] at last'
  exact objectName_id (Option.some.inj last')

theorem Vault.inv_empty : Vault.empty.Inv cfg where
  ids := by simp [Vault.empty, Store.empty]
  bound := by simp [Vault.empty, Store.empty]
  positive := by simp [Vault.empty, Store.empty]
  batch := by simp [Vault.empty, Store.empty]
  waiting := by simp [Vault.empty, Store.empty]
  fresh := fun _ _ => rfl
  placed := nofun
  origin := by simp [Vault.empty, Store.empty]
  live := by simp [Vault.empty, Store.empty]

/-- A submission keeps the invariant: its row is not live, and its path, if any, is that of a
record from before. -/
theorem Vault.Inv.adds {v : Vault} {row : BackupTask} {s' : Store} (inv : v.Inv cfg)
    (adds : Adds row v.store s')
    (batch : isNamespaceBatch row.backupType = true → row.storagePath = "")
    (single : row.backupType = BackupMode.single.text → row.storagePath = "")
    (origin : row.storagePath ≠ "" → v.Origin row) : Vault.Inv cfg { v with store := s' } := by
  obtain ⟨files, ⟨tasks, lastId⟩ | ⟨lastId, new, tasks, isId, record, path, status⟩⟩ := adds
  · constructor <;> simp only [tasks, lastId]
    case ids => exact inv.ids
    case bound => exact inv.bound
    case positive => exact inv.positive
    case batch => exact inv.batch
    case waiting => exact inv.waiting
    case fresh => exact inv.fresh
    case placed => exact inv.placed
    case origin => exact inv.origin
    case live =>
      intro t mem alive
      obtain ⟨u, at_, up, key, type, lies, there⟩ := inv.live t mem alive
      exact ⟨u, at_, up, key, type, lies, by rw [files]; exact there⟩
  · obtain ⟨-, -, type, storage⟩ := record
    have noUpload : v.uploads new.id = none := inv.fresh _ (by omega)
    have newer : ∀ t ∈ v.store.tasks, t.id ≠ new.id := by
      intro t mem
      have le := inv.bound t mem
      omega
    have split : ∀ {P : BackupTask → Prop}, (∀ t ∈ v.store.tasks, P t) → P new →
        ∀ t ∈ s'.tasks, P t := by
      intro P old last t mem
      rw [tasks, List.mem_append, List.mem_singleton] at mem
      obtain mem | rfl := mem
      · exact old t mem
      · exact last
    constructor
    case ids =>
      simp only [tasks, List.map_append, List.map_cons, List.map_nil]
      refine List.nodup_append.2 ⟨inv.ids, List.nodup_singleton _, ?_⟩
      intro id mem id' mem'
      obtain ⟨t, memT, rfl⟩ := List.mem_map.1 mem
      rw [List.mem_singleton.1 mem']
      exact newer t memT
    case bound =>
      refine split (fun t mem => ?_) ?_
      · have le := inv.bound t mem
        simp only
        omega
      · simp only
        omega
    case positive =>
      apply split inv.positive
      rw [isId]
      omega
    case batch => exact split inv.batch (by rw [type, path]; exact batch)
    case waiting => exact split inv.waiting fun _ => ⟨noUpload, by rw [type, path]; exact single⟩
    case fresh =>
      intro id le
      exact inv.fresh id (by simp only at le; omega)
    case placed => exact inv.placed
    case origin =>
      apply split inv.origin
      intro some_
      rw [path] at some_
      obtain ⟨o, u, up, key, type'⟩ := origin some_
      exact ⟨o, u, up, by rw [path]; exact key, by rw [storage]; exact type'⟩
    case live =>
      refine split (fun t mem alive => ?_) ?_
      · obtain ⟨u, at_, up, key, type', lies, there⟩ := inv.live t mem alive
        exact ⟨u, at_, up, key, type', lies, by simp only [files]; exact there⟩
      · rintro ⟨-, success, -⟩
        obtain pending | failed := status
        · rw [pending] at success; cases success
        · rw [failed] at success; cases success

/-- The files and the row changes of a delivery without an upload keep the invariant. -/
theorem Vault.Inv.touched {v : Vault} {s' : Store} {task : BackupTask} (inv : v.Inv cfg)
    (mem : task ∈ v.store.tasks) (pending : task.status = .pending)
    (files : s'.files = v.store.files) (rows : RowsTo (Touched task.id) v.store s') :
    Vault.Inv cfg { v with store := s' } := by
  have back : ∀ t' ∈ s'.tasks, t' ∈ v.store.tasks ∨
      SameRecord task t' ∧ t'.storagePath = task.storagePath := by
    intro t' mem'
    obtain ⟨t, memT, record, path, isId | rfl⟩ := rows.rows t' mem'
    · obtain rfl := inv.unique memT mem isId
      exact .inr ⟨record, path⟩
    · exact .inl memT
  have wait := inv.waiting task mem pending
  constructor
  case ids => exact inv.ids.sublist rows.ids
  case bound =>
    intro t' mem'
    simp only [rows.lastId]
    obtain old | ⟨⟨isId, -⟩, -⟩ := back t' mem'
    · exact inv.bound t' old
    · exact isId ▸ inv.bound task mem
  case positive =>
    intro t' mem'
    obtain old | ⟨⟨isId, -⟩, -⟩ := back t' mem'
    · exact inv.positive t' old
    · exact isId ▸ inv.positive task mem
  case batch =>
    intro t' mem' batch
    obtain old | ⟨⟨-, -, type, -⟩, path⟩ := back t' mem'
    · exact inv.batch t' old batch
    · rw [type] at batch
      rw [path]
      exact inv.batch task mem batch
  case waiting =>
    intro t' mem' waits
    obtain old | ⟨⟨isId, -, type, -⟩, path⟩ := back t' mem'
    · exact inv.waiting t' old waits
    · rw [isId, type, path]
      exact wait
  case fresh =>
    intro id le
    exact inv.fresh id (by simpa only [rows.lastId] using le)
  case placed => exact inv.placed
  case origin =>
    intro t' mem' some_
    obtain old | ⟨⟨-, -, -, storage⟩, path⟩ := back t' mem'
    · exact inv.origin t' old some_
    · rw [path] at some_
      obtain ⟨o, u, up, key, type⟩ := inv.origin task mem some_
      exact ⟨o, u, up, by rw [path]; exact key, by rw [storage]; exact type⟩
  case live =>
    intro t' mem' alive
    obtain old | ⟨⟨-, -, type, -⟩, path⟩ := back t' mem'
    · obtain ⟨u, at_, up, key, type, lies, there⟩ := inv.live t' old alive
      exact ⟨u, at_, up, key, type, lies, by simp only [files]; exact there⟩
    · -- a pending single backup has no path yet
      obtain ⟨single, -, some_⟩ := alive
      rw [type] at single
      rw [path, wait.2 single] at some_
      exact absurd rfl some_

/-- An upload lies where its storage looks for it, under the name of its task. -/
theorem uploadSingle_liesAt {files files' : Files} {task : BackupTask} {u : Upload}
    {res : UploadResult} (uploaded : uploadSingle cfg e files task = .ok (u, files', res))
    (found : ∀ baseDir, cfg.getStorage task.storageType = .ok (.localStorage baseDir) →
      cfg.Finds baseDir u.key) :
    u.storageType = task.storageType ∧ ∃ path kind name, u.LiesAt cfg path ∧
      path.getLast? = some (objectName (toString task.id) kind name) ∧
      files' = Function.update files path (some u.content) := by
  obtain ⟨kind, gvr, name, st, path, resolved, storage, type, key, -, placed, wrote⟩ :=
    uploadSingle_ok uploaded
  have noSlash := slash_not_mem_kind resolved
  have last : path.getLast? = some (objectName (toString task.id) kind name) :=
    Storage.uploadPath_getLast noSlash (key ▸ placed)
  refine ⟨type, path, kind, name, ⟨st, by rw [type]; exact storage, ?_⟩, last, wrote⟩
  intro op
  refine Storage.objectPath_of_uploadPath ?_ placed op
  rintro baseDir rfl
  exact found baseDir storage

/-- A single backup that uploads keeps the invariant: its object lies apart from all others. -/
theorem Vault.Inv.stored {v : Vault} {s' : Store} {task : BackupTask} {u : Upload}
    {path : List String} {kind name : String} (inv : v.Inv cfg) (mem : task ∈ v.store.tasks)
    (pending : task.status = .pending) (notBatch : isNamespaceBatch task.backupType = false)
    (type : u.storageType = task.storageType) (lies : u.LiesAt cfg path)
    (last : path.getLast? = some (objectName (toString task.id) kind name))
    (files : s'.files = Function.update v.store.files path (some u.content))
    (rows : RowsTo (Stored task.id u.key) v.store s') :
    Vault.Inv cfg ⟨s', Function.update v.uploads task.id (some u)⟩ := by
  have back : ∀ t' ∈ s'.tasks, (t' ∈ v.store.tasks ∧ t'.id ≠ task.id) ∨
      SameRecord task t' ∧ t'.status ≠ .pending ∧
        (t'.storagePath = task.storagePath ∨ t'.storagePath = u.key) ∧
        (t'.status = .success → t'.storagePath = u.key) := by
    intro t' mem'
    obtain ⟨t, memT, record, only, changed⟩ := rows.rows t' mem'
    by_cases isId : t.id = task.id
    · obtain rfl := inv.unique memT mem isId
      exact .inr ⟨record, changed rfl pending⟩
    · obtain rfl := only.resolve_left isId
      exact .inl ⟨memT, isId⟩
  have none_ := (inv.waiting task mem pending).1
  -- the object of an earlier upload belongs to another task and lies elsewhere
  have elsewhere : ∀ o u' path', v.uploads o = some u' → u'.LiesAt cfg path' → path' ≠ path := by
    rintro o u' path' up lies' rfl
    obtain ⟨path', kind', name', place, last'⟩ := inv.placed o u' up
    rw [place.unique lies', last] at last'
    obtain rfl := objectName_id (Option.some.inj last')
    rw [none_] at up
    cases up
  have keepsUpload : ∀ o u', v.uploads o = some u' →
      Function.update v.uploads task.id (some u) o = some u' := by
    intro o u' up
    have other : o ≠ task.id := by
      rintro rfl
      rw [none_] at up
      cases up
    rw [Function.update_of_ne other]
    exact up
  constructor
  case ids => exact inv.ids.sublist rows.ids
  case bound =>
    intro t' mem'
    simp only [rows.lastId]
    obtain ⟨old, -⟩ | ⟨⟨isId, -⟩, -⟩ := back t' mem'
    · exact inv.bound t' old
    · exact isId ▸ inv.bound task mem
  case positive =>
    intro t' mem'
    obtain ⟨old, -⟩ | ⟨⟨isId, -⟩, -⟩ := back t' mem'
    · exact inv.positive t' old
    · exact isId ▸ inv.positive task mem
  case batch =>
    intro t' mem' batch
    obtain ⟨old, -⟩ | ⟨⟨-, -, same, -⟩, -⟩ := back t' mem'
    · exact inv.batch t' old batch
    · rw [same, notBatch] at batch
      cases batch
  case waiting =>
    intro t' mem' waits
    obtain ⟨old, other⟩ | ⟨-, left, -⟩ := back t' mem'
    · simp only [Function.update_of_ne other]
      exact inv.waiting t' old waits
    · exact absurd waits left
  case fresh =>
    intro id le
    have le : v.store.lastId < id := by simpa only [rows.lastId] using le
    have bound := inv.bound task mem
    simp only [Function.update_of_ne (show id ≠ task.id by omega)]
    exact inv.fresh id le
  case placed =>
    intro o u' up
    simp only at up
    by_cases own : o = task.id
    · subst own
      rw [Function.update_self] at up
      cases up
      exact ⟨path, kind, name, lies, last⟩
    · rw [Function.update_of_ne own] at up
      exact inv.placed o u' up
  case origin =>
    intro t' mem' some_
    obtain ⟨old, -⟩ | ⟨⟨isId, -, -, storage⟩, -, same | key, -⟩ := back t' mem'
    · obtain ⟨o, u', up, key, type'⟩ := inv.origin t' old some_
      exact ⟨o, u', keepsUpload o u' up, key, type'⟩
    · rw [same] at some_
      obtain ⟨o, u', up, key, type'⟩ := inv.origin task mem some_
      exact ⟨o, u', keepsUpload o u' up, by rw [same]; exact key, by rw [storage]; exact type'⟩
    · exact ⟨task.id, u, Function.update_self .., key.symm, by rw [storage]; exact type⟩
  case live =>
    intro t' mem' alive
    obtain ⟨old, -⟩ | ⟨⟨isId, -, -, storage⟩, -, -, success⟩ := back t' mem'
    · obtain ⟨u', path', up, key, type', lies', there⟩ := inv.live t' old alive
      refine ⟨u', path', keepsUpload _ u' up, key, type', lies', ?_⟩
      simp only [files, Function.update_of_ne (elsewhere _ u' path' up lies')]
      exact there
    · refine ⟨u, path, ?_, (success alive.2.1).symm, by rw [storage]; exact type, lies, ?_⟩
      · simp only [isId, Function.update_self]
      · simp only [files, Function.update_self]

theorem Vault.Inv.handle {v : Vault} {id : Nat} {taskType : TaskType} (inv : v.Inv cfg)
    (notBatch : (Event.handle e id taskType).NotBatch v)
    (kept : (Event.handle e id taskType).Kept cfg v) :
    (v.next cfg (.handle e id taskType)).Inv cfg := by
  simp only [Vault.next]
  rcases handleTask_cases cfg e taskType notBatch with
    ⟨same, none_⟩ | ⟨task, found, pending, ⟨none_, files, rows⟩ |
      ⟨run, u, files', res, executed, ⟨isId, -, -, storage⟩, uploaded, up, files, rows⟩⟩
  · rw [same, none_]
    exact inv
  · obtain ⟨mem, rfl⟩ := Store.find_mem found
    rw [none_]
    exact inv.touched mem pending files rows
  · obtain ⟨mem, rfl⟩ := Store.find_mem found
    rw [up]
    obtain ⟨type, path, kind, name, lies, last, wrote⟩ :=
      uploadSingle_liesAt uploaded (kept run executed u files' res uploaded)
    rw [isId] at last
    exact inv.stored mem pending (notBatch task found) (type.trans storage) lies last
      (files.trans wrote) rows

/-! ## A deletion -/

/-- Outside batches a deletion removes the object at the path of the record, or nothing. -/
theorem deleteStorageObjects_cases (cfg : BackupConfig)
    (listed : Storage → String → List String) (files : Files) {t : BackupTask}
    (batch : isNamespaceBatch t.backupType = true → t.storagePath = "") :
    deleteStorageObjects cfg listed files t = files ∨
      t.storagePath ≠ "" ∧ ∃ st path, cfg.getStorage t.storageType = .ok st ∧
        st.objectPath cfg "Delete" t.storagePath = .ok path ∧
        deleteStorageObjects cfg listed files t = Function.update files path none := by
  unfold deleteStorageObjects
  by_cases empty : t.storagePath = ""
  · simp [empty]
  have single : isNamespaceBatch t.backupType = false := by
    cases type : isNamespaceBatch t.backupType with
    | false => rfl
    | true => exact absurd (batch type) empty
  cases storage : cfg.getStorage t.storageType with
  | error err => simp
  | ok st =>
      cases place : st.objectPath cfg "Delete" t.storagePath with
      | error err =>
          left
          obtain text | err := err
          · simp [single, Storage.delete, place]
          · cases err <;> simp [single, Storage.delete, place]
      | ok path =>
          right
          exact ⟨empty, st, path, rfl, place, by simp [empty, single, Storage.delete, place]⟩

/-- The object of another live record is not where the deleted record points. -/
theorem Vault.Inv.spared {v : Vault} {h : Health} {listed : Storage → String → List String}
    {id : Nat} {t t' : BackupTask} {u : Upload} {st : Storage} {path path' : List String}
    (inv : v.Inv cfg) (kept : (Event.delete h listed id).Kept cfg v)
    (found : get h v.store id = .ok t) (some_ : t.storagePath ≠ "")
    (storage : cfg.getStorage t.storageType = .ok st)
    (deleted : st.objectPath cfg "Delete" t.storagePath = .ok path)
    (mem' : t' ∈ v.store.tasks) (alive : t'.Live)
    (other : ¬(t' = t ∧ h.remove.applies = true)) (up : v.uploads t'.id = some u)
    (key : u.key = t'.storagePath) (type : u.storageType = t'.storageType)
    (lies : u.LiesAt cfg path') : path' ≠ path := by
  intro same
  obtain ⟨o, u₀, up₀, key₀, type₀⟩ := inv.origin t (get_ok found).2.1 some_
  obtain ⟨path₀, kind, name, lies₀, -⟩ := inv.placed o u₀ up₀
  have there : path₀ = path := by
    obtain ⟨st₀, storage₀, place₀⟩ := lies₀
    rw [type₀, storage] at storage₀
    obtain rfl := Except.ok.inj storage₀
    rw [key₀] at place₀
    exact Except.ok.inj ((place₀ "Delete").symm.trans deleted)
  -- both records show the same upload, so the deleted one shares the object
  have owner : o = t'.id := inv.apart up₀ up lies₀ (by rw [there, ← same]; exact lies)
  rw [owner, up] at up₀
  obtain rfl := Option.some.inj up₀
  exact other (kept t found some_ t' mem' alive (type.symm.trans type₀) (key.symm.trans key₀))

theorem Vault.Inv.delete {v : Vault} {h : Health} {listed : Storage → String → List String}
    {id : Nat} (inv : v.Inv cfg) (kept : (Event.delete h listed id).Kept cfg v) :
    (v.next cfg (.delete h listed id)).Inv cfg := by
  simp only [Vault.next]
  rcases delete_cases cfg h listed v.store id with
    same | ⟨t, found, lastId, files, tasks⟩
  · rw [same]
    exact inv
  have sub : (Backup.delete cfg h listed v.store id).1.tasks.Sublist v.store.tasks := by
    rw [tasks]
    split
    · exact List.filter_sublist
    · exact List.Sublist.refl _
  constructor <;> simp only [lastId]
  case ids => exact inv.ids.sublist (sub.map _)
  case bound => exact fun t' mem' => inv.bound t' (sub.subset mem')
  case positive => exact fun t' mem' => inv.positive t' (sub.subset mem')
  case batch => exact fun t' mem' => inv.batch t' (sub.subset mem')
  case waiting => exact fun t' mem' => inv.waiting t' (sub.subset mem')
  case fresh => exact inv.fresh
  case placed => exact inv.placed
  case origin => exact fun t' mem' => inv.origin t' (sub.subset mem')
  case live =>
    intro t' mem' alive
    obtain ⟨u, path', up, key, type, lies, there⟩ := inv.live t' (sub.subset mem') alive
    refine ⟨u, path', up, key, type, lies, ?_⟩
    simp only [files]
    obtain ⟨-, mem, isId⟩ := get_ok found
    rcases deleteStorageObjects_cases cfg listed v.store.files
        (inv.batch t mem) with same | ⟨some_, st, path, storage, deleted, emptied⟩
    · rw [same]
      exact there
    · have other : ¬(t' = t ∧ h.remove.applies = true) := by
        rintro ⟨rfl, applies⟩
        rw [tasks, if_pos applies] at mem'
        simp [isId] at mem'
      rw [emptied, Function.update_of_ne (inv.spared kept found some_ storage deleted
        (sub.subset mem') alive other up key type lies)]
      exact there

/-! ## Every live backup can be read -/

theorem Vault.Inv.submitBackup {v : Vault} {h : Health} {inp : SubmitBackupInput}
    (inv : v.Inv cfg) : (v.next cfg (.submitBackup h inp)).Inv cfg := by
  simp only [Vault.next]
  rcases submitBackupTask_adds cfg h inp inv.bound with
    same | ⟨-, adds⟩
  · rw [same]
    exact inv
  · have noPath : inp.row.storagePath = "" := by
      simp only [SubmitBackupInput.row]
    exact inv.adds adds (fun _ => noPath) (fun _ => noPath) (absurd noPath)

theorem Vault.Inv.submitRestore {v : Vault} {h : Health} {inp : SubmitRestoreInput} {uuid : String}
    (inv : v.Inv cfg) : (v.next cfg (.submitRestore h inp uuid)).Inv cfg := by
  simp only [Vault.next]
  rcases submitRestoreTask_adds cfg h inp uuid inv.bound with
    same | ⟨src, mode, source, adds⟩
  · rw [same]
    exact inv
  · have mem := source_mem source
    apply inv.adds adds
    · intro batch
      revert batch
      simp [SubmitRestoreInput.row, isNamespaceBatch, BackupMode.text]
    · intro single
      revert single
      simp [SubmitRestoreInput.row, BackupMode.text]
    · exact inv.origin src mem

/-- The invariant of the platform while its steps meet the condition. -/
theorem vault_invariant : Transition.Invariant
    ((vaultSystem cfg).guard fun v ev => ev.Kept cfg v) (Vault.Inv cfg) where
  init := by
    rintro v rfl
    exact Vault.inv_empty
  step := by
    rintro v ev v' inv ⟨kept, notBatch, rfl⟩
    cases ev with
    | submitBackup h inp => exact inv.submitBackup
    | submitRestore h inp uuid => exact inv.submitRestore
    | handle e id taskType => exact inv.handle notBatch kept
    | delete h listed id => exact inv.delete kept

/-- The record that a live backup is found under is its own. -/
theorem Vault.Inv.get_healthy {v : Vault} {t : BackupTask} (inv : v.Inv cfg)
    (mem : t ∈ v.store.tasks) : get healthy v.store t.id = .ok t := by
  unfold get
  rw [if_neg (inv.positive t mem)]
  simp only [healthy, Store.find_eq inv.ids mem]

theorem Vault.Inv.readable {v : Vault} {t : BackupTask} (inv : v.Inv cfg)
    (mem : t ∈ v.store.tasks) (alive : t.Live) : v.Readable cfg t := by
  obtain ⟨u, path, up, key, type, ⟨st, storage, place⟩, there⟩ := inv.live t mem alive
  obtain ⟨single, success, some_⟩ := alive
  rw [type] at storage
  rw [key] at place
  have found := inv.get_healthy mem
  have read : st.download cfg v.store.files t.storagePath = .ok u.content := by
    simp only [Storage.download, place, there]
  have notBatch : isNamespaceBatch t.backupType = false := by
    rw [single]
    decide
  refine ⟨u, st, up, ?_, storage, read, ?_⟩
  · simp [download, found, success, notBatch, some_, storage, read]
  · intro inp backup mode
    have positive := inv.positive t mem
    unfold SubmitRestoreInput.source
    dsimp only
    rw [backup, if_neg positive, found]
    simp only [success, notBatch, storage]
    simp only [List.mem_cons, List.not_mem_nil, or_false] at mode
    rcases mode with mode | mode | mode <;> rw [mode] <;> exact ⟨_, rfl⟩

/-- While no step takes the object of a live backup away, every live backup can be read. -/
theorem live_readable {v : Vault}
    (h : Transition.Reachable ((vaultSystem cfg).guard fun v ev => ev.Kept cfg v) v)
    {t : BackupTask} (mem : t ∈ v.store.tasks) (alive : t.Live) : v.Readable cfg t :=
  (vault_invariant.holds h).readable mem alive

theorem kept_handle {cfg : BackupConfig} {e : Environment} {v : Vault} {id : Nat}
    {taskType : TaskType}
    (relative : ∀ t ∈ v.store.find id, t.clusterCode ≠ "" ∧ isAbs t.clusterCode = false) :
    (Event.handle e id taskType).Kept cfg v := by
  intro task executed up files res uploaded baseDir _
  obtain ⟨kind, gvr, name, st, path, -, -, -, key, -⟩ := uploadSingle_ok uploaded
  unfold singleExecuted at executed
  cases found : v.store.find id with
  | none => simp [found] at executed
  | some t =>
      simp only [found] at executed
      split at executed
      · cases executed
        obtain ⟨named, slashless⟩ := relative t found
        intro rooted
        rw [key, buildKey, String.append_assoc, String.append_assoc, String.append_assoc,
          isAbs_append named] at rooted
        exact absurd (slashless.symm.trans rooted) Bool.false_ne_true
      · cases executed

/-- A ConfigMap is backed up, in one task or in the next. -/
def backedUp (id : Nat) : List Event :=
  [.submitBackup healthy
      ⟨"prod", "default", "ConfigMap", "app", [], [], .single, "local", "dev", 7⟩,
    .handle answering id .backup]

/-- It is restored, and the record of the restore is deleted. -/
def restoreDeleted : List Event :=
  [.submitRestore healthy ⟨1, "", "dev", 7, "overwrite", ""⟩ "5f0c2a91",
    .handle answering 2 .restore, .delete healthy (fun _ _ => []) 2]

def backupRecord (id : Nat) (key : String) : BackupTask :=
  ⟨id, "prod", some "default", some "ConfigMap", some "app", "single", "", "local", key, .success,
    some 15, "dev", 7, none, 1⟩

/-- The state after the events. -/
def vaultAfter (events : List Event) : Vault :=
  Transition.exec (Vault.next localOnly) .empty events

theorem reachable_after {events : List Event}
    (along : Transition.Along (fun v ev => ev.NotBatch v) (Vault.next localOnly) .empty events) :
    Transition.Reachable (vaultSystem localOnly) (vaultAfter events) :=
  .exec_guard (.init rfl) along

theorem kept_after {events : List Event}
    (along : Transition.Along (fun v ev => ev.Kept localOnly v ∧ ev.NotBatch v)
      (Vault.next localOnly) .empty events) :
    Transition.Reachable ((vaultSystem localOnly).guard fun v ev => ev.Kept localOnly v)
      (vaultAfter events) := by
  rw [vaultSystem, Transition.System.guard_guard]
  exact .exec_guard (.init rfl) along

theorem notBatch_handle {e : Environment} {v : Vault} {id : Nat} {taskType : TaskType}
    (single : ∀ t ∈ v.store.find id, isNamespaceBatch t.backupType = false) :
    (Event.handle e id taskType).NotBatch v := single

theorem restore_deletion_takes_backup :
    Transition.Reachable (vaultSystem localOnly) (vaultAfter (backedUp 1 ++ restoreDeleted)) ∧
      backupRecord 1 "prod/20260101/1_ConfigMap_app.yaml" ∈
        (vaultAfter (backedUp 1 ++ restoreDeleted)).store.tasks ∧
      (backupRecord 1 "prod/20260101/1_ConfigMap_app.yaml").Live ∧
      ¬(vaultAfter (backedUp 1 ++ restoreDeleted)).Readable localOnly
        (backupRecord 1 "prod/20260101/1_ConfigMap_app.yaml") := by
  refine ⟨reachable_after ⟨trivial, notBatch_handle (by decide), trivial,
    notBatch_handle (by decide), trivial, trivial⟩, by decide, by decide, ?_⟩
  · rintro ⟨u, st, -, downloaded, -⟩
    have gone : (download localOnly healthy (vaultAfter (backedUp 1 ++ restoreDeleted)).store
        1).toOption = none := by
      decide
    have there := congrArg Except.toOption downloaded
    exact nomatch gone.symm.trans there

/-- Deleting a second backup of the same object leaves the first one readable. -/
theorem live_readable_beside_deletion :
    (vaultAfter (backedUp 1 ++ backedUp 2 ++ [.delete healthy (fun _ _ => []) 2])).Readable
      localOnly (backupRecord 1 "prod/20260101/1_ConfigMap_app.yaml") := by
  refine live_readable (kept_after ?_) (by decide) (by decide)
  have deleted : (get healthy (vaultAfter (backedUp 1 ++ backedUp 2)).store 2).toOption =
      some (backupRecord 2 "prod/20260101/2_ConfigMap_app.yaml") := by
    decide
  have single : ∀ t ∈ (vaultAfter (backedUp 1 ++ backedUp 2)).store.tasks,
      t.storagePath = "prod/20260101/2_ConfigMap_app.yaml" →
      t = backupRecord 2 "prod/20260101/2_ConfigMap_app.yaml" := by
    decide
  refine ⟨⟨trivial, trivial⟩, ⟨kept_handle (by decide), notBatch_handle (by decide)⟩,
    ⟨trivial, trivial⟩, ⟨kept_handle (by decide), notBatch_handle (by decide)⟩, ⟨?_, trivial⟩,
    trivial⟩
  intro t found _ other mem _ _ samePath
  have eq : t = backupRecord 2 "prod/20260101/2_ConfigMap_app.yaml" := by
    have found := congrArg Except.toOption found
    exact Option.some.inj (found.symm.trans deleted)
  subst eq
  exact ⟨single other mem samePath, rfl⟩

end K8sPlatform.Backup
