import K8sPlatform.Backup.Execution

/-! # What a batch backup puts into the storage -/

namespace K8sPlatform.Backup

variable (cfg : BackupConfig) (e : Environment) (task : BackupTask)

/-- What the n-th object of the plan becomes; `none` when it counts as failed. -/
def batchUpload (st : Storage) (item : PlanItem × Nat) : Option Upload :=
  match e.get task.clusterCode (batchCall .get item.1.ns item.1.kind item.1.name) with
  | .error _ => none
  | .ok yaml =>
    let key := buildKey task.clusterCode (e.date item.2)
      (toString task.id ++ "-" ++ pad5 (item.2 + 1)) item.1.kind.1 item.1.name
    match e.disk item.2 with
    | some _ => none
    | none =>
      match st.uploadPath cfg key with
      | .error _ => none
      | .ok _ => some ⟨task.storageType, key, yaml⟩

/-- The objects of the plan that are uploaded, in order. -/
def batchStored (st : Storage) (items : List (PlanItem × Nat)) :
    List ((PlanItem × Nat) × Upload) :=
  items.filterMap fun item => (batchUpload cfg e task st item).map fun up => (item, up)

/-- The plan of a batch over the lists of its payload. -/
def batchPlan (payload : BatchPayload) : List (PlanItem × Nat) :=
  (batchItems e task.clusterCode
    (batchPairs e payload.decode.1 (batchKinds payload.decode.2))).zipIdx

/-- The pairs of the payload that could not be listed. -/
def batchUnlisted (payload : BatchPayload) : Nat :=
  (batchPairs e payload.decode.1 (batchKinds payload.decode.2)).countP fun pair =>
    (listPair e task.clusterCode pair).isNone

/-- The files after the uploads. -/
def putAll (files : Files) (st : Storage) (uploads : List ((PlanItem × Nat) × Upload)) : Files :=
  uploads.foldl (fun files up =>
    match st.uploadPath cfg up.2.key with
    | .error _ => files
    | .ok path => Function.update files path (some up.2.content)) files

variable {cfg e task}

theorem backupItem_failed {st : Storage} {p : BatchProgress} {item : PlanItem × Nat}
    (failed : batchUpload cfg e task st item = none) :
    (backupItem cfg e task st p item).files = p.files ∧
      (backupItem cfg e task st p item).done = p.done ∧
      (backupItem cfg e task st p item).failed = p.failed + 1 ∧
      (backupItem cfg e task st p item).lastStorage = p.lastStorage := by
  obtain ⟨it, i⟩ := item
  unfold batchUpload at failed
  unfold backupItem
  dsimp only at failed ⊢
  cases got : e.get task.clusterCode (batchCall .get it.ns it.kind it.name) with
  | error err => exact ⟨rfl, rfl, rfl, rfl⟩
  | ok yaml =>
      unfold Environment.upload Storage.upload
      rw [got] at failed
      dsimp only at failed ⊢
      cases disk : e.disk i with
      | some err => exact ⟨rfl, rfl, rfl, rfl⟩
      | none =>
          rw [disk] at failed
          dsimp only at failed ⊢
          cases placed : st.uploadPath cfg (buildKey task.clusterCode (e.date i)
              (toString task.id ++ "-" ++ pad5 (i + 1)) it.kind.1 it.name) with
          | error err => exact ⟨rfl, rfl, rfl, rfl⟩
          | ok path =>
              rw [placed] at failed
              cases failed

theorem backupItem_stored {st : Storage} {p : BatchProgress} {item : PlanItem × Nat} {up : Upload}
    (stored : batchUpload cfg e task st item = some up) :
    (backupItem cfg e task st p item).files = putAll cfg p.files st [(item, up)] ∧
      (backupItem cfg e task st p item).done = p.done + 1 ∧
      (backupItem cfg e task st p item).failed = p.failed ∧
      (backupItem cfg e task st p item).lastStorage = up.key := by
  obtain ⟨it, i⟩ := item
  unfold batchUpload at stored
  unfold backupItem
  dsimp only at stored ⊢
  cases got : e.get task.clusterCode (batchCall .get it.ns it.kind it.name) with
  | error err =>
      rw [got] at stored
      cases stored
  | ok yaml =>
      unfold Environment.upload Storage.upload putAll
      rw [got] at stored
      dsimp only at stored ⊢
      cases disk : e.disk i with
      | some err =>
          rw [disk] at stored
          cases stored
      | none =>
          rw [disk] at stored
          dsimp only at stored ⊢
          cases placed : st.uploadPath cfg (buildKey task.clusterCode (e.date i)
              (toString task.id ++ "-" ++ pad5 (i + 1)) it.kind.1 it.name) with
          | error err =>
              rw [placed] at stored
              cases stored
          | ok path =>
              rw [placed] at stored
              cases stored
              rw [List.foldl_cons, List.foldl_nil]
              dsimp only
              rw [placed]
              exact ⟨rfl, rfl, rfl, rfl⟩

variable (cfg e task) in
/-- What the loop over the plan leaves behind. -/
theorem foldl_backupItem (st : Storage) (items : List (PlanItem × Nat)) (p : BatchProgress) :
    let stored := batchStored cfg e task st items
    let q := items.foldl (backupItem cfg e task st) p
    q.files = putAll cfg p.files st stored ∧ q.done = p.done + stored.length ∧
      q.failed + stored.length = p.failed + items.length ∧
      q.lastStorage = (stored.getLast?.map (·.2.key)).getD p.lastStorage := by
  induction items generalizing p with
  | nil => simp [batchStored, putAll]
  | cons item items ih =>
      obtain ⟨files, done, failed, last⟩ := ih (backupItem cfg e task st p item)
      dsimp only at files done failed last ⊢
      rw [List.foldl_cons]
      cases put : batchUpload cfg e task st item with
      | none =>
          obtain ⟨files₁, done₁, failed₁, last₁⟩ := backupItem_failed (p := p) put
          have same : batchStored cfg e task st (item :: items) =
              batchStored cfg e task st items := by
            simp [batchStored, put]
          rw [same, List.length_cons]
          refine ⟨files.trans (by rw [files₁]), by omega, by omega, last.trans (by rw [last₁])⟩
      | some up =>
          obtain ⟨files₁, done₁, failed₁, last₁⟩ := backupItem_stored (p := p) put
          have more : batchStored cfg e task st (item :: items) =
              (item, up) :: batchStored cfg e task st items := by
            simp [batchStored, put]
          rw [more, List.length_cons, List.length_cons]
          refine ⟨files.trans ?_, by omega, by omega, last.trans ?_⟩
          · rw [files₁]
            rfl
          · rw [last₁, List.getLast?_cons]
            cases (batchStored cfg e task st items).getLast? <;> rfl

/-- The message of a batch that has stored something. -/
def batchSummary (done failed total : Nat) : String :=
  "批量完成：成功 " ++ toString done ++ "，失败 " ++ toString failed ++ "，总对象 " ++ toString total

theorem batchObjectPrefix_ne_empty {id : Nat} {key : String} (named : key ≠ "") :
    batchObjectPrefix id key ≠ "" := by
  have dash : (toString id ++ "-").toList ≠ [] := by simp
  have chars : key.toList ≠ [] := fun nil => named (String.toList_inj.1 (by simpa using nil))
  intro empty
  have none_ := congrArg String.toList empty
  unfold batchObjectPrefix at none_
  dsimp only at none_
  rw [if_neg (by simpa using chars)] at none_
  split at none_
  · simp [chars] at none_
  · simp at none_

theorem key_ne_empty (code date backupID kind name : String) :
    buildKey code date backupID kind name ≠ "" := by
  simp [buildKey]

theorem batchUpload_ok {st : Storage} {item : PlanItem × Nat} {up : Upload}
    (stored : batchUpload cfg e task st item = some up) :
    up.storageType = task.storageType ∧
      up.key = buildKey task.clusterCode (e.date item.2)
        (toString task.id ++ "-" ++ pad5 (item.2 + 1)) item.1.kind.1 item.1.name ∧
      ∃ path, st.uploadPath cfg up.key = .ok path := by
  unfold batchUpload at stored
  split at stored
  · cases stored
  · dsimp only at stored
    split at stored
    · cases stored
    · split at stored
      · cases stored
      · rename_i path placed
        cases stored
        exact ⟨rfl, rfl, path, placed⟩

/-- The change of the row of a batch that has stored some objects: the prefix comes from the key
of the last one. -/
structure EndsBatch (id : Nat) (key : String) (done unlisted total : Nat) (old new : BackupTask) :
    Prop where
  sameId : new.id = old.id
  sameType : new.storageType = old.storageType
  sameMode : new.backupType = old.backupType
  storagePath : new.storagePath = batchObjectPrefix id key
  summary : ∃ failed, new.errorMessage = some (batchSummary done failed total) ∧
    failed + done = unlisted + total

theorem mem_batchStored {st : Storage} {items : List (PlanItem × Nat)}
    {put : (PlanItem × Nat) × Upload} :
    put ∈ batchStored cfg e task st items ↔
      put.1 ∈ items ∧ batchUpload cfg e task st put.1 = some put.2 := by
  obtain ⟨item, up⟩ := put
  simp only [batchStored, List.mem_filterMap, Option.map_eq_some_iff, Prod.mk.injEq]
  constructor
  · rintro ⟨item', mem, up', stored, rfl, rfl⟩
    exact ⟨mem, stored⟩
  · rintro ⟨mem, stored⟩
    exact ⟨item, mem, up, stored, rfl, rfl⟩

/-- A batch that succeeds has come to its two phases. -/
theorem doBackupNamespaceBatch_runs {s : Store}
    (ok : (doBackupNamespaceBatch cfg e s task).result = .ok ()) :
    ∃ payload st, s.payloads task.id = some payload ∧ cfg.getStorage task.storageType = .ok st ∧
      doBackupNamespaceBatch cfg e s task =
        runBatch cfg e s task st payload.decode.1 (batchKinds payload.decode.2) := by
  unfold doBackupNamespaceBatch at ok ⊢
  cases unread : e.payload with
  | some err => simp [unread] at ok
  | none =>
  cases stored : s.payloads task.id with
  | none => simp [unread, stored] at ok
  | some payload =>
  simp only [unread, stored, Option.map_some, Option.getD_some] at ok ⊢
  by_cases lists : payload.decode.1 = [] ∨ payload.decode.2 = []
  · simp [lists] at ok
  cases client : e.client task.clusterCode with
  | some err => simp [lists, client] at ok
  | none =>
  cases storage : cfg.getStorage task.storageType with
  | error err => simp [lists, client, storage] at ok
  | ok st =>
  by_cases kinds : batchKinds payload.decode.2 = []
  · simp [lists, client, storage, kinds] at ok
  · exact ⟨payload, st, rfl, rfl, by simp only [lists, kinds, if_false]⟩

/-- A batch that succeeds has stored some objects of its plan, and its row tells of them. -/
theorem doBackupNamespaceBatch_ok {s : Store}
    (ok : (doBackupNamespaceBatch cfg e s task).result = .ok ()) :
    ∃ (payload : BatchPayload) (st : Storage) (last : (PlanItem × Nat) × Upload)
      (change : BackupTask → BackupTask), s.payloads task.id = some payload ∧
      cfg.getStorage task.storageType = .ok st ∧
      (batchStored cfg e task st (batchPlan e task payload)).getLast? = some last ∧
      (doBackupNamespaceBatch cfg e s task).store = { s with
        files := putAll cfg s.files st (batchStored cfg e task st (batchPlan e task payload))
        tasks := s.tasks.map fun t => if t.id = task.id then change t else t } ∧
      ∀ t, EndsBatch task.id last.2.key
        (batchStored cfg e task st (batchPlan e task payload)).length
        (batchUnlisted e task payload) (batchPlan e task payload).length t (change t) := by
  obtain ⟨payload, st, stored, storage, run⟩ := doBackupNamespaceBatch_runs ok
  rw [run] at ok ⊢
  have loop := foldl_backupItem cfg e task st (batchPlan e task payload)
    ⟨(batchPairs e payload.decode.1 (batchKinds payload.decode.2)).map fun pair =>
      batchCall .list pair.1 pair.2 "", s.files, 0, batchUnlisted e task payload, 0, ""⟩
  have plan : (batchItems e task.clusterCode
      (batchPairs e payload.decode.1 (batchKinds payload.decode.2))).zipIdx =
    batchPlan e task payload := rfl
  have total : (batchItems e task.clusterCode
      (batchPairs e payload.decode.1 (batchKinds payload.decode.2))).length =
    (batchPlan e task payload).length := List.length_zipIdx.symm
  have unlisted : (batchPairs e payload.decode.1 (batchKinds payload.decode.2)).countP
      (fun pair => (listPair e task.clusterCode pair).isNone) = batchUnlisted e task payload := rfl
  apply Exists.intro payload
  apply Exists.intro st
  unfold runBatch at ok ⊢
  dsimp only at ok loop ⊢
  rw [plan, total, unlisted] at ok ⊢
  generalize (batchPlan e task payload).foldl (backupItem cfg e task st) _ = q at ok loop ⊢
  obtain ⟨files, done, failed, last⟩ := loop
  have named : ∀ put ∈ batchStored cfg e task st (batchPlan e task payload), put.2.key ≠ "" := by
    intro put mem
    rw [(batchUpload_ok (mem_batchStored.1 mem).2).2.1]
    exact key_ne_empty _ _ _ _ _
  generalize batchStored cfg e task st (batchPlan e task payload) = puts
    at files done failed last named ⊢
  split at ok
  · cases ok
  rename_i items
  rw [if_neg items]
  split at ok
  · cases ok
  rename_i some_
  rw [if_neg some_]
  cases lastPut : puts.getLast? with
  | none =>
      rw [List.getLast?_eq_none_iff.1 lastPut] at done
      exact absurd done some_
  | some put =>
  cases result : e.result.error with
  | some err => simp [result] at ok
  | none =>
      have key : q.lastStorage = put.2.key := by
        rw [last, lastPut]
        rfl
      have pathed : batchObjectPrefix task.id put.2.key ≠ "" :=
        batchObjectPrefix_ne_empty (named put (List.mem_of_getLast? lastPut))
      refine ⟨put, fun t =>
        { t with
          status := .success, sizeBytes := some q.totalSize, objectCount := q.done,
          storagePath := batchObjectPrefix task.id put.2.key
          errorMessage := some (batchSummary q.done q.failed (batchPlan e task payload).length) },
        stored, storage, rfl, ?_, fun t => ⟨rfl, rfl, rfl, rfl, q.failed, ?_, failed⟩⟩
      · unfold Store.update
        rw [if_pos (applies_of_error result), key, if_neg pathed, files]
        rfl
      · rw [done, Nat.zero_add]

end K8sPlatform.Backup
