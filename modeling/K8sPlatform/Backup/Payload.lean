import K8sPlatform.Backup.Batch

/-! # What a batch payload gives back -/

namespace K8sPlatform.Backup

open Errcode

/-- No element has a comma in it, and the list is not that of one empty text. -/
def Encodable (xs : List String) : Prop := (∀ x ∈ xs, ',' ∉ x.toList) ∧ xs ≠ [""]

theorem decodeList_join_iff {xs : List String} (some_ : xs ≠ []) :
    decodeList (Text.join ',' xs) = xs ↔ Encodable xs := by
  by_cases blank : xs = [""]
  · subst blank
    apply iff_of_false
    · decide
    · exact fun encodable => encodable.2 rfl
  · rw [decodeList_join some_ blank]
    constructor
    · intro same
      refine ⟨fun x mem => ?_, blank⟩
      rw [← same] at mem
      obtain ⟨element, -, piece⟩ := List.mem_flatMap.1 mem
      exact Text.not_mem_of_mem_split piece
    · rintro ⟨plain, -⟩
      have each : xs.flatMap (Text.split ',') = xs.flatMap fun x => [x] :=
        List.flatMap_congr fun x mem => Text.split_of_not_mem (plain x mem)
      rw [pieces, each, List.flatMap_singleton']

/-- The lists that the worker finds for a task. -/
def workerLists (s : Store) (id : Nat) : List String × List String :=
  ((s.payloads id).map BatchPayload.decode).getD ([], [])

/-- A batch over the lists that the worker has found. -/
def backupLists (cfg : BackupConfig) (e : Environment) (s : Store) (task : BackupTask)
    (namespaces kindFilter : List String) : BatchRun :=
  if namespaces = [] ∨ kindFilter = [] then
    ⟨[], s, .error ("batch payload empty (namespaces=" ++ toString namespaces.length ++
      " kinds=" ++ toString kindFilter.length ++ ")")⟩
  else
    match e.client task.clusterCode with
    | some err => ⟨[], s, .error ("get cluster client: " ++ err)⟩
    | none =>
      match cfg.getStorage task.storageType with
      | .error err => ⟨[], s, .error ("get storage " ++ task.storageType ++ ": " ++ err.text)⟩
      | .ok st =>
        if batchKinds kindFilter = [] then ⟨[], s, .error "没有合法的 kind_filter，已全部跳过"⟩
        else runBatch cfg e s task st namespaces (batchKinds kindFilter)

/-- All that the worker takes from the payload are the two lists. -/
theorem doBackupNamespaceBatch_eq {e : Environment} (read : e.payload = none) (cfg : BackupConfig)
    (s : Store) (task : BackupTask) :
    doBackupNamespaceBatch cfg e s task =
      backupLists cfg e s task (workerLists s task.id).1 (workerLists s task.id).2 := by
  unfold doBackupNamespaceBatch
  rw [read]
  rfl

theorem readers_agree {s : Store} {id : Nat} {payload : BatchPayload}
    (stored : s.payloads id = some payload) :
    getBatchPayload healthy s id = .ok payload.decode ∧ workerLists s id = payload.decode := by
  unfold getBatchPayload workerLists
  rw [stored]
  exact ⟨rfl, rfl⟩

/-- For every accepted batch, as long as its payload is kept: the manager and the worker read the
lists that were submitted exactly when both can be encoded. -/
theorem payload_returns_iff (cfg : BackupConfig) (h : Health) (s s' later : Store)
    (inp : SubmitBackupInput) (task : BackupTask) (batch : inp.effectiveMode = .namespaceBatch)
    (accepted : submitBackupTask cfg h s inp = (s', .ok task))
    (kept : later.payloads task.id = s'.payloads task.id) :
    (getBatchPayload healthy later task.id = .ok (inp.namespaces, inp.kindFilter) ∧
        workerLists later task.id = (inp.namespaces, inp.kindFilter)) ↔
      Encodable inp.namespaces ∧ Encodable inp.kindFilter := by
  have mode : inp.mode = .namespaceBatch := by
    unfold SubmitBackupInput.effectiveMode at batch
    split at batch
    · cases batch
    · exact batch
  obtain ⟨-, someNs, someKind, -, stored⟩ := submitBackupTask_batch mode accepted
  obtain ⟨manager, worker⟩ := readers_agree (kept.trans stored)
  rw [manager, worker, Except.ok.injEq, and_self]
  unfold BatchPayload.decode SubmitBackupInput.payload
  rw [Prod.mk.injEq, decodeList_join_iff someNs, decodeList_join_iff someKind]

def batchInput (ns : String) : SubmitBackupInput :=
  ⟨"prod", "", "", "", [ns], ["Pod"], .namespaceBatch, "local", "dev", 7⟩

/-- The store after the submission of a batch, whose task has the id 1. -/
def submitted (ns : String) : Store :=
  (submitBackupTask localOnly healthy .empty (batchInput ns)).1

/-- One namespace comes back as two, and an empty one is lost. -/
theorem namespaces_not_returned :
    (submitBackupTask localOnly healthy .empty (batchInput "team-a,team-b")).2.isOk = true ∧
      workerLists (submitted "team-a,team-b") 1 = (["team-a", "team-b"], ["Pod"]) ∧
      (getBatchPayload healthy (submitted "team-a,team-b") 1).toOption =
        some (["team-a", "team-b"], ["Pod"]) ∧
      (submitBackupTask localOnly healthy .empty (batchInput "")).2.isOk = true ∧
      workerLists (submitted "") 1 = ([], ["Pod"]) := by
  decide +kernel

theorem default_returned : workerLists (submitted "default") 1 = (["default"], ["Pod"]) := by
  have encodable : Encodable ["default"] ∧ Encodable ["Pod"] := by
    unfold Encodable
    decide
  exact ((payload_returns_iff localOnly healthy .empty (submitted "default") (submitted "default")
    (batchInput "default") { (batchInput "default").row with id := 1 } rfl rfl rfl).2 encodable).2

end K8sPlatform.Backup
