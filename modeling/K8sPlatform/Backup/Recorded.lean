import K8sPlatform.Backup.Execution
import K8sPlatform.Lib.Cut

/-! # The row of a task that fails -/

namespace K8sPlatform.Backup

/-- `truncateStr` of the worker, and `truncate` of the manager. -/
def truncateStr (s : String) (n : Nat) : ByteArray := Text.firstBytes s n

/-- The database takes a text parameter that is valid UTF-8. -/
def Storable (text : ByteArray) : Prop := text.IsValidUTF8

variable {s : Store} {w : WriteResult} {id : Nat} {errMsg : String}

theorem failTask_of_storable (storable : Storable (truncateStr errMsg 1024)) :
    failTask s w id errMsg = s.update w id fun t =>
      { t with
        status := .failed
        errorMessage := some (.ofByteArray (truncateStr errMsg 1024) storable) } := by
  obtain ⟨kept, cut⟩ := Option.isSome_iff_exists.1
    (Text.truncateBytes_isSome.2 (Text.firstBytes_isValidUTF8.1 storable))
  have text : String.ofList kept = .ofByteArray (truncateStr errMsg 1024) storable :=
    String.toByteArray_inj.1 (Text.toByteArray_truncateBytes cut)
  unfold failTask
  rw [cut]
  dsimp only
  rw [text]

/-- An update that the database rejects leaves no trace. -/
theorem failTask_of_not_storable (rejected : ¬Storable (truncateStr errMsg 1024)) :
    failTask s w id errMsg = s := by
  have cut : Text.truncateBytes 1024 errMsg.toList = none := by
    rw [← Option.not_isSome_iff_eq_none]
    intro some_
    exact rejected (Text.firstBytes_isValidUTF8.2 (Text.truncateBytes_isSome.1 some_))
  unfold failTask
  rw [cut]

variable {cfg : BackupConfig} {e : Environment} {task : BackupTask} {taskType : TaskType}

/-- A delivery that claims its task, with a database that takes the last write if it can. -/
structure Claims (e : Environment) (s : Store) (task : BackupTask) : Prop where
  load : e.load = none
  found : s.find task.id = some task
  pending : task.status = .pending
  claim : e.claim = .done
  failure : e.failure = .done

/-- The body of a claimed task. -/
def bodyOf (cfg : BackupConfig) (e : Environment) (s : Store) (task : BackupTask)
    (taskType : TaskType) : Store × Except String Unit :=
  executeTask cfg e (claimTask s e.claim task.id).1 { task with status := .running } taskType

theorem Claims.handleTask (claims : Claims e s task) {err : String}
    (fails : (bodyOf cfg e s task taskType).2 = .error err) :
    handleTask cfg e s task.id taskType =
      (failTask (bodyOf cfg e s task taskType).1 .done task.id err, .error err) := by
  have won : (claimTask s e.claim task.id).2 = true := by
    rw [claimTask_won, claims.claim]
    obtain ⟨mem, -⟩ := Store.find_mem claims.found
    exact ⟨rfl, task, mem, rfl, claims.pending⟩
  have done : e.claim.error = none := by
    rw [claims.claim]
    rfl
  unfold bodyOf at fails ⊢
  unfold Backup.handleTask
  simp only [claims.load, claims.found, claims.pending, ne_eq, not_true_eq_false, if_false, done,
    won, if_true]
  unfold runTask
  dsimp only
  rw [fails, claims.failure]

/-- The row is still there after the body. -/
theorem Claims.find_body (claims : Claims e s task) :
    ∃ t, (bodyOf cfg e s task taskType).1.find task.id = some t := by
  obtain ⟨files, w, change, run, ends, -⟩ := executeTask_writes cfg e
    (claimTask s e.claim task.id).1 { task with status := .running } taskType
  have claimed : (claimTask s e.claim task.id).1.find task.id =
      some (task.claimed e.claim task.id) := by
    have rows : (claimTask s e.claim task.id).1.find task.id =
        (s.find task.id).map fun t => t.claimed e.claim task.id :=
      Store.find_map (by rw [claimTask_store]) (fun t => t.claimed_id e.claim task.id) task.id
    rw [rows, claims.found]
    rfl
  have kept : ({ (claimTask s e.claim task.id).1 with files := files } : Store).find task.id =
      some (task.claimed e.claim task.id) := claimed
  unfold bodyOf
  rw [run, Store.find_update _ _ _ fun t => (ends t).1]
  dsimp only
  rw [kept]
  split
  · exact ⟨_, rfl⟩
  · exact ⟨_, rfl⟩

/-- For every claimed task and every message with which its body fails: the last write is accepted
and the row is failed when `HandleTask` returns, exactly when the 1024th byte of the message ends a
character or there are no more. Otherwise the row stays as the body has left it. -/
theorem failure_recorded_iff (cfg : BackupConfig) (e : Environment) (s : Store) (task : BackupTask)
    (taskType : TaskType) (err : String) (claims : Claims e s task)
    (fails : (bodyOf cfg e s task taskType).2 = .error err) :
    ((Storable (truncateStr err 1024) ∧
        ∃ t, (handleTask cfg e s task.id taskType).1.find task.id = some t ∧
          t.status = .failed) ↔
      Text.CutsCleanly err 1024) ∧
    (¬Text.CutsCleanly err 1024 →
      (handleTask cfg e s task.id taskType).1 = (bodyOf cfg e s task taskType).1) := by
  have accepted : Storable (truncateStr err 1024) ↔ Text.CutsCleanly err 1024 :=
    Text.firstBytes_isValidUTF8
  rw [claims.handleTask fails]
  constructor
  · constructor
    · exact fun recorded => accepted.1 recorded.1
    · intro clean
      have storable := accepted.2 clean
      obtain ⟨t, found⟩ : ∃ t, (bodyOf cfg e s task taskType).1.find task.id = some t :=
        claims.find_body
      refine ⟨storable, ?_⟩
      rw [failTask_of_storable storable, Store.find_update, found]
      · exact ⟨_, rfl, rfl⟩
      · exact fun t => rfl
  · intro cut
    exact failTask_of_not_storable fun storable => cut (accepted.1 storable)

def runningSingle : BackupTask :=
  ⟨1, "prod", some "default", some "ConfigMap", some "app", "single", "", "local", "", .pending,
    none, "dev", 7, none, 0⟩

def oneTask : Store := { Store.empty with tasks := [runningSingle], lastId := 1 }

/-- The client of the cluster fails. -/
def unreachable (err : String) : Environment := { quiet with client := fun _ => some err }

theorem oneTask_claims (err : String) : Claims (unreachable err) oneTask runningSingle :=
  ⟨rfl, rfl, rfl, rfl, rfl⟩

theorem unreachable_fails (err : String) :
    (bodyOf localOnly (unreachable err) oneTask runningSingle .backup).2 =
      .error ("get cluster client: " ++ err) := rfl

/-- What the client's error is when the context of a kubeconfig names a user that is not there. -/
def longError : String :=
  String.ofList ("[51003] user \"a".toList ++ List.replicate 400 '错' ++ "\" 不存在".toList)

/-- The task fails, the 1024th byte of its message is within a character, and the row stays
running. -/
theorem failed_task_stays_running :
    (handleTask localOnly (unreachable longError) oneTask 1 .backup).2 =
        .error ("get cluster client: " ++ longError) ∧
      ((handleTask localOnly (unreachable longError) oneTask 1 .backup).1.find 1).map (·.status) =
        some .running := by
  have chars : longError.toList = _ := String.toList_ofList
  have text (n : Nat) : Text.truncateBytes n ("get cluster client: " ++ longError).toList =
      Text.truncateBytes n ("get cluster client: ".toList ++
        ("[51003] user \"a".toList ++ List.replicate 400 '错' ++ "\" 不存在".toList)) := by
    rw [String.toList_append, chars]
  have none_ : (Text.truncateBytes 1024 ("get cluster client: ".toList ++
      ("[51003] user \"a".toList ++ List.replicate 400 '错' ++
        "\" 不存在".toList))).isSome = false := by
    decide +kernel
  have cut : ¬Storable (truncateStr ("get cluster client: " ++ longError) 1024) := by
    intro storable
    have some_ := Text.truncateBytes_isSome.2 (Text.firstBytes_isValidUTF8.1 storable)
    rw [text, none_] at some_
    cases some_
  have handled := (oneTask_claims longError).handleTask (unreachable_fails longError)
  rw [failTask_of_not_storable cut] at handled
  have run : handleTask localOnly (unreachable longError) oneTask 1 .backup =
      handleTask localOnly (unreachable longError) oneTask runningSingle.id .backup := rfl
  rw [run, handled]
  exact ⟨rfl, rfl⟩

theorem short_error_recorded :
    ∃ t, (handleTask localOnly (unreachable "[40401] 集群不存在") oneTask 1 .backup).1.find 1 =
        some t ∧
      t.status = .failed := by
  have clean : Text.CutsCleanly ("get cluster client: " ++ "[40401] 集群不存在") 1024 := by
    rw [Text.CutsCleanly, String.utf8ByteSize_append]
    left
    decide
  exact ((failure_recorded_iff localOnly (unreachable "[40401] 集群不存在") oneTask runningSingle .backup
    ("get cluster client: " ++ "[40401] 集群不存在") (oneTask_claims "[40401] 集群不存在")
    (unreachable_fails "[40401] 集群不存在")).1.2 clean).2

end K8sPlatform.Backup
