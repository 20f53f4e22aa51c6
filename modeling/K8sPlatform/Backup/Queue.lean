import Mathlib.Logic.Function.Iterate
import K8sPlatform.Backup.Worker

/-! # The task queue and its workers -/

namespace K8sPlatform.Backup

open Errcode

/-- Where a worker is in its handling of a message, given by its position in the stream. -/
inductive Phase
  | idle
  | loaded (msg : Nat) (task : BackupTask) (taskType : TaskType)
  | executing (msg : Nat) (task : BackupTask) (taskType : TaskType)
  | failing (msg : Nat) (task : BackupTask) (errMsg : String)
  | returned (msg : Nat) (result : Except String Unit)

/-- A worker with the messages that it has received and not yet handled. -/
structure Worker where
  inbox : List Nat
  phase : Phase

/-- An accepted submission between the insertion of its row and its answer. -/
inductive Call
  | enqueue (task : BackupTask) (payload : Option BatchPayload) (taskType : TaskType)
  | report (id : Nat) (err : Error)

/-- The database and the storages, the consumer group of the stream (how many messages it has
delivered, and which of them have no ACK), the calls on the manager and the workers. -/
structure Queue where
  store : Store
  delivered : Nat
  unacked : List Nat
  calls : Nat → Option Call
  workers : Nat → Worker

def Worker.fresh : Worker := ⟨[], .idle⟩

def Queue.empty : Queue := ⟨.empty, 0, [], fun _ => none, fun _ => .fresh⟩

/-- A step of a call or of a worker, each with at most one write to the tables or the stream. A
worker that crashes comes back with nothing in its hands; so does one whose read is lost on the
way. A crash inside an execution is one after an execution whose last write was refused. -/
inductive QueueEvent
  | submitBackup (h : Health) (call : Nat) (inp : SubmitBackupInput)
  | submitRestore (h : Health) (call : Nat) (inp : SubmitRestoreInput) (uuid : String)
  | advanceCall (h : Health) (call : Nat)
  | delete (h : Health) (listed : Storage → String → List String) (id : Nat)
  | readGroup (worker : Nat)
  | autoClaim (worker : Nat) (chosen : List Nat)
  | advance (worker : Nat) (e : Environment)
  | ack (worker : Nat) (w : WriteResult)
  | crash (worker : Nat)

def beginBackup (cfg : BackupConfig) (h : Health) (s : Store) (inp : SubmitBackupInput) :
    Store × Option Call :=
  match inp.validate cfg with
  | .error _ => (s, none)
  | .ok () =>
    let stored := s.insert h.create inp.row
    match h.create.error with
    | some _ => (stored, none)
    | none =>
        (stored, some (.enqueue { inp.row with id := s.lastId + 1 }
          (if inp.effectiveMode = .namespaceBatch then some inp.payload else none) .backup))

def beginRestore (cfg : BackupConfig) (h : Health) (s : Store) (inp : SubmitRestoreInput)
    (uuid : String) : Store × Option Call :=
  match inp.source cfg h s with
  | .error _ => (s, none)
  | .ok (src, mode) =>
    let row := inp.row src mode uuid
    let stored := s.insert h.create row
    match h.create.error with
    | some _ => (stored, none)
    | none => (stored, some (.enqueue { row with id := s.lastId + 1 } none .restore))

/-- The payload of a batch goes into Redis in the step before its message. -/
def Call.advance (h : Health) (s : Store) : Call → Store × Option Call
  | .enqueue task (some payload) taskType =>
      (s.setPayload h.payload task.id payload,
        some (match h.payload.error with
          | some err => .report task.id (.wrapMsg .redisError err "写入 batch payload")
          | none => .enqueue task none taskType))
  | .enqueue task none taskType =>
      (s.push h.push ⟨task.id, taskType⟩,
        h.push.error.map fun err =>
          .report task.id (.wrapMsg .redisError err "写入 Redis Stream 失败"))
  | .report id err => (setTaskError h s id err.text, none)

/-! ## Workers in steps -/

variable (cfg : BackupConfig) (e : Environment)

def loadTask (s : Store) (msg : Nat) : Phase :=
  match s.stream[msg]? with
  | none => .returned msg (.ok ())
  | some m =>
    match e.load with
    | some err => .returned msg (.error ("load task " ++ toString m.taskId ++ ": " ++ err))
    | none =>
      match s.find m.taskId with
      | none => .returned msg (.ok ())
      | some task =>
          if task.status ≠ .pending then .returned msg (.ok ()) else .loaded msg task m.taskType

/-- The next step of a worker in `HandleTask`. -/
def Worker.advance (s : Store) (w : Worker) : Store × Worker :=
  match w.phase with
  | .idle =>
    match w.inbox with
    | [] => (s, w)
    | msg :: rest => (s, ⟨rest, loadTask e s msg⟩)
  | .loaded msg task taskType =>
    let claimed := claimTask s e.claim task.id
    match e.claim.error with
    | some err =>
        (claimed.1, ⟨w.inbox,
          .returned msg (.error ("cas claim task " ++ toString task.id ++ ": " ++ err))⟩)
    | none =>
        if claimed.2 then
          (claimed.1, ⟨w.inbox, .executing msg { task with status := .running } taskType⟩)
        else (claimed.1, ⟨w.inbox, .returned msg (.ok ())⟩)
  | .executing msg task taskType =>
    let run := executeTask cfg e s task taskType
    match run.2 with
    | .ok () => (run.1, ⟨w.inbox, .returned msg (.ok ())⟩)
    | .error err => (run.1, ⟨w.inbox, .failing msg task err⟩)
  | .failing msg task err =>
      (failTask s e.failure task.id err, ⟨w.inbox, .returned msg (.error err)⟩)
  | .returned _ _ => (s, w)

def Queue.next (q : Queue) : QueueEvent → Queue
  | .submitBackup h call inp =>
      let begun := beginBackup cfg h q.store inp
      { q with store := begun.1, calls := Function.update q.calls call begun.2 }
  | .submitRestore h call inp uuid =>
      let begun := beginRestore cfg h q.store inp uuid
      { q with store := begun.1, calls := Function.update q.calls call begun.2 }
  | .advanceCall h call =>
    match q.calls call with
    | none => q
    | some c =>
        let advanced := c.advance h q.store
        { q with store := advanced.1, calls := Function.update q.calls call advanced.2 }
  | .delete h listed id => { q with store := (delete cfg h listed q.store id).1 }
  | .readGroup worker =>
    match q.workers worker with
    | ⟨[], .idle⟩ =>
        if q.delivered < q.store.stream.length then
          { q with
            delivered := q.delivered + 1, unacked := q.unacked ++ [q.delivered],
            workers := Function.update q.workers worker ⟨[q.delivered], .idle⟩ }
        else q
    | _ => q
  | .autoClaim worker chosen =>
    match q.workers worker with
    | ⟨[], .idle⟩ =>
        { q with
          workers := Function.update q.workers worker
            ⟨(chosen.filter (· ∈ q.unacked)).take 10, .idle⟩ }
    | _ => q
  | .advance worker e =>
      let advanced := (q.workers worker).advance cfg e q.store
      { q with store := advanced.1, workers := Function.update q.workers worker advanced.2 }
  | .ack worker w =>
    match q.workers worker with
    | ⟨inbox, .returned msg res⟩ =>
        { q with
          unacked := if res.isOk && w.applies then q.unacked.filter (· ≠ msg) else q.unacked
          workers := Function.update q.workers worker ⟨inbox, .idle⟩ }
    | _ => q
  | .crash worker => { q with workers := Function.update q.workers worker .fresh }

theorem Queue.next_readGroup (cfg : BackupConfig) (q : Queue) (worker : Nat) :
    (q.next cfg (.readGroup worker)).store = q.store := by
  unfold Queue.next
  dsimp only
  split
  · split <;> rfl
  · rfl

theorem Queue.next_autoClaim (cfg : BackupConfig) (q : Queue) (worker : Nat) (chosen : List Nat) :
    (q.next cfg (.autoClaim worker chosen)).store = q.store := by
  unfold Queue.next
  dsimp only
  split <;> rfl

theorem Queue.next_ack (cfg : BackupConfig) (q : Queue) (worker : Nat) (w : WriteResult) :
    (q.next cfg (.ack worker w)).store = q.store := by
  unfold Queue.next
  dsimp only
  split <;> rfl

/-- A call, one step further. -/
def Call.run (h : Health) (p : Store × Option Call) : Store × Option Call :=
  match p.2 with
  | none => p
  | some c => c.advance h p.1

/-- Without anything in between, a call does what `enqueue` does. -/
theorem enqueue_alone (h : Health) (s : Store) (task : BackupTask) (payload : Option BatchPayload)
    (taskType : TaskType) :
    (Call.run h)^[3] (s, some (.enqueue task payload taskType)) =
      ((enqueue h s task payload taskType).1, none) := by
  unfold enqueue
  cases payload with
  | none =>
      cases pushed : h.push.error <;> simp [Call.run, Call.advance, pushed]
  | some p =>
      cases stored : h.payload.error with
      | some err => simp [Call.run, Call.advance, stored]
      | none =>
          cases pushed : h.push.error <;> simp [Call.run, Call.advance, stored, pushed]

theorem run_finished (h : Health) (s : Store) (n : Nat) :
    (Call.run h)^[n] (s, none) = (s, none) :=
  Function.iterate_fixed rfl n

theorem submitBackupTask_alone (cfg : BackupConfig) (h : Health) (s : Store)
    (inp : SubmitBackupInput) :
    (Call.run h)^[3] (beginBackup cfg h s inp) = ((submitBackupTask cfg h s inp).1, none) := by
  unfold beginBackup submitBackupTask
  cases valid : inp.validate cfg with
  | error err => exact run_finished h s 3
  | ok _ =>
      dsimp only
      cases h.create.error with
      | some err => exact run_finished h _ 3
      | none => exact enqueue_alone h _ _ _ _

theorem submitRestoreTask_alone (cfg : BackupConfig) (h : Health) (s : Store)
    (inp : SubmitRestoreInput) (uuid : String) :
    (Call.run h)^[3] (beginRestore cfg h s inp uuid) =
      ((submitRestoreTask cfg h s inp uuid).1, none) := by
  unfold beginRestore submitRestoreTask
  cases source : inp.source cfg h s with
  | error err => exact run_finished h s 3
  | ok found =>
      dsimp only
      cases h.create.error with
      | some err => exact run_finished h _ 3
      | none => exact enqueue_alone h _ _ _ _

/-- Without anything in between, the steps of a worker on a message are those of `handleTask`. -/
theorem handleTask_alone (cfg : BackupConfig) (e : Environment) {s : Store} {msg : Nat}
    {m : StreamMessage} (entry : s.stream[msg]? = some m) (rest : List Nat) :
    (fun p : Store × Worker => p.2.advance cfg e p.1)^[4] (s, ⟨msg :: rest, .idle⟩) =
      ((handleTask cfg e s m.taskId m.taskType).1,
        ⟨rest, .returned msg (handleTask cfg e s m.taskId m.taskType).2⟩) := by
  obtain ⟨id, taskType⟩ := m
  simp only [Function.iterate_succ, Function.iterate_zero, Function.comp_apply, id_eq]
  unfold handleTask
  cases load : e.load with
  | some err => simp [Worker.advance, loadTask, entry, load]
  | none =>
  cases found : s.find id with
  | none => simp [Worker.advance, loadTask, entry, load, found]
  | some task =>
  by_cases pending : task.status = .pending
  swap
  · simp [Worker.advance, loadTask, entry, load, found, pending]
  obtain ⟨-, rfl⟩ := Store.find_mem found
  have loaded : loadTask e s msg = .loaded msg task taskType := by
    simp [loadTask, entry, load, found, pending]
  cases claim : e.claim.error with
  | some err => simp [Worker.advance, loaded, pending, claim]
  | none =>
  cases won : (claimTask s e.claim task.id).2 with
  | false => simp [Worker.advance, loaded, pending, claim, won]
  | true =>
  unfold runTask
  cases run : executeTask cfg e (claimTask s e.claim task.id).1 { task with status := .running }
      taskType with
  | mk after result =>
      cases result with
      | ok _ => simp [Worker.advance, loaded, pending, claim, won, run]
      | error err => simp [Worker.advance, loaded, pending, claim, won, run]

end K8sPlatform.Backup
