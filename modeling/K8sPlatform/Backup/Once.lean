import K8sPlatform.Backup.Running

/-! # No body is entered twice -/

namespace K8sPlatform.Backup

variable (cfg : BackupConfig) (e : Environment)

/-- A step of the queue, or a message that reaches the stream in another way: a duplicate of an
earlier one, or one for the same task with another type. -/
inductive Delivery
  | step (ev : QueueEvent)
  | message (msg : StreamMessage)

/-- The task whose body this step enters; with an unknown type there is none. -/
def Delivery.enters (q : Queue) : Delivery → Option Nat
  | .step (.advance worker _) =>
    match (q.workers worker).phase with
    | .executing _ task .backup | .executing _ task .restore => some task.id
    | _ => none
  | _ => none

/-- The queue and the tasks whose bodies have been entered, in order. -/
structure History where
  queue : Queue
  entered : List Nat

def History.start : History := ⟨.empty, []⟩

def Delivery.apply (q : Queue) : Delivery → Queue
  | .step ev => q.next cfg ev
  | .message msg => { q with store := q.store.push .done msg }

def History.next (h : History) (d : Delivery) : History :=
  ⟨d.apply cfg h.queue, h.entered ++ (d.enters h.queue).toList⟩

variable {cfg}

/-- The id has been given out and no row of it waits. -/
def Store.Spent (s : Store) (id : Nat) : Prop :=
  id ≤ s.lastId ∧ ∀ t ∈ s.tasks, t.id = id → t.status ≠ .pending

theorem RowsTo.spent {s s' : Store} {id : Nat} (rows : RowsTo Onward s s') (spent : s.Spent id) :
    s'.Spent id := by
  refine ⟨rows.lastId.symm ▸ spent.1, fun t' mem' isId pending => ?_⟩
  obtain ⟨t, mem, same, back⟩ := rows.rows t' mem'
  exact spent.2 t mem (same ▸ isId) (back pending)

theorem Store.Spent.insert {s : Store} {id : Nat} (spent : s.Spent id) (w : WriteResult)
    (row : BackupTask) : (s.insert w row).Spent id := by
  obtain ⟨bound, waits⟩ := spent
  unfold Store.insert
  split
  · refine ⟨Nat.le_succ_of_le bound, fun t mem isId => ?_⟩
    obtain old | new := List.mem_append.1 mem
    · exact waits t old isId
    · obtain rfl := List.mem_singleton.1 new
      simp only at isId
      omega
  · exact ⟨bound, waits⟩

/-- What a worker does to the rows. -/
theorem Worker.advance_onward (e : Environment) (s : Store) (w : Worker) :
    RowsTo Onward s (w.advance cfg e s).1 := by
  have free (notLoaded : ∀ msg task taskType, w.phase ≠ .loaded msg task taskType)
      (none_ : w.task = none) : RowsTo Onward s (w.advance cfg e s).1 := by
    rw [(Worker.advance_free cfg e s none_ notLoaded).1]
    exact .refl (fun t => (Ends.refl t).onward) rfl rfl
  cases phase : w.phase with
  | idle => exact free (by simp [phase]) (by simp [Worker.task, phase])
  | returned msg res => exact free (by simp [phase]) (by simp [Worker.task, phase])
  | loaded msg task taskType =>
      rw [(Worker.advance_loaded cfg e s phase).1]
      exact claimTask_onward s e.claim task.id
  | executing msg task taskType => exact (Worker.advance_executing cfg e s phase).1.onward
  | failing msg task err =>
      rw [(Worker.advance_failing cfg e s phase).1]
      exact (failTask_ends s e.failure task.id err).onward

/-- A step passes the rows on, or it inserts one. -/
theorem Queue.next_rows (q : Queue) (cfg : BackupConfig) (ev : QueueEvent) :
    RowsTo Onward q.store (q.next cfg ev).store ∨
      ∃ w row, (q.next cfg ev).store = q.store.insert w row := by
  have same {s : Store} (eq : s = q.store) : RowsTo Onward q.store s :=
    .refl (fun t => (Ends.refl t).onward) (congrArg _ eq) (congrArg _ eq)
  cases ev with
  | submitBackup h call inp =>
      obtain kept | ⟨row, -, stored⟩ := beginBackup_cases cfg h q.store inp
      · exact .inl (same kept)
      · exact .inr ⟨_, row, stored⟩
  | submitRestore h call inp uuid =>
      obtain kept | ⟨row, -, stored⟩ := beginRestore_cases cfg h q.store inp uuid
      · exact .inl (same kept)
      · exact .inr ⟨_, row, stored⟩
  | advanceCall h call =>
      left
      unfold Queue.next
      dsimp only
      split
      · exact same rfl
      · rename_i c _
        exact (c.advance_ends h q.store).onward
  | delete h listed id => exact .inl (delete_ends h listed q.store id).onward
  | advance worker e => exact .inl (Worker.advance_onward e q.store (q.workers worker))
  | crash worker => exact .inl (same rfl)
  | readGroup worker => exact .inl (same (q.next_readGroup cfg worker))
  | autoClaim worker chosen => exact .inl (same (q.next_autoClaim cfg worker chosen))
  | ack worker w => exact .inl (same (q.next_ack cfg worker w))

theorem Delivery.apply_spent {q : Queue} {id : Nat} (spent : q.store.Spent id) (d : Delivery) :
    (d.apply cfg q).store.Spent id := by
  cases d with
  | message msg =>
      unfold Delivery.apply Store.Spent
      rw [Store.push_lastId, Store.push_tasks]
      exact spent
  | step ev =>
      obtain rows | ⟨w, row, stored⟩ := q.next_rows cfg ev
      · exact rows.spent spent
      · unfold Delivery.apply
        rw [stored]
        exact spent.insert w row

/-- A worker comes to an execution by a claim that it has won. -/
theorem Worker.advance_starts {e : Environment} {s : Store} {w : Worker} {msg : Nat}
    {task : BackupTask} {taskType : TaskType}
    (starts : (w.advance cfg e s).2.phase = .executing msg task taskType) :
    (w.advance cfg e s).1 = (claimTask s e.claim task.id).1 ∧
      (claimTask s e.claim task.id).2 = true := by
  have held : (w.advance cfg e s).2.task = some task.id := by
    simp only [Worker.task, starts]
  have free (notLoaded : ∀ msg task taskType, w.phase ≠ .loaded msg task taskType)
      (none_ : w.task = none) : False := by
    rw [(Worker.advance_free cfg e s none_ notLoaded).2] at held
    cases held
  cases phase : w.phase with
  | idle => exact (free (by simp [phase]) (by simp [Worker.task, phase])).elim
  | returned first res => exact (free (by simp [phase]) (by simp [Worker.task, phase])).elim
  | loaded first loaded loadedType =>
      obtain ⟨store, hands⟩ := Worker.advance_loaded cfg e s phase
      rw [hands] at held
      split at held
      · rename_i won
        have isId : loaded.id = task.id := Option.some.inj held
        rw [store, ← isId]
        exact ⟨rfl, won.2⟩
      · cases held
  | executing first running runningType =>
      unfold Worker.advance at starts
      rw [phase] at starts
      dsimp only at starts
      split at starts <;> cases starts
  | failing first failed err =>
      rw [(Worker.advance_failing cfg e s phase).2] at held
      cases held

theorem executing_of_update {workers : Nat → Worker} {v w msg : Nat} {x : Worker}
    {task : BackupTask} {taskType : TaskType} (other : x.phase ≠ .executing msg task taskType)
    (executing : (Function.update workers v x w).phase = .executing msg task taskType) :
    (workers w).phase = .executing msg task taskType := by
  rw [Function.update_apply] at executing
  split at executing
  · exact absurd executing other
  · exact executing

/-- A worker that is about to enter a body was so before, or it has just won a claim. -/
theorem Delivery.apply_executing {q : Queue} {d : Delivery} {w msg : Nat} {task : BackupTask}
    {taskType : TaskType}
    (executing : ((d.apply cfg q).workers w).phase = .executing msg task taskType) :
    ((q.workers w).phase = .executing msg task taskType ∧ ∀ e, d ≠ .step (.advance w e)) ∨
      ∃ claim, (d.apply cfg q).store = (claimTask q.store claim task.id).1 ∧
        (claimTask q.store claim task.id).2 = true := by
  cases d with
  | message msg => exact .inl ⟨executing, by simp⟩
  | step ev =>
  unfold Delivery.apply Queue.next at executing
  cases ev with
  | advance worker e =>
      dsimp only at executing
      rw [Function.update_apply] at executing
      split at executing
      · exact .inr ⟨e.claim, Worker.advance_starts executing⟩
      · rename_i other
        refine .inl ⟨executing, fun e' eq => other ?_⟩
        cases eq
        rfl
  | submitBackup | submitRestore | delete => exact .inl ⟨executing, by simp⟩
  | advanceCall h call =>
      dsimp only at executing
      split at executing <;> exact .inl ⟨executing, by simp⟩
  | crash worker => exact .inl ⟨executing_of_update (by simp [Worker.fresh]) executing, by simp⟩
  | readGroup worker =>
      dsimp only at executing
      split at executing
      · split at executing
        · exact .inl ⟨executing_of_update (by simp) executing, by simp⟩
        · exact .inl ⟨executing, by simp⟩
      · exact .inl ⟨executing, by simp⟩
  | autoClaim worker chosen =>
      dsimp only at executing
      split at executing
      · exact .inl ⟨executing_of_update (by simp) executing, by simp⟩
      · exact .inl ⟨executing, by simp⟩
  | ack worker w =>
      dsimp only at executing
      split at executing
      · exact .inl ⟨executing_of_update (by simp) executing, by simp⟩
      · exact .inl ⟨executing, by simp⟩

/-! ## The invariant -/

/-- A task whose body has been entered is with no claim any more, and no worker is about to
enter it. -/
structure History.Once (h : History) : Prop where
  inv : h.queue.Inv
  spent : ∀ id ∈ h.entered, h.queue.store.Spent id
  apart : ∀ w msg task taskType, (h.queue.workers w).phase = .executing msg task taskType →
    task.id ∉ h.entered
  once : h.entered.Nodup

theorem Delivery.apply_inv {q : Queue} (inv : q.Inv) (d : Delivery) : (d.apply cfg q).Inv := by
  cases d with
  | step ev => exact inv.next ev
  | message msg =>
      refine inv.ends (.refl .refl ?_ ?_) fun w id has => has
      · exact Store.push_tasks q.store .done msg
      · exact Store.push_lastId q.store .done msg

/-- The body that a step enters is that of a task in the hands of the worker that steps. -/
theorem Delivery.enters_executing {q : Queue} {d : Delivery} {id : Nat}
    (enters : d.enters q = some id) : ∃ worker e msg task taskType,
      d = .step (.advance worker e) ∧
        (q.workers worker).phase = .executing msg task taskType ∧ task.id = id := by
  unfold Delivery.enters at enters
  split at enters
  · rename_i worker e
    split at enters
    · rename_i msg task phase
      exact ⟨worker, e, msg, task, .backup, rfl, phase, Option.some.inj enters⟩
    · rename_i msg task phase
      exact ⟨worker, e, msg, task, .restore, rfl, phase, Option.some.inj enters⟩
    · cases enters
  · cases enters

theorem History.Once.next {h : History} (once : h.Once) (d : Delivery) : (h.next cfg d).Once := by
  obtain ⟨inv, spent, apart, nodup⟩ := once
  have entered : (h.next cfg d).entered = h.entered ++ (d.enters h.queue).toList := rfl
  constructor
  case inv => exact Delivery.apply_inv inv d
  case spent =>
    intro id mem
    refine Delivery.apply_spent ?_ d
    rw [entered, List.mem_append, Option.mem_toList] at mem
    obtain old | enters := mem
    · exact spent id old
    · obtain ⟨worker, -, msg, task, taskType, -, phase, rfl⟩ := Delivery.enters_executing enters
      exact inv.taken worker task.id (by simp only [Worker.task, phase])
  case apart =>
    intro w msg task taskType executing mem
    rw [entered, List.mem_append, Option.mem_toList] at mem
    obtain ⟨before, other⟩ | ⟨claim, -, won⟩ := Delivery.apply_executing executing
    · obtain old | enters := mem
      · exact apart w msg task taskType before old
      · -- two workers with one task are one worker
        obtain ⟨worker, e, msg', task', taskType', step, phase, same⟩ :=
          Delivery.enters_executing enters
        have hands : (h.queue.workers w).task = some task.id := by
          simp only [Worker.task, before]
        have hands' : (h.queue.workers worker).task = some task.id := by
          simp only [Worker.task, phase, same]
        obtain rfl := inv.apart w worker task.id hands hands'
        exact other e step
    · obtain ⟨-, t, memT, isId, pending⟩ := (claimTask_won _ claim task.id).1 won
      obtain old | enters := mem
      · exact (spent task.id old).2 t memT isId pending
      · obtain ⟨worker, -, msg', task', taskType', -, phase, same⟩ :=
          Delivery.enters_executing enters
        have hands : (h.queue.workers worker).task = some task.id := by
          simp only [Worker.task, phase, same]
        exact (inv.taken worker task.id hands).2 t memT isId pending
  case once =>
    rw [entered]
    refine List.nodup_append.2 ⟨nodup, ?_, ?_⟩
    · cases d.enters h.queue with
      | none => exact List.nodup_nil
      | some id => exact List.nodup_singleton id
    · rintro id old id' new rfl
      rw [Option.mem_toList] at new
      obtain ⟨worker, -, msg, task, taskType, -, phase, rfl⟩ := Delivery.enters_executing new
      exact apart worker msg task taskType phase old

theorem History.once_start : History.start.Once where
  inv := Queue.inv_empty
  spent := by simp [History.start]
  apart := by simp [History.start, Queue.empty, Worker.fresh]
  once := List.nodup_nil

/-- In every run, with any duplicates and redeliveries, each body is entered at most once. -/
theorem body_entered_at_most_once (cfg : BackupConfig) (run : List Delivery) (id : Nat) :
    (Transition.exec (History.next cfg) .start run).entered.count id ≤ 1 := by
  have invariant : Transition.Invariant
      (Transition.System.ofFn (· = .start) (History.next cfg)) History.Once := by
    constructor
    · rintro h rfl
      exact History.once_start
    · rintro h d _ once rfl
      exact once.next d
  have reached : Transition.Reachable
      (Transition.System.ofFn (· = .start) (History.next cfg))
      (Transition.exec (History.next cfg) .start run) := .exec run (.init rfl)
  exact List.nodup_iff_count_le_one.1 (invariant.holds reached).once id

/-- Two workers load a task before either claims it, and a duplicate follows. -/
example : (Transition.exec (History.next localOnly) .start
    ([.submitBackup healthy 0
        ⟨"prod", "default", "ConfigMap", "app", [], [], .single, "local", "dev", 7⟩,
      .advanceCall healthy 0, .readGroup 0, .autoClaim 1 [0], .advance 0 quiet, .advance 1 quiet,
      .advance 1 quiet, .advance 0 quiet, .advance 1 quiet].map .step ++
    [.message ⟨1, .restore⟩, .step (.readGroup 2), .step (.advance 2 quiet)])).entered = [1] := by
  decide

end K8sPlatform.Backup
