import K8sPlatform.Backup.Execution
import K8sPlatform.Backup.Queue
import K8sPlatform.Lib.Transition

/-! # Running tasks and their workers -/

namespace K8sPlatform.Backup

variable (cfg : BackupConfig) (e : Environment)

/-- The task that a worker has claimed and not finished. -/
def Worker.task (w : Worker) : Option Nat :=
  match w.phase with
  | .executing _ task _ | .failing _ task _ => some task.id
  | _ => none

/-- A redelivery of the message can take the record out of its state. -/
def Resumes (s : Store) (msg : StreamMessage) (t : BackupTask) : Prop :=
  msg.taskId = t.id ∧ ∃ e, t ∉ (handleTask cfg e s msg.taskId msg.taskType).1.tasks

/-- Every running task is with a live worker, or a message without an ACK takes it up again. -/
def Queue.NotLost (q : Queue) : Prop :=
  ∀ t ∈ q.store.tasks, t.status = .running →
    (∃ w, (q.workers w).task = some t.id) ∨
      ∃ m ∈ q.unacked, ∃ msg, q.store.stream[m]? = some msg ∧ Resumes cfg q.store msg t

/-- The condition on a step: no worker crashes while the task in its hands is running, no claim
takes effect and is answered with an error, and the write after a failure marks the task. -/
def QueueEvent.Kept (q : Queue) : QueueEvent → Prop
  | .advance worker e =>
    match (q.workers worker).phase with
    | .loaded _ task _ => ∀ t ∈ q.store.tasks, t.id = task.id → t.status = .pending →
        e.claim.applies = true → e.claim.error = none
    | .failing _ task err => ∀ t ∈ q.store.tasks, t.id = task.id → t.status = .running →
        e.failure.applies = true ∧ (Text.truncateBytes 1024 err.toList).isSome = true
    | _ => True
  | .crash worker => ∀ id, (q.workers worker).task = some id →
      ∀ t ∈ q.store.tasks, t.id = id → t.status ≠ .running
  | _ => True

variable {cfg} {e}

/-! ## What the steps do to the workers -/

theorem loadTask_task (s : Store) (msg : Nat) (inbox : List Nat) :
    Worker.task ⟨inbox, loadTask e s msg⟩ = none := by
  unfold loadTask
  split
  · rfl
  split
  · rfl
  split
  · rfl
  split <;> rfl

/-- A worker that has not loaded a task and has none in its hands leaves the tables alone. -/
theorem Worker.advance_free (cfg : BackupConfig) (e : Environment) (s : Store) {w : Worker}
    (free : w.task = none)
    (notLoaded : ∀ msg task taskType, w.phase ≠ .loaded msg task taskType) :
    (w.advance cfg e s).1 = s ∧ (w.advance cfg e s).2.task = none := by
  obtain ⟨inbox, phase⟩ := w
  cases phase with
  | idle =>
      cases inbox with
      | nil => exact ⟨rfl, rfl⟩
      | cons msg rest => exact ⟨rfl, loadTask_task s msg rest⟩
  | loaded msg task taskType => exact absurd rfl (notLoaded msg task taskType)
  | executing => cases free
  | failing => cases free
  | returned => exact ⟨rfl, rfl⟩

theorem Worker.advance_loaded (cfg : BackupConfig) (e : Environment) (s : Store) {w : Worker}
    {msg : Nat} {task : BackupTask}
    {taskType : TaskType} (phase : w.phase = .loaded msg task taskType) :
    (w.advance cfg e s).1 = (claimTask s e.claim task.id).1 ∧
      (w.advance cfg e s).2.task =
        if e.claim.error = none ∧ (claimTask s e.claim task.id).2 = true then some task.id
        else none := by
  unfold Worker.advance
  rw [phase]
  cases answer : e.claim.error with
  | some err => exact ⟨rfl, by simp [Worker.task]⟩
  | none =>
      cases won : (claimTask s e.claim task.id).2 with
      | false => exact ⟨by simp [won], by simp [won, Worker.task]⟩
      | true => exact ⟨by simp [won], by simp [won, Worker.task]⟩

theorem Worker.advance_executing (cfg : BackupConfig) (e : Environment) (s : Store) {w : Worker}
    {msg : Nat} {task : BackupTask}
    {taskType : TaskType} (phase : w.phase = .executing msg task taskType) :
    RowsTo Ends s (w.advance cfg e s).1 ∧
      ((w.advance cfg e s).2.task = some task.id ∨ (w.advance cfg e s).2.task = none ∧
        ∀ t ∈ (w.advance cfg e s).1.tasks, t.id = task.id → t.status ≠ .running) := by
  obtain ⟨rows, settled⟩ := executeTask_executes cfg e s task taskType
  unfold Worker.advance
  rw [phase]
  dsimp only
  split
  · rename_i done
    exact ⟨rows, .inr ⟨rfl, settled done⟩⟩
  · exact ⟨rows, .inl rfl⟩

theorem Worker.advance_failing (cfg : BackupConfig) (e : Environment) (s : Store) {w : Worker}
    {msg : Nat} {task : BackupTask}
    {err : String} (phase : w.phase = .failing msg task err) :
    (w.advance cfg e s).1 = failTask s e.failure task.id err ∧
      (w.advance cfg e s).2.task = none := by
  unfold Worker.advance
  rw [phase]
  exact ⟨rfl, rfl⟩

/-- A task in the hands of a worker waits no longer, and no other worker has it. -/
structure Queue.Inv (q : Queue) : Prop where
  ids : (q.store.tasks.map (·.id)).Nodup
  bound : ∀ t ∈ q.store.tasks, t.id ≤ q.store.lastId
  taken : ∀ w id, (q.workers w).task = some id → id ≤ q.store.lastId ∧
    ∀ t ∈ q.store.tasks, t.id = id → t.status ≠ .pending
  apart : ∀ w w' id, (q.workers w).task = some id → (q.workers w').task = some id → w = w'

/-- Every running task is with a live worker. -/
def Queue.Held (q : Queue) : Prop :=
  ∀ t ∈ q.store.tasks, t.status = .running → ∃ w, (q.workers w).task = some t.id

/-- No row comes back to waiting. -/
def Onward (old new : BackupTask) : Prop :=
  new.id = old.id ∧ (new.status = .pending → old.status = .pending)

theorem Ends.onward {old new : BackupTask} (h : Ends old new) : Onward old new := by
  obtain ⟨same, kept | ended | ended⟩ := h
  · exact ⟨same, fun waits => kept ▸ waits⟩
  · exact ⟨same, fun waits => by rw [ended] at waits; cases waits⟩
  · exact ⟨same, fun waits => by rw [ended] at waits; cases waits⟩

theorem RowsTo.onward {s s' : Store} (h : RowsTo Ends s s') : RowsTo Onward s s' := by
  refine ⟨h.lastId, h.ids, fun t' mem' => ?_⟩
  obtain ⟨t, mem, ends⟩ := h.rows t' mem'
  exact ⟨t, mem, ends.onward⟩

/-- Steps that only pass tasks on, or take up tasks that were waiting, keep the invariant. -/
theorem Queue.Inv.onward {q q' : Queue} (inv : q.Inv) (rows : RowsTo Onward q.store q'.store)
    (hands : ∀ w id, (q'.workers w).task = some id → (q.workers w).task = some id ∨
      (∀ v, v ≠ w → (q'.workers v).task = (q.workers v).task) ∧
        (∃ t ∈ q.store.tasks, t.id = id ∧ t.status = .pending) ∧
        ∀ t ∈ q'.store.tasks, t.id = id → t.status ≠ .pending) : q'.Inv := by
  constructor
  case ids => exact inv.ids.sublist rows.ids
  case bound =>
    intro t' mem'
    obtain ⟨t, mem, same, -⟩ := rows.rows t' mem'
    rw [same, rows.lastId]
    exact inv.bound t mem
  case taken =>
    intro w id has
    rw [rows.lastId]
    obtain before | ⟨-, ⟨t, mem, isId, -⟩, waits⟩ := hands w id has
    · obtain ⟨le, waits⟩ := inv.taken w id before
      refine ⟨le, fun t' mem' isId pending => ?_⟩
      obtain ⟨t, mem, same, back⟩ := rows.rows t' mem'
      exact waits t mem (same ▸ isId) (back pending)
    · exact ⟨isId ▸ inv.bound t mem, waits⟩
  case apart =>
    -- a task that was waiting was with no one else
    have alone : ∀ w w' id, (q'.workers w).task = some id → (q'.workers w').task = some id →
        (q.workers w).task ≠ some id → w = w' := by
      intro w w' id has has' new
      obtain ⟨others, ⟨t, mem, isId, pending⟩, -⟩ := (hands w id has).resolve_left new
      by_contra other
      rw [others w' (Ne.symm other)] at has'
      exact (inv.taken w' id has').2 t mem isId pending
    intro w w' id has has'
    by_cases before : (q.workers w).task = some id
    · by_cases before' : (q.workers w').task = some id
      · exact inv.apart w w' id before before'
      · exact (alone w' w id has' has before').symm
    · exact alone w w' id has has' before

theorem Queue.Inv.ends {q q' : Queue} (inv : q.Inv) (rows : RowsTo Ends q.store q'.store)
    (hands : ∀ w id, (q'.workers w).task = some id → (q.workers w).task = some id) : q'.Inv :=
  inv.onward rows.onward fun w id has => .inl (hands w id has)

/-- Steps after which every worker has its task, or the task is over. -/
theorem Queue.Held.ends {q q' : Queue} (held : q.Held) (rows : RowsTo Ends q.store q'.store)
    (hands : ∀ w id, (q.workers w).task = some id → (q'.workers w).task = some id ∨
      ∀ t ∈ q'.store.tasks, t.id = id → t.status ≠ .running) : q'.Held := by
  intro t' mem' running
  obtain ⟨t, mem, same, status⟩ := rows.rows t' mem'
  have before : t.status = .running := by
    obtain kept | ended | ended := status
    · exact kept ▸ running
    · rw [ended] at running
      cases running
    · rw [ended] at running
      cases running
  obtain ⟨w, has⟩ := held t mem before
  obtain now | settled := hands w t.id has
  · exact ⟨w, same ▸ now⟩
  · exact absurd running (settled t' mem' same)

/-- A new row waits, and under an id that nobody has in hands. -/
theorem Queue.inserted {q q' : Queue} {w : WriteResult} {row : BackupTask}
    (pending : row.status = .pending) (store : q'.store = q.store.insert w row)
    (workers : q'.workers = q.workers) : (q.Inv → q'.Inv) ∧ (q.Held → q'.Held) := by
  unfold Store.insert at store
  split at store
  · have tasks : q'.store.tasks = q.store.tasks ++ [{ row with id := q.store.lastId + 1 }] := by
      rw [store]
    have lastId : q'.store.lastId = q.store.lastId + 1 := by
      rw [store]
    constructor
    · intro inv
      constructor
      case ids =>
        rw [tasks, List.map_append]
        refine List.nodup_append.2 ⟨inv.ids, List.nodup_singleton _, ?_⟩
        intro id mem id' mem'
        obtain ⟨t, memT, rfl⟩ := List.mem_map.1 mem
        simp only [List.map_cons, List.map_nil, List.mem_singleton] at mem'
        have le := inv.bound t memT
        omega
      case bound =>
        intro t mem
        rw [tasks, List.mem_append, List.mem_singleton] at mem
        obtain old | rfl := mem
        · have le := inv.bound t old
          omega
        · exact lastId.ge
      case taken =>
        intro v id has
        rw [workers] at has
        obtain ⟨le, waits⟩ := inv.taken v id has
        refine ⟨by omega, fun t mem isId => ?_⟩
        rw [tasks, List.mem_append, List.mem_singleton] at mem
        obtain old | rfl := mem
        · exact waits t old isId
        · simp only at isId
          omega
      case apart =>
        rw [workers]
        exact inv.apart
    · intro held t mem running
      rw [tasks, List.mem_append, List.mem_singleton] at mem
      rw [workers]
      obtain old | rfl := mem
      · exact held t old running
      · rw [pending] at running
        cases running
  · constructor
    · intro inv
      exact inv.ends (.refl .refl (congrArg _ store) (congrArg _ store)) (by simp [workers])
    · intro held
      rw [Queue.Held, store, workers]
      exact held

/-! ## The steps, one by one -/

theorem beginBackup_cases (cfg : BackupConfig) (h : Health) (s : Store) (inp : SubmitBackupInput) :
    (beginBackup cfg h s inp).1 = s ∨
      ∃ row, row.status = .pending ∧ (beginBackup cfg h s inp).1 = s.insert h.create row := by
  unfold beginBackup
  split
  · exact .inl rfl
  · dsimp only
    split <;> exact .inr ⟨inp.row, rfl, rfl⟩

theorem beginRestore_cases (cfg : BackupConfig) (h : Health) (s : Store) (inp : SubmitRestoreInput)
    (uuid : String) :
    (beginRestore cfg h s inp uuid).1 = s ∨
      ∃ row, row.status = .pending ∧
        (beginRestore cfg h s inp uuid).1 = s.insert h.create row := by
  unfold beginRestore
  split
  · exact .inl rfl
  · rename_i src mode _
    dsimp only
    split <;> exact .inr ⟨inp.row src mode uuid, rfl, rfl⟩

theorem Call.advance_ends (h : Health) (s : Store) (c : Call) :
    RowsTo Ends s (c.advance h s).1 := by
  cases c with
  | enqueue task payload taskType =>
      cases payload with
      | none => exact .refl .refl (by simp [Call.advance]) (by simp [Call.advance])
      | some p => exact .refl .refl (by simp [Call.advance]) (by simp [Call.advance])
  | report id err => exact setTaskError_ends h s id err.text

/-- Steps that leave every worker's hands as they are. -/
theorem Queue.untouched {q q' : Queue} (rows : RowsTo Ends q.store q'.store)
    (hands : ∀ w, (q'.workers w).task = (q.workers w).task) :
    (q.Inv → q'.Inv) ∧ (q.Held → q'.Held) := by
  constructor
  · intro inv
    exact inv.ends rows fun w id has => hands w ▸ has
  · intro held
    exact held.ends rows fun w id has => .inl ((hands w).trans has)

/-- The tasks in the workers' hands when one worker has changed. -/
theorem task_update (workers : Nat → Worker) (w : Nat) (x : Worker) (v : Nat) :
    (Function.update workers w x v).task = if v = w then x.task else (workers v).task := by
  rw [Function.update_apply]
  split <;> rfl

theorem task_update_same {workers : Nat → Worker} {w : Nat} {x : Worker}
    (same : x.task = (workers w).task) (v : Nat) :
    (Function.update workers w x v).task = (workers v).task := by
  rw [task_update]
  split
  · rename_i own
    rw [own, same]
  · rfl

/-- All steps but those of a worker on a task. -/
theorem Queue.next_beside (q : Queue) {ev : QueueEvent} (notAdvance : ∀ w e, ev ≠ .advance w e)
    (notCrash : ∀ w, ev ≠ .crash w) :
    (q.Inv → (q.next cfg ev).Inv) ∧ (q.Held → (q.next cfg ev).Held) := by
  cases ev with
  | submitBackup h call inp =>
      obtain same | ⟨row, pending, stored⟩ := beginBackup_cases cfg h q.store inp
      · exact Queue.untouched (.refl .refl (congrArg _ same) (congrArg _ same)) fun _ => rfl
      · exact Queue.inserted pending stored rfl
  | submitRestore h call inp uuid =>
      obtain same | ⟨row, pending, stored⟩ := beginRestore_cases cfg h q.store inp uuid
      · exact Queue.untouched (.refl .refl (congrArg _ same) (congrArg _ same)) fun _ => rfl
      · exact Queue.inserted pending stored rfl
  | advanceCall h call =>
      unfold Queue.next
      dsimp only
      split
      · exact ⟨id, id⟩
      · rename_i c _
        exact Queue.untouched (c.advance_ends h q.store) fun _ => rfl
  | delete h listed id =>
      exact Queue.untouched (delete_ends h listed q.store id) fun _ => rfl
  | readGroup worker =>
      unfold Queue.next
      dsimp only
      split
      · rename_i idle
        split
        · refine Queue.untouched (.refl .refl rfl rfl) (task_update_same ?_)
          rw [idle]
          rfl
        · exact ⟨id, id⟩
      · exact ⟨id, id⟩
  | autoClaim worker chosen =>
      unfold Queue.next
      dsimp only
      split
      · rename_i idle
        refine Queue.untouched (.refl .refl rfl rfl) (task_update_same ?_)
        rw [idle]
        rfl
      · exact ⟨id, id⟩
  | advance worker e => exact absurd rfl (notAdvance worker e)
  | ack worker w =>
      unfold Queue.next
      dsimp only
      split
      · rename_i returned
        refine Queue.untouched (.refl .refl rfl rfl) (task_update_same ?_)
        rw [returned]
        rfl
      · exact ⟨id, id⟩
  | crash worker => exact absurd rfl (notCrash worker)

/-- A worker that crashes has nothing in its hands. -/
theorem Queue.next_crash (q : Queue) (worker : Nat) (v : Nat) :
    ((q.next cfg (.crash worker)).workers v).task =
      if v = worker then none else (q.workers v).task :=
  task_update q.workers worker .fresh v

theorem Queue.Inv.crash {q : Queue} (inv : q.Inv) (worker : Nat) :
    (q.next cfg (.crash worker)).Inv := by
  refine inv.ends (.refl .refl rfl rfl) fun v id has => ?_
  rw [q.next_crash] at has
  split at has
  · cases has
  · exact has

theorem Queue.Inv.held_crash {q : Queue} (inv : q.Inv) (held : q.Held) (worker : Nat) :
    (q.next cfg (.crash worker)).Held ↔ (QueueEvent.crash worker).Kept q := by
  constructor
  · intro after id has t mem isId running
    obtain ⟨v, has'⟩ := after t mem running
    rw [q.next_crash] at has'
    split at has'
    · cases has'
    · rename_i other
      rw [isId] at has'
      exact other (inv.apart v worker id has' has)
  · intro kept
    refine held.ends (.refl .refl rfl rfl) fun v id has => ?_
    rw [q.next_crash]
    by_cases own : v = worker
    · right
      exact kept id (own ▸ has)
    · left
      rw [if_neg own]
      exact has

theorem Queue.next_advance (q : Queue) (worker : Nat) (v : Nat) :
    ((q.next cfg (.advance worker e)).workers v).task =
      if v = worker then ((q.workers worker).advance cfg e q.store).2.task
      else (q.workers v).task :=
  task_update q.workers worker _ v

theorem claimTask_onward (s : Store) (w : WriteResult) (id : Nat) :
    RowsTo Onward s (claimTask s w id).1 := by
  rw [claimTask_store]
  refine .map rfl rfl (fun t => t.claimed_id w id) fun t _ => ⟨t.claimed_id w id, ?_⟩
  unfold BackupTask.claimed
  split
  · nofun
  · exact fun pending => pending

theorem claimTask_settles {s : Store} {w : WriteResult} (applies : w.applies = true) (id : Nat) :
    ∀ t ∈ (claimTask s w id).1.tasks, t.id = id → t.status ≠ .pending := by
  rw [claimTask_store]
  intro t' mem isId
  obtain ⟨t, -, rfl⟩ := List.mem_map.1 mem
  rw [BackupTask.claimed_id] at isId
  unfold BackupTask.claimed
  split
  · nofun
  · rename_i other
    exact fun pending => other ⟨applies, isId, pending⟩

theorem Queue.Inv.advance {q : Queue} (inv : q.Inv) (worker : Nat) (e : Environment) :
    (q.next cfg (.advance worker e)).Inv := by
  have free (notLoaded : ∀ msg task taskType, (q.workers worker).phase ≠ .loaded msg task taskType)
      (none_ : (q.workers worker).task = none) : (q.next cfg (.advance worker e)).Inv := by
    obtain ⟨store, task⟩ := Worker.advance_free cfg e q.store none_ notLoaded
    apply inv.ends (.refl .refl (congrArg _ store) (congrArg _ store))
    intro v id has
    rw [q.next_advance, task] at has
    split at has
    · cases has
    · exact has
  cases phase : (q.workers worker).phase with
  | idle => exact free (by simp [phase]) (by simp [Worker.task, phase])
  | returned msg res => exact free (by simp [phase]) (by simp [Worker.task, phase])
  | loaded msg task taskType =>
      obtain ⟨store, hands⟩ := Worker.advance_loaded cfg e q.store phase
      have store : (q.next cfg (.advance worker e)).store = (claimTask q.store e.claim task.id).1 :=
        store
      apply inv.onward (store ▸ claimTask_onward _ _ _)
      intro v id has
      rw [q.next_advance, hands] at has
      split at has
      · rename_i own
        split at has
        · rename_i won
          obtain ⟨applies, t, mem, isId, pending⟩ := (claimTask_won _ _ _).1 won.2
          obtain rfl := Option.some.inj has
          refine .inr ⟨fun v' other => ?_, ⟨t, mem, isId, pending⟩, ?_⟩
          · rw [q.next_advance, if_neg (own ▸ other)]
          · exact store ▸ claimTask_settles applies task.id
        · cases has
      · exact .inl has
  | executing msg task taskType =>
      obtain ⟨rows, hands⟩ := Worker.advance_executing cfg e q.store phase
      apply inv.ends rows
      intro v id has
      rw [q.next_advance] at has
      split at has
      · rename_i own
        obtain still | ⟨none_, -⟩ := hands
        · rw [still] at has
          rw [own, Worker.task, phase]
          exact has
        · rw [none_] at has
          cases has
      · exact has
  | failing msg task err =>
      obtain ⟨store, hands⟩ := Worker.advance_failing cfg e q.store phase
      have store : (q.next cfg (.advance worker e)).store =
          failTask q.store e.failure task.id err := store
      apply inv.ends (store ▸ failTask_ends _ _ _ _)
      intro v id has
      rw [q.next_advance, hands] at has
      split at has
      · cases has
      · exact has

/-- A claim keeps every running task with a worker unless it is lost on the way back. -/
theorem Queue.Inv.held_claim {q : Queue} (inv : q.Inv) (held : q.Held) {worker msg : Nat}
    {task : BackupTask} {taskType : TaskType} {e : Environment}
    (phase : (q.workers worker).phase = .loaded msg task taskType) :
    (q.next cfg (.advance worker e)).Held ↔ (QueueEvent.advance worker e).Kept q := by
  obtain ⟨store, hands⟩ := Worker.advance_loaded cfg e q.store phase
  have tasks : (q.next cfg (.advance worker e)).store.tasks =
      q.store.tasks.map (·.claimed e.claim task.id) := by
    have after := congrArg Store.tasks store
    rw [claimTask_store] at after
    exact after
  have empty : (q.workers worker).task = none := by
    simp [Worker.task, phase]
  unfold QueueEvent.Kept
  simp only [phase]
  constructor
  · intro after t mem isId pending applies
    by_contra lost
    have running : (t.claimed e.claim task.id).status = .running := by
      unfold BackupTask.claimed
      rw [if_pos ⟨applies, isId, pending⟩]
    obtain ⟨v, has⟩ := after _ (tasks ▸ List.mem_map_of_mem mem) running
    rw [BackupTask.claimed_id, q.next_advance, hands] at has
    split at has
    · rw [if_neg fun won => lost won.1] at has
      cases has
    · exact (inv.taken v t.id has).2 t mem rfl pending
  · intro kept t' mem' running
    rw [tasks] at mem'
    obtain ⟨t, mem, rfl⟩ := List.mem_map.1 mem'
    rw [BackupTask.claimed_id]
    by_cases own : e.claim.applies = true ∧ t.id = task.id ∧ t.status = .pending
    · obtain ⟨applies, isId, pending⟩ := own
      refine ⟨worker, ?_⟩
      have won : (claimTask q.store e.claim task.id).2 = true :=
        (claimTask_won _ _ _).2 ⟨applies, t, mem, isId, pending⟩
      rw [q.next_advance, if_pos rfl, hands, if_pos ⟨kept t mem isId pending applies, won⟩, isId]
    · rw [BackupTask.claimed, if_neg own] at running
      obtain ⟨v, has⟩ := held t mem running
      refine ⟨v, ?_⟩
      have other : v ≠ worker := by
        rintro rfl
        rw [empty] at has
        cases has
      rw [q.next_advance, if_neg other]
      exact has

/-- A failure write keeps every running task with a worker when it marks its own. -/
theorem Queue.Inv.held_failing {q : Queue} (inv : q.Inv) (held : q.Held) {worker msg : Nat}
    {task : BackupTask} {err : String} {e : Environment}
    (phase : (q.workers worker).phase = .failing msg task err) :
    (q.next cfg (.advance worker e)).Held ↔ (QueueEvent.advance worker e).Kept q := by
  obtain ⟨store, hands⟩ := Worker.advance_failing cfg e q.store phase
  have store : (q.next cfg (.advance worker e)).store =
      failTask q.store e.failure task.id err := store
  have mine : (q.workers worker).task = some task.id := by
    simp [Worker.task, phase]
  -- a write that changes nothing leaves the task running
  have unmarked (no : ¬(e.failure.applies = true ∧
      (Text.truncateBytes 1024 err.toList).isSome = true)) :
      failTask q.store e.failure task.id err = q.store := by
    unfold failTask
    cases cut : Text.truncateBytes 1024 err.toList with
    | none => rfl
    | some text =>
        rw [cut] at no
        unfold Store.update
        dsimp only
        rw [if_neg fun applies => no ⟨applies, rfl⟩]
  unfold QueueEvent.Kept
  simp only [phase]
  constructor
  · intro after t mem isId running
    by_contra no
    rw [unmarked no] at store
    obtain ⟨v, has⟩ := after t (store ▸ mem) running
    rw [q.next_advance, hands] at has
    split at has
    · cases has
    · rename_i other
      rw [isId] at has
      exact other (inv.apart v worker task.id has mine)
  · intro kept
    apply held.ends (store ▸ failTask_ends _ _ _ _)
    intro v id has
    rw [q.next_advance]
    by_cases own : v = worker
    · right
      rw [own, mine] at has
      obtain rfl := Option.some.inj has
      rw [store]
      by_cases marked : e.failure.applies = true ∧
          (Text.truncateBytes 1024 err.toList).isSome = true
      · obtain ⟨text, cut⟩ := Option.isSome_iff_exists.1 marked.2
        unfold failTask
        rw [cut]
        exact Store.update_settles marked.1 fun t => nofun
      · rw [unmarked marked]
        exact fun t mem isId running => marked (kept t mem isId running)
    · left
      rw [if_neg own]
      exact has

theorem Queue.Inv.held_advance {q : Queue} (inv : q.Inv) (held : q.Held) (worker : Nat)
    (e : Environment) :
    (q.next cfg (.advance worker e)).Held ↔ (QueueEvent.advance worker e).Kept q := by
  have free (notLoaded : ∀ msg task taskType, (q.workers worker).phase ≠ .loaded msg task taskType)
      (none_ : (q.workers worker).task = none) : (q.next cfg (.advance worker e)).Held := by
    obtain ⟨store, task⟩ := Worker.advance_free cfg e q.store none_ notLoaded
    refine held.ends (.refl .refl (congrArg _ store) (congrArg _ store)) fun v id has => .inl ?_
    rw [q.next_advance, task]
    split
    · rename_i own
      rw [own, none_] at has
      cases has
    · exact has
  cases phase : (q.workers worker).phase with
  | idle =>
      simp only [QueueEvent.Kept, phase, iff_true]
      exact free (by simp [phase]) (by simp [Worker.task, phase])
  | returned msg res =>
      simp only [QueueEvent.Kept, phase, iff_true]
      exact free (by simp [phase]) (by simp [Worker.task, phase])
  | loaded msg task taskType => exact inv.held_claim held phase
  | executing msg task taskType =>
      obtain ⟨rows, hands⟩ := Worker.advance_executing cfg e q.store phase
      simp only [QueueEvent.Kept, phase, iff_true]
      apply held.ends rows
      intro v id has
      rw [q.next_advance]
      split
      · rename_i own
        have isId : task.id = id := by
          rw [own, Worker.task, phase] at has
          exact Option.some.inj has
        obtain still | ⟨-, settled⟩ := hands
        · exact .inl (isId ▸ still)
        · exact .inr (isId ▸ settled)
      · exact .inl has
  | failing msg task err => exact inv.held_failing held phase

theorem Queue.Inv.next {q : Queue} (inv : q.Inv) (ev : QueueEvent) : (q.next cfg ev).Inv := by
  cases ev with
  | advance worker e => exact inv.advance worker e
  | crash worker => exact inv.crash worker
  | _ => exact (q.next_beside (by simp) (by simp)).1 inv

theorem Queue.Inv.held_next {q : Queue} (inv : q.Inv) (held : q.Held) (ev : QueueEvent) :
    (q.next cfg ev).Held ↔ ev.Kept q := by
  cases ev with
  | advance worker e => exact inv.held_advance held worker e
  | crash worker => exact inv.held_crash held worker
  | _ => exact iff_of_true ((q.next_beside (by simp) (by simp)).2 held) trivial

theorem Queue.inv_empty : Queue.empty.Inv where
  ids := by simp [Queue.empty, Store.empty]
  bound := by simp [Queue.empty, Store.empty]
  taken := nofun
  apart := nofun

/-- A running task is skipped by every redelivery. -/
theorem Queue.Inv.not_resumes {q : Queue} {t : BackupTask} (inv : q.Inv)
    (mem : t ∈ q.store.tasks) (running : t.status = .running) (msg : StreamMessage) :
    ¬Resumes cfg q.store msg t := by
  rintro ⟨isId, e, gone⟩
  have same : (handleTask cfg e q.store msg.taskId msg.taskType).1 = q.store := by
    unfold handleTask
    cases e.load with
    | some err => rfl
    | none => simp [isId, Store.find_eq inv.ids mem, running]
  rw [same] at gone
  exact gone mem

theorem Queue.Inv.notLost_iff {q : Queue} (inv : q.Inv) : q.NotLost cfg ↔ q.Held := by
  constructor
  · intro notLost t mem running
    obtain held | ⟨m, -, msg, -, resumes⟩ := notLost t mem running
    · exact held
    · exact absurd resumes (inv.not_resumes mem running msg)
  · intro held t mem running
    exact .inl (held t mem running)

/-- In every run, no task is lost at any time exactly when all steps meet the condition. -/
theorem tasks_kept_iff (cfg : BackupConfig) (events : List QueueEvent) :
    (∀ n, (Transition.exec (Queue.next cfg) .empty (events.take n)).NotLost cfg) ↔
      Transition.Along (fun q ev => ev.Kept q) (Queue.next cfg) .empty events := by
  refine Transition.always_iff_along (fun inv => inv.next _) ?_ Queue.inv_empty
    (Queue.inv_empty.notLost_iff.2 nofun) events
  intro q ev inv notLost
  rw [(inv.next ev).notLost_iff]
  exact inv.held_next (inv.notLost_iff.1 notLost) ev

/-- A worker takes up a task and crashes; another worker gets its message. -/
def strandedRun : List QueueEvent :=
  [.submitBackup healthy 0
      ⟨"prod", "default", "ConfigMap", "app", [], [], .single, "local", "dev", 7⟩,
    .advanceCall healthy 0, .readGroup 0, .advance 0 quiet, .advance 0 quiet, .crash 0,
    .autoClaim 1 [0], .advance 1 quiet, .ack 1 .done]

def strandedTask : BackupTask :=
  ⟨1, "prod", some "default", some "ConfigMap", some "app", "single", "", "local", "", .running,
    none, "dev", 7, none, 0⟩

/-- The message is acknowledged, all workers are idle, and the task is running. -/
theorem crash_strands_task :
    strandedTask ∈ (Transition.exec (Queue.next localOnly) .empty strandedRun).store.tasks ∧
      (Transition.exec (Queue.next localOnly) .empty strandedRun).unacked = [] ∧
      (∀ w, ((Transition.exec (Queue.next localOnly) .empty strandedRun).workers w).task = none) ∧
      ¬(Transition.exec (Queue.next localOnly) .empty strandedRun).NotLost localOnly := by
  have task : strandedTask ∈
      (Transition.exec (Queue.next localOnly) .empty strandedRun).store.tasks := by
    decide
  have acked : (Transition.exec (Queue.next localOnly) .empty strandedRun).unacked = [] := by
    decide
  have idle : ∀ w,
      ((Transition.exec (Queue.next localOnly) .empty strandedRun).workers w).task = none := by
    intro w
    rcases w with _ | _ | w <;> rfl
  refine ⟨task, acked, idle, fun notLost => ?_⟩
  obtain ⟨w, has⟩ | ⟨m, mem, -⟩ := notLost strandedTask task rfl
  · rw [idle w] at has
    cases has
  · rw [acked] at mem
    cases mem

end K8sPlatform.Backup
