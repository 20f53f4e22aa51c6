import K8sPlatform.Backup.Once

/-! # The order of a task's statuses -/

namespace K8sPlatform.Backup

variable (cfg : BackupConfig)

/-- The changes of a status that are in order; `mine` says that the step is one of the worker
that has claimed the task. -/
def BackupTaskStatus.Follows (mine : Prop) (old new : BackupTaskStatus) : Prop :=
  new = old ∨ (old = .pending ∧ (new = .running ∨ new = .failed)) ∨
    (old = .running ∧ mine ∧ (new = .success ∨ new = .failed))

/-- The step is one of the worker that has claimed the task. -/
def Delivery.ByHolder (q : Queue) (id : Nat) : Delivery → Prop
  | .step (.advance worker _) => (q.workers worker).task = some id
  | _ => False

/-- The step changes every status in order. -/
def Delivery.InOrder (q : Queue) (d : Delivery) : Prop :=
  ∀ t ∈ q.store.tasks, ∀ t' ∈ (d.apply cfg q).store.tasks, t'.id = t.id →
    t.status.Follows (d.ByHolder q t.id) t'.status

/-- The write that marks a task as failed takes effect. -/
def Marks (w : WriteResult) (err : String) : Prop :=
  w.applies = true ∧ (Text.truncateBytes 1024 err.toList).isSome = true

/-- The condition on a step: the failure of a submission reaches its row before any worker has
claimed it, and the failure of an execution finds a row that the execution has not ended. -/
def Delivery.InTime (q : Queue) : Delivery → Prop
  | .step (.advanceCall h call) =>
    match q.calls call with
    | some (.report id err) => Marks h.update err.text →
        ∀ t ∈ q.store.tasks, t.id = id → t.status = .pending ∨ t.status = .failed
    | _ => True
  | .step (.advance worker e) =>
    match (q.workers worker).phase with
    | .failing _ task err => Marks e.failure err →
        ∀ t ∈ q.store.tasks, t.id = task.id → t.status = .running ∨ t.status = .failed
    | _ => True
  | _ => True

variable {cfg}

theorem BackupTaskStatus.Follows.refl (mine : Prop) (status : BackupTaskStatus) :
    status.Follows mine status := .inl rfl

theorem RowsTo.at {R : BackupTask → BackupTask → Prop} {s s' : Store} (rows : RowsTo R s s')
    (ids : (s.tasks.map (·.id)).Nodup) (same : ∀ {t t'}, R t t' → t'.id = t.id) {t t' : BackupTask}
    (mem : t ∈ s.tasks) (mem' : t' ∈ s'.tasks) (isId : t'.id = t.id) : R t t' := by
  obtain ⟨old, memOld, changed⟩ := rows.rows t' mem'
  have eq : old = t := List.inj_on_of_nodup_map ids memOld mem ((same changed).symm.trans isId)
  exact eq ▸ changed

/-- The rows of a step that leaves the tables alone, or adds to them. -/
theorem Delivery.inOrder_of_old {q : Queue} {d : Delivery} (inv : q.Inv)
    (old : ∀ t' ∈ (d.apply cfg q).store.tasks, t'.id ≤ q.store.lastId → t' ∈ q.store.tasks) :
    d.InOrder cfg q := by
  intro t mem t' mem' isId
  have memOld : t' ∈ q.store.tasks := old t' mem' (isId ▸ inv.bound t mem)
  have eq : t' = t := List.inj_on_of_nodup_map inv.ids memOld mem isId
  exact eq ▸ .refl _ _

theorem insert_old {s : Store} {w : WriteResult} {row : BackupTask} :
    ∀ t ∈ (s.insert w row).tasks, t.id ≤ s.lastId → t ∈ s.tasks := by
  intro t mem le
  obtain old | new := s.mem_insert w mem
  · exact old
  · have isId : t.id = s.lastId + 1 := by rw [new]
    omega

/-- A row that is there after a step under an old id was there before it. -/
theorem Delivery.apply_row {q : Queue} {d : Delivery} {t' : BackupTask}
    (mem' : t' ∈ (d.apply cfg q).store.tasks) (le : t'.id ≤ q.store.lastId) :
    ∃ t ∈ q.store.tasks, t.id = t'.id := by
  cases d with
  | message msg =>
      refine ⟨t', ?_, rfl⟩
      rwa [Delivery.apply, Store.push_tasks] at mem'
  | step ev =>
      unfold Delivery.apply at mem'
      obtain rows | ⟨w, row, stored⟩ := q.next_rows cfg ev
      · obtain ⟨t, mem, same, -⟩ := rows.rows t' mem'
        exact ⟨t, mem, same.symm⟩
      · rw [stored] at mem'
        exact ⟨t', insert_old t' mem' le, rfl⟩

/-- The write that marks a task as failed is in order exactly when the change of its row is. -/
theorem failTask_follows {s : Store} (ids : (s.tasks.map (·.id)).Nodup) (mine : Nat → Prop)
    {w : WriteResult} {id : Nat} {err : String} :
    (∀ t ∈ s.tasks, ∀ t' ∈ (failTask s w id err).tasks, t'.id = t.id →
        t.status.Follows (mine t.id) t'.status) ↔
      (Marks w err → ∀ t ∈ s.tasks, t.id = id → t.status.Follows (mine id) .failed) := by
  by_cases marks : Marks w err
  · obtain ⟨msg, cut⟩ := Option.isSome_iff_exists.1 marks.2
    have tasks : (failTask s w id err).tasks = s.tasks.map fun t => if t.id = id then
        { t with status := .failed, errorMessage := some (String.ofList msg) } else t := by
      unfold failTask Store.update
      rw [cut]
      dsimp only
      rw [if_pos marks.1]
    have rows : RowsTo (fun old new => new.id = old.id ∧ new.status =
        if old.id = id then .failed else old.status) s (failTask s w id err) := by
      refine .map tasks ?_ (fun t => ?_) fun t _ => ?_
      · exact (failTask_ends s w id err).lastId
      · split <;> rfl
      · split <;> exact ⟨rfl, rfl⟩
    constructor
    · rintro inOrder - t mem rfl
      have changed := inOrder t mem _ (tasks ▸ List.mem_map_of_mem mem)
      rw [if_pos rfl] at changed
      exact changed rfl
    · intro fails t mem t' mem' isId
      obtain ⟨-, status⟩ := rows.at ids (fun changed => changed.1) mem mem' isId
      rw [status]
      split
      · rename_i own
        rw [own]
        exact fails marks t mem own
      · exact .refl _ _
  · have same : failTask s w id err = s := by
      unfold failTask
      cases cut : Text.truncateBytes 1024 err.toList with
      | none => rfl
      | some msg =>
          dsimp only
          unfold Store.update
          rw [if_neg fun applies => marks ⟨applies, by rw [cut]; rfl⟩]
    rw [same]
    refine iff_of_true (fun t mem t' mem' isId => ?_) fun marked => absurd marked marks
    have eq : t' = t := List.inj_on_of_nodup_map ids mem' mem isId
    exact eq ▸ .refl _ _

/-- The task of a worker that is about to enter its body is running. -/
structure Queue.Steady (q : Queue) : Prop where
  inv : q.Inv
  running : ∀ w msg task taskType, (q.workers w).phase = .executing msg task taskType →
    ∀ t ∈ q.store.tasks, t.id = task.id → t.status = .running

theorem Queue.steady_empty : Queue.empty.Steady where
  inv := Queue.inv_empty
  running := by simp [Queue.empty, Worker.fresh]

/-- Steps that are in order keep it. -/
theorem Queue.Steady.apply {q : Queue} {d : Delivery} (steady : q.Steady)
    (inOrder : d.InOrder cfg q) : (d.apply cfg q).Steady := by
  obtain ⟨inv, running⟩ := steady
  refine ⟨Delivery.apply_inv inv d, fun w msg task taskType executing t' mem' isId => ?_⟩
  obtain ⟨before, other⟩ | ⟨claim, store, won⟩ := Delivery.apply_executing executing
  · have hands : (q.workers w).task = some task.id := by
      simp only [Worker.task, before]
    obtain ⟨t, mem, same⟩ := Delivery.apply_row mem' (isId ▸ (inv.taken w task.id hands).1)
    have runs : t.status = .running := running w msg task taskType before t mem (same.trans isId)
    obtain kept | ⟨waits, -⟩ | ⟨-, mine, -⟩ := inOrder t mem t' mem' same.symm
    · exact kept.trans runs
    · rw [runs] at waits
      cases waits
    · -- the only worker with this task takes no step here
      rw [same, isId] at mine
      unfold Delivery.ByHolder at mine
      split at mine
      · rename_i worker e
        obtain rfl := inv.apart w worker task.id hands mine
        exact absurd rfl (other e)
      · exact mine.elim
  · obtain ⟨applies, t, mem, same, pending⟩ := (claimTask_won _ claim task.id).1 won
    rw [store, claimTask_store] at mem'
    obtain ⟨old, memOld, rfl⟩ := List.mem_map.1 mem'
    rw [BackupTask.claimed_id] at isId
    have eq : old = t := List.inj_on_of_nodup_map inv.ids memOld mem (isId.trans same.symm)
    rw [BackupTask.claimed, eq, if_pos ⟨applies, same, pending⟩]

/-! ## The steps, one by one -/

theorem Queue.Inv.inOrder_claim {q : Queue} (inv : q.Inv) {worker msg : Nat} {task : BackupTask}
    {taskType : TaskType} {e : Environment}
    (phase : (q.workers worker).phase = .loaded msg task taskType) :
    (Delivery.step (.advance worker e)).InOrder cfg q := by
  intro t mem t' mem' isId
  have store : ((Delivery.step (.advance worker e)).apply cfg q).store =
      (claimTask q.store e.claim task.id).1 := (Worker.advance_loaded cfg e q.store phase).1
  rw [store, claimTask_store] at mem'
  obtain ⟨old, memOld, rfl⟩ := List.mem_map.1 mem'
  rw [BackupTask.claimed_id] at isId
  obtain rfl : old = t := List.inj_on_of_nodup_map inv.ids memOld mem isId
  unfold BackupTask.claimed
  split
  · rename_i claimed
    exact .inr (.inl ⟨claimed.2.2, .inl rfl⟩)
  · exact .refl _ _

theorem Queue.Steady.inOrder_execute {q : Queue} (steady : q.Steady) {worker msg : Nat}
    {task : BackupTask} {taskType : TaskType} {e : Environment}
    (phase : (q.workers worker).phase = .executing msg task taskType) :
    (Delivery.step (.advance worker e)).InOrder cfg q := by
  intro t mem t' mem' isId
  obtain ⟨files, w, change, run, ends, -⟩ := executeTask_writes cfg e q.store task taskType
  have store : ((Delivery.step (.advance worker e)).apply cfg q).store =
      (executeTask cfg e q.store task taskType).1 := by
    have advanced : ((q.workers worker).advance cfg e q.store).1 =
        (executeTask cfg e q.store task taskType).1 := by
      unfold Worker.advance
      rw [phase]
      dsimp only
      split <;> rfl
    exact advanced
  have rows : RowsTo (fun old new => new.id = old.id ∧ (new.status = old.status ∨
      old.id = task.id ∧ (new.status = .success ∨ new.status = .failed)))
      { q.store with files := files }
      (({ q.store with files := files } : Store).update w task.id change) := by
    refine .update (fun t => ⟨rfl, .inl rfl⟩) (fun t own => ?_) fun t => (ends t).1
    exact ⟨(ends t).1, (ends t).2.imp_right fun ended => ⟨own, ended⟩⟩
  rw [store, run] at mem'
  obtain ⟨-, kept | ⟨own, ended⟩⟩ := rows.at steady.inv.ids (fun changed => changed.1) mem mem' isId
  · exact .inl kept
  · right
    right
    refine ⟨steady.running worker msg task taskType phase t mem own, ?_, ended⟩
    unfold Delivery.ByHolder
    simp only [Worker.task, phase, own]

theorem Queue.Inv.inOrder_failing {q : Queue} (inv : q.Inv) {worker msg : Nat} {task : BackupTask}
    {err : String} {e : Environment} (phase : (q.workers worker).phase = .failing msg task err) :
    (Delivery.step (.advance worker e)).InOrder cfg q ↔
      (Delivery.step (.advance worker e)).InTime q := by
  have store : ((Delivery.step (.advance worker e)).apply cfg q).store =
      failTask q.store e.failure task.id err := (Worker.advance_failing cfg e q.store phase).1
  have hands : (q.workers worker).task = some task.id := by
    simp only [Worker.task, phase]
  unfold Delivery.InOrder
  rw [store]
  apply (failTask_follows inv.ids fun id => (q.workers worker).task = some id).trans
  unfold Delivery.InTime
  simp only [phase]
  refine forall_congr' fun _ => forall_congr' fun t => forall_congr' fun mem =>
    forall_congr' fun isId => ?_
  have waits : t.status ≠ .pending := (inv.taken worker task.id hands).2 t mem isId
  constructor
  · rintro (kept | ⟨pending, -⟩ | ⟨running, -⟩)
    · exact .inr kept.symm
    · exact absurd pending waits
    · exact .inl running
  · rintro (running | failed)
    · exact .inr (.inr ⟨running, hands, .inr rfl⟩)
    · exact .inl failed.symm

theorem Queue.Inv.inOrder_report {q : Queue} (inv : q.Inv) {h : Health} {call id : Nat}
    {err : Errcode.Error} (reports : q.calls call = some (.report id err)) :
    (Delivery.step (.advanceCall h call)).InOrder cfg q ↔
      (Delivery.step (.advanceCall h call)).InTime q := by
  have store : ((Delivery.step (.advanceCall h call)).apply cfg q).store =
      failTask q.store h.update id err.text := by
    unfold Delivery.apply Queue.next
    simp only [reports]
    rfl
  unfold Delivery.InOrder
  rw [store]
  apply (failTask_follows inv.ids fun _ => False).trans
  unfold Delivery.InTime
  simp only [reports]
  refine forall_congr' fun _ => forall_congr' fun t => forall_congr' fun mem =>
    forall_congr' fun isId => ?_
  constructor
  · rintro (kept | ⟨pending, -⟩ | ⟨-, none_, -⟩)
    · exact .inr kept.symm
    · exact .inl pending
    · exact none_.elim
  · rintro (pending | failed)
    · exact .inr (.inl ⟨pending, .inr rfl⟩)
    · exact .inl failed.symm

/-- Each step is in order exactly when it meets the condition. -/
theorem Queue.Steady.inOrder_iff {q : Queue} (steady : q.Steady) (d : Delivery) :
    d.InOrder cfg q ↔ d.InTime q := by
  have inv := steady.inv
  have same (tasks : (d.apply cfg q).store.tasks = q.store.tasks) : d.InOrder cfg q :=
    Delivery.inOrder_of_old inv fun t' mem' _ => tasks ▸ mem'
  have inserted {w : WriteResult} {row : BackupTask}
      (stored : (d.apply cfg q).store = q.store.insert w row) : d.InOrder cfg q :=
    Delivery.inOrder_of_old inv fun t' mem' le => insert_old t' (stored ▸ mem') le
  cases d with
  | message msg => exact iff_of_true (same (Store.push_tasks q.store .done msg)) trivial
  | step ev =>
  cases ev with
  | submitBackup h call inp =>
      refine iff_of_true ?_ trivial
      obtain kept | ⟨row, -, stored⟩ := beginBackup_cases cfg h q.store inp
      · exact same (congrArg Store.tasks kept)
      · exact inserted stored
  | submitRestore h call inp uuid =>
      refine iff_of_true ?_ trivial
      obtain kept | ⟨row, -, stored⟩ := beginRestore_cases cfg h q.store inp uuid
      · exact same (congrArg Store.tasks kept)
      · exact inserted stored
  | advanceCall h call =>
      cases calls : q.calls call with
      | none =>
          refine iff_of_true (same ?_) ?_
          · simp only [Delivery.apply, Queue.next, calls]
          · simp only [Delivery.InTime, calls]
      | some c =>
          cases c with
          | report id err => exact inv.inOrder_report calls
          | enqueue task payload taskType =>
              refine iff_of_true (same ?_) ?_
              · cases payload with
                | none =>
                    simp only [Delivery.apply, Queue.next, calls, Call.advance, Store.push_tasks]
                | some p =>
                    simp only [Delivery.apply, Queue.next, calls, Call.advance,
                      Store.setPayload_tasks]
              · simp only [Delivery.InTime, calls]
  | delete h listed id =>
      refine iff_of_true (Delivery.inOrder_of_old inv fun t' mem' _ => ?_) trivial
      unfold Delivery.apply Queue.next at mem'
      dsimp only at mem'
      obtain kept | ⟨t, -, -, -, tasks⟩ := delete_cases cfg h listed q.store id
      · rw [kept] at mem'
        exact mem'
      · rw [tasks] at mem'
        split at mem'
        · exact (List.mem_filter.1 mem').1
        · exact mem'
  | readGroup worker =>
      exact iff_of_true (same (congrArg Store.tasks (q.next_readGroup cfg worker))) trivial
  | autoClaim worker chosen =>
      exact iff_of_true (same (congrArg Store.tasks (q.next_autoClaim cfg worker chosen))) trivial
  | ack worker w =>
      exact iff_of_true (same (congrArg Store.tasks (q.next_ack cfg worker w))) trivial
  | crash worker => exact iff_of_true (same rfl) trivial
  | advance worker e =>
      have free (notLoaded : ∀ msg task taskType,
          (q.workers worker).phase ≠ .loaded msg task taskType)
          (none_ : (q.workers worker).task = none) :
          (Delivery.step (.advance worker e)).InOrder cfg q :=
        same (congrArg Store.tasks (Worker.advance_free cfg e q.store none_ notLoaded).1)
      cases phase : (q.workers worker).phase with
      | idle =>
          apply iff_of_true (free (by simp [phase]) (by simp [Worker.task, phase]))
          simp only [Delivery.InTime, phase]
      | returned msg res =>
          apply iff_of_true (free (by simp [phase]) (by simp [Worker.task, phase]))
          simp only [Delivery.InTime, phase]
      | loaded msg task taskType =>
          apply iff_of_true (inv.inOrder_claim phase)
          simp only [Delivery.InTime, phase]
      | executing msg task taskType =>
          apply iff_of_true (steady.inOrder_execute phase)
          simp only [Delivery.InTime, phase]
      | failing msg task err => exact inv.inOrder_failing phase

/-- In every run, all statuses change in order exactly when all steps meet the condition. -/
theorem statuses_in_order_iff (cfg : BackupConfig) (run : List Delivery) :
    Transition.Along (Delivery.InOrder cfg) (Delivery.apply cfg) .empty run ↔
      Transition.Along Delivery.InTime (Delivery.apply cfg) .empty run :=
  Transition.along_congr_of (fun steady inOrder => steady.apply inOrder)
    (fun steady => steady.inOrder_iff _) Queue.steady_empty run

/-- Redis takes the message and its answer is lost; a worker backs the object up before the
submission marks its task as failed. -/
def lateReport : List Delivery :=
  [.step (.submitBackup healthy 0
      ⟨"prod", "default", "ConfigMap", "app", [], [], .single, "local", "dev", 7⟩),
    .step (.advanceCall { healthy with push := .unreported "i/o timeout" } 0),
    .step (.readGroup 0), .step (.advance 0 quiet), .step (.advance 0 quiet),
    .step (.advance 0 answering), .step (.advanceCall healthy 0)]

def statusesAfter (run : List Delivery) : List (Nat × BackupTaskStatus) :=
  (Transition.exec (Delivery.apply localOnly) .empty run).store.tasks.map fun t => (t.id, t.status)

/-- The task has succeeded, and then it has failed. -/
theorem report_overwrites_success :
    statusesAfter (lateReport.take 6) = [(1, .success)] ∧
      statusesAfter lateReport = [(1, .failed)] ∧
      ¬Transition.Along (Delivery.InOrder localOnly) (Delivery.apply localOnly) .empty
        lateReport := by
  have before : statusesAfter (lateReport.take 6) = [(1, .success)] := by decide
  have after : statusesAfter lateReport = [(1, .failed)] := by decide
  refine ⟨before, after, ?_⟩
  rintro ⟨-, -, -, -, -, -, last, -⟩
  have succeeded : (1, .success) ∈ statusesAfter (lateReport.take 6) := by
    rw [before]
    exact List.mem_singleton.2 rfl
  have failed : (1, .failed) ∈ statusesAfter lateReport := by
    rw [after]
    exact List.mem_singleton.2 rfl
  obtain ⟨t, mem, status⟩ := List.mem_map.1 succeeded
  obtain ⟨t', mem', status'⟩ := List.mem_map.1 failed
  obtain ⟨isId, success⟩ := Prod.mk.inj status
  obtain ⟨isId', failure⟩ := Prod.mk.inj status'
  have follows := last t mem t' mem' (isId'.trans isId.symm)
  rw [success, failure] at follows
  obtain kept | ⟨pending, -⟩ | ⟨running, -⟩ := follows
  · cases kept
  · cases pending
  · cases running

end K8sPlatform.Backup
