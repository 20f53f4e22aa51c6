import K8sPlatform.Lib.Rounding
import K8sPlatform.Lib.Transition
import K8sPlatform.Backup.Worker

/-! # The progress of a task -/

namespace K8sPlatform.Backup

inductive ProgressStage
  | pending | exporting | uploading | completed | failed | restoring | other (status : String)
  deriving DecidableEq, Repr

def resolveStage (status : BackupTaskStatus) (percent : Nat) (taskType : TaskType) :
    ProgressStage :=
  match status with
  | .pending => .pending
  | .success => .completed
  | .failed => .failed
  | .cancelled => .other BackupTaskStatus.cancelled.text
  | .running =>
      if taskType = .restore then .restoring
      else if percent < 50 then .exporting
      else .uploading

/-- `backup_id` is the id of the task, too. -/
structure TaskProgress where
  taskId : Nat
  clusterCode : String
  ns : String
  kind : String
  name : String
  stage : ProgressStage
  progress : Nat
  message : String
  error : String
  deriving DecidableEq, Repr

def TaskProgress.terminal (p : TaskProgress) : Bool := p.stage = .completed || p.stage = .failed

/-- The arguments of a call of `publishProgress`, or of `publishProgressWithError`. -/
structure Report where
  percent : Nat
  status : BackupTaskStatus
  msg : String
  errMsg : String
  deriving DecidableEq, Repr

/-- `active` is the record of `activeTasks`. -/
def buildProgressPayload (taskId : Nat) (active : Option (BackupTask × TaskType)) (r : Report) :
    TaskProgress :=
  let payload (taskType : TaskType) : TaskProgress :=
    ⟨taskId, "", "", "", "", resolveStage r.status r.percent taskType, r.percent, r.msg, r.errMsg⟩
  match active with
  | none => payload .backup
  | some (t, taskType) =>
      { payload taskType with
        clusterCode := t.clusterCode
        ns := t.ns.getD ""
        kind := t.targetKind.getD ""
        name := t.targetName.getD "" }

@[simp] theorem buildProgressPayload_progress (taskId : Nat)
    (active : Option (BackupTask × TaskType)) (r : Report) :
    (buildProgressPayload taskId active r).progress = r.percent := by
  cases active <;> rfl

@[simp] theorem buildProgressPayload_terminal (taskId : Nat)
    (active : Option (BackupTask × TaskType)) (r : Report) :
    (buildProgressPayload taskId active r).terminal =
      (r.status == .success || r.status == .failed) := by
  have stage (taskType : TaskType) :
      (resolveStage r.status r.percent taskType = .completed ||
        resolveStage r.status r.percent taskType = .failed) =
      (r.status == .success || r.status == .failed) := by
    cases r.status with
    | running =>
        unfold resolveStage
        dsimp only
        split_ifs <;> rfl
    | pending => rfl
    | success => rfl
    | failed => rfl
    | cancelled => rfl
  cases active <;> exact stage _

/-! ## The reports of an execution -/

def running (percent : Nat) (msg : String) : Report := ⟨percent, .running, msg, ""⟩

/-- `float64`, of a number in its normal range. -/
def float64 (x : ℚ) : ℚ := Rounding.significant 52 x

/-- `15 + int(float64(done)/float64(total)*80)`. -/
def itemPercent (done total : Nat) : Nat :=
  15 + ⌊float64 (float64 (float64 done / float64 total) * 80)⌋.toNat

variable (cfg : BackupConfig) (e : Environment)

def singleReports (s : Store) (task : BackupTask) : List Report :=
  running 10 "连接集群并读取资源..." ::
    match readSingle e task with
    | .error _ => []
    | .ok _ =>
        running 40 "读取 1 个对象，上传存储..." ::
          match (doBackupSingle cfg e s task).2 with
          | .error _ => []
          | .ok () => [running 95 "备份已写入存储，更新记录完成"]

/-- The reports of the second phase of a batch, one for each object that is stored. -/
def itemReports (task : BackupTask) (st : Storage) (total : Nat) :
    BatchProgress → List (PlanItem × Nat) → List Report
  | _, [] => []
  | p, item :: items =>
      let p' := backupItem cfg e task st p item
      let rest := itemReports task st total p' items
      if p'.done = p.done then rest
      else
        running (itemPercent p'.done total)
          ("进度 " ++ toString p'.done ++ "/" ++ toString total ++ "（失败 " ++ toString p'.failed ++
            "）: " ++ item.1.ns ++ "/" ++ item.1.kind.1 ++ "/" ++ item.1.name) :: rest

def runReports (s : Store) (task : BackupTask) (st : Storage) (namespaces : List String)
    (kinds : List (String × GVR)) : List Report :=
  let pairs := batchPairs e namespaces kinds
  let items := batchItems e task.clusterCode pairs
  let unlisted := pairs.countP fun pair => (listPair e task.clusterCode pair).isNone
  let listed := pairs.map fun pair => batchCall .list pair.1 pair.2 ""
  let begun : BatchProgress := ⟨listed, s.files, 0, unlisted, 0, ""⟩
  running 15 ("发现 " ++ toString namespaces.length ++ " 命名空间 × " ++ toString kinds.length ++
      " 资源类型，开始枚举对象...") ::
    if items = [] then
      [⟨100, .failed, "任务失败", "枚举结果为 0：可能所有命名空间都没有对应类型的对象"⟩]
    else
      let p := items.zipIdx.foldl (backupItem cfg e task st) begun
      itemReports cfg e task st items.length begun items.zipIdx ++
        match (runBatch cfg e s task st namespaces kinds).result with
        | .error _ => []
        | .ok () =>
            [running 95 ("批量备份写入完成，共成功 " ++ toString p.done ++ " / 失败 " ++
              toString p.failed)]

def batchReports (s : Store) (task : BackupTask) : List Report :=
  running 5 "读取批量配置..." ::
    match e.payload with
    | some _ => []
    | none =>
      let (namespaces, kindFilter) := ((s.payloads task.id).map BatchPayload.decode).getD ([], [])
      if namespaces = [] ∨ kindFilter = [] then []
      else
        running 10 "连接集群并准备遍历..." ::
          match e.client task.clusterCode with
          | some _ => []
          | none =>
            match cfg.getStorage task.storageType with
            | .error _ => []
            | .ok st =>
              if batchKinds kindFilter = [] then []
              else runReports cfg e s task st namespaces (batchKinds kindFilter)

def restoreReports (s : Store) (task : BackupTask) : List Report :=
  running 10 "下载备份文件..." ::
    if task.storagePath = "" then []
    else if task.storagePath.toList.getLast? = some '-' then []
    else
      match cfg.getStorage task.storageType with
      | .error _ => []
      | .ok st =>
        match st.download cfg s.files task.storagePath with
        | .error _ => []
        | .ok _ =>
          running 40 "解析 YAML 并应用到集群..." ::
            match (doRestore cfg e s task).2 with
            | .error _ => []
            | .ok () => [running 95 "恢复完成"]

def executeReports (s : Store) (task : BackupTask) (taskType : TaskType) : List Report :=
  match taskType with
  | .backup =>
      if task.backupType = BackupMode.namespaceBatch.text then batchReports cfg e s task
      else singleReports cfg e s task
  | .restore => restoreReports cfg e s task
  | .unknown _ => []

/-- The report of `HandleTask` after the execution. -/
def outcomeReport (result : Except String Unit) : Report :=
  match result with
  | .ok () => ⟨100, .success, "任务完成", ""⟩
  | .error err => ⟨100, .failed, "任务失败", err⟩

/-- The one report may be followed by the other. -/
def Report.Before (a b : Report) : Prop := a.status = .running ∧ a.percent ≤ b.percent

/-- Reports that come one after the other, with percentages from `low` to 95, except for that of
a failure, which comes last. -/
structure Ascends (low : Nat) (rs : List Report) : Prop where
  ordered : rs.Pairwise Report.Before
  low : ∀ r ∈ rs, low ≤ r.percent
  high : ∀ r ∈ rs, r.status = .running ∧ r.percent ≤ 95 ∨ r.status = .failed ∧ r.percent = 100

namespace Ascends

variable {low low' : Nat} {rs : List Report}

theorem nil (low : Nat) : Ascends low [] := ⟨.nil, nofun, nofun⟩

theorem lower (le : low' ≤ low) (h : Ascends low rs) : Ascends low' rs :=
  ⟨h.ordered, fun r mem => le.trans (h.low r mem), h.high⟩

theorem cons {percent : Nat} {msg : String} (h : Ascends percent rs) (le : low ≤ percent)
    (high : percent ≤ 95) : Ascends low (running percent msg :: rs) := by
  refine ⟨List.pairwise_cons.2 ⟨fun r mem => ⟨rfl, h.low r mem⟩, h.ordered⟩, ?_, ?_⟩
  · rintro r (_ | ⟨_, mem⟩)
    · exact le
    · exact le.trans (h.low r mem)
  · rintro r (_ | ⟨_, mem⟩)
    · exact .inl ⟨rfl, high⟩
    · exact h.high r mem

theorem tail {r : Report} (h : Ascends low (r :: rs)) : Ascends r.percent rs :=
  ⟨(List.pairwise_cons.1 h.ordered).2, fun r' mem => ((List.pairwise_cons.1 h.ordered).1 r' mem).2,
    fun r' mem => h.high r' (List.mem_cons_of_mem _ mem)⟩

theorem head_le {r : Report} (h : Ascends low (r :: rs)) : low ≤ r.percent :=
  h.low r List.mem_cons_self

theorem failed (msg errMsg : String) (le : low ≤ 100) :
    Ascends low [⟨100, .failed, msg, errMsg⟩] :=
  ⟨List.pairwise_singleton .., by simpa using le, by simp⟩

end Ascends

theorem float64_natCast_pos {n : Nat} (pos : 0 < n) : 0 < float64 n :=
  Rounding.significant_pos (by exact_mod_cast pos)

theorem float64_mono {x y : ℚ} (nonneg : 0 ≤ x) (le : x ≤ y) : float64 x ≤ float64 y :=
  Rounding.significant_mono nonneg le

theorem float64_nonneg {x : ℚ} (nonneg : 0 ≤ x) : 0 ≤ float64 x :=
  Rounding.significant_nonneg nonneg

theorem itemPercent_mono {done done' total : Nat} (le : done ≤ done') :
    itemPercent done total ≤ itemPercent done' total := by
  have cast : float64 done ≤ float64 done' :=
    float64_mono (by positivity) (by exact_mod_cast le)
  have zero : 0 ≤ float64 done := float64_nonneg (by positivity)
  have whole : 0 ≤ float64 total := float64_nonneg (by positivity)
  have share : float64 (float64 done / float64 total) ≤ float64 (float64 done' / float64 total) :=
    float64_mono (div_nonneg zero whole) (div_le_div_of_nonneg_right cast whole)
  have scaled := float64_mono
    (mul_nonneg (float64_nonneg (div_nonneg zero whole)) (by norm_num : (0 : ℚ) ≤ 80))
    (mul_le_mul_of_nonneg_right share (by norm_num))
  unfold itemPercent
  have floors := Int.toNat_le_toNat (Int.floor_le_floor scaled)
  omega

theorem itemPercent_le {done total : Nat} (le : done ≤ total) (pos : 0 < total) :
    itemPercent done total ≤ 95 := by
  have top : float64 (float64 (float64 total / float64 total) * 80) = 80 := by
    rw [div_self (float64_natCast_pos pos).ne']
    have one : float64 1 = 1 := by exact_mod_cast Rounding.significant_natCast (K := ℚ) (by decide)
    have eighty : float64 80 = 80 := by
      exact_mod_cast Rounding.significant_natCast (K := ℚ) (by decide)
    rw [one, one_mul, eighty]
  calc itemPercent done total ≤ itemPercent total total := itemPercent_mono le
    _ = 95 := by
      rw [itemPercent, top]
      rfl

theorem le_itemPercent (done total : Nat) : 15 ≤ itemPercent done total := Nat.le_add_right ..

section Ascends

variable {cfg : BackupConfig} {e : Environment}

theorem ascends_last (msg : String) : Ascends 95 [running 95 msg] :=
  (Ascends.nil 95).cons le_rfl le_rfl

theorem backupItem_done {task : BackupTask} {st : Storage} (p : BatchProgress)
    (item : PlanItem × Nat) : (backupItem cfg e task st p item).done = p.done ∨
      (backupItem cfg e task st p item).done = p.done + 1 := by
  unfold backupItem
  dsimp only
  split
  · exact .inl rfl
  split
  · exact .inl rfl
  · exact .inr rfl

theorem itemReports_ascends {task : BackupTask} {st : Storage} {total : Nat} (pos : 0 < total)
    {rest : List Report} (last : Ascends 95 rest) (items : List (PlanItem × Nat))
    (p : BatchProgress) (room : p.done + items.length ≤ total) :
    Ascends (itemPercent p.done total) (itemReports cfg e task st total p items ++ rest) := by
  induction items generalizing p with
  | nil => exact last.lower (itemPercent_le (by simpa using room) pos)
  | cons item items ih =>
      have length : p.done + 1 + items.length ≤ total := by
        rw [List.length_cons] at room
        omega
      unfold itemReports
      dsimp only
      have done : (backupItem cfg e task st p item).done = p.done ∨
          (backupItem cfg e task st p item).done = p.done + 1 := backupItem_done p item
      rcases done with same | more
      · rw [if_pos same, ← same]
        exact ih _ (by omega)
      · rw [if_neg (by omega), List.cons_append]
        apply (ih _ (by omega)).cons (itemPercent_mono (by omega))
        exact itemPercent_le (by omega) pos

theorem singleReports_ascends (s : Store) (task : BackupTask) :
    Ascends 5 (singleReports cfg e s task) := by
  unfold singleReports
  split
  · exact (Ascends.nil 10).cons (by decide) (by decide)
  · refine Ascends.cons (Ascends.cons ?_ (by decide) (by decide)) (by decide) (by decide)
    split
    · exact .nil 40
    · exact (ascends_last _).lower (by decide)

theorem restoreReports_ascends (s : Store) (task : BackupTask) :
    Ascends 5 (restoreReports cfg e s task) := by
  unfold restoreReports
  refine Ascends.cons ?_ (by decide) (by decide)
  split
  · exact .nil 10
  split
  · exact .nil 10
  split
  · exact .nil 10
  split
  · exact .nil 10
  · refine Ascends.cons ?_ (by decide) (by decide)
    split
    · exact .nil 40
    · exact (ascends_last _).lower (by decide)

theorem runReports_ascends (s : Store) (task : BackupTask) (st : Storage)
    (namespaces : List String) (kinds : List (String × GVR)) :
    Ascends 10 (runReports cfg e s task st namespaces kinds) := by
  unfold runReports
  dsimp only
  split
  · exact (Ascends.failed _ _ (by decide)).cons (by decide) (by decide)
  · rename_i some_
    have pos := List.length_pos_iff.2 some_
    refine Ascends.cons (.lower (le_itemPercent _ _) (itemReports_ascends pos ?_ _ _ ?_))
      (by decide) (by decide)
    · split
      · exact .nil 95
      · exact ascends_last _
    · simp

theorem batchReports_ascends (s : Store) (task : BackupTask) :
    Ascends 5 (batchReports cfg e s task) := by
  unfold batchReports
  refine Ascends.cons ?_ le_rfl (by decide)
  split
  · exact .nil 5
  dsimp only
  split
  · exact .nil 5
  refine Ascends.cons ?_ (by decide) (by decide)
  split
  · exact .nil 10
  split
  · exact .nil 10
  split
  · exact .nil 10
  · exact runReports_ascends s task _ _ _

theorem executeReports_ascends (cfg : BackupConfig) (e : Environment) (s : Store)
    (task : BackupTask) (taskType : TaskType) :
    Ascends 5 (executeReports cfg e s task taskType) := by
  cases taskType with
  | backup =>
      unfold executeReports
      dsimp only
      split
      · exact batchReports_ascends s task
      · exact singleReports_ascends s task
  | restore => exact restoreReports_ascends s task
  | unknown text => exact .nil 5

end Ascends

/-! ## The two goroutines of a task -/

/-- Where `publishProgressLoop` is: not started, at its `select`, before its `Publish`, or at its
end. -/
inductive LoopState
  | unstarted
  | waiting
  | sending (payload : TaskProgress)
  | returned

/-- A task in execution: the reports to come, that of the outcome, the record of `activeTasks`,
whether `progressDone` is closed and the context of the worker done, the loop with its `percent`,
and what has been published. No code reads the last two: the last percentages of `HandleTask` and
of the loop that have gone out. -/
structure TaskRun where
  task : BackupTask
  taskType : TaskType
  todo : List Report
  outcome : Option Report
  active : Bool
  done : Bool
  cancelled : Bool
  loop : LoopState
  percent : Nat
  published : List TaskProgress
  reported : Nat
  ticked : Nat

/-- `report` is a call of `publishProgress` during the execution, `finish` the one after it, and
`release` the deferred `Delete`. A publication that is not `sent` fails in Redis. -/
inductive ProgressStep
  | report (sent : Bool)
  | close
  | finish (sent : Bool)
  | release
  | cancel
  | tick
  | send (sent : Bool)
  | quit

/-- `go w.publishProgressLoop(…)` stands behind the first report. -/
def LoopState.started : LoopState → LoopState
  | .unstarted => .waiting
  | l => l

theorem LoopState.started_sending {l : LoopState} {p : TaskProgress}
    (sending : l.started = .sending p) : l = .sending p := by
  cases l with
  | unstarted => cases sending
  | waiting => exact sending
  | sending => exact sending
  | returned => exact sending

namespace TaskRun

variable (s : TaskRun)

def payload (r : Report) : TaskProgress :=
  buildProgressPayload s.task.id (if s.active then some (s.task, s.taskType) else none) r

def publish (r : Report) : Bool → TaskRun
  | true => { s with published := s.published ++ [s.payload r], reported := r.percent }
  | false => s

def next : ProgressStep → TaskRun
  | .report sent =>
      match s.todo with
      | r :: todo => { s.publish r sent with todo, loop := s.loop.started }
      | [] => s
  | .close => if s.todo = [] then { s with done := true } else s
  | .finish sent =>
      match s.done, s.outcome with
      | true, some r => { s.publish r sent with outcome := none }
      | _, _ => s
  | .release => if s.outcome = none then { s with active := false } else s
  | .cancel => { s with cancelled := true }
  | .tick =>
      match s.loop with
      | .waiting =>
          let percent := if s.percent < 90 then s.percent + 2 else s.percent
          { s with
            percent
            loop := .sending (s.payload (running percent ("处理中 " ++ toString percent ++ "%"))) }
      | _ => s
  | .send sent =>
      match s.loop with
      | .sending p =>
          if sent then
            { s with loop := .waiting, published := s.published ++ [p], ticked := p.progress }
          else { s with loop := .waiting }
      | _ => s
  | .quit =>
      match s.loop with
      | .waiting => if s.done || s.cancelled then { s with loop := .returned } else s
      | _ => s

/-- The percentages do not fall, and a completed or failed event is the last one. -/
structure Orderly : Prop where
  rises : s.published.Pairwise fun p q => p.progress ≤ q.progress
  last : s.published.Pairwise fun p _ => p.terminal = false

/-- `HandleTask` reports no percentage that the loop is already above, and no outcome behind the
failed event of an empty batch; the loop sends none that `HandleTask` is already above. -/
def InTurn : ProgressStep → Prop
  | .report true => ∀ r ∈ s.todo.head?, s.ticked ≤ r.percent
  | .finish true => s.done = true → s.outcome ≠ none → ∀ p ∈ s.published, p.terminal = false
  | .send true => ∀ p, s.loop = .sending p → s.reported ≤ p.progress
  | _ => True

/-- Where the two goroutines are in their percentages. -/
structure Sound : Prop where
  todo : Ascends s.reported s.todo
  reported : s.reported ≤ 100
  outcome : ∀ r ∈ s.outcome, r.percent = 100
  closed : s.done = true → s.todo = []
  percent : s.ticked ≤ s.percent ∧ s.percent ≤ 90 ∧ s.percent % 2 = 0
  sending : ∀ p, s.loop = .sending p → p.progress = s.percent ∧ p.terminal = false
  below : ∀ p ∈ s.published, p.progress ≤ s.reported ∨ p.progress ≤ s.ticked
  terminal : ∀ p ∈ s.published, p.terminal = true → s.todo = [] ∧ s.reported = 100
  shownReported : s.reported = 0 ∨ ∃ p ∈ s.published, p.progress = s.reported
  shownTicked : s.ticked = 0 ∨ ∃ p ∈ s.published, p.progress = s.ticked

variable {s}

/-- A step: one that publishes nothing, a report, the outcome, or an event of the loop. -/
inductive Steps (s : TaskRun) (e : ProgressStep) : TaskRun → Prop
  | silent (t : TaskRun) (turn : s.InTurn e) (sound : s.Sound → t.Sound)
      (published : t.published = s.published) : Steps s e t
  | reports (r : Report) (todo : List Report) (turn : s.InTurn e ↔ s.ticked ≤ r.percent)
      (found : s.todo = r :: todo) :
      Steps s e { s.publish r true with todo, loop := s.loop.started }
  | finishes (r : Report)
      (turn : s.InTurn e ↔ ∀ p ∈ s.published, p.terminal = false) (done : s.done = true)
      (found : s.outcome = some r) : Steps s e { s.publish r true with outcome := none }
  | sends (p : TaskProgress) (turn : s.InTurn e ↔ s.reported ≤ p.progress)
      (found : s.loop = .sending p) :
      Steps s e { s with
        loop := .waiting, published := s.published ++ [p], ticked := p.progress }

theorem next_steps (s : TaskRun) (e : ProgressStep) : s.Steps e (s.next e) := by
  unfold next
  cases e with
  | report sent =>
      dsimp only
      cases found : s.todo with
      | nil =>
          refine .silent s ?_ id rfl
          cases sent with
          | true => simp [InTurn, found]
          | false => trivial
      | cons r todo =>
          cases sent with
          | true => exact .reports r todo (by simp [InTurn, found]) found
          | false =>
              refine .silent _ trivial (fun sound => ?_) rfl
              have ascends := sound.todo
              rw [found] at ascends
              exact { sound with
                todo := ascends.tail.lower ascends.head_le
                closed := fun done => by cases found.symm.trans (sound.closed done)
                sending := fun p sending => sound.sending p (LoopState.started_sending sending)
                terminal := fun p mem last => by
                  cases found.symm.trans (sound.terminal p mem last).1 }
  | close =>
      dsimp only
      split_ifs with empty
      · exact .silent _ trivial (fun sound => { sound with closed := fun _ => empty }) rfl
      · exact .silent s trivial id rfl
  | finish sent =>
      dsimp only
      split
      case h_1 r done found =>
        cases sent with
        | true => exact .finishes r (by simp [InTurn, done, found]) done found
        | false =>
            refine .silent _ trivial (fun sound => { sound with outcome := nofun }) rfl
      case h_2 other =>
        refine .silent s ?_ id rfl
        cases sent with
        | true =>
            intro done some_
            obtain ⟨r, found⟩ := Option.ne_none_iff_exists'.1 some_
            exact absurd found (other r done)
        | false => trivial
  | release =>
      dsimp only
      split_ifs
      · exact .silent _ trivial (fun sound => { sound with }) rfl
      · exact .silent s trivial id rfl
  | cancel => exact .silent _ trivial (fun sound => { sound with }) rfl
  | tick =>
      dsimp only
      split
      · refine .silent _ trivial (fun sound => ?_) rfl
        obtain ⟨ticked, limit, even⟩ := sound.percent
        refine { sound with percent := ?_, sending := ?_ }
        · dsimp only
          split_ifs <;> omega
        · rintro p ⟨⟩
          exact ⟨buildProgressPayload_progress .., buildProgressPayload_terminal ..⟩
      · exact .silent s trivial id rfl
  | send sent =>
      dsimp only
      split
      case h_1 p found =>
        cases sent with
        | true => exact .sends p (by simp [InTurn, found]) found
        | false => exact .silent _ trivial (fun sound => { sound with sending := nofun }) rfl
      case h_2 other =>
        refine .silent s ?_ id rfl
        cases sent with
        | true => exact fun p found => absurd found (other p)
        | false => trivial
  | quit =>
      dsimp only
      split
      · split_ifs
        · exact .silent _ trivial (fun sound => { sound with sending := nofun }) rfl
        · exact .silent s trivial id rfl
      · exact .silent s trivial id rfl

/-- One more event is in order when none of those before is terminal or above it. -/
theorem Orderly.concat_iff (orderly : s.Orderly) {p : TaskProgress} {t : TaskRun}
    (published : t.published = s.published ++ [p]) :
    t.Orderly ↔ ∀ q ∈ s.published, q.progress ≤ p.progress ∧ q.terminal = false := by
  constructor
  · rintro ⟨rises, last⟩ q mem
    rw [published, List.pairwise_append] at rises last
    exact ⟨rises.2.2 q mem p List.mem_cons_self, last.2.2 q mem p List.mem_cons_self⟩
  · intro fits
    constructor
    · rw [published, List.pairwise_append]
      refine ⟨orderly.rises, List.pairwise_singleton .., fun q mem q' last => ?_⟩
      rw [List.mem_singleton.1 last]
      exact (fits q mem).1
    · rw [published, List.pairwise_append]
      exact ⟨orderly.last, List.pairwise_singleton .., fun q mem _ _ => (fits q mem).2⟩

theorem payload_progress (s : TaskRun) (r : Report) : (s.payload r).progress = r.percent :=
  buildProgressPayload_progress ..

/-- A report is terminal when it is not about a running task; it may be the last of an
execution. -/
theorem terminal_report {low : Nat} {r : Report} {todo : List Report}
    (ascends : Ascends low (r :: todo)) (terminal : (s.payload r).terminal = true) :
    todo = [] ∧ r.percent = 100 := by
  rw [payload, buildProgressPayload_terminal] at terminal
  rcases ascends.high r List.mem_cons_self with ⟨running, -⟩ | ⟨failed, percent⟩
  · rw [running] at terminal
    cases terminal
  · refine ⟨List.eq_nil_iff_forall_not_mem.2 fun r' mem => ?_, percent⟩
    have before := (List.pairwise_cons.1 ascends.ordered).1 r' mem
    cases failed.symm.trans before.1

theorem shown_concat {n : Nat} (p : TaskProgress)
    (shown : n = 0 ∨ ∃ q ∈ s.published, q.progress = n) :
    n = 0 ∨ ∃ q ∈ s.published ++ [p], q.progress = n :=
  shown.imp_right fun ⟨q, mem, progress⟩ => ⟨q, List.mem_append_left _ mem, progress⟩

theorem Sound.step {e : ProgressStep} {t : TaskRun} (sound : s.Sound) (steps : s.Steps e t) :
    t.Sound := by
  cases steps with
  | silent t turn keeps => exact keeps sound
  | reports r todo turn found =>
      have ascends := sound.todo
      rw [found] at ascends
      refine { sound with
        todo := ascends.tail
        reported := ?_
        closed := fun done => ?_
        sending := fun p sending => sound.sending p (LoopState.started_sending sending)
        below := fun p mem => ?_
        terminal := fun p mem last => ?_
        shownReported := .inr ⟨s.payload r, List.mem_concat_self, s.payload_progress r⟩
        shownTicked := shown_concat _ sound.shownTicked }
      · change r.percent ≤ 100
        rcases ascends.high r List.mem_cons_self with ⟨-, percent⟩ | ⟨-, percent⟩ <;> omega
      · cases found.symm.trans (sound.closed done)
      · rcases List.mem_append.1 mem with old | new
        · exact (sound.below p old).imp_left fun le => le.trans ascends.head_le
        · rw [List.mem_singleton.1 new]
          exact .inl (s.payload_progress r).le
      · rcases List.mem_append.1 mem with old | new
        · cases found.symm.trans (sound.terminal p old last).1
        · rw [List.mem_singleton.1 new] at last
          exact terminal_report ascends last
  | finishes r turn done found =>
      have empty := sound.closed done
      have percent := sound.outcome r found
      refine { sound with
        todo := ?_
        reported := percent.le
        outcome := nofun
        below := fun p mem => ?_
        terminal := fun p mem last => ⟨empty, percent⟩
        shownReported := .inr ⟨s.payload r, List.mem_concat_self, s.payload_progress r⟩
        shownTicked := shown_concat _ sound.shownTicked }
      · change Ascends r.percent s.todo
        rw [empty]
        exact .nil _
      · rcases List.mem_append.1 mem with old | new
        · exact (sound.below p old).imp_left fun le => le.trans (sound.reported.trans percent.ge)
        · rw [List.mem_singleton.1 new]
          exact .inl (s.payload_progress r).le
  | sends p turn found =>
      obtain ⟨progress, running⟩ := sound.sending p found
      obtain ⟨ticked, limit, even⟩ := sound.percent
      refine { sound with
        percent := ⟨progress.le, limit, even⟩
        sending := nofun
        below := fun q mem => ?_
        terminal := fun q mem last => ?_
        shownReported := shown_concat _ sound.shownReported
        shownTicked := .inr ⟨p, List.mem_concat_self, rfl⟩ }
      · rcases List.mem_append.1 mem with old | new
        · exact (sound.below q old).imp_right fun le => le.trans (ticked.trans progress.ge)
        · rw [List.mem_singleton.1 new]
          exact .inr le_rfl
      · rcases List.mem_append.1 mem with old | new
        · exact sound.terminal q old last
        · rw [List.mem_singleton.1 new, running] at last
          cases last

theorem Orderly.of_published {t : TaskRun} (same : t.published = s.published) :
    t.Orderly ↔ s.Orderly := by
  constructor
  · rintro ⟨rises, last⟩
    exact ⟨same ▸ rises, same ▸ last⟩
  · rintro ⟨rises, last⟩
    exact ⟨same ▸ rises, same ▸ last⟩

/-- A percentage that has gone out is not above another one when its goroutine's last is not. -/
theorem le_of_shown {n m : Nat} (shown : n = 0 ∨ ∃ p ∈ s.published, p.progress = n)
    (fits : ∀ p ∈ s.published, p.progress ≤ m) : n ≤ m := by
  rcases shown with rfl | ⟨p, mem, rfl⟩
  · exact Nat.zero_le m
  · exact fits p mem

theorem Orderly.step_iff {e : ProgressStep} {t : TaskRun} (sound : s.Sound)
    (orderly : s.Orderly) (steps : s.Steps e t) : t.Orderly ↔ s.InTurn e := by
  cases steps with
  | silent t turn keeps published => exact iff_of_true ((of_published published).2 orderly) turn
  | reports r todo turn found =>
      have ascends := sound.todo
      rw [found] at ascends
      rw [orderly.concat_iff rfl, turn, payload_progress]
      constructor
      · intro fits
        exact le_of_shown sound.shownTicked fun p mem => (fits p mem).1
      · intro ticked p mem
        constructor
        · rcases sound.below p mem with le | le
          · exact le.trans ascends.head_le
          · exact le.trans ticked
        · by_contra last
          cases found.symm.trans (sound.terminal p mem (Bool.not_eq_false _ ▸ last)).1
  | finishes r turn done found =>
      have percent := sound.outcome r found
      rw [orderly.concat_iff rfl, turn, payload_progress, percent]
      obtain ⟨ticked, limit, -⟩ := sound.percent
      constructor
      · intro fits p mem
        exact (fits p mem).2
      · intro running p mem
        refine ⟨?_, running p mem⟩
        rcases sound.below p mem with le | le
        · exact le.trans sound.reported
        · omega
  | sends p turn found =>
      obtain ⟨progress, -⟩ := sound.sending p found
      obtain ⟨ticked, limit, -⟩ := sound.percent
      rw [orderly.concat_iff rfl, turn]
      constructor
      · intro fits
        exact le_of_shown sound.shownReported fun q mem => (fits q mem).1
      · intro reported q mem
        constructor
        · rcases sound.below q mem with le | le <;> omega
        · by_contra last
          have full := (sound.terminal q mem (Bool.not_eq_false _ ▸ last)).2
          omega

end TaskRun

/-- `HandleTask` behind the claim, with the task as it has been read. -/
def claimedRun (s : Store) (task : BackupTask) (taskType : TaskType) : TaskRun where
  task := task
  taskType := taskType
  todo := running 5 "任务开始执行" :: executeReports cfg e s task taskType
  outcome := some (outcomeReport (executeTask cfg e s task taskType).2)
  active := true
  done := false
  cancelled := false
  loop := .unstarted
  percent := 10
  published := []
  reported := 0
  ticked := 0

theorem outcomeReport_percent (result : Except String Unit) :
    (outcomeReport result).percent = 100 := by
  cases result <;> rfl

theorem claimedRun_sound (s : Store) (task : BackupTask) (taskType : TaskType) :
    (claimedRun cfg e s task taskType).Sound where
  todo := (executeReports_ascends cfg e s task taskType).cons (Nat.zero_le 5) (by decide)
  reported := Nat.zero_le 100
  outcome := by
    rintro r ⟨⟩
    exact outcomeReport_percent _
  closed := nofun
  percent := ⟨Nat.zero_le 10, (by decide : 10 ≤ 90), (rfl : 10 % 2 = 0)⟩
  sending := nofun
  below := nofun
  terminal := nofun
  shownReported := .inl rfl
  shownTicked := .inl rfl

/-- Whatever a task is and meets, the events of a run rise and end with the outcome exactly when
the two goroutines publish in turn. -/
theorem progress_orderly_iff (cfg : BackupConfig) (e : Environment) (s : Store)
    (task : BackupTask) (taskType : TaskType) (es : List ProgressStep) :
    (∀ n, (Transition.exec TaskRun.next (claimedRun cfg e s task taskType) (es.take n)).Orderly) ↔
      Transition.Along TaskRun.InTurn TaskRun.next (claimedRun cfg e s task taskType) es := by
  apply Transition.always_iff_along (I := TaskRun.Sound)
  · intro s e sound
    exact sound.step (s.next_steps e)
  · intro s e sound orderly
    exact orderly.step_iff sound (s.next_steps e)
  · exact claimedRun_sound cfg e s task taskType
  · exact ⟨.nil, .nil⟩

def configMapTask : BackupTask where
  id := 1
  clusterCode := "prod"
  ns := some "default"
  targetKind := some "ConfigMap"
  targetName := some "settings"
  backupType := BackupMode.single.text
  restoreMode := ""
  storageType := "local"
  storagePath := ""
  status := .running
  sizeBytes := none
  operator := "admin"
  operatorId := 1
  errorMessage := none
  objectCount := 0

/-- The first tick falls behind the read of the object. -/
def tickBehindRead : List ProgressStep :=
  [.report true, .report true, .report true, .tick, .send true]

theorem percentage_falls :
    ¬(Transition.exec TaskRun.next (claimedRun localOnly answering .empty configMapTask .backup)
      tickBehindRead).Orderly := by
  have percentages :
      (Transition.exec TaskRun.next (claimedRun localOnly answering .empty configMapTask .backup)
        tickBehindRead).published.map (·.progress) = [5, 10, 40, 12] := by
    decide +kernel
  intro orderly
  have rises := List.pairwise_map.2 orderly.rises
  rw [percentages] at rises
  revert rises
  decide

end K8sPlatform.Backup
