import Mathlib.Algebra.GroupWithZero.Nat
import Mathlib.Logic.Relation
import Mathlib.Algebra.BigOperators.Group.List.Basic
import Mathlib.Data.List.Basic

/-! # The shutdown of the task worker -/

namespace K8sPlatform.TaskWorker

inductive Worker
  | backup
  | noop (name : String)
  | clusterHealth
  | notifier
  deriving DecidableEq, Repr

/-- The workers of `StartAll`. -/
def startAll : List Worker := [.backup, .noop "InformerSyncWorker", .clusterHealth, .notifier]

/-- Whether `Stop` closes a channel that `Start` looks at. -/
def Worker.stoppable : Worker → Bool
  | .backup | .notifier => true
  | .noop _ | .clusterHealth => false

/-- Where a worker's goroutine is: before `Start`, at its look at the channels, in the rounds of
`tryAutoClaim` with the messages left of one answer, before `XReadGroup` or in its answer. -/
inductive Phase
  | created
  | looking
  | claiming (rounds batch : Nat)
  | reading
  | handling (batch : Nat)
  | exited
  deriving DecidableEq, Repr

/-- A worker's goroutine; `handled` counts the messages it took up after its channel was closed. -/
structure Goroutine where
  worker : Worker
  phase : Phase
  stopped : Bool
  handled : Nat
  deriving DecidableEq, Repr

def Goroutine.stop (g : Goroutine) : Goroutine := { g with stopped := g.worker.stoppable }

def Goroutine.takeUp (g : Goroutine) (phase : Phase) : Goroutine :=
  { g with phase, handled := if g.stopped then g.handled + 1 else g.handled }

/-- The context is the background, which is never done: no step leaves a look because of it. -/
inductive Goroutine.Step : Goroutine → Goroutine → Prop
  | start (g : Goroutine) (at_ : g.phase = .created) : Step g { g with phase := .looking }
  | exit (g : Goroutine) (at_ : g.phase = .looking) (closed : g.stopped = true) :
      Step g { g with phase := .exited }
  | tick (g : Goroutine) (at_ : g.phase = .looking)
      (ticker : g.worker = .clusterHealth ∨ g.worker = .notifier) : Step g g
  | claim (g : Goroutine) (at_ : g.phase = .looking) (own : g.worker = .backup)
      (opened : g.stopped = false) : Step g { g with phase := .claiming 10 0 }
  | read (g : Goroutine) (at_ : g.phase = .looking) (own : g.worker = .backup)
      (opened : g.stopped = false) : Step g { g with phase := .reading }
  | claimed (g : Goroutine) (rounds batch : Nat) (at_ : g.phase = .claiming (rounds + 1) 0)
      (count : batch ≤ 10) (some_ : 0 < batch) : Step g { g with phase := .claiming rounds batch }
  | claims (g : Goroutine) (rounds : Nat) (at_ : g.phase = .claiming rounds 0) :
      Step g { g with phase := .reading }
  | claimedMsg (g : Goroutine) (rounds batch : Nat)
      (at_ : g.phase = .claiming rounds (batch + 1)) : Step g (g.takeUp (.claiming rounds batch))
  | unread (g : Goroutine) (at_ : g.phase = .reading) : Step g { g with phase := .looking }
  | answer (g : Goroutine) (batch : Nat) (at_ : g.phase = .reading) (count : batch ≤ 1) :
      Step g { g with phase := .handling batch }
  | msg (g : Goroutine) (batch : Nat) (at_ : g.phase = .handling (batch + 1)) :
      Step g (g.takeUp (.handling batch))
  | again (g : Goroutine) (at_ : g.phase = .handling 0) : Step g { g with phase := .looking }

/-- Where `main` is: before the signal, in the loop of `StopAll` with the workers left to be
stopped, at `wg.Wait`, and behind it. -/
inductive Main
  | serving
  | stopping (left : Nat)
  | waiting
  | returned
  | healthClosed
  | exited
  deriving DecidableEq, Repr

/-- `running` is the counter of the wait group, `told` the calls of `Stop`. -/
structure Process where
  main : Main
  workers : List Goroutine
  running : Nat
  told : List Worker

/-- After `StartAll`. -/
def started (ws : List Worker) : Process where
  main := .serving
  workers := ws.map fun w => ⟨w, .created, false, 0⟩
  running := ws.length
  told := []

/-- The deferred `wg.Done`. -/
def counted (phase : Phase) (running : Nat) : Nat :=
  if phase = .exited then running - 1 else running

inductive Process.Step : Process → Process → Prop
  | signal (p : Process) (at_ : p.main = .serving) :
      Step p { p with main := .stopping p.workers.length }
  | stop (p : Process) (left : Nat) (g : Goroutine) (at_ : p.main = .stopping (left + 1))
      (own : p.workers[left]? = some g) :
      Step p { p with
        main := .stopping left
        workers := p.workers.set left g.stop
        told := p.told ++ [g.worker] }
  | wait (p : Process) (at_ : p.main = .stopping 0) : Step p { p with main := .waiting }
  | return_ (p : Process) (at_ : p.main = .waiting) (none_ : p.running = 0) :
      Step p { p with main := .returned }
  | closeHealth (p : Process) (at_ : p.main = .returned) : Step p { p with main := .healthClosed }
  | shutdown (p : Process) (at_ : p.main = .healthClosed) : Step p { p with main := .exited }
  | worker (p : Process) (i : Nat) (g g' : Goroutine) (own : p.workers[i]? = some g)
      (step : g.Step g') :
      Step p { p with
        workers := p.workers.set i g'
        running := counted g'.phase p.running }

def Reachable (ws : List Worker) (p : Process) : Prop :=
  Relation.ReflTransGen Process.Step (started ws) p

/-- `StopAll` has returned. -/
def Process.Returned (p : Process) : Prop :=
  p.main = .returned ∨ p.main = .healthClosed ∨ p.main = .exited

/-! ## One goroutine -/

/-- The messages that may still be taken up before the next look. -/
def Phase.budget : Phase → Nat
  | .claiming rounds batch => batch + 10 * rounds + 1
  | .reading => 1
  | .handling batch => batch
  | .created | .looking | .exited => 0

structure Sane (g : Goroutine) : Prop where
  closed : g.stopped = true → g.worker.stoppable = true
  out : g.phase = .exited → g.stopped = true
  budget : g.phase.budget ≤ 101
  counts : g.stopped = false → g.handled = 0
  bounded : g.handled + g.phase.budget ≤ 101

theorem sane_created (w : Worker) : Sane ⟨w, .created, false, 0⟩ where
  closed := by rintro ⟨⟩
  out := by rintro ⟨⟩
  budget := Nat.zero_le _
  counts _ := rfl
  bounded := Nat.zero_le _

theorem stop_sane {g : Goroutine} (sane : Sane g) : Sane g.stop where
  closed closed := closed
  out out := sane.closed (sane.out out)
  budget := sane.budget
  counts opened := by
    apply sane.counts
    by_contra closed
    rw [Bool.not_eq_false] at closed
    rw [Goroutine.stop, sane.closed closed] at opened
    cases opened
  bounded := sane.bounded

theorem takeUp_sane {g : Goroutine} (sane : Sane g) {phase : Phase}
    (less : phase.budget + 1 ≤ g.phase.budget) (inside : phase ≠ .exited) :
    Sane (g.takeUp phase) where
  closed := sane.closed
  out out := absurd out inside
  budget := Nat.le_trans (Nat.le_of_succ_le less) sane.budget
  counts opened := by
    have none_ := sane.counts opened
    have still : g.stopped = false := opened
    simp only [Goroutine.takeUp, still, Bool.false_eq_true, if_false, none_]
  bounded := by
    have bounded := sane.bounded
    simp only [Goroutine.takeUp]
    split <;> omega

theorem move_sane {g : Goroutine} (sane : Sane g) {phase : Phase}
    (less : phase.budget ≤ g.phase.budget) (out : phase = .exited → g.stopped = true) :
    Sane { g with phase } where
  closed := sane.closed
  out := out
  budget := Nat.le_trans less sane.budget
  counts := sane.counts
  bounded := Nat.le_trans (Nat.add_le_add_left less _) sane.bounded

/-- A round begins with nothing taken up since the channel was closed: it is not closed. -/
theorem begin_sane {g : Goroutine} (sane : Sane g) {phase : Phase} (opened : g.stopped = false)
    (most : phase.budget ≤ 101) (inside : phase ≠ .exited) : Sane { g with phase } where
  closed := sane.closed
  out out := absurd out inside
  budget := most
  counts := sane.counts
  bounded := by
    simp only [sane.counts opened]
    omega

theorem step_sane {g g' : Goroutine} (step : g.Step g') (sane : Sane g) : Sane g' := by
  cases step with
  | start at_ => exact move_sane sane (Nat.zero_le _) nofun
  | exit at_ closed => exact move_sane sane (Nat.zero_le _) fun _ => closed
  | tick at_ ticker => exact sane
  | claim at_ own opened => exact begin_sane sane opened (by decide) nofun
  | read at_ own opened => exact begin_sane sane opened (by decide) nofun
  | claimed rounds batch at_ count some_ =>
      have less : (Phase.claiming rounds batch).budget ≤ g.phase.budget := by
        simp only [at_, Phase.budget]
        omega
      exact move_sane sane less nofun
  | claims rounds at_ =>
      have less : (Phase.reading).budget ≤ g.phase.budget := by
        simp only [at_, Phase.budget]
        omega
      exact move_sane sane less nofun
  | claimedMsg rounds batch at_ =>
      have less : (Phase.claiming rounds batch).budget + 1 ≤ g.phase.budget := by
        simp only [at_, Phase.budget]
        omega
      exact takeUp_sane sane less nofun
  | unread at_ => exact move_sane sane (Nat.zero_le _) nofun
  | answer batch at_ count =>
      have less : (Phase.handling batch).budget ≤ g.phase.budget := by
        simp only [at_, Phase.budget]
        omega
      exact move_sane sane less nofun
  | msg batch at_ =>
      have less : (Phase.handling batch).budget + 1 ≤ g.phase.budget := by
        simp only [at_, Phase.budget]
        omega
      exact takeUp_sane sane less nofun
  | again at_ => exact move_sane sane (Nat.zero_le _) nofun

theorem step_worker {g g' : Goroutine} (step : g.Step g') :
    g'.worker = g.worker ∧ g'.stopped = g.stopped := by
  cases step <;> exact ⟨rfl, rfl⟩

theorem step_inside {g g' : Goroutine} (step : g.Step g') : g.phase ≠ .exited := by
  intro out
  cases step <;> simp_all

def Main.left (n : Nat) : Main → Nat
  | .serving => n
  | .stopping left => left
  | .waiting | .returned | .healthClosed | .exited => 0

def inside (g : Goroutine) : Bool := g.phase != .exited

structure Kept (ws : List Worker) (p : Process) : Prop where
  workers : p.workers.map (·.worker) = ws
  sane : ∀ g ∈ p.workers, Sane g
  count : p.running = p.workers.countP inside
  left : p.main.left ws.length ≤ ws.length
  told : p.told = (ws.drop (p.main.left ws.length)).reverse
  stopped : ∀ i g, p.workers[i]? = some g → p.main.left ws.length ≤ i →
    g.worker.stoppable = true → g.stopped = true
  returned : p.Returned → p.running = 0

theorem kept_started (ws : List Worker) : Kept ws (started ws) where
  workers := by
    rw [started, List.map_map]
    exact List.map_id ws
  sane := by
    intro g mem
    obtain ⟨w, -, rfl⟩ := List.mem_map.1 mem
    exact sane_created w
  count := by
    have all : ∀ g ∈ (started ws).workers, inside g = true := by
      intro g mem
      obtain ⟨w, -, rfl⟩ := List.mem_map.1 mem
      rfl
    rw [List.countP_eq_length.2 all, started, List.length_map]
  left := Nat.le_refl _
  told := by
    rw [started, Main.left, List.drop_length]
    rfl
  stopped := by
    intro i g own later
    obtain ⟨short, -⟩ := List.getElem?_eq_some_iff.1 own
    rw [started, List.length_map] at short
    have past : ws.length ≤ i := later
    omega
  returned := by rintro (back | back | back) <;> cases back

theorem kept_length {ws : List Worker} {p : Process} (kept : Kept ws p) :
    p.workers.length = ws.length := by
  rw [← kept.workers, List.length_map]

/-- A step of `main` alone, which leaves as many workers to be stopped. -/
theorem kept_main {ws : List Worker} {p : Process} (kept : Kept ws p) {main : Main}
    (same : main.left ws.length = p.main.left ws.length)
    (returned : ({ p with main } : Process).Returned → p.running = 0) :
    Kept ws { p with main } where
  workers := kept.workers
  sane := kept.sane
  count := kept.count
  left := same ▸ kept.left
  told := same ▸ kept.told
  stopped := same ▸ kept.stopped
  returned := returned

/-- A worker in another phase, or told to stop, is the same worker. -/
theorem workers_set {p : Process} {i : Nat} {g g' : Goroutine} (own : p.workers[i]? = some g)
    (same : g'.worker = g.worker) :
    (p.workers.set i g').map (·.worker) = p.workers.map (·.worker) := by
  obtain ⟨short, rfl⟩ := List.getElem?_eq_some_iff.1 own
  have short' : i < (p.workers.map (·.worker)).length := by rwa [List.length_map]
  have old : g'.worker = (p.workers.map (·.worker))[i] := by rw [same, List.getElem_map]
  rw [List.map_set, old, List.set_getElem_self short']

theorem count_set {gs : List Goroutine} {i : Nat} {g g' : Goroutine} (own : gs[i]? = some g)
    (before : inside g = true) :
    (gs.set i g').countP inside = counted g'.phase (gs.countP inside) := by
  obtain ⟨short, rfl⟩ := List.getElem?_eq_some_iff.1 own
  have some_ : 0 < gs.countP inside :=
    List.countP_pos_iff.2 ⟨_, List.getElem_mem short, before⟩
  rw [List.countP_set short, if_pos before, counted]
  by_cases out : g'.phase = .exited
  · have gone : ¬inside g' = true := by rw [inside, out]; decide
    rw [if_pos out, if_neg gone, Nat.add_zero]
  · have still : inside g' = true := bne_iff_ne.2 out
    rw [if_neg out, if_pos still]
    omega

theorem kept_stop {ws : List Worker} {p : Process} (kept : Kept ws p) {left : Nat} {g : Goroutine}
    (at_ : p.main = .stopping (left + 1)) (own : p.workers[left]? = some g) :
    Kept ws { p with
      main := .stopping left
      workers := p.workers.set left g.stop
      told := p.told ++ [g.worker] } where
  workers := by
    have same : g.stop.worker = g.worker := rfl
    exact (workers_set own same).trans kept.workers
  sane := by
    intro g' mem
    rcases List.mem_or_eq_of_mem_set mem with old | rfl
    · exact kept.sane g' old
    · exact stop_sane (kept.sane g (List.mem_of_getElem? own))
  count := by
    obtain ⟨short, rfl⟩ := List.getElem?_eq_some_iff.1 own
    have phase : inside p.workers[left].stop = inside p.workers[left] := rfl
    dsimp only
    rw [List.countP_set short, phase, kept.count]
    split
    · next before =>
        have some_ : 0 < p.workers.countP inside :=
          List.countP_pos_iff.2 ⟨_, List.getElem_mem short, before⟩
        omega
    · rfl
  left := by
    have bound := kept.left
    rw [at_] at bound
    exact Nat.le_of_succ_le bound
  told := by
    obtain ⟨short, eq⟩ := List.getElem?_eq_some_iff.1 own
    rw [kept_length kept] at short
    have told := kept.told
    rw [at_] at told
    have named : g.worker = ws[left] := by
      have same := congrArg (fun l => l[left]?) kept.workers
      rw [List.getElem?_map, own, List.getElem?_eq_getElem short] at same
      exact Option.some.inj same
    have next : ws.drop left = ws[left] :: ws.drop (left + 1) := List.drop_eq_getElem_cons short
    dsimp only [Main.left] at told ⊢
    rw [told, next, List.reverse_cons, named]
  stopped := by
    intro i g' found later able
    dsimp only [Main.left] at found later
    rw [List.getElem?_set] at found
    split at found
    · split at found
      · obtain rfl := Option.some.inj found
        exact able
      · cases found
    · next other =>
        have before := kept.stopped i g' found
        rw [at_] at before
        exact before (Nat.lt_of_le_of_ne later other) able
  returned := by rintro (back | back | back) <;> cases back

theorem kept_worker {ws : List Worker} {p : Process} (kept : Kept ws p) {i : Nat}
    {g g' : Goroutine} (own : p.workers[i]? = some g) (step : g.Step g') :
    Kept ws { p with
      workers := p.workers.set i g'
      running := counted g'.phase p.running } where
  workers := (workers_set own (step_worker step).1).trans kept.workers
  sane := by
    intro other mem
    rcases List.mem_or_eq_of_mem_set mem with old | rfl
    · exact kept.sane other old
    · exact step_sane step (kept.sane g (List.mem_of_getElem? own))
  count := by
    dsimp only
    rw [count_set own (bne_iff_ne.2 (step_inside step)), kept.count]
  left := kept.left
  told := kept.told
  stopped := by
    intro j other found later able
    dsimp only at found
    rw [List.getElem?_set] at found
    split at found
    · next same =>
        subst same
        split at found
        · obtain rfl := Option.some.inj found
          rw [(step_worker step).1] at able
          rw [(step_worker step).2]
          exact kept.stopped i g own later able
        · cases found
    · exact kept.stopped j other found later able
  returned := by
    intro back
    have none_ := kept.returned back
    simp only [none_, counted]
    split <;> rfl

theorem step_kept {ws : List Worker} {p p' : Process} (step : p.Step p') (kept : Kept ws p) :
    Kept ws p' := by
  cases step with
  | signal at_ =>
      apply kept_main kept
      · rw [at_, kept_length kept]
        rfl
      · rintro (back | back | back) <;> cases back
  | stop left g at_ own => exact kept_stop kept at_ own
  | wait at_ =>
      apply kept_main kept
      · rw [at_]
        rfl
      · rintro (back | back | back) <;> cases back
  | return_ at_ none_ =>
      apply kept_main kept
      · rw [at_]
        rfl
      · exact fun _ => none_
  | closeHealth at_ =>
      apply kept_main kept
      · rw [at_]
        rfl
      · exact fun _ => kept.returned (.inl at_)
  | shutdown at_ =>
      apply kept_main kept
      · rw [at_]
        rfl
      · exact fun _ => kept.returned (.inr (.inl at_))
  | worker i g g' own step => exact kept_worker kept own step

theorem reachable_kept {ws : List Worker} {p : Process} (reachable : Reachable ws p) :
    Kept ws p := by
  induction reachable with
  | refl => exact kept_started ws
  | tail _ step ih => exact step_kept step ih

/-- When `StopAll` has returned, every worker has seen its channel closed. -/
theorem stoppable_of_returned {ws : List Worker} {p : Process} (kept : Kept ws p)
    (returned : p.Returned) : ∀ w ∈ ws, w.stoppable = true := by
  have none_ := kept.returned returned
  rw [kept.count, List.countP_eq_zero] at none_
  intro w mem
  rw [← kept.workers] at mem
  obtain ⟨g, inside_, rfl⟩ := List.mem_map.1 mem
  have sane := kept.sane g inside_
  apply sane.closed
  apply sane.out
  have out := none_ g inside_
  rwa [inside, bne_iff_ne, not_not] at out

/-! ## Progress -/

def Phase.rank : Phase → Nat
  | .exited => 0
  | .looking => 1
  | .created | .reading => 2
  | .handling batch => batch + 2
  | .claiming _ batch => batch + 3

/-- A goroutine whose channel is closed can come nearer to its end. -/
theorem goroutine_progress {g : Goroutine} (within : inside g = true) (closed : g.stopped = true) :
    ∃ g', g.Step g' ∧ g'.phase.rank < g.phase.rank := by
  have phase : g.phase ≠ .exited := bne_iff_ne.1 within
  cases at_ : g.phase with
  | created => exact ⟨_, .start g at_, Nat.lt_succ_self _⟩
  | looking => exact ⟨_, .exit g at_ closed, Nat.lt_succ_self _⟩
  | claiming rounds batch =>
      cases batch with
      | zero => exact ⟨_, .claims g rounds at_, Nat.lt_succ_self _⟩
      | succ batch => exact ⟨_, .claimedMsg g rounds batch at_, Nat.lt_succ_self _⟩
  | reading => exact ⟨_, .unread g at_, Nat.lt_succ_self _⟩
  | handling batch =>
      cases batch with
      | zero => exact ⟨_, .again g at_, Nat.lt_succ_self _⟩
      | succ batch => exact ⟨_, .msg g batch at_, Nat.lt_succ_self _⟩
  | exited => exact absurd at_ phase

def Goroutine.rank (g : Goroutine) : Nat := g.phase.rank

def ranks (gs : List Goroutine) : Nat := (gs.map Goroutine.rank).sum

theorem ranks_set {gs : List Goroutine} {i : Nat} {g : Goroutine} (own : gs[i]? = some g)
    (g' : Goroutine) : ranks (gs.set i g') + g.rank = ranks gs + g'.rank := by
  induction gs generalizing i with
  | nil => cases own
  | cons first rest ih =>
      cases i with
      | zero =>
          obtain rfl := Option.some.inj own
          simp only [ranks, List.set_cons_zero, List.map_cons, List.sum_cons]
          omega
      | succ i =>
          have later := ih (i := i) own
          simp only [ranks, List.set_cons_succ, List.map_cons, List.sum_cons] at later ⊢
          omega

def Main.rank (n : Nat) : Main → Nat
  | .serving => n + 2
  | .stopping left => left + 1
  | .waiting | .returned | .healthClosed | .exited => 0

def Process.rank (p : Process) : Nat := p.main.rank p.workers.length + ranks p.workers

/-- Where all workers can be stopped, a step leads nearer to the end of `StopAll`. -/
theorem process_progress {ws : List Worker} {p : Process} (kept : Kept ws p)
    (able : ∀ w ∈ ws, w.stoppable = true) (still : ¬p.Returned) :
    ∃ p', p.Step p' ∧ (p'.Returned ∨ p'.rank < p.rank) := by
  cases at_ : p.main with
  | serving =>
      refine ⟨_, .signal p at_, .inr ?_⟩
      simp only [Process.rank, at_, Main.rank]
      omega
  | stopping left =>
      cases left with
      | zero =>
          refine ⟨_, .wait p at_, .inr ?_⟩
          simp only [Process.rank, at_, Main.rank]
          omega
      | succ left =>
          have bound := kept.left
          rw [at_, ← kept_length kept] at bound
          have own : p.workers[left]? = some p.workers[left] := List.getElem?_eq_getElem bound
          have same := ranks_set own p.workers[left].stop
          have phase : p.workers[left].stop.rank = p.workers[left].rank := rfl
          refine ⟨_, .stop p left _ at_ own, .inr ?_⟩
          simp only [Process.rank, at_, Main.rank]
          omega
  | waiting =>
      by_cases none_ : p.running = 0
      · exact ⟨_, .return_ p at_ none_, .inl (.inl rfl)⟩
      · have some_ : 0 < p.workers.countP inside := by
          rw [← kept.count]
          exact Nat.pos_of_ne_zero none_
        obtain ⟨g, mem, within⟩ := List.countP_pos_iff.1 some_
        obtain ⟨i, own⟩ := List.mem_iff_getElem?.1 mem
        have named : g.worker ∈ ws := kept.workers ▸ List.mem_map_of_mem mem
        have told : p.main.left ws.length ≤ i := by
          rw [at_]
          exact Nat.zero_le i
        have closed := kept.stopped i g own told (able _ named)
        obtain ⟨g', step, less⟩ := goroutine_progress within closed
        have same := ranks_set own g'
        refine ⟨_, .worker p i g g' own step, .inr ?_⟩
        simp only [Process.rank, at_, Main.rank, Goroutine.rank] at same ⊢
        omega
  | returned => exact absurd (.inl at_) still
  | healthClosed => exact absurd (.inr (.inl at_)) still
  | exited => exact absurd (.inr (.inr at_)) still

theorem can_return {ws : List Worker} (able : ∀ w ∈ ws, w.stoppable = true) {p : Process}
    (kept : Kept ws p) : ∃ p', Relation.ReflTransGen Process.Step p p' ∧ p'.Returned := by
  induction rank : p.rank using Nat.strongRecOn generalizing p with
  | ind n ih =>
      by_cases returned : p.Returned
      · exact ⟨p, .refl, returned⟩
      · obtain ⟨next, step, returned' | less⟩ := process_progress kept able returned
        · exact ⟨next, .single step, returned'⟩
        · obtain ⟨last, steps, ends⟩ := ih next.rank (rank ▸ less) (step_kept step kept) rfl
          exact ⟨last, .head step steps, ends⟩

/-- A manager of these workers can return from `StopAll` if `Stop` ends every one of them, and then
it can from every state that it reaches; with any other worker it returns in no run. -/
theorem stopAll_returns_iff (ws : List Worker) :
    ((∃ p, Reachable ws p ∧ p.Returned) ↔ ∀ w ∈ ws, w.stoppable = true) ∧
      ((∀ p, Reachable ws p → ∃ p', Relation.ReflTransGen Process.Step p p' ∧ p'.Returned) ↔
        ∀ w ∈ ws, w.stoppable = true) := by
  have only : (∃ p, Reachable ws p ∧ p.Returned) → ∀ w ∈ ws, w.stoppable = true := by
    rintro ⟨p, reachable, returned⟩
    exact stoppable_of_returned (reachable_kept reachable) returned
  constructor
  · refine ⟨only, fun able => ?_⟩
    obtain ⟨p, steps, returned⟩ := can_return able (kept_started ws)
    exact ⟨p, steps, returned⟩
  · constructor
    · intro always
      obtain ⟨p, steps, returned⟩ := always (started ws) .refl
      exact only ⟨p, steps, returned⟩
    · exact fun able p reachable => can_return able (reachable_kept reachable)

/-- The task worker never returns from `StopAll`; the calls of `Stop` are made once each, from the
last worker to the first, and a worker takes up at most 101 messages after its own. -/
theorem task_worker_shutdown {p : Process} (reachable : Reachable startAll p) :
    ¬p.Returned ∧ p.told <+: startAll.reverse ∧ ∀ g ∈ p.workers, g.handled ≤ 101 := by
  have kept := reachable_kept reachable
  refine ⟨fun returned => ?_, ?_, fun g mem => ?_⟩
  · have able := stoppable_of_returned kept returned .clusterHealth (by decide)
    cases able
  · rw [kept.told]
    exact List.reverse_prefix.2 (List.drop_suffix _ _)
  · exact Nat.le_trans (Nat.le_add_right _ _) (kept.sane g mem).bounded

/-- `main` at `wg.Wait`, with every `Stop` called before any goroutine came to its loop. -/
def stuck : Process where
  main := .waiting
  workers := startAll.map fun w => ⟨w, .created, w.stoppable, 0⟩
  running := 4
  told := [.notifier, .clusterHealth, .noop "InformerSyncWorker", .backup]

theorem stuck_for_good :
    ¬stuck.Returned ∧ stuck.told <+: startAll.reverse ∧ ∀ g ∈ stuck.workers, g.handled ≤ 101 := by
  have signalled : Reachable startAll { started startAll with main := .stopping 4 } :=
    .single (.signal _ rfl)
  have two := (signalled.tail (.stop _ 3 _ rfl rfl)).tail (.stop _ 2 _ rfl rfl)
  have four := (two.tail (.stop _ 1 _ rfl rfl)).tail (.stop _ 0 _ rfl rfl)
  have reached : Reachable startAll stuck := four.tail (.wait _ rfl)
  exact task_worker_shutdown reached

end K8sPlatform.TaskWorker
