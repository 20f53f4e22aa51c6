import Mathlib.Logic.Basic

/-! # Labelled transition systems -/

namespace Transition

universe u v w

variable {σ : Type u} {τ : Type w} {ε : Type v}

/-- Initial states and a step relation whose steps are labelled by events. -/
structure System (σ : Type u) (ε : Type v) where
  init : σ → Prop
  step : σ → ε → σ → Prop

/-- A deterministic system given by its transition function. -/
def System.ofFn (init : σ → Prop) (next : σ → ε → σ) : System σ ε :=
  ⟨init, fun s e t => t = next s e⟩

/-- The steps that also meet a condition on the state before them and on the event. -/
def System.guard (S : System σ ε) (ok : σ → ε → Prop) : System σ ε :=
  ⟨S.init, fun s e t => ok s e ∧ S.step s e t⟩

theorem System.guard_guard (S : System σ ε) (p q : σ → ε → Prop) :
    (S.guard p).guard q = S.guard fun s e => q s e ∧ p s e := by
  simp only [System.guard, and_assoc]

inductive Reachable (S : System σ ε) : σ → Prop
  | init {s : σ} : S.init s → Reachable S s
  | step {s t : σ} {e : ε} : Reachable S s → S.step s e t → Reachable S t

/-- An inductive invariant: it holds initially and every step preserves it. -/
structure Invariant (S : System σ ε) (I : σ → Prop) : Prop where
  init : ∀ {s}, S.init s → I s
  step : ∀ {s e t}, I s → S.step s e t → I t

theorem Invariant.holds {S : System σ ε} {I : σ → Prop} (h : Invariant S I) {s : σ}
    (hs : Reachable S s) : I s := by
  induction hs with
  | init hi => exact h.init hi
  | step _ next ih => exact h.step ih next

/-- The state after a finite list of events, each applied by `next`. -/
def exec (next : σ → ε → σ) (s : σ) (es : List ε) : σ :=
  es.foldl next s

@[simp] theorem exec_nil (next : σ → ε → σ) (s : σ) : exec next s [] = s := rfl

@[simp] theorem exec_cons (next : σ → ε → σ) (s : σ) (e : ε) (es : List ε) :
    exec next s (e :: es) = exec next (next s e) es := rfl

theorem exec_append (next : σ → ε → σ) (s : σ) (es fs : List ε) :
    exec next s (es ++ fs) = exec next (exec next s es) fs := List.foldl_append

theorem Reachable.exec {init : σ → Prop} {next : σ → ε → σ} {s : σ} (es : List ε)
    (h : Reachable (System.ofFn init next) s) :
    Reachable (System.ofFn init next) (Transition.exec next s es) := by
  induction es generalizing s with
  | nil => exact h
  | cons e es ih => exact ih (.step h rfl)

/-- Every step of the run of `es` from `s` meets `ok` in the state it starts from. -/
def Along (ok : σ → ε → Prop) (next : σ → ε → σ) : σ → List ε → Prop
  | _, [] => True
  | s, e :: es => ok s e ∧ Along ok next (next s e) es

theorem along_append {ok : σ → ε → Prop} {next : σ → ε → σ} {s : σ} {es fs : List ε} :
    Along ok next s (es ++ fs) ↔ Along ok next s es ∧ Along ok next (exec next s es) fs := by
  induction es generalizing s with
  | nil => exact (and_iff_right trivial).symm
  | cons e es ih => exact (and_congr_right fun _ => ih).trans and_assoc.symm

/-- Two conditions that agree in every state of an invariant agree along every run from it, also
where only the steps that meet them keep the invariant. -/
theorem along_congr_of {I : σ → Prop} {P Q : σ → ε → Prop} {next : σ → ε → σ}
    (keeps : ∀ {s e}, I s → P s e → I (next s e)) (agree : ∀ {s e}, I s → (P s e ↔ Q s e)) {s : σ}
    (start : I s) (es : List ε) : Along P next s es ↔ Along Q next s es := by
  induction es generalizing s with
  | nil => exact Iff.rfl
  | cons e es ih =>
      constructor
      · rintro ⟨first, rest⟩
        exact ⟨(agree start).1 first, (ih (keeps start first)).1 rest⟩
      · rintro ⟨first, rest⟩
        have good : P s e := (agree start).2 first
        exact ⟨good, (ih (keeps start good)).2 rest⟩

theorem along_congr {I : σ → Prop} {P Q : σ → ε → Prop} {next : σ → ε → σ}
    (keeps : ∀ {s e}, I s → I (next s e)) (agree : ∀ {s e}, I s → (P s e ↔ Q s e)) {s : σ}
    (start : I s) (es : List ε) : Along P next s es ↔ Along Q next s es :=
  along_congr_of (fun inv _ => keeps inv) agree start es

/-- Where a step keeps `P` exactly when it meets `Q`, a run keeps `P` exactly when all its steps
meet `Q`. The steps that keep `P` keep the invariant, too. -/
theorem always_iff_along_of {I P : σ → Prop} {Q : σ → ε → Prop} {next : σ → ε → σ}
    (keeps : ∀ {s e}, I s → P s → P (next s e) → I (next s e))
    (agree : ∀ {s e}, I s → P s → (P (next s e) ↔ Q s e)) {s : σ} (start : I s) (good : P s)
    (es : List ε) : (∀ n, P (exec next s (es.take n))) ↔ Along Q next s es := by
  induction es generalizing s with
  | nil =>
      constructor
      · intro _
        trivial
      · intro _ n
        simpa using good
  | cons e es ih =>
      constructor
      · intro always
        have once : P (next s e) := always 1
        have rest := (ih (keeps start good once) once).1 fun n => always (n + 1)
        exact ⟨(agree start good).1 once, rest⟩
      · rintro ⟨first, rest⟩ n
        have once := (agree start good).2 first
        cases n with
        | zero => exact good
        | succ n => exact (ih (keeps start good once) once).2 rest n

theorem always_iff_along {I P : σ → Prop} {Q : σ → ε → Prop} {next : σ → ε → σ}
    (keeps : ∀ {s e}, I s → I (next s e)) (agree : ∀ {s e}, I s → P s → (P (next s e) ↔ Q s e))
    {s : σ} (start : I s) (good : P s) (es : List ε) :
    (∀ n, P (exec next s (es.take n))) ↔ Along Q next s es :=
  always_iff_along_of (fun inv _ _ => keeps inv) agree start good es

/-- A relation that every event keeps between two machines holds after every run. -/
theorem exec_related {R : σ → τ → Prop} {f : σ → ε → σ} {g : τ → ε → τ}
    (keeps : ∀ {s t e}, R s t → R (f s e) (g t e)) {s : σ} {t : τ} (start : R s t) (es : List ε) :
    R (exec f s es) (exec g t es) := by
  induction es generalizing s t with
  | nil => exact start
  | cons e es ih => exact ih (keeps start)

/-- Two machines that take the same events side by side. -/
theorem exec_beside (f : σ → ε → σ) (g : τ → ε → τ) (s : σ) (t : τ) (es : List ε) :
    exec (fun p e => (f p.1 e, g p.2 e)) (s, t) es = (exec f s es, exec g t es) := by
  induction es generalizing s t with
  | nil => rfl
  | cons e es ih => exact ih (f s e) (g t e)

theorem along_beside (Q : σ → ε → Prop) (f : σ → ε → σ) (g : τ → ε → τ) (s : σ) (t : τ)
    (es : List ε) :
    Along (fun p e => Q p.1 e) (fun p e => (f p.1 e, g p.2 e)) (s, t) es ↔ Along Q f s es := by
  induction es generalizing s t with
  | nil => exact Iff.rfl
  | cons e es ih => exact and_congr_right fun _ => ih (f s e) (g t e)

/-- A relation to a second machine is kept just when all steps of the first one meet `Q`. -/
theorem always_iff_along_beside {P : σ → τ → Prop} {Q : σ → ε → Prop} {f : σ → ε → σ}
    {g : τ → ε → τ} (agree : ∀ {s t e}, P s t → (P (f s e) (g t e) ↔ Q s e)) {s : σ} {t : τ}
    (start : P s t) (es : List ε) :
    (∀ n, P (exec f s (es.take n)) (exec g t (es.take n))) ↔ Along Q f s es := by
  have both : (∀ n, (fun p : σ × τ => P p.1 p.2)
        (exec (fun p e => (f p.1 e, g p.2 e)) (s, t) (es.take n))) ↔
      Along (fun p e => Q p.1 e) (fun p e => (f p.1 e, g p.2 e)) (s, t) es :=
    always_iff_along (I := fun _ => True) (P := fun p : σ × τ => P p.1 p.2) (fun _ => trivial)
      (fun _ related => agree related) trivial start es
  rw [along_beside] at both
  simpa only [exec_beside] using both

/-- From a good state a step leads to a good one when it meets `Q`, else to a bad one, and no
step leaves the bad ones. -/
theorem exec_good_or_bad {G B : σ → Prop} {Q : σ → ε → Prop} {next : σ → ε → σ}
    (good : ∀ {s e}, G s → Q s e → G (next s e)) (bad : ∀ {s e}, G s → ¬Q s e → B (next s e))
    (stays : ∀ {s e}, B s → B (next s e)) {s : σ} (start : G s) (es : List ε) :
    (Along Q next s es ∧ G (exec next s es)) ∨ (¬Along Q next s es ∧ B (exec next s es)) := by
  have lost {s : σ} (h : B s) (es : List ε) : B (exec next s es) := by
    induction es generalizing s with
    | nil => exact h
    | cons e es ih => exact ih (stays h)
  induction es generalizing s with
  | nil => exact .inl ⟨trivial, start⟩
  | cons e es ih =>
      by_cases meets : Q s e
      · obtain ⟨along, reached⟩ | ⟨breaks, reached⟩ := ih (good start meets)
        · exact .inl ⟨⟨meets, along⟩, reached⟩
        · exact .inr ⟨fun along => breaks along.2, reached⟩
      · exact .inr ⟨fun along => meets along.1, lost (bad start meets) es⟩

/-- A run whose steps all meet the guard is a run of the guarded system. -/
theorem Reachable.exec_guard {init : σ → Prop} {next : σ → ε → σ} {ok : σ → ε → Prop} {s : σ}
    {es : List ε} (h : Reachable ((System.ofFn init next).guard ok) s)
    (along : Along ok next s es) :
    Reachable ((System.ofFn init next).guard ok) (Transition.exec next s es) := by
  induction es generalizing s with
  | nil => exact h
  | cons e es ih => exact ih (.step h ⟨along.1, rfl⟩) along.2

end Transition
