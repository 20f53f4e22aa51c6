import Mathlib.Logic.Function.Basic

/-! # Copies of values, beside the source that gives the values

`load` is what the source gives for a key now, `copies` what is kept of it, and `pending` says for
which keys a removal is still to come. -/

namespace Copies

universe u v

variable {κ : Type u} {ν : Type v}

/-- A copy that is not what the source gives is still to be removed. -/
def Covered (load : κ → ν) (copies : κ → Option ν) (pending : κ → Prop) : Prop :=
  ∀ k v, copies k = some v → v = load k ∨ pending k

/-- Every copy is what the source gives. -/
def Current (load : κ → ν) (copies : κ → Option ν) : Prop :=
  ∀ k v, copies k = some v → v = load k

variable {load load' : κ → ν} {copies copies' : κ → Option ν} {pending pending' : κ → Prop}

theorem Current.covered (h : Current load copies) : Covered load copies pending :=
  fun k v kept => .inl (h k v kept)

theorem Covered.current (h : Covered load copies pending) (settled : ∀ k, ¬pending k) :
    Current load copies := fun k v kept => (h k v kept).resolve_right (settled k)

theorem current_iff_covered : Current load copies ↔ Covered load copies fun _ => False :=
  ⟨Current.covered, fun h => h.current fun _ => id⟩

/-- Copies may vanish, and removals may be added. -/
theorem Covered.mono (h : Covered load copies pending)
    (fewer : ∀ k v, copies' k = some v → copies k = some v)
    (more : ∀ k v, copies' k = some v → pending k → pending' k) :
    Covered load copies' pending' := by
  intro k v kept
  obtain same | later := h k v (fewer k v kept)
  · exact .inl same
  · exact .inr (more k v kept later)

/-- Removing what is still to be removed leaves current copies just when the copies are covered. -/
theorem current_drop_iff {dropped : κ → Prop} [DecidablePred dropped] :
    Current load (fun k => if dropped k then none else copies k) ↔
      Covered load copies dropped := by
  constructor
  · intro current k v kept
    by_cases later : dropped k
    · exact .inr later
    · exact .inl (current k v ((if_neg later).trans kept))
  · intro covered k v kept
    dsimp only at kept
    split at kept
    · cases kept
    · rename_i stays
      exact (covered k v kept).resolve_right stays

/-- After a change of the source the copies are covered when those are for which the source gives
something else and no removal is to come. -/
theorem covered_change_iff (missed : κ → Prop) (h : Covered load copies pending)
    (untouched : ∀ k v, copies k = some v → ¬missed k →
      (load' k = load k ∧ (pending k → pending' k)) ∨ pending' k) :
    Covered load' copies pending' ↔
      ∀ k v, copies k = some v → missed k → v = load' k ∨ pending' k := by
  constructor
  · exact fun covered k v kept _ => covered k v kept
  · intro reached k v kept
    by_cases outside : missed k
    · exact reached k v kept outside
    · obtain ⟨same, still⟩ | later := untouched k v kept outside
      · rw [same]
        exact (h k v kept).imp_right still
      · exact .inr later

variable [DecidableEq κ]

/-- A copy that is put down is covered when it is current or still to be removed. -/
theorem covered_put_iff (h : Covered load copies pending) (k : κ) (v : ν) :
    Covered load (Function.update copies k (some v)) pending ↔ v = load k ∨ pending k := by
  constructor
  · exact fun covered => covered k v (Function.update_self _ _ _)
  · intro good k' v' kept
    by_cases same : k' = k
    · subst same
      rw [Function.update_self] at kept
      obtain rfl := Option.some.inj kept
      exact good
    · rw [Function.update_of_ne same] at kept
      exact h k' v' kept

/-- The removal of a copy takes it off the removals to come. -/
theorem Covered.remove {k : κ} (h : Covered load copies pending)
    (rest : ∀ k', k' ≠ k → pending k' → pending' k') :
    Covered load (Function.update copies k none) pending' := by
  have other {k' : κ} {v : ν} (kept : Function.update copies k none k' = some v) : k' ≠ k := by
    rintro rfl
    rw [Function.update_self] at kept
    cases kept
  refine h.mono (fun k' v kept => ?_) fun k' v kept later => rest k' (other kept) later
  rwa [Function.update_of_ne (other kept)] at kept

/-! ## Versions

`version` counts the changes of what the source gives for one key, and `kept` are the versions of
which there are copies. -/

section Versions

variable {version version' : Nat} {kept kept' : Nat → Prop} {v : Nat}

/-- Neither the source nor a copy is from before `v`. -/
def Since (version : Nat) (kept : Nat → Prop) (v : Nat) : Prop :=
  v ≤ version ∧ ∀ n, kept n → v ≤ n

/-- A copy is made of the source's version, and the version only grows. -/
theorem Since.next (h : Since version kept v) (grows : version ≤ version')
    (made : ∀ n, kept' n → kept n ∨ n = version) : Since version' kept' v := by
  refine ⟨Nat.le_trans h.1 grows, fun n there => ?_⟩
  rcases made n there with before | rfl
  · exact h.2 n before
  · exact h.1

theorem since_of_none (le : v ≤ version) (none_ : ∀ n, ¬kept n) : Since version kept v :=
  ⟨le, fun n there => absurd there (none_ n)⟩

/-- No copy is from after the source. -/
def Bounded (version : Nat) (kept : Nat → Prop) : Prop := ∀ n, kept n → n ≤ version

theorem Bounded.next (h : Bounded version kept) (grows : version ≤ version')
    (made : ∀ n, kept' n → kept n ∨ n = version) : Bounded version' kept' := by
  intro n there
  rcases made n there with before | rfl
  · exact Nat.le_trans (h n before) grows
  · exact grows

end Versions

end Copies
