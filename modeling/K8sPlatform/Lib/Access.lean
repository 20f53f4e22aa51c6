import Mathlib.Data.Set.Prod
import Mathlib.Data.Set.Lattice

/-! # Bindings that pair a set of permissions with a region -/

namespace Access

universe u v w

variable {β : Type u} {P : Type v} {R : Type w}

/-- What a set of bindings authorises when each is read on its own. -/
def perBinding (bs : Set β) (perms : β → Set P) (region : β → Set R) : Set (P × R) :=
  ⋃ b ∈ bs, perms b ×ˢ region b

/-- What it authorises once permissions and regions are collected separately. -/
def flattened (bs : Set β) (perms : β → Set P) (region : β → Set R) : Set (P × R) :=
  (⋃ b ∈ bs, perms b) ×ˢ (⋃ b ∈ bs, region b)

variable {bs : Set β} {perms : β → Set P} {region : β → Set R} {p : P} {r : R}

theorem mem_perBinding :
    (p, r) ∈ perBinding bs perms region ↔ ∃ b ∈ bs, p ∈ perms b ∧ r ∈ region b := by
  simp [perBinding, and_left_comm]

theorem mem_flattened :
    (p, r) ∈ flattened bs perms region ↔
      (∃ b ∈ bs, p ∈ perms b) ∧ ∃ b ∈ bs, r ∈ region b := by
  simp [flattened]

/-- Flattening is faithful exactly when each pairing of one binding's permission with
another's region is already authorised by a single binding. -/
theorem flattened_subset_perBinding_iff :
    flattened bs perms region ⊆ perBinding bs perms region ↔
      ∀ b ∈ bs, ∀ b' ∈ bs, ∀ p ∈ perms b, ∀ r ∈ region b',
        ∃ c ∈ bs, p ∈ perms c ∧ r ∈ region c := by
  constructor
  · intro sub b hb b' hb' p hp r hr
    exact mem_perBinding.1 (sub (mem_flattened.2 ⟨⟨b, hb, hp⟩, b', hb', hr⟩))
  · rintro rect ⟨p, r⟩ h
    obtain ⟨⟨b, hb, hp⟩, b', hb', hr⟩ := mem_flattened.1 h
    exact mem_perBinding.2 (rect b hb b' hb' p hp r hr)

end Access
