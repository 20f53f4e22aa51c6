import Mathlib.Data.List.Perm.Basic

/-! # Pages of a list -/

universe u

namespace Paging

variable {α : Type u}

/-- The pages are numbered from 1. -/
def page (l : List α) (size n : Nat) : List α := (l.drop ((n - 1) * size)).take size

/-- The number of pages, of which the last one may be short. -/
def count (total size : Nat) : Nat := (total + size - 1) / size

theorem le_count_mul {size : Nat} (pos : 0 < size) (total : Nat) :
    total ≤ count total size * size := by
  have fits : total + size - 1 < (count total size + 1) * size :=
    Nat.lt_mul_of_div_lt (Nat.lt_succ_self _) pos
  rw [Nat.add_mul] at fits
  omega

theorem count_mul_le (total size : Nat) : count total size * size ≤ total + size := by
  have whole : count total size * size ≤ total + size - 1 := Nat.div_mul_le_self ..
  omega

theorem count_le_one {total size : Nat} (pos : 0 < size) (fits : total ≤ size) :
    count total size ≤ 1 := by
  refine Nat.lt_succ_iff.1 (Nat.div_lt_of_lt_mul ?_)
  omega

theorem two_le_count {total size : Nat} (pos : 0 < size) (long : size < total) :
    2 ≤ count total size := by
  apply (Nat.le_div_iff_mul_le pos).2
  omega

theorem flatMap_page_take (l : List α) (size k : Nat) :
    (List.range' 1 k).flatMap (page l size) = l.take (k * size) := by
  induction k with
  | zero => simp
  | succ k ih =>
      rw [List.range'_1_concat, List.flatMap_append, ih, List.flatMap_singleton, page,
        Nat.add_sub_cancel_left, Nat.succ_mul, List.take_add]

/-- The pages of a list, one behind the other, are the list. -/
theorem flatMap_page {size : Nat} (pos : 0 < size) (l : List α) :
    (List.range' 1 (count l.length size)).flatMap (page l size) = l := by
  rw [flatMap_page_take, List.take_of_length_le (le_count_mul pos l.length)]

/-- When the second page is one of another order, it may repeat what stands on the first. -/
theorem exists_repeat {size : Nat} {l : List α} (pos : 0 < size) (long : size < l.length) :
    ∃ l' : List α, l'.Perm l ∧ ∃ a, a ∈ page l size 1 ∧ a ∈ page l' size 2 := by
  cases l with
  | nil => exact absurd long (Nat.not_lt_zero size)
  | cons a l =>
      refine ⟨l.take size ++ a :: l.drop size, ?_, a, ?_, ?_⟩
      · have whole : (l.take size ++ l.drop size) = l := List.take_append_drop size l
        exact List.perm_middle.trans (.of_eq (congrArg (a :: ·) whole))
      · cases size with
        | zero => exact absurd pos (Nat.lt_irrefl 0)
        | succ size => simp [page]
      · have full : (l.take size).length = size := by
          rw [List.length_take]
          rw [List.length_cons] at long
          omega
        cases size with
        | zero => exact absurd pos (Nat.lt_irrefl 0)
        | succ size => simp [page, full]

/-- An order of the elements that pass a filter comes from an order of all elements. -/
theorem exists_perm_filter {p : α → Bool} {l l' : List α} (perm : l'.Perm (l.filter p)) :
    ∃ m : List α, m.Perm l ∧ m.filter p = l' := by
  refine ⟨l' ++ l.filter fun a => !p a, ?_, ?_⟩
  · exact (perm.append_right _).trans (List.filter_append_perm p l)
  · have passes : l'.filter p = l' :=
      List.filter_eq_self.2 fun a mem => (List.mem_filter.1 (perm.mem_iff.1 mem)).2
    have fails : (l.filter fun a => !p a).filter p = [] := by
      rw [List.filter_filter, List.filter_eq_nil_iff]
      simp
    rw [List.filter_append, passes, fails, List.append_nil]

/-- What stands from a page on stands on that page, or the page is full and it stands behind. -/
theorem page_or_later {l : List α} {size n : Nat} {a : α} (ahead : a ∈ l.drop (n * size)) :
    a ∈ page l size (n + 1) ∨
      a ∈ l.drop ((n + 1) * size) ∧ (page l size (n + 1)).length = size := by
  have parts : page l size (n + 1) ++ l.drop ((n + 1) * size) = l.drop (n * size) := by
    rw [page, Nat.add_sub_cancel, Nat.succ_mul, ← List.drop_drop]
    exact List.take_append_drop size _
  rw [← parts] at ahead
  rcases List.mem_append.1 ahead with here | later
  · exact .inl here
  · have some_ := List.length_pos_of_mem later
    rw [List.length_drop, Nat.succ_mul] at some_
    refine .inr ⟨later, ?_⟩
    rw [page, Nat.add_sub_cancel, List.length_take, List.length_drop]
    omega

end Paging
