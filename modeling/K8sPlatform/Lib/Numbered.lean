import Mathlib.Data.List.Pairwise

/-! # Numbered rows

A new row takes the number after the largest one among the rows that are there. -/

namespace Numbered

universe u

variable {α : Type u} {num : α → Int} {rows : List α}

/-- The number for a new row; the numbers start at one. -/
def next (num : α → Int) (rows : List α) : Int := (rows.map num).foldl max 0 + 1

/-- The largest of the numbers and zero. -/
theorem foldl_max_zero (ns : List Int) :
    ns.foldl max 0 ∈ 0 :: ns ∧ ∀ n ∈ 0 :: ns, n ≤ ns.foldl max 0 :=
  List.max?_eq_some_iff.1 List.max?_cons'

theorem lt_next {x : α} (mem : x ∈ rows) : num x < next num rows := by
  have there : num x ∈ 0 :: rows.map num := List.mem_cons_of_mem 0 (List.mem_map_of_mem mem)
  have bound := (foldl_max_zero (rows.map num)).2 (num x) there
  unfold next
  omega

/-- A positive number below the next one is reached by a row. -/
theorem exists_ge_of_lt_next {n : Int} (pos : 0 < n) (below : n < next num rows) :
    ∃ x ∈ rows, n ≤ num x := by
  unfold next at below
  obtain bound | mem := List.mem_cons.1 (foldl_max_zero (rows.map num)).1
  · omega
  · obtain ⟨x, there, largest⟩ := List.mem_map.1 mem
    exact ⟨x, there, by omega⟩

/-- The numbers increase from row to row. -/
def Increasing (num : α → Int) (rows : List α) : Prop := rows.Pairwise fun x y => num x < num y

/-- Increasing numbers name their rows. -/
theorem Increasing.unique (h : Increasing num rows) {x y : α} (left : x ∈ rows) (right : y ∈ rows)
    (same : num x = num y) : x = y := by
  have forward : rows.Pairwise fun x y => num x = num y → x = y := h.imp fun less same => by omega
  have backward : rows.Pairwise (flip fun x y => num x = num y → x = y) :=
    h.imp fun less same => by omega
  exact List.Pairwise.forall_of_forall_of_flip (fun _ _ _ => rfl) forward backward left right same

/-- The rows have the numbers `1, 2, …` in their order. -/
def Counted (num : α → Int) (rows : List α) : Prop :=
  ∀ i (bound : i < rows.length), num rows[i] = i + 1

theorem counted_nil : Counted num ([] : List α) := fun _ bound => absurd bound (Nat.not_lt_zero _)

theorem Counted.concat {x : α} (h : Counted num rows) (number : num x = rows.length + 1) :
    Counted num (rows ++ [x]) := by
  intro i bound
  rw [List.getElem_append]
  split
  · rename_i earlier
    exact h i earlier
  · rename_i last
    have index : i = rows.length := by
      rw [List.length_append, List.length_singleton] at bound
      omega
    simp only [List.getElem_singleton]
    rw [number, index]

theorem Counted.increasing (h : Counted num rows) : Increasing num rows := by
  apply List.pairwise_iff_getElem.2
  intro i j first second less
  rw [h i first, h j second]
  omega

/-- The next number is that of the last row and one, as long as the last row is there. -/
theorem Counted.next_drop (h : Counted num rows) {m : Nat} (some_ : m < rows.length ∨ rows = []) :
    next num (rows.drop m) = rows.length + 1 := by
  obtain more | rfl := some_
  · have last : rows[rows.length - 1] ∈ rows.drop m := by
      refine List.mem_iff_getElem.2 ⟨rows.length - 1 - m, ?_, ?_⟩
      · rw [List.length_drop]
        omega
      · rw [List.getElem_drop]
        congr 1
        omega
    have reached : num rows[rows.length - 1] < next num (rows.drop m) := lt_next last
    rw [h] at reached
    have bounded : ∀ n, 0 < n → n < next num (rows.drop m) → n ≤ rows.length := by
      intro n pos below
      obtain ⟨x, mem, above⟩ := exists_ge_of_lt_next pos below
      obtain ⟨i, bound, rfl⟩ := List.mem_iff_getElem.1 (List.mem_of_mem_drop mem)
      rw [h] at above
      omega
    have largest := bounded (next num (rows.drop m) - 1)
    omega
  · simp [next]

/-- The rows from an index on, told by a test that says which rows these are. -/
theorem filter_eq_drop {p : α → Bool} {m : Nat}
    (tells : ∀ i (bound : i < rows.length), p rows[i] = decide (m ≤ i)) :
    rows.filter p = rows.drop m := by
  induction rows generalizing m with
  | nil => simp
  | cons r rows ih =>
      have first : p r = decide (m ≤ 0) := tells 0 (Nat.succ_pos _)
      cases m with
      | zero =>
          have rest := ih (m := 0) fun i bound => by
            simpa using tells (i + 1) (Nat.succ_lt_succ bound)
          rw [List.filter_cons_of_pos (by simp [first]), rest]
          rfl
      | succ m =>
          have rest := ih (m := m) fun i bound => by
            simpa using tells (i + 1) (Nat.succ_lt_succ bound)
          rw [List.filter_cons_of_neg (by simp [first]), rest]
          rfl

end Numbered
