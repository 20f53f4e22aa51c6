import Mathlib.Data.List.Basic

/-! # Left joins, updates and distinct rows of tables held as lists of rows -/

namespace Relational

universe u v

variable {α : Type u} {β : Type v}

/-- Each left row with its partners, or with none when it has no partner. -/
def leftJoin (on : α → β → Bool) (xs : List α) (ys : List β) : List (α × Option β) :=
  xs.flatMap fun x =>
    match ys.filter (on x) with
    | [] => [(x, none)]
    | partners => partners.map fun y => (x, some y)

variable {on : α → β → Bool} {xs : List α} {ys : List β} {x : α} {y : β}

theorem mem_leftJoin_some :
    (x, some y) ∈ leftJoin on xs ys ↔ x ∈ xs ∧ y ∈ ys ∧ on x y = true := by
  simp only [leftJoin, List.mem_flatMap]
  constructor
  · rintro ⟨x', mem, h⟩
    split at h
    · simp at h
    · obtain ⟨y', my, eq⟩ := List.mem_map.1 h
      obtain ⟨rfl, rfl⟩ : x' = x ∧ y' = y := by simpa using eq
      exact ⟨mem, List.mem_filter.1 my⟩
  · rintro ⟨mem, my⟩
    have partner := List.mem_filter.2 my
    refine ⟨x, mem, ?_⟩
    split
    · rename_i none_; simp [none_] at partner
    · exact List.mem_map.2 ⟨y, partner, rfl⟩

theorem mem_leftJoin_none :
    (x, none) ∈ leftJoin on xs ys ↔ x ∈ xs ∧ ∀ y ∈ ys, on x y = false := by
  simp only [leftJoin, List.mem_flatMap]
  constructor
  · rintro ⟨x', mem, h⟩
    split at h
    · rename_i none_
      obtain rfl : x' = x := by simpa [eq_comm] using h
      exact ⟨mem, by simpa using none_⟩
    · simp at h
  · rintro ⟨mem, none_⟩
    refine ⟨x, mem, ?_⟩
    rw [List.filter_eq_nil_iff.2 (by simpa using none_)]
    simp

/-- Every left row survives. -/
theorem exists_mem_leftJoin (mem : x ∈ xs) : ∃ o, (x, o) ∈ leftJoin on xs ys := by
  by_cases partner : ∃ y ∈ ys, on x y = true
  · obtain ⟨y, my, h⟩ := partner
    exact ⟨some y, mem_leftJoin_some.2 ⟨mem, my, h⟩⟩
  · exact ⟨none, mem_leftJoin_none.2 ⟨mem, by simpa using partner⟩⟩

theorem mem_of_mem_leftJoin {o : Option β} (h : (x, o) ∈ leftJoin on xs ys) : x ∈ xs := by
  cases o with
  | none => exact (mem_leftJoin_none.1 h).1
  | some y => exact (mem_leftJoin_some.1 h).1

/-- Left rows are joined one by one. -/
theorem leftJoin_flatMap {γ : Type*} (f : γ → List α) (zs : List γ) :
    leftJoin on (zs.flatMap f) ys = zs.flatMap fun z => leftJoin on (f z) ys := by
  simp only [leftJoin, List.flatMap_assoc]

/-- Only the partners of the left rows matter. -/
theorem leftJoin_congr {ys' : List β} (same : ∀ x ∈ xs, ys.filter (on x) = ys'.filter (on x)) :
    leftJoin on xs ys = leftJoin on xs ys' := by
  apply List.flatMap_congr
  intro x mem
  rw [same x mem]

/-- An update of left rows that keeps their partners goes through the join. -/
theorem leftJoin_map {update : α → α} (keeps : ∀ x y, on (update x) y = on x y) :
    leftJoin on (xs.map update) ys = (leftJoin on xs ys).map fun j => (update j.1, j.2) := by
  simp only [leftJoin, List.flatMap_map, List.map_flatMap]
  congr 1
  funext x
  rw [show on (update x) = on x from funext (keeps x)]
  split <;> simp [Function.comp_def]

/-- An update that leaves the selection of rows alone updates the selected rows. -/
theorem filter_map_update {p : α → Bool} {update : α → α} {rows : List α}
    (keeps : ∀ x, p (update x) = p x) :
    (rows.map update).filter p = (rows.filter p).map update := by
  have selected : (fun x => p (update x)) = p := funext keeps
  rw [List.filter_map, Function.comp_def, selected]

/-- Updates of other rows do not show in a selection. -/
theorem filter_map_other {p : α → Bool} {update : α → α} {rows : List α}
    (keeps : ∀ x, p (update x) = p x) (same : ∀ x, p x = true → update x = x) :
    (rows.map update).filter p = rows.filter p := by
  rw [filter_map_update keeps]
  refine (List.map_congr_left fun x mem => ?_).trans (List.map_id' _)
  exact same x (List.mem_filter.1 mem).2

theorem nodup_eraseDups [BEq α] [LawfulBEq α] (xs : List α) : xs.eraseDups.Nodup := by
  induction hn : xs.length using Nat.strongRecOn generalizing xs with
  | ind n ih =>
      cases xs with
      | nil => simp
      | cons x rest =>
          rw [List.eraseDups_cons, List.nodup_cons]
          constructor
          · simp
          · have shorter := List.length_filter_le (fun y => !y == x) rest
            rw [List.length_cons] at hn
            exact ih _ (by omega) _ rfl

end Relational
