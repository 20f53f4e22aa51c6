import Mathlib.Data.List.TakeWhile

/-! # A text with its terminator, written over and over up to a length -/

namespace Repeated

variable {α : Type*}

/-- The first `n` elements of the text and its terminator, repeated. -/
def fill (n : ℕ) (stop : α) (s : List α) : List α :=
  (List.replicate n (s ++ [stop])).flatten.take n

theorem fill_succ (n : ℕ) (stop : α) (s : List α) :
    fill (n + 1) stop s =
      ((s ++ [stop]) ++ (List.replicate n (s ++ [stop])).flatten).take (n + 1) := by
  rw [fill, List.replicate_succ, List.flatten_cons]

/-- A text that is as long is cut. -/
theorem fill_of_le {n : ℕ} {s : List α} (stop : α) (long : n ≤ s.length) :
    fill n stop s = s.take n := by
  cases n with
  | zero => rfl
  | succ n =>
      rw [fill_succ, List.append_assoc, List.take_append_of_le_length long]

/-- A shorter text is followed by its terminator. -/
theorem fill_of_lt {n : ℕ} {s : List α} (stop : α) (short : s.length < n) :
    ∃ rest, fill n stop s = s ++ stop :: rest := by
  cases n with
  | zero => cases short
  | succ n =>
      obtain ⟨more, split⟩ := Nat.exists_eq_add_of_lt short
      refine ⟨((List.replicate n (s ++ [stop])).flatten).take more, ?_⟩
      have enough : n + 1 = (s ++ [stop]).length + more := by
        rw [List.length_append, List.length_singleton]
        omega
      rw [fill_succ, enough, List.take_length_add_append, List.append_assoc,
        List.singleton_append]

variable [DecidableEq α]

/-- The text is what stands before the first terminator. -/
theorem takeWhile_fill {stop : α} {s : List α} (plain : stop ∉ s) (n : ℕ) :
    (fill n stop s).takeWhile (· != stop) = s.take n := by
  have all : ∀ a ∈ s, (a != stop) = true := by
    intro a mem
    rw [bne_iff_ne]
    rintro rfl
    exact plain mem
  rcases Nat.lt_or_ge s.length n with short | long
  · obtain ⟨rest, eq⟩ := fill_of_lt stop short
    rw [eq, List.takeWhile_append_of_pos all, List.takeWhile_cons_of_neg (by simp),
      List.append_nil, List.take_of_length_le (Nat.le_of_lt short)]
  · rw [fill_of_le stop long, List.takeWhile_eq_self_iff]
    exact fun a mem => all a (List.mem_of_mem_take mem)

/-- Texts without the terminator that are filled to the same have the same beginnings. -/
theorem fill_eq_iff {n : ℕ} {stop : α} {s t : List α} (left : stop ∉ s) (right : stop ∉ t) :
    fill n stop s = fill n stop t ↔ s.take n = t.take n := by
  constructor
  · intro same
    rw [← takeWhile_fill left, same, takeWhile_fill right]
  · intro same
    rcases Nat.lt_or_ge s.length n with short | long
    · have whole : s = t.take n := by
        rw [← same, List.take_of_length_le (Nat.le_of_lt short)]
      have short' : t.length < n := by
        have lengths := congrArg List.length whole
        rw [List.length_take] at lengths
        omega
      rw [List.take_of_length_le (Nat.le_of_lt short')] at whole
      rw [whole]
    · have long' : n ≤ t.length := by
        have lengths := congrArg List.length same
        rw [List.length_take, List.length_take] at lengths
        omega
      rw [fill_of_le stop long, fill_of_le stop long', same]

end Repeated
