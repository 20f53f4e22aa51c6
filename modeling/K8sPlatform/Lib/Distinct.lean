import Mathlib.Data.List.Induction
import Mathlib.Data.List.Nodup
import Mathlib.Data.List.Pairwise

/-! # The distinct elements of a list, in the order of their first appearance -/

namespace Distinct

universe u v

variable {α : Type u} {κ : Type v} [DecidableEq κ]

/-- Elements are told apart by their keys only: the first one of each key is kept. -/
def distinctBy (key : α → κ) (xs : List α) : List α :=
  (xs.reverse.pwFilter fun a b => key a ≠ key b).reverse

variable {key : α → κ} {xs : List α} {a b : α}

theorem keys_nodup_distinctBy (key : α → κ) (xs : List α) :
    ((distinctBy key xs).map key).Nodup := by
  have apart := List.pairwise_pwFilter (R := fun a b => key a ≠ key b) xs.reverse
  rw [distinctBy, List.Nodup, List.pairwise_map, List.pairwise_reverse]
  exact apart.imp Ne.symm

theorem mem_of_mem_distinctBy (mem : a ∈ distinctBy key xs) : a ∈ xs :=
  List.mem_reverse.1 (List.pwFilter_subset _ (List.mem_reverse.1 mem))

/-- No key is left out. -/
theorem exists_mem_distinctBy (key : α → κ) (mem : a ∈ xs) :
    ∃ b ∈ distinctBy key xs, key b = key a := by
  by_contra none_
  have apart : ∀ b ∈ xs.reverse.pwFilter fun a b => key a ≠ key b, key a ≠ key b :=
    fun b memB same => none_ ⟨b, List.mem_reverse.2 memB, same.symm⟩
  have everywhere := (List.forall_mem_pwFilter (R := fun a b => key a ≠ key b)
    (fun differs => or_iff_not_imp_left.2 fun same => not_not.1 same ▸ differs) a _).1 apart
  exact everywhere a (List.mem_reverse.2 mem) rfl

theorem distinctBy_concat (key : α → κ) (xs : List α) (a : α) :
    distinctBy key (xs ++ [a]) =
      if key a ∈ xs.map key then distinctBy key xs else distinctBy key xs ++ [a] := by
  rw [distinctBy, List.reverse_append, List.reverse_singleton, List.singleton_append]
  split
  case isTrue seen =>
    obtain ⟨b, mem, same⟩ := List.mem_map.1 seen
    obtain ⟨c, kept, same'⟩ := exists_mem_distinctBy key mem
    rw [List.pwFilter_cons_of_neg, distinctBy]
    intro apart
    exact apart c (List.mem_reverse.1 kept) (same'.trans same).symm
  case isFalse new =>
    rw [List.pwFilter_cons_of_pos, List.reverse_cons, distinctBy]
    intro b kept same
    have mem : b ∈ xs := mem_of_mem_distinctBy (List.mem_reverse.2 kept)
    exact new (List.mem_map.2 ⟨b, mem, same.symm⟩)

variable [DecidableEq α]

/-- `ys` has each element of `xs` once, in the order in which they first appear in `xs`. -/
structure FirstAppearances (xs ys : List α) : Prop where
  once : ys.Nodup
  same : ∀ a, a ∈ ys ↔ a ∈ xs
  inOrder : ys.Pairwise fun a b => xs.idxOf a < xs.idxOf b

theorem inOrder_distinctBy (key : α → κ) (xs : List α) :
    (distinctBy key xs).Pairwise fun a b => xs.idxOf a < xs.idxOf b := by
  induction xs using List.reverseRecOn with
  | nil => exact List.Pairwise.nil
  | append_singleton xs a ih =>
      have kept : (distinctBy key xs).Pairwise fun b c =>
          (xs ++ [a]).idxOf b < (xs ++ [a]).idxOf c := by
        refine ih.imp_of_mem fun {b c} memB memC before => ?_
        rwa [List.idxOf_append_of_mem (mem_of_mem_distinctBy memB),
          List.idxOf_append_of_mem (mem_of_mem_distinctBy memC)]
      rw [distinctBy_concat]
      split
      case isTrue => exact kept
      case isFalse new =>
        refine List.pairwise_append.2 ⟨kept, List.pairwise_singleton _ _, ?_⟩
        intro b memB c memC
        obtain rfl := List.mem_singleton.1 memC
        have absent : c ∉ xs := fun mem => new (List.mem_map_of_mem mem)
        have mem : b ∈ xs := mem_of_mem_distinctBy memB
        rw [List.idxOf_append_of_mem mem, List.idxOf_append_of_notMem absent]
        exact Nat.lt_add_right _ (List.idxOf_lt_length_of_mem mem)

/-- Every element is kept just when the keys tell all elements apart. -/
theorem firstAppearances_distinctBy_iff :
    FirstAppearances xs (distinctBy key xs) ↔
      ∀ a ∈ xs, ∀ b ∈ xs, key a = key b → a = b := by
  constructor
  · intro kept a memA b memB same
    exact List.inj_on_of_nodup_map (keys_nodup_distinctBy key xs) ((kept.same a).2 memA)
      ((kept.same b).2 memB) same
  · intro apart
    refine ⟨List.Nodup.of_map key (keys_nodup_distinctBy key xs), ?_, inOrder_distinctBy key xs⟩
    intro a
    constructor
    · exact mem_of_mem_distinctBy
    · intro mem
      obtain ⟨b, kept, same⟩ := exists_mem_distinctBy key mem
      rwa [← apart b (mem_of_mem_distinctBy kept) a mem same]

end Distinct
