import Mathlib.Data.List.Induction
import Mathlib.Order.Lattice
import K8sPlatform.Lib.OrderedMap

/-! # The greatest of each group -/

universe u v w z

namespace Greatest

variable {α : Type u} {κ : Type v} {γ : Type w} {ρ : Type z} {σ : Type*}

/-- One element of each group of `as`, with the greatest rank of its group. -/
structure Selects [LE ρ] (key : α → κ) (rank : α → ρ) (as chosen : List α) : Prop where
  single : (chosen.map key).Nodup
  drawn : ∀ b ∈ chosen, b ∈ as
  covers : ∀ a ∈ as, ∃ b ∈ chosen, key b = key a ∧ ∀ c ∈ as, key c = key a → rank c ≤ rank b

theorem Selects.perm [LE ρ] {key : α → κ} {rank : α → ρ} {as chosen chosen' : List α}
    (selects : Selects key rank as chosen) (perm : chosen'.Perm chosen) :
    Selects key rank as chosen' where
  single := (perm.map key).nodup_iff.2 selects.single
  drawn b mem := selects.drawn b (perm.mem_iff.1 mem)
  covers a mem := by
    obtain ⟨b, memB, rest⟩ := selects.covers a mem
    exact ⟨b, perm.mem_iff.2 memB, rest⟩

theorem Selects.eq_of_key [LE ρ] {key : α → κ} {rank : α → ρ} {as chosen : List α}
    (selects : Selects key rank as chosen) {b c : α} (memB : b ∈ chosen) (memC : c ∈ chosen)
    (same : key b = key c) : b = c :=
  List.inj_on_of_nodup_map selects.single memB memC same

/-- Each element is kept under its key, and none of its group was greater. -/
structure Holds [LE ρ] (key : α → κ) (rank : α → ρ) (as : List α)
    (m : OrderedMap κ α) : Prop where
  keyed : ∀ e ∈ m.entries, e.1 = key e.2
  drawn : ∀ e ∈ m.entries, e.2 ∈ as
  covers : ∀ a ∈ as, ∃ b, (key a, b) ∈ m.entries ∧ rank a ≤ rank b

theorem holds_empty [LE ρ] {key : α → κ} {rank : α → ρ} : Holds key rank [] .empty where
  keyed _ mem := absurd mem List.not_mem_nil
  drawn _ mem := absurd mem List.not_mem_nil
  covers _ mem := absurd mem List.not_mem_nil

theorem Holds.selects [LE ρ] {key : α → κ} {rank : α → ρ} {as : List α} {m : OrderedMap κ α}
    (h : Holds key rank as m) :
    Selects key rank as (m.entries.map Prod.snd) where
  single := by
    have keys : (m.entries.map Prod.snd).map key = m.entries.map Prod.fst := by
      rw [List.map_map]
      exact List.map_congr_left fun e mem => (h.keyed e mem).symm
    rw [keys]
    exact m.nodup
  drawn := by
    intro b mem
    obtain ⟨e, memE, rfl⟩ := List.mem_map.1 mem
    exact h.drawn e memE
  covers := by
    intro a mem
    obtain ⟨b, memB, -⟩ := h.covers a mem
    refine ⟨b, List.mem_map_of_mem memB, (h.keyed _ memB).symm, fun c memC same => ?_⟩
    obtain ⟨b', memB', le⟩ := h.covers c memC
    rw [same] at memB'
    rwa [OrderedMap.eq_of_mem memB memB']

section Collect

variable [DecidableEq κ] [LinearOrder ρ] (key : α → κ) (rank : α → ρ)

/-- An element replaces the one of its group when its rank is greater. -/
def collect (m : OrderedMap κ α) (a : α) : OrderedMap κ α :=
  match m.get? (key a) with
  | some old => if rank a ≤ rank old then m else m.set (key a) a
  | none => m.set (key a) a

def ofList (as : List α) : OrderedMap κ α := as.foldl (collect key rank) .empty

variable {key rank} {m : OrderedMap κ α} {a : α}

/-- Setting an element that is no smaller than the one of its group. -/
theorem Holds.set {as : List α} (h : Holds key rank as m)
    (greater : ∀ old, m.get? (key a) = some old → rank old ≤ rank a) :
    Holds key rank (as ++ [a]) (m.set (key a) a) where
  keyed := by
    rintro ⟨c, d⟩ mem
    rcases OrderedMap.mem_set.1 mem with ⟨rfl, rfl⟩ | ⟨-, old⟩
    · rfl
    · exact h.keyed _ old
  drawn := by
    rintro ⟨c, d⟩ mem
    rcases OrderedMap.mem_set.1 mem with ⟨rfl, rfl⟩ | ⟨-, old⟩
    · exact List.mem_concat_self
    · exact List.mem_append_left _ (h.drawn _ old)
  covers := by
    intro b mem
    have new : (key a, a) ∈ (m.set (key a) a).entries := OrderedMap.mem_set.2 (.inl ⟨rfl, rfl⟩)
    rcases List.mem_append.1 mem with before | last
    · obtain ⟨old, memOld, le⟩ := h.covers b before
      by_cases same : key b = key a
      · rw [same] at memOld ⊢
        exact ⟨a, new, le_trans le (greater old (OrderedMap.get?_eq_some.2 memOld))⟩
      · exact ⟨old, OrderedMap.mem_set.2 (.inr ⟨same, memOld⟩), le⟩
    · obtain rfl := List.mem_singleton.1 last
      exact ⟨b, new, le_rfl⟩

/-- Passing over an element that is no greater than the one of its group. -/
theorem Holds.skip {as : List α} (h : Holds key rank as m) {old : α}
    (found : m.get? (key a) = some old) (le : rank a ≤ rank old) :
    Holds key rank (as ++ [a]) m where
  keyed := h.keyed
  drawn e mem := List.mem_append_left _ (h.drawn e mem)
  covers := by
    intro b mem
    rcases List.mem_append.1 mem with before | last
    · exact h.covers b before
    · obtain rfl := List.mem_singleton.1 last
      exact ⟨old, OrderedMap.get?_eq_some.1 found, le⟩

theorem Holds.collect {as : List α} (h : Holds key rank as m) (a : α) :
    Holds key rank (as ++ [a]) (collect key rank m a) := by
  unfold Greatest.collect
  cases found : m.get? (key a) with
  | none => exact h.set fun old present => by simp [found] at present
  | some old =>
      dsimp only
      split
      case isTrue le => exact h.skip found le
      case isFalse greater =>
        apply h.set
        intro old' present
        obtain rfl := Option.some.inj (found.symm.trans present)
        exact le_of_not_ge greater

theorem holds_ofList (as : List α) : Holds key rank as (ofList key rank as) := by
  induction as using List.reverseRecOn with
  | nil => exact holds_empty
  | append_singleton as a ih =>
      rw [ofList, List.foldl_append]
      exact ih.collect a

theorem selects_ofList (as : List α) :
    Selects key rank as ((ofList key rank as).entries.map Prod.snd) :=
  (holds_ofList as).selects

end Collect

/-- A selection by coarser groups, with other ranks, is one by the groups themselves when no two
of them were joined, and the greatest by the other rank is the greatest. -/
theorem Selects.regroup_iff [PartialOrder σ] [PartialOrder ρ] {key : α → κ} {rank : α → ρ}
    {key' : α → γ} {rank' : α → σ} {as chosen : List α} (selects : Selects key' rank' as chosen)
    (coarser : ∀ a b, key a = key b → key' a = key' b)
    (ranked : ∀ a b, rank' a = rank' b → rank a = rank b) :
    Selects key rank as chosen ↔
      (∀ a ∈ as, ∀ b ∈ as, key' a = key' b → key a = key b) ∧
        ∀ a ∈ as, (∀ b ∈ as, key' b = key' a → rank' b ≤ rank' a) →
          ∀ b ∈ as, key b = key a → rank b ≤ rank a := by
  constructor
  · intro finer
    constructor
    · intro a memA b memB same
      obtain ⟨c, memC, keyC, -⟩ := finer.covers a memA
      obtain ⟨d, memD, keyD, -⟩ := finer.covers b memB
      have joined : key' c = key' d := by
        rw [coarser _ _ keyC, coarser _ _ keyD, same]
      obtain rfl := selects.eq_of_key memC memD joined
      rw [← keyC, ← keyD]
    · intro a memA greatest b memB same
      obtain ⟨c, memC, keyC, greatestC⟩ := selects.covers a memA
      obtain ⟨d, memD, keyD, greatestD⟩ := finer.covers a memA
      obtain rfl : c = d :=
        selects.eq_of_key memC memD (keyC.trans (coarser _ _ keyD).symm)
      have equal : rank' a = rank' c :=
        le_antisymm (greatestC a memA rfl) (greatest c (selects.drawn c memC) keyC)
      rw [ranked _ _ equal]
      exact greatestD b memB same
  · rintro ⟨apart, agrees⟩
    refine ⟨?_, selects.drawn, ?_⟩
    · apply (List.nodup_map_iff_inj_on (List.Nodup.of_map _ selects.single)).2
      exact fun b memB c memC same => selects.eq_of_key memB memC (coarser _ _ same)
    · intro a memA
      obtain ⟨b, memB, keyB, greatest⟩ := selects.covers a memA
      have same : key b = key a := apart b (selects.drawn b memB) a memA keyB
      refine ⟨b, memB, same, fun c memC keyC => ?_⟩
      apply agrees b (selects.drawn b memB) _ c memC (keyC.trans same.symm)
      exact fun d memD keyD => greatest d memD (keyD.trans keyB)

end Greatest
