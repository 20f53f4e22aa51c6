import Mathlib.Data.List.Nodup

/-! # Maps that keep the order of their insertions -/

universe u v

/-- Each key has one entry. A new key comes last, and one that is set again keeps its place. -/
structure OrderedMap (α : Type u) (β : Type v) where
  entries : List (α × β)
  nodup : (entries.map Prod.fst).Nodup

namespace OrderedMap

variable {α : Type u} {β : Type v}

def empty : OrderedMap α β := ⟨[], List.nodup_nil⟩

theorem eq_of_mem {m : OrderedMap α β} {a : α} {b b' : β} (mem : (a, b) ∈ m.entries)
    (mem' : (a, b') ∈ m.entries) : b = b' :=
  (Prod.mk.inj (List.inj_on_of_nodup_map m.nodup mem mem' rfl)).2

theorem eq_of_entries {m m' : OrderedMap α β} (same : m.entries = m'.entries) : m = m' := by
  cases m
  cases same
  rfl

variable [DecidableEq α]

def get? (m : OrderedMap α β) (a : α) : Option β := m.entries.lookup a

def set (m : OrderedMap α β) (a : α) (b : β) : OrderedMap α β :=
  if present : a ∈ m.entries.map Prod.fst then
    { entries := m.entries.map fun e => if e.1 = a then (a, b) else e
      nodup := by
        have keys : (m.entries.map fun e => if e.1 = a then (a, b) else e).map Prod.fst =
            m.entries.map Prod.fst := by
          rw [List.map_map]
          apply List.map_congr_left
          intro e _
          by_cases same : e.1 = a <;> simp [same]
        rw [keys]
        exact m.nodup }
  else
    { entries := m.entries ++ [(a, b)]
      nodup := by
        rw [List.map_append]
        simpa using m.nodup.concat present }

def delete (m : OrderedMap α β) (a : α) : OrderedMap α β where
  entries := m.entries.filter fun e => e.1 ≠ a
  nodup := (List.filter_sublist.map Prod.fst).nodup m.nodup

variable {m : OrderedMap α β} {a c : α} {b d : β}

theorem get?_eq_some : m.get? a = some b ↔ (a, b) ∈ m.entries := by
  constructor
  · intro found
    obtain ⟨before, after, split, -⟩ := List.lookup_eq_some_iff.1 found
    rw [split]
    exact List.mem_append_right _ List.mem_cons_self
  · intro mem
    cases found : m.get? a with
    | none =>
        have absent := List.lookup_eq_none_iff.1 found _ mem
        simp at absent
    | some b' =>
        obtain ⟨before, after, split, -⟩ := List.lookup_eq_some_iff.1 found
        have mem' : (a, b') ∈ m.entries := by
          rw [split]
          exact List.mem_append_right _ List.mem_cons_self
        rw [eq_of_mem mem mem']

theorem mem_set : (c, d) ∈ (m.set a b).entries ↔
    c = a ∧ d = b ∨ c ≠ a ∧ (c, d) ∈ m.entries := by
  unfold set
  split
  case isTrue present =>
    obtain ⟨⟨a', b'⟩, mem, rfl⟩ := List.mem_map.1 present
    simp only [List.mem_map]
    constructor
    · rintro ⟨e, memE, eq⟩
      split_ifs at eq with same
      · obtain ⟨rfl, rfl⟩ := Prod.mk.inj eq
        exact .inl ⟨rfl, rfl⟩
      · subst eq
        exact .inr ⟨same, memE⟩
    · rintro (⟨rfl, rfl⟩ | ⟨other, memC⟩)
      · exact ⟨_, mem, if_pos rfl⟩
      · exact ⟨_, memC, if_neg other⟩
  case isFalse absent =>
    have fresh : (c, d) ∈ m.entries → c ≠ a := by
      rintro mem rfl
      exact absent (List.mem_map_of_mem mem)
    simp only [List.mem_append, List.mem_singleton, Prod.mk.injEq]
    constructor
    · rintro (mem | new)
      · exact .inr ⟨fresh mem, mem⟩
      · exact .inl new
    · rintro (new | ⟨-, mem⟩)
      · exact .inr new
      · exact .inl mem

theorem get?_set : (m.set a b).get? c = if c = a then some b else m.get? c := by
  apply Option.ext
  intro d
  rw [get?_eq_some, mem_set]
  split_ifs with same
  · simp [same, eq_comm]
  · simp [same, get?_eq_some]

theorem get?_eq_none : m.get? a = none ↔ a ∉ m.entries.map Prod.fst := by
  rw [← not_iff_not, not_not, ← ne_eq, Option.ne_none_iff_exists', List.mem_map]
  constructor
  · rintro ⟨b, found⟩
    exact ⟨(a, b), get?_eq_some.1 found, rfl⟩
  · rintro ⟨⟨a, b⟩, mem, rfl⟩
    exact ⟨b, get?_eq_some.2 mem⟩

/-- A new key comes last. -/
theorem entries_set (absent : m.get? a = none) : (m.set a b).entries = m.entries ++ [(a, b)] := by
  rw [set, dif_neg (get?_eq_none.1 absent)]

/-- A key that is present has one entry. -/
theorem length_filter (present : m.get? a = some b) :
    (m.entries.filter fun e => e.1 = a).length = 1 := by
  have keys : (m.entries.filter fun e => e.1 = a).length = (m.entries.map Prod.fst).count a := by
    rw [← List.countP_eq_length_filter, List.count, List.countP_map]
    exact List.countP_congr fun e _ => by simp
  rw [keys]
  exact List.count_eq_one_of_mem m.nodup (List.mem_map_of_mem (get?_eq_some.1 present))

/-- What was not there before it was set is gone without a trace. -/
theorem delete_set (absent : m.get? a = none) : (m.set a b).delete a = m := by
  apply eq_of_entries
  change ((m.set a b).entries.filter fun e => e.1 ≠ a) = m.entries
  rw [entries_set absent, List.filter_append, List.filter_eq_self.2, List.filter_eq_nil_iff.2,
    List.append_nil]
  · simp
  · intro e mem
    rw [decide_eq_true_eq]
    rintro rfl
    exact get?_eq_none.1 absent (List.mem_map_of_mem mem)

theorem get?_delete : (m.delete a).get? c = if c = a then none else m.get? c := by
  apply Option.ext
  intro d
  rw [get?_eq_some, delete, List.mem_filter]
  split_ifs with same
  · simp [same]
  · simp [same, get?_eq_some]

end OrderedMap
