import Mathlib.Data.List.DropRight
import K8sPlatform.Version.Operations
import K8sPlatform.Version.Transactions

/-! # How many snapshots an object keeps -/

namespace K8sPlatform.Version

open Resource

/-- The live snapshots of the object are the last `maxVersions` of all that were taken, and the
numbers of these increase. -/
def Store.Retains (maxVersions : ℕ+) (object : Target) (s : Store) : Prop :=
  Numbered.Increasing Row.seq (s.taken object) ∧
    s.liveOf object = (s.taken object).rtake maxVersions

/-- The rows of the object are numbered from one on, and the first `m` of them are deleted. -/
structure Store.Dropped (object : Target) (m : Nat) (s : Store) : Prop where
  counted : Numbered.Counted Row.seq (s.taken object)
  dropped : ∀ i (bound : i < (s.taken object).length),
    (s.taken object)[i].deleted = decide (i < m)

/-- Never more than the surplus is deleted, so the last row always stays. -/
def Store.Bounded (maxVersions : ℕ+) (object : Target) (s : Store) : Prop :=
  ∃ m ≤ (s.taken object).length - (maxVersions : ℕ), s.Dropped object m

variable {maxVersions : ℕ+} {object : Target} {s : Store} {m : Nat}

theorem Store.Dropped.liveOf (h : s.Dropped object m) :
    s.liveOf object = (s.taken object).drop m := by
  apply Numbered.filter_eq_drop
  intro i bound
  rw [h.dropped i bound, ← decide_not, decide_eq_decide]
  exact Nat.not_lt

theorem Store.Dropped.next (h : s.Dropped object m)
    (surplus : m ≤ (s.taken object).length - (maxVersions : ℕ)) :
    Numbered.next Row.seq (s.liveOf object) = (s.taken object).length + 1 := by
  have positive := maxVersions.pos
  rw [h.liveOf]
  apply h.counted.next_drop
  by_cases none_ : s.taken object = []
  · exact .inr none_
  · have some_ := List.length_pos_iff.2 none_
    left
    omega

theorem Store.Dropped.insert {snap : ResourceSnapshot} (h : s.Dropped object m)
    (few : m ≤ (s.taken object).length) (own : snap.object = object)
    (number : snap.versionSeq = (s.taken object).length + 1) :
    (s.insert snap).Dropped object m := by
  have rows := taken_insert_self (s := s) own
  constructor
  · rw [rows]
    exact h.counted.concat number
  · rw [rows]
    intro i bound
    rw [List.getElem_append]
    split
    · rename_i earlier
      exact h.dropped i earlier
    · simp only [List.getElem_singleton]
      refine (decide_eq_false ?_).symm
      omega

theorem Store.Dropped.prune {keepVersion : Int} {m' : Nat} (h : s.Dropped object m)
    (until_ : ∀ i < (s.taken object).length, i < m ∨ (i : Int) + 1 < keepVersion ↔ i < m') :
    (s.prune object keepVersion).Dropped object m' := by
  have rows : (s.prune object keepVersion).taken object = _ := taken_prune_self keepVersion
  have same : (s.taken object).length = ((s.prune object keepVersion).taken object).length := by
    rw [rows, List.length_map]
  constructor
  · intro i bound
    have number := h.counted i (same ▸ bound)
    simp only [rows, List.getElem_map]
    unfold Row.seq at number ⊢
    rw [Row.prune_object]
    exact number
  · intro i bound
    have earlier : i < (s.taken object).length := same ▸ bound
    have mine : (s.taken object)[i].snap.object = object := by
      have selected := (List.mem_filter.1 (List.getElem_mem earlier)).2
      exact beq_iff_eq.1 selected
    simp only [rows, List.getElem_map, Row.prune_deleted, mine, true_and]
    rw [h.dropped i earlier, h.counted i earlier, ← Bool.decide_or, decide_eq_decide]
    exact until_ i earlier

variable {d : Draft}

theorem Store.Dropped.number (h : s.Dropped object m)
    (surplus : m ≤ (s.taken object).length - (maxVersions : ℕ)) (own : d.object = object) :
    (d.snapshot s.live).versionSeq = (s.taken object).length + 1 := by
  rw [d.snapshot_seq, own]
  exact h.next surplus

theorem Store.length_insert {snap : ResourceSnapshot} (own : snap.object = object) :
    ((s.insert snap).taken object).length = (s.taken object).length + 1 := by
  rw [taken_insert_self own, List.length_append, List.length_singleton]

theorem Store.length_take (own : d.object = object) :
    ((s.take d).taken object).length = (s.taken object).length + 1 := by
  have mine : (d.snapshot s.live).object = object := own
  have inserted := Store.length_insert (s := s) mine
  unfold Store.take
  cases d.maxVersions with
  | none => exact inserted
  | some maxVersions =>
      dsimp only
      split
      · rw [own, taken_prune_self, List.length_map, inserted]
      · exact inserted

/-- A snapshot before is one more. -/
theorem Store.Dropped.take_before (h : s.Dropped object m)
    (surplus : m ≤ (s.taken object).length - (maxVersions : ℕ)) (own : d.object = object)
    (before : d.maxVersions = none) : (s.take d).Dropped object m := by
  unfold Store.take
  rw [before]
  exact h.insert (by omega) own (h.number surplus own)

/-- A snapshot after is one more, and leaves the last `maxVersions`. -/
theorem Store.Dropped.take_after (h : s.Dropped object m)
    (surplus : m ≤ (s.taken object).length - (maxVersions : ℕ)) (own : d.object = object)
    (after : d.maxVersions = some maxVersions) :
    (s.take d).Dropped object ((s.taken object).length + 1 - (maxVersions : ℕ)) := by
  have number := h.number surplus own
  have mine : (d.snapshot s.live).object = object := own
  have inserted := h.insert (by omega) mine number
  unfold Store.take
  rw [after]
  dsimp only
  rw [number, own]
  split
  · apply inserted.prune
    intro i bound
    rw [Store.length_insert mine] at bound
    omega
  · have spared : (s.taken object).length + 1 - (maxVersions : ℕ) = m := by omega
    rw [spared]
    exact inserted

theorem Store.Bounded.take (bounded : s.Bounded maxVersions object)
    (kind : d.maxVersions = none ∨ d.maxVersions = some maxVersions) :
    (s.take d).Bounded maxVersions object := by
  obtain ⟨m, surplus, h⟩ := bounded
  by_cases own : d.object = object
  · unfold Store.Bounded
    rw [Store.length_take own]
    obtain before | after := kind
    · exact ⟨m, by omega, h.take_before surplus own before⟩
    · exact ⟨_, le_rfl, h.take_after surplus own after⟩
  · have rows := taken_take_other (s := s) own
    refine ⟨m, by rwa [rows], ?_, ?_⟩
    · rw [rows]
      exact h.counted
    · simp only [rows]
      exact h.dropped

variable {c : Codec}

theorem Store.Bounded.optional (bounded : s.Bounded maxVersions object) {taken : Option Draft}
    (kind : ∀ d ∈ taken, d.maxVersions = none ∨ d.maxVersions = some maxVersions) :
    (taken.toList.foldl Store.take s).Bounded maxVersions object := by
  cases taken with
  | none => exact bounded
  | some d => exact bounded.take (kind d rfl)

theorem Store.Bounded.next (bounded : s.Bounded maxVersions object) (op : Operation) :
    (op.next c maxVersions s).Bounded maxVersions object := by
  have shaped : Shaped maxVersions (op.drafts c maxVersions s) := op.drafts_shaped s
  obtain ⟨before, after, shape, unpruned, pruned⟩ := shaped
  unfold Operation.next
  rw [shape, List.foldl_append]
  have first := bounded.optional fun d mem => .inl (unpruned d mem)
  exact first.optional fun d mem => .inr (pruned d mem)

theorem Store.empty_bounded : Store.empty.Bounded maxVersions object :=
  ⟨0, Nat.zero_le _, Numbered.counted_nil, fun _ bound => by cases bound⟩

/-- Whatever the operations do, the numbers neither repeat nor go back. -/
theorem numbers_increase (c : Codec) (maxVersions : ℕ+) (object : Target) (ops : List Operation) :
    Numbered.Increasing Row.seq ((Transition.exec (fun s op => op.next c maxVersions s) Store.empty
      ops).taken object) := by
  have reached := Transition.Reachable.exec ops (Transition.Reachable.init
    (S := .ofFn (· = Store.empty) fun s op => Operation.next c maxVersions s op) rfl)
  have invariant : Transition.Invariant
      (.ofFn (· = Store.empty) fun s op => Operation.next c maxVersions s op)
      (Store.Bounded maxVersions object) :=
    ⟨fun first => first ▸ Store.empty_bounded, fun bounded step => step ▸ bounded.next _⟩
  obtain ⟨m, -, h⟩ := invariant.holds reached
  exact h.counted.increasing

def webObject : Json :=
  .obj [("apiVersion", .str "apps/v1"), ("kind", .str "Deployment"),
    ("metadata", .obj [
      ("managedFields", .arr [.obj [("manager", .str "k8s-console")]]),
      ("name", .str "web"), ("namespace", .str "default"), ("resourceVersion", .str "100")])]

def webYAML : String :=
  "apiVersion: apps/v1\nkind: Deployment\nmetadata:\n  managedFields:\n" ++
    "  - manager: k8s-console\n  name: web\n  namespace: default\n  resourceVersion: \"100\"\n"

/-- The libraries on one object and its text. -/
def oneObject (obj : Json) (text : String) : Codec where
  parseGroupVersion := fun _ => .ok ("apps", "v1")
  yamlToJSON := fun yaml => if yaml = text then .ok obj else .error "yaml"
  jsonToYAML := fun _ => text
  unmarshal := .ok

/-- The server gives the object and refuses to delete it. -/
def refusing (obj : Json) : Server where
  connect := fun _ => .ok ()
  wait := fun _ => .ok ()
  cached := fun _ _ _ => none
  get := fun _ _ => .ok obj
  patch := fun _ _ => .ok obj
  delete := fun _ _ => .error "deployments.apps is forbidden"

def webRequest : ResourceRequest where
  headers := ⟨"prod", "", ""⟩
  apiVersion := "apps/v1"
  kind := "Deployment"
  ns := "default"
  name := "web"
  pt := some oneNamespace
  user := some ⟨"dev", 7⟩

end K8sPlatform.Version
