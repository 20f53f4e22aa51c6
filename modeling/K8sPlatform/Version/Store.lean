import Mathlib.Data.PNat.Basic
import K8sPlatform.Lib.Numbered
import K8sPlatform.Lib.Relational
import K8sPlatform.Version.Manager

/-! # The snapshot table with its soft-deleted rows -/

namespace K8sPlatform.Version

open Errcode Resource

/-- A row, its primary key, and whether its `deleted_at` is set. -/
structure Row where
  id : Nat
  snap : ResourceSnapshot
  deleted : Bool
  deriving DecidableEq, Repr

structure Store where
  rows : List Row
  nextId : Nat
  deriving DecidableEq, Repr

/-- What a query with gorm's soft-delete scope sees. -/
def Store.live (s : Store) : SnapshotTable :=
  (s.rows.filter fun r => !r.deleted).map (·.snap)

/-- The object that a snapshot is of, under its effective namespace. -/
def ResourceSnapshot.object (snap : ResourceSnapshot) : Target :=
  ⟨snap.clusterCode, snap.ns, snap.apiVersion, snap.kind, snap.name⟩

def effective (gvk : GVK) (t : Target) : Target := { t with ns := effectiveNS gvk t.ns }

/-- All rows of an object, soft-deleted or not. -/
def Store.taken (s : Store) (object : Target) : List Row :=
  s.rows.filter fun r => r.snap.object == object

def Store.liveOf (s : Store) (object : Target) : List Row :=
  (s.taken object).filter fun r => !r.deleted

def Row.seq (r : Row) : Int := r.snap.versionSeq

def Store.insert (s : Store) (snap : ResourceSnapshot) : Store where
  rows := s.rows ++ [⟨s.nextId, snap, false⟩]
  nextId := s.nextId + 1

/-- The `DELETE` of the snapshots of an object below a number. -/
def Row.prune (object : Target) (keepVersion : Int) (r : Row) : Row :=
  if r.snap.object = object ∧ r.seq < keepVersion then { r with deleted := true } else r

def Store.prune (s : Store) (object : Target) (keepVersion : Int) : Store :=
  { s with rows := s.rows.map (Row.prune object keepVersion) }

/-- The number of versions to keep that `NewManager` sets. -/
def defaultMaxVersions : ℕ+ := ⟨5, by decide⟩

/-- What a snapshot is taken from, and for `SnapshotAfter` the number of versions to keep. -/
structure Draft where
  gvk : GVK
  target : Target
  rawYAML : String
  changeSummary : String
  source : String
  author : Author
  maxVersions : Option ℕ+

def Draft.object (d : Draft) : Target := effective d.gvk d.target

/-- The row to create, by the rows that the `MAX` query sees. -/
def Draft.snapshot (d : Draft) (seen : SnapshotTable) : ResourceSnapshot :=
  newSnapshot seen d.gvk d.target d.rawYAML d.changeSummary d.source d.author

/-- The transaction of `SnapshotBefore`, or of `SnapshotAfter`, which also prunes. -/
def Store.take (s : Store) (d : Draft) : Store :=
  let snap := d.snapshot s.live
  let stored := s.insert snap
  match d.maxVersions with
  | none => stored
  | some maxVersions =>
      let keepVersion := snap.versionSeq - (maxVersions : ℕ) + 1
      if 1 < keepVersion then stored.prune d.object keepVersion else stored

variable (b : Backend) (maxVersions : ℕ+) (s : Store)

/-- What `SnapshotBefore` takes before its transaction. -/
def draftBefore (t : Target) (source changeSummary : String) (author : Author) :
    Except Error (Option Draft) :=
  match gvkOf b t with
  | .error err => .error err
  | .ok gvk =>
    match b.getResource t.clusterCode gvk t.ns t.name with
    | .error err => if err.code = .notFound then .ok none else .error err
    | .ok obj => .ok (some ⟨gvk, t, obj.yaml, changeSummary, source, author, none⟩)

def Store.snapshotBefore (t : Target) (source changeSummary : String) (author : Author) :
    Except Error (Int × Store) :=
  match draftBefore b t source changeSummary author with
  | .error err => .error err
  | .ok none => .ok (0, s)
  | .ok (some d) => .ok ((d.snapshot s.live).versionSeq, s.take d)

/-- What `SnapshotAfter` takes before its transaction. -/
def draftAfter (obj : KubeObject) (clusterCode source changeSummary : String) (author : Author) :
    Except Error Draft :=
  if clusterCode = "" then .error (.new .invalidArgument "obj 和 cluster_code 不能为空")
  else
    let t : Target := ⟨clusterCode, obj.ns, obj.apiVersion, obj.kind, obj.name⟩
    match b.parseGroupVersion t.apiVersion with
    | .error err => .error (.wrapMsg .invalidArgument err "apiVersion 解析失败")
    | .ok (group, version) =>
        .ok ⟨⟨group, version, t.kind⟩, t, obj.yaml, changeSummary, source, author,
          some maxVersions⟩

def Store.snapshotAfter (obj : KubeObject) (clusterCode source changeSummary : String)
    (author : Author) : Except Error Store :=
  (draftAfter b maxVersions obj clusterCode source changeSummary author).map s.take

/-! ## The queries on the live rows -/

variable {s} {object : Target}

theorem snapshotsOf_eq (table : SnapshotTable) (gvk : GVK) (t : Target) :
    snapshotsOf table gvk t = table.filter fun snap => snap.object == effective gvk t := by
  apply List.filter_congr
  intro snap _
  rw [Bool.eq_iff_iff]
  simp only [Bool.and_eq_true, beq_iff_eq, ResourceSnapshot.object, effective, Target.mk.injEq,
    and_assoc]

theorem snapshotsOf_live (gvk : GVK) (t : Target) :
    snapshotsOf s.live gvk t = (s.liveOf (effective gvk t)).map (·.snap) := by
  rw [snapshotsOf_eq, Store.live, Store.liveOf, Store.taken, List.filter_map, List.filter_filter,
    List.filter_filter]
  refine congrArg (List.map _) (List.filter_congr fun r _ => ?_)
  exact Bool.and_comm _ _

theorem nextVersionSeq_live (gvk : GVK) (t : Target) :
    nextVersionSeq s.live gvk t = Numbered.next Row.seq (s.liveOf (effective gvk t)) := by
  unfold nextVersionSeq Numbered.next
  rw [snapshotsOf_live, List.map_map]
  rfl

theorem Draft.snapshot_seq (d : Draft) :
    (d.snapshot s.live).versionSeq = Numbered.next Row.seq (s.liveOf d.object) :=
  nextVersionSeq_live d.gvk d.target

theorem taken_insert_self {snap : ResourceSnapshot} (own : snap.object = object) :
    (s.insert snap).taken object = s.taken object ++ [⟨s.nextId, snap, false⟩] := by
  simp [Store.taken, Store.insert, own]

theorem taken_insert_other {snap : ResourceSnapshot} (other : snap.object ≠ object) :
    (s.insert snap).taken object = s.taken object := by
  simp [Store.taken, Store.insert, other]

theorem Row.prune_object (pruned : Target) (keepVersion : Int) (r : Row) :
    (r.prune pruned keepVersion).snap = r.snap := by
  unfold Row.prune
  split <;> rfl

theorem Row.prune_above {pruned : Target} {keepVersion : Int} {r : Row}
    (above : keepVersion ≤ r.seq) : r.prune pruned keepVersion = r :=
  if_neg fun dropped => absurd dropped.2 (by omega)

theorem taken_prune_self (keepVersion : Int) :
    (s.prune object keepVersion).taken object =
      (s.taken object).map (Row.prune object keepVersion) := by
  apply Relational.filter_map_update
  intro r
  rw [Row.prune_object]

theorem taken_prune_other {pruned : Target} (other : pruned ≠ object) (keepVersion : Int) :
    (s.prune pruned keepVersion).taken object = s.taken object := by
  refine Relational.filter_map_other (fun r => ?_) fun r own => ?_
  · rw [Row.prune_object]
  · have elsewhere : r.snap.object ≠ pruned := by
      rw [beq_iff_eq] at own
      exact fun same => other (same.symm.trans own)
    simp [Row.prune, elsewhere]

/-- A transaction leaves the rows of the other objects alone. -/
theorem taken_take_other {d : Draft} (other : d.object ≠ object) :
    (s.take d).taken object = s.taken object := by
  have inserted : (s.insert (d.snapshot s.live)).taken object = s.taken object :=
    taken_insert_other other
  unfold Store.take
  cases d.maxVersions with
  | none => exact inserted
  | some maxVersions =>
      dsimp only
      split
      · rw [taken_prune_other other, inserted]
      · exact inserted

theorem insert_live (snap : ResourceSnapshot) : (s.insert snap).live = s.live ++ [snap] := by
  simp [Store.live, Store.insert]

theorem Row.prune_deleted (pruned : Target) (keepVersion : Int) (r : Row) :
    (r.prune pruned keepVersion).deleted =
      (r.deleted || decide (r.snap.object = pruned ∧ r.seq < keepVersion)) := by
  unfold Row.prune
  split
  · rename_i dropped
    simp [dropped]
  · rename_i kept
    simp [kept]

theorem prune_live (pruned : Target) (keepVersion : Int) :
    (s.prune pruned keepVersion).live =
      s.live.filter fun snap => !(snap.object = pruned ∧ snap.versionSeq < keepVersion) := by
  unfold Store.live Store.prune
  rw [List.filter_map, List.filter_map, List.filter_filter, List.map_map]
  have kept : (fun r => !r.deleted) ∘ Row.prune pruned keepVersion =
      fun r =>
        !decide (r.snap.object = pruned ∧ r.snap.versionSeq < keepVersion) && !r.deleted := by
    funext r
    rw [Function.comp_apply, Row.prune_deleted, Bool.not_or, Bool.and_comm]
    rfl
  rw [kept]
  apply List.map_congr_left
  intro r _
  exact Row.prune_object pruned keepVersion r

/-- On the live rows the transactions are what the functions of the manager do. -/
theorem snapshotBefore_live (t : Target) (source changeSummary : String) (author : Author) :
    (s.snapshotBefore b t source changeSummary author).map (fun done => (done.1, done.2.live)) =
      Version.snapshotBefore b s.live t source changeSummary author := by
  unfold Store.snapshotBefore draftBefore Version.snapshotBefore
  cases gvkOf b t with
  | error err => rfl
  | ok gvk =>
      dsimp only [Bind.bind, Except.bind]
      cases b.getResource t.clusterCode gvk t.ns t.name with
      | error err =>
          by_cases absent : err.code = .notFound
          · simp only [absent, if_true]
            rfl
          · simp only [absent, if_false]
            rfl
      | ok obj => exact congrArg (fun table => Except.ok (_, table)) (insert_live _)

theorem take_live (d : Draft) (k : ℕ+) (prunes : d.maxVersions = some k) :
    (s.take d).live =
      let snap := d.snapshot s.live
      let keepVersion := snap.versionSeq - (k : ℕ) + 1
      let stored := s.live ++ [snap]
      if 1 < keepVersion then
        stored.filter fun snap =>
          !(snap ∈ snapshotsOf stored d.gvk d.target && snap.versionSeq < keepVersion)
      else stored := by
  unfold Store.take
  rw [prunes]
  dsimp only
  split
  · rw [prune_live, insert_live]
    apply List.filter_congr
    intro snap mem
    have own : snap ∈ snapshotsOf (s.live ++ [d.snapshot s.live]) d.gvk d.target ↔
        snap.object = d.object := by
      rw [snapshotsOf_eq, List.mem_filter, beq_iff_eq]
      exact and_iff_right mem
    rw [decide_eq_decide.2 own, Bool.decide_and]
  · rw [insert_live]

theorem snapshotAfter_live (obj : KubeObject) (clusterCode source changeSummary : String)
    (author : Author) :
    (s.snapshotAfter b maxVersions obj clusterCode source changeSummary author).map Store.live =
      Version.snapshotAfter b maxVersions s.live obj clusterCode source changeSummary author := by
  unfold Store.snapshotAfter draftAfter Version.snapshotAfter
  by_cases unnamed : clusterCode = ""
  · simp only [unnamed, if_true]
    rfl
  · simp only [unnamed, if_false]
    dsimp only [Bind.bind, Except.bind, pure, Except.pure]
    cases b.parseGroupVersion obj.apiVersion with
    | error err => rfl
    | ok gv =>
        obtain ⟨group, version⟩ := gv
        apply (congrArg Except.ok (take_live _ maxVersions rfl)).trans
        exact apply_ite Except.ok _ _ _

end K8sPlatform.Version
