import Mathlib.Logic.Function.Basic
import K8sPlatform.Lib.Transition
import K8sPlatform.Version.Store

/-! # Snapshot transactions side by side, under read committed -/

namespace K8sPlatform.Version

/-- Where a transaction is between its statements: begun, with the rows that its `MAX` query saw,
with its row created, and after its `DELETE`, if it makes one, with the rows that this saw. -/
inductive Phase
  | idle
  | begun (d : Draft)
  | numbered (d : Draft) (seen : Store)
  | inserted (d : Draft) (seen : Store) (id : Nat)
  | ready (d : Draft) (seen : Store) (id : Nat) (visible : List Row)

/-- The committed rows, and the transactions in progress, whose own rows nobody else sees. -/
structure Db where
  store : Store
  calls : Nat → Phase

def Db.start (s : Store) : Db := ⟨s, fun _ => .idle⟩

/-- A statement of the numbered call. A statement that the call is not ready for does nothing. -/
inductive Statement
  | start (call : Nat) (d : Draft)
  | readMax (call : Nat)
  | create (call : Nat)
  | delete (call : Nat)
  | commit (call : Nat)
  | rollback (call : Nat)

def Draft.row (d : Draft) (seen : Store) (id : Nat) : Row := ⟨id, d.snapshot seen.live, false⟩

/-- What the `DELETE` of a transaction, once committed, makes of a row. -/
def Draft.prune (d : Draft) (seen : Store) (visible : List Row) (r : Row) : Row :=
  match d.maxVersions with
  | none => r
  | some maxVersions =>
      let keepVersion := (d.snapshot seen.live).versionSeq - (maxVersions : ℕ) + 1
      if 1 < keepVersion ∧ r ∈ visible then r.prune d.object keepVersion else r

def Db.setCall (db : Db) (call : Nat) (p : Phase) : Db :=
  { db with calls := Function.update db.calls call p }

def Db.next (db : Db) : Statement → Db
  | .start call d =>
    match db.calls call with
    | .idle => db.setCall call (.begun d)
    | _ => db
  | .readMax call =>
    match db.calls call with
    | .begun d => db.setCall call (.numbered d db.store)
    | _ => db
  | .create call =>
    match db.calls call with
    | .numbered d seen =>
        -- an id that is handed out is not handed out again, even if the transaction rolls back
        let id := db.store.nextId
        let phase : Phase := match d.maxVersions with
          | none => .ready d seen id []
          | some _ => .inserted d seen id
        { db with store := { db.store with nextId := id + 1 } }.setCall call phase
    | _ => db
  | .delete call =>
    match db.calls call with
    | .inserted d seen id => db.setCall call (.ready d seen id db.store.rows)
    | _ => db
  | .commit call =>
    match db.calls call with
    | .ready d seen id visible =>
        let rows := db.store.rows.map (d.prune seen visible) ++ [d.row seen id]
        { db with store := { db.store with rows := rows } }.setCall call .idle
    | _ => db
  | .rollback call => db.setCall call .idle

/-- The numbers of the committed live snapshots increase in commit order, and each names one. -/
def Db.Identifies (object : Target) (db : Db) : Prop :=
  Numbered.Increasing Row.seq (db.store.liveOf object) ∧
    ∀ x ∈ db.store.liveOf object, ∀ y ∈ db.store.liveOf object, x.seq = y.seq → x = y

/-- The condition on a `COMMIT`: the live snapshots of the object are those that the `MAX` query of
the transaction saw, so no other transaction on the object has committed since. -/
def Statement.Fresh (object : Target) (db : Db) : Statement → Prop
  | .commit call => ∀ d seen id visible, db.calls call = .ready d seen id visible →
      d.object = object → db.store.liveOf object = seen.liveOf object
  | _ => True

variable {object : Target} {db : Db}

def Draft.statements (d : Draft) (call : Nat) : List Statement :=
  match d.maxVersions with
  | none => [.start call d, .readMax call, .create call, .commit call]
  | some _ => [.start call d, .readMax call, .create call, .delete call, .commit call]

theorem Draft.prune_before {d : Draft} (before : d.maxVersions = none) (seen : Store)
    (visible : List Row) (r : Row) : d.prune seen visible r = r := by
  simp [Draft.prune, before]

/-- A transaction that sees all rows prunes as the function does. -/
theorem Draft.take_eq (d : Draft) (s : Store) {maxVersions : ℕ+}
    (after : d.maxVersions = some maxVersions) :
    s.take d = ⟨s.rows.map (d.prune s s.rows) ++ [d.row s s.nextId], s.nextId + 1⟩ := by
  unfold Store.take
  rw [after]
  dsimp only
  split
  · rename_i prunes
    have above : (d.snapshot s.live).versionSeq - (maxVersions : ℕ) + 1 ≤
        (d.row s s.nextId).seq := by
      have positive := maxVersions.pos
      change _ ≤ (d.snapshot s.live).versionSeq
      omega
    have own : (d.row s s.nextId).prune d.object _ = d.row s s.nextId := Row.prune_above above
    have others : s.rows.map (Row.prune d.object _) = s.rows.map (d.prune s s.rows) :=
      List.map_congr_left fun r mem => by
        simp only [Draft.prune, after]
        exact (if_pos ⟨prunes, mem⟩).symm
    unfold Store.prune Store.insert
    rw [List.map_append, others, List.map_singleton]
    exact congrArg (fun r => Store.mk (_ ++ [r]) _) own
  · rename_i spares
    have others : s.rows.map (d.prune s s.rows) = s.rows :=
      (List.map_congr_left fun r _ => by
        simp only [Draft.prune, after]
        exact if_neg fun prunes => spares prunes.1).trans (List.map_id' _)
    rw [others]
    rfl

/-- Without anything in between, the statements of a transaction are one step of the table. -/
theorem Db.transaction_alone {call : Nat} (free : db.calls call = .idle) (d : Draft) :
    (Transition.exec Db.next db (d.statements call)).store = db.store.take d ∧
      (Transition.exec Db.next db (d.statements call)).calls call = .idle := by
  unfold Draft.statements
  cases kind : d.maxVersions with
  | none =>
      have spared : db.store.rows.map (d.prune db.store []) = db.store.rows :=
        (List.map_congr_left fun r _ => d.prune_before kind _ _ r).trans (List.map_id' _)
      simp only [Transition.exec_cons, Transition.exec_nil]
      simp [Db.next, Db.setCall, free, kind, Store.take, Store.insert, Draft.row, spared]
  | some maxVersions =>
      rw [d.take_eq db.store kind]
      simp only [Transition.exec_cons, Transition.exec_nil]
      simp [Db.next, Db.setCall, free, kind]

/-- A pruned row is one of the object of the transaction, and below its own number. -/
theorem Draft.prune_deleted {d : Draft} {seen : Store} {visible : List Row} {r : Row}
    (dropped : (d.prune seen visible r).deleted = true) :
    r.deleted = true ∨ (r.snap.object = d.object ∧ r.seq < (d.snapshot seen.live).versionSeq) := by
  unfold Draft.prune at dropped
  split at dropped
  · exact .inl dropped
  · rename_i maxVersions after
    dsimp only at dropped
    split at dropped
    · rw [Row.prune_deleted, Bool.or_eq_true, decide_eq_true_eq] at dropped
      obtain already | ⟨own, below⟩ := dropped
      · exact .inl already
      · have positive := maxVersions.pos
        exact .inr ⟨own, by omega⟩
    · exact .inl dropped

/-- The rows of an object that a commit leaves live, without its own. -/
def Draft.spared (d : Draft) (seen : Store) (visible : List Row) (rows : List Row) : List Row :=
  rows.filter fun r => !(d.prune seen visible r).deleted

/-- The draft of a transaction that has its number, and the table that it read the number from. -/
def Phase.reading : Phase → Option (Draft × Store)
  | .numbered d seen | .inserted d seen _ | .ready d seen _ _ => some (d, seen)
  | .idle | .begun _ => none

/-- Since a table was read, the live rows of the object are the same, or the next number is
larger. -/
def Store.Follows (object : Target) (seen s : Store) : Prop :=
  s.liveOf object = seen.liveOf object ∨
    Numbered.next Row.seq (seen.liveOf object) < Numbered.next Row.seq (s.liveOf object)

def Db.Advances (object : Target) (db : Db) : Prop :=
  ∀ call d seen, (db.calls call).reading = some (d, seen) → d.object = object →
    Store.Follows object seen db.store

/-- Only a `COMMIT` changes the committed rows. -/
theorem Db.next_rows (db : Db) {st : Statement} (quiet : ∀ call, st ≠ .commit call) :
    (db.next st).store.rows = db.store.rows := by
  cases st with
  | start call | readMax call | create call | delete call =>
      simp only [Db.next]
      split <;> rfl
  | commit call => exact absurd rfl (quiet call)
  | rollback call => rfl

/-! ## The condition on a commit -/

theorem find?_perm {α : Type} {p : α → Bool} {xs ys : List α} (perm : xs.Perm ys)
    (unique : ∀ x ∈ ys, ∀ y ∈ ys, p x = true → p y = true → x = y) : xs.find? p = ys.find? p := by
  cases left : xs.find? p with
  | none =>
      refine (List.find?_eq_none.2 fun y mem => ?_).symm
      exact List.find?_eq_none.1 left y (perm.mem_iff.2 mem)
  | some x =>
      have found := List.find?_some left
      have mem := perm.mem_iff.1 (List.mem_of_find?_eq_some left)
      cases right : ys.find? p with
      | none => exact absurd found (List.find?_eq_none.1 right x mem)
      | some y =>
          have same := unique x mem y (List.mem_of_find?_eq_some right) found
            (List.find?_some right)
          rw [same]

/-- Then a rollback or a comparison finds the same snapshot in whatever order the rows come. -/
theorem getVersion_any_order (b : Backend) {t : Target} {gvk : Resource.GVK}
    (parsed : gvkOf b t = .ok gvk) (identifies : db.Identifies (effective gvk t))
    {table : SnapshotTable} (order : table.Perm db.store.live) (seq : Int) :
    getVersion b table t seq = getVersion b db.store.live t seq := by
  have same : (snapshotsOf table gvk t).find? (·.versionSeq == seq) =
      (snapshotsOf db.store.live gvk t).find? (·.versionSeq == seq) := by
    refine find?_perm (order.filter _) fun x left y right isX isY => ?_
    change x ∈ snapshotsOf db.store.live gvk t at left
    change y ∈ snapshotsOf db.store.live gvk t at right
    rw [snapshotsOf_live] at left right
    obtain ⟨r, memR, rfl⟩ := List.mem_map.1 left
    obtain ⟨q, memQ, rfl⟩ := List.mem_map.1 right
    rw [beq_iff_eq] at isX isY
    exact congrArg Row.snap (identifies.2 r memR q memQ (isX.trans isY.symm))
  unfold getVersion
  rw [parsed]
  simp only [Bind.bind, Except.bind, same]

def web : Target := ⟨"prod", "default", "apps/v1", "Deployment", "web"⟩

end K8sPlatform.Version
