import K8sPlatform.Version.Reapply

/-! # What requests that fail leave in the history -/

namespace K8sPlatform.Version

open Errcode Resource

def errorOf {α : Type} : Except Error α → Option Error
  | .error err => some err
  | .ok _ => none

variable (c : Codec) (maxVersions : ℕ+) (object : Target)

/-- The error that an operation answers with. -/
def Operation.error (s : Store) : Operation → Option Error
  | .create srv req body => errorOf (createResource c maxVersions srv req body).1
  | .update srv req body => errorOf (updateResource c maxVersions srv req body).1
  | .delete srv req => errorOf (deleteResource c srv req).1
  | .rollback srv pt user body => errorOf (rollbackVersion c maxVersions srv s pt user body).1

/-- The snapshot that a rollback saves, once it has found the version. -/
def Store.rollbackSaved (srv : Server) (s : Store) (t : Target) (seq : Int) (author : Author) :
    Option Draft :=
  match getVersion (backend c srv) s.live t seq with
  | .error _ => none
  | .ok _ => logged (draftBefore (backend c srv) t "rollback" ("回滚到版本 " ++ toString seq) author)

/-- The snapshot that an operation saves ahead of its write: once the request is admitted, or the
version found, and when the object can be read. -/
def Operation.saved (s : Store) : Operation → Option Draft
  -- a creation takes no snapshot before
  | .create _ _ _ => none
  | .update srv req _ =>
    match req.admit c with
    | .error _ => none
    | .ok (gvk, author) =>
        logged (beforeSave c srv req.code gvk req.ns req.name "UI 更新资源前快照" author)
  | .delete srv req =>
    match req.admit c with
    | .error _ => none
    | .ok (_, author) =>
        logged (draftBefore (backend c srv)
          ⟨req.code, req.ns, req.apiVersion, req.kind, req.name⟩ "ui" "删除资源前快照" author)
  | .rollback srv pt user body =>
    match (Request.rollback body).scoped pt with
    | .ok (.rollback t seq) =>
      match user with
      | none => none
      | some author => s.rollbackSaved c srv t seq author
    | .ok _ => none
    | .error _ => none

/-- The row of a transaction, when it is of the object. -/
def rowOf (s : Store) (d : Draft) : List Row :=
  if d.object = object then [⟨s.nextId, d.snapshot s.live, false⟩] else []

/-- The rows of the object that the operations of a run save ahead of their writes. -/
def savedRows : Store → List Operation → List Row
  | _, [] => []
  | s, op :: ops =>
      (op.saved c s).toList.flatMap (rowOf object s) ++ savedRows (op.next c maxVersions s) ops

variable {c maxVersions object} {s : Store} {op : Operation}

/-- A snapshot before is one more live row of its object. -/
theorem liveOf_take_before {d : Draft} (before : d.maxVersions = none) :
    (s.take d).liveOf object = s.liveOf object ++ rowOf object s d := by
  have inserted : s.take d = s.insert (d.snapshot s.live) := by
    unfold Store.take
    rw [before]
  unfold Store.liveOf rowOf
  rw [inserted]
  by_cases own : d.object = object
  · have mine : (d.snapshot s.live).object = object := own
    rw [if_pos own, taken_insert_self mine, List.filter_append]
    rfl
  · have other : (d.snapshot s.live).object ≠ object := own
    rw [if_neg own, taken_insert_other other, List.append_nil]

theorem createResource_drafts_of_error {srv : Server} {req : ResourceRequest} {body : ResourceBody}
    {err : Error} (failed : (createResource c maxVersions srv req body).1 = .error err) :
    (createResource c maxVersions srv req body).2 = [] := by
  revert failed
  unfold createResource
  rcases createManifest c req body with bad | ⟨rawBody, author⟩
  · exact fun _ => rfl
  dsimp only
  rcases applyResource c srv req.code rawBody "apply" with refused | patched
  · exact fun _ => rfl
  · exact fun failed => by cases failed

theorem updateResource_drafts_of_error {srv : Server} {req : ResourceRequest} {body : ResourceBody}
    {err : Error} (failed : (updateResource c maxVersions srv req body).1 = .error err) :
    (updateResource c maxVersions srv req body).2 =
      ((Operation.update srv req body).saved c s).toList := by
  revert failed
  simp only [Operation.saved, updateResource]
  rcases req.admit c with refused | ⟨gvk, author⟩
  · exact fun _ => rfl
  dsimp only
  rcases manifestOf c req body with bad | rawBody
  · exact fun _ => rfl
  dsimp only
  rcases applyResource c srv req.code rawBody "apply" with refused | patched
  · exact fun _ => rfl
  · exact fun failed => by cases failed

theorem Store.rollback_drafts_of_error {srv : Server} {t : Target} {seq : Int} {author : Author}
    {err : Error} (failed : (s.rollback c maxVersions srv t seq author).1 = .error err) :
    (s.rollback c maxVersions srv t seq author).2 =
      (s.rollbackSaved c srv t seq author).toList := by
  revert failed
  unfold Store.rollback Store.rollbackSaved
  rcases getVersion (backend c srv) s.live t seq with missing | snap
  · exact fun _ => rfl
  dsimp only
  rcases draftBefore (backend c srv) t "rollback" ("回滚到版本 " ++ toString seq) author with
    unread | before
  · exact fun _ => rfl
  dsimp only
  rcases applyResource c srv t.clusterCode snap.rawYAML "apply" with refused | patched
  · exact fun _ => rfl
  · exact fun failed => by cases failed

/-- An operation that fails runs no other transaction than that of the snapshot before. -/
theorem Operation.drafts_of_error {err : Error} (failed : op.error c maxVersions s = some err) :
    op.drafts c maxVersions s = (op.saved c s).toList := by
  have of_errorOf {α : Type} {answer : Except Error α} (failed : errorOf answer = some err) :
      answer = .error err := by
    cases answer <;> cases failed
    rfl
  cases op with
  | create srv req body => exact createResource_drafts_of_error (of_errorOf failed)
  | update srv req body => exact updateResource_drafts_of_error (of_errorOf failed)
  | delete srv req =>
      simp only [Operation.drafts, Operation.saved, deleteResource]
      rcases req.admit c with refused | ⟨gvk, author⟩ <;> rfl
  | rollback srv pt user body =>
      have answer := of_errorOf failed
      revert answer
      simp only [Operation.drafts, Operation.saved, rollbackVersion]
      rcases (Request.rollback body).scoped pt with refused | ⟨t⟩ | ⟨t⟩ | ⟨t, seq⟩
      · exact fun _ => rfl
      · exact fun _ => rfl
      · exact fun _ => rfl
      · cases user with
        | none => exact fun _ => rfl
        | some author => exact Store.rollback_drafts_of_error

theorem Operation.saved_before {d : Draft} (mem : d ∈ op.saved c s) : d.maxVersions = none := by
  cases op with
  | create srv req body => cases mem
  | update srv req body =>
      simp only [Operation.saved] at mem
      split at mem
      · cases mem
      · exact mem_beforeSave mem
  | delete srv req =>
      simp only [Operation.saved] at mem
      split at mem
      · cases mem
      · exact draftBefore_maxVersions (logged_eq mem)
  | rollback srv pt user body =>
      simp only [Operation.saved, Store.rollbackSaved] at mem
      split at mem
      · split at mem
        · cases mem
        split at mem
        · cases mem
        · exact draftBefore_maxVersions (logged_eq mem)
      · cases mem
      · cases mem

/-- A request that fails appends the snapshot that it saved, if it is of the object. -/
theorem Operation.liveOf_next {err : Error} (failed : op.error c maxVersions s = some err) :
    (op.next c maxVersions s).liveOf object =
      s.liveOf object ++ (op.saved c s).toList.flatMap (rowOf object s) := by
  unfold Operation.next
  rw [Operation.drafts_of_error failed]
  cases saved : op.saved c s with
  | none => exact (List.append_nil _).symm
  | some d =>
      have before : d.maxVersions = none := op.saved_before saved
      rw [Option.toList_some, List.foldl_cons, List.foldl_nil, List.flatMap_singleton]
      exact liveOf_take_before before

theorem mem_rowOf {d : Draft} {r : Row} (mem : r ∈ rowOf object s d) :
    r.snap.object = object ∧ r.deleted = false ∧ r.snap.rawYAML = d.rawYAML := by
  unfold rowOf at mem
  split at mem
  · rename_i own
    obtain rfl := List.mem_singleton.1 mem
    exact ⟨own, rfl, rfl⟩
  · cases mem

/-- The answer to the operation is an error. -/
def Operation.Fails (c : Codec) (maxVersions : ℕ+) (s : Store) (op : Operation) : Prop :=
  (op.error c maxVersions s).isSome = true

/-- A row holds the text of an object that the clusters answered with in the run. -/
def ReadIn (c : Codec) (ops : List Operation) (r : Row) : Prop :=
  r.deleted = false ∧ ∃ op ∈ ops, Stored c op.server r.snap.rawYAML

/-- In every run of requests that all end in an error, from every state of the table: the live
snapshots of an object are still there, followed by those that the requests saved ahead of their
writes, at most one each, with the text of the object as it was read. -/
theorem failures_append (c : Codec) (maxVersions : ℕ+) (object : Target) (s : Store)
    (ops : List Operation) (failed : Transition.Along (Operation.Fails c maxVersions)
      (fun s op => op.next c maxVersions s) s ops) :
    (Transition.exec (fun s op => op.next c maxVersions s) s ops).liveOf object =
        s.liveOf object ++ savedRows c maxVersions object s ops ∧
      (savedRows c maxVersions object s ops).length ≤ ops.length ∧
      ∀ r ∈ savedRows c maxVersions object s ops, ReadIn c ops r := by
  induction ops generalizing s with
  | nil => exact ⟨(List.append_nil _).symm, le_rfl, fun r mem => by cases mem⟩
  | cons op ops ih =>
      obtain ⟨fails, rest⟩ := failed
      obtain ⟨err, error⟩ := Option.isSome_iff_exists.1 fails
      obtain ⟨live, few, read⟩ := ih (op.next c maxVersions s) rest
      rw [Transition.exec_cons]
      unfold savedRows
      refine ⟨?_, ?_, ?_⟩
      · rw [live, Operation.liveOf_next error, List.append_assoc]
      · have one : ((op.saved c s).toList.flatMap (rowOf object s)).length ≤ 1 := by
          cases op.saved c s with
          | none => exact Nat.zero_le 1
          | some d =>
              rw [Option.toList_some, List.flatMap_singleton]
              unfold rowOf
              split <;> simp
        rw [List.length_append, List.length_cons]
        omega
      · intro r mem
        obtain here | later := List.mem_append.1 mem
        · obtain ⟨d, saved, row⟩ := List.mem_flatMap.1 here
          obtain ⟨-, present, text⟩ := mem_rowOf row
          have ran : d ∈ op.drafts c maxVersions s := by
            rw [Operation.drafts_of_error error]
            exact saved
          rw [ReadIn, text]
          exact ⟨present, op, List.mem_cons_self, Operation.drafts_stored ran⟩
        · obtain ⟨present, op', there, stored⟩ := read r later
          exact ⟨present, op', List.mem_cons_of_mem op there, stored⟩

def webUpdate : Operation := .update (refusing webObject) webRequest (.raw (.ok webYAML))

def webDeletion : Operation := .delete (refusing webObject) webRequest

/-- The numbers of the live snapshots after a run. -/
def liveSeqs (ops : List Operation) : List Int :=
  ((afterRun (oneObject webObject webYAML) defaultMaxVersions ops).liveOf web).map Row.seq

theorem two_refused_deletions_append :
    ∃ added, (afterRun (oneObject webObject webYAML) defaultMaxVersions
      [webDeletion, webDeletion]).liveOf web = Store.empty.liveOf web ++ added ∧
        added.length ≤ 2 := by
  have failed : Transition.Along (Operation.Fails (oneObject webObject webYAML) defaultMaxVersions)
      (fun s op => op.next (oneObject webObject webYAML) defaultMaxVersions s) Store.empty
      [webDeletion, webDeletion] := by
    unfold Transition.Along Operation.Fails
    exact ⟨by decide +kernel, by decide +kernel, trivial⟩
  obtain ⟨live, few, -⟩ := failures_append (oneObject webObject webYAML) defaultMaxVersions web
    Store.empty [webDeletion, webDeletion] failed
  exact ⟨_, live, few⟩

/-- A refused deletion answers with an error and leaves one more live snapshot. After five of them
between two updates, the versions of the first update are gone, which two updates alone keep. -/
theorem refused_deletions_consume :
    webDeletion.Fails (oneObject webObject webYAML) defaultMaxVersions
        (afterRun (oneObject webObject webYAML) defaultMaxVersions [webUpdate]) ∧
      liveSeqs [webUpdate] = [1, 2] ∧ liveSeqs [webUpdate, webDeletion] = [1, 2, 3] ∧
      liveSeqs (webUpdate :: List.replicate 5 webDeletion ++ [webUpdate]) = [5, 6, 7, 8, 9] ∧
      liveSeqs [webUpdate, webUpdate] = [1, 2, 3, 4] := by
  unfold Operation.Fails
  decide +kernel

end K8sPlatform.Version
