import K8sPlatform.Version.Retention

/-! # Applying stored versions again -/

namespace K8sPlatform.Version

open Errcode Resource

/-- The clusters answer with the object. -/
def Returns (srv : Server) (obj : Json) : Prop :=
  (∃ clusterCode gvk key, srv.cached clusterCode gvk key = some obj) ∨
    (∃ clusterCode path, srv.get clusterCode path = .ok obj) ∨
    ∃ clusterCode patch, srv.patch clusterCode patch = .ok obj

def Operation.server : Operation → Server
  | .create srv _ _ | .update srv _ _ | .delete srv _ | .rollback srv _ _ _ => srv

/-- The `resourceVersion` of the live object, empty without one. -/
def liveVersion (live : Option Json) : String := (live.map Json.resourceVersion).getD ""

/-- What a server-side apply asks of the metadata of its manifest. -/
def Accepts (live : Option Json) (patch : Patch) : Prop :=
  patch.body.managedFields = [] ∧
    (patch.body.resourceVersion = "" ∨ patch.body.resourceVersion = liveVersion live)

/-- The API server gave the object without managed fields, and without a version or with the one
that the live object has. -/
def Reappliable (live : Option Json) (obj : Json) : Prop :=
  obj.managedFields = [] ∧ (obj.resourceVersion = "" ∨ obj.resourceVersion = liveVersion live)

/-- The patch that a rollback sends. -/
def Store.rollbackPatch (c : Codec) (srv : Server) (s : Store) (t : Target) (seq : Int)
    (author : Author) : Except Error Patch :=
  match getVersion (backend c srv) s.live t seq with
  | .error err => .error err
  | .ok snap =>
    match draftBefore (backend c srv) t "rollback" ("回滚到版本 " ++ toString seq) author with
    | .error err => .error (.wrapMsg .versionRollbackFail err.text "SnapshotBefore 失败")
    | .ok _ =>
      match applyRequest c srv t.clusterCode snap.rawYAML "apply" with
      | .error err => .error (.wrapMsg .versionRollbackFail err.text "ServerSideApply 失败")
      | .ok patch => .ok patch

variable {c : Codec} {maxVersions : ℕ+} {srv : Server} {s : Store}

/-- A rollback answers with what the API server makes of its patch. -/
theorem Store.rollback_sends (s : Store) (t : Target) (seq : Int) (author : Author) :
    (s.rollback c maxVersions srv t seq author).1 =
      match s.rollbackPatch c srv t seq author with
      | .error err => .error err
      | .ok patch =>
        match srv.patch t.clusterCode patch with
        | .ok patched => .ok patched
        | .error err =>
            let failed : Error := .wrapMsg .k8sAPIError err
              ("apply " ++ patch.path.gvk.text ++ "/" ++ patch.path.name)
            .error (.wrapMsg .versionRollbackFail failed.text "ServerSideApply 失败") := by
  unfold Store.rollback Store.rollbackPatch applyResource
  cases getVersion (backend c srv) s.live t seq with
  | error err => rfl
  | ok snap =>
      dsimp only
      cases draftBefore (backend c srv) t "rollback" ("回滚到版本 " ++ toString seq) author with
      | error err => rfl
      | ok before =>
          dsimp only
          cases applyRequest c srv t.clusterCode snap.rawYAML "apply" with
          | error err => rfl
          | ok patch =>
              dsimp only
              cases srv.patch t.clusterCode patch with
              | error err => rfl
              | ok patched => rfl

/-! ## Where the stored texts come from -/

theorem getResource_returns {clusterCode ns name : String} {gvk : GVK} {obj : Json}
    (got : getResource srv clusterCode gvk ns name = .ok obj) : Returns srv obj := by
  unfold getResource at got
  split at got
  · cases got
  split at got
  · cases got
  dsimp only at got
  split at got
  · rename_i cached
    cases got
    exact .inl ⟨_, _, _, cached⟩
  split at got
  · cases got
  split at got
  · cases got
  · rename_i answered
    cases got
    exact .inr (.inl ⟨_, _, answered⟩)

theorem applyResource_returns {clusterCode yaml patchType : String} {obj : Json}
    (applied : applyResource c srv clusterCode yaml patchType = .ok obj) : Returns srv obj := by
  unfold applyResource at applied
  split at applied
  · cases applied
  split at applied
  · cases applied
  · rename_i answered
    cases applied
    exact .inr (.inr ⟨_, _, answered⟩)

/-- The text is that of an object that the clusters answered with. -/
def Stored (c : Codec) (srv : Server) (rawYAML : String) : Prop :=
  ∃ obj, Returns srv obj ∧ rawYAML = c.jsonToYAML obj

theorem draftBefore_stored {t : Target} {source changeSummary : String} {author : Author}
    {d : Draft}
    (taken : draftBefore (backend c srv) t source changeSummary author = .ok (some d)) :
    Stored c srv d.rawYAML := by
  unfold draftBefore at taken
  split at taken
  · cases taken
  rename_i gvk _
  cases got : getResource srv t.clusterCode gvk t.ns t.name with
  | error err =>
      simp only [backend, got, Except.map] at taken
      split at taken <;> cases taken
  | ok obj =>
      simp only [backend, got, Except.map] at taken
      cases taken
      exact ⟨obj, getResource_returns got, rfl⟩

theorem draftAfter_rawYAML {b : Backend} {obj : KubeObject}
    {clusterCode source changeSummary : String} {author : Author} {d : Draft}
    (taken : draftAfter b maxVersions obj clusterCode source changeSummary author = .ok d) :
    d.rawYAML = obj.yaml := by
  unfold draftAfter at taken
  split at taken
  · cases taken
  dsimp only at taken
  split at taken
  · cases taken
  · cases taken
    rfl

theorem snapshotPatched_stored {patched : Json} {clusterCode source changeSummary : String}
    {author : Author} {d : Draft} (returned : Returns srv patched)
    (mem : d ∈ snapshotPatched c maxVersions srv patched clusterCode source changeSummary author) :
    Stored c srv d.rawYAML := by
  have taken := logged_eq mem
  unfold Except.map at taken
  split at taken
  · cases taken
  · rename_i drafted
    cases taken
    exact ⟨patched, returned, draftAfter_rawYAML drafted⟩

theorem beforeSave_stored {clusterCode : String} {gvk : GVK} {ns name changeSummary : String}
    {author : Author} {d : Draft}
    (mem : d ∈ logged (beforeSave c srv clusterCode gvk ns name changeSummary author)) :
    Stored c srv d.rawYAML := by
  have taken := logged_eq mem
  unfold beforeSave at taken
  split at taken
  · cases taken
  · exact draftBefore_stored taken

/-- Two optional transactions on texts that the clusters answered with. -/
theorem stored_of_mem {before after : Option Draft} {d : Draft}
    (mem : d ∈ before.toList ++ after.toList) (first : ∀ d ∈ before, Stored c srv d.rawYAML)
    (second : ∀ d ∈ after, Stored c srv d.rawYAML) : Stored c srv d.rawYAML := by
  obtain here | here := List.mem_append.1 mem
  · exact first d (Option.mem_toList.1 here)
  · exact second d (Option.mem_toList.1 here)

theorem createResource_stored {req : ResourceRequest} {body : ResourceBody} {d : Draft}
    (mem : d ∈ (createResource c maxVersions srv req body).2) : Stored c srv d.rawYAML := by
  unfold createResource at mem
  split at mem
  · cases mem
  split at mem
  · cases mem
  · rename_i patched applied
    exact snapshotPatched_stored (applyResource_returns applied) (Option.mem_toList.1 mem)

theorem updateResource_stored {req : ResourceRequest} {body : ResourceBody} {d : Draft}
    (mem : d ∈ (updateResource c maxVersions srv req body).2) : Stored c srv d.rawYAML := by
  unfold updateResource at mem
  split at mem
  · cases mem
  dsimp only at mem
  split at mem
  · exact beforeSave_stored (Option.mem_toList.1 mem)
  split at mem
  · exact beforeSave_stored (Option.mem_toList.1 mem)
  · rename_i patched applied
    exact stored_of_mem mem (fun d here => beforeSave_stored here) fun d here =>
      snapshotPatched_stored (applyResource_returns applied) here

theorem deleteResource_stored {req : ResourceRequest} {d : Draft}
    (mem : d ∈ (deleteResource c srv req).2) : Stored c srv d.rawYAML := by
  unfold deleteResource at mem
  split at mem
  · cases mem
  · exact draftBefore_stored (logged_eq (Option.mem_toList.1 mem))

theorem Store.rollback_stored {t : Target} {seq : Int} {author : Author} {d : Draft}
    (mem : d ∈ (s.rollback c maxVersions srv t seq author).2) : Stored c srv d.rawYAML := by
  unfold Store.rollback at mem
  split at mem
  · cases mem
  split at mem
  · cases mem
  rename_i before taken
  have first : ∀ d ∈ before, Stored c srv d.rawYAML := fun d here =>
    draftBefore_stored (taken.trans (congrArg Except.ok here))
  split at mem
  · exact first d (Option.mem_toList.1 mem)
  · rename_i patched applied
    exact stored_of_mem mem first fun d here =>
      snapshotPatched_stored (applyResource_returns applied) here

theorem Operation.drafts_stored {op : Operation} {d : Draft}
    (mem : d ∈ op.drafts c maxVersions s) : Stored c op.server d.rawYAML := by
  cases op with
  | create srv req body => exact createResource_stored mem
  | update srv req body => exact updateResource_stored mem
  | delete srv req => exact deleteResource_stored mem
  | rollback srv pt user body =>
      simp only [Operation.drafts, rollbackVersion] at mem
      split at mem
      · split at mem
        · cases mem
        · exact Store.rollback_stored mem
      · cases mem
      · cases mem

/-- The texts of the table come from one of the servers. -/
def Store.From (c : Codec) (ops : List Operation) (s : Store) : Prop :=
  ∀ snap ∈ s.live, ∃ op ∈ ops, Stored c op.server snap.rawYAML

theorem mem_live_take {d : Draft} {snap : ResourceSnapshot} (mem : snap ∈ (s.take d).live) :
    snap ∈ s.live ∨ snap.rawYAML = d.rawYAML := by
  have inserted (mem : snap ∈ (s.insert (d.snapshot s.live)).live) :
      snap ∈ s.live ∨ snap.rawYAML = d.rawYAML := by
    rw [insert_live] at mem
    obtain there | new := List.mem_append.1 mem
    · exact .inl there
    · rw [List.mem_singleton.1 new]
      exact .inr rfl
  unfold Store.take at mem
  cases kind : d.maxVersions with
  | none =>
      rw [kind] at mem
      exact inserted mem
  | some maxVersions =>
      rw [kind] at mem
      dsimp only at mem
      split at mem
      · rw [prune_live] at mem
        exact inserted (List.mem_filter.1 mem).1
      · exact inserted mem

theorem Store.From.take {ops : List Operation} {op : Operation} {d : Draft} (h : s.From c ops)
    (here : op ∈ ops) (stored : Stored c op.server d.rawYAML) : (s.take d).From c ops := by
  intro snap mem
  obtain there | text := mem_live_take mem
  · exact h snap there
  · rw [text]
    exact ⟨op, here, stored⟩

theorem Store.From.next {ops : List Operation} {op : Operation} (h : s.From c ops)
    (here : op ∈ ops) : (op.next c maxVersions s).From c ops := by
  have all : ∀ d ∈ op.drafts c maxVersions s, Stored c op.server d.rawYAML :=
    fun d mem => Operation.drafts_stored mem
  unfold Operation.next
  generalize op.drafts c maxVersions s = drafts at all
  induction drafts generalizing s with
  | nil => exact h
  | cons d drafts ih =>
      obtain ⟨first, rest⟩ := List.forall_mem_cons.1 all
      exact ih (h.take here first) rest

/-- The table after a run holds texts of objects that the clusters answered with in the run. -/
theorem exec_from (c : Codec) (maxVersions : ℕ+) (ops : List Operation) :
    (Transition.exec (fun s op => op.next c maxVersions s) Store.empty ops).From c ops := by
  have run {es : List Operation} {s : Store} (h : s.From c ops) (sub : ∀ op ∈ es, op ∈ ops) :
      (Transition.exec (fun s op => Operation.next c maxVersions s op) s es).From c ops := by
    induction es generalizing s with
    | nil => exact h
    | cons op es ih =>
        obtain ⟨here, rest⟩ := List.forall_mem_cons.1 sub
        exact ih (h.next here) rest
  exact run (fun _ mem => by cases mem) fun _ here => here

/-! ## What a rollback sends -/

theorem getVersion_mem {b : Backend} {table : SnapshotTable} {t : Target} {seq : Int}
    {snap : ResourceSnapshot} (found : getVersion b table t seq = .ok snap) : snap ∈ table := by
  unfold getVersion at found
  cases parsed : gvkOf b t with
  | error err =>
      rw [parsed] at found
      cases found
  | ok gvk =>
      rw [parsed] at found
      dsimp only [Bind.bind, Except.bind] at found
      split at found
      · cases found
      · rename_i version first
        cases found
        exact (List.mem_filter.1 (List.mem_of_find?_eq_some first)).1

/-- A rollback sends the document of the version that it finds, as it was stored. -/
theorem Store.rollbackPatch_body {t : Target} {seq : Int} {author : Author} {patch : Patch}
    (sent : s.rollbackPatch c srv t seq author = .ok patch) :
    ∃ snap, getVersion (backend c srv) s.live t seq = .ok snap ∧
      c.yamlToJSON snap.rawYAML = .ok patch.body := by
  unfold Store.rollbackPatch at sent
  split at sent
  · cases sent
  rename_i snap found
  split at sent
  · cases sent
  split at sent
  · cases sent
  · rename_i requested
    cases sent
    exact ⟨snap, found, applyRequest_body c srv requested⟩

/-- The table after a run of operations. -/
def afterRun (c : Codec) (maxVersions : ℕ+) (ops : List Operation) : Store :=
  Transition.exec (fun s op => op.next c maxVersions s) Store.empty ops

/-- After every run of creations, updates, deletions and rollbacks, for every rollback that reaches
the API server and every state of the live object: the version that it finds was stored from an
object that the clusters answered with in the run, and the apply meets its preconditions exactly
when that object does. -/
theorem rollback_accepted_iff (c : Codec) (maxVersions : ℕ+) (ops : List Operation)
    (roundTrip : ∀ op ∈ ops, ∀ obj, Returns op.server obj →
      c.yamlToJSON (c.jsonToYAML obj) = .ok obj)
    (srv : Server) (t : Target) (seq : Int) (author : Author) (patch : Patch)
    (sent : (afterRun c maxVersions ops).rollbackPatch c srv t seq author = .ok patch)
    (live : Option Json) :
    ∃ snap, getVersion (backend c srv) (afterRun c maxVersions ops).live t seq = .ok snap ∧
      (∃ op ∈ ops, Stored c op.server snap.rawYAML) ∧
      ∀ op ∈ ops, ∀ obj, Returns op.server obj → snap.rawYAML = c.jsonToYAML obj →
        (Accepts live patch ↔ Reappliable live obj) := by
  obtain ⟨snap, found, body⟩ := Store.rollbackPatch_body sent
  refine ⟨snap, found, exec_from c maxVersions ops snap (getVersion_mem found), ?_⟩
  intro op here obj returned text
  have same : patch.body = obj := by
    rw [text, roundTrip op here obj returned] at body
    exact (Except.ok.inj body).symm
  unfold Accepts Reappliable
  rw [same]

/-- A deletion that is refused leaves version 1 of the object. -/
def refusedDeletion (obj : Json) (text : String) : Store :=
  afterRun (oneObject obj text) defaultMaxVersions [.delete (refusing obj) webRequest]

def webLater : Json :=
  .obj [("metadata", .obj [("resourceVersion", .str "101")])]

/-- The rollback sends the managed fields and the old version, and is rejected. -/
theorem managed_version_rejected :
    ∃ patch, (refusedDeletion webObject webYAML).rollbackPatch (oneObject webObject webYAML)
        (refusing webObject) web 1 ⟨"dev", 7⟩ = .ok patch ∧
      patch.body.managedFields.length = 1 ∧ patch.body.resourceVersion = "100" ∧
      ¬Accepts (some webLater) patch := by
  have sends : ((refusedDeletion webObject webYAML).rollbackPatch (oneObject webObject webYAML)
      (refusing webObject) web 1 ⟨"dev", 7⟩).toOption.map
        (fun patch => (patch.body.managedFields.length, patch.body.resourceVersion)) =
      some (1, "100") := by
    decide +kernel
  cases sent : (refusedDeletion webObject webYAML).rollbackPatch (oneObject webObject webYAML)
      (refusing webObject) web 1 ⟨"dev", 7⟩ with
  | error err =>
      rw [sent] at sends
      cases sends
  | ok patch =>
      rw [sent] at sends
      obtain ⟨managed, version⟩ := Prod.mk.inj (Option.some.inj sends)
      refine ⟨patch, rfl, managed, version, ?_⟩
      rintro ⟨unmanaged, -⟩
      rw [unmanaged] at managed
      cases managed

def plainObject : Json :=
  .obj [("apiVersion", .str "apps/v1"), ("kind", .str "Deployment"),
    ("metadata", .obj [
      ("name", .str "web"), ("namespace", .str "default"), ("resourceVersion", .str "100")])]

def plainYAML : String :=
  "apiVersion: apps/v1\nkind: Deployment\nmetadata:\n  name: web\n  namespace: default\n" ++
    "  resourceVersion: \"100\"\n"

theorem plain_only {obj : Json} (returned : Returns (refusing plainObject) obj) :
    obj = plainObject := by
  obtain ⟨_, _, _, cached⟩ | ⟨_, _, got⟩ | ⟨_, _, patched⟩ := returned
  · cases cached
  · exact (Except.ok.inj got).symm
  · exact (Except.ok.inj patched).symm

/-- Without managed fields, and while the live object is the stored one, the version can be
applied again. -/
theorem unmanaged_version_accepted :
    ∃ patch, (refusedDeletion plainObject plainYAML).rollbackPatch
        (oneObject plainObject plainYAML) (refusing plainObject) web 1 ⟨"dev", 7⟩ = .ok patch ∧
      Accepts (some plainObject) patch := by
  have sends : ((refusedDeletion plainObject plainYAML).rollbackPatch
      (oneObject plainObject plainYAML) (refusing plainObject) web 1 ⟨"dev", 7⟩).toOption.isSome =
        true := by
    decide +kernel
  cases sent : (refusedDeletion plainObject plainYAML).rollbackPatch
      (oneObject plainObject plainYAML) (refusing plainObject) web 1 ⟨"dev", 7⟩ with
  | error err =>
      rw [sent] at sends
      cases sends
  | ok patch =>
      obtain ⟨snap, -, ⟨op, here, obj, returned, text⟩, accepted⟩ :=
        rollback_accepted_iff (oneObject plainObject plainYAML) defaultMaxVersions
          [.delete (refusing plainObject) webRequest]
          (fun op here obj returned => by
            obtain rfl := List.mem_singleton.1 here
            rw [plain_only returned]
            simp [oneObject])
          (refusing plainObject) web 1 ⟨"dev", 7⟩ patch sent (some plainObject)
      refine ⟨patch, rfl, (accepted op here obj returned text).2 ?_⟩
      obtain rfl := List.mem_singleton.1 here
      rw [plain_only returned]
      exact ⟨rfl, .inr rfl⟩

end K8sPlatform.Version
