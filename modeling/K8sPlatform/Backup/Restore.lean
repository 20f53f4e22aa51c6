import K8sPlatform.Backup.Worker
import K8sPlatform.Lib.OrderedMap
import K8sPlatform.Resource.Fields

/-! # Restores: what is sent to the API server, and what it does to the cluster -/

namespace K8sPlatform.Backup

open Errcode
open Resource (Json Codec)

/-- Where an object is kept; a cluster-scoped one has no namespace. -/
structure Location where
  gvr : GVR
  ns : String
  name : String
  deriving DecidableEq, Repr

/-- The objects of a cluster. -/
abbrev Objects := OrderedMap Location Json

inductive WriteRequest
  | create (obj : Json)
  | update (obj : Json)

def WriteRequest.obj : WriteRequest → Json
  | .create obj | .update obj => obj

/-- The API server during a restore: the answer of the n-th `Get`, what it makes of a write that
meets its preconditions, and the names that it generates. -/
structure ApiServer where
  get : Nat → Location → Except String (Option Json)
  process : WriteRequest → Option Json → Except String Json
  generate : String → String

/-- A call of `Get` has found an object. -/
def found : Except String (Option Json) → Option Json
  | .ok (some existing) => some existing
  | _ => none

def stripForCreate (obj : Json) : Json :=
  let obj := obj.removeNested ["metadata", "resourceVersion"]
  let obj := obj.removeNested ["metadata", "uid"]
  let obj := obj.removeNested ["metadata", "creationTimestamp"]
  let obj := obj.removeNested ["metadata", "generation"]
  let obj := obj.removeNested ["metadata", "managedFields"]
  obj.removeNested ["status"]

/-- The n-th candidate is looked up by the n-th call of `Get`, after the one for the object. -/
def uniqueRestoredName (original yyyymmdd : String) (unix : Nat) (exists_ : Nat → String → Bool) :
    String :=
  let base := original ++ "-restored-" ++ yyyymmdd
  if !exists_ 1 base then base
  else
    match (List.range' 2 98).find? fun i => !exists_ i (base ++ "-" ++ toString i) with
    | some i => base ++ "-" ++ toString i
    | none => base ++ "-" ++ toString unix

variable (api : ApiServer) (yyyymmdd : String) (unix : Nat)

/-- The one write of `applyRestoredObject`, after its calls of `Get`. -/
def restoreRequest (gvr : GVR) (ns : String) (obj : Json) (mode : String) : WriteRequest :=
  let get (n : Nat) (name : String) := found (api.get n ⟨gvr, ns, name⟩)
  if mode = restoreModeCreateNew then
    let obj :=
      if (get 0 obj.name).isSome then
        obj.setName (uniqueRestoredName obj.name yyyymmdd unix fun n name => (get n name).isSome)
      else obj
    .create (stripForCreate obj)
  else
    match get 0 obj.name with
    | some existing => .update (obj.setResourceVersion existing.resourceVersion)
    | none => .create (stripForCreate obj)

/-- The name that a new object gets; a generated one may be empty. -/
def nameOfNew (obj : Json) : String :=
  if obj.name = "" then api.generate obj.generateName else obj.name

/-- A creation is refused where the name exists, and an update where there is no object or it has
another version. -/
def write (s : Objects) (gvr : GVR) (ns : String) : WriteRequest → Objects × Except String Unit
  | .create obj =>
      let name := nameOfNew api obj
      let loc : Location := ⟨gvr, ns, name⟩
      if obj.resourceVersion ≠ "" then
        (s, .error "resourceVersion should not be set on objects to be created")
      else if name = "" then (s, .error "name or generateName is required")
      else
        match s.get? loc with
        | some _ => (s, .error (name ++ " already exists"))
        | none =>
          match api.process (.create obj) none with
          | .error err => (s, .error err)
          | .ok stored => (s.set loc stored, .ok ())
  | .update obj =>
      let loc : Location := ⟨gvr, ns, obj.name⟩
      if obj.name = "" then (s, .error "name is required")
      else
        match s.get? loc with
        | none => (s, .error (obj.name ++ " not found"))
        | some live =>
          if obj.resourceVersion ≠ live.resourceVersion then
            (s, .error "the object has been modified")
          else
            match api.process (.update obj) (some live) with
            | .error err => (s, .error err)
            | .ok stored => (s.set loc stored, .ok ())

def applyRestoredObject (s : Objects) (gvr : GVR) (ns : String) (obj : Json) (mode : String) :
    Objects × Except String Unit :=
  write api s gvr ns (restoreRequest api yyyymmdd unix gvr ns obj mode)

/-- What a restore works with beside the storage. -/
structure Restorer where
  codec : Codec
  client : String → Option String
  api : ApiServer
  yyyymmdd : String
  unix : Nat

/-- The arguments of `applyRestoredObject`. -/
structure RestoreJob where
  gvr : GVR
  ns : String
  obj : Json
  mode : String

/-- `yaml.Unmarshal` into a map. -/
def asMap : Json → Except String Json
  | .obj fields => .ok (.obj fields)
  | .null => .ok (.obj [])
  | _ => .error "json: cannot unmarshal into a map"

def restoredGVR (c : Codec) (obj : Json) : GVR :=
  match resolveGVR obj.kind with
  | .ok gvr => gvr
  | .error _ =>
      let (group, version) := ((c.parseGroupVersion obj.apiVersion).toOption).getD ("", "")
      ⟨group, version, ""⟩

/-- `doRestore` between the download and `applyRestoredObject`. -/
def Restorer.job (r : Restorer) (task : BackupTask) (data : String) : Except String RestoreJob :=
  match (r.codec.yamlToJSON data).bind asMap with
  | .error err => .error ("unmarshal yaml: " ++ err)
  | .ok obj =>
    match r.client task.clusterCode with
    | some err => .error ("get cluster client: " ++ err)
    | none =>
      let ns := task.ns.getD ""
      let mode := Text.trimSpace task.restoreMode
      .ok
        { gvr := restoredGVR r.codec obj
          ns := if ns = "" then obj.ns else ns
          obj := if ns = "" then obj else obj.setNamespace ns
          mode := if mode = "" then restoreModeOverwrite else mode }

def Restorer.request (r : Restorer) (job : RestoreJob) : WriteRequest :=
  restoreRequest r.api r.yyyymmdd r.unix job.gvr job.ns job.obj job.mode

/-- What `doRestore` does with a downloaded text. -/
def Restorer.restore (r : Restorer) (s : Objects) (task : BackupTask) (data : String) :
    Objects × Except String Unit :=
  match r.job task data with
  | .error err => (s, .error err)
  | .ok job =>
    match applyRestoredObject r.api r.yyyymmdd r.unix s job.gvr job.ns job.obj job.mode with
    | (s', .error err) => (s', .error (Error.text (.wrapMsg .backupRestoreFail err "应用资源失败")))
    | (s', .ok ()) => (s', .ok ())

/-- A worker whose cluster has these objects. -/
def Environment.restoring (e : Environment) (r : Restorer) (s : Objects) : Environment :=
  { e with apply := fun task data => (r.restore s task data).2 }

/-! ## What a write changes -/

/-- One object came in, and the others are as they were. -/
def Added (s s' : Objects) (gvr : GVR) (ns : String) : Prop :=
  ∃ name obj, s.get? ⟨gvr, ns, name⟩ = none ∧ s'.entries = s.entries ++ [(⟨gvr, ns, name⟩, obj)]

/-- The object is there once, and the others are as they were. -/
def Replaced (s s' : Objects) (loc : Location) : Prop :=
  (s'.entries.filter fun e => e.1 = loc).length = 1 ∧ ∀ l ≠ loc, s'.get? l = s.get? l

variable {api : ApiServer} {yyyymmdd : String} {unix : Nat} {s : Objects} {gvr : GVR}
  {ns : String}

theorem added_set {name : String} {obj : Json} (absent : s.get? ⟨gvr, ns, name⟩ = none) :
    Added s (s.set ⟨gvr, ns, name⟩ obj) gvr ns :=
  ⟨name, obj, absent, OrderedMap.entries_set absent⟩

theorem replaced_set {loc : Location} {obj : Json} : Replaced s (s.set loc obj) loc where
  left := by
    have there : (s.set loc obj).get? loc = some obj := by rw [OrderedMap.get?_set, if_pos rfl]
    exact OrderedMap.length_filter there
  right l other := by rw [OrderedMap.get?_set, if_neg other]

/-- What a write does: nothing, or it puts an object at the name of its own. -/
theorem write_cases (api : ApiServer) (s : Objects) (gvr : GVR) (ns : String) (req : WriteRequest) :
    (∃ err, write api s gvr ns req = (s, .error err)) ∨
      ∃ name stored, write api s gvr ns req = (s.set ⟨gvr, ns, name⟩ stored, .ok ()) ∧
        (req.obj.name ≠ "" → name = req.obj.name) ∧
        ((∃ obj, req = .create obj) → s.get? ⟨gvr, ns, name⟩ = none) := by
  cases req with
  | create obj =>
      unfold write
      dsimp only
      split
      · exact .inl ⟨_, rfl⟩
      split
      · exact .inl ⟨_, rfl⟩
      cases place : s.get? ⟨gvr, ns, nameOfNew api obj⟩ with
      | some live => exact .inl ⟨_, rfl⟩
      | none =>
          dsimp only
          cases api.process (.create obj) none with
          | error err => exact .inl ⟨_, rfl⟩
          | ok stored =>
              exact .inr ⟨_, stored, rfl, fun named => if_neg named, fun _ => place⟩
  | update obj =>
      unfold write
      dsimp only
      split
      · exact .inl ⟨_, rfl⟩
      cases s.get? ⟨gvr, ns, obj.name⟩ with
      | none => exact .inl ⟨_, rfl⟩
      | some live =>
          dsimp only
          split
          · exact .inl ⟨_, rfl⟩
          cases api.process (.update obj) (some live) with
          | error err => exact .inl ⟨_, rfl⟩
          | ok stored =>
              refine .inr ⟨_, stored, rfl, fun _ => rfl, ?_⟩
              rintro ⟨obj', creates⟩
              cases creates

theorem restoreRequest_creates (gvr : GVR) (ns : String) (obj : Json) :
    ∃ obj', restoreRequest api yyyymmdd unix gvr ns obj restoreModeCreateNew = .create obj' :=
  ⟨_, by rw [restoreRequest, if_pos rfl]⟩

/-- Stripping leaves the rest of the metadata. -/
theorem nestedString_stripForCreate (obj : Json) (k : String) :
    (stripForCreate obj).nestedString ["metadata", k] =
      if k ∈ ["resourceVersion", "uid", "creationTimestamp", "generation", "managedFields"] then ""
      else obj.nestedString ["metadata", k] := by
  rw [stripForCreate]
  simp only [Json.nestedString_removeField _ "status" k (by decide),
    Json.nestedString_removeNested, List.mem_cons, List.not_mem_nil, or_false]
  split_ifs <;> simp_all

theorem name_stripForCreate (obj : Json) : (stripForCreate obj).name = obj.name := by
  unfold Json.name
  rw [nestedString_stripForCreate, if_neg (by decide)]

theorem name_setResourceVersion {obj : Json} (named : obj.name ≠ "") (version : String) :
    (obj.setResourceVersion version).name = obj.name := by
  unfold Json.setResourceVersion Json.name
  rw [Json.nestedString_setMetadata (Json.hasMetadata_of_nestedString named), if_neg (by decide)]

/-- In the other modes the write is of the object under its own name. -/
theorem name_restoreRequest (api : ApiServer) (yyyymmdd : String) (unix : Nat) (gvr : GVR)
    (ns : String) {obj : Json} {mode : String} (overwrite : mode ≠ restoreModeCreateNew)
    (named : obj.name ≠ "") :
    (restoreRequest api yyyymmdd unix gvr ns obj mode).obj.name = obj.name := by
  unfold restoreRequest
  rw [if_neg overwrite]
  dsimp only
  cases found (api.get 0 ⟨gvr, ns, obj.name⟩) with
  | none => exact name_stripForCreate obj
  | some existing => exact name_setResourceVersion named existing.resourceVersion

/-- Whatever the calls of `Get` answer and the API server makes of the write: after an error the
cluster is as it was, a creation adds one object to those that were there, and any other mode
changes the object of the restored name alone. -/
theorem restore_touches (api : ApiServer) (yyyymmdd : String) (unix : Nat) (s : Objects) (gvr : GVR)
    (ns : String) (obj : Json) (mode : String) :
    ∃ s' result, applyRestoredObject api yyyymmdd unix s gvr ns obj mode = (s', result) ∧
      (∀ err, result = .error err → s' = s) ∧
      (mode = restoreModeCreateNew →
        s.entries <+: s'.entries ∧ (result = .ok () → Added s s' gvr ns)) ∧
      (mode ≠ restoreModeCreateNew → result = .ok () →
        ∃ name, (obj.name ≠ "" → name = obj.name) ∧ Replaced s s' ⟨gvr, ns, name⟩) := by
  unfold applyRestoredObject
  rcases write_cases api s gvr ns (restoreRequest api yyyymmdd unix gvr ns obj mode) with
    ⟨err, refused⟩ | ⟨name, stored, done, own, fresh⟩
  · refine ⟨_, _, refused, fun _ _ => rfl, fun _ => ⟨List.prefix_refl _, ?_⟩, ?_⟩
    · intro succeeded
      cases succeeded
    · intro _ succeeded
      cases succeeded
  · refine ⟨_, _, done, ?_, ?_, ?_⟩
    · intro err failed
      cases failed
    · rintro rfl
      have absent := fresh (restoreRequest_creates gvr ns obj)
      constructor
      · rw [OrderedMap.entries_set absent]
        exact List.prefix_append _ _
      · exact fun _ => added_set absent
    · intro overwrite _
      refine ⟨name, fun named => ?_, replaced_set⟩
      have same := name_restoreRequest api yyyymmdd unix gvr ns overwrite named
      rw [own (same.symm ▸ named), same]

/-! ## The identity that an overwrite sends -/

/-- What the API server asks of the identity in a write, given the live object of the name. -/
def WriteRequest.Meets (live : Option Json) : WriteRequest → Prop
  | .create obj => obj.resourceVersion = "" ∧ live = none
  | .update obj =>
      ∃ current, live = some current ∧ obj.resourceVersion = current.resourceVersion ∧
        (obj.uid = "" ∨ obj.uid = current.uid)

/-- The server refuses an update of an object with another uid. -/
def ApiServer.ChecksUid (api : ApiServer) : Prop :=
  ∀ obj current, obj.uid ≠ "" → obj.uid ≠ current.uid →
    ∃ err, api.process (.update obj) (some current) = .error err

/-- Such a server refuses every write that does not meet its preconditions. -/
theorem refused_of_not_meets (checks : api.ChecksUid) {req : WriteRequest}
    (named : req.obj.name ≠ "") (stale : ¬req.Meets (s.get? ⟨gvr, ns, req.obj.name⟩)) :
    ∃ err, write api s gvr ns req = (s, .error err) := by
  cases req with
  | create obj =>
      change obj.name ≠ "" at named
      have place : nameOfNew api obj = obj.name := if_neg named
      unfold write
      dsimp only
      rw [place]
      split
      · exact ⟨_, rfl⟩
      rename_i unversioned
      cases there : s.get? ⟨gvr, ns, obj.name⟩ with
      | some live => exact ⟨_, rfl⟩
      | none => exact absurd ⟨not_not.1 unversioned, there⟩ stale
  | update obj =>
      change obj.name ≠ "" at named
      unfold write
      dsimp only
      rw [if_neg named]
      cases there : s.get? ⟨gvr, ns, obj.name⟩ with
      | none => exact ⟨_, rfl⟩
      | some live =>
          dsimp only
          split
          · exact ⟨_, rfl⟩
          rename_i sameVersion
          have other : ¬(obj.uid = "" ∨ obj.uid = live.uid) := fun identity =>
            stale ⟨live, there, not_not.1 sameVersion, identity⟩
          obtain ⟨err, refused⟩ := checks obj live (fun e => other (.inl e)) fun e => other (.inr e)
          rw [refused]
          exact ⟨err, rfl⟩

/-- An object as the API server returned it to a backup: it has a name, and comes back from its
YAML. -/
structure Returned (c : Codec) (obj : Json) : Prop where
  named : obj.name ≠ ""
  roundTrip : c.yamlToJSON (c.jsonToYAML obj) = .ok obj

/-- What `Get` finds is there. -/
def ApiServer.Truthful (api : ApiServer) (s : Objects) (loc : Location) : Prop :=
  ∀ n live, found (api.get n loc) = some live → s.get? loc = some live

/-- The place of the object that a restore is about. -/
def RestoreJob.location (job : RestoreJob) : Location := ⟨job.gvr, job.ns, job.obj.name⟩

/-- The job for a stored object is about that object, with the namespace of the task. -/
theorem Restorer.job_metadata {r : Restorer} {task : BackupTask} {obj : Json} {job : RestoreJob}
    (returned : Returned r.codec obj)
    (prepared : r.job task (r.codec.jsonToYAML obj) = .ok job) {k : String}
    (other : k ≠ "namespace") :
    job.obj.nestedString ["metadata", k] = obj.nestedString ["metadata", k] := by
  have decoded : asMap obj = .ok obj := by
    obtain ⟨all, fields, rfl, -⟩ := Json.hasMetadata_of_nestedString returned.named
    rfl
  unfold Restorer.job at prepared
  rw [returned.roundTrip, Except.bind, decoded] at prepared
  dsimp only at prepared
  split at prepared
  · cases prepared
  · obtain rfl := Except.ok.inj prepared
    dsimp only
    split
    · rfl
    · rw [Json.setNamespace,
        Json.nestedString_setMetadata (Json.hasMetadata_of_nestedString returned.named),
        if_neg other]

/-- An overwrite updates what `Get` finds, and else creates. -/
theorem Restorer.request_eq {r : Restorer} {job : RestoreJob}
    (overwrite : job.mode ≠ restoreModeCreateNew) :
    r.request job =
      ((found (r.api.get 0 job.location)).map fun live =>
        .update (job.obj.setResourceVersion live.resourceVersion)).getD
          (.create (stripForCreate job.obj)) := by
  rw [Restorer.request, restoreRequest, if_neg overwrite]
  cases answer : found (r.api.get 0 job.location) <;>
    simp only [RestoreJob.location] at answer <;> simp [answer]

/-- The creation has no version left, so it asks that no object is there. -/
theorem Restorer.meets_of_absent {r : Restorer} {job : RestoreJob}
    (overwrite : job.mode ≠ restoreModeCreateNew)
    (answer : found (r.api.get 0 job.location) = none) (live : Option Json) :
    (r.request job).Meets live ↔ live = none := by
  have unversioned : (stripForCreate job.obj).resourceVersion = "" := by
    rw [Json.resourceVersion, nestedString_stripForCreate, if_pos (by decide)]
  rw [Restorer.request_eq overwrite, answer]
  exact and_iff_right unversioned

/-- The update has the version that was read, and still the uid of the backup. -/
theorem Restorer.meets_of_found {r : Restorer} {job : RestoreJob}
    (overwrite : job.mode ≠ restoreModeCreateNew) (metadata : job.obj.HasMetadata) {live : Json}
    (answer : found (r.api.get 0 job.location) = some live) :
    (r.request job).Meets (some live) ↔ job.obj.uid = "" ∨ job.obj.uid = live.uid := by
  have version : (job.obj.setResourceVersion live.resourceVersion).resourceVersion =
      live.resourceVersion := by
    rw [Json.setResourceVersion, Json.resourceVersion, Json.nestedString_setMetadata metadata,
      if_pos rfl]
  have uid : (job.obj.setResourceVersion live.resourceVersion).uid = job.obj.uid := by
    rw [Json.setResourceVersion, Json.uid, Json.nestedString_setMetadata metadata,
      if_neg (by decide)]
    rfl
  rw [Restorer.request_eq overwrite, answer, Option.map_some, Option.getD_some,
    WriteRequest.Meets, uid]
  constructor
  · rintro ⟨current, same, -, identity⟩
    rwa [Option.some.inj same]
  · exact fun identity => ⟨live, rfl, version, identity⟩

/-- An overwrite meets the preconditions just when the object is gone, or was found and is still the
one that the backup read. -/
theorem overwrite_meets_iff {r : Restorer} {task : BackupTask} {obj : Json} {job : RestoreJob}
    (returned : Returned r.codec obj)
    (prepared : r.job task (r.codec.jsonToYAML obj) = .ok job)
    (overwrite : job.mode ≠ restoreModeCreateNew) (s : Objects)
    (truthful : r.api.Truthful s job.location) :
    (r.request job).Meets (s.get? job.location) ↔
      s.get? job.location = none ∨
        ∃ live, found (r.api.get 0 job.location) = some live ∧
          (obj.uid = "" ∨ obj.uid = live.uid) := by
  have uid : job.obj.uid = obj.uid := Restorer.job_metadata returned prepared (by decide)
  have name : job.obj.name = obj.name := Restorer.job_metadata returned prepared (by decide)
  have metadata : job.obj.HasMetadata := Json.hasMetadata_of_nestedString (name ▸ returned.named)
  cases answer : found (r.api.get 0 job.location) with
  | none =>
      rw [Restorer.meets_of_absent overwrite answer]
      simp
  | some live =>
      rw [truthful 0 live answer, Restorer.meets_of_found overwrite metadata answer, uid]
      simp

/-- A server that checks uids turns an overwrite with a stale identity away, and the restore
fails. -/
theorem Restorer.restore_refused {r : Restorer} {task : BackupTask} {data : String}
    {job : RestoreJob} {s : Objects} (checks : r.api.ChecksUid)
    (prepared : r.job task data = .ok job) (overwrite : job.mode ≠ restoreModeCreateNew)
    (named : job.obj.name ≠ "") (stale : ¬(r.request job).Meets (s.get? job.location)) :
    ∃ err, r.restore s task data = (s, .error err) := by
  have name : (r.request job).obj.name = job.obj.name :=
    name_restoreRequest _ _ _ _ _ overwrite named
  have identity : ¬(r.request job).Meets (s.get? ⟨job.gvr, job.ns, (r.request job).obj.name⟩) := by
    rwa [name]
  obtain ⟨err, refused⟩ := refused_of_not_meets checks (name ▸ named) identity
  have applied : applyRestoredObject r.api r.yyyymmdd r.unix s job.gvr job.ns job.obj job.mode =
      (s, .error err) := refused
  unfold Restorer.restore
  simp only [prepared, applied]
  exact ⟨_, rfl⟩

/-- A restore task that succeeds has downloaded a text and restored its object. -/
theorem doRestore_restores {cfg : BackupConfig} {e : Environment} {r : Restorer} {objects : Objects}
    {s : Store} {task : BackupTask}
    (done : (doRestore cfg (e.restoring r objects) s task).2 = .ok ()) :
    ∃ st data, cfg.getStorage task.storageType = .ok st ∧
      st.download cfg s.files task.storagePath = .ok data ∧
      (r.restore objects task data).2 = .ok () := by
  unfold doRestore at done
  split_ifs at done
  cases storage : cfg.getStorage task.storageType with
  | error err => simp [storage] at done
  | ok st =>
      rw [storage] at done
      dsimp only at done
      cases downloaded : st.download cfg s.files task.storagePath with
      | error err => simp [downloaded] at done
      | ok data =>
          rw [downloaded] at done
          refine ⟨st, data, rfl, downloaded, ?_⟩
          cases restored : (r.restore objects task data).2 with
          | error err => simp [Environment.restoring, restored] at done
          | ok _ => rfl

/-- The metadata of a config map in the namespace `default`. -/
def settings (uid version : String) : Json :=
  .obj [("apiVersion", .str "v1"), ("kind", .str "ConfigMap"),
    ("metadata", .obj [("name", .str "settings"), ("namespace", .str "default"),
      ("uid", .str uid), ("resourceVersion", .str version)])]

def settingsLocation : Location := ⟨⟨"", "v1", "configmaps"⟩, "default", "settings"⟩

def clusterWith (obj : Json) : Objects := OrderedMap.empty.set settingsLocation obj

/-- The libraries, for the YAML of one object. -/
def codecOf (obj : Json) : Codec where
  parseGroupVersion version := .ok ("", version)
  yamlToJSON _ := .ok obj
  jsonToYAML _ := "kind: ConfigMap"
  unmarshal := .ok

/-- A server that answers with what is there, and checks the uid. -/
def serving (s : Objects) : ApiServer where
  get _ loc := .ok (s.get? loc)
  process req live :=
    match live with
    | some current =>
        if req.obj.uid ≠ "" ∧ req.obj.uid ≠ current.uid then .error "Precondition failed: UID"
        else .ok req.obj
    | none => .ok req.obj
  generate pre := if pre = "" then "" else pre ++ "x7k2p"

def restorer (backedUp : Json) (s : Objects) : Restorer where
  codec := codecOf backedUp
  client _ := none
  api := serving s
  yyyymmdd := "20260101"
  unix := 1767225600

def restoreSettings : BackupTask where
  id := 2
  clusterCode := "prod"
  ns := some "default"
  targetKind := some "ConfigMap"
  targetName := some "settings"
  backupType := "restore"
  restoreMode := restoreModeOverwrite
  storageType := "local"
  storagePath := "/data/backups/prod/20260101/1/ConfigMap/settings.yaml"
  status := .running
  sizeBytes := none
  operator := "admin"
  operatorId := 1
  errorMessage := none
  objectCount := 0

theorem found_serving {s : Objects} {n : Nat} {loc : Location} :
    found ((serving s).get n loc) = s.get? loc := by
  simp only [serving, found]
  cases s.get? loc <;> rfl

theorem serving_truthful (s : Objects) (loc : Location) : (serving s).Truthful s loc := by
  intro n live answer
  rwa [found_serving] at answer

@[simp] theorem settings_metadata (uid version : String) :
    (settings uid version).name = "settings" ∧ (settings uid version).uid = uid ∧
      (settings uid version).resourceVersion = version := by
  simp only [Json.name, Json.uid, Json.resourceVersion, Json.nestedString_two, settings,
    Json.field_obj]
  exact ⟨rfl, rfl, rfl⟩

theorem settings_returned (uid version : String) :
    Returned (codecOf (settings uid version)) (settings uid version) where
  named := by simp
  roundTrip := rfl

/-- The job of the restore. -/
def settingsJob (uid version : String) : RestoreJob where
  gvr := settingsLocation.gvr
  ns := "default"
  obj := (settings uid version).setNamespace "default"
  mode := restoreModeOverwrite

theorem job_settings (uid version : String) (s : Objects) :
    (restorer (settings uid version) s).job restoreSettings "kind: ConfigMap" =
      .ok (settingsJob uid version) := by
  rfl

/-- The job is about the object of the backup. -/
theorem settingsJob_metadata (uid version : String) {k : String} (other : k ≠ "namespace") :
    (settingsJob uid version).obj.nestedString ["metadata", k] =
      (settings uid version).nestedString ["metadata", k] :=
  Restorer.job_metadata (settings_returned uid version) (job_settings uid version .empty) other

theorem settingsJob_location (uid version : String) :
    (settingsJob uid version).location = settingsLocation := by
  have name : (settingsJob uid version).obj.name = "settings" :=
    (settingsJob_metadata uid version (by decide)).trans (settings_metadata uid version).1
  rw [RestoreJob.location, name]
  rfl

theorem get?_clusterWith (obj : Json) : (clusterWith obj).get? settingsLocation = some obj := by
  rw [clusterWith, OrderedMap.get?_set, if_pos rfl]

theorem found_settings (uid version : String) (obj : Json) :
    found ((serving (clusterWith obj)).get 0 (settingsJob uid version).location) = some obj := by
  rw [settingsJob_location, found_serving, get?_clusterWith]

/-- The update carries the uid of the object that was deleted, and the server refuses it. -/
theorem recreated_settings_refused :
    ∃ job, Returned (codecOf (settings "11" "100")) (settings "11" "100") ∧
      (restorer (settings "11" "100") (clusterWith (settings "22" "7"))).job restoreSettings
        ((codecOf (settings "11" "100")).jsonToYAML (settings "11" "100")) = .ok job ∧
      job.mode = restoreModeOverwrite ∧
      (serving (clusterWith (settings "22" "7"))).Truthful (clusterWith (settings "22" "7"))
        job.location ∧
      ¬((restorer (settings "11" "100") (clusterWith (settings "22" "7"))).request job).Meets
        ((clusterWith (settings "22" "7")).get? job.location) := by
  refine ⟨settingsJob "11" "100", settings_returned _ _, job_settings _ _ _, rfl,
    serving_truthful _ _, ?_⟩
  have uid : (settingsJob "11" "100").obj.uid = "11" :=
    (settingsJob_metadata "11" "100" (by decide)).trans (settings_metadata "11" "100").2.1
  have name : (settingsJob "11" "100").obj.name = "settings" :=
    (settingsJob_metadata "11" "100" (by decide)).trans (settings_metadata "11" "100").1
  have metadata : (settingsJob "11" "100").obj.HasMetadata :=
    Json.hasMetadata_of_nestedString (name ▸ (by decide : "settings" ≠ ""))
  rw [serving_truthful (clusterWith (settings "22" "7")) _ 0 _ (found_settings "11" "100" _),
    Restorer.meets_of_found (by decide) metadata (found_settings "11" "100" _), uid]
  simp

/-- An object that was only modified is updated. -/
theorem modified_settings_accepted :
    ((restorer (settings "11" "100") (clusterWith (settings "11" "250"))).request
      (settingsJob "11" "100")).Meets
        ((clusterWith (settings "11" "250")).get? (settingsJob "11" "100").location) := by
  apply (overwrite_meets_iff (settings_returned "11" "100") (job_settings "11" "100" _) (by decide)
    (clusterWith (settings "11" "250")) (serving_truthful _ _)).2
  exact .inr ⟨settings "11" "250", found_settings "11" "100" _, .inr (by simp)⟩

end K8sPlatform.Backup
