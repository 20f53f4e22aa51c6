import K8sPlatform.Resource.Object
import K8sPlatform.Lib.Transition
import K8sPlatform.Version.Handler
import K8sPlatform.Version.Store

/-! # The operations that take snapshots

Each answers, and runs its snapshot transactions one after the other. -/

namespace K8sPlatform.Version

open Errcode Auth Resource

def toKube (c : Codec) (obj : Json) : KubeObject :=
  ⟨obj.apiVersion, obj.kind, obj.ns, obj.name, c.jsonToYAML obj⟩

def stripManagedFieldsYAML (c : Codec) (raw : String) : String :=
  if raw = "" then raw
  else
    match c.yamlToJSON raw with
    | .ok (.obj fields) =>
        c.jsonToYAML (.obj (fields.map fun
          | ("metadata", .obj md) => ("metadata", .obj (md.filter (·.1 != "managedFields")))
          | other => other))
    | .ok .null => c.jsonToYAML .null
    | _ => raw

/-- The manager's view of the clusters. -/
def backend (c : Codec) (srv : Server) : Backend where
  parseGroupVersion := c.parseGroupVersion
  getResource := fun clusterCode gvk ns name =>
    (getResource srv clusterCode gvk ns name).map (toKube c)
  applyResource := fun clusterCode yaml =>
    (applyResource c srv clusterCode yaml "apply").map (toKube c)
  stripManagedFields := stripManagedFieldsYAML c

def parseGVK (c : Codec) (apiVersion kind : String) : Except Error GVK :=
  if apiVersion = "" ∨ kind = "" then .error (.new .invalidArgument "apiVersion 和 kind 不能为空")
  else
    match c.parseGroupVersion apiVersion with
    | .error err => .error (.wrapMsg .invalidArgument err "apiVersion 格式错误")
    | .ok (group, version) => .ok ⟨group, version, kind⟩

/-- A body: JSON with a `yaml` field, or the YAML itself. -/
inductive ResourceBody
  | json (decoded : Except String String)
  | raw (read : Except String String)

def ResourceBody.yaml (req : String) : ResourceBody → Except Error String
  | .json (.error err) => .error (badBody err)
  | .json (.ok yaml) =>
      match Validation.check req [⟨"YAML", [("required", yaml != "")]⟩] with
      | some err => .error (badBody err)
      | none => nonempty (Text.trimSpace yaml)
  | .raw (.error err) => .error (.wrapMsg .invalidArgument err "读取请求体失败")
  | .raw (.ok yaml) => nonempty yaml
where
  nonempty (yaml : String) : Except Error String :=
    if yaml = "" then .error (.new .invalidArgument "YAML 内容不能为空") else .ok yaml

/-- A request for one resource: the path, the headers, and the user. -/
structure ResourceRequest where
  headers : ScopeHeaders
  apiVersion : String
  kind : String
  ns : String
  name : String
  pt : Option PermissionTree
  user : Option Author

def ResourceRequest.code (req : ResourceRequest) : String := req.headers.paramCode

def unauthenticated : Error := .new .unauthenticated "无法识别当前用户"

/-- The checks that updates and deletions begin with. -/
def ResourceRequest.admit (c : Codec) (req : ResourceRequest) : Except Error (GVK × Author) := do
  let gvk ← parseGVK c req.apiVersion req.kind
  validateScope req.pt req.headers gvk req.ns
  match req.user with
  | none => throw unauthenticated
  | some author => return (gvk, author)

def GVK.groupVersion (gvk : GVK) : String :=
  if gvk.group = "" then gvk.version else gvk.group ++ "/" ++ gvk.version

variable (c : Codec) (maxVersions : ℕ+) (srv : Server)

def beforeSave (clusterCode : String) (gvk : GVK) (ns name changeSummary : String)
    (author : Author) : Except Error (Option Draft) :=
  if clusterCode = "" ∨ name = "" then .ok none
  else
    draftBefore (backend c srv) ⟨clusterCode, ns, GVK.groupVersion gvk, gvk.kind, name⟩ "ui"
      changeSummary author

/-- The transaction of a call whose error is only logged. -/
def logged : Except Error (Option Draft) → Option Draft
  | .ok taken => taken
  | .error _ => none

/-- The snapshot of an applied object, whose error is only logged. -/
def snapshotPatched (patched : Json) (clusterCode source changeSummary : String)
    (author : Author) : Option Draft :=
  logged ((draftAfter (backend c srv) maxVersions (toKube c patched) clusterCode source
    changeSummary author).map some)

/-- The manifest that a request gives, if it names what the path names. -/
def manifestOf (req : ResourceRequest) (body : ResourceBody) : Except Error String := do
  let rawBody ← body.yaml "updateResourceReq"
  let identity ← parseYAMLIdentity c rawBody
  identity.matchGVK req.apiVersion req.kind
  identity.matchNamespacedName req.ns req.name
  return rawBody

/-- The manifest of a creation, and its author. The path names only a kind, and the scope is that of
the namespace in the manifest. -/
def createManifest (req : ResourceRequest) (body : ResourceBody) :
    Except Error (String × Author) := do
  let gvk ← parseGVK c req.apiVersion req.kind
  let rawBody ← body.yaml "createResourceReq"
  let identity ← parseYAMLIdentity c rawBody
  identity.matchGVK req.apiVersion req.kind
  if isNamespaced gvk = true ∧ normalizeNamespace identity.ns = "" then
    throw (.new .invalidArgument "命名空间资源必须指定 metadata.namespace")
  validateScope req.pt req.headers gvk identity.ns
  match req.user with
  | none => throw unauthenticated
  | some author => return (rawBody, author)

def createResource (req : ResourceRequest) (body : ResourceBody) :
    Except Error Json × List Draft :=
  match createManifest c req body with
  | .error err => (.error err, [])
  | .ok (rawBody, author) =>
    match applyResource c srv req.code rawBody "apply" with
    | .error err => (.error err, [])
    | .ok patched =>
        let after := snapshotPatched c maxVersions srv patched req.code "ui" "创建/更新资源" author
        (.ok patched, after.toList)

/-- Takes the snapshot before it looks at the body. -/
def updateResource (req : ResourceRequest) (body : ResourceBody) :
    Except Error Json × List Draft :=
  match req.admit c with
  | .error err => (.error err, [])
  | .ok (gvk, author) =>
    let before := logged
      (beforeSave c srv req.code gvk req.ns req.name "UI 更新资源前快照" author)
    match manifestOf c req body with
    | .error err => (.error err, before.toList)
    | .ok rawBody =>
      match applyResource c srv req.code rawBody "apply" with
      | .error err => (.error err, before.toList)
      | .ok patched =>
          let after := snapshotPatched c maxVersions srv patched req.code "ui"
            "UI 更新资源后快照" author
          (.ok patched, before.toList ++ after.toList)

def deleteResource (req : ResourceRequest) : Except Error Unit × List Draft :=
  match req.admit c with
  | .error err => (.error err, [])
  | .ok (gvk, author) =>
    let t : Target := ⟨req.code, req.ns, req.apiVersion, req.kind, req.name⟩
    let before := logged (draftBefore (backend c srv) t "ui" "删除资源前快照" author)
    (Resource.deleteResource srv req.code gvk req.ns req.name, before.toList)

/-- `Rollback` of the manager, where an error of the snapshot before ends the operation. -/
def Store.rollback (s : Store) (t : Target) (seq : Int) (author : Author) :
    Except Error Json × List Draft :=
  match getVersion (backend c srv) s.live t seq with
  | .error err => (.error err, [])
  | .ok snap =>
    match draftBefore (backend c srv) t "rollback" ("回滚到版本 " ++ toString seq) author with
    | .error err => (.error (.wrapMsg .versionRollbackFail err.text "SnapshotBefore 失败"), [])
    | .ok before =>
      match applyResource c srv t.clusterCode snap.rawYAML "apply" with
      | .error err =>
          (.error (.wrapMsg .versionRollbackFail err.text "ServerSideApply 失败"), before.toList)
      | .ok patched =>
          let after := snapshotPatched c maxVersions srv patched t.clusterCode "rollback"
            ("回滚到版本 " ++ toString seq ++ " 成功") author
          (.ok patched, before.toList ++ after.toList)

/-- The handler of rollbacks. -/
def rollbackVersion (s : Store) (pt : Option PermissionTree) (user : Option Author)
    (body : Except String (Target × Int)) : Except Error Json × List Draft :=
  match (Request.rollback body).scoped pt with
  | .ok (.rollback t seq) =>
    match user with
    | none => (.error unauthenticated, [])
    | some author => s.rollback c maxVersions srv t seq author
  -- a rollback parses to nothing else
  | .ok _ => (.error unauthenticated, [])
  | .error err => (.error err, [])

/-- A request, and what the clusters answer while it is handled. -/
inductive Operation
  | create (srv : Server) (req : ResourceRequest) (body : ResourceBody)
  | update (srv : Server) (req : ResourceRequest) (body : ResourceBody)
  | delete (srv : Server) (req : ResourceRequest)
  | rollback (srv : Server) (pt : Option PermissionTree) (user : Option Author)
      (body : Except String (Target × Int))

/-- The snapshot transactions that an operation runs, in their order. -/
def Operation.drafts (s : Store) : Operation → List Draft
  | .create srv req body => (createResource c maxVersions srv req body).2
  | .update srv req body => (updateResource c maxVersions srv req body).2
  | .delete srv req => (deleteResource c srv req).2
  | .rollback srv pt user body => (rollbackVersion c maxVersions srv s pt user body).2

def Operation.next (s : Store) (op : Operation) : Store :=
  (op.drafts c maxVersions s).foldl Store.take s

def Store.empty : Store := ⟨[], 1⟩

/-! ## The shape of an operation -/

theorem draftBefore_maxVersions {b : Backend} {t : Target} {source changeSummary : String}
    {author : Author} {d : Draft}
    (taken : draftBefore b t source changeSummary author = .ok (some d)) :
    d.maxVersions = none := by
  unfold draftBefore at taken
  split at taken
  · cases taken
  · split at taken
    · split at taken <;> cases taken
    · cases taken
      rfl

theorem draftAfter_maxVersions {b : Backend} {maxVersions : ℕ+} {obj : KubeObject}
    {clusterCode source changeSummary : String} {author : Author} {d : Draft}
    (taken : draftAfter b maxVersions obj clusterCode source changeSummary author = .ok d) :
    d.maxVersions = some maxVersions := by
  unfold draftAfter at taken
  split at taken
  · cases taken
  · dsimp only at taken
    split at taken
    · cases taken
    · cases taken
      rfl

/-- At most one snapshot before, which prunes nothing, and then at most one after, which does. -/
def Shaped (drafts : List Draft) : Prop :=
  ∃ before after : Option Draft, drafts = before.toList ++ after.toList ∧
    (∀ d ∈ before, d.maxVersions = none) ∧ ∀ d ∈ after, d.maxVersions = some maxVersions

variable {c maxVersions srv}

theorem logged_eq {taken : Except Error (Option Draft)} {d : Draft} (mem : d ∈ logged taken) :
    taken = .ok (some d) := by
  unfold logged at mem
  split at mem
  · exact congrArg Except.ok mem
  · cases mem

theorem mem_beforeSave {clusterCode : String} {gvk : GVK} {ns name changeSummary : String}
    {author : Author} {d : Draft}
    (mem : d ∈ logged (beforeSave c srv clusterCode gvk ns name changeSummary author)) :
    d.maxVersions = none := by
  have taken := logged_eq mem
  unfold beforeSave at taken
  split at taken
  · cases taken
  · exact draftBefore_maxVersions taken

theorem mem_snapshotPatched {patched : Json} {clusterCode source changeSummary : String}
    {author : Author} {d : Draft}
    (mem : d ∈ snapshotPatched c maxVersions srv patched clusterCode source changeSummary author) :
    d.maxVersions = some maxVersions := by
  have taken := logged_eq mem
  unfold Except.map at taken
  split at taken
  · cases taken
  · cases taken
    exact draftAfter_maxVersions (by assumption)

theorem Shaped.before {before : Option Draft} (unpruned : ∀ d ∈ before, d.maxVersions = none) :
    Shaped maxVersions before.toList :=
  ⟨before, none, (List.append_nil _).symm, unpruned, fun _ mem => by cases mem⟩

theorem Shaped.nil : Shaped maxVersions [] := by
  have unpruned : ∀ d ∈ (none : Option Draft), d.maxVersions = none := fun _ mem => by cases mem
  exact Shaped.before unpruned

theorem Shaped.after {after : Option Draft}
    (pruned : ∀ d ∈ after, d.maxVersions = some maxVersions) : Shaped maxVersions after.toList :=
  ⟨none, after, rfl, (fun _ mem => by cases mem), pruned⟩

theorem createResource_shaped (req : ResourceRequest) (body : ResourceBody) :
    Shaped maxVersions (createResource c maxVersions srv req body).2 := by
  unfold createResource
  split
  · exact .nil
  · split
    · exact .nil
    · exact .after fun d mem => mem_snapshotPatched mem

theorem updateResource_shaped (req : ResourceRequest) (body : ResourceBody) :
    Shaped maxVersions (updateResource c maxVersions srv req body).2 := by
  unfold updateResource
  split
  · exact .nil
  · dsimp only
    split
    · exact .before fun d mem => mem_beforeSave mem
    · split
      · exact .before fun d mem => mem_beforeSave mem
      · exact ⟨_, _, rfl, fun d mem => mem_beforeSave mem, fun d mem => mem_snapshotPatched mem⟩

theorem deleteResource_shaped (req : ResourceRequest) :
    Shaped maxVersions (deleteResource c srv req).2 := by
  unfold deleteResource
  split
  · exact .nil
  · exact .before fun d mem => draftBefore_maxVersions (logged_eq mem)

theorem Store.rollback_shaped (s : Store) (t : Target) (seq : Int) (author : Author) :
    Shaped maxVersions (s.rollback c maxVersions srv t seq author).2 := by
  unfold Store.rollback
  split
  · exact .nil
  · split
    · exact .nil
    · rename_i before taken
      have unpruned : ∀ d ∈ before, d.maxVersions = none := fun d mem =>
        draftBefore_maxVersions (taken.trans (congrArg Except.ok mem))
      split
      · exact .before unpruned
      · exact ⟨_, _, rfl, unpruned, fun d mem => mem_snapshotPatched mem⟩

theorem Operation.drafts_shaped (s : Store) (op : Operation) :
    Shaped maxVersions (op.drafts c maxVersions s) := by
  cases op with
  | create srv req body => exact createResource_shaped req body
  | update srv req body => exact updateResource_shaped req body
  | delete srv req => exact deleteResource_shaped req
  | rollback srv pt user body =>
      simp only [Operation.drafts, rollbackVersion]
      split
      · split
        · exact .nil
        · exact s.rollback_shaped _ _ _
      · exact .nil
      · exact .nil

theorem Store.snapshotBefore_ok {b : Backend} {s : Store} {t : Target}
    {source changeSummary : String} {author : Author} {before : Option Draft}
    (taken : draftBefore b t source changeSummary author = .ok before) :
    ∃ n, s.snapshotBefore b t source changeSummary author =
      .ok (n, before.toList.foldl Store.take s) := by
  unfold Store.snapshotBefore
  rw [taken]
  cases before with
  | none => exact ⟨_, rfl⟩
  | some d => exact ⟨_, rfl⟩

/-- On the live rows, a rollback that succeeds leaves the table that the manager's leaves. -/
theorem Store.rollback_live (s : Store) (t : Target) (seq : Int) (author : Author) :
    (Version.rollback (backend c srv) maxVersions s.live t seq author).map (·.table) =
      (s.rollback c maxVersions srv t seq author).1.map fun _ =>
        ((s.rollback c maxVersions srv t seq author).2.foldl Store.take s).live := by
  unfold Version.rollback Store.rollback
  cases getVersion (backend c srv) s.live t seq with
  | error err => rfl
  | ok snap =>
      dsimp only [Bind.bind, Except.bind]
      rw [← snapshotBefore_live]
      cases taken : draftBefore (backend c srv) t "rollback" ("回滚到版本 " ++ toString seq)
        author with
      | error err =>
          unfold Store.snapshotBefore
          rw [taken]
          rfl
      | ok before =>
          obtain ⟨n, saved⟩ := Store.snapshotBefore_ok (s := s) taken
          have applied : (backend c srv).applyResource t.clusterCode snap.rawYAML =
              (applyResource c srv t.clusterCode snap.rawYAML "apply").map (toKube c) := rfl
          rw [saved, applied]
          cases applyResource c srv t.clusterCode snap.rawYAML "apply" with
          | error err => rfl
          | ok patched =>
              apply congrArg Except.ok
              dsimp only
              rw [← snapshotAfter_live, List.foldl_append]
              unfold Store.snapshotAfter snapshotPatched
              cases draftAfter (backend c srv) maxVersions (toKube c patched) t.clusterCode
                "rollback" ("回滚到版本 " ++ toString seq ++ " 成功") author with
              | error err => rfl
              | ok d => rfl

end K8sPlatform.Version
