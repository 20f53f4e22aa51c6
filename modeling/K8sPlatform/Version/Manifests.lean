import K8sPlatform.Version.Retention

/-! # What the manifests of creations and updates may touch -/

namespace K8sPlatform.Version

open Errcode Auth Resource

variable (c : Codec) (maxVersions : ℕ+) (srv : Server)

inductive Write
  | create (req : ResourceRequest) (body : ResourceBody)
  | update (req : ResourceRequest) (body : ResourceBody)

def Write.req : Write → ResourceRequest
  | .create req _ | .update req _ => req

def Write.answer : Write → Except Error Json
  | .create req body => (createResource c maxVersions srv req body).1
  | .update req body => (updateResource c maxVersions srv req body).1

/-- The manifest with which a request reaches `ApplyResource`. -/
def Write.manifest : Write → Except Error String
  | .create req body => (createManifest c req body).map Prod.fst
  | .update req body =>
      match req.admit c with
      | .error err => .error err
      | .ok _ => manifestOf c req body

/-- The patch that a request sends. -/
def Write.patch (w : Write) : Except Error Patch :=
  match w.manifest c with
  | .error err => .error err
  | .ok rawBody => applyRequest c srv w.req.code rawBody "apply"

/-- The checks of `validateScope` but for the two headers. -/
def Admits (pt : Option PermissionTree) (clusterCode : String) (gvk : GVK) (ns : String) : Prop :=
  validateScope pt ⟨clusterCode, "", ""⟩ gvk ns = .ok ()

/-- The object that a patch is for is the one that the request was admitted for. -/
structure Write.Faithful (w : Write) (patch : Patch) (obj : Json) : Prop where
  decoded : c.unmarshal patch.body = .ok obj
  path : patch.path = resourcePath patch.path.gvk obj.ns obj.name
  gvk : parseGVK c w.req.apiVersion w.req.kind = .ok patch.path.gvk
  apiVersion : obj.apiVersion = w.req.apiVersion
  kind : obj.kind = w.req.kind
  admitted : Admits w.req.pt w.req.code patch.path.gvk obj.ns
  /-- The namespace of the call, none at cluster level. -/
  admittedPath : Admits w.req.pt w.req.code patch.path.gvk (patch.path.ns.getD "")
  named : ∀ req body, w = .update req body →
    obj.name = req.name ∧ normalizeNamespace obj.ns = normalizeNamespace req.ns

/-- A label of RFC 1123, but for its length. -/
def IsNamespaceName (ns : String) : Prop :=
  ns ≠ "" ∧ (∀ ch ∈ ns.toList, ch.isLower ∨ ch.isDigit ∨ ch = '-') ∧
    ns.toList.head? ≠ some '-' ∧ ns.toList.getLast? ≠ some '-'

def NamespacesNamed (pt : PermissionTree) : Prop :=
  ∀ sc ∈ pt.scopes, sc.scopeType = scopeNamespace → IsNamespaceName sc.ns

variable {c maxVersions srv}

theorem IsNamespaceName.trimSpace {ns : String} (h : IsNamespaceName ns) :
    Text.trimSpace ns = ns := by
  obtain ⟨-, chars, -⟩ := h
  have visible : ∀ ch ∈ ns.toList, Text.isSpace ch = false := by
    intro ch mem
    have ascii : 45 ≤ ch.toNat ∧ ch.toNat ≤ 122 := by
      have toNat : ch.val.toNat = ch.toNat := rfl
      obtain lower | digit | rfl := chars ch mem
      · have range : (ch.val ≥ 97 && ch.val ≤ 122) = true := lower
        simp [UInt32.le_iff_toNat_le] at range
        omega
      · simp [Char.isDigit, UInt32.le_iff_toNat_le] at digit
        omega
      · decide
    unfold Text.isSpace
    simp
    omega
  have front : ns.toList.dropWhile Text.isSpace = ns.toList := by
    rw [List.dropWhile_eq_self_iff]
    intro some_
    rw [visible _ (List.getElem_mem some_)]
    exact Bool.false_ne_true
  have back : ns.toList.rdropWhile Text.isSpace = ns.toList := by
    rw [List.rdropWhile_eq_self_iff]
    intro some_
    rw [visible _ (List.getLast_mem some_)]
    exact Bool.false_ne_true
  rw [Text.trimSpace, front, back, String.ofList_toList]

/-- No namespace goes by a placeholder. -/
theorem IsNamespaceName.normalize {ns : String} (h : IsNamespaceName ns) :
    normalizeNamespace ns = ns := by
  unfold normalizeNamespace
  rw [h.trimSpace, if_neg]
  obtain ⟨some_, chars, first, -⟩ := h
  intro placeholder
  simp only [List.mem_cons, List.not_mem_nil, or_false] at placeholder
  obtain rfl | rfl | rfl | rfl := placeholder
  · exact some_ rfl
  · exact absurd (chars '_' (by decide)) (by decide)
  · exact first rfl
  · exact absurd (chars '_' (by decide)) (by decide)

theorem normalizeNamespace_eq {ns : String} (some_ : normalizeNamespace ns ≠ "") :
    normalizeNamespace ns = ns := by
  unfold normalizeNamespace at some_ ⊢
  split
  · rename_i placeholder
    rw [if_pos placeholder] at some_
    exact absurd rfl some_
  · rfl

/-- Only the whole cluster covers a placeholder. -/
theorem NamespacesNamed.hasClusterScope {pt : PermissionTree} (named : NamespacesNamed pt)
    {clusterCode ns : String} (placeholder : normalizeNamespace ns = "")
    (covered : pt.hasNamespaceScope clusterCode ns = true) :
    pt.hasClusterScope clusterCode = true := by
  rw [PermissionTree.hasClusterScope_iff]
  obtain admin | ⟨sc, mem, whole | ⟨kind, -, rfl⟩⟩ :=
    PermissionTree.hasNamespaceScope_iff.1 covered
  · exact .inl admin
  · exact .inr ⟨sc, mem, whole⟩
  · have name := named sc mem kind
    rw [name.normalize] at placeholder
    exact absurd placeholder name.1

/-! ## Who is admitted where -/

variable {pt : Option PermissionTree} {clusterCode ns : String} {gvk : GVK}

theorem admits_iff {pt : PermissionTree} :
    Admits (some pt) clusterCode gvk ns ↔
      if isNamespaced gvk = true ∧ ns ≠ "" then pt.hasNamespaceScope clusterCode ns = true
      else pt.hasClusterScope clusterCode = true :=
  validateScope_ok rfl rfl

theorem admits_of_validateScope {headers : ScopeHeaders}
    (ok : validateScope pt headers gvk ns = .ok ()) : Admits pt headers.paramCode gvk ns := by
  unfold validateScope at ok
  dsimp only at ok
  split at ok
  · cases ok
  unfold Admits validateScope
  dsimp only
  rw [if_neg fun header => header.1 rfl]
  split at ok
  · rename_i clusterLevel
    rwa [if_pos clusterLevel]
  · rename_i namespaced
    split at ok
    · cases ok
    · rwa [if_neg namespaced, if_neg fun header => header.1 rfl]

theorem Admits.some (admits : Admits pt clusterCode gvk ns) : ∃ tree, pt = some tree := by
  cases pt with
  | some tree => exact ⟨tree, rfl⟩
  | none =>
      unfold Admits validateScope at admits
      simp only [ne_eq, not_true_eq_false, false_and, if_false, allowedNamespaces,
        Bool.false_eq_true] at admits
      split_ifs at admits <;> cases admits

/-- Who may write an object may make the call for it, which at cluster level has no namespace. -/
theorem Admits.path (admits : Admits pt clusterCode gvk ns) (name : String) :
    Admits pt clusterCode gvk ((resourcePath gvk ns name).ns.getD "") := by
  obtain ⟨tree, rfl⟩ := admits.some
  rw [admits_iff] at admits ⊢
  unfold resourcePath
  cases kind : isNamespaced gvk with
  | false => simpa [kind] using admits
  | true =>
      by_cases empty : ns = ""
      · simpa [kind, empty] using admits
      · simpa [kind, empty] using admits

/-- Who is admitted for a namespace is admitted for every other that is the same placeholder. -/
theorem Admits.normalize {ns' : String} (named : ∀ tree ∈ pt, NamespacesNamed tree)
    (same : normalizeNamespace ns' = normalizeNamespace ns)
    (admits : Admits pt clusterCode gvk ns) : Admits pt clusterCode gvk ns' := by
  obtain ⟨tree, rfl⟩ := admits.some
  by_cases placeholder : normalizeNamespace ns = ""
  · have whole : tree.hasClusterScope clusterCode = true := by
      rw [admits_iff] at admits
      split at admits
      · exact (named tree rfl).hasClusterScope placeholder admits
      · exact admits
    rw [admits_iff]
    split
    · exact PermissionTree.hasNamespaceScope_of_hasClusterScope whole ns'
    · exact whole
  · have path := normalizeNamespace_eq placeholder
    have manifest : normalizeNamespace ns' = ns' := by
      apply normalizeNamespace_eq
      rwa [same]
    have equal : ns' = ns :=
      calc
        ns' = normalizeNamespace ns' := manifest.symm
        _ = normalizeNamespace ns := same
        _ = ns := path
    rw [equal]
    exact admits

/-! ## The manifest is read twice -/

theorem applyRequest_ok {yaml patchType : String} {patch : Patch}
    (sent : applyRequest c srv clusterCode yaml patchType = .ok patch) :
    ∃ obj group version, c.yamlToJSON yaml = .ok patch.body ∧ c.unmarshal patch.body = .ok obj ∧
      ¬(obj.apiVersion = "" ∨ obj.kind = "") ∧
      c.parseGroupVersion obj.apiVersion = .ok (group, version) ∧
      patch.path = resourcePath ⟨group, version, obj.kind⟩ obj.ns obj.name := by
  unfold applyRequest at sent
  split at sent
  · cases sent
  split at sent
  · cases sent
  split at sent
  · cases sent
  rename_i json decoded
  split at sent
  · cases sent
  rename_i obj unmarshalled
  split at sent
  · cases sent
  rename_i typed
  split at sent
  · cases sent
  rename_i group version parsed
  split at sent
  · cases sent
  · cases sent
    exact ⟨obj, group, version, decoded, unmarshalled, typed, parsed, rfl⟩

/-- What a manifest names is what its object says. -/
theorem parseYAMLIdentity_ok {yaml : String} {identity : ObjectIdentity} {json obj : Json}
    (decoded : c.yamlToJSON yaml = .ok json) (unmarshalled : c.unmarshal json = .ok obj)
    (read : parseYAMLIdentity c yaml = .ok identity) :
    identity = ⟨obj.apiVersion, obj.kind, obj.ns, obj.name⟩ := by
  unfold parseYAMLIdentity at read
  split at read
  · cases read
  simp only [decoded, unmarshalled] at read
  split at read
  · cases read
  split at read
  · cases read
  · cases read
    rfl

theorem matchGVK_ok {identity : ObjectIdentity} {apiVersion kind : String}
    (ok : identity.matchGVK apiVersion kind = .ok ()) :
    identity.apiVersion = apiVersion ∧ identity.kind = kind := by
  unfold ObjectIdentity.matchGVK at ok
  split at ok
  · cases ok
  · rename_i same
    rw [not_or] at same
    exact ⟨not_not.1 same.1, not_not.1 same.2⟩

theorem matchNamespacedName_ok {identity : ObjectIdentity} {ns name : String}
    (ok : identity.matchNamespacedName ns name = .ok ()) :
    identity.name = name ∧ normalizeNamespace identity.ns = normalizeNamespace ns := by
  unfold ObjectIdentity.matchNamespacedName at ok
  split at ok
  · cases ok
  rename_i name_
  split at ok
  · cases ok
  · rename_i ns_
    exact ⟨not_not.1 name_, not_not.1 ns_⟩

theorem parseGVK_ok {apiVersion kind : String} (ok : parseGVK c apiVersion kind = .ok gvk) :
    ∃ group version, c.parseGroupVersion apiVersion = .ok (group, version) ∧
      gvk = ⟨group, version, kind⟩ := by
  unfold parseGVK at ok
  split at ok
  · cases ok
  split at ok
  · cases ok
  · rename_i group version parsed
    cases ok
    exact ⟨group, version, parsed, rfl⟩

theorem createManifest_ok {req : ResourceRequest} {body : ResourceBody} {rawBody : String}
    {author : Author} (ok : createManifest c req body = .ok (rawBody, author)) :
    ∃ gvk identity, parseGVK c req.apiVersion req.kind = .ok gvk ∧
      parseYAMLIdentity c rawBody = .ok identity ∧
      identity.matchGVK req.apiVersion req.kind = .ok () ∧
      validateScope req.pt req.headers gvk identity.ns = .ok () := by
  unfold createManifest at ok
  dsimp only [bind, Except.bind] at ok
  split at ok
  · cases ok
  rename_i gvk parsed
  split at ok
  · cases ok
  split at ok
  · cases ok
  rename_i identity read
  split at ok
  · cases ok
  rename_i matched
  split at ok
  · cases ok
  split at ok
  · cases ok
  rename_i scoped_
  split at ok
  · cases ok
  · cases ok
    exact ⟨gvk, identity, parsed, read, matched, scoped_⟩

theorem admit_ok {req : ResourceRequest} {author : Author}
    (ok : req.admit c = .ok (gvk, author)) :
    parseGVK c req.apiVersion req.kind = .ok gvk ∧
      validateScope req.pt req.headers gvk req.ns = .ok () := by
  unfold ResourceRequest.admit at ok
  dsimp only [bind, Except.bind] at ok
  split at ok
  · cases ok
  rename_i parsed
  split at ok
  · cases ok
  rename_i scoped_
  split at ok
  · cases ok
  · cases ok
    exact ⟨parsed, scoped_⟩

theorem manifestOf_ok {req : ResourceRequest} {body : ResourceBody} {rawBody : String}
    (ok : manifestOf c req body = .ok rawBody) :
    ∃ identity, parseYAMLIdentity c rawBody = .ok identity ∧
      identity.matchGVK req.apiVersion req.kind = .ok () ∧
      identity.matchNamespacedName req.ns req.name = .ok () := by
  unfold manifestOf at ok
  dsimp only [bind, Except.bind] at ok
  split at ok
  · cases ok
  split at ok
  · cases ok
  rename_i identity read
  split at ok
  · cases ok
  rename_i matched
  split at ok
  · cases ok
  rename_i named
  cases ok
  exact ⟨identity, read, matched, named⟩

/-- A request answers with what the API server makes of its patch. -/
theorem Write.answer_eq (w : Write) :
    w.answer c maxVersions srv =
      match w.patch c srv with
      | .error err => .error err
      | .ok patch =>
        match srv.patch w.req.code patch with
        | .ok patched => .ok patched
        | .error err => .error (.wrapMsg .k8sAPIError err
            ("apply " ++ patch.path.gvk.text ++ "/" ++ patch.path.name)) := by
  have apply (clusterCode rawBody : String) :
      applyResource c srv clusterCode rawBody "apply" =
        match applyRequest c srv clusterCode rawBody "apply" with
        | .error err => .error err
        | .ok patch =>
          match srv.patch clusterCode patch with
          | .ok patched => .ok patched
          | .error err => .error (.wrapMsg .k8sAPIError err
              ("apply " ++ patch.path.gvk.text ++ "/" ++ patch.path.name)) := by
    unfold applyResource
    cases applyRequest c srv clusterCode rawBody "apply" with
    | error err => rfl
    | ok patch => cases sent : srv.patch clusterCode patch <;> simp only [sent]
  cases w with
  | create req body =>
      simp only [Write.answer, Write.patch, Write.manifest, Write.req, createResource]
      cases createManifest c req body with
      | error err => rfl
      | ok manifest =>
          obtain ⟨rawBody, author⟩ := manifest
          dsimp only [Except.map]
          rw [← apply]
          cases applyResource c srv req.code rawBody "apply" <;> rfl
  | update req body =>
      simp only [Write.answer, Write.patch, Write.manifest, Write.req, updateResource]
      cases req.admit c with
      | error err => rfl
      | ok admitted =>
          dsimp only
          cases manifestOf c req body with
          | error err => rfl
          | ok rawBody =>
              dsimp only
              rw [← apply]
              cases applyResource c srv req.code rawBody "apply" <;> rfl

/-- The identity that was matched is that of the object to patch, of the kind of the path. -/
theorem Write.faithful_of_identity (w : Write) {rawBody : String} {patch : Patch}
    {identity : ObjectIdentity} (parsed : parseGVK c w.req.apiVersion w.req.kind = .ok gvk)
    (read : parseYAMLIdentity c rawBody = .ok identity)
    (matched : identity.matchGVK w.req.apiVersion w.req.kind = .ok ())
    (sent : applyRequest c srv w.req.code rawBody "apply" = .ok patch)
    (admits : Admits w.req.pt w.req.code gvk identity.ns)
    (named : ∀ req body, w = .update req body →
      identity.name = req.name ∧ normalizeNamespace identity.ns = normalizeNamespace req.ns) :
    ∃ obj, w.Faithful c patch obj := by
  obtain ⟨obj, group, version, decoded, unmarshalled, -, ofManifest, path⟩ := applyRequest_ok sent
  obtain rfl := parseYAMLIdentity_ok decoded unmarshalled read
  obtain ⟨apiVersion, kind⟩ := matchGVK_ok matched
  obtain ⟨group', version', ofPath, rfl⟩ := parseGVK_ok parsed
  dsimp only at apiVersion kind admits named
  rw [apiVersion, ofPath] at ofManifest
  cases ofManifest
  have sameGVK : patch.path.gvk = ⟨group, version, w.req.kind⟩ := by
    rw [path, kind]
    rfl
  have sameNs : patch.path.ns = (resourcePath patch.path.gvk obj.ns obj.name).ns := by
    rw [sameGVK, path, kind]
  refine ⟨obj, unmarshalled, ?_, ?_, apiVersion, kind, ?_, ?_, named⟩
  · rw [sameGVK, path, kind]
  · rw [sameGVK]
    exact parsed
  · rw [sameGVK]
    exact admits
  · rw [sameNs, sameGVK]
    exact admits.path obj.name

/-- A creation or an update whose manifest is sent to the API server has been admitted for the
object that it is sent for, which is of the kind in the path and, for an update, of the name and the
namespace in the path. -/
theorem write_not_confused {c : Codec} {srv : Server} {w : Write} {patch : Patch}
    (named : ∀ tree ∈ w.req.pt, NamespacesNamed tree) (sent : w.patch c srv = .ok patch) :
    ∃ obj, w.Faithful c patch obj := by
  unfold Write.patch at sent
  split at sent
  · cases sent
  rename_i rawBody manifest
  cases w with
  | create req body =>
      cases made : createManifest c req body with
      | error err =>
          simp only [Write.manifest, made, Except.map] at manifest
          cases manifest
      | ok done =>
          simp only [Write.manifest, made, Except.map] at manifest
          cases manifest
          obtain ⟨gvk, identity, parsed, read, matched, scoped_⟩ := createManifest_ok made
          apply Write.faithful_of_identity (.create req body) parsed read matched sent
            (admits_of_validateScope scoped_)
          intro req' body' eq
          cases eq
  | update req body =>
      cases admitted : req.admit c with
      | error err =>
          simp only [Write.manifest, admitted] at manifest
          cases manifest
      | ok done =>
          simp only [Write.manifest, admitted] at manifest
          obtain ⟨parsed, scoped_⟩ := admit_ok admitted
          obtain ⟨identity, read, matched, same⟩ := manifestOf_ok manifest
          obtain ⟨name, ns⟩ := matchNamespacedName_ok same
          apply Write.faithful_of_identity (.update req body) parsed read matched sent
          · exact (admits_of_validateScope scoped_).normalize named ns
          · intro req' body' eq
            cases eq
            exact ⟨name, ns⟩

/-- The libraries on one object and its text, whose apiVersion is apps/v1. -/
def webCodec : Codec where
  parseGroupVersion := fun apiVersion =>
    if apiVersion = "apps/v1" then .ok ("apps", "v1") else .error "unexpected GroupVersion string"
  yamlToJSON := fun yaml => if yaml = webYAML then .ok webObject else .error "yaml"
  jsonToYAML := fun _ => webYAML
  unmarshal := .ok

def webPatch : Patch where
  path := ⟨⟨"apps", "v1", "Deployment"⟩, some "default", "web"⟩
  patchType := .apply
  body := webObject
  fieldManager := "k8s-console"
  force := true

theorem webPatch_sent :
    (Write.update webRequest (.raw (.ok webYAML))).patch webCodec (refusing webObject) =
      .ok webPatch := by
  have decoded : webCodec.yamlToJSON webYAML = .ok webObject := by simp [webCodec]
  have named : parseYAMLIdentity webCodec webYAML =
      .ok ⟨"apps/v1", "Deployment", "default", "web"⟩ := by
    rw [parseYAMLIdentity, if_neg (by decide), decoded]
    rfl
  have read : (ResourceBody.raw (.ok webYAML)).yaml "updateResourceReq" = .ok webYAML := by
    unfold ResourceBody.yaml ResourceBody.yaml.nonempty
    exact if_neg (by decide)
  have manifest : manifestOf webCodec webRequest (.raw (.ok webYAML)) = .ok webYAML := by
    unfold manifestOf
    rw [read]
    dsimp only [bind, Except.bind]
    rw [named]
    rfl
  have admitted : webRequest.admit webCodec =
      .ok (⟨"apps", "v1", "Deployment"⟩, ⟨"dev", 7⟩) := by rfl
  simp only [Write.patch, Write.manifest]
  rw [admitted]
  dsimp only
  rw [manifest]
  dsimp only
  rw [applyRequest, if_neg (by decide), if_neg (by decide), decoded]
  rfl

/-- A caller with one namespace updates an object in it. -/
theorem web_update_not_confused :
    ∃ obj, (Write.update webRequest (.raw (.ok webYAML))).Faithful webCodec webPatch obj := by
  have named : ∀ tree ∈ webRequest.pt, NamespacesNamed tree := by
    intro tree mem
    obtain rfl : oneNamespace = tree := Option.some.inj mem
    intro sc mem _
    obtain rfl := List.mem_singleton.1 mem
    have letters : "default".toList.all (·.isLower) = true := by decide
    refine ⟨by decide, ?_, by decide, by decide⟩
    exact fun ch mem => .inl (List.all_eq_true.1 letters ch mem)
  exact write_not_confused named webPatch_sent

end K8sPlatform.Version
