import K8sPlatform.Lib.Text
import K8sPlatform.Resource.Scope

/-! # Objects, their YAML, and the calls on an API server -/

namespace K8sPlatform.Resource

open Errcode

inductive Json
  | null
  | bool (b : Bool)
  | num (text : String)
  | str (s : String)
  | arr (items : List Json)
  | obj (fields : List (String × Json))

def Json.field : Json → String → Option Json
  | .obj fields, key => fields.lookup key
  | _, _ => none

def Json.nested (j : Json) (path : List String) : Option Json := path.foldlM Json.field j

/-- The getters of an unstructured object: what is absent or no string reads as empty. -/
def Json.nestedString (j : Json) (path : List String) : String :=
  match j.nested path with
  | some (.str s) => s
  | _ => ""

def Json.apiVersion (j : Json) : String := j.nestedString ["apiVersion"]

def Json.kind (j : Json) : String := j.nestedString ["kind"]

def Json.name (j : Json) : String := j.nestedString ["metadata", "name"]

def Json.ns (j : Json) : String := j.nestedString ["metadata", "namespace"]

def Json.resourceVersion (j : Json) : String := j.nestedString ["metadata", "resourceVersion"]

def Json.managedFields (j : Json) : List Json :=
  match j.nested ["metadata", "managedFields"] with
  | some (.arr items) => items
  | _ => []

/-- The YAML and API machinery libraries: `unmarshal` decodes a document into an unstructured
object. -/
structure Codec where
  parseGroupVersion : String → Except String (String × String)
  yamlToJSON : String → Except String Json
  jsonToYAML : Json → String
  unmarshal : Json → Except String Json

structure Path where
  gvk : GVK
  ns : Option String
  name : String
  deriving DecidableEq, Repr

inductive PatchType
  | apply | merge | strategic | json
  deriving DecidableEq, Repr

structure Patch where
  path : Path
  patchType : PatchType
  body : Json
  fieldManager : String
  force : Bool

/-- What the clusters answer at a moment: the clients, the rate limiters, the informers' caches by
their keys, and the API servers. -/
structure Server where
  connect : String → Except Error Unit
  wait : String → Except String Unit
  cached : String → GVK → String → Option Json
  get : String → Path → Except String Json
  patch : String → Patch → Except String Json
  delete : String → Path → Except String Unit

def GVK.text (gvk : GVK) : String := gvk.group ++ "/" ++ gvk.version ++ ", Kind=" ++ gvk.kind

def resourcePath (gvk : GVK) (ns name : String) : Path :=
  ⟨gvk, if isNamespaced gvk && ns != "" then some ns else none, name⟩

variable (c : Codec) (srv : Server)

/-- The part that the calls share: the client, then the rate limiter. -/
def reach (clusterCode : String) : Except Error Unit :=
  match srv.connect clusterCode with
  | .error err => .error err
  | .ok () =>
    match srv.wait clusterCode with
    | .error err => .error (.wrapMsg .k8sAPIRateLimited err "rate limiter wait")
    | .ok () => .ok ()

def apiError (err call : String) : Error :=
  if "not found".toList <:+: err.toList then .new .notFound "资源不存在"
  else .wrapMsg .k8sAPIError err call

def getResource (clusterCode : String) (gvk : GVK) (ns name : String) : Except Error Json :=
  if clusterCode = "" then .error (.new .invalidArgument "cluster code 不能为空")
  else if name = "" then .error (.new .invalidArgument "resource name 不能为空")
  else
    let key := if isNamespaced gvk && ns != "" then ns ++ "/" ++ name else name
    match srv.cached clusterCode gvk key with
    | some obj => .ok obj
    | none =>
      match reach srv clusterCode with
      | .error err => .error err
      | .ok () =>
        match srv.get clusterCode (resourcePath gvk ns name) with
        | .error err => .error (apiError err ("get " ++ gvk.text ++ "/" ++ name))
        | .ok obj => .ok obj

def deleteResource (clusterCode : String) (gvk : GVK) (ns name : String) : Except Error Unit :=
  if clusterCode = "" then .error (.new .invalidArgument "cluster code 不能为空")
  else if name = "" then .error (.new .invalidArgument "resource name 不能为空")
  else
    match reach srv clusterCode with
    | .error err => .error err
    | .ok () =>
      match srv.delete clusterCode (resourcePath gvk ns name) with
      | .error err => .error (apiError err ("delete " ++ gvk.text ++ "/" ++ name))
      | .ok () => .ok ()

def patchTypeOf (patchType : String) : PatchType :=
  match Text.toLower patchType with
  | "merge" => .merge
  | "strategic" => .strategic
  | "json" => .json
  | _ => .apply

/-- The patch that `ApplyResource` sends: the document as it was decoded. -/
def applyRequest (clusterCode yaml patchType : String) : Except Error Patch :=
  if clusterCode = "" then .error (.new .invalidArgument "cluster code 不能为空")
  else if yaml = "" then .error (.new .invalidArgument "yaml 内容不能为空")
  else
    match c.yamlToJSON yaml with
    | .error err => .error (.wrapMsg .invalidArgument err "yaml 解析失败")
    | .ok json =>
      match c.unmarshal json with
      | .error err => .error (.wrapMsg .invalidArgument err "JSON 解析失败")
      | .ok obj =>
        if obj.apiVersion = "" ∨ obj.kind = "" then
          .error (.new .invalidArgument "yaml 缺少 apiVersion 或 kind")
        else
          match c.parseGroupVersion obj.apiVersion with
          | .error err => .error (.wrapMsg .invalidArgument err "apiVersion 解析失败")
          | .ok (group, version) =>
            match reach srv clusterCode with
            | .error err => .error err
            | .ok () =>
                .ok ⟨resourcePath ⟨group, version, obj.kind⟩ obj.ns obj.name,
                  patchTypeOf patchType, json, "k8s-console", true⟩

def applyResource (clusterCode yaml patchType : String) : Except Error Json :=
  match applyRequest c srv clusterCode yaml patchType with
  | .error err => .error err
  | .ok patch =>
    match srv.patch clusterCode patch with
    | .error err =>
        .error (.wrapMsg .k8sAPIError err
          ("apply " ++ patch.path.gvk.text ++ "/" ++ patch.path.name))
    | .ok patched => .ok patched

structure ObjectIdentity where
  apiVersion : String
  kind : String
  ns : String
  name : String
  deriving DecidableEq, Repr

def normalizeNamespace (ns : String) : String :=
  if Text.trimSpace ns ∈ ["", "_", "-", "_all"] then "" else ns

def parseYAMLIdentity (yaml : String) : Except Error ObjectIdentity :=
  if yaml = "" then .error (.new .invalidArgument "yaml 内容不能为空")
  else
    match c.yamlToJSON yaml with
    | .error err => .error (.wrapMsg .invalidArgument err "yaml 解析失败")
    | .ok json =>
      match c.unmarshal json with
      | .error err => .error (.wrapMsg .invalidArgument err "JSON 解析失败")
      | .ok obj =>
        if obj.apiVersion = "" ∨ obj.kind = "" then
          .error (.new .invalidArgument "yaml 缺少 apiVersion 或 kind")
        else if obj.name = "" then .error (.new .invalidArgument "yaml 缺少 metadata.name")
        else .ok ⟨obj.apiVersion, obj.kind, obj.ns, obj.name⟩

def ObjectIdentity.matchGVK (id : ObjectIdentity) (apiVersion kind : String) : Except Error Unit :=
  if id.apiVersion ≠ apiVersion ∨ id.kind ≠ kind then
    .error (.new .invalidArgument "YAML 的 apiVersion/kind 与路径不一致")
  else .ok ()

def ObjectIdentity.matchNamespacedName (id : ObjectIdentity) (ns name : String) :
    Except Error Unit :=
  if id.name ≠ name then .error (.new .invalidArgument "YAML metadata.name 与路径不一致")
  else if normalizeNamespace id.ns ≠ normalizeNamespace ns then
    .error (.new .invalidArgument "YAML metadata.namespace 与路径不一致")
  else .ok ()

/-- What an apply sends is the document that its text decodes to. -/
theorem applyRequest_body {clusterCode yaml patchType : String} {patch : Patch}
    (sent : applyRequest c srv clusterCode yaml patchType = .ok patch) :
    c.yamlToJSON yaml = .ok patch.body := by
  unfold applyRequest at sent
  split at sent
  · cases sent
  split at sent
  · cases sent
  split at sent
  · cases sent
  rename_i json decoded
  split at sent
  · cases sent
  split at sent
  · cases sent
  split at sent
  · cases sent
  split at sent
  · cases sent
  · cases sent
    exact decoded

end K8sPlatform.Resource
