import K8sPlatform.Auth.Queries

namespace K8sPlatform.Resource

open Errcode Auth

structure GVK where
  group : String
  version : String
  kind : String
  deriving DecidableEq, Repr

/-- The kinds that `resource.Manager` treats as cluster-level. -/
def clusterLevelKinds : List String :=
  ["PersistentVolume", "StorageClass", "Namespace", "Node", "VolumeAttachment", "ClusterRole",
   "ClusterRoleBinding", "ClusterIssuer", "CustomResourceDefinition", "APIService",
   "PriorityClass", "RuntimeClass", "IngressClass", "CSIDriver", "CSINode",
   "MutatingWebhookConfiguration", "ValidatingWebhookConfiguration", "ComponentStatus"]

def isNamespaced (gvk : GVK) : Bool := gvk.kind ∉ clusterLevelKinds

/-- What `validateScope` reads of the request besides its namespace argument. -/
structure ScopeHeaders where
  paramCode : String
  headerClusterCode : String
  headerNamespace : String
  deriving DecidableEq, Repr

def validateScope (pt : Option PermissionTree) (req : ScopeHeaders) (gvk : GVK) (ns : String) :
    Except Error Unit :=
  let clusterCode := req.paramCode
  if req.headerClusterCode ≠ "" ∧ req.headerClusterCode ≠ clusterCode then
    .error (.new .scopeDenied "X-Cluster-Code 与路径不一致")
  else if isNamespaced gvk = false then requireClusterScope pt clusterCode
  else if req.headerNamespace ≠ "" ∧ req.headerNamespace ≠ ns then
    .error (.new .scopeDenied "X-Namespace 与路径不一致")
  else if ns = "" then
    let (nsList, isFull) := allowedNamespaces pt clusterCode
    if isFull then .ok ()
    else if nsList.isEmpty then .error (.new .scopeDenied ("无权访问集群: " ++ clusterCode))
    else
      .error (.new .invalidArgument
        ("请指定 namespace 参数；您仅可访问: " ++ ", ".intercalate nsList))
  else requireNamespaceScope pt clusterCode ns

/-- With headers that agree, a namespaced kind asks for its namespace and a cluster-level kind
for the cluster. -/
theorem validateScope_ok {pt : PermissionTree} {req : ScopeHeaders} {gvk : GVK} {ns : String}
    (cluster : req.headerClusterCode = "") (headerNs : req.headerNamespace = "") :
    validateScope (some pt) req gvk ns = .ok () ↔
      if isNamespaced gvk = true ∧ ns ≠ "" then pt.hasNamespaceScope req.paramCode ns = true
      else pt.hasClusterScope req.paramCode = true := by
  have full : (allowedNamespaces (some pt) req.paramCode).2 = pt.hasClusterScope req.paramCode :=
    allowedNamespaces_full
  rcases result : allowedNamespaces (some pt) req.paramCode with ⟨nsList, isFull⟩
  rw [result] at full
  simp only [validateScope, cluster, headerNs, result, ne_eq, not_true_eq_false, false_and,
    if_false]
  cases kind : isNamespaced gvk
  · simp
  · by_cases empty : ns = ""
    · rw [← full]
      cases isFull
      · cases nsList <;> simp [empty]
      · simp [empty]
    · simp [empty, requireNamespaceScope_ok]

end K8sPlatform.Resource
