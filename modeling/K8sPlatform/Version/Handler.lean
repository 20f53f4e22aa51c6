import K8sPlatform.Lib.Validation
import K8sPlatform.Version.Manager

/-! # The version endpoints and the scope they check -/

namespace K8sPlatform.Version

open Errcode Auth Resource

/-- A request to one of the three endpoints: query parameters, and a decoded body or the
decoder's error. -/
inductive Request
  | list (t : Target)
  | diff (query : Target) (seqA seqB : String) (body : Except String (Target × Int × Int))
  | rollback (body : Except String (Target × Int))

/-- The call that a request makes on the version manager. -/
inductive Call
  | list (t : Target)
  | diff (t : Target) (seqA seqB : Int)
  | rollback (t : Target) (seq : Int)
  deriving DecidableEq, Repr

def Call.target : Call → Target
  | .list t | .diff t _ _ | .rollback t _ => t

def requiredTarget (t : Target) : List Validation.Field :=
  [⟨"ClusterCode", [("required", t.clusterCode != "")]⟩,
   ⟨"APIVersion", [("required", t.apiVersion != "")]⟩,
   ⟨"Kind", [("required", t.kind != "")]⟩,
   ⟨"Name", [("required", t.name != "")]⟩]

def badBody (err : String) : Error := .wrapMsg .invalidArgument err "请求体解析失败"

def diffParams (query : Target) (seqA seqB : String)
    (body : Except String (Target × Int × Int)) : Except Error (Target × Int × Int) :=
  if seqA ≠ "" ∧ seqB ≠ "" then
    match Validation.atoi seqA with
    | none => .error (.new .invalidArgument "seq_a 格式错误")
    | some a =>
      match Validation.atoi seqB with
      | none => .error (.new .invalidArgument "seq_b 格式错误")
      | some b => .ok (query, a, b)
  else
    match body with
    | .error err => .error (badBody err)
    | .ok (t, a, b) =>
      match Validation.check "diffVersionsReq" (requiredTarget t) with
      | some err => .error (badBody err)
      | none => .ok (t, a, b)

/-- The part of the handlers before the scope check. -/
def Request.parse : Request → Except Error Call
  | .list t =>
      if t.missing then
        .error (.new .invalidArgument "cluster_code, api_version, kind, name 为必填查询参数")
      else .ok (.list t)
  | .diff query seqA seqB body =>
      match diffParams query seqA seqB body with
      | .error err => .error err
      | .ok (t, a, b) =>
          if t.missing then
            .error (.new .invalidArgument "cluster_code, api_version, kind, name 为必填参数")
          else if a < 0 ∨ b < 0 then
            .error (.new .invalidArgument "seq_a / seq_b 不能为负数；0 表示当前版本")
          else if a = b then .error (.new .invalidArgument "seq_a 和 seq_b 不能相同")
          else .ok (.diff t a b)
  | .rollback body =>
      match body with
      | .error err => .error (badBody err)
      | .ok (t, seq) =>
        match Validation.check "rollbackReq"
          (requiredTarget t ++ [⟨"Seq", [("required", seq != 0), ("min", 1 ≤ seq)]⟩]) with
        | some err => .error (badBody err)
        | none => .ok (.rollback t seq)

/-- A request that parses and passes the handler's `RequireNamespaceScope`. -/
def Request.scoped (pt : Option PermissionTree) (req : Request) : Except Error Call :=
  match req.parse with
  | .error err => .error err
  | .ok call =>
    match requireNamespaceScope pt call.target.clusterCode call.target.ns with
    | .error err => .error err
    | .ok () => .ok call

/-- What a call answers with. -/
inductive Answer
  | versions (items : List ResourceSnapshot)
  | diff (yamlA yamlB : String)
  | rolledBack (result : RolledBack)
  deriving DecidableEq, Repr

/-- The call on the manager; only a rollback needs the user of the context. -/
def Call.run (b : Backend) (maxVersions : Nat) (table : SnapshotTable) (author : Option Author) :
    Call → Except Error Answer
  | .list t => (listVersions b maxVersions table t).map .versions
  | .diff t seqA seqB => (diffVersions b table t seqA seqB).map fun (a, b) => .diff a b
  | .rollback t seq =>
      match author with
      | none => .error (.new .unauthenticated "无法识别当前用户")
      | some author => (Version.rollback b maxVersions table t seq author).map .rolledBack

def serve (b : Backend) (maxVersions : Nat) (table : SnapshotTable) (author : Option Author)
    (pt : Option PermissionTree) (req : Request) : Except Error Answer :=
  match req.scoped pt with
  | .error err => .error err
  | .ok call => call.run b maxVersions table author

/-- The resource endpoints would admit the call's object, from a request whose headers
agree with it. -/
def ResourceAdmits (pt : PermissionTree) (gvk : GVK) (t : Target) : Prop :=
  validateScope (some pt) ⟨t.clusterCode, "", ""⟩ gvk t.ns = .ok ()

/-- The object is of a namespaced kind or named without a namespace, or else the caller has
the whole cluster, or not the namespace either. -/
def ScopesAgree (pt : PermissionTree) (gvk : GVK) (t : Target) : Prop :=
  isNamespaced gvk = true ∨ t.ns = "" ∨ pt.hasClusterScope t.clusterCode = true ∨
    pt.hasNamespaceScope t.clusterCode t.ns = false

theorem scoped_ok {pt : PermissionTree} {req : Request} {call : Call} :
    req.scoped (some pt) = .ok call ↔
      req.parse = .ok call ∧
        requireNamespaceScope (some pt) call.target.clusterCode call.target.ns = .ok () := by
  unfold Request.scoped
  cases req.parse with
  | error err => simp
  | ok c =>
      cases check : requireNamespaceScope (some pt) c.target.clusterCode c.target.ns with
      | error err =>
          simp only [check, Except.ok.injEq]
          refine ⟨nofun, ?_⟩
          rintro ⟨rfl, ok⟩
          rw [check] at ok
          cases ok
      | ok _ =>
          simp only [check, Except.ok.injEq]
          exact ⟨fun eq => ⟨eq, eq ▸ check⟩, And.left⟩

theorem resourceAdmits_iff {pt : PermissionTree} {gvk : GVK} {t : Target} :
    ResourceAdmits pt gvk t ↔
      if isNamespaced gvk = true ∧ t.ns ≠ "" then
        pt.hasNamespaceScope t.clusterCode t.ns = true
      else pt.hasClusterScope t.clusterCode = true :=
  validateScope_ok rfl rfl

/-- The two checks give one answer for an object exactly when `ScopesAgree`. -/
theorem namespaceScope_admits_iff {pt : PermissionTree} {gvk : GVK} {t : Target} :
    (requireNamespaceScope (some pt) t.clusterCode t.ns = .ok () → ResourceAdmits pt gvk t) ↔
      ScopesAgree pt gvk t := by
  rw [requireNamespaceScope_ok, resourceAdmits_iff, ScopesAgree]
  by_cases empty : t.ns = ""
  · simp [empty]
  · cases kind : isNamespaced gvk
    · cases cluster : pt.hasClusterScope t.clusterCode <;>
        cases ns : pt.hasNamespaceScope t.clusterCode t.ns <;> simp [empty]
    · simp [empty]

/-- For every request to the version endpoints, whatever group and version its apiVersion
decodes to: what passes the handler would pass the resource endpoints exactly when the scopes
of the object agree. -/
theorem version_scope_iff (pt : PermissionTree) (req : Request) (group version : String) :
    (∀ call, req.scoped (some pt) = .ok call →
        ResourceAdmits pt ⟨group, version, call.target.kind⟩ call.target) ↔
      ∀ call, req.parse = .ok call →
        ScopesAgree pt ⟨group, version, call.target.kind⟩ call.target := by
  apply forall_congr'
  intro call
  rw [scoped_ok, and_imp]
  exact forall_congr' fun _ => namespaceScope_admits_iff

/-- A caller with one namespace of one cluster. -/
def oneNamespace : PermissionTree := ⟨∅, [⟨scopeNamespace, "prod", "default"⟩], false⟩

def nodeTarget : Target := ⟨"prod", "default", "v1", "Node", "node-1"⟩

def nodeSnapshot : ResourceSnapshot :=
  ⟨"prod", "_cluster_", "v1", "Node", "node-1", 3, "unschedulable: true", "", "admin", "ui", 1⟩

def nodeObject : KubeObject := ⟨"v1", "Node", "", "node-1", "unschedulable: false"⟩

/-- A cluster with one node. -/
def nodeBackend : Backend where
  parseGroupVersion := fun _ => .ok ("", "v1")
  getResource := fun _ _ _ _ => .ok nodeObject
  applyResource := fun _ yaml => .ok { nodeObject with yaml := yaml }
  stripManagedFields := id

/-- A caller with one namespace rolls back a node by naming it in that namespace. -/
theorem node_rollback_from_namespace :
    (Request.rollback (.ok (nodeTarget, 3))).scoped (some oneNamespace) =
        .ok (.rollback nodeTarget 3) ∧
      ¬ ResourceAdmits oneNamespace ⟨"", "v1", "Node"⟩ nodeTarget ∧
      ((serve nodeBackend 5 [nodeSnapshot] (some ⟨"dev", 7⟩) (some oneNamespace)
        (.rollback (.ok (nodeTarget, 3)))).toOption.map fun
          | .rolledBack result => result.manifest
          | _ => "") = some "unschedulable: true" := by
  refine ⟨by rfl, ?_, by rfl⟩
  rw [resourceAdmits_iff]
  decide

end K8sPlatform.Version
