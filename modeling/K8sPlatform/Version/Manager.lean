import K8sPlatform.Resource.Scope

namespace K8sPlatform.Version

open Errcode Resource

structure ResourceSnapshot where
  clusterCode : String
  ns : String
  apiVersion : String
  kind : String
  name : String
  versionSeq : Int
  rawYAML : String
  changeSummary : String
  operator : String
  source : String
  operatorId : Nat
  deriving DecidableEq, Repr

/-- The live rows of the snapshot table. -/
abbrev SnapshotTable := List ResourceSnapshot

/-- An object that the API server returned, with its identity and its YAML. -/
structure KubeObject where
  apiVersion : String
  kind : String
  ns : String
  name : String
  yaml : String
  deriving DecidableEq, Repr

/-- What the manager works against: the decoding of an apiVersion, the live objects of a
cluster, the outcome of a server-side apply, and the clean-up of a YAML text. -/
structure Backend where
  parseGroupVersion : String → Except String (String × String)
  getResource : String → GVK → String → String → Except Error KubeObject
  applyResource : String → String → Except Error KubeObject
  stripManagedFields : String → String

/-- The object that a request names. -/
structure Target where
  clusterCode : String
  ns : String
  apiVersion : String
  kind : String
  name : String
  deriving DecidableEq, Repr

structure Author where
  operator : String
  operatorId : Nat
  deriving DecidableEq, Repr

def clusterNamespace : String := "_cluster_"

def Target.missing (t : Target) : Bool :=
  t.clusterCode == "" || t.apiVersion == "" || t.kind == "" || t.name == ""

/-- A cluster-level object keeps its snapshots under `_cluster_`, whatever namespace the
request names. -/
def effectiveNS (gvk : GVK) (ns : String) : String :=
  if isNamespaced gvk then ns else clusterNamespace

/-- The snapshots of an object, under its effective namespace. -/
def snapshotsOf (table : SnapshotTable) (gvk : GVK) (t : Target) : List ResourceSnapshot :=
  table.filter fun snap =>
    snap.clusterCode == t.clusterCode && snap.ns == effectiveNS gvk t.ns &&
      snap.apiVersion == t.apiVersion && snap.kind == t.kind && snap.name == t.name

/-- The namespace that a request gives a cluster-level object selects nothing. -/
theorem snapshotsOf_clusterLevel {gvk : GVK} (cluster : isNamespaced gvk = false)
    (table : SnapshotTable) (t : Target) (ns : String) :
    snapshotsOf table gvk { t with ns := ns } = snapshotsOf table gvk t := by
  simp [snapshotsOf, effectiveNS, cluster]

def nextVersionSeq (table : SnapshotTable) (gvk : GVK) (t : Target) : Int :=
  ((snapshotsOf table gvk t).map (·.versionSeq)).foldl max 0 + 1

variable (b : Backend) (maxVersions : Nat) (table : SnapshotTable)

/-- The kind of the target, once its fields and its apiVersion are accepted. -/
def gvkOf (t : Target) : Except Error GVK :=
  if t.missing then
    .error (.new .invalidArgument "cluster_code, api_version, kind, name 不能为空")
  else
    match b.parseGroupVersion t.apiVersion with
    | .error err => .error (.wrapMsg .invalidArgument err "apiVersion 解析失败")
    | .ok (group, version) => .ok ⟨group, version, t.kind⟩

def newSnapshot (gvk : GVK) (t : Target) (rawYAML changeSummary source : String)
    (author : Author) : ResourceSnapshot where
  clusterCode := t.clusterCode
  ns := effectiveNS gvk t.ns
  apiVersion := t.apiVersion
  kind := t.kind
  name := t.name
  versionSeq := nextVersionSeq table gvk t
  rawYAML := rawYAML
  changeSummary := changeSummary
  operator := author.operator
  source := source
  operatorId := author.operatorId

/-- An object that does not exist yet has no snapshot before. -/
def snapshotBefore (t : Target) (source changeSummary : String) (author : Author) :
    Except Error (Int × SnapshotTable) := do
  let gvk ← gvkOf b t
  match b.getResource t.clusterCode gvk t.ns t.name with
  | .error err => if err.code = .notFound then return (0, table) else throw err
  | .ok obj =>
      let snap := newSnapshot table gvk t obj.yaml changeSummary source author
      return (snap.versionSeq, table ++ [snap])

/-- Stores the new state and drops the snapshots that fall out of the last `maxVersions`. -/
def snapshotAfter (obj : KubeObject) (clusterCode source changeSummary : String)
    (author : Author) : Except Error SnapshotTable := do
  if clusterCode = "" then throw (.new .invalidArgument "obj 和 cluster_code 不能为空")
  let t : Target := ⟨clusterCode, obj.ns, obj.apiVersion, obj.kind, obj.name⟩
  match b.parseGroupVersion t.apiVersion with
  | .error err => throw (.wrapMsg .invalidArgument err "apiVersion 解析失败")
  | .ok (group, version) =>
      let gvk : GVK := ⟨group, version, t.kind⟩
      let snap := newSnapshot table gvk t obj.yaml changeSummary source author
      let keepVersion := snap.versionSeq - maxVersions + 1
      let stored := table ++ [snap]
      if 1 < keepVersion then
        return stored.filter fun s => !(s ∈ snapshotsOf stored gvk t && s.versionSeq < keepVersion)
      else return stored

def listVersions (t : Target) : Except Error (List ResourceSnapshot) := do
  let gvk ← gvkOf b t
  return ((snapshotsOf table gvk t).mergeSort
    fun x y => decide (y.versionSeq ≤ x.versionSeq)).take maxVersions

def getVersion (t : Target) (seq : Int) : Except Error ResourceSnapshot := do
  let gvk ← gvkOf b t
  match (snapshotsOf table gvk t).find? (·.versionSeq == seq) with
  | none => throw (.ofCode .versionNotFound)
  | some snap => return snap

def currentVersionSeq : Int := 0

def currentResourceYAML (t : Target) : Except Error String := do
  let gvk ← gvkOf b t
  let obj ← b.getResource t.clusterCode gvk t.ns t.name
  return obj.yaml

def yamlBySeq (t : Target) (seq : Int) : Except Error String :=
  if seq < currentVersionSeq then .error (.new .invalidArgument "version seq 不能为负数")
  else if seq = currentVersionSeq then currentResourceYAML b t
  else (getVersion b table t seq).map (·.rawYAML)

def diffVersions (t : Target) (seqA seqB : Int) : Except Error (String × String) := do
  if seqA < currentVersionSeq ∨ seqB < currentVersionSeq then
    throw (.new .invalidArgument "seq 不能为负数；0 表示当前版本")
  if seqA = seqB then throw (.new .invalidArgument "seqA 和 seqB 不能相同")
  let yamlA ← yamlBySeq b table t seqA
  let yamlB ← yamlBySeq b table t seqB
  return (b.stripManagedFields yamlA, b.stripManagedFields yamlB)

/-- A rollback: the manifest it applied, the object it got back, and the table after it. -/
structure RolledBack where
  manifest : String
  object : KubeObject
  table : SnapshotTable
  deriving DecidableEq, Repr

def rollback (t : Target) (seq : Int) (author : Author) : Except Error RolledBack := do
  let snap ← getVersion b table t seq
  match snapshotBefore b table t "rollback" ("回滚到版本 " ++ toString seq) author with
  | .error err => throw (.wrapMsg .versionRollbackFail err.text "SnapshotBefore 失败")
  | .ok (_, saved) =>
    match b.applyResource t.clusterCode snap.rawYAML with
    | .error err => throw (.wrapMsg .versionRollbackFail err.text "ServerSideApply 失败")
    | .ok patched =>
        -- an error of the snapshot after is dropped
        let final := match snapshotAfter b maxVersions saved patched t.clusterCode "rollback"
            ("回滚到版本 " ++ toString seq ++ " 成功") author with
          | .ok stored => stored
          | .error _ => saved
        return ⟨snap.rawYAML, patched, final⟩

end K8sPlatform.Version
