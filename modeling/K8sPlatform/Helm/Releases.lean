import K8sPlatform.Auth.Middleware
import K8sPlatform.Kubeconfig.Parser
import K8sPlatform.Lib.Greatest

/-! # The list of helm releases, from the secrets that helm keeps -/

namespace K8sPlatform.Helm

open Errcode Auth Greatest
open Kubeconfig (Ranging)

/-- A secret with the label `owner=helm`; its time of creation is as RFC 3339 writes it. -/
structure Secret where
  ns : String
  labels : List (String × String)
  creationTimestamp : String
  deriving DecidableEq, Repr

def Secret.label (sec : Secret) (key : String) : String := (sec.labels.lookup key).getD ""

structure HelmRelease where
  name : String
  ns : String
  revision : String
  status : String
  chart : String
  appVersion : String
  updated : String
  deriving DecidableEq, Repr

/-- What the list is read from: the configuration of the cluster, the error of building a client,
and the secrets in a namespace, or in all of them. -/
structure SecretReader where
  getRestConfig : String → Except Error Unit
  newForConfig : Option String
  list : String → Except String (List Secret)

def Secret.release (sec : Secret) : HelmRelease where
  name := sec.label "name"
  ns := sec.ns
  revision := sec.label "version"
  status := sec.label "status"
  chart := if sec.label "chart" = "" then "-" else sec.label "chart"
  appVersion := ""
  updated := sec.creationTimestamp

/-- One turn of the loop. The map is by name, and revisions are compared as texts. -/
def addSecret (releaseMap : OrderedMap String HelmRelease) (sec : Secret) :
    OrderedMap String HelmRelease :=
  let name := sec.label "name"
  if name = "" then releaseMap
  else
    match releaseMap.get? name with
    | some existing =>
        if existing.revision ≥ sec.label "version" then releaseMap
        else releaseMap.set name sec.release
    | none => releaseMap.set name sec.release

def allNamespaces (ns : String) : Bool := ns = "" ∨ ns = "all" ∨ ns = "ALL"

/-- The releases come in the order in which the map is ranged over. -/
def listReleases (k : SecretReader) (x : Ranging) (clusterCode ns : String) :
    Except Error (List HelmRelease) :=
  match k.getRestConfig clusterCode with
  | .error err => .error err
  | .ok () =>
    match k.newForConfig with
    | some err => .error (.wrapMsg .internal err "创建 kubernetes clientset 失败")
    | none =>
      match k.list (if allNamespaces ns then "" else ns) with
      | .error err => .error (.wrapMsg .internal err "查询 Helm release secrets 失败")
      | .ok secrets =>
          let releaseMap := secrets.foldl addSecret .empty
          .ok ((x.keys (releaseMap.entries.map Prod.fst)).filterMap releaseMap.get?)

/-- The endpoint: a caller who asks for all namespaces is shown those in reach. -/
def listReleasesHandler (tree : Option PermissionTree) (k : SecretReader) (x : Ranging)
    (clusterCode ns : String) : Except Error (List HelmRelease) :=
  if clusterCode = "" then .error (.new .invalidArgument "cluster code 不能为空")
  else
    let admitted := if allNamespaces ns then .ok () else requireNamespaceScope tree clusterCode ns
    match admitted with
    | .error err => .error err
    | .ok () =>
      match listReleases k x clusterCode ns with
      | .error err => .error (.wrapMsg .internal err.text "查询 Helm releases 失败")
      | .ok releases =>
          if allNamespaces ns then
            match allowedNamespaces tree clusterCode with
            | (_, true) => .ok releases
            | ([], false) => .ok []
            | (allowed, false) => .ok (releases.filter fun r => r.ns ∈ allowed)
          else .ok releases

/-! ## The release of each name -/

/-- The releases that the secrets are of, with all their revisions. -/
def revisions (secrets : List Secret) : List HelmRelease :=
  (secrets.map Secret.release).filter fun r => r.name ≠ ""

theorem addSecret_eq (releaseMap : OrderedMap String HelmRelease) (sec : Secret) :
    addSecret releaseMap sec =
      if sec.release.name = "" then releaseMap
      else collect HelmRelease.name HelmRelease.revision releaseMap sec.release := by
  have name : sec.release.name = sec.label "name" := rfl
  have revision : sec.release.revision = sec.label "version" := rfl
  simp only [addSecret, collect, name, revision, ge_iff_le]
  split
  · rfl
  · cases releaseMap.get? (sec.label "name") <;> rfl

theorem foldl_addSecret (secrets : List Secret) :
    secrets.foldl addSecret .empty =
      ofList HelmRelease.name HelmRelease.revision (revisions secrets) := by
  induction secrets using List.reverseRecOn with
  | nil => rfl
  | append_singleton secrets sec ih =>
      rw [List.foldl_append, List.foldl_cons, List.foldl_nil, ih, addSecret_eq]
      unfold revisions ofList
      rw [List.map_append, List.filter_append, List.foldl_append]
      by_cases nameless : sec.release.name = ""
      · simp [nameless]
      · simp [nameless]

/-- Ranging over a map gives its entries, in some order. -/
theorem ranging_perm (x : Ranging) (m : OrderedMap String HelmRelease) :
    ((x.keys (m.entries.map Prod.fst)).filterMap m.get?).Perm (m.entries.map Prod.snd) := by
  have inOrder : (m.entries.map Prod.fst).filterMap m.get? = m.entries.map Prod.snd := by
    rw [List.filterMap_map, ← List.filterMap_eq_map]
    apply List.filterMap_congr
    intro e mem
    exact OrderedMap.get?_eq_some.2 mem
  rw [← inOrder]
  exact (x.perm _).filterMap _

/-- The secrets that a call lists. -/
structure SecretReader.Lists (k : SecretReader) (clusterCode ns : String)
    (secrets : List Secret) : Prop where
  config : k.getRestConfig clusterCode = .ok ()
  client : k.newForConfig = none
  listed : k.list (if allNamespaces ns then "" else ns) = .ok secrets

variable {k : SecretReader} {x : Ranging} {clusterCode ns : String} {secrets : List Secret}

/-- What is listed has one release of each name, with the revision that is greatest as a text. -/
theorem listReleases_selects (lists : k.Lists clusterCode ns secrets) :
    ∃ releases, listReleases k x clusterCode ns = .ok releases ∧
      Selects HelmRelease.name HelmRelease.revision (revisions secrets) releases := by
  refine ⟨_, ?_, (selects_ofList (revisions secrets)).perm (ranging_perm x _)⟩
  simp only [listReleases, lists.config, lists.client, lists.listed, foldl_addSecret]

/-- The endpoint leaves out releases of the manager's list, for a caller who does not reach all
namespaces, and adds none. -/
theorem listReleasesHandler_sublist {tree : Option PermissionTree} {releases : List HelmRelease}
    (answered : listReleasesHandler tree k x clusterCode ns = .ok releases) :
    ∃ all, listReleases k x clusterCode ns = .ok all ∧ releases.Sublist all ∧
      (allNamespaces ns = false ∨ (allowedNamespaces tree clusterCode).2 = true →
        releases = all) := by
  unfold listReleasesHandler at answered
  split_ifs at answered with noCluster every
  · dsimp only at answered
    cases all : listReleases k x clusterCode ns with
    | error err => simp [all] at answered
    | ok listed =>
        refine ⟨listed, rfl, ?_⟩
        rw [all] at answered
        rcases allowed : allowedNamespaces tree clusterCode with ⟨nss, full⟩
        rw [allowed] at answered
        cases full with
        | true =>
            obtain rfl := Except.ok.inj answered
            exact ⟨.refl _, fun _ => rfl⟩
        | false =>
            refine ⟨?_, fun whole => by simp [every] at whole⟩
            cases nss with
            | nil =>
                obtain rfl := Except.ok.inj answered
                exact List.nil_sublist _
            | cons first rest =>
                obtain rfl := Except.ok.inj answered
                exact List.filter_sublist
  · cases scope : requireNamespaceScope tree clusterCode ns with
    | error err => simp [scope] at answered
    | ok _ =>
        cases all : listReleases k x clusterCode ns with
        | error err => simp [scope, all] at answered
        | ok listed =>
            rw [scope, all] at answered
            obtain rfl := Except.ok.inj answered
            exact ⟨listed, rfl, .refl _, fun _ => rfl⟩

/-- The number that a text of decimal digits stands for. -/
def number (digits : String) : Nat := Nat.ofDigitChars 10 digits.toList 0

/-- One release for each name in each namespace, with the greatest number of revision. -/
def Latest (secrets : List Secret) (releases : List HelmRelease) : Prop :=
  Selects (fun r => (r.ns, r.name)) (fun r => number r.revision) (revisions secrets) releases

/-- No name is used in two namespaces. -/
def NamesApart (secrets : List Secret) : Prop :=
  ∀ r ∈ revisions secrets, ∀ r' ∈ revisions secrets, r.name = r'.name → r.ns = r'.ns

/-- Of the revisions of a name, the one that comes last as a text has the greatest number. -/
def RevisionsAlign (secrets : List Secret) : Prop :=
  ∀ r ∈ revisions secrets,
    (∀ r' ∈ revisions secrets, r'.name = r.name → r'.revision ≤ r.revision) →
      ∀ r' ∈ revisions secrets, r'.ns = r.ns → r'.name = r.name →
        number r'.revision ≤ number r.revision

/-- A list of releases shows the latest revisions just when no release is hidden by one of its name
in another namespace, and no later revision by an earlier one that is greater as a text. -/
theorem latest_listed_iff (lists : k.Lists clusterCode ns secrets) :
    (∃ releases, listReleases k x clusterCode ns = .ok releases ∧ Latest secrets releases) ↔
      NamesApart secrets ∧ RevisionsAlign secrets := by
  obtain ⟨releases, listed, selects⟩ := listReleases_selects (x := x) lists
  have latest : (∃ releases, listReleases k x clusterCode ns = .ok releases ∧
      Latest secrets releases) ↔ Latest secrets releases := by
    rw [listed]
    constructor
    · rintro ⟨releases', same, latest⟩
      rwa [Except.ok.inj same]
    · exact fun latest => ⟨releases, rfl, latest⟩
  have regrouped := selects.regroup_iff
    (fun r r' (same : (r.ns, r.name) = (r'.ns, r'.name)) => (Prod.mk.inj same).2)
    (fun r r' (same : r.revision = r'.revision) => congrArg number same)
  rw [latest, Latest, regrouped]
  constructor
  · rintro ⟨apart, aligned⟩
    constructor
    · intro r mem r' mem' same
      exact (Prod.mk.inj (apart r mem r' mem' same)).1
    · intro r mem last r' mem' sameNs sameName
      exact aligned r mem last r' mem' (Prod.ext sameNs sameName)
  · rintro ⟨apart, aligned⟩
    constructor
    · intro r mem r' mem' same
      exact Prod.ext (apart r mem r' mem' same) same
    · intro r mem last r' mem' same
      exact aligned r mem last r' mem' (Prod.mk.inj same).1 (Prod.mk.inj same).2

/-- The secret of a revision, in the way helm labels it. -/
def secretOf (ns name version : String) : Secret where
  ns := ns
  labels := [("name", name), ("owner", "helm"), ("status", "deployed"), ("version", version)]
  creationTimestamp := "2024-05-01T08:00:00Z"

def reading (secrets : List Secret) : SecretReader where
  getRestConfig _ := .ok ()
  newForConfig := none
  list _ := .ok secrets

def keysInOrder : Ranging where
  keys ks := ks
  perm := .refl

/-- Two revisions of a release, and a release of the same name elsewhere. -/
def upgraded : List Secret :=
  [secretOf "prod" "web" "9", secretOf "prod" "web" "10", secretOf "test" "web" "3"]

/-- The list has revision 9 of the one release, and the other release not at all. -/
theorem tenth_revision_hidden :
    (∀ sec ∈ upgraded, (sec.label "version").toList.all Char.isDigit = true) ∧
      (reading upgraded).Lists "dev" "" upgraded ∧
      ¬∃ releases, listReleases (reading upgraded) keysInOrder "dev" "" = .ok releases ∧
        Latest upgraded releases := by
  refine ⟨by decide, ⟨rfl, rfl, rfl⟩, ?_⟩
  rintro ⟨releases, listed, latest⟩
  have all : listReleases (reading upgraded) keysInOrder "dev" "" =
      .ok [(secretOf "prod" "web" "9").release] := by decide +kernel
  obtain rfl := Except.ok.inj (all.symm.trans listed)
  have tenth : (secretOf "prod" "web" "10").release ∈ revisions upgraded := by decide
  obtain ⟨r, mem, -, greatest⟩ := latest.covers _ tenth
  obtain rfl := List.mem_singleton.1 mem
  have le := greatest _ tenth rfl
  revert le
  decide

/-- Releases that were upgraded less than nine times, with a name each. -/
def recent : List Secret :=
  [secretOf "prod" "web" "1", secretOf "prod" "web" "2", secretOf "test" "db" "1"]

theorem recent_latest :
    ∃ releases, listReleases (reading recent) keysInOrder "dev" "" = .ok releases ∧
      Latest recent releases := by
  have lists : (reading recent).Lists "dev" "" recent := ⟨rfl, rfl, rfl⟩
  apply (latest_listed_iff lists).2
  constructor
  · unfold NamesApart
    decide
  · unfold RevisionsAlign
    decide

end K8sPlatform.Helm
