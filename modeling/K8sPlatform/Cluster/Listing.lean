import K8sPlatform.Auth.Queries
import K8sPlatform.Backup.Manager
import K8sPlatform.Cluster.Storage
import K8sPlatform.Lib.Paging

/-! # The list of clusters against the access to a single cluster -/

namespace K8sPlatform.Clusters

open Errcode Auth Crypto Paging
open Backup (Lowering like)

structure ListQuery where
  page : Int
  size : Int
  keyword : String

structure ListResult where
  total : Nat
  items : List Cluster

/-- `ILIKE` with the keyword between two `%`; what is special in a pattern is not escaped. -/
def Cluster.hasKeyword (low : Lowering) (keyword : String) (c : Cluster) : Bool :=
  keyword == "" || [c.name, c.code, c.description].any fun column =>
    like (low.sqlLower ("%" ++ keyword ++ "%")).toList (low.sqlLower column).toList

def ListQuery.pageNumber (q : ListQuery) : Int := if q.page < 1 then 1 else q.page

def ListQuery.pageSize (q : ListQuery) : Int :=
  if q.size < 1 then 20 else if q.size > 200 then 200 else q.size

/-- `OFFSET` and `LIMIT`, in 64-bit arithmetic; a negative offset is left out. -/
def ListQuery.window (q : ListQuery) : Nat × Nat :=
  ((Int.bmod ((q.pageNumber - 1) * q.pageSize) (2 ^ 64)).toNat, q.pageSize.toNat)

variable (low : Lowering)

/-- The newest rows come first; `failure` is what the database says to the query. -/
def list (failure : Option String) (t : Table) (q : ListQuery) (onlyCodes : List String) :
    Except Error ListResult :=
  match failure with
  | some err => .error (.wrap .databaseError err)
  | none =>
      let rows := t.filter fun c =>
        !c.deleted && (onlyCodes.isEmpty || onlyCodes.contains c.code) && c.hasKeyword low q.keyword
      let (offset, limit) := q.window
      .ok ⟨rows.length, ((rows.reverse.drop offset).take limit).map Cluster.withoutKubeconfig⟩

def listInCodes (failure : Option String) (t : Table) (q : ListQuery) (codes : List String) :
    Except Error ListResult :=
  if codes.isEmpty then .ok ⟨0, []⟩ else list low failure t q codes

/-- The handler. -/
def listClusters (failure : Option String) (t : Table) (pt : Option PermissionTree)
    (q : ListQuery) : Except Error ListResult :=
  match allowedClusters pt with
  | (_, true) => list low failure t q []
  | (codes, false) => listInCodes low failure t q codes

def getByCode (failure : Option String) (t : Table) (clusterCode : String) :
    Except Error Cluster :=
  if clusterCode = "" then .error (.new .invalidArgument "cluster code 不能为空")
  else
    match failure with
    | some err => .error (.wrap .databaseError err)
    | none =>
        match t.find clusterCode with
        | none => .error (.new .notFound "集群不存在")
        | some c => .ok c.withoutKubeconfig

/-- The handler. -/
def getCluster (failure : Option String) (t : Table) (pt : Option PermissionTree)
    (code : String) : Except Error Cluster :=
  match requireAnyClusterAccess pt code with
  | .error err => .error err
  | .ok () => getByCode failure t code

/-- Codes are a unique index, of deleted rows too, and none is empty. -/
structure Table.Keyed (t : Table) : Prop where
  distinct : (t.map (·.code)).Nodup
  named : ∀ c ∈ t, c.code ≠ ""

theorem Table.Keyed.codes {t t' : Table} (keyed : t.Keyed)
    (same : t'.map (·.code) = t.map (·.code)) : t'.Keyed := by
  constructor
  · rw [same]
    exact keyed.distinct
  · intro c mem
    have there : c.code ∈ t.map (·.code) := same ▸ List.mem_map_of_mem mem
    obtain ⟨old, mem', eq⟩ := List.mem_map.1 there
    rw [← eq]
    exact keyed.named old mem'

theorem Table.Keyed.find {t : Table} (keyed : t.Keyed) {c : Cluster} (mem : c ∈ t)
    (live : c.deleted = false) : t.find c.code = some c := by
  cases found : t.find c.code with
  | none =>
      rw [Table.find, List.find?_eq_none] at found
      exact absurd (by simp [live]) (found c mem)
  | some c' =>
      obtain ⟨mem', same, -⟩ := find_some found
      rw [List.inj_on_of_nodup_map keyed.distinct mem' mem same]

theorem codes_set (t : Table) (code : String) (u : Updates) :
    (t.set code u).map (·.code) = t.map (·.code) := by
  rw [Table.set, List.map_map]
  apply List.map_congr_left
  intro c _
  rw [Function.comp_apply]
  split
  · exact apply_code u c
  · rfl

theorem codes_delete (t : Table) (code : String) :
    (t.delete code).map (·.code) = t.map (·.code) := by
  rw [Table.delete, List.map_map]
  apply List.map_congr_left
  intro c _
  rw [Function.comp_apply]
  split <;> rfl

namespace History

variable {lib : Libraries}

theorem next_keyed {h : History} (keyed : h.table.Keyed) (e : HistoryStep) :
    (h.next lib e).table.Keyed := by
  cases e with
  | importCluster x nonce name code raw creatorId =>
      rw [next]
      obtain ⟨err, fails⟩ | ⟨c, adds, imports⟩ :=
        importCluster_cases lib h.kms x nonce h.table name code raw creatorId
      · simp only [fails]
        exact keyed
      · simp only [adds]
        constructor
        · change ((h.table ++ [c]).map (·.code)).Nodup
          rw [List.map_append, List.nodup_append]
          refine ⟨keyed.distinct, List.nodup_singleton _, ?_⟩
          rintro code' old _ new rfl
          rw [List.mem_singleton.1 new] at old
          exact imports.fresh (imports.code_eq ▸ old)
        · intro c' mem
          rcases List.mem_append.1 mem with old | new
          · exact keyed.named c' old
          · rw [List.mem_singleton.1 new, imports.code_eq]
            exact imports.named
  | update x nonce code input operatorId =>
      rw [next]
      obtain ⟨err, fails⟩ | ⟨c, i, u, rfl, -, writes⟩ :=
        update_cases lib h.kms x nonce h.table code input operatorId
      · simp only [fails]
        exact keyed
      · simp only [writes]
        split <;> exact keyed.codes (codes_set _ _ _)
  | delete code =>
      rw [next]
      obtain ⟨err, fails⟩ | deletes := delete_cases h.table code
      · simp only [fails]
        exact keyed
      · simp only [deletes]
        exact keyed.codes (codes_delete _ _)
  | rotate key => exact keyed

theorem keyed_invariant (lib : Libraries) (kms : AESGCM) :
    Transition.Invariant (runs lib kms) fun h => h.table.Keyed where
  init := by
    rintro h rfl
    exact ⟨List.nodup_nil, fun c none_ => nomatch none_⟩
  step := by
    rintro h e h' keyed rfl
    exact next_keyed keyed e

end History

/-! ## The list -/

/-- What `GetCluster` answers to the caller about the live rows with the keyword, the newest row
first. -/
def served (t : Table) (pt : Option PermissionTree) (keyword : String) : List Cluster :=
  (t.filter fun c => !c.deleted && c.hasKeyword low keyword).reverse.filterMap fun c =>
    (getCluster none t pt c.code).toOption

def Allowed (pt : Option PermissionTree) (code : String) : Bool :=
  (allowedClusters pt).2 || (allowedClusters pt).1.contains code

variable {low} {t : Table} {pt : Option PermissionTree}

theorem getCluster_live (keyed : t.Keyed) {c : Cluster} (mem : c ∈ t) (live : c.deleted = false) :
    (getCluster none t pt c.code).toOption =
      if Allowed pt c.code = true then some c.withoutKubeconfig else none := by
  have named := keyed.named c mem
  have got : getByCode none t c.code = .ok c.withoutKubeconfig := by
    simp [getByCode, named, keyed.find mem live]
  cases pt with
  | none => rfl
  | some pt =>
      have agree : Allowed (some pt) c.code = true ↔ pt.hasAnyAccessToCluster c.code = true := by
        rw [hasAnyAccessToCluster_iff_allowed named]
        simp [Allowed, allowedClusters]
      rw [getCluster, requireAnyClusterAccess]
      by_cases allowed : Allowed (some pt) c.code = true
      · rw [if_pos allowed, if_pos (agree.1 allowed)]
        dsimp only
        rw [got]
        rfl
      · rw [if_neg allowed, if_neg fun access => allowed (agree.2 access)]
        rfl

theorem served_eq (keyed : t.Keyed) (keyword : String) :
    served low t pt keyword =
      (t.filter fun c => !c.deleted && Allowed pt c.code && c.hasKeyword low keyword).reverse.map
        Cluster.withoutKubeconfig := by
  have answers : ∀ c ∈ t.filter fun c => !c.deleted && c.hasKeyword low keyword,
      (getCluster none t pt c.code).toOption =
        (Option.guard (fun c => Allowed pt c.code) c).map Cluster.withoutKubeconfig := by
    intro c mem
    obtain ⟨there, shown⟩ := List.mem_filter.1 mem
    rw [Bool.and_eq_true, Bool.not_eq_true'] at shown
    rw [getCluster_live keyed there shown.1, Option.guard]
    split <;> rfl
  rw [served, List.filterMap_reverse, List.filterMap_congr answers, ← List.map_filterMap,
    List.filterMap_eq_filter, List.filter_filter, List.map_reverse]
  congr 3
  funext c
  rw [← Bool.and_assoc, Bool.and_comm (Allowed pt c.code)]

theorem ListQuery.pageSize_bounds (q : ListQuery) : 1 ≤ q.pageSize ∧ q.pageSize ≤ 200 := by
  unfold pageSize
  split_ifs <;> omega

theorem ListQuery.window_eq (q : ListQuery) {n : Nat} (pos : 1 ≤ n) (here : q.page = n)
    (small : (n - 1) * q.pageSize.toNat < 2 ^ 63) :
    q.window = ((n - 1) * q.pageSize.toNat, q.pageSize.toNat) := by
  obtain ⟨low, high⟩ := q.pageSize_bounds
  have number : q.pageNumber = n := by
    rw [pageNumber, here, if_neg (by omega)]
  have offset : ((n : Int) - 1) * q.pageSize = ((n - 1) * q.pageSize.toNat : Nat) := by
    rw [Int.natCast_mul, Int.toNat_of_nonneg (by omega), Int.natCast_sub pos]
    rfl
  rw [window, number, offset, Int.bmod_eq_of_le (by omega) (by omega), Int.toNat_natCast]

theorem list_eq (keyed : t.Keyed) (q : ListQuery) {codes : List String}
    (reach : ∀ code, (codes.isEmpty || codes.contains code) = Allowed pt code) :
    list low none t q codes =
      .ok ⟨(served low t pt q.keyword).length,
        ((served low t pt q.keyword).drop q.window.1).take q.window.2⟩ := by
  rw [served_eq keyed, list]
  simp only [reach, List.length_map, List.length_reverse, List.map_drop, List.map_take]

theorem listClusters_eq (keyed : t.Keyed) (q : ListQuery) :
    listClusters low none t pt q =
      .ok ⟨(served low t pt q.keyword).length,
        ((served low t pt q.keyword).drop q.window.1).take q.window.2⟩ := by
  rw [listClusters]
  rcases allowed : allowedClusters pt with ⟨codes, full⟩
  cases full with
  | true =>
      apply list_eq keyed
      intro code
      simp [Allowed, allowed]
  | false =>
      dsimp only [listInCodes]
      split
      · next none_ =>
          have nothing : served low t pt q.keyword = [] := by
            rw [List.isEmpty_iff] at none_
            simp [served_eq keyed, Allowed, allowed, none_]
          rw [nothing]
          simp
      · next some_ =>
          apply list_eq keyed
          intro code
          simp [Allowed, allowed, some_]

/-- In every state that imports, updates, deletions and key rotations lead to, the `n`th page of a
caller's list is the `n`th page of what `GetCluster` answers to him about the live clusters with
the keyword, newest first, and the total is their number: he finds in his list just the clusters
that he may read, and of each of them just what he may read, never its kubeconfig. -/
theorem list_agrees_with_get {lib : Libraries} {kms : AESGCM} {h : History}
    (reach : Transition.Reachable (History.runs lib kms) h) (low : Lowering)
    (pt : Option PermissionTree) (q : ListQuery) {n : Nat} (pos : 1 ≤ n) (here : q.page = n)
    (small : (n - 1) * q.pageSize.toNat < 2 ^ 63) :
    listClusters low none h.table pt q =
        .ok ⟨(served low h.table pt q.keyword).length,
          page (served low h.table pt q.keyword) q.pageSize.toNat n⟩ ∧
      ∀ c ∈ served low h.table pt q.keyword, c.kubeconfig = [] := by
  have keyed : h.table.Keyed := (History.keyed_invariant lib kms).holds reach
  constructor
  · rw [listClusters_eq keyed, q.window_eq pos here small]
    rfl
  · intro c mem
    rw [served_eq keyed] at mem
    obtain ⟨row, _, rfl⟩ := List.mem_map.1 mem
    rfl

/-- May read one namespace of the cluster `prod`. -/
def prodReader : PermissionTree := ⟨∅, [⟨scopeNamespace, "prod", "default"⟩], false⟩

def lowering : Lowering := ⟨Text.toLower, Text.toLower⟩

theorem imported_listed :
    listClusters lowering none History.imported.table (some prodReader) ⟨1, 20, ""⟩ =
        .ok ⟨(served lowering History.imported.table (some prodReader) "").length,
          page (served lowering History.imported.table (some prodReader) "") 20 1⟩ ∧
      ∀ c ∈ served lowering History.imported.table (some prodReader) "", c.kubeconfig = [] :=
  list_agrees_with_get (n := 1) History.imported_reachable lowering (some prodReader) ⟨1, 20, ""⟩
    le_rfl rfl (by decide)

example : served lowering History.imported.table (some prodReader) "PRO" =
    [prodRow.withoutKubeconfig] := by
  decide +kernel

end K8sPlatform.Clusters
