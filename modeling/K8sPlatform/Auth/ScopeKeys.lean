import K8sPlatform.Lib.Distinct
import K8sPlatform.Auth.Revocation

/-! # The scopes that the loader keeps -/

namespace K8sPlatform.Auth

open Distinct

/-- A row of the two joins, before the select list is read from it. -/
abbrev JoinedRow := (SysUserRole × Option SysRole) × Option SysRolePermission

/-- The triple of scope type, cluster code and namespace in the row. -/
def JoinedRow.scope (row : JoinedRow) : Scope := row.1.1.scope

def NamingStrategy.scanJoined (orm : NamingStrategy) (row : JoinedRow) : PermRow :=
  orm.scan (resultRow row.1.1 row.1.2 row.2)

def joinedRows (db : Database) (userId : Nat) : List JoinedRow :=
  (Relational.leftJoin (fun (j : SysUserRole × Option SysRole) rp => j.1.roleId == rp.roleId)
    (Relational.leftJoin (fun ur r => ur.roleId == r.id) db.userRoles db.roles)
    db.rolePermissions).filter fun row =>
      row.1.1.userId == userId && row.1.2.any (·.status == 1)

variable {orm : NamingStrategy}

theorem loadPermissionTree_eq (orm : NamingStrategy) (db : Database) (userId : Nat) :
    loadPermissionTree orm db userId =
      buildTree ((joinedRows db userId).map orm.scanJoined) := by
  rw [loadPermissionTree, selectPermRows, List.map_map]
  rfl

/-- The three strings cut at every bar, their pieces one behind another. -/
def Scope.pieces (sc : Scope) : List String :=
  Text.split '|' sc.scopeType ++ Text.split '|' sc.clusterCode ++ Text.split '|' sc.ns

theorem split_scopeKey (sc : Scope) : Text.split '|' (scopeKey sc) = sc.pieces := by
  have bar : ("|" : String) = String.singleton '|' := rfl
  rw [scopeKey, bar, Text.split_append_sep, Text.split_append_sep, Scope.pieces]

theorem scopeKey_eq_iff {sc sc' : Scope} : scopeKey sc = scopeKey sc' ↔ sc.pieces = sc'.pieces := by
  constructor
  · intro same
    rw [← split_scopeKey, same, split_scopeKey]
  · intro same
    rw [← Text.join_split '|' (scopeKey sc), split_scopeKey, same, ← split_scopeKey,
      Text.join_split]

/-- Scopes with the same pieces are the same when their types and their cluster codes have as many
bars. -/
theorem Scope.eq_of_pieces {sc sc' : Scope} (same : sc.pieces = sc'.pieces)
    (ofType : sc.scopeType.toList.count '|' = sc'.scopeType.toList.count '|')
    (ofCode : sc.clusterCode.toList.count '|' = sc'.clusterCode.toList.count '|') : sc = sc' := by
  have split_inj {s t : String} (eq : Text.split '|' s = Text.split '|' t) : s = t := by
    rw [← Text.join_split '|' s, eq, Text.join_split]
  unfold Scope.pieces at same
  rw [List.append_assoc, List.append_assoc] at same
  obtain ⟨types, rest⟩ :=
    List.append_inj same (by rw [Text.length_split, ofType, Text.length_split])
  obtain ⟨codes, namespaces⟩ :=
    List.append_inj rest (by rw [Text.length_split, ofCode, Text.length_split])
  cases sc
  cases sc'
  rw [Scope.mk.injEq]
  exact ⟨split_inj types, split_inj codes, split_inj namespaces⟩

/-- The loop keeps the first scope of every key. -/
theorem foldl_addPermRow_scopes (rows : List PermRow) :
    (rows.foldl addPermRow (⟨∅, [], false⟩, ∅)).1.scopes =
        distinctBy scopeKey (rows.map PermRow.scope) ∧
      ∀ key, key ∈ (rows.foldl addPermRow (⟨∅, [], false⟩, ∅)).2 ↔
        key ∈ (rows.map PermRow.scope).map scopeKey := by
  induction rows using List.reverseRecOn with
  | nil => exact ⟨rfl, fun key => iff_of_false (Finset.notMem_empty key) List.not_mem_nil⟩
  | append_singleton rows row ih =>
      obtain ⟨scopes, seen⟩ := ih
      rw [List.foldl_append, List.foldl_cons, List.foldl_nil, List.map_append, List.map_singleton,
        distinctBy_concat]
      by_cases old : scopeKey row.scope ∈ (rows.map PermRow.scope).map scopeKey
      · have present := (seen _).2 old
        rw [if_pos old]
        simp only [addPermRow, present, decide_true, if_true]
        refine ⟨scopes, fun key => ?_⟩
        rw [seen, List.map_append, List.mem_append, List.map_singleton, List.mem_singleton]
        constructor
        · exact .inl
        · rintro (mem | rfl)
          · exact mem
          · exact old
      · have absent : scopeKey row.scope ∉ (rows.foldl addPermRow (⟨∅, [], false⟩, ∅)).2 :=
          fun mem => old ((seen _).1 mem)
        rw [if_neg old]
        simp only [addPermRow, absent, decide_false, Bool.false_eq_true, if_false]
        refine ⟨by rw [scopes], fun key => ?_⟩
        rw [Finset.mem_insert, seen, List.map_append, List.mem_append, List.map_singleton,
          List.mem_singleton]
        exact or_comm

theorem buildTree_scopes (rows : List PermRow) :
    (buildTree rows).scopes = distinctBy scopeKey (rows.map PermRow.scope) :=
  (foldl_addPermRow_scopes rows).1

theorem scopes_scanned (rows : List JoinedRow) :
    (buildTree (rows.map orm.scanJoined)).scopes =
      distinctBy scopeKey (rows.map fun row => orm.readScope row.1.1) := by
  rw [buildTree_scopes, List.map_map]
  congr 2
  exact funext fun row => scan_resultRow_scope _ _ _

/-- Where the loader reads the cluster codes, the keys alone decide what is kept. -/
theorem scopes_kept_iff_of_read {rows : List JoinedRow}
    (read : orm.FillsScopeCluster ∨ ∀ row ∈ rows, row.scope.clusterCode = "") :
    FirstAppearances (rows.map JoinedRow.scope) (buildTree (rows.map orm.scanJoined)).scopes ↔
      ∀ row ∈ rows, ∀ row' ∈ rows, row.scope.pieces = row'.scope.pieces →
        row.scope = row'.scope := by
  have reads : (rows.map fun row => orm.readScope row.1.1) = rows.map JoinedRow.scope := by
    apply List.map_congr_left
    intro row mem
    obtain fills | none_ := read
    · exact readScope_of_fills fills row.1.1
    · have empty : row.1.1.scopeClusterCode = "" := none_ row mem
      rw [readScope_eq, empty, ite_self, JoinedRow.scope, SysUserRole.scope, empty]
  rw [scopes_scanned, reads, firstAppearances_distinctBy_iff]
  simp only [List.forall_mem_map, scopeKey_eq_iff]

/-- The loader keeps every scope once, in the order of the rows, just when it reads the cluster
codes of the rows and no two different scopes have the same pieces. -/
theorem scopes_kept_iff (orm : NamingStrategy) (rows : List JoinedRow) :
    FirstAppearances (rows.map JoinedRow.scope) (buildTree (rows.map orm.scanJoined)).scopes ↔
      (orm.FillsScopeCluster ∨ ∀ row ∈ rows, row.scope.clusterCode = "") ∧
        ∀ row ∈ rows, ∀ row' ∈ rows, row.scope.pieces = row'.scope.pieces →
          row.scope = row'.scope := by
  constructor
  · intro kept
    have read : orm.FillsScopeCluster ∨ ∀ row ∈ rows, row.scope.clusterCode = "" := by
      apply or_iff_not_imp_left.2
      intro unfilled row mem
      have there := (kept.same row.scope).2 (List.mem_map_of_mem mem)
      rw [scopes_scanned] at there
      obtain ⟨row', -, same⟩ := List.mem_map.1 (mem_of_mem_distinctBy there)
      rw [← same, readScope_eq, if_neg unfilled]
    exact ⟨read, (scopes_kept_iff_of_read read).1 kept⟩
  · rintro ⟨read, apart⟩
    exact (scopes_kept_iff_of_read read).2 apart

/-- Bars in the namespaces do no harm. -/
theorem scopes_kept_of_plain {db : Database} (fills : orm.FillsScopeCluster)
    (plain : ∀ ur ∈ db.userRoles, '|' ∉ ur.scopeType.toList ∧ '|' ∉ ur.scopeClusterCode.toList)
    (userId : Nat) :
    FirstAppearances ((joinedRows db userId).map JoinedRow.scope)
      (loadPermissionTree orm db userId).scopes := by
  have bars {row : JoinedRow} (mem : row ∈ joinedRows db userId) :
      row.scope.scopeType.toList.count '|' = 0 ∧ row.scope.clusterCode.toList.count '|' = 0 := by
    have bound := Relational.mem_of_mem_leftJoin
      (Relational.mem_of_mem_leftJoin (List.mem_filter.1 mem).1)
    obtain ⟨ofType, ofCode⟩ := plain _ bound
    exact ⟨List.count_eq_zero.2 ofType, List.count_eq_zero.2 ofCode⟩
  rw [loadPermissionTree_eq, scopes_kept_iff_of_read (.inl fills)]
  intro row mem row' mem' same
  obtain ⟨ofType, ofCode⟩ := bars mem
  obtain ⟨ofType', ofCode'⟩ := bars mem'
  exact Scope.eq_of_pieces same (ofType.trans ofType'.symm) (ofCode.trans ofCode'.symm)

/-- A user is bound to the cluster `a|b`, and then to `a` with a namespace `b|` beside it. -/
def barsBound : Database :=
  [Op.bindUserRole "7" (.ok ⟨4, scopeCluster, "a|b", ""⟩) none,
    .bindUserRole "7" (.ok ⟨4, scopeCluster, "a", "b|"⟩) none].foldl
      (fun db op => (handle db op).2) seededWithUser

/-- The second scope is lost, and with the default names it is read without its cluster. -/
theorem barred_scope_lost :
    barsBound.BindingsAccepted ∧
      (loadPermissionTree scopeClusterMapped barsBound 7).scopes = [⟨scopeCluster, "a|b", ""⟩] ∧
      ¬FirstAppearances ((joinedRows barsBound 7).map JoinedRow.scope)
        (loadPermissionTree scopeClusterMapped barsBound 7).scopes ∧
      ¬FirstAppearances ((joinedRows barsBound 7).map JoinedRow.scope)
        (loadPermissionTree gormDefault barsBound 7).scopes := by
  have accepted : barsBound.BindingsAccepted := by
    refine requests_accepted (fun ur mem => ?_) _
    obtain rfl := List.mem_singleton.1 mem
    exact ⟨by decide, by decide⟩
  have bound : (⟨scopeCluster, "a", "b|"⟩ : Scope) ∈
      (joinedRows barsBound 7).map JoinedRow.scope := by
    decide +kernel
  have loaded : (loadPermissionTree scopeClusterMapped barsBound 7).scopes =
      [⟨scopeCluster, "a|b", ""⟩] := by
    decide +kernel
  refine ⟨accepted, loaded, fun kept => ?_, fun kept => ?_⟩
  · have mem := (kept.same _).2 bound
    rw [loaded] at mem
    exact absurd mem (by decide)
  · have mem := (kept.same _).2 bound
    exact absurd mem (by decide +kernel)

end K8sPlatform.Auth
