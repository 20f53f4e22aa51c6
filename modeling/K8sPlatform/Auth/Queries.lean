import K8sPlatform.Auth.Middleware

/-! # The queries on scopes agree

List filters ask a tree what it allows, checks on one item ask whether it is allowed. -/

namespace K8sPlatform.Auth

section Allowed

variable {pt : PermissionTree} {code : String}

/-- The whole cluster is allowed exactly with cluster scope. -/
theorem allowedNamespaces_full : (pt.allowedNamespaces code).2 = pt.hasClusterScope code := by
  have same : pt.hasClusterScope code = (pt.isPlatformAdmin || pt.scopes.any fun sc =>
      sc.scopeType == scopePlatform ||
        (sc.clusterCode == code && sc.scopeType == scopeCluster)) := by
    simp only [PermissionTree.hasClusterScope, Bool.and_comm]
  rw [same, PermissionTree.allowedNamespaces]
  split <;> simp_all

theorem mem_allowedNamespaces (outside : pt.hasClusterScope code = false) (ns : String) :
    ns ∈ (pt.allowedNamespaces code).1 ↔
      ∃ sc ∈ pt.scopes, sc.scopeType = scopeNamespace ∧ sc.clusterCode = code ∧ sc.ns = ns := by
  have partial_ : (pt.allowedNamespaces code).2 = false := by
    rw [allowedNamespaces_full, outside]
  unfold PermissionTree.allowedNamespaces at partial_ ⊢
  split at partial_
  · cases partial_
  · rename_i limited
    rw [if_neg limited]
    simp [and_assoc]

/-- Every cluster is allowed exactly when each one is in scope. -/
theorem allowedClusters_full (h : (pt.allowedClusters).2 = true) (code : String) :
    pt.hasClusterScope code = true := by
  unfold PermissionTree.allowedClusters at h
  rw [PermissionTree.hasClusterScope_iff]
  split at h
  · rename_i all
    obtain admin | platform := Bool.or_eq_true_iff.1 all
    · exact .inl admin
    · obtain ⟨sc, mem, type⟩ := List.any_eq_true.1 platform
      exact .inr ⟨sc, mem, .inl (by simpa using type)⟩
  · cases h

theorem unrestricted_of_allowedClusters (limited : (pt.allowedClusters).2 = false) :
    ¬pt.Unrestricted := by
  rintro (admin | ⟨sc, mem, platform⟩)
  · simp [PermissionTree.allowedClusters, admin] at limited
  · have all : pt.scopes.any (fun sc => sc.scopeType == scopePlatform) = true :=
      List.any_eq_true.2 ⟨sc, mem, by simp [platform]⟩
    simp [PermissionTree.allowedClusters, all] at limited

theorem mem_allowedClusters (limited : (pt.allowedClusters).2 = false) (code : String) :
    code ∈ (pt.allowedClusters).1 ↔
      code ≠ "" ∧ ∃ sc ∈ pt.scopes,
        (sc.scopeType = scopeCluster ∨ sc.scopeType = scopeNamespace) ∧ sc.clusterCode = code := by
  unfold PermissionTree.allowedClusters at limited ⊢
  split at limited
  · cases limited
  · rename_i all
    rw [if_neg all]
    simp only [List.mem_eraseDups, List.mem_map, List.mem_filter, Bool.and_eq_true,
      Bool.or_eq_true, beq_iff_eq, bne_iff_ne]
    constructor
    · rintro ⟨sc, ⟨mem, type, named⟩, rfl⟩
      exact ⟨named, sc, mem, type, rfl⟩
    · rintro ⟨named, sc, mem, type, rfl⟩
      exact ⟨sc, ⟨mem, type, named⟩, rfl⟩

/-- One turn of the loop of `AllowedClusters`: the codes it has seen are those it has listed. -/
def addCode (codes : List String) (sc : Scope) : List String :=
  if sc.scopeType ≠ scopeCluster ∧ sc.scopeType ≠ scopeNamespace then codes
  else if sc.clusterCode = "" then codes
  else if sc.clusterCode ∈ codes then codes
  else codes ++ [sc.clusterCode]

/-- The loop lists the first occurrences. -/
theorem foldl_addCode (scopes : List Scope) :
    scopes.foldl addCode [] =
      ((scopes.filter fun sc =>
        (sc.scopeType == scopeCluster || sc.scopeType == scopeNamespace) &&
          sc.clusterCode != "").map Scope.clusterCode).eraseDups := by
  induction scopes using List.reverseRecOn with
  | nil => rfl
  | append_singleton scopes sc ih =>
      rw [List.foldl_append, List.foldl_cons, List.foldl_nil, ih, List.filter_append,
        List.map_append, List.eraseDups_append]
      unfold addCode
      split
      · rename_i other
        simp [other]
      · rename_i known
        split
        · rename_i unnamed
          simp [unnamed]
        · rename_i named
          have kept : ((sc.scopeType == scopeCluster || sc.scopeType == scopeNamespace) &&
              sc.clusterCode != "") = true := by
            simp only [Bool.and_eq_true, Bool.or_eq_true, beq_iff_eq, bne_iff_ne]
            exact ⟨by tauto, named⟩
          rw [List.filter_cons, if_pos kept, List.filter_nil, List.map_singleton]
          split
          · rename_i seen
            rw [List.mem_eraseDups] at seen
            simp [List.removeAll, seen]
          · rename_i unseen
            rw [List.mem_eraseDups] at unseen
            simp [List.removeAll, unseen, List.eraseDups_cons]

theorem nodup_addCode {codes : List String} (distinct : codes.Nodup) (sc : Scope) :
    (addCode codes sc).Nodup := by
  unfold addCode
  split
  · exact distinct
  · split
    · exact distinct
    · split
      · exact distinct
      · rename_i unseen
        exact distinct.append (List.nodup_singleton _) (by simpa using unseen)

theorem nodup_allowedClusters (pt : PermissionTree) : (pt.allowedClusters).1.Nodup := by
  unfold PermissionTree.allowedClusters
  split
  · exact List.nodup_nil
  · rw [← foldl_addCode]
    exact List.foldlRecOn pt.scopes addCode List.nodup_nil
      fun _ distinct sc _ => nodup_addCode distinct sc

/-- A namespace is in scope when it is listed, or all are allowed. -/
theorem hasNamespaceScope_iff_allowed (ns : String) :
    pt.hasNamespaceScope code ns = true ↔
      (pt.allowedNamespaces code).2 = true ∨ ns ∈ (pt.allowedNamespaces code).1 := by
  rw [allowedNamespaces_full]
  cases whole : pt.hasClusterScope code with
  | true => simp [PermissionTree.hasNamespaceScope_of_hasClusterScope whole]
  | false =>
      have outside : ¬(pt.isPlatformAdmin = true ∨ ∃ sc ∈ pt.scopes, sc.CoversCluster code) := by
        rw [← PermissionTree.hasClusterScope_iff, whole]
        exact Bool.false_ne_true
      rw [mem_allowedNamespaces whole, PermissionTree.hasNamespaceScope_iff]
      constructor
      · rintro (admin | ⟨sc, mem, covers | listed⟩)
        · exact absurd (.inl admin) outside
        · exact absurd (.inr ⟨sc, mem, covers⟩) outside
        · exact .inr ⟨sc, mem, listed⟩
      · rintro (no | ⟨sc, mem, listed⟩)
        · cases no
        · exact .inr ⟨sc, mem, .inr listed⟩

/-- A cluster is reached when it is listed, or all are allowed. -/
theorem hasAnyAccessToCluster_iff_allowed (named : code ≠ "") :
    pt.hasAnyAccessToCluster code = true ↔
      (pt.allowedClusters).2 = true ∨ code ∈ (pt.allowedClusters).1 := by
  rw [PermissionTree.hasAnyAccessToCluster_iff]
  cases full : (pt.allowedClusters).2 with
  | true =>
      have whole := PermissionTree.hasClusterScope_iff.1 (allowedClusters_full full code)
      refine iff_of_true (whole.imp_right ?_) (.inl rfl)
      exact fun ⟨sc, mem, covers⟩ => ⟨sc, mem, .inl covers⟩
  | false =>
      have limited := unrestricted_of_allowedClusters full
      rw [mem_allowedClusters full]
      constructor
      · rintro (admin | ⟨sc, mem, (platform | ⟨type, rfl⟩) | ⟨type, rfl⟩⟩)
        · exact absurd (.inl admin) limited
        · exact absurd (.inr ⟨sc, mem, platform⟩) limited
        · exact .inr ⟨named, sc, mem, .inl type, rfl⟩
        · exact .inr ⟨named, sc, mem, .inr type, rfl⟩
      · rintro (no | ⟨-, sc, mem, type | type, rfl⟩)
        · cases no
        · exact .inr ⟨sc, mem, .inl (.inr ⟨type, rfl⟩)⟩
        · exact .inr ⟨sc, mem, .inr ⟨type, rfl⟩⟩

end Allowed

/-- For a named cluster the queries agree with each other; a nil tree allows nothing. -/
theorem scope_queries_agree (pt : Option PermissionTree) (code ns : String) (named : code ≠ "") :
    (pt.any (fun tree => tree.hasNamespaceScope code ns) = true ↔
        (allowedNamespaces pt code).2 = true ∨ ns ∈ (allowedNamespaces pt code).1) ∧
      (pt.any (fun tree => tree.hasClusterScope code) = true ↔
        (allowedNamespaces pt code).2 = true) ∧
      (pt.any (fun tree => tree.hasAnyAccessToCluster code) = true ↔
        (allowedClusters pt).2 = true ∨ code ∈ (allowedClusters pt).1) ∧
      (allowedClusters pt).1.Nodup := by
  cases pt with
  | none => simp [allowedNamespaces, allowedClusters]
  | some tree =>
      refine ⟨hasNamespaceScope_iff_allowed ns, ?_, hasAnyAccessToCluster_iff_allowed named,
        nodup_allowedClusters tree⟩
      rw [allowedNamespaces, allowedNamespaces_full, Option.any_some]

/-- A tree with a namespace of one cluster and the whole of another. -/
def mixedTree : PermissionTree :=
  ⟨∅, [⟨scopeNamespace, "dev", "default"⟩, ⟨scopeCluster, "prod", ""⟩], false⟩

theorem scope_queries_agree_dev :
    ((some mixedTree).any (fun tree => tree.hasNamespaceScope "dev" "default") = true ↔
        (allowedNamespaces (some mixedTree) "dev").2 = true ∨
          "default" ∈ (allowedNamespaces (some mixedTree) "dev").1) ∧
      ((some mixedTree).any (fun tree => tree.hasClusterScope "dev") = true ↔
        (allowedNamespaces (some mixedTree) "dev").2 = true) ∧
      ((some mixedTree).any (fun tree => tree.hasAnyAccessToCluster "dev") = true ↔
        (allowedClusters (some mixedTree)).2 = true ∨
          "dev" ∈ (allowedClusters (some mixedTree)).1) ∧
      (allowedClusters (some mixedTree)).1.Nodup :=
  scope_queries_agree (some mixedTree) "dev" "default" (by decide)

end K8sPlatform.Auth
