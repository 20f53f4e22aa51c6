import Mathlib.Data.Finset.Insert
import K8sPlatform.Lib.Text
import K8sPlatform.Errcode

namespace K8sPlatform.Auth

open Errcode

abbrev ScopeType := String

def scopePlatform : ScopeType := "platform"
def scopeCluster : ScopeType := "cluster"
def scopeNamespace : ScopeType := "namespace"

structure Scope where
  scopeType : ScopeType
  clusterCode : String
  ns : String
  deriving DecidableEq, Repr

structure PermissionTree where
  perms : Finset String
  scopes : List Scope
  isPlatformAdmin : Bool
  deriving DecidableEq

/-- The wildcard `module:*` of a code that contains a colon. -/
def moduleWildcard (code : String) : Option String :=
  if ':' ∈ code.toList then
    some (String.ofList (code.toList.takeWhile (· ≠ ':')) ++ ":*")
  else none

namespace PermissionTree

def hasPerm (pt : PermissionTree) (code : String) : Bool :=
  pt.isPlatformAdmin || decide ("*:*" ∈ pt.perms) || decide (code ∈ pt.perms) ||
    match moduleWildcard code with
    | some wildcard => decide (wildcard ∈ pt.perms)
    | none => false

def hasClusterScope (pt : PermissionTree) (clusterCode : String) : Bool :=
  pt.isPlatformAdmin || pt.scopes.any fun sc =>
    sc.scopeType == scopePlatform ||
      (sc.scopeType == scopeCluster && sc.clusterCode == clusterCode)

def hasAnyAccessToCluster (pt : PermissionTree) (clusterCode : String) : Bool :=
  pt.hasClusterScope clusterCode || pt.scopes.any fun sc =>
    sc.scopeType == scopeNamespace && sc.clusterCode == clusterCode

def hasNamespaceScope (pt : PermissionTree) (clusterCode ns : String) : Bool :=
  pt.isPlatformAdmin || pt.scopes.any fun sc =>
    sc.scopeType == scopePlatform ||
      (sc.clusterCode == clusterCode &&
        (sc.scopeType == scopeCluster ||
          (sc.scopeType == scopeNamespace && sc.ns == ns)))

/-- `(codes, all)`: with `all` the caller may see every cluster. -/
def allowedClusters (pt : PermissionTree) : List String × Bool :=
  if pt.isPlatformAdmin || pt.scopes.any (·.scopeType == scopePlatform) then ([], true)
  else
    (((pt.scopes.filter fun sc =>
      (sc.scopeType == scopeCluster || sc.scopeType == scopeNamespace) &&
        sc.clusterCode != "").map Scope.clusterCode).eraseDups, false)

/-- `(namespaces, all)`: with `all` the caller may see every namespace of the cluster. -/
def allowedNamespaces (pt : PermissionTree) (clusterCode : String) : List String × Bool :=
  if pt.isPlatformAdmin || pt.scopes.any (fun sc =>
      sc.scopeType == scopePlatform ||
        (sc.clusterCode == clusterCode && sc.scopeType == scopeCluster)) then ([], true)
  else
    ((pt.scopes.filter fun sc =>
      sc.scopeType == scopeNamespace && sc.clusterCode == clusterCode).map Scope.ns, false)

end PermissionTree

/-- A set of codes grants a code exactly, by its module wildcard, or by `*:*`. -/
def Grants (codes : Set String) (code : String) : Prop :=
  "*:*" ∈ codes ∨ code ∈ codes ∨ ∃ wildcard ∈ codes, moduleWildcard code = some wildcard

theorem Grants.mono {codes codes' : Set String} (sub : codes ⊆ codes') {code : String}
    (h : Grants codes code) : Grants codes' code := by
  obtain all | exact_ | ⟨wildcard, mem, eq⟩ := h
  · exact .inl (sub all)
  · exact .inr (.inl (sub exact_))
  · exact .inr (.inr ⟨wildcard, sub mem, eq⟩)

/-- A union grants what one of its members grants. -/
theorem grants_iUnion {ι : Type} (codes : ι → Set String) (code : String) :
    Grants {c | ∃ i, c ∈ codes i} code ↔ ∃ i, Grants (codes i) code := by
  constructor
  · rintro (⟨i, all⟩ | ⟨i, mem⟩ | ⟨wildcard, ⟨i, mem⟩, eq⟩)
    · exact ⟨i, .inl all⟩
    · exact ⟨i, .inr (.inl mem)⟩
    · exact ⟨i, .inr (.inr ⟨wildcard, mem, eq⟩)⟩
  · rintro ⟨i, h⟩
    refine Grants.mono ?_ h
    exact fun c mem => ⟨i, mem⟩

namespace Scope

/-- The whole cluster lies in the scope. -/
def CoversCluster (sc : Scope) (clusterCode : String) : Prop :=
  sc.scopeType = scopePlatform ∨ (sc.scopeType = scopeCluster ∧ sc.clusterCode = clusterCode)

/-- The namespace of the cluster lies in the scope. -/
def Covers (sc : Scope) (clusterCode ns : String) : Prop :=
  sc.CoversCluster clusterCode ∨
    (sc.scopeType = scopeNamespace ∧ sc.clusterCode = clusterCode ∧ sc.ns = ns)

/-- The scope reaches into the cluster. -/
def Touches (sc : Scope) (clusterCode : String) : Prop :=
  sc.CoversCluster clusterCode ∨ (sc.scopeType = scopeNamespace ∧ sc.clusterCode = clusterCode)

theorem Covers.touches {sc : Scope} {clusterCode ns : String} (h : sc.Covers clusterCode ns) :
    sc.Touches clusterCode := by
  obtain whole | ⟨kind, code, _⟩ := h
  · exact .inl whole
  · exact .inr ⟨kind, code⟩

end Scope

namespace PermissionTree

theorem hasPerm_iff {pt : PermissionTree} {code : String} :
    pt.hasPerm code = true ↔
      pt.isPlatformAdmin = true ∨ Grants {c | c ∈ pt.perms} code := by
  cases w : moduleWildcard code <;> simp [hasPerm, Grants, w, or_assoc]

theorem hasClusterScope_iff {pt : PermissionTree} {clusterCode : String} :
    pt.hasClusterScope clusterCode = true ↔
      pt.isPlatformAdmin = true ∨ ∃ sc ∈ pt.scopes, sc.CoversCluster clusterCode := by
  simp [hasClusterScope, Scope.CoversCluster]

theorem hasAnyAccessToCluster_iff {pt : PermissionTree} {clusterCode : String} :
    pt.hasAnyAccessToCluster clusterCode = true ↔
      pt.isPlatformAdmin = true ∨ ∃ sc ∈ pt.scopes, sc.Touches clusterCode := by
  simp only [hasAnyAccessToCluster, Bool.or_eq_true, hasClusterScope_iff, List.any_eq_true,
    Bool.and_eq_true, beq_iff_eq, Scope.Touches, and_or_left, exists_or, or_assoc]

theorem hasNamespaceScope_iff {pt : PermissionTree} {clusterCode ns : String} :
    pt.hasNamespaceScope clusterCode ns = true ↔
      pt.isPlatformAdmin = true ∨ ∃ sc ∈ pt.scopes, sc.Covers clusterCode ns := by
  simp only [hasNamespaceScope, Bool.or_eq_true, List.any_eq_true, Bool.and_eq_true,
    beq_iff_eq, Scope.Covers, Scope.CoversCluster]
  constructor
  · rintro (admin | ⟨sc, mem, h⟩)
    · exact .inl admin
    · exact .inr ⟨sc, mem, by tauto⟩
  · rintro (admin | ⟨sc, mem, h⟩)
    · exact .inl admin
    · exact .inr ⟨sc, mem, by tauto⟩

theorem hasNamespaceScope_of_hasClusterScope {pt : PermissionTree} {clusterCode : String}
    (h : pt.hasClusterScope clusterCode = true) (ns : String) :
    pt.hasNamespaceScope clusterCode ns = true := by
  rw [hasNamespaceScope_iff]
  obtain admin | ⟨sc, mem, covers⟩ := hasClusterScope_iff.1 h
  · exact .inl admin
  · exact .inr ⟨sc, mem, .inl covers⟩

theorem hasAnyAccessToCluster_of_hasNamespaceScope {pt : PermissionTree} {clusterCode ns : String}
    (h : pt.hasNamespaceScope clusterCode ns = true) :
    pt.hasAnyAccessToCluster clusterCode = true := by
  rw [hasAnyAccessToCluster_iff]
  obtain admin | ⟨sc, mem, covers⟩ := hasNamespaceScope_iff.1 h
  · exact .inl admin
  · exact .inr ⟨sc, mem, covers.touches⟩

/-- The caller reads every cluster. -/
def Unrestricted (pt : PermissionTree) : Prop :=
  pt.isPlatformAdmin = true ∨ ∃ sc ∈ pt.scopes, sc.scopeType = scopePlatform

end PermissionTree

end K8sPlatform.Auth
