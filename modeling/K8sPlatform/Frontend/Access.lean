import K8sPlatform.Auth.ScopeKeys

/-! # What the pages make of a user's permissions -/

namespace K8sPlatform.Frontend

open Auth

/-- The answer of `/auth/me`, with the scopes of its roles. -/
structure CurrentUser where
  perms : Finset String
  roles : List Scope
  isPlatformAdmin : Bool

/-- A row of the query of `CurrentUserHandler`, with the columns that the pages read. -/
def roleResult (ur : SysUserRole) (r : Option SysRole) : ResultRow :=
  [("role_code", r.map (·.code)),
   ("scope_type", some ur.scopeType),
   ("scope_cluster_code", some ur.scopeClusterCode),
   ("scope_namespace", some ur.scopeNamespace)]

def scanRole (orm : NamingStrategy) (row : ResultRow) : Scope :=
  ⟨orm.scanField row "ScopeType", orm.scanField row "ScopeCluster",
    orm.scanField row "ScopeNamespace"⟩

/-- The roles are joined as they are bound: their status is not asked for. -/
def selectRoles (db : Database) (userId : Nat) : List (SysUserRole × Option SysRole) :=
  (Relational.leftJoin (fun ur r => ur.roleId == r.id) db.userRoles db.roles).filter fun row =>
    row.1.userId == userId

def currentUser (orm : NamingStrategy) (db : Database) (userId : Nat) (pt : PermissionTree) :
    CurrentUser where
  perms := pt.perms
  roles := (selectRoles db userId).map fun row => scanRole orm (roleResult row.1 row.2)
  isPlatformAdmin := pt.isPlatformAdmin

/-- The wildcard of a code whose colon is not its first character. -/
def wildcardOf (code : String) : Option String :=
  match code.toList.findIdx? (· == ':') with
  | some (idx + 1) => some (String.ofList (code.toList.take (idx + 1)) ++ ":*")
  | _ => none

def CurrentUser.hasPerm (u : CurrentUser) (code : String) : Bool :=
  u.isPlatformAdmin || decide ("*:*" ∈ u.perms) || decide (code ∈ u.perms) ||
    match wildcardOf code with
    | some wildcard => decide (wildcard ∈ u.perms)
    | none => false

def CurrentUser.hasAnyPerm (u : CurrentUser) (codes : List String) : Bool :=
  u.isPlatformAdmin || codes.any u.hasPerm

/-- The server's wildcard of a code, unless its colon comes first. -/
theorem wildcardOf_eq {code : String} (later : code.toList.head? ≠ some ':') :
    wildcardOf code = moduleWildcard code := by
  unfold wildcardOf moduleWildcard
  cases found : code.toList.findIdx? (· == ':') with
  | none =>
      have absent : ':' ∉ code.toList := by
        intro mem
        exact absurd (List.findIdx?_eq_none_iff.1 found ':' mem) (by decide)
      rw [if_neg absent]
  | some idx =>
      obtain ⟨short, first⟩ := List.findIdx?_eq_some_iff_findIdx_eq.1 found
      have present : ':' ∈ code.toList := by
        have there := List.findIdx_getElem (w := first.symm ▸ short)
        exact beq_iff_eq.1 there ▸ List.getElem_mem _
      have before : code.toList.takeWhile (· ≠ ':') = code.toList.take idx := by
        rw [List.takeWhile_eq_take_findIdx_not, ← first]
        congr 2
        funext c
        rw [decide_not, Bool.not_not, beq_eq_decide]
      cases idx with
      | zero =>
          cases chars : code.toList with
          | nil => simp [chars] at short
          | cons c rest =>
              rw [chars, List.findIdx_cons] at first
              by_cases colon : c = ':'
              · exact absurd (by rw [chars, colon]; rfl) later
              · rw [beq_false_of_ne colon, cond_false] at first
                omega
      | succ idx => rw [if_pos present, before]

variable {orm : NamingStrategy} {db : Database} {userId : Nat}

/-- The pages decide as the server does. -/
theorem hasPerm_eq (pt : PermissionTree) {code : String} (later : code.toList.head? ≠ some ':') :
    (currentUser orm db userId pt).hasPerm code = pt.hasPerm code := by
  rw [CurrentUser.hasPerm, wildcardOf_eq later]
  rfl

theorem hasAnyPerm_iff (pt : PermissionTree) {codes : List String} (some_ : codes ≠ [])
    (later : ∀ code ∈ codes, code.toList.head? ≠ some ':') :
    (currentUser orm db userId pt).hasAnyPerm codes = true ↔
      ∃ code ∈ codes, pt.hasPerm code = true := by
  obtain ⟨first, mem⟩ := List.exists_mem_of_ne_nil codes some_
  rw [CurrentUser.hasAnyPerm, Bool.or_eq_true, List.any_eq_true]
  constructor
  · rintro (admin | ⟨code, there, granted⟩)
    · exact ⟨first, mem, PermissionTree.hasPerm_iff.2 (.inl admin)⟩
    · exact ⟨code, there, hasPerm_eq pt (later code there) ▸ granted⟩
  · rintro ⟨code, there, granted⟩
    exact .inr ⟨code, there, (hasPerm_eq pt (later code there)).trans granted⟩

end K8sPlatform.Frontend
