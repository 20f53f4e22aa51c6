import K8sPlatform.Lib.Transition
import K8sPlatform.Auth.RoleEffect
import K8sPlatform.Auth.Seed
import K8sPlatform.Cluster.Manager

/-! # Whether a deletion frees the keys of its row -/

namespace K8sPlatform.Models

open Auth Clusters Crypto
open Kubeconfig (Ranging)

/-- The tables of clusters and of the grants. -/
structure Stores where
  clusters : Table
  auth : Database

structure Import where
  kms : AESGCM
  x : Ranging
  nonce : Nonce
  name : String
  code : String
  rawKubeconfig : Bytes
  creatorId : Nat

/-- A request that creates a row, with a body that has been decoded. -/
inductive Creation
  | cluster (i : Import)
  | binding (idStr : String) (req : UserRoleReq)
  | role (req : CreateRoleReq)

/-- The requests of a run. -/
inductive Request
  | importCluster (i : Import)
  | deleteCluster (code : String)
  | bindUserRole (idStr : String) (body : Body UserRoleReq) (fault : Option String)
  | unbindUserRole (idStr : String) (body : Body UserRoleReq) (fault : Option String)
  | createRole (body : Body CreateRoleReq) (fault : Option String)
  | deleteRole (idStr : String) (fault : Option String)

variable (lib : Libraries)

namespace Stores

def importCluster (s : Stores) (i : Import) : Except Errcode.Error Cluster × Table :=
  Clusters.importCluster lib i.kms i.x i.nonce s.clusters i.name i.code i.rawKubeconfig i.creatorId

def next (s : Stores) : Request → Stores
  | .importCluster i => { s with clusters := (s.importCluster lib i).2 }
  | .deleteCluster code => { s with clusters := (Clusters.delete s.clusters code).2 }
  | .bindUserRole idStr body fault =>
      { s with auth := (handle s.auth (.bindUserRole idStr body fault)).2 }
  | .unbindUserRole idStr body fault =>
      { s with auth := (handle s.auth (.unbindUserRole idStr body fault)).2 }
  | .createRole body fault => { s with auth := (handle s.auth (.createRole body fault)).2 }
  | .deleteRole idStr fault => { s with auth := (handle s.auth (.deleteRole idStr fault)).2 }

/-- The request is answered with success by a database that is well. -/
def Accepts (s : Stores) : Creation → Prop
  | .cluster i => (s.importCluster lib i).1.isOk
  | .binding idStr req => (bindUserRole s.auth idStr (.ok req) none).1.isOk
  | .role req => (createRole s.auth (.ok req) none).1.isOk

/-- The input is one that the handler and the columns admit. -/
def Admits (s : Stores) : Creation → Prop
  | .cluster i =>
      i.name ≠ "" ∧ i.code ≠ "" ∧ i.rawKubeconfig ≠ [] ∧ i.name.length ≤ 64 ∧ i.code.length ≤ 64 ∧
        ∃ parsed, Kubeconfig.parse lib.clientcmd i.x i.rawKubeconfig = .ok parsed ∧
          parsed.apiServer.length ≤ 256
  | .binding idStr req =>
      req.validate "bindUserRoleReq" = none ∧ req.fits = true ∧
        ¬(req.scopeType = scopeCluster ∧ req.clusterCode = "") ∧
        ¬(req.scopeType = scopeNamespace ∧ (req.clusterCode = "" ∨ req.ns = "")) ∧
        (s.auth.findRole req.roleId).isSome ∧
        ∃ id, Validation.parseUint64 idStr = some id ∧ (s.auth.findUser id).isSome
  | .role req => req.validate = none

/-- A row with a key of the creation: the code or the name of a cluster, the user, role and scope
of a binding, the code of a role. -/
def Holds (s : Stores) (deleted : Bool) : Creation → Prop
  | .cluster i => ∃ c ∈ s.clusters, c.deleted = deleted ∧ (c.code = i.code ∨ c.name = i.name)
  | .binding idStr req =>
      ∃ ur ∈ s.auth.userRoles, ur.deleted = deleted ∧ pathId idStr = ur.userId ∧
        ur.roleId = req.roleId ∧ ur.scope = req.scope
  | .role req => ∃ r ∈ s.auth.roles, r.deleted = deleted ∧ r.code = req.code

end Stores

/-- Permission codes are unique, and no permissions are bound to a role id that is still free. -/
structure PermissionsKeyed (db : Database) : Prop where
  codes : (db.permissions.map (·.code)).Nodup
  bound : ∀ rp ∈ db.rolePermissions, rp.roleId < db.nextRoleId

theorem insertRolePermissions_isSome {rows binds : List SysRolePermission} (nodup : binds.Nodup)
    (fresh : ∀ b ∈ binds, b ∉ rows) : (insertRolePermissions rows binds).isSome := by
  induction binds generalizing rows with
  | nil => rfl
  | cons bind binds ih =>
      obtain ⟨notLater, nodup⟩ := List.nodup_cons.1 nodup
      rw [insertRolePermissions, if_neg (fresh bind List.mem_cons_self)]
      apply ih nodup
      intro b mem there
      rcases List.mem_append.1 there with old | new
      · exact fresh b (List.mem_cons_of_mem _ mem) old
      · exact notLater (List.mem_singleton.1 new ▸ mem)

theorem validPerms_nodup {db : Database} (keyed : PermissionsKeyed db) (perms : List String) :
    (db.validPerms perms).Nodup :=
  keyed.codes.sublist ((List.filter_sublist).map _)

theorem insert_for_new_role {db : Database} (keyed : PermissionsKeyed db) (perms : List String) :
    (insertRolePermissions db.rolePermissions
      ((db.validPerms perms).map fun code => ⟨db.nextRoleId, code⟩)).isSome := by
  apply insertRolePermissions_isSome
  · apply (validPerms_nodup keyed perms).map
    intro a b same
    exact congrArg SysRolePermission.permissionCode same
  · intro b mem there
    obtain ⟨code, -, rfl⟩ := List.mem_map.1 mem
    exact (keyed.bound _ there).false

/-- Only `SetRolePermissions` writes permissions for a role id that it was given. -/
theorem PermissionsKeyed.handle {db : Database} (keyed : PermissionsKeyed db) {op : Op}
    (others : ∀ roleId codes, op.requested db ≠ .setCodes roleId codes) :
    PermissionsKeyed (handle db op).2 := by
  have effect := handle_effect db op
  have change : changeOf db op = op.requested db ∨ changeOf db op = .none := by
    unfold changeOf
    split
    · exact .inl rfl
    · exact .inr rfl
  generalize changeOf db op = asked at effect change
  generalize (Auth.handle db op).2 = db' at effect
  cases effect with
  | none | bind | unbind | setStatus => exact ⟨keyed.codes, keyed.bound⟩
  | setCodes roleId codes =>
      rcases change with requested | none_
      · exact absurd requested.symm (others roleId codes)
      · cases none_
  | create code codes =>
      refine ⟨keyed.codes, fun rp mem => ?_⟩
      rcases List.mem_append.1 mem with old | new
      · exact Nat.lt_succ_of_lt (keyed.bound rp old)
      · obtain ⟨c, -, rfl⟩ := List.mem_map.1 new
        exact Nat.lt_succ_self _
  | delete roleId => exact ⟨keyed.codes, fun rp mem => keyed.bound rp (List.mem_filter.1 mem).1⟩

namespace Stores

variable {lib} {s : Stores}

/-- Runs from any tables that keep their keys. -/
def runs (lib : Libraries) : Transition.System Stores Request :=
  .ofFn (fun s => PermissionsKeyed s.auth) (next lib)

theorem next_keyed (keyed : PermissionsKeyed s.auth) (r : Request) :
    PermissionsKeyed (s.next lib r).auth := by
  cases r with
  | importCluster | deleteCluster => exact keyed
  | bindUserRole idStr body fault =>
      exact keyed.handle fun _ _ asked => by cases body <;> simp [Op.requested] at asked
  | unbindUserRole idStr body fault =>
      exact keyed.handle fun _ _ asked => by cases body <;> simp [Op.requested] at asked
  | createRole body fault =>
      exact keyed.handle fun _ _ asked => by cases body <;> simp [Op.requested] at asked
  | deleteRole idStr fault => exact keyed.handle fun _ _ asked => by simp [Op.requested] at asked

theorem keyed_of_reachable (reach : Transition.Reachable (runs lib) s) : PermissionsKeyed s.auth :=
  Transition.Invariant.holds ⟨id, fun keyed step => step ▸ next_keyed keyed _⟩ reach

/-! ## The three creations -/

theorem refusal_eq_none_iff {t : Table} {c : Cluster} (name : c.name.length ≤ 64)
    (code : c.code.length ≤ 64) (apiServer : c.apiServer.length ≤ 256) (new : c.description = "") :
    t.refusal c = none ↔ ∀ other ∈ t, other.code ≠ c.code ∧ other.name ≠ c.name := by
  have sizes : ¬(64 < c.name.length ∨ 64 < c.code.length) := by omega
  have noDescription : ¬512 < c.description.length := by rw [new]; decide
  have nameTaken : t.any (·.name == c.name) = true ↔ ∃ other ∈ t, other.name = c.name := by simp
  have codeTaken : t.any (·.code == c.code) = true ↔ ∃ other ∈ t, other.code = c.code := by simp
  unfold Table.refusal
  rw [if_neg sizes, if_neg apiServer.not_gt, if_neg noDescription]
  split_ifs with names codes
  · obtain ⟨other, mem, same⟩ := nameTaken.1 names
    exact iff_of_false id fun none_ => (none_ other mem).2 same
  · obtain ⟨other, mem, same⟩ := codeTaken.1 codes
    exact iff_of_false id fun none_ => (none_ other mem).1 same
  · refine iff_of_true rfl fun other mem => ⟨fun same => codes ?_, fun same => names ?_⟩
    · exact codeTaken.2 ⟨other, mem, same⟩
    · exact nameTaken.2 ⟨other, mem, same⟩

theorem accepts_cluster_iff {i : Import} (admits : s.Admits lib (.cluster i))
    (free : ¬s.Holds false (.cluster i)) :
    s.Accepts lib (.cluster i) ↔ ¬s.Holds true (.cluster i) := by
  obtain ⟨named, coded, given, name, code, parsed, parses, apiServer⟩ := admits
  have noLive (p : Cluster → Bool)
      (key : ∀ c, p c = true → c.code = i.code ∨ c.name = i.name) :
      ¬(s.clusters.any fun c => p c && !c.deleted) = true := by
    intro found
    obtain ⟨c, mem, sat⟩ := List.any_eq_true.1 found
    simp only [Bool.and_eq_true, Bool.not_eq_true'] at sat
    exact free ⟨c, mem, sat.2, key c sat.1⟩
  have taken_iff : s.Holds true (.cluster i) ↔
      ¬∀ other ∈ s.clusters, other.code ≠ i.code ∧ other.name ≠ i.name := by
    constructor
    · rintro ⟨c, mem, -, same⟩ none_
      exact same.elim (none_ c mem).1 (none_ c mem).2
    · intro taken
      push Not at taken
      obtain ⟨c, mem, same⟩ := taken
      have key : c.code = i.code ∨ c.name = i.name := or_iff_not_imp_left.2 same
      cases deleted : c.deleted with
      | true => exact ⟨c, mem, deleted, key⟩
      | false => exact absurd ⟨c, mem, deleted, key⟩ free
  show (Clusters.importCluster lib i.kms i.x i.nonce s.clusters i.name i.code i.rawKubeconfig
    i.creatorId).1.isOk = true ↔ _
  unfold Clusters.importCluster
  rw [taken_iff, not_not, if_neg (by simp [named, coded]), if_neg (by simpa using given),
    if_neg (noLive (·.code == i.code) fun c same => .inl (by simpa using same)),
    if_neg (noLive (·.name == i.name) fun c same => .inr (by simpa using same)), parses]
  dsimp only
  split
  case h_1 err refused =>
      apply iff_of_false Bool.false_ne_true
      intro none_
      refine absurd refused (ne_of_eq_of_ne ?_ (Option.some_ne_none err).symm)
      rw [refusal_eq_none_iff]
      exacts [none_, name, code, apiServer, rfl]
  case h_2 accepted =>
      apply iff_of_true rfl
      rw [refusal_eq_none_iff] at accepted
      exacts [accepted, name, code, apiServer, rfl]

theorem accepts_binding_iff {idStr : String} {req : UserRoleReq}
    (admits : s.Admits lib (.binding idStr req)) (free : ¬s.Holds false (.binding idStr req)) :
    s.Accepts lib (.binding idStr req) ↔ ¬s.Holds true (.binding idStr req) := by
  obtain ⟨valid, fits, cluster, ns, role, id, parsed, user⟩ := admits
  have pathId_eq : pathId idStr = id := by simp [pathId, parsed]
  have taken_iff : s.auth.scopeTaken id req = true ↔ s.Holds true (.binding idStr req) := by
    constructor
    · intro taken
      obtain ⟨ur, mem, sat⟩ := List.any_eq_true.1 taken
      simp only [Bool.and_eq_true, beq_iff_eq] at sat
      obtain ⟨⟨userId, roleId⟩, scope⟩ := sat
      cases deleted : ur.deleted with
      | true => exact ⟨ur, mem, deleted, pathId_eq.trans userId.symm, roleId, scope⟩
      | false =>
          exact absurd ⟨ur, mem, deleted, pathId_eq.trans userId.symm, roleId, scope⟩ free
    · rintro ⟨ur, mem, -, userId, roleId, scope⟩
      refine List.any_eq_true.2 ⟨ur, mem, ?_⟩
      simp [← userId, pathId_eq, roleId, scope]
  rw [← taken_iff]
  show (bindUserRole s.auth idStr (.ok req) none).1.isOk = true ↔ _
  unfold bindUserRole
  rw [parsed]
  dsimp only
  rw [valid]
  dsimp only
  rw [if_neg cluster, if_neg ns, if_neg (by simpa [Option.isSome_iff_ne_none] using user),
    if_neg (by simpa [Option.isSome_iff_ne_none] using role)]
  cases s.auth.scopeTaken id req <;> simp [fits, Except.isOk, Except.toBool]

theorem accepts_role_iff (keyed : PermissionsKeyed s.auth) {req : CreateRoleReq}
    (admits : s.Admits lib (.role req)) (free : ¬s.Holds false (.role req)) :
    s.Accepts lib (.role req) ↔ ¬s.Holds true (.role req) := by
  have valid : req.validate = none := admits
  have noLive : ¬(s.auth.roles.any fun r => r.code == req.code && !r.deleted) = true := by
    intro found
    obtain ⟨r, mem, sat⟩ := List.any_eq_true.1 found
    simp only [Bool.and_eq_true, beq_iff_eq, Bool.not_eq_true'] at sat
    exact free ⟨r, mem, sat.2, sat.1⟩
  have taken_iff : (s.auth.roles.any (·.code == req.code)) = true ↔ s.Holds true (.role req) := by
    constructor
    · intro taken
      obtain ⟨r, mem, same⟩ := List.any_eq_true.1 taken
      cases deleted : r.deleted with
      | true => exact ⟨r, mem, deleted, by simpa using same⟩
      | false => exact absurd ⟨r, mem, deleted, by simpa using same⟩ free
    · rintro ⟨r, mem, -, same⟩
      exact List.any_eq_true.2 ⟨r, mem, by simp [same]⟩
  obtain ⟨rows, inserted⟩ := Option.isSome_iff_exists.1 (insert_for_new_role keyed req.perms)
  rw [← taken_iff]
  show (createRole s.auth (.ok req) none).1.isOk = true ↔ _
  unfold createRole
  dsimp only
  rw [valid]
  dsimp only
  rw [if_neg noLive, inserted]
  cases s.auth.roles.any (·.code == req.code) <;> simp [Except.isOk, Except.toBool]

/-- A creation with admissible input and a key that no live row has succeeds just when no deleted
row has it. -/
theorem creation_accepted_iff (reach : Transition.Reachable (runs lib) s) {c : Creation}
    (admits : s.Admits lib c) (free : ¬s.Holds false c) : s.Accepts lib c ↔ ¬s.Holds true c := by
  cases c with
  | cluster i => exact accepts_cluster_iff admits free
  | binding idStr req => exact accepts_binding_iff admits free
  | role req => exact accepts_role_iff (keyed_of_reachable reach) admits free

def prodImport : Import :=
  ⟨⟨demoKey 1, none⟩, .first "east", demoNonce, "prod", "prod", Kubeconfig.threeContextsFile, 7⟩

/-- The role `platform-viewer` for the user `admin`. -/
def viewerReq : UserRoleReq := ⟨4, scopePlatform, "", ""⟩

def auditorReq : CreateRoleReq := ⟨"auditor", "auditor", ["audit:list"]⟩

def start : Stores := ⟨[], seedDatabase ""⟩

def allDeleted : Stores :=
  Transition.exec (next demo) start
    [.importCluster prodImport, .deleteCluster "prod",
      .bindUserRole "1" (.ok viewerReq) none, .unbindUserRole "1" (.ok viewerReq) none,
      .createRole (.ok auditorReq) none, .deleteRole "5" none]

theorem start_keyed : PermissionsKeyed start.auth := ⟨by decide +kernel, by decide +kernel⟩

theorem allDeleted_reachable : Transition.Reachable (runs demo) allDeleted :=
  .exec _ (.init start_keyed)

/-- What is left of the live rows. -/
theorem allDeleted_rows : (∀ c ∈ allDeleted.clusters, c.deleted = true) ∧
    (∀ ur ∈ allDeleted.auth.userRoles, ur.roleId = 4 → ur.deleted = true) ∧
    ∀ r ∈ allDeleted.auth.roles, (r.code = "auditor" → r.deleted = true) ∧ r.code ≠ "operator" := by
  decide +kernel

theorem operator_accepted_iff :
    allDeleted.Accepts demo (.role ⟨"operator", "operator", []⟩) ↔
      ¬allDeleted.Holds true (.role ⟨"operator", "operator", []⟩) :=
  creation_accepted_iff allDeleted_reachable
    (show CreateRoleReq.validate ⟨"operator", "operator", []⟩ = none by decide +kernel)
    (fun ⟨r, mem, _, code⟩ => (allDeleted_rows.2.2 r mem).2 code)

theorem prodImport_parses : ∃ parsed,
    Kubeconfig.parse demo.clientcmd prodImport.x prodImport.rawKubeconfig = .ok parsed ∧
      parsed.apiServer.length ≤ 256 := by
  have fits : (Kubeconfig.parse demo.clientcmd prodImport.x
      prodImport.rawKubeconfig).toOption.any (·.apiServer.length ≤ 256) = true := by decide +kernel
  cases parses : Kubeconfig.parse demo.clientcmd prodImport.x prodImport.rawKubeconfig with
  | error err => simp [parses, Except.toOption] at fits
  | ok parsed => exact ⟨parsed, rfl, by simpa [parses, Except.toOption] using fits⟩

/-- None of the three can be created again. -/
theorem deleted_keys_taken : Transition.Reachable (runs demo) allDeleted ∧
    ∀ c ∈ [.cluster prodImport, .binding "1" viewerReq, .role auditorReq],
      allDeleted.Admits demo c ∧ ¬allDeleted.Holds false c ∧ ¬allDeleted.Accepts demo c := by
  refine ⟨allDeleted_reachable, ?_⟩
  simp only [List.forall_mem_cons, List.not_mem_nil, false_implies, implies_true, and_true]
  have refused : (allDeleted.importCluster demo prodImport).1.isOk = false ∧
      (bindUserRole allDeleted.auth "1" (.ok viewerReq) none).1.isOk = false ∧
      (createRole allDeleted.auth (.ok auditorReq) none).1.isOk = false := by decide +kernel
  obtain ⟨clusters, userRoles, roles⟩ := allDeleted_rows
  refine ⟨⟨?_, ?_, ?_⟩, ⟨?_, ?_, ?_⟩, ?_, ?_, ?_⟩
  · exact ⟨by decide, by decide, by decide +kernel, by decide, by decide, prodImport_parses⟩
  · rintro ⟨c, mem, live, -⟩
    exact Bool.false_ne_true (live.symm.trans (clusters c mem))
  · exact Bool.eq_false_iff.1 refused.1
  · exact ⟨by decide +kernel, by decide +kernel, by decide, by decide, by decide +kernel, 1,
      by decide +kernel, by decide +kernel⟩
  · rintro ⟨ur, mem, live, -, roleId, -⟩
    exact Bool.false_ne_true (live.symm.trans (userRoles ur mem roleId))
  · exact Bool.eq_false_iff.1 refused.2.1
  · show auditorReq.validate = none
    decide +kernel
  · rintro ⟨r, mem, live, code⟩
    exact Bool.false_ne_true (live.symm.trans ((roles r mem).1 code))
  · exact Bool.eq_false_iff.1 refused.2.2

end Stores

end K8sPlatform.Models
