import K8sPlatform.Auth.Disable
import K8sPlatform.Auth.Revocation
import K8sPlatform.Lib.Copies

/-! # The cached permission trees, one call at a time -/

namespace K8sPlatform.Auth

open Errcode

/-- `SELECT DISTINCT user_id … WHERE role_id = ?`, over live bindings. -/
def Database.bindUsers (db : Database) (h : Health) (roleId : Nat) : List Nat :=
  if h.db.isSome then []
  else
    ((db.userRoles.filter fun ur => ur.roleId == roleId && !ur.deleted).map (·.userId)).eraseDups

/-- The users whose cache a handler drops after its write, by the tables after the write. -/
def Op.invalidates (db : Database) (h : Health) : Op → List Nat
  | .bindUserRole idStr _ _ | .unbindUserRole idStr _ _ => [pathId idStr]
  | .setRolePermissions idStr _ _ | .deleteRole idStr _ => db.bindUsers h (pathId idStr)
  | .updateRole idStr (.ok req) _ =>
      if req.name.isNone && req.description.isNone && req.status.isNone then []
      else db.bindUsers h (pathId idStr)
  | .updateRole _ (.error _) _ | .createRole _ _ => []

/-- A role-administration request with its invalidations, whose errors are dropped. -/
def administer (w : World) (h : Health) (op : Op) : Except Error Reply × World :=
  let (reply, db) := handle w.db op
  let written := { w with db := db }
  match reply with
  | .error err => (.error err, written)
  | .ok reply =>
      (.ok reply, (op.invalidates db h).foldl
        (fun w userId => Service.invalidateUserPermissionCache w h userId) written)

inductive CacheCall
  | admin (op : Op)
  | get (userId : Nat)
  | wait (duration : Nat)

/-- A call that finds the database and Redis healthy. -/
def CacheCall.next (s : Service) (w : World) : CacheCall → World
  | .admin op => (administer w healthy op).2
  | .get userId => (s.getUserPermissionTree w healthy userId).2
  | .wait duration => { w with now := w.now + duration }

/-- The call returns what the tables give the user now. -/
def Service.ReadsCurrent (s : Service) (w : World) (userId : Nat) : Prop :=
  (s.getUserPermissionTree w healthy userId).1 = .ok (loadPermissionTree s.orm w.db userId)

/-- The rows that a change writes are among those that the user's tree is loaded from. -/
def Change.Touches (db : Database) (userId : Nat) : Change → Prop
  | .none => False
  | .bind id _ | .unbind id _ => userId = id
  | .setCodes roleId _ | .setStatus roleId _ | .create roleId _ | .delete roleId =>
      ∃ ur ∈ db.userRoles, ur.userId = userId ∧ ur.roleId = roleId

/-- The request touches the rows of the user, live or soft-deleted, and does not drop his cache. -/
def Op.Misses (db : Database) (op : Op) (userId : Nat) : Prop :=
  (changeOf db op).Touches db userId ∧ userId ∉ op.invalidates (handle db op).2 healthy

/-- A user with a cached tree whom the request misses is given the same by the tables after it. -/
def CacheCall.Spares (s : Service) (w : World) : CacheCall → Prop
  | .admin op => ∀ userId pt, Service.getCachedPermissionTree w healthy userId = some pt →
      op.Misses w.db userId →
        loadPermissionTree s.orm (handle w.db op).2 userId =
          loadPermissionTree s.orm w.db userId
  | .get _ | .wait _ => True

variable {orm : NamingStrategy} {db : Database} {userId : Nat}

/-- The query finds the users with a live binding to the role. -/
theorem mem_bindUsers_iff {roleId : Nat} : userId ∈ db.bindUsers healthy roleId ↔
    ∃ ur ∈ db.userRoles, ur.userId = userId ∧ ur.roleId = roleId ∧ ur.deleted = false := by
  simp only [Database.bindUsers, healthy, Option.isSome_none, Bool.false_eq_true, if_false,
    List.mem_eraseDups, List.mem_map, List.mem_filter, Bool.and_eq_true, beq_iff_eq,
    Bool.not_eq_eq_eq_not, Bool.not_true]
  constructor
  · rintro ⟨ur, ⟨mem, role, live⟩, user⟩
    exact ⟨ur, mem, user, role, live⟩
  · rintro ⟨ur, mem, user, role, live⟩
    exact ⟨ur, ⟨mem, role, live⟩, user⟩

/-- After the deletion of a role it finds nobody. -/
theorem bindUsers_removeRole (db : Database) (roleId : Nat) :
    (db.removeRole roleId).bindUsers healthy roleId = [] := by
  apply List.eq_nil_iff_forall_not_mem.2
  intro userId mem
  obtain ⟨ur', mem', -, role, live⟩ := mem_bindUsers_iff.1 mem
  obtain ⟨ur, -, rfl⟩ := List.mem_map.1 mem'
  rw [markDeleted_roleId] at role
  simp only [markDeleted, role, beq_self_eq_true, Bool.true_and] at live
  split at live
  · cases live
  · rename_i marked
    simp [live] at marked

/-- Every binding contributes its own rows to the query. -/
theorem selectPermRows_flatMap (db : Database) (userId : Nat) :
    selectPermRows db userId =
      db.userRoles.flatMap fun ur => selectPermRows { db with userRoles := [ur] } userId := by
  have single : db.userRoles = db.userRoles.flatMap fun ur => [ur] :=
    (List.flatMap_singleton' _).symm
  simp only [selectPermRows]
  conv_lhs => rw [single, Relational.leftJoin_flatMap, Relational.leftJoin_flatMap]
  rw [List.filter_flatMap, List.map_flatMap]

/-- A binding of another user contributes nothing. -/
theorem selectPermRows_other {ur : SysUserRole} (other : ur.userId ≠ userId) :
    selectPermRows { db with userRoles := [ur] } userId = [] := by
  apply List.eq_nil_iff_forall_not_mem.2
  intro row mem
  obtain ⟨ur', r, rp, joined, -, -⟩ := mem_selectPermRows.1 mem
  obtain rfl := List.mem_singleton.1 joined.binding
  exact other joined.user

/-- A binding contributes the same while the rows of its role are the same. -/
theorem selectPermRows_role {db' : Database} {ur : SysUserRole}
    (roles : db'.roles.filter (fun r => ur.roleId == r.id) =
      db.roles.filter fun r => ur.roleId == r.id)
    (codes : db'.rolePermissions.filter (fun rp => ur.roleId == rp.roleId) =
      db.rolePermissions.filter fun rp => ur.roleId == rp.roleId) :
    selectPermRows { db' with userRoles := [ur] } userId =
      selectPermRows { db with userRoles := [ur] } userId := by
  have joined : Relational.leftJoin (fun ur r => ur.roleId == r.id) [ur] db'.roles =
      Relational.leftJoin (fun ur r => ur.roleId == r.id) [ur] db.roles := by
    apply Relational.leftJoin_congr
    intro ur' mem
    obtain rfl := List.mem_singleton.1 mem
    exact roles
  simp only [selectPermRows]
  rw [joined, Relational.leftJoin_congr fun j mem => ?_]
  obtain ⟨ur', r⟩ := j
  obtain rfl := List.mem_singleton.1 (Relational.mem_of_mem_leftJoin mem)
  exact codes

/-- The query for a user reads the rows of his bindings and of their roles, and no others. -/
theorem selectPermRows_congr {db' : Database} (bindings : db'.userRoles = db.userRoles)
    (same : ∀ ur ∈ db.userRoles, ur.userId = userId →
      db'.roles.filter (fun r => ur.roleId == r.id) =
          db.roles.filter (fun r => ur.roleId == r.id) ∧
        db'.rolePermissions.filter (fun rp => ur.roleId == rp.roleId) =
          db.rolePermissions.filter fun rp => ur.roleId == rp.roleId) :
    selectPermRows db' userId = selectPermRows db userId := by
  rw [selectPermRows_flatMap db', selectPermRows_flatMap db, bindings]
  apply List.flatMap_congr
  intro ur mem
  by_cases own : ur.userId = userId
  · obtain ⟨roles, codes⟩ := same ur mem own
    exact selectPermRows_role roles codes
  · rw [selectPermRows_other own, selectPermRows_other own]

theorem filter_codes_added {codes : List String} {id roleId : Nat} (other : roleId ≠ id) :
    (codes.map fun code => (⟨id, code⟩ : SysRolePermission)).filter
      (fun rp => roleId == rp.roleId) = [] := by
  apply List.filter_eq_nil_iff.2
  intro rp mem
  obtain ⟨code, -, rfl⟩ := List.mem_map.1 mem
  simpa using other

theorem filter_codes_removed {rows : List SysRolePermission} {id roleId : Nat}
    (other : roleId ≠ id) :
    (rows.filter (·.roleId != id)).filter (fun rp => roleId == rp.roleId) =
      rows.filter fun rp => roleId == rp.roleId := by
  rw [List.filter_filter]
  apply List.filter_congr
  intro rp _
  by_cases own : roleId = rp.roleId
  · have kept : rp.roleId ≠ id := own ▸ other
    simp [own, kept]
  · simp [own]

/-- A change that does not touch a user's rows leaves his tree as it is. -/
theorem loadPermissionTree_untouched {change : Change} {db' : Database}
    (effect : Effect db change db') (untouched : ¬change.Touches db userId) :
    loadPermissionTree orm db' userId = loadPermissionTree orm db userId := by
  have elsewhere (roleId : Nat) (none_ : ¬∃ ur ∈ db.userRoles, ur.userId = userId ∧
      ur.roleId = roleId) : ∀ ur ∈ db.userRoles, ur.userId = userId → ur.roleId ≠ roleId :=
    fun ur mem own role => none_ ⟨ur, mem, own, role⟩
  apply congrArg (fun rows : List ResultRow => buildTree (rows.map orm.scan))
  cases effect with
  | none => rfl
  | bind id req role =>
      have other : id ≠ userId := fun eq => untouched eq.symm
      rw [selectPermRows_flatMap, List.flatMap_append, List.flatMap_singleton,
        selectPermRows_other other, List.append_nil]
      exact (selectPermRows_flatMap db userId).symm
  | unbind id req => exact selectPermRows_softDelete db _ userId
  | setCodes roleId codes known =>
      refine selectPermRows_congr rfl fun ur mem own => ⟨rfl, ?_⟩
      have other := elsewhere roleId untouched ur mem own
      rw [List.filter_append, filter_codes_added other, filter_codes_removed other,
        List.append_nil]
  | setStatus roleId status role =>
      refine selectPermRows_congr rfl fun ur mem own => ⟨?_, rfl⟩
      have other := elsewhere roleId untouched ur mem own
      refine Relational.filter_map_other (fun r => ?_) fun r selected => ?_
      · split <;> rfl
      · rw [beq_iff_eq] at selected
        simp [← selected, other]
  | create code codes known =>
      refine selectPermRows_congr rfl fun ur mem own => ?_
      have other := elsewhere db.nextRoleId untouched ur mem own
      rw [List.filter_append, List.filter_append, filter_codes_added other, List.append_nil]
      simp [other]
  | delete roleId role =>
      have marked := selectPermRows_softDelete { db with
        rolePermissions := db.rolePermissions.filter (·.roleId != roleId)
        roles := db.roles.map fun r =>
          if r.id == roleId && !r.deleted then { r with deleted := true } else r }
        (·.roleId == roleId) userId
      refine marked.trans (selectPermRows_congr rfl fun ur mem own => ?_)
      have other := elsewhere roleId untouched ur mem own
      refine ⟨Relational.filter_map_other (fun r => ?_) fun r selected => ?_,
        filter_codes_removed other⟩
      · split <;> rfl
      · rw [beq_iff_eq] at selected
        simp [← selected, other]

/-! ## The copies -/

variable {s : Service} {w : World}

/-- The unexpired trees. -/
def World.copies (w : World) : Nat → Option PermissionTree :=
  Service.getCachedPermissionTree w healthy

theorem copies_eq_some {pt : PermissionTree} :
    w.copies userId = some pt ↔ ∃ expiry, w.cache userId = some (pt, expiry) ∧ w.now < expiry := by
  simp only [World.copies, Service.getCachedPermissionTree, healthy]
  cases w.cache userId with
  | none => simp
  | some entry =>
      obtain ⟨pt', expiry⟩ := entry
      by_cases fresh : w.now < expiry <;> simp [fresh]

theorem copies_set (userId : Nat) (pt : PermissionTree) :
    (Service.setCachedPermissionTree w healthy userId pt).copies =
      Function.update w.copies userId (some pt) := by
  funext id
  by_cases same : id = userId
  · subst same
    have living : w.now < w.now + rbacCacheTTL := by
      simp [rbacCacheTTL]
    simp [World.copies, Service.getCachedPermissionTree, Service.setCachedPermissionTree, healthy,
      living]
  · simp [World.copies, Service.getCachedPermissionTree, Service.setCachedPermissionTree, healthy,
      same]

theorem copies_invalidate (userId : Nat) :
    (Service.invalidateUserPermissionCache w healthy userId).copies =
      Function.update w.copies userId none := by
  funext id
  by_cases same : id = userId
  · subst same
    simp [World.copies, Service.getCachedPermissionTree, Service.invalidateUserPermissionCache,
      healthy]
  · simp [World.copies, Service.getCachedPermissionTree, Service.invalidateUserPermissionCache,
      healthy, same]

theorem readsCurrent_iff : (∀ userId, s.ReadsCurrent w userId) ↔
    Copies.Current (loadPermissionTree s.orm w.db) w.copies := by
  apply forall_congr'
  intro userId
  unfold Service.ReadsCurrent Service.getUserPermissionTree
  cases cached : Service.getCachedPermissionTree w healthy userId with
  | none =>
      apply iff_of_true (by simp [healthy])
      intro pt kept
      rw [World.copies, cached] at kept
      cases kept
  | some pt => simp [World.copies, cached]

/-- The invalidations leave the tables alone and the trees of the other users. -/
theorem foldl_invalidate (users : List Nat) (w : World) :
    (users.foldl (fun w userId => Service.invalidateUserPermissionCache w healthy userId) w).db =
        w.db ∧
      ∀ userId,
        (users.foldl (fun w userId => Service.invalidateUserPermissionCache w healthy userId)
          w).copies userId = if userId ∈ users then none else w.copies userId := by
  induction users generalizing w with
  | nil => simp
  | cons user users ih =>
      obtain ⟨db, copies⟩ := ih (Service.invalidateUserPermissionCache w healthy user)
      rw [List.foldl_cons]
      refine ⟨db.trans rfl, fun userId => ?_⟩
      rw [copies, copies_invalidate]
      by_cases same : userId = user
      · subst same
        simp
      · simp [same]

/-- The users whose trees a request drops. -/
def Op.drops (db : Database) (op : Op) : List Nat :=
  match (handle db op).1 with
  | .error _ => []
  | .ok _ => op.invalidates (handle db op).2 healthy

theorem administer_leaves (w : World) (op : Op) :
    (administer w healthy op).2.db = (handle w.db op).2 ∧
      (administer w healthy op).2.copies =
        fun userId => if userId ∈ op.drops w.db then none else w.copies userId := by
  unfold administer Op.drops
  cases handled : handle w.db op with
  | mk reply db =>
      cases reply with
      | error err => exact ⟨rfl, rfl⟩
      | ok reply =>
          obtain ⟨tables, copies⟩ :=
            foldl_invalidate (op.invalidates db healthy) { w with db := db }
          exact ⟨tables, funext copies⟩

theorem mem_drops {op : Op} (mem : userId ∈ op.drops db) :
    userId ∈ op.invalidates (handle db op).2 healthy := by
  unfold Op.drops at mem
  split at mem
  · cases mem
  · exact mem

/-- A request that succeeds drops the user, does not touch his rows, or misses him. -/
theorem untouched_or_dropped (db : Database) (op : Op) (userId : Nat)
    (reached : ¬op.Misses db userId) :
    ¬(changeOf db op).Touches db userId ∨ userId ∈ op.drops db := by
  by_cases touched : (changeOf db op).Touches db userId
  · right
    have invalidated : userId ∈ op.invalidates (handle db op).2 healthy := by
      by_contra missed
      exact reached ⟨touched, missed⟩
    unfold changeOf at touched
    unfold Op.drops
    cases reply : (handle db op).1 with
    | error err =>
        rw [reply] at touched
        cases touched
    | ok reply => exact invalidated
  · exact .inl touched

/-- After a request every copy is current just when the users that it misses are given the same. -/
theorem administer_current_iff (current : Copies.Current (loadPermissionTree s.orm w.db) w.copies)
    (op : Op) :
    Copies.Current (loadPermissionTree s.orm (administer w healthy op).2.db)
        (administer w healthy op).2.copies ↔
      CacheCall.Spares s w (.admin op) := by
  obtain ⟨tables, copies⟩ := administer_leaves w op
  rw [tables, copies, Copies.current_drop_iff,
    Copies.covered_change_iff (op.Misses w.db) (Copies.current_iff_covered.1 current)]
  · constructor
    · intro reached userId pt kept missed
      obtain same | dropped := reached userId pt kept missed
      · exact same.symm.trans (current userId pt kept)
      · exact absurd (mem_drops dropped) missed.2
    · intro spares userId pt kept missed
      exact .inl ((current userId pt kept).trans (spares userId pt kept missed).symm)
  · intro userId pt kept reached
    obtain untouched | dropped := untouched_or_dropped w.db op userId reached
    · exact .inl ⟨loadPermissionTree_untouched (handle_effect w.db op) untouched, False.elim⟩
    · exact .inr dropped

/-- A read leaves everything, or puts down the tree that it has loaded. -/
theorem getUserPermissionTree_leaves (s : Service) (w : World) (userId : Nat) :
    (s.getUserPermissionTree w healthy userId).2 = w ∨
      (s.getUserPermissionTree w healthy userId).2 =
        Service.setCachedPermissionTree w healthy userId
          (loadPermissionTree s.orm w.db userId) := by
  unfold Service.getUserPermissionTree
  cases Service.getCachedPermissionTree w healthy userId with
  | some pt => exact .inl rfl
  | none => exact .inr rfl

theorem CacheCall.next_current_iff
    (current : Copies.Current (loadPermissionTree s.orm w.db) w.copies) (call : CacheCall) :
    Copies.Current (loadPermissionTree s.orm (call.next s w).db) (call.next s w).copies ↔
      call.Spares s w := by
  cases call with
  | admin op => exact administer_current_iff current op
  | get userId =>
      refine iff_of_true ?_ True.intro
      obtain same | filled := getUserPermissionTree_leaves s w userId
      · simp only [CacheCall.next, same]
        exact current
      · have put := (Copies.covered_put_iff (Copies.current_iff_covered.1 current) userId
          (loadPermissionTree s.orm w.db userId)).2 (.inl rfl)
        rw [← copies_set] at put
        simp only [CacheCall.next, filled]
        exact Copies.current_iff_covered.2 put
  | wait duration =>
      refine iff_of_true (fun userId pt kept => ?_) True.intro
      obtain ⟨expiry, cached, living⟩ := copies_eq_some.1 kept
      have earlier : w.now < expiry := by
        simp only [CacheCall.next] at living
        omega
      exact current userId pt (copies_eq_some.2 ⟨expiry, cached, earlier⟩)

/-- In every sequence of calls that starts with current trees: after each of them every user reads
what the tables give him exactly when each request gives the same to the users with a cached tree
whose rows it touches without dropping the tree. -/
theorem reads_current_iff (s : Service) (w : World) (start : ∀ userId, s.ReadsCurrent w userId)
    (calls : List CacheCall) :
    (∀ n userId, s.ReadsCurrent (Transition.exec (CacheCall.next s) w (calls.take n)) userId) ↔
      Transition.Along (CacheCall.Spares s) (CacheCall.next s) w calls := by
  have agree {w : World} {call : CacheCall} (current : ∀ userId, s.ReadsCurrent w userId) :
      (∀ userId, s.ReadsCurrent (call.next s w) userId) ↔ call.Spares s w := by
    rw [readsCurrent_iff] at current ⊢
    exact CacheCall.next_current_iff current call
  exact Transition.always_iff_along (I := fun _ => True)
    (P := fun w => ∀ userId, s.ReadsCurrent w userId) (fun _ => True.intro)
    (fun _ current => agree current) True.intro start calls

/-- The user reads his tree, and then his role is deleted. -/
def deletedBehind : List CacheCall := [.get 7, .admin (.deleteRole "2" none)]

def afterCalls (calls : List CacheCall) : World :=
  Transition.exec (CacheCall.next devService) devWorld calls

/-- Nobody's cache is dropped: the user keeps the permissions of the deleted role. -/
theorem deleted_role_stays_cached :
    (∀ userId, devService.ReadsCurrent devWorld userId) ∧
      (administer (afterCalls [.get 7]) healthy (.deleteRole "2" none)).1.toOption =
        some (.role 2) ∧
      ¬devService.ReadsCurrent (afterCalls deletedBehind) 7 := by
  refine ⟨fun userId => rfl, by decide +kernel, fun current => ?_⟩
  have read :
      ((devService.getUserPermissionTree (afterCalls deletedBehind) healthy 7).1.toOption.map
        fun pt => decide ("cluster:list" ∈ pt.perms)) = some true := by
    decide +kernel
  have lost : "cluster:list" ∉
      (loadPermissionTree devService.orm (afterCalls deletedBehind).db 7).perms := by
    decide +kernel
  rw [current] at read
  simp [Except.toOption, lost] at read

def unbindViewer : Op :=
  .unbindUserRole "7" (.ok ⟨2, scopeNamespace, "prod", "team-a"⟩) none

/-- An unbinding drops the tree of its user. -/
theorem unbound_reads_current :
    devService.ReadsCurrent (afterCalls [.get 7, .admin unbindViewer, .get 7]) 7 := by
  refine (reads_current_iff devService devWorld (fun userId => rfl)
    [.get 7, .admin unbindViewer, .get 7]).2 ⟨True.intro, ?_, True.intro, True.intro⟩ 3 7
  rintro userId pt - ⟨touched, missed⟩
  refine absurd (List.mem_singleton.2 ?_) missed
  exact touched

end K8sPlatform.Auth
