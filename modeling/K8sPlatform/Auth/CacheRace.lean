import K8sPlatform.Auth.Cache

/-! # Reads of the permission trees beside role administration -/

namespace K8sPlatform.Auth

/-- Where a call is between its steps. -/
inductive Progress
  | idle
  | missed (userId : Nat)
  | loaded (userId : Nat) (pt : PermissionTree)
  | written (op : Op)
  | deleting (users : List Nat)

/-- The tables and the cache, and the calls in progress. -/
structure Race where
  world : World
  calls : Nat → Progress

def Race.start (w : World) : Race := ⟨w, fun _ => .idle⟩

/-- A step of the numbered call: `GET`, the query and `SET` of a read; the write, the query for the
users and one `DEL` of a request. A step that the call is not ready for does nothing. -/
inductive RaceStep
  | get (call userId : Nat)
  | read (call : Nat)
  | set (call : Nat)
  | write (call : Nat) (op : Op)
  | query (call : Nat)
  | del (call : Nat)
  | wait (duration : Nat)

def Race.setCall (r : Race) (call : Nat) (p : Progress) : Race :=
  { r with calls := Function.update r.calls call p }

/-- A call has written the tables. -/
def Race.store (r : Race) (db : Database) : Race :=
  { r with world := { r.world with db := db } }

def Race.next (s : Service) (r : Race) : RaceStep → Race
  | .get call userId =>
    match r.calls call, Service.getCachedPermissionTree r.world healthy userId with
    | .idle, none => r.setCall call (.missed userId)
    | _, _ => r
  | .read call =>
    match r.calls call with
    | .missed userId =>
        r.setCall call (.loaded userId (loadPermissionTree s.orm r.world.db userId))
    | _ => r
  | .set call =>
    match r.calls call with
    | .loaded userId pt =>
        { r with world := Service.setCachedPermissionTree r.world healthy userId pt }.setCall call
          .idle
    | _ => r
  | .write call op =>
    match r.calls call with
    | .idle =>
        let (reply, db) := handle r.world.db op
        match reply with
        | .error _ => r.store db
        | .ok _ => (r.store db).setCall call (.written op)
    | _ => r
  | .query call =>
    match r.calls call with
    | .written op => r.setCall call (.deleting (op.invalidates r.world.db healthy))
    | _ => r
  | .del call =>
    match r.calls call with
    | .deleting (userId :: users) =>
        { r with world := Service.invalidateUserPermissionCache r.world healthy userId }.setCall
          call (.deleting users)
    | .deleting [] => r.setCall call .idle
    | _ => r
  | .wait duration => { r with world := { r.world with now := r.world.now + duration } }

/-- All calls have completed. -/
def Race.Settled (r : Race) : Prop := ∀ call, r.calls call = .idle

/-- The users whose trees a call will still drop, by the tables as they are. -/
def Progress.drops (db : Database) : Progress → List Nat
  | .written op => op.invalidates db healthy
  | .deleting users => users
  | .idle | .missed _ | .loaded .. => []

/-- An invalidation of the user is still to come. -/
def Race.Pending (r : Race) (userId : Nat) : Prop :=
  ∃ call, userId ∈ (r.calls call).drops r.world.db

/-- No stale tree survives the last invalidation of its user. -/
def Race.Covered (s : Service) (r : Race) : Prop :=
  Copies.Covered (loadPermissionTree s.orm r.world.db) r.world.copies r.Pending

/-- The trees are covered, and once all calls have completed the entry of a user is absent or what
the tables give him. -/
def Race.Coherent (s : Service) (r : Race) : Prop :=
  r.Covered s ∧ (r.Settled → ∀ userId, r.world.copies userId = none ∨
    r.world.copies userId = some (loadPermissionTree s.orm r.world.db userId))

/-- The condition on a step: a tree that is put into the cache is what the tables give now, and so
is the cached tree of a user whom a request misses, unless an invalidation is still to come. -/
def RaceStep.Ordered (s : Service) (r : Race) : RaceStep → Prop
  | .set call => ∀ userId pt, r.calls call = .loaded userId pt →
      pt = loadPermissionTree s.orm r.world.db userId ∨ r.Pending userId
  | .write call op => r.calls call = .idle →
      ∀ userId pt, r.world.copies userId = some pt → op.Misses r.world.db userId →
        pt = loadPermissionTree s.orm (handle r.world.db op).2 userId ∨
          (r.store (handle r.world.db op).2).Pending userId
  | _ => True

theorem Race.setCall_self (r : Race) (call : Nat) (p : Progress) :
    (r.setCall call p).calls call = p := Function.update_self _ _ _

/-- Without anything in between, the steps of a read are those of `getUserPermissionTree`. -/
theorem Race.read_alone {s : Service} {r : Race} {call : Nat} (free : r.calls call = .idle)
    (userId : Nat) :
    (Transition.exec (Race.next s) r [.get call userId, .read call, .set call]).world =
        (s.getUserPermissionTree r.world healthy userId).2 ∧
      (Transition.exec (Race.next s) r [.get call userId, .read call, .set call]).calls call =
        .idle := by
  simp only [Transition.exec_cons, Transition.exec_nil]
  cases cached : Service.getCachedPermissionTree r.world healthy userId with
  | some pt =>
      have hit : r.next s (.get call userId) = r := by simp [Race.next, free, cached]
      have idle : r.next s (.read call) = r ∧ r.next s (.set call) = r := by
        simp [Race.next, free]
      rw [hit, idle.1, idle.2]
      refine ⟨?_, free⟩
      simp [Service.getUserPermissionTree, cached]
  | none =>
      have miss : r.next s (.get call userId) = r.setCall call (.missed userId) := by
        simp [Race.next, free, cached]
      have filled : (s.getUserPermissionTree r.world healthy userId).2 =
          Service.setCachedPermissionTree r.world healthy userId
            (loadPermissionTree s.orm r.world.db userId) := by
        unfold Service.getUserPermissionTree
        rw [cached]
        rfl
      rw [miss, filled]
      simp [Race.next, Race.setCall]

theorem Race.deletions_alone (s : Service) {call : Nat} (users : List Nat) {r : Race}
    (deleting : r.calls call = .deleting users) :
    (Transition.exec (Race.next s) r (List.replicate (users.length + 1) (.del call))).world =
        users.foldl (fun w userId => Service.invalidateUserPermissionCache w healthy userId)
          r.world ∧
      (Transition.exec (Race.next s) r (List.replicate (users.length + 1) (.del call))).calls call =
        .idle := by
  induction users generalizing r with
  | nil =>
      have last : r.next s (.del call) = r.setCall call .idle := by
        simp [Race.next, deleting]
      simp [last, Race.setCall]
  | cons user users ih =>
      have first : r.next s (.del call) =
          { r with world := Service.invalidateUserPermissionCache r.world healthy user }.setCall
            call (.deleting users) := by
        simp [Race.next, deleting]
      rw [List.length_cons, List.replicate_succ, Transition.exec_cons, first]
      exact ih (Race.setCall_self _ _ _)

/-- Without anything in between, the steps of a request are those of `administer`. -/
theorem Race.administer_alone (s : Service) {r : Race} {call : Nat} (free : r.calls call = .idle)
    (op : Op) :
    let steps := .write call op :: .query call ::
      List.replicate ((op.drops r.world.db).length + 1) (RaceStep.del call)
    (Transition.exec (Race.next s) r steps).world = (administer r.world healthy op).2 ∧
      (Transition.exec (Race.next s) r steps).calls call = .idle := by
  dsimp only
  rw [Transition.exec_cons, Transition.exec_cons]
  unfold administer Op.drops
  cases handled : handle r.world.db op with
  | mk reply db =>
      cases reply with
      | error err =>
          have stored : r.next s (.write call op) = r.store db := by
            simp [Race.next, free, handled]
          have idle (p : RaceStep) (own : p = .query call ∨ p = .del call) :
              (r.store db).next s p = r.store db := by
            obtain rfl | rfl := own <;> simp [Race.next, Race.store, free]
          rw [stored, idle _ (.inl rfl)]
          have last : (r.store db).next s (.del call) = r.store db := idle _ (.inr rfl)
          simp only [List.length_nil, List.replicate_succ, List.replicate_zero,
            Transition.exec_cons, Transition.exec_nil, last]
          exact ⟨rfl, free⟩
      | ok reply =>
          have stored : r.next s (.write call op) = (r.store db).setCall call (.written op) := by
            simp [Race.next, free, handled]
          have asked : ((r.store db).setCall call (.written op)).next s (.query call) =
              (r.store db).setCall call (.deleting (op.invalidates db healthy)) := by
            simp [Race.next, Race.setCall, Race.store]
          rw [stored, asked]
          exact Race.deletions_alone s _ (Race.setCall_self _ _ _)

variable {db db' : Database} {userId : Nat} {s : Service} {r : Race} {call : Nat}

theorem markDeleted_other {matching : SysUserRole → Bool} {ur : SysUserRole}
    (other : matching ur = false) : markDeleted matching ur = ur := by
  simp [markDeleted, other]

/-- A change that does not touch a user's rows leaves his live bindings as they are. -/
theorem mem_bindUsers_untouched {change : Change} (effect : Effect db change db')
    (untouched : ¬change.Touches db userId) {roleId : Nat}
    (found : userId ∈ db.bindUsers healthy roleId) : userId ∈ db'.bindUsers healthy roleId := by
  obtain ⟨ur, mem, user, role, live⟩ := mem_bindUsers_iff.1 found
  have stays : ur ∈ db'.userRoles := by
    cases effect with
    | none | setCodes | setStatus | create => exact mem
    | bind => exact List.mem_append_left _ mem
    | unbind id req =>
        refine List.mem_map.2 ⟨ur, mem, markDeleted_other ?_⟩
        have other : userId ≠ id := untouched
        simp [unbindMatches, user, other]
    | delete id =>
        refine List.mem_map.2 ⟨ur, mem, markDeleted_other ?_⟩
        have other : ur.roleId ≠ id := fun same => untouched ⟨ur, mem, user, same⟩
        simpa using other
  exact mem_bindUsers_iff.2 ⟨ur, stays, user, role, live⟩

theorem mem_drops_untouched {change : Change} (effect : Effect db change db')
    (untouched : ¬change.Touches db userId) {p : Progress} (mem : userId ∈ p.drops db) :
    userId ∈ p.drops db' := by
  cases p with
  | idle | missed | loaded => cases mem
  | deleting users => exact mem
  | written op =>
      unfold Progress.drops Op.invalidates at mem ⊢
      cases op with
      | bindUserRole | unbindUserRole => exact mem
      | setRolePermissions | deleteRole => exact mem_bindUsers_untouched effect untouched mem
      | createRole => cases mem
      | updateRole id body fault =>
          cases body with
          | error err => cases mem
          | ok req =>
              dsimp only at mem ⊢
              split at mem
              · cases mem
              · rename_i updates
                rw [if_neg updates]
                exact mem_bindUsers_untouched effect untouched mem

/-- An invalidation stays to come while its call does not lose it. -/
theorem Race.Pending.setCall {w : World} {p : Progress} (h : r.Pending userId)
    (others : ∀ c, c ≠ call → userId ∈ (r.calls c).drops r.world.db →
      userId ∈ (r.calls c).drops w.db)
    (own : userId ∈ (r.calls call).drops r.world.db → userId ∈ p.drops w.db) :
    (Race.setCall { r with world := w } call p).Pending userId := by
  obtain ⟨c, mem⟩ := h
  refine ⟨c, ?_⟩
  by_cases same : c = call
  · subst same
    rw [Race.setCall_self]
    exact own mem
  · have kept : (Race.setCall { r with world := w } call p).calls c = r.calls c :=
      Function.update_of_ne same _ _
    rw [kept]
    exact others c same mem

/-! ## What the steps do -/

/-- A step of one call that drops nothing leaves the covered trees covered. -/
theorem Race.Covered.setCall {p : Progress} (covered : r.Covered s)
    (own : ∀ userId, userId ∈ (r.calls call).drops r.world.db → userId ∈ p.drops r.world.db) :
    (r.setCall call p).Covered s :=
  covered.mono (fun _ _ kept => kept) fun userId _ _ later =>
    later.setCall (w := r.world) (fun _ _ mem => mem) (own userId)

/-- A call that had nothing to drop adds what it drops now. -/
theorem Race.pending_setCall_iff (nothing : (r.calls call).drops r.world.db = []) (p : Progress) :
    (r.setCall call p).Pending userId ↔ userId ∈ p.drops r.world.db ∨ r.Pending userId := by
  constructor
  · rintro ⟨c, mem⟩
    by_cases same : c = call
    · subst same
      rw [Race.setCall_self] at mem
      exact .inl mem
    · have kept : (r.setCall call p).calls c = r.calls c := Function.update_of_ne same _ _
      rw [kept] at mem
      exact .inr ⟨c, mem⟩
  · rintro (mem | ⟨c, mem⟩)
    · refine ⟨call, ?_⟩
      rw [Race.setCall_self]
      exact mem
    · have other : c ≠ call := by
        rintro rfl
        rw [nothing] at mem
        cases mem
      have kept : (r.setCall call p).calls c = r.calls c := Function.update_of_ne other _ _
      refine ⟨c, ?_⟩
      rw [kept]
      exact mem

theorem Race.next_set_iff (covered : r.Covered s) (call : Nat) :
    (r.next s (.set call)).Covered s ↔ RaceStep.Ordered s r (.set call) := by
  cases calls : r.calls call with
  | loaded userId pt =>
      have nothing : (r.calls call).drops r.world.db = [] := by
        rw [calls]
        rfl
      have step : r.next s (.set call) = Race.setCall
          { r with world := Service.setCachedPermissionTree r.world healthy userId pt } call
            .idle := by
        simp [Race.next, calls]
      have pending : (r.next s (.set call)).Pending = r.Pending := by
        funext id
        rw [step]
        refine propext ((Race.pending_setCall_iff nothing _).trans ?_)
        exact or_iff_right List.not_mem_nil
      have put : (r.next s (.set call)).world.copies =
          Function.update r.world.copies userId (some pt) := by
        rw [step]
        exact copies_set userId pt
      have tables : (r.next s (.set call)).world.db = r.world.db := by
        rw [step]
        rfl
      unfold Race.Covered
      rw [pending, put, tables, Copies.covered_put_iff covered]
      constructor
      · intro good userId' pt' loaded
        rw [calls] at loaded
        cases loaded
        exact good
      · exact fun ordered => ordered userId pt calls
  | idle | missed | written | deleting =>
      have step : r.next s (.set call) = r := by simp [Race.next, calls]
      rw [step]
      exact iff_of_true covered (by simp [RaceStep.Ordered, calls])

/-- A request that writes, and its invalidations, leave every tree covered just when the trees of
the users that it misses are. -/
theorem Race.next_write_iff (covered : r.Covered s) (call : Nat) (op : Op) :
    (r.next s (.write call op)).Covered s ↔ RaceStep.Ordered s r (.write call op) := by
  cases calls : r.calls call with
  | idle =>
      obtain ⟨err, refused⟩ | ⟨reply, db', done, -⟩ := handle_handled r.world.db op
      · have step : r.next s (.write call op) = r.store r.world.db := by
          simp [Race.next, calls, refused]
        rw [step]
        apply iff_of_true covered
        rintro - userId pt - ⟨touched, -⟩
        rw [changeOf, refused] at touched
        cases touched
      · have tables : (handle r.world.db op).2 = db' := by rw [done]
        have effect := handle_effect r.world.db op
        rw [tables] at effect
        have step : r.next s (.write call op) = (r.store db').setCall call (.written op) := by
          simp [Race.next, calls, done]
        have nothing : ((r.store db').calls call).drops db' = [] := by
          rw [Race.store, calls]
          rfl
        have pending (userId : Nat) : (r.next s (.write call op)).Pending userId ↔
            userId ∈ op.invalidates db' healthy ∨ (r.store db').Pending userId := by
          rw [step]
          exact Race.pending_setCall_iff nothing _
        have covered_iff : (r.next s (.write call op)).Covered s ↔
            Copies.Covered (loadPermissionTree s.orm db') r.world.copies
              (r.next s (.write call op)).Pending := by
          rw [step]
          rfl
        have missed_iff {userId : Nat} (missed : op.Misses r.world.db userId) :
            (r.next s (.write call op)).Pending userId ↔ (r.store db').Pending userId := by
          have kept : userId ∉ op.invalidates db' healthy := tables ▸ missed.2
          rw [pending, or_iff_right kept]
        rw [covered_iff, Copies.covered_change_iff (op.Misses r.world.db) covered]
        · constructor
          · intro reached _ userId pt kept missed
            rw [tables, ← missed_iff missed]
            exact reached userId pt kept missed
          · intro ordered userId pt kept missed
            have good := ordered calls userId pt kept missed
            rwa [tables, ← missed_iff missed] at good
        · intro userId pt _ reached
          obtain untouched | dropped := untouched_or_dropped r.world.db op userId reached
          · refine .inl ⟨loadPermissionTree_untouched effect untouched, ?_⟩
            rintro ⟨c, mem⟩
            exact (pending userId).2 (.inr ⟨c, mem_drops_untouched effect untouched mem⟩)
          · have invalidated := mem_drops dropped
            rw [tables] at invalidated
            exact .inr ((pending userId).2 (.inl invalidated))
  | missed | loaded | written | deleting =>
      have step : r.next s (.write call op) = r := by simp [Race.next, calls]
      rw [step]
      exact iff_of_true covered (by simp [RaceStep.Ordered, calls])

theorem Race.next_query (covered : r.Covered s) (call : Nat) :
    (r.next s (.query call)).Covered s := by
  cases calls : r.calls call with
  | written op =>
      have step : r.next s (.query call) =
          r.setCall call (.deleting (op.invalidates r.world.db healthy)) := by
        simp [Race.next, calls]
      rw [step]
      apply covered.setCall
      intro userId mem
      rw [calls] at mem
      exact mem
  | idle | missed | loaded | deleting =>
      have step : r.next s (.query call) = r := by simp [Race.next, calls]
      rwa [step]

theorem Race.next_del (covered : r.Covered s) (call : Nat) : (r.next s (.del call)).Covered s := by
  cases calls : r.calls call with
  | deleting users =>
      cases users with
      | nil =>
          have step : r.next s (.del call) = r.setCall call .idle := by simp [Race.next, calls]
          rw [step]
          apply covered.setCall
          intro userId mem
          rw [calls] at mem
          cases mem
      | cons user users =>
          have step : r.next s (.del call) = Race.setCall
              { r with world := Service.invalidateUserPermissionCache r.world healthy user } call
                (.deleting users) := by
            simp [Race.next, calls]
          have removed : (r.next s (.del call)).world.copies =
              Function.update r.world.copies user none := by
            rw [step]
            exact copies_invalidate user
          unfold Race.Covered
          rw [removed, step]
          apply covered.remove
          intro userId other later
          apply later.setCall (fun _ _ mem => mem)
          intro mem
          rw [calls] at mem
          exact (List.mem_cons.1 mem).resolve_left other
  | idle | missed | loaded | written =>
      have step : r.next s (.del call) = r := by simp [Race.next, calls]
      rwa [step]

/-- A step of a read that puts nothing down leaves the covered trees covered. -/
theorem Race.next_get (covered : r.Covered s) (call userId : Nat) :
    (r.next s (.get call userId)).Covered s := by
  simp only [Race.next]
  split
  · rename_i idle _
    apply covered.setCall
    intro userId mem
    rw [idle] at mem
    cases mem
  · exact covered

theorem Race.next_read (covered : r.Covered s) (call : Nat) :
    (r.next s (.read call)).Covered s := by
  simp only [Race.next]
  split
  · rename_i missed
    apply covered.setCall
    intro userId mem
    rw [missed] at mem
    cases mem
  · exact covered

/-- Trees expire, and nothing else changes. -/
theorem Race.next_wait (covered : r.Covered s) (duration : Nat) :
    (r.next s (.wait duration)).Covered s := by
  refine covered.mono (fun userId pt kept => ?_) fun _ _ _ later => later
  obtain ⟨expiry, cached, living⟩ := copies_eq_some.1 kept
  have earlier : r.world.now < expiry := by
    simp only [Race.next] at living
    omega
  exact copies_eq_some.2 ⟨expiry, cached, earlier⟩

theorem Race.next_covered_iff (covered : r.Covered s) (step : RaceStep) :
    (r.next s step).Covered s ↔ step.Ordered s r := by
  cases step with
  | get call userId => exact iff_of_true (Race.next_get covered call userId) True.intro
  | read call => exact iff_of_true (Race.next_read covered call) True.intro
  | set call => exact Race.next_set_iff covered call
  | write call op => exact Race.next_write_iff covered call op
  | query call => exact iff_of_true (Race.next_query covered call) True.intro
  | del call => exact iff_of_true (Race.next_del covered call) True.intro
  | wait duration => exact iff_of_true (Race.next_wait covered duration) True.intro

theorem Race.Settled.not_pending (settled : r.Settled) (userId : Nat) : ¬r.Pending userId := by
  rintro ⟨call, mem⟩
  rw [settled call] at mem
  cases mem

theorem Race.Covered.coherent (covered : r.Covered s) : r.Coherent s := by
  refine ⟨covered, fun settled userId => ?_⟩
  have current := Copies.Covered.current covered settled.not_pending
  cases kept : r.world.copies userId with
  | none => exact .inl rfl
  | some pt => exact .inr (congrArg some (current userId pt kept))

theorem Race.start_covered {w : World} (start : ∀ userId, s.ReadsCurrent w userId) :
    (Race.start w).Covered s :=
  Copies.Current.covered (readsCurrent_iff.1 start)

/-- In every interleaving of the steps of any number of reads and requests that starts with current
trees: no stale tree survives the last invalidation of its user exactly when each `SET` puts down
what the tables give then, or before an invalidation of its user, and no write leaves a user with a
cached tree that the tables no longer give and without an invalidation. -/
theorem stale_trees_dropped_iff (s : Service) (w : World)
    (start : ∀ userId, s.ReadsCurrent w userId) (steps : List RaceStep) :
    (∀ n, (Transition.exec (Race.next s) (.start w) (steps.take n)).Coherent s) ↔
      Transition.Along (RaceStep.Ordered s) (Race.next s) (.start w) steps := by
  rw [← Transition.always_iff_along (I := fun _ => True) (P := Race.Covered s)
    (Q := RaceStep.Ordered s) (fun _ => True.intro)
    (fun {_ step} _ covered => Race.next_covered_iff covered step) True.intro
    (Race.start_covered start) steps]
  constructor
  · exact fun coherent n => (coherent n).1
  · exact fun covered n => (covered n).coherent

def afterSteps (steps : List RaceStep) : Race :=
  Transition.exec (Race.next devService) (.start devWorld) steps

def takeAll : Op := .setRolePermissions "2" (.ok []) none

/-- The tree is loaded before the codes are taken from the role, and put down after. -/
def straddled : List RaceStep :=
  [.get 0 7, .read 0, .write 1 takeAll, .query 1, .del 1, .del 1, .set 0]

/-- All calls have completed, and the user keeps the permissions that the role no longer has. -/
theorem stale_tree_put_down :
    (∀ userId, devService.ReadsCurrent devWorld userId) ∧
      ¬(afterSteps straddled).Coherent devService := by
  refine ⟨fun userId => rfl, ?_⟩
  rintro ⟨-, absent_or_current⟩
  have settled : (afterSteps straddled).Settled := by
    intro call
    match call with
    | 0 => rfl
    | 1 => rfl
    | _ + 2 => rfl
  have kept : ((afterSteps straddled).world.copies 7).map
      (fun pt => decide ("cluster:list" ∈ pt.perms)) = some true := by
    decide +kernel
  have lost : "cluster:list" ∉
      (loadPermissionTree devService.orm (afterSteps straddled).world.db 7).perms := by
    decide +kernel
  obtain absent | current := absent_or_current settled 7
  · rw [absent] at kept
    cases kept
  · rw [current] at kept
    simp [lost] at kept

/-- The tree is put down before its user loses a role. -/
def inTurn : List RaceStep :=
  [.get 0 7, .read 0, .set 0, .write 1 unbindViewer, .query 1, .del 1, .del 1]

theorem unbound_tree_dropped : (afterSteps inTurn).Coherent devService := by
  refine (stale_trees_dropped_iff devService devWorld (fun userId => rfl) inTurn).2
    ⟨True.intro, True.intro, ?_, ?_, True.intro, True.intro, True.intro, True.intro⟩ 7
  · rintro userId pt ⟨⟩
    exact .inl rfl
  · rintro - userId pt - ⟨touched, missed⟩
    exact absurd (List.mem_singleton.2 touched) missed

end K8sPlatform.Auth
