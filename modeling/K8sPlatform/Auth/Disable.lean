import K8sPlatform.Lib.Transition
import K8sPlatform.Auth.RoleEffect
import K8sPlatform.Auth.Users
import K8sPlatform.Websocket.Handshake

/-! # Disabling a user at the four entry points -/

namespace K8sPlatform.Auth

open Websocket (Handshake wsHandler extractWSToken originAllowed)

/-- A call, with the health of the database and Redis during it. `roleAdmin` also drops
some of the cached trees. -/
inductive Event
  | tick (elapsed : Nat)
  | login (username password : String) (ids : Service.TokenIds) (h : Health)
  | refresh (token : String) (ids : Service.TokenIds) (h : Health)
  | logout (access : CustomClaims) (refreshToken : String) (h : Health)
  | updateUser (id : String) (body : Body UpdateUserReq) (h : Health)
  | updateUserStatus (id : String) (body : Body UpdateUserStatusReq) (h : Health)
  | roleAdmin (op : Op) (dropped : Nat → Bool)
  | request (authHeader : String) (req : Request) (h : Health)
  | handshake (r : Handshake) (h : Health)

/-- The world and the users whom a successful update disabled and none enabled since. -/
structure Watched where
  world : World
  disabled : Set Nat

section

variable (s : Service) (allowOrigins : List String)

/-- `AuthMiddleware` followed by `RBACMiddleware`: the user admitted. -/
def admission (w : World) (h : Health) (authHeader : String) (req : Request) : Option Nat × World :=
  match s.authMiddleware w h authHeader with
  | .error _ => (none, w)
  | .ok claims =>
    match s.rbacMiddleware w h claims.userId req with
    | (.error _, w') => (none, w')
    | (.ok _, w') => (some claims.userId, w')

def Event.run (w : World) : Event → World
  | .tick elapsed => { w with now := w.now + elapsed }
  | .login .. => w
  | .refresh token ids h => (s.refresh w h token ids).2
  | .logout access refreshToken h => s.logout w h access refreshToken
  | .updateUser id body h => (Auth.updateUser w h id body).2
  | .updateUserStatus id body h => (Auth.updateUserStatus w h id body).2
  | .roleAdmin op dropped =>
      { w with
        db := (handle w.db op).2
        cache := fun id => if dropped id then none else w.cache id }
  | .request authHeader req h => (admission s w h authHeader req).2
  | .handshake r h => (wsHandler s allowOrigins w h r).2

/-- The user for whom an entry point succeeds. -/
def Event.served (w : World) : Event → Option Nat
  | .login username password ids h =>
      (s.login w h username password ids).toOption.map (·.user.id)
  | .refresh token ids h => (s.refresh w h token ids).1.toOption.map (·.user.id)
  | .request authHeader req h => (admission s w h authHeader req).1
  | .handshake r h =>
      match (wsHandler s allowOrigins w h r).1 with
      | .accepted userId _ => some userId
      | _ => none
  | _ => none

/-- The status that a successful update sets, with the user's id. -/
def Event.statusSet (w : World) : Event → Option (Nat × Int)
  | .updateUser id body h =>
      match (Auth.updateUser w h id body).1, body with
      | .ok id, .ok req => req.status.map fun status => (id, status)
      | _, _ => none
  | .updateUserStatus id body h => (Auth.updateUserStatus w h id body).1.toOption
  | _ => none

def watch (disabled : Set Nat) : Option (Nat × Int) → Set Nat
  | none => disabled
  | some (id, status) =>
      if status = userStatusEnabled then disabled \ {id} else insert id disabled

def Watched.next (x : Watched) (e : Event) : Watched :=
  ⟨e.run s allowOrigins x.world, watch x.disabled (e.statusSet x.world)⟩

/-- The live row of a user whom an update disabled is not enabled. -/
def RowsDisabled (x : Watched) : Prop :=
  ∀ u ∈ x.disabled, ∀ row ∈ x.world.db.users, row.id = u → row.deleted = false →
    row.status ≠ userStatusEnabled

/-- The user rows once a status is set, or none. -/
def usersAfter (db : Database) : Option (Nat × Int) → List SysUser
  | none => db.users
  | some (id, status) => (db.setUserStatus id status).users

/-! ## Live tokens -/

/-- The string is a signed access token of the user, inside its validity and not on the
deny list as far as Redis answers. -/
def LiveToken (w : World) (h : Health) (token : String) (u : Nat) : Prop :=
  ∃ claims, s.jwt.verify token = some claims ∧ claims.userId = u ∧
    claims.type = accessTokenType ∧ claims.InForce w.now ∧ Service.isRevoked w h claims = false

/-- The tree that stands for the user's permissions: the cached one, or else the loaded. -/
def currentTree (w : World) (h : Health) (userId : Nat) : Option PermissionTree :=
  match Service.getCachedPermissionTree w h userId with
  | some pt => some pt
  | none => if h.db.isNone then some (loadPermissionTree s.orm w.db userId) else none

/-- The call bears a live token of the user: a request for something that the user's tree
allows, or a handshake that the server would upgrade. -/
def UsesLiveToken (w : World) (u : Nat) : Event → Prop
  | .request authHeader req h =>
      u ≠ 0 ∧ (∃ token, extractToken authHeader = .ok token ∧ LiveToken s w h token u) ∧
        ∃ pt, currentTree s w h u = some pt ∧ rbacCheck pt req = .ok ()
  | .handshake r h =>
      LiveToken s w h (extractWSToken r) u ∧ extractWSToken r ≠ "" ∧
        (currentTree s w h u).isSome ∧ (originAllowed allowOrigins r && r.upgradable) = true
  | _ => False

/-- No entry point succeeds for a disabled user. -/
def DisabledRefused (x : Watched) (e : Event) : Prop :=
  ∀ u ∈ x.disabled, e.served s allowOrigins x.world ≠ some u

/-- No call bears a live token of a disabled user. -/
def NoLiveTokenUsed (x : Watched) (e : Event) : Prop :=
  ∀ u ∈ x.disabled, ¬ UsesLiveToken s allowOrigins x.world u e

end

variable {s : Service} {allowOrigins : List String}

@[simp] theorem revokeClaims_db (w : World) (h : Health) (claims : CustomClaims) :
    (s.revokeClaims w h claims).db = w.db := by
  unfold Service.revokeClaims
  split <;> rfl

@[simp] theorem setCachedPermissionTree_db (w : World) (h : Health) (userId : Nat)
    (pt : PermissionTree) : (Service.setCachedPermissionTree w h userId pt).db = w.db := by
  unfold Service.setCachedPermissionTree
  split <;> rfl

@[simp] theorem invalidateUserPermissionCache_db (w : World) (h : Health) (userId : Nat) :
    (Service.invalidateUserPermissionCache w h userId).db = w.db := by
  unfold Service.invalidateUserPermissionCache
  split <;> rfl

@[simp] theorem getUserPermissionTree_db (w : World) (h : Health) (userId : Nat) :
    (s.getUserPermissionTree w h userId).2.db = w.db := by
  unfold Service.getUserPermissionTree
  split
  · rfl
  · split <;> simp

@[simp] theorem refresh_db (w : World) (h : Health) (token : String) (ids : Service.TokenIds) :
    (s.refresh w h token ids).2.db = w.db := by
  unfold Service.refresh
  repeat' split
  all_goals simp

@[simp] theorem logout_db (w : World) (h : Health) (access : CustomClaims) (token : String) :
    (s.logout w h access token).db = w.db := by
  unfold Service.logout
  dsimp only
  split_ifs
  · simp
  · split
    · simp
    · split_ifs <;> simp

@[simp] theorem rbacMiddleware_db (w : World) (h : Health) (userId : Nat) (req : Request) :
    (s.rbacMiddleware w h userId req).2.db = w.db := by
  have tree : (s.getUserPermissionTree w h userId).2.db = w.db := getUserPermissionTree_db ..
  unfold Service.rbacMiddleware
  split
  · rfl
  split <;> (rename_i eq; rwa [eq] at tree)

@[simp] theorem admission_db (w : World) (h : Health) (authHeader : String) (req : Request) :
    (admission s w h authHeader req).2.db = w.db := by
  unfold admission
  split
  · rfl
  · rename_i claims _
    have rbac : (s.rbacMiddleware w h claims.userId req).2.db = w.db := rbacMiddleware_db ..
    split <;> (rename_i eq; rwa [eq] at rbac)

@[simp] theorem wsHandler_db (w : World) (h : Health) (r : Handshake) :
    (wsHandler s allowOrigins w h r).2.db = w.db := by
  unfold wsHandler
  dsimp only
  split
  · rfl
  split
  · rfl
  · rfl
  rename_i claims _
  have tree : (s.getUserPermissionTree w h claims.userId).2.db = w.db :=
    getUserPermissionTree_db ..
  split
  · rfl
  split
  · rfl
  split
  · rename_i eq; rwa [eq] at tree
  · rename_i eq
    rw [eq] at tree
    split <;> exact tree

theorem updateUser_cases (w : World) (h : Health) (idStr : String)
    (body : Body UpdateUserReq) :
    (∃ err, updateUser w h idStr body = (.error err, w)) ∨
      ∃ id req w', body = .ok req ∧ updateUser w h idStr body = (.ok id, w') ∧
        w'.db.users = usersAfter w.db (req.status.map fun status => (id, status)) := by
  unfold updateUser
  split
  · exact .inl ⟨_, rfl⟩
  rename_i id _
  split
  · exact .inl ⟨_, rfl⟩
  rename_i req
  split
  · exact .inl ⟨_, rfl⟩
  split
  · exact .inl ⟨_, rfl⟩
  split
  · rename_i same
    have kept : req.status = none := by simp_all
    exact .inr ⟨id, req, w, rfl, rfl, by simp [kept, usersAfter]⟩
  · exact .inr ⟨id, req, _, rfl, rfl, by cases req.status <;> simp [usersAfter]⟩

theorem updateUserStatus_cases (w : World) (h : Health) (idStr : String)
    (body : Body UpdateUserStatusReq) :
    (∃ err, updateUserStatus w h idStr body = (.error err, w)) ∨
      ∃ id status w', updateUserStatus w h idStr body = (.ok (id, status), w') ∧
        w'.db.users = usersAfter w.db (some (id, status)) := by
  unfold updateUserStatus
  split
  · exact .inl ⟨_, rfl⟩
  rename_i id _
  split
  · exact .inl ⟨_, rfl⟩
  rename_i req
  split
  · exact .inl ⟨_, rfl⟩
  split
  · exact .inl ⟨_, rfl⟩
  split
  · exact .inr ⟨id, req.status, _, rfl, by simp [usersAfter]⟩
  · exact .inl ⟨_, rfl⟩

/-- Role administration leaves the users alone. -/
theorem handle_users (db : Database) (op : Op) : (handle db op).2.users = db.users := by
  have effect := handle_effect db op
  revert effect
  generalize changeOf db op = change
  generalize (handle db op).2 = db'
  intro effect
  cases effect <;> rfl

theorem event_users (w : World) (e : Event) :
    (e.run s allowOrigins w).db.users = usersAfter w.db (e.statusSet w) := by
  cases e with
  | updateUser idStr body h =>
      obtain ⟨err, eq⟩ | ⟨id, req, w', rfl, eq, users⟩ := updateUser_cases w h idStr body
      · simp only [Event.run, Event.statusSet, eq]
        rfl
      · simp only [Event.run, Event.statusSet, eq]
        exact users
  | updateUserStatus idStr body h =>
      obtain ⟨err, eq⟩ | ⟨id, status, w', eq, users⟩ := updateUserStatus_cases w h idStr body
      · simp only [Event.run, Event.statusSet, eq]
        rfl
      · simp only [Event.run, Event.statusSet, eq]
        exact users
  | roleAdmin op dropped => exact handle_users w.db op
  | tick | login => rfl
  | refresh | logout | request | handshake => simp [usersAfter, Event.statusSet, Event.run]

/-- Every event keeps the rows of disabled users disabled. -/
theorem next_rowsDisabled {x : Watched} (h : RowsDisabled x) (e : Event) :
    RowsDisabled (x.next s allowOrigins e) := by
  intro u disabled row mem id live
  simp only [Watched.next] at disabled mem
  rw [event_users] at mem
  cases set : e.statusSet x.world with
  | none =>
      rw [set] at disabled mem
      exact h u disabled row mem id live
  | some change =>
      obtain ⟨id', status⟩ := change
      rw [set] at disabled mem
      obtain ⟨old, mo, rfl⟩ := List.mem_map.1 mem
      by_cases hit : old.id = id' ∧ old.deleted = false
      · rw [if_pos (by simp [hit])] at id ⊢
        have same : u = id' := id.symm.trans hit.1
        intro enabled
        simp only at enabled
        simp [watch, enabled, same] at disabled
      · rw [if_neg (by simpa using hit)] at id live ⊢
        have other : u ≠ id' := fun eq => hit ⟨id.trans eq, live⟩
        refine h u ?_ old mo id live
        simp only [watch] at disabled
        split at disabled
        · exact disabled.1
        · exact disabled.resolve_left other

/-! ## The entry points -/

/-- A user who logs in has a live, enabled row. -/
theorem login_enabled {w : World} {h : Health} {username password : String}
    {ids : Service.TokenIds} {result : LoginResult}
    (ok : s.login w h username password ids = .ok result) :
    ∃ row ∈ w.db.users, row.id = result.user.id ∧ row.deleted = false ∧
      row.status = userStatusEnabled := by
  unfold Service.login at ok
  split at ok
  · cases ok
  split at ok
  · cases ok
  rename_i user found
  have sat := List.find?_some found
  simp only [Bool.and_eq_true, Bool.not_eq_true'] at sat
  split at ok
  · cases ok
  rename_i enabled
  split at ok
  · rw [Except.ok.injEq] at ok
    subst ok
    exact ⟨user, List.mem_of_find?_eq_some found, rfl, sat.2, not_not.1 enabled⟩
  · cases ok

theorem refresh_enabled {w : World} {h : Health} {token : String}
    {ids : Service.TokenIds} {result : LoginResult}
    (ok : (s.refresh w h token ids).1 = .ok result) :
    ∃ row ∈ w.db.users, row.id = result.user.id ∧ row.deleted = false ∧
      row.status = userStatusEnabled := by
  unfold Service.refresh at ok
  split at ok
  · cases ok
  split at ok
  · cases ok
  split at ok
  · cases ok
  split at ok
  · cases ok
  split at ok
  · cases ok
  rename_i user found
  have sat := List.find?_some found
  simp only [Bool.and_eq_true, Bool.not_eq_true'] at sat
  split at ok
  · cases ok
  rename_i enabled
  simp only [Except.ok.injEq] at ok
  subst ok
  exact ⟨user, List.mem_of_find?_eq_some found, rfl, sat.2, not_not.1 enabled⟩

theorem authMiddleware_ok {w : World} {h : Health} {authHeader : String} {claims : CustomClaims} :
    s.authMiddleware w h authHeader = .ok claims ↔
      ∃ token, extractToken authHeader = .ok token ∧ s.jwt.parseToken w.now token = .ok claims ∧
        claims.type = accessTokenType ∧ Service.isRevoked w h claims = false := by
  unfold Service.authMiddleware
  cases extracted : extractToken authHeader with
  | error err => simp
  | ok token =>
      simp only [Except.ok.injEq, exists_eq_left']
      cases parsed : s.jwt.parseToken w.now token with
      | error err => cases err <;> simp
      | ok c =>
          simp only [Except.ok.injEq]
          split_ifs with wrong revoked
          · refine ⟨nofun, ?_⟩
            rintro ⟨rfl, access, _⟩
            exact absurd access wrong
          · refine ⟨nofun, ?_⟩
            rintro ⟨rfl, _, alive⟩
            rw [alive] at revoked
            cases revoked
          · rw [Except.ok.injEq]
            exact ⟨fun eq => eq ▸ ⟨rfl, not_not.1 wrong, by simpa using revoked⟩, And.left⟩

theorem getUserPermissionTree_ok {w : World} {h : Health} {userId : Nat} {pt : PermissionTree} :
    (s.getUserPermissionTree w h userId).1 = .ok pt ↔ currentTree s w h userId = some pt := by
  unfold Service.getUserPermissionTree currentTree
  cases Service.getCachedPermissionTree w h userId with
  | some cached => simp
  | none => cases h.db <;> simp

theorem rbacMiddleware_ok {w : World} {h : Health} {userId : Nat} {req : Request}
    {pt : PermissionTree} :
    (s.rbacMiddleware w h userId req).1 = .ok pt ↔
      userId ≠ 0 ∧ currentTree s w h userId = some pt ∧ rbacCheck pt req = .ok () := by
  unfold Service.rbacMiddleware
  split
  · rename_i zero
    simp [zero]
  · rename_i nonzero
    rw [← getUserPermissionTree_ok]
    split
    · rename_i eq
      simp [eq]
    · rename_i pt' w' eq
      cases check : rbacCheck pt' req with
      | error err =>
          simp only [eq, Except.map, Except.ok.injEq]
          refine ⟨nofun, ?_⟩
          rintro ⟨_, rfl, ok⟩
          rw [check] at ok
          cases ok
      | ok _ =>
          simp only [eq, Except.map, Except.ok.injEq]
          exact ⟨fun same => ⟨nonzero, same, same ▸ check⟩, fun ok => ok.2.1⟩

theorem admission_served_iff {w : World} {h : Health} {authHeader : String} {req : Request}
    {u : Nat} :
    (admission s w h authHeader req).1 = some u ↔
      UsesLiveToken s allowOrigins w u (.request authHeader req h) := by
  have served : (admission s w h authHeader req).1 = some u ↔
      ∃ claims pt, s.authMiddleware w h authHeader = .ok claims ∧ claims.userId = u ∧
        (s.rbacMiddleware w h u req).1 = .ok pt := by
    unfold admission
    split
    · rename_i eq
      simp [eq]
    · rename_i claims eq
      simp only [eq, Except.ok.injEq]
      split
      · rename_i denied
        refine ⟨nofun, ?_⟩
        rintro ⟨c, pt, rfl, rfl, ok⟩
        rw [denied] at ok
        cases ok
      · rename_i pt w' admitted
        simp only [Option.some.injEq]
        constructor
        · rintro rfl
          exact ⟨claims, pt, rfl, rfl, by rw [admitted]⟩
        · rintro ⟨c, _, rfl, rfl, _⟩
          rfl
  rw [served]
  simp only [authMiddleware_ok, rbacMiddleware_ok, parseToken_ok, UsesLiveToken, LiveToken]
  constructor
  · rintro ⟨claims, pt, ⟨token, extracted, ⟨signed, force⟩, access, alive⟩, user, nonzero, tree, ok⟩
    exact ⟨nonzero, ⟨token, extracted, claims, signed, user, access, force, alive⟩, pt, tree, ok⟩
  · rintro ⟨nonzero, ⟨token, extracted, claims, signed, user, access, force, alive⟩, pt, tree, ok⟩
    exact ⟨claims, pt, ⟨token, extracted, ⟨signed, force⟩, access, alive⟩, user, nonzero, tree, ok⟩

theorem liveToken_iff {w : World} {h : Health} {token : String} {u : Nat} :
    LiveToken s w h token u ↔
      ∃ claims, s.jwt.parseToken w.now token = .ok claims ∧ claims.userId = u ∧
        claims.type = accessTokenType ∧ Service.isRevoked w h claims = false := by
  simp only [LiveToken, parseToken_ok]
  constructor
  · rintro ⟨claims, signed, user, access, force, alive⟩
    exact ⟨claims, ⟨signed, force⟩, user, access, alive⟩
  · rintro ⟨claims, ⟨signed, force⟩, user, access, alive⟩
    exact ⟨claims, signed, user, access, force, alive⟩

/-- A handshake is accepted for the user of a live token alone. -/
theorem wsHandler_accepted_iff {w : World} {h : Health} {r : Handshake} {u : Nat} :
    (∃ pt, (wsHandler s allowOrigins w h r).1 = .accepted u pt) ↔
      UsesLiveToken s allowOrigins w u (.handshake r h) := by
  simp only [UsesLiveToken, liveToken_iff]
  unfold wsHandler
  dsimp only
  cases parsed : s.jwt.parseToken w.now (extractWSToken r) with
  | error err =>
      by_cases missing : extractWSToken r = ""
      · simp [missing]
      · cases err <;> simp [missing]
  | ok claims =>
      by_cases missing : extractWSToken r = ""
      · simp [missing]
      by_cases access : claims.type = accessTokenType
      · cases alive : Service.isRevoked w h claims with
        | true => simp [missing, access, alive]
        | false =>
            have tree (pt : PermissionTree) :
                (s.getUserPermissionTree w h claims.userId).1 = .ok pt ↔
                  currentTree s w h claims.userId = some pt := getUserPermissionTree_ok
            rcases result : s.getUserPermissionTree w h claims.userId with ⟨_ | pt, w'⟩
            · have untreed : currentTree s w h claims.userId = none := by
                rw [Option.eq_none_iff_forall_ne_some]
                intro pt eq
                rw [← tree, result] at eq
                cases eq
              simp only [missing, if_false, access, ne_eq, not_true_eq_false, alive,
                Bool.false_eq_true, result]
              refine ⟨fun ⟨_, eq⟩ => by (cases eq), ?_⟩
              rintro ⟨⟨c, same, rfl, _⟩, _, treed, _⟩
              rw [Except.ok.injEq] at same
              rw [← same, untreed] at treed
              cases treed
            · have treed : currentTree s w h claims.userId = some pt := by rw [← tree, result]
              by_cases upgraded : (originAllowed allowOrigins r && r.upgradable) = true
              · simp only [missing, if_false, access, ne_eq, not_true_eq_false, alive,
                  Bool.false_eq_true, result, upgraded, if_true]
                constructor
                · rintro ⟨pt', eq⟩
                  obtain ⟨rfl, rfl⟩ := Websocket.Answer.accepted.inj eq
                  exact ⟨⟨claims, rfl, rfl, access, alive⟩, not_false, by rw [treed]; rfl, trivial⟩
                · rintro ⟨⟨c, same, rfl, _⟩, _⟩
                  obtain rfl := Except.ok.inj same
                  exact ⟨pt, rfl⟩
              · simp only [missing, if_false, access, ne_eq, not_true_eq_false, alive,
                  Bool.false_eq_true, result, upgraded]
                exact ⟨fun ⟨_, eq⟩ => by (cases eq), fun uses => nomatch uses.2.2.2⟩
      · simp [missing, access]

theorem handshake_served_iff {w : World} {h : Health} {r : Handshake} {u : Nat} :
    (Event.handshake r h).served s allowOrigins w = some u ↔
      UsesLiveToken s allowOrigins w u (.handshake r h) := by
  rw [← wsHandler_accepted_iff]
  simp only [Event.served]
  cases (wsHandler s allowOrigins w h r).1 <;> simp

/-- A disabled user neither logs in nor refreshes, whatever the run so far. -/
theorem disabled_no_session {x : Watched} (rows : RowsDisabled x) {u : Nat}
    (disabled : u ∈ x.disabled) {result : LoginResult} (user : result.user.id = u)
    (h : Health) (ids : Service.TokenIds) :
    (∀ username password, s.login x.world h username password ids ≠ .ok result) ∧
      ∀ token, (s.refresh x.world h token ids).1 ≠ .ok result := by
  constructor
  · intro username password ok
    obtain ⟨row, mem, id, live, enabled⟩ := login_enabled ok
    exact rows u disabled row mem (id.trans user) live enabled
  · intro token ok
    obtain ⟨row, mem, id, live, enabled⟩ := refresh_enabled ok
    exact rows u disabled row mem (id.trans user) live enabled

theorem toOption_map_eq_some {α β ε : Type} {f : α → β} {x : Except ε α} {b : β}
    (h : x.toOption.map f = some b) : ∃ a, x = .ok a ∧ f a = b := by
  cases x with
  | error e => cases h
  | ok a => exact ⟨a, rfl, Option.some.inj h⟩

/-- While the rows of disabled users are disabled, an event serves one of them exactly when
it uses a live token. -/
theorem served_iff_usesLiveToken {x : Watched} (rows : RowsDisabled x) {u : Nat}
    (disabled : u ∈ x.disabled) (e : Event) :
    e.served s allowOrigins x.world = some u ↔ UsesLiveToken s allowOrigins x.world u e := by
  cases e with
  | login username password ids h =>
      refine ⟨fun served => ?_, False.elim⟩
      obtain ⟨result, ok, user⟩ := toOption_map_eq_some served
      exact absurd ok ((disabled_no_session rows disabled user h ids).1 username password)
  | refresh token ids h =>
      refine ⟨fun served => ?_, False.elim⟩
      obtain ⟨result, ok, user⟩ := toOption_map_eq_some served
      exact absurd ok ((disabled_no_session rows disabled user h ids).2 token)
  | request authHeader req h => exact admission_served_iff
  | handshake r h => exact handshake_served_iff
  | tick | logout | updateUser | updateUserStatus | roleAdmin =>
      exact ⟨nofun, False.elim⟩

/-- Along a run from any state with no user disabled, disabling refuses every disabled user
at every entry point if and only if no call bears a live token of a disabled user. -/
theorem disabling_effective_iff (s : Service) (allowOrigins : List String) (w : World)
    (es : List Event) :
    Transition.Along (DisabledRefused s allowOrigins) (Watched.next s allowOrigins) ⟨w, ∅⟩ es ↔
      Transition.Along (NoLiveTokenUsed s allowOrigins) (Watched.next s allowOrigins)
        ⟨w, ∅⟩ es := by
  refine Transition.along_congr (I := RowsDisabled) (fun rows => next_rowsDisabled rows _) ?_ ?_ es
  · intro x e rows
    exact forall₂_congr fun u disabled => not_congr (served_iff_usesLiveToken rows disabled e)
  · exact fun u disabled => absurd disabled (Set.notMem_empty u)

/-- The claims of the access token that user 7 gets at time 0. -/
def devClaims : CustomClaims where
  userId := 7
  username := "dev"
  scopes := ["cluster:prod:team-a"]
  type := accessTokenType
  id := "jti-1"
  issuer := "k8s-platform"
  issuedAt := 0
  expiresAt := some (7200 * 10 ^ 9)
  notBefore := some 0

/-- A token library that has signed one token. -/
def devService : Service where
  jwt :=
    { sign := fun claims => if claims = devClaims then "dev-access" else "other"
      verify := fun token => if token = "dev-access" then some devClaims else none
      issuer := "k8s-platform"
      accessTTL := 7200 * 10 ^ 9
      refreshTTL := 86400 * 10 ^ 9 }
  orm := scopeClusterMapped
  checkPassword := fun hash raw => hash == raw

def devWorld : World where
  db :=
    { users := [⟨7, "dev", "secret", userStatusEnabled, false⟩]
      roles := [⟨2, "viewer", 0, 1, false⟩]
      permissions := [⟨"cluster:list", "cluster", false⟩]
      rolePermissions := [⟨2, "cluster:list"⟩]
      userRoles := [⟨1, 7, 2, scopeNamespace, "prod", "team-a", false⟩]
      nextRoleId := 3
      nextUserRoleId := 2 }
  cache := fun _ => none
  denied := fun _ => none
  now := 0

def listClusters : Request := ⟨"GET", "/api/v1/clusters", "", ""⟩

/-- Log in, be locked, and list the clusters with the token from before. -/
def lockedRun : List Event :=
  [.login "dev" "secret" ⟨"jti-1", "jti-2"⟩ healthy,
   .updateUserStatus "7" (.ok ⟨userStatusLocked⟩) healthy,
   .request "Bearer dev-access" listClusters healthy]

/-- The user is locked, and admitted with the token that the login gave. -/
theorem locked_user_admitted :
    (devService.login devWorld healthy "dev" "secret" ⟨"jti-1", "jti-2"⟩).toOption.map
        (·.accessToken) = some "dev-access" ∧
      ¬ Transition.Along (DisabledRefused devService []) (Watched.next devService [])
        ⟨devWorld, ∅⟩ lockedRun := by
  refine ⟨by decide +kernel, fun along => along.2.2.1 7 ?_ (by decide +kernel)⟩
  have set : (Event.updateUserStatus "7" (.ok ⟨userStatusLocked⟩) healthy).statusSet devWorld =
      some (7, userStatusLocked) := by decide
  show 7 ∈
    watch ∅ ((Event.updateUserStatus "7" (.ok ⟨userStatusLocked⟩) healthy).statusSet devWorld)
  rw [set]
  exact Set.mem_insert 7 ∅

end K8sPlatform.Auth
