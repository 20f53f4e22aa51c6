import K8sPlatform.Lib.Transition
import K8sPlatform.Auth.Passwords
import K8sPlatform.Auth.Seed

/-! # The first administrator of a platform -/

namespace K8sPlatform.Auth

open Transition

def adminUsername : String := "admin"

/-- The password of the environment, or else the built-in one. -/
def adminPassword (env : String) : String :=
  if Text.trimSpace env = "" then "admin123" else Text.trimSpace env

def SysUser.isAdmin (u : SysUser) : Bool := u.username == adminUsername

/-- Where a start is in `seedAdminUser`. One that has ended may have created the account, and may
have bound its role. -/
inductive SeedPhase
  | counting
  | hashing
  | creating (hash : String)
  | finding (userId : Nat)
  | binding (userId roleId : Nat)
  | ended (account : Option (Nat × Bool)) (ok : Bool)
  deriving DecidableEq, Repr

/-- The account that a start has created, and whether it has bound the role. -/
def SeedPhase.account : SeedPhase → Option (Nat × Bool)
  | finding userId | binding userId _ => some (userId, false)
  | ended account _ => account
  | _ => none

def SeedPhase.finished : SeedPhase → Bool
  | ended _ _ => true
  | _ => false

structure SeedStart where
  env : String
  phase : SeedPhase
  deriving DecidableEq, Repr

/-- How a statement ends: well, or with an error that leaves it undone or done. -/
inductive Ending
  | done
  | refused
  | lost
  deriving DecidableEq, Repr

/-- The servers that start on one database, with the next free id of its users. -/
structure AdminSeed where
  db : Database
  nextUserId : Nat
  starts : List SeedStart
  deriving DecidableEq

inductive SeedEvent
  | begin (env : String)
  | step (i : Nat) (ending : Ending) (salt : Nat)
  | crash (i : Nat)

def adminRole (db : Database) : Option SysRole :=
  db.roles.find? fun r => r.code == platformAdmin.code && !r.deleted

def adminBinding (id userId roleId : Nat) : SysUserRole :=
  ⟨id, userId, roleId, scopePlatform, "", "", false⟩

namespace AdminSeed

def start (db : Database) (nextUserId : Nat) : AdminSeed := ⟨db, nextUserId, []⟩

def setPhase (s : AdminSeed) (i : Nat) (st : SeedStart) (phase : SeedPhase) : AdminSeed :=
  { s with starts := s.starts.set i { st with phase } }

/-- `Create` of the account; its name is unique among all rows. -/
def insertAdmin (s : AdminSeed) (hash : String) : AdminSeed :=
  { s with
    db := { s.db with
      users := s.db.users ++ [⟨s.nextUserId, adminUsername, hash, userStatusEnabled, false⟩] }
    nextUserId := s.nextUserId + 1 }

def insertBinding (s : AdminSeed) (userId roleId : Nat) : AdminSeed :=
  { s with
    db := { s.db with
      userRoles := s.db.userRoles ++ [adminBinding s.db.nextUserRoleId userId roleId]
      nextUserRoleId := s.db.nextUserRoleId + 1 } }

variable (b : Bcrypt)

/-- The next statement of a start. -/
def advance (s : AdminSeed) (i : Nat) (st : SeedStart) (ending : Ending) (salt : Nat) :
    AdminSeed :=
  match st.phase with
  | .counting =>
      if ending ≠ .done then s.setPhase i st (.ended none false)
      else if s.db.users.any (fun u => u.isAdmin && !u.deleted) then
        s.setPhase i st (.ended none true)
      else s.setPhase i st .hashing
  | .hashing =>
      match b.generate 10 salt (adminPassword st.env) with
      | .error _ => s.setPhase i st (.ended none false)
      | .ok hash => s.setPhase i st (.creating hash)
  | .creating hash =>
      if s.db.users.any SysUser.isAdmin || ending == .refused then
        s.setPhase i st (.ended none false)
      else
        (s.insertAdmin hash).setPhase i st
          (if ending = .done then .finding s.nextUserId
            else .ended (some (s.nextUserId, false)) false)
  | .finding userId =>
      match adminRole s.db with
      | none => s.setPhase i st (.ended (some (userId, false)) false)
      | some r =>
          s.setPhase i st
            (if ending = .done then .binding userId r.id else .ended (some (userId, false)) false)
  | .binding userId roleId =>
      if s.db.scopeTaken userId ⟨roleId, scopePlatform, "", ""⟩ || ending == .refused then
        s.setPhase i st (.ended (some (userId, false)) false)
      else
        (s.insertBinding userId roleId).setPhase i st
          (.ended (some (userId, true)) (ending == .done))
  | .ended _ _ => s

def next (s : AdminSeed) : SeedEvent → AdminSeed
  | .begin env => { s with starts := s.starts ++ [⟨env, .counting⟩] }
  | .step i ending salt =>
      match s.starts[i]? with
      | none => s
      | some st => s.advance b i st ending salt
  | .crash i =>
      match s.starts[i]? with
      | none => s
      | some st => if st.phase.finished then s else s.setPhase i st (.ended st.phase.account false)

/-! ## What the starts share -/

/-- What no step changes: ids are fresh, and the role is in force. -/
structure Sound (s : AdminSeed) : Prop where
  users : ∀ u ∈ s.db.users, u.id < s.nextUserId
  bindings : ∀ ur ∈ s.db.userRoles, ur.userId < s.nextUserId
  role : ∀ r, adminRole s.db = some r → r.status = 1
  found : ∀ st ∈ s.starts, ∀ userId roleId, st.phase = .binding userId roleId →
    ∃ r ∈ s.db.roles, r.id = roleId ∧ r.status = 1

/-- The account has the one binding that its start gives it, or none. -/
def Bound (db : Database) (userId : Nat) : Bool → Prop
  | true => (∃ ur ∈ db.userRoles, ur.userId = userId) ∧
      ∀ ur ∈ db.userRoles, ur.userId = userId → ur.scopeType = scopePlatform ∧
        ∃ r ∈ db.roles, ur.roleId = r.id ∧ r.status = 1
  | false => ∀ ur ∈ db.userRoles, ur.userId ≠ userId

/-- There is no account and no start has created one; or there is one, of a single start. -/
inductive Kept (s : AdminSeed) : Prop
  | absent (none_ : ∀ u ∈ s.db.users, u.isAdmin = false)
      (idle : ∀ st ∈ s.starts, st.phase.account = none)
  | created (i : Nat) (u : SysUser) (bound : Bool)
      (admins : s.db.users.filter SysUser.isAdmin = [u])
      (own : ∃ st, s.starts[i]? = some st ∧ st.phase.account = some (u.id, bound))
      (others : ∀ j st, j ≠ i → s.starts[j]? = some st → st.phase.account = none)
      (holds : Bound s.db u.id bound)

variable {b : Bcrypt} {s : AdminSeed}

theorem start_sound {db : Database} {nextUserId : Nat} (users : ∀ u ∈ db.users, u.id < nextUserId)
    (bindings : ∀ ur ∈ db.userRoles, ur.userId < nextUserId)
    (role : ∀ r, adminRole db = some r → r.status = 1) : (start db nextUserId).Sound :=
  ⟨users, bindings, role, fun _ none_ => absurd none_ List.not_mem_nil⟩

theorem start_kept {db : Database} {nextUserId : Nat}
    (none_ : ∀ u ∈ db.users, u.isAdmin = false) : (start db nextUserId).Kept :=
  .absent none_ fun _ mem => absurd mem List.not_mem_nil

theorem adminRole_mem {db : Database} {r : SysRole} (found : adminRole db = some r) :
    r ∈ db.roles :=
  List.mem_of_find?_eq_some found

/-- A start goes on in a phase of the same account. -/
theorem Kept.setPhase (kept : s.Kept) {i : Nat} {st : SeedStart} (at_ : s.starts[i]? = some st)
    {phase : SeedPhase} (same : phase.account = st.phase.account) :
    (s.setPhase i st phase).Kept := by
  obtain ⟨short, rfl⟩ := List.getElem?_eq_some_iff.1 at_
  cases kept with
  | absent none_ idle =>
      refine .absent none_ ?_
      intro st mem
      rcases List.mem_or_eq_of_mem_set mem with old | rfl
      · exact idle st old
      · exact same.trans (idle _ (List.getElem_mem short))
  | created j u bound admins own others holds =>
      refine .created j u bound admins ?_ ?_ holds
      · obtain ⟨st, found, account⟩ := own
        by_cases here : i = j
        · subst here
          obtain rfl := Option.some.inj (at_.symm.trans found)
          exact ⟨_, List.getElem?_set_self short, same.trans account⟩
        · exact ⟨st, (List.getElem?_set_ne here).trans found, account⟩
      · intro k st away found
        by_cases here : i = k
        · subst here
          obtain rfl := Option.some.inj ((List.getElem?_set_self short).symm.trans found)
          exact same.trans (others i _ away at_)
        · exact others k st away ((List.getElem?_set_ne here).symm.trans found)

theorem Sound.setPhase (sound : s.Sound) (i : Nat) (st : SeedStart) {phase : SeedPhase}
    (found : ∀ userId roleId, phase = .binding userId roleId →
      ∃ r ∈ s.db.roles, r.id = roleId ∧ r.status = 1) : (s.setPhase i st phase).Sound where
  users := sound.users
  bindings := sound.bindings
  role := sound.role
  found := by
    intro st mem
    rcases List.mem_or_eq_of_mem_set mem with old | rfl
    · exact sound.found st old
    · exact found

/-- A start creates the account only when there is none, and none of another start. -/
theorem Kept.insertAdmin (kept : s.Kept) (sound : s.Sound) {i : Nat} {st : SeedStart}
    (at_ : s.starts[i]? = some st) (free : s.db.users.any SysUser.isAdmin = false) (hash : String)
    {phase : SeedPhase} (own : phase.account = some (s.nextUserId, false)) :
    ((s.insertAdmin hash).setPhase i st phase).Kept := by
  have none_ := List.any_eq_false.1 free
  cases kept with
  | created j u bound admins =>
      have mem : u ∈ s.db.users.filter SysUser.isAdmin := admins ▸ List.mem_singleton_self u
      obtain ⟨there, admin⟩ := List.mem_filter.1 mem
      exact absurd admin (none_ u there)
  | absent _ idle =>
      obtain ⟨short, rfl⟩ := List.getElem?_eq_some_iff.1 at_
      refine .created i ⟨s.nextUserId, adminUsername, hash, userStatusEnabled, false⟩ false
        ?_ ?_ ?_ ?_
      · have others : s.db.users.filter SysUser.isAdmin = [] :=
          List.filter_eq_nil_iff.2 none_
        exact (List.filter_append _ _).trans (by rw [others]; rfl)
      · exact ⟨_, List.getElem?_set_self short, own⟩
      · intro j st away found
        have old : s.starts[j]? = some st := (List.getElem?_set_ne (Ne.symm away)).symm.trans found
        exact idle st (List.mem_of_getElem? old)
      · intro ur mem same
        have below := sound.bindings ur mem
        rw [same] at below
        exact absurd below (Nat.lt_irrefl _)

theorem Sound.insertAdmin (sound : s.Sound) (hash : String) : (s.insertAdmin hash).Sound where
  users := by
    intro u mem
    rcases List.mem_append.1 mem with old | new
    · exact Nat.lt_succ_of_lt (sound.users u old)
    · rw [List.mem_singleton.1 new]
      exact Nat.lt_succ_self _
  bindings := fun ur mem => Nat.lt_succ_of_lt (sound.bindings ur mem)
  role := sound.role
  found := sound.found

/-- The start that created the account binds it. -/
theorem Kept.insertBinding (kept : s.Kept) (sound : s.Sound) {i : Nat} {st : SeedStart}
    {userId roleId : Nat} (at_ : s.starts[i]? = some st) (ready : st.phase = .binding userId roleId)
    {phase : SeedPhase} (own : phase.account = some (userId, true)) :
    ((s.insertBinding userId roleId).setPhase i st phase).Kept := by
  have account : st.phase.account = some (userId, false) := by rw [ready]; rfl
  obtain ⟨r, role, same, enabled⟩ := sound.found st (List.mem_of_getElem? at_) _ _ ready
  cases kept with
  | absent _ idle =>
      rw [idle st (List.mem_of_getElem? at_)] at account
      cases account
  | created j u bound admins own' others holds =>
      obtain rfl : i = j := by
        by_contra away
        rw [others i st away at_] at account
        cases account
      obtain ⟨st', found, account'⟩ := own'
      obtain rfl := Option.some.inj (at_.symm.trans found)
      rw [account] at account'
      obtain ⟨rfl, rfl⟩ := Prod.mk.inj (Option.some.inj account')
      obtain ⟨short, rfl⟩ := List.getElem?_eq_some_iff.1 at_
      refine .created i u true admins ⟨_, List.getElem?_set_self short, own⟩ ?_ ?_
      · intro k st away there
        exact others k st away ((List.getElem?_set_ne (Ne.symm away)).symm.trans there)
      · constructor
        · exact ⟨_, List.mem_append_right _ (List.mem_singleton_self _), rfl⟩
        · intro ur mem mine
          rcases List.mem_append.1 mem with old | new
          · exact absurd mine (holds ur old)
          · obtain rfl := List.mem_singleton.1 new
            exact ⟨rfl, r, role, same.symm, enabled⟩

theorem Sound.insertBinding (sound : s.Sound) {userId : Nat} (old : userId < s.nextUserId)
    (roleId : Nat) : (s.insertBinding userId roleId).Sound where
  users := sound.users
  bindings := by
    intro ur mem
    rcases List.mem_append.1 mem with before | new
    · exact sound.bindings ur before
    · rw [List.mem_singleton.1 new]
      exact old
  role := sound.role
  found := sound.found

/-- What a start has created is a user of the table, bound as far as that start has come. -/
theorem Kept.of_account (kept : s.Kept) {i : Nat} {st : SeedStart} (at_ : s.starts[i]? = some st)
    {userId : Nat} {bound : Bool} (account : st.phase.account = some (userId, bound)) :
    (∃ u ∈ s.db.users, u.id = userId) ∧ Bound s.db userId bound := by
  cases kept with
  | absent _ idle =>
      rw [idle st (List.mem_of_getElem? at_)] at account
      cases account
  | created j u bound' admins own others holds =>
      obtain rfl : i = j := by
        by_contra away
        rw [others i st away at_] at account
        cases account
      obtain ⟨st', found, account'⟩ := own
      obtain rfl := Option.some.inj (at_.symm.trans found)
      rw [account] at account'
      obtain ⟨rfl, rfl⟩ := Prod.mk.inj (Option.some.inj account')
      have mem : u ∈ s.db.users.filter SysUser.isAdmin := admins ▸ List.mem_singleton_self u
      exact ⟨⟨u, (List.mem_filter.1 mem).1, rfl⟩, holds⟩

theorem advance_keeps (kept : s.Kept) (sound : s.Sound) {i : Nat} {st : SeedStart}
    (at_ : s.starts[i]? = some st) (ending : Ending) (salt : Nat) :
    (s.advance b i st ending salt).Kept ∧ (s.advance b i st ending salt).Sound := by
  have goesOn {phase : SeedPhase} (same : phase.account = st.phase.account)
      (found : ∀ userId roleId, phase = .binding userId roleId →
        ∃ r ∈ s.db.roles, r.id = roleId ∧ r.status = 1) :
      (s.setPhase i st phase).Kept ∧ (s.setPhase i st phase).Sound :=
    ⟨kept.setPhase at_ same, sound.setPhase i st found⟩
  unfold advance
  cases at' : st.phase with
  | counting =>
      dsimp only
      split
      · exact goesOn (by rw [at']; rfl) (by simp)
      · split
        · exact goesOn (by rw [at']; rfl) (by simp)
        · exact goesOn (by rw [at']; rfl) (by simp)
  | hashing =>
      dsimp only
      split
      · exact goesOn (by rw [at']; rfl) (by simp)
      · exact goesOn (by rw [at']; rfl) (by simp)
  | creating hash =>
      dsimp only
      split
      · exact goesOn (by rw [at']; rfl) (by simp)
      · rename_i free
        rw [Bool.or_eq_true, not_or, Bool.not_eq_true] at free
        refine ⟨kept.insertAdmin sound at_ free.1 hash ?_, ?_⟩
        · split <;> rfl
        · apply (sound.insertAdmin hash).setPhase
          intro userId roleId binding
          split at binding <;> cases binding
  | finding userId =>
      dsimp only
      split
      · exact goesOn (by rw [at']; rfl) (by simp)
      · rename_i r found
        refine goesOn ?_ ?_
        · rw [at']
          split <;> rfl
        · intro userId' roleId binding
          split at binding
          · cases binding
            exact ⟨r, adminRole_mem found, rfl, sound.role r found⟩
          · cases binding
  | binding userId roleId =>
      dsimp only
      split
      · exact goesOn (by rw [at']; rfl) (by simp)
      · have account : st.phase.account = some (userId, false) := by rw [at']; rfl
        obtain ⟨⟨u, there, rfl⟩, -⟩ := kept.of_account at_ account
        have old : u.id < s.nextUserId := sound.users u there
        refine ⟨kept.insertBinding sound at_ at' rfl, ?_⟩
        exact (sound.insertBinding old roleId).setPhase i st (by simp)
  | ended account ok => exact ⟨kept, sound⟩

theorem Kept.begin (kept : s.Kept) (env : String) :
    Kept { s with starts := s.starts ++ [⟨env, .counting⟩] } := by
  cases kept with
  | absent none_ idle =>
      refine .absent none_ ?_
      intro st mem
      rcases List.mem_append.1 mem with old | new
      · exact idle st old
      · rw [List.mem_singleton.1 new]
        rfl
  | created i u bound admins own others holds =>
      refine .created i u bound admins ?_ ?_ holds
      · obtain ⟨st, found, account⟩ := own
        have short := (List.getElem?_eq_some_iff.1 found).1
        exact ⟨st, (List.getElem?_append_left short).trans found, account⟩
      · intro j st away found
        by_cases short : j < s.starts.length
        · exact others j st away ((List.getElem?_append_left short).symm.trans found)
        · rw [List.getElem?_append_right (Nat.le_of_not_lt short)] at found
          rw [List.mem_singleton.1 (List.mem_of_getElem? found)]
          rfl

theorem Sound.begin (sound : s.Sound) (env : String) :
    Sound { s with starts := s.starts ++ [⟨env, .counting⟩] } where
  users := sound.users
  bindings := sound.bindings
  role := sound.role
  found := by
    intro st mem
    rcases List.mem_append.1 mem with old | new
    · exact sound.found st old
    · rw [List.mem_singleton.1 new]
      simp

theorem next_keeps (kept : s.Kept) (sound : s.Sound) (e : SeedEvent) :
    (s.next b e).Kept ∧ (s.next b e).Sound := by
  cases e with
  | begin env => exact ⟨kept.begin env, sound.begin env⟩
  | step i ending salt =>
      rw [next]
      cases at_ : s.starts[i]? with
      | none => exact ⟨kept, sound⟩
      | some st => exact advance_keeps kept sound at_ ending salt
  | crash i =>
      rw [next]
      cases at_ : s.starts[i]? with
      | none => exact ⟨kept, sound⟩
      | some st =>
          dsimp only
          split
          · exact ⟨kept, sound⟩
          · exact ⟨kept.setPhase at_ rfl, sound.setPhase i st (by simp)⟩

theorem run_keeps (kept : s.Kept) (sound : s.Sound) (es : List SeedEvent) :
    (exec (next b) s es).Kept ∧ (exec (next b) s es).Sound := by
  induction es generalizing s with
  | nil => exact ⟨kept, sound⟩
  | cons e es ih =>
      obtain ⟨kept', sound'⟩ := next_keeps (b := b) kept sound e
      exact ih kept' sound'

theorem advance_other (i : Nat) (st : SeedStart) (ending : Ending) (salt : Nat) {j : Nat}
    (away : i ≠ j) : (s.advance b i st ending salt).starts[j]? = s.starts[j]? := by
  have kept {s' : AdminSeed} (phase : SeedPhase) (same : s'.starts = s.starts) :
      (s'.setPhase i st phase).starts[j]? = s.starts[j]? := by
    rw [setPhase, same]
    exact List.getElem?_set_ne away
  unfold advance
  split
  · split
    · exact kept _ rfl
    · split <;> exact kept _ rfl
  · split <;> exact kept _ rfl
  · split <;> exact kept _ rfl
  · split <;> exact kept _ rfl
  · split <;> exact kept _ rfl
  · rfl

theorem next_finished {i : Nat} {st : SeedStart} (at_ : s.starts[i]? = some st)
    (finished : st.phase.finished = true) (e : SeedEvent) : (s.next b e).starts[i]? = some st := by
  cases e with
  | begin env =>
      have short := (List.getElem?_eq_some_iff.1 at_).1
      exact (List.getElem?_append_left short).trans at_
  | step j ending salt =>
      rw [next]
      by_cases here : j = i
      · subst here
        rw [at_]
        dsimp only [advance]
        cases phase : st.phase with
        | ended account ok => exact at_
        | _ => simp [phase, SeedPhase.finished] at finished
      · cases other : s.starts[j]? with
        | none => exact at_
        | some st' => exact (advance_other j st' ending salt here).trans at_
  | crash j =>
      rw [next]
      by_cases here : j = i
      · subst here
        rw [at_]
        dsimp only
        rw [if_pos finished]
        exact at_
      · cases other : s.starts[j]? with
        | none => exact at_
        | some st' =>
            dsimp only
            split
            · exact at_
            · exact (List.getElem?_set_ne here).trans at_

theorem run_finished {i : Nat} {st : SeedStart} (at_ : s.starts[i]? = some st)
    (finished : st.phase.finished = true) (es : List SeedEvent) :
    (exec (next b) s es).starts[i]? = some st := by
  induction es generalizing s with
  | nil => exact at_
  | cons e es ih => exact ih (next_finished at_ finished e)

/-! ## What the account may do -/

/-- The account has every permission, or it has none. -/
def Gives (s : AdminSeed) (orm : NamingStrategy) (userId : Nat) (all : Bool) : Prop :=
  ∀ code, (loadPermissionTree orm s.db userId).hasPerm code = all

theorem gives_of_bound {userId : Nat} {bound : Bool} (holds : Bound s.db userId bound)
    (orm : NamingStrategy) : s.Gives orm userId bound := by
  intro code
  cases bound with
  | true =>
      obtain ⟨⟨ur, mem, mine⟩, all⟩ := holds
      obtain ⟨platform, r, role, same, enabled⟩ := all ur mem mine
      exact PermissionTree.hasPerm_iff.2
        (.inl (isPlatformAdmin_iff.2 ⟨ur, r, ⟨mem, mine, role, same, enabled⟩, platform⟩))
  | false =>
      have nothing : ∀ c, c ∉ (loadPermissionTree orm s.db userId).perms := by
        intro c mem
        obtain ⟨-, ur, r, joined, -⟩ := mem_perms_iff.1 mem
        exact holds ur joined.binding joined.user
      apply Bool.eq_false_iff.2
      intro granted
      rcases PermissionTree.hasPerm_iff.1 granted with admin | all | exact_ | ⟨wildcard, mem, -⟩
      · obtain ⟨ur, r, joined, -⟩ := isPlatformAdmin_iff.1 admin
        exact holds ur joined.binding joined.user
      · exact nothing _ all
      · exact nothing _ exact_
      · exact nothing _ mem

end AdminSeed

open AdminSeed

/-- However many servers start at once, with whatever errors and crashes: at most one account is
made, by one start; it has all permissions or none, as that start has bound its role or not; and
once that start is over nothing that any start does changes this. -/
theorem first_admin_settled (b : Bcrypt) (orm : NamingStrategy) (db : Database) (nextUserId : Nat)
    (none_ : ∀ u ∈ db.users, u.isAdmin = false) (users : ∀ u ∈ db.users, u.id < nextUserId)
    (bindings : ∀ ur ∈ db.userRoles, ur.userId < nextUserId)
    (role : ∀ r, adminRole db = some r → r.status = 1) {es : List SeedEvent} {s : AdminSeed}
    (reached : exec (next b) (start db nextUserId) es = s) :
    (s.db.users.filter SysUser.isAdmin).length ≤ 1 ∧
      ∀ u ∈ s.db.users, u.isAdmin = true →
        ∃ (i : Nat) (st : SeedStart) (bound : Bool),
          s.starts[i]? = some st ∧ st.phase.account = some (u.id, bound) ∧ s.Gives orm u.id bound ∧
            (st.phase.finished = true → ∀ later, (exec (next b) s later).Gives orm u.id bound) := by
  have runs := run_keeps (b := b) (start_kept none_) (start_sound users bindings role) es
  rw [reached] at runs
  obtain ⟨kept, sound⟩ := runs
  cases kept with
  | absent none' _ =>
      have nobody : s.db.users.filter SysUser.isAdmin = [] :=
        List.filter_eq_nil_iff.2 fun u mem => Bool.eq_false_iff.1 (none' u mem)
      rw [nobody]
      exact ⟨Nat.zero_le _, fun u mem admin => absurd admin (Bool.eq_false_iff.1 (none' u mem))⟩
  | created i u bound admins own others holds =>
      obtain ⟨st, at_, account⟩ := own
      have again : s.Kept := .created i u bound admins ⟨st, at_, account⟩ others holds
      rw [admins]
      refine ⟨Nat.le_refl _, ?_⟩
      intro v mem admin
      have only : v ∈ s.db.users.filter SysUser.isAdmin := List.mem_filter.2 ⟨mem, admin⟩
      rw [admins] at only
      obtain rfl := List.mem_singleton.1 only
      refine ⟨i, st, bound, at_, account, gives_of_bound holds orm, ?_⟩
      intro finished later
      have still := run_finished (b := b) at_ finished later
      exact gives_of_bound ((run_keeps again sound later).1.of_account still account).2 orm

def noAdmin : Database := { seedDatabase "" with users := [], userRoles := [] }

/-- The first server stops when the account is made, the second one starts well. -/
def stoppedStart : List SeedEvent :=
  [.begin "", .step 0 .done 0, .step 0 .done 0, .step 0 .done 0, .crash 0,
    .begin "", .step 1 .done 0]

def plainBcrypt : Bcrypt := ⟨fun _ _ raw => .ok raw⟩

/-- The platform runs with an administrator who may do nothing, and no start repairs it. -/
theorem powerless_admin :
    (exec (next plainBcrypt) (start noAdmin 1) stoppedStart).starts.map (·.phase) =
        [.ended (some (1, false)) false, .ended none true] ∧
      ∀ later, (exec (next plainBcrypt) (exec (next plainBcrypt) (start noAdmin 1) stoppedStart)
        later).Gives gormDefault 1 false := by
  have stopped : exec (next plainBcrypt) (start noAdmin 1) stoppedStart =
      ⟨{ noAdmin with users := [⟨1, "admin", "admin123", 1, false⟩] }, 2,
        [⟨"", .ended (some (1, false)) false⟩, ⟨"", .ended none true⟩]⟩ := by
    decide +kernel
  have role : adminRole noAdmin = some ⟨1, "platform-admin", 1, 1, false⟩ := by decide +kernel
  have settled := first_admin_settled plainBcrypt gormDefault noAdmin 1 (by decide) (by decide)
    (by decide) (fun r found => Option.some.inj (found.symm.trans role) ▸ rfl) stopped
  obtain ⟨i, st, bound, at_, account, -, stays⟩ := settled.2 _ (List.mem_singleton_self _) rfl
  rw [stopped]
  refine ⟨rfl, ?_⟩
  match i with
  | 0 =>
      obtain rfl := Option.some.inj at_
      obtain ⟨-, rfl⟩ := Prod.mk.inj (Option.some.inj account)
      exact stays rfl
  | 1 =>
      obtain rfl := Option.some.inj at_
      cases account
  | i + 2 => cases at_

end K8sPlatform.Auth
