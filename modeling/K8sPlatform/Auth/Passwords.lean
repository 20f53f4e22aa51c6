import K8sPlatform.Auth.Disable
import K8sPlatform.Lib.Repeated

/-! # The passwords of the users, from their creation to their logins -/

namespace K8sPlatform.Auth

open Errcode

def passwordBytes (raw : String) : List UInt8 := Text.utf8 raw.toList

/-- What a hash is made of: the password and a zero byte, repeated to 72 bytes. -/
def passwordKey (raw : String) : List UInt8 := Repeated.fill 72 0 (passwordBytes raw)

/-- The generator of hashes, given the cost, the salt it draws and the password. -/
structure Bcrypt where
  generate : Int → Nat → String → Except String String

/-- The generator refuses more than 72 bytes, and a hash is matched by what has its key. -/
structure Bcrypt.Sound (b : Bcrypt) (s : Service) : Prop where
  tooLong : ∀ {cost salt raw hash}, b.generate cost salt raw = .ok hash →
    (passwordBytes raw).length ≤ 72
  compares : ∀ {cost salt raw hash}, b.generate cost salt raw = .ok hash →
    ∀ q, s.checkPassword hash q = true ↔ passwordKey q = passwordKey raw

/-- What matches a password without zero bytes: its bytes, and what goes on behind 72 of them. -/
theorem passwordKey_eq_iff {raw q : String} (short : (passwordBytes raw).length ≤ 72)
    (plain : 0 ∉ passwordBytes raw) (plain' : 0 ∉ passwordBytes q) :
    passwordKey q = passwordKey raw ↔ (passwordBytes q).take 72 = passwordBytes raw := by
  rw [passwordKey, passwordKey, Repeated.fill_eq_iff plain' plain, List.take_of_length_le short]

structure CreateUserReq where
  username : String
  displayName : String
  email : String
  phone : String
  password : String
  authSource : String
  status : Int
  deriving DecidableEq, Repr

def CreateUserReq.validate (req : CreateUserReq) : Option String :=
  Validation.check "createUserReq"
    [⟨"Username", [("required", req.username != ""), ("min", 2 ≤ req.username.length),
      ("max", req.username.length ≤ 64)]⟩,
     ⟨"DisplayName", [("max", req.displayName.length ≤ 128)]⟩,
     ⟨"Email", [("max", req.email.length ≤ 128)]⟩,
     ⟨"Phone", [("max", req.phone.length ≤ 32)]⟩,
     ⟨"Password", [("required", req.password != ""), ("min", 6 ≤ req.password.length),
      ("max", req.password.length ≤ 64)]⟩]

/-- A status of 0 cannot be asked for: it is taken as none. -/
def CreateUserReq.givenStatus (req : CreateUserReq) : Int :=
  if req.status = 0 then userStatusEnabled else req.status

structure ResetPasswordReq where
  password : String
  deriving DecidableEq, Repr

def ResetPasswordReq.validate (req : ResetPasswordReq) : Option String :=
  Validation.check "resetPasswordReq"
    [⟨"Password", [("required", req.password != ""), ("min", 6 ≤ req.password.length),
      ("max", req.password.length ≤ 64)]⟩]

structure LoginReq where
  username : String
  password : String
  deriving DecidableEq, Repr

def LoginReq.validate (req : LoginReq) : Option String :=
  Validation.check "loginReq"
    [⟨"Username", [("required", req.username != ""), ("min", 1 ≤ req.username.length),
      ("max", req.username.length ≤ 64)]⟩,
     ⟨"Password", [("required", req.password != ""), ("min", 1 ≤ req.password.length),
      ("max", req.password.length ≤ 128)]⟩]

/-- What `Create` does with the id that the sequence gives: the user name is unique among all rows,
and the column of the source holds 32 characters. -/
def Database.insertUser (db : Database) (id : Nat) (req : CreateUserReq) (hash : String) :
    Option Database :=
  if db.users.any (fun u => u.username == req.username || u.id == id) ||
      decide (32 < req.authSource.length) then none
  else some { db with users := db.users ++ [⟨id, req.username, hash, req.givenStatus, false⟩] }

/-- gorm's update of the hash of the live rows with the id. -/
def Database.setPasswordHash (db : Database) (id : Nat) (hash : String) : Database :=
  { db with
    users := db.users.map fun u =>
      if u.id == id && !u.deleted then { u with passwordHash := hash } else u }

section

variable (b : Bcrypt) (cost : Int)

/-- The database takes every user name; PostgreSQL would refuse a zero byte. -/
def createUser (w : World) (h : Health) (body : Body CreateUserReq) (id salt : Nat) :
    Except Error (Nat × String) × World :=
  match body with
  | .error err => (.error (.new .invalidArgument err), w)
  | .ok req =>
    match req.validate with
    | some err => (.error (.new .invalidArgument err), w)
    | none =>
      -- the error of the count is not looked at
      if h.db.isNone && w.db.users.any (fun u => u.username == req.username && !u.deleted) then
        (.error (.new .alreadyExists "用户名已存在"), w)
      else
        match b.generate cost salt req.password with
        | .error err => (.error (.wrap .internal err), w)
        | .ok hash =>
          match h.db with
          | some err => (.error (.wrap .databaseError err), w)
          | none =>
            match w.db.insertUser id req hash with
            | none => (.error (.wrap .databaseError "insert"), w)
            | some db => (.ok (id, req.username), { w with db })

def resetPassword (w : World) (h : Health) (idStr : String) (body : Body ResetPasswordReq)
    (salt : Nat) : Except Error Nat × World :=
  match Validation.parseUint64 idStr with
  | none => (.error invalidUserId, w)
  | some id =>
    match body with
    | .error err => (.error (.new .invalidArgument err), w)
    | .ok req =>
      match req.validate with
      | some err => (.error (.new .invalidArgument err), w)
      | none =>
        match h.db with
        | some err => (.error (.wrap .databaseError err), w)
        | none =>
          match w.db.findUser id with
          | none => (.error userNotFound, w)
          | some _ =>
            match b.generate cost salt req.password with
            | .error err => (.error (.wrap .internal err), w)
            | .ok hash => (.ok id, { w with db := w.db.setPasswordHash id hash })

def loginHandler (s : Service) (w : World) (h : Health) (body : Body LoginReq)
    (ids : Service.TokenIds) : Except Error LoginResult :=
  match body with
  | .error err => .error (.new .invalidArgument err)
  | .ok req =>
    match req.validate with
    | some err => .error (.new .invalidArgument err)
    | none => s.login w h req.username req.password ids

end

/-! ## Accounts -/

/-- A user as the administrators know him, with the password they gave him last. -/
structure Account where
  id : Nat
  username : String
  password : String
  status : Int
  deriving DecidableEq, Repr

def Account.given (id : Nat) (password : String) (a : Account) : Account :=
  if a.id = id then { a with password } else a

def Account.set (id : Nat) (status : Int) (a : Account) : Account :=
  if a.id = id then { a with status } else a

/-- The administration of users, and the other calls of the service. -/
inductive AccountCall
  | createUser (body : Body CreateUserReq) (id salt : Nat) (h : Health)
  | resetPassword (idStr : String) (body : Body ResetPasswordReq) (salt : Nat) (h : Health)
  | event (e : Event)

/-- The world beside the accounts that its administrators have in mind. -/
structure Accounts where
  world : World
  accounts : List Account

section

variable (b : Bcrypt) (cost : Int) (s : Service) (allowOrigins : List String)

/-- A call that answers an error leaves the accounts as they are. -/
def Accounts.next (x : Accounts) : AccountCall → Accounts
  | .createUser body id salt h =>
      match createUser b cost x.world h body id salt, body with
      | (.ok _, w), .ok req =>
          ⟨w, x.accounts ++ [⟨id, req.username, req.password, req.givenStatus⟩]⟩
      | (_, w), _ => ⟨w, x.accounts⟩
  | .resetPassword idStr body salt h =>
      match resetPassword b cost x.world h idStr body salt, body with
      | (.ok id, w), .ok req => ⟨w, x.accounts.map (Account.given id req.password)⟩
      | (_, w), _ => ⟨w, x.accounts⟩
  | .event e =>
      ⟨e.run s allowOrigins x.world,
        match e.statusSet x.world with
        | none => x.accounts
        | some (id, status) => x.accounts.map (Account.set id status)⟩

/-- A live row that stands for an account. -/
structure Stands (u : SysUser) (a : Account) : Prop where
  id : u.id = a.id
  username : u.username = a.username
  status : u.status = a.status
  live : u.deleted = false
  accepts : ∀ q, s.checkPassword u.passwordHash q = true ↔ passwordKey q = passwordKey a.password
  short : (passwordBytes a.password).length ≤ 72

/-- The rows stand for the accounts, whose user names are unique. -/
structure Accounts.Kept (x : Accounts) : Prop where
  rows : List.Forall₂ (Stands s) x.world.db.users x.accounts
  unique : (x.accounts.map (·.username)).Nodup

end

section

variable {b : Bcrypt} {cost : Int} {s : Service} {allowOrigins : List String}

variable (b cost) in
theorem createUser_cases (w : World) (h : Health) (body : Body CreateUserReq) (id salt : Nat) :
    (∃ err, createUser b cost w h body id salt = (.error err, w)) ∨
      ∃ req hash db, body = .ok req ∧ b.generate cost salt req.password = .ok hash ∧
        w.db.insertUser id req hash = some db ∧
        createUser b cost w h body id salt = (.ok (id, req.username), { w with db }) := by
  unfold createUser
  split
  · exact .inl ⟨_, rfl⟩
  rename_i req
  split
  · exact .inl ⟨_, rfl⟩
  split
  · exact .inl ⟨_, rfl⟩
  split
  · exact .inl ⟨_, rfl⟩
  rename_i hash generated
  split
  · exact .inl ⟨_, rfl⟩
  split
  · exact .inl ⟨_, rfl⟩
  rename_i db inserted
  exact .inr ⟨req, hash, db, rfl, generated, inserted, rfl⟩

variable (b cost) in
theorem resetPassword_cases (w : World) (h : Health) (idStr : String)
    (body : Body ResetPasswordReq) (salt : Nat) :
    (∃ err, resetPassword b cost w h idStr body salt = (.error err, w)) ∨
      ∃ id req hash, body = .ok req ∧ b.generate cost salt req.password = .ok hash ∧
        resetPassword b cost w h idStr body salt =
          (.ok id, { w with db := w.db.setPasswordHash id hash }) := by
  unfold resetPassword
  split
  · exact .inl ⟨_, rfl⟩
  rename_i id _
  split
  · exact .inl ⟨_, rfl⟩
  rename_i req
  split
  · exact .inl ⟨_, rfl⟩
  split
  · exact .inl ⟨_, rfl⟩
  split
  · exact .inl ⟨_, rfl⟩
  split
  · exact .inl ⟨_, rfl⟩
  rename_i hash generated
  exact .inr ⟨id, req, hash, rfl, generated, rfl⟩

theorem rows_map {users : List SysUser} {accounts : List Account}
    (rows : List.Forall₂ (Stands s) users accounts) {f : SysUser → SysUser}
    {g : Account → Account} (step : ∀ u a, Stands s u a → Stands s (f u) (g a)) :
    List.Forall₂ (Stands s) (users.map f) (accounts.map g) := by
  rw [List.forall₂_map_left_iff, List.forall₂_map_right_iff]
  exact rows.imp step

theorem usernames_map {accounts : List Account} {g : Account → Account}
    (same : ∀ a, (g a).username = a.username) :
    (accounts.map g).map (·.username) = accounts.map (·.username) := by
  rw [List.map_map]
  exact List.map_congr_left fun a _ => same a

theorem given_username (id : Nat) (password : String) (a : Account) :
    (a.given id password).username = a.username := by
  unfold Account.given
  split <;> rfl

theorem set_username (id : Nat) (status : Int) (a : Account) :
    (a.set id status).username = a.username := by
  unfold Account.set
  split <;> rfl

/-- The row with the new hash stands for the account with the new password. -/
theorem stands_given (sound : b.Sound s) {salt id : Nat} {raw hash : String}
    (generated : b.generate cost salt raw = .ok hash) {u : SysUser} {a : Account}
    (stands : Stands s u a) :
    Stands s (if u.id == id && !u.deleted then { u with passwordHash := hash } else u)
      (a.given id raw) := by
  unfold Account.given
  by_cases own : a.id = id
  · have hit : (u.id == id && !u.deleted) = true := by
      rw [stands.live, stands.id, own]
      exact (Bool.and_true _).trans (beq_self_eq_true id)
    rw [if_pos hit, if_pos own]
    exact ⟨stands.id, stands.username, stands.status, stands.live, sound.compares generated,
      sound.tooLong generated⟩
  · have miss : ¬(u.id == id && !u.deleted) = true := by
      rw [Bool.and_eq_true, beq_iff_eq, stands.id]
      exact fun both => own both.1
    rw [if_neg miss, if_neg own]
    exact stands

theorem stands_set {id : Nat} {status : Int} {u : SysUser} {a : Account} (stands : Stands s u a) :
    Stands s (if u.id == id && !u.deleted then { u with status := status } else u)
      (a.set id status) := by
  unfold Account.set
  by_cases own : a.id = id
  · have hit : (u.id == id && !u.deleted) = true := by
      rw [stands.live, stands.id, own]
      exact (Bool.and_true _).trans (beq_self_eq_true id)
    rw [if_pos hit, if_pos own]
    exact ⟨stands.id, stands.username, rfl, stands.live, stands.accepts, stands.short⟩
  · have miss : ¬(u.id == id && !u.deleted) = true := by
      rw [Bool.and_eq_true, beq_iff_eq, stands.id]
      exact fun both => own both.1
    rw [if_neg miss, if_neg own]
    exact stands

/-- The names of the rows are the names of the accounts. -/
theorem rows_usernames {users : List SysUser} {accounts : List Account}
    (rows : List.Forall₂ (Stands s) users accounts) :
    users.map (·.username) = accounts.map (·.username) := by
  induction rows with
  | nil => rfl
  | cons stands _ ih => rw [List.map_cons, List.map_cons, stands.username, ih]

/-- A row that is inserted stands for a new account. -/
theorem kept_insert (sound : b.Sound s) {w : World} {accounts : List Account}
    (kept : Accounts.Kept s ⟨w, accounts⟩) {id salt : Nat} {req : CreateUserReq} {hash : String}
    {db : Database} (generated : b.generate cost salt req.password = .ok hash)
    (inserted : w.db.insertUser id req hash = some db) :
    Accounts.Kept s
      ⟨{ w with db }, accounts ++ [⟨id, req.username, req.password, req.givenStatus⟩]⟩ := by
  unfold Database.insertUser at inserted
  split at inserted
  · cases inserted
  rename_i free
  rw [Bool.or_eq_true, not_or, List.any_eq_true] at free
  obtain rfl := Option.some.inj inserted
  have new : req.username ∉ accounts.map (·.username) := by
    rw [← rows_usernames kept.rows]
    intro taken
    obtain ⟨u, mem, same⟩ := List.mem_map.1 taken
    apply free.1
    exact ⟨u, mem, Bool.or_eq_true_iff.2 (.inl (beq_iff_eq.2 same))⟩
  have row : Stands s ⟨id, req.username, hash, req.givenStatus, false⟩
      ⟨id, req.username, req.password, req.givenStatus⟩ :=
    ⟨rfl, rfl, rfl, rfl, sound.compares generated, sound.tooLong generated⟩
  constructor
  · exact List.rel_append kept.rows (.cons row .nil)
  · rw [List.map_append, List.map_singleton, List.nodup_append]
    refine ⟨kept.unique, List.nodup_singleton _, ?_⟩
    rintro name mem _ last rfl
    rw [List.mem_singleton.1 last] at mem
    exact new mem

/-- Every call keeps the rows with the accounts. -/
theorem next_kept (sound : b.Sound s) {x : Accounts} (kept : x.Kept s) (c : AccountCall) :
    (x.next b cost s allowOrigins c).Kept s := by
  cases c with
  | createUser body id salt h =>
      obtain ⟨err, refused⟩ | ⟨req, hash, db, rfl, generated, inserted, created⟩ :=
        createUser_cases b cost x.world h body id salt
      · simp only [Accounts.next, refused]
        exact kept
      · simp only [Accounts.next, created]
        exact kept_insert sound kept generated inserted
  | resetPassword idStr body salt h =>
      obtain ⟨err, refused⟩ | ⟨id, req, hash, rfl, generated, reset⟩ :=
        resetPassword_cases b cost x.world h idStr body salt
      · simp only [Accounts.next, refused]
        exact kept
      · simp only [Accounts.next, reset]
        constructor
        · exact rows_map kept.rows fun u a stands => stands_given sound generated stands
        · rw [usernames_map (given_username id req.password)]
          exact kept.unique
  | event e =>
      have users : (e.run s allowOrigins x.world).db.users =
          usersAfter x.world.db (e.statusSet x.world) := event_users x.world e
      cases set : e.statusSet x.world with
      | none =>
          rw [set] at users
          simp only [Accounts.next, set]
          exact ⟨users ▸ kept.rows, kept.unique⟩
      | some change =>
          obtain ⟨id, status⟩ := change
          rw [set] at users
          simp only [Accounts.next, set]
          constructor
          · rw [users]
            exact rows_map kept.rows fun u a stands => stands_set stands
          · rw [usernames_map (set_username id status)]
            exact kept.unique

/-! ## Logins -/

theorem run_kept (sound : b.Sound s) {x : Accounts} (kept : x.Kept s) (calls : List AccountCall) :
    (Transition.exec (Accounts.next b cost s allowOrigins) x calls).Kept s := by
  induction calls generalizing x with
  | nil => exact kept
  | cons c calls ih => exact ih (next_kept sound kept c)

/-- The row that a user name is looked up to, when no other account has it. -/
theorem find_stands {users : List SysUser} {accounts : List Account}
    (rows : List.Forall₂ (Stands s) users accounts)
    (unique : (accounts.map (·.username)).Nodup) {a : Account} (mem : a ∈ accounts) :
    ∃ u, users.find? (fun u => u.username == a.username && !u.deleted) = some u ∧
      Stands s u a := by
  induction rows with
  | nil => cases mem
  | @cons u first users accounts stands _ ih =>
      rw [List.map_cons, List.nodup_cons] at unique
      rw [List.find?_cons, stands.username, stands.live]
      rcases List.mem_cons.1 mem with rfl | later
      · rw [beq_self_eq_true]
        exact ⟨u, rfl, stands⟩
      · have other : (first.username == a.username) = false := by
          rw [beq_eq_false_iff_ne]
          intro same
          exact unique.1 (same ▸ List.mem_map_of_mem later)
        rw [other]
        exact ih unique.2 later

/-- A row that is found stands for an account. -/
theorem account_of_row {users : List SysUser} {accounts : List Account}
    (rows : List.Forall₂ (Stands s) users accounts) {u : SysUser} (mem : u ∈ users) :
    ∃ a ∈ accounts, Stands s u a := by
  induction rows with
  | nil => cases mem
  | cons stands _ ih =>
      rcases List.mem_cons.1 mem with rfl | later
      · exact ⟨_, List.mem_cons_self, stands⟩
      · obtain ⟨a, inside, own⟩ := ih later
        exact ⟨a, List.mem_cons_of_mem _ inside, own⟩

/-- A user row opens for a password when it is enabled and its hash matches. -/
theorem login_ok_iff {w : World} {username password : String} {ids : Service.TokenIds} {id : Nat} :
    (∃ r, s.login w healthy username password ids = .ok r ∧ r.user.id = id) ↔
      ∃ u, w.db.users.find? (fun u => u.username == username && !u.deleted) = some u ∧
        u.id = id ∧ u.status = userStatusEnabled ∧
        s.checkPassword u.passwordHash password = true := by
  unfold Service.login
  dsimp only [healthy]
  cases found : w.db.users.find? fun u => u.username == username && !u.deleted with
  | none => simp
  | some u =>
      by_cases enabled : u.status = userStatusEnabled
      · by_cases matched : s.checkPassword u.passwordHash password = true
        · simp [enabled, matched, Service.loginResult]
        · simp [enabled, matched]
      · simp [enabled]

/-- In every run, a login is answered with tokens of a user exactly if he is enabled and the
password has the key of the last one that he was successfully given; without zero bytes, exactly if
it is that password, or goes on behind its 72 bytes. -/
theorem login_iff_password_given (sound : b.Sound s) {x : Accounts} (kept : x.Kept s)
    (calls : List AccountCall) (req : LoginReq) (ids : Service.TokenIds) (id : Nat) :
    let y := Transition.exec (Accounts.next b cost s allowOrigins) x calls
    ((∃ r, loginHandler s y.world healthy (.ok req) ids = .ok r ∧ r.user.id = id) ↔
      req.validate = none ∧ ∃ a ∈ y.accounts, a.id = id ∧ a.username = req.username ∧
        a.status = userStatusEnabled ∧ passwordKey req.password = passwordKey a.password) ∧
    ∀ a ∈ y.accounts, 0 ∉ passwordBytes a.password → 0 ∉ passwordBytes req.password →
      (passwordKey req.password = passwordKey a.password ↔
        (passwordBytes req.password).take 72 = passwordBytes a.password) := by
  intro y
  have own : y.Kept s := run_kept sound kept calls
  constructor
  · unfold loginHandler
    dsimp only
    cases checked : req.validate with
    | some err => simp
    | none =>
        rw [login_ok_iff]
        constructor
        · rintro ⟨u, found, same, enabled, matched⟩
          have sat := List.find?_some found
          rw [Bool.and_eq_true, beq_iff_eq] at sat
          obtain ⟨a, inside, stands⟩ := account_of_row own.rows (List.mem_of_find?_eq_some found)
          exact ⟨rfl, a, inside, stands.id.symm.trans same, stands.username.symm.trans sat.1,
            stands.status.symm.trans enabled, (stands.accepts _).1 matched⟩
        · rintro ⟨-, a, inside, same, named, enabled, matched⟩
          obtain ⟨u, found, stands⟩ := find_stands own.rows own.unique inside
          rw [named] at found
          exact ⟨u, found, stands.id.trans same, stands.status.trans enabled,
            (stands.accepts _).2 matched⟩
  · intro a inside plain plain'
    obtain ⟨u, -, stands⟩ := find_stands own.rows own.unique inside
    exact passwordKey_eq_iff stands.short plain plain'

end

def keyText (raw : String) : String :=
  String.ofList ((passwordKey raw).map fun b => Char.ofNat b.toNat)

theorem keyText_eq_iff {q raw : String} :
    keyText q = keyText raw ↔ passwordKey q = passwordKey raw := by
  constructor
  · intro same
    have chars := String.ofList_injective same
    have byte : ∀ n < 256, (Char.ofNat n).toNat = n := by decide +kernel
    refine List.map_injective_iff.2 ?_ chars
    intro c d eq
    have values := congrArg Char.toNat eq
    dsimp only at values
    rw [byte _ c.toNat_lt, byte _ d.toNat_lt] at values
    exact UInt8.toNat_inj.1 values
  · intro same
    rw [keyText, keyText, same]

def keyBcrypt : Bcrypt where
  generate := fun _ _ raw =>
    if 72 < (passwordBytes raw).length then .error "bcrypt: password length exceeds 72 bytes"
    else .ok (keyText raw)

def keyService : Service :=
  { devService with checkPassword := fun hash raw => hash == keyText raw }

theorem keyBcrypt_sound : keyBcrypt.Sound keyService where
  tooLong := by
    intro cost salt raw hash generated
    simp only [keyBcrypt] at generated
    split at generated
    · cases generated
    · next short => exact Nat.le_of_not_lt short
  compares := by
    intro cost salt raw hash generated q
    simp only [keyBcrypt] at generated
    split at generated
    · cases generated
    · obtain rfl := Except.ok.inj generated
      exact beq_iff_eq.trans (eq_comm.trans keyText_eq_iff)

def noUsers : Accounts := ⟨{ devWorld with db := { devWorld.db with users := [] } }, []⟩

/-- A user is created, locked, given another password and enabled again. -/
def secondPassword : List AccountCall :=
  [.createUser (.ok ⟨"dev", "", "", "", "secret-1", "", 0⟩) 7 1 healthy,
   .event (.updateUserStatus "7" (.ok ⟨userStatusLocked⟩) healthy),
   .resetPassword "7" (.ok ⟨"secret-2"⟩) 2 healthy,
   .event (.updateUserStatus "7" (.ok ⟨userStatusEnabled⟩) healthy)]

theorem second_password_opens :
    ∃ r, loginHandler keyService
        (Transition.exec (Accounts.next keyBcrypt 10 keyService []) noUsers secondPassword).world
        healthy (.ok ⟨"dev", "secret-2"⟩) ⟨"jti-1", "jti-2"⟩ = .ok r ∧ r.user.id = 7 := by
  have start : noUsers.Kept keyService := ⟨.nil, List.nodup_nil⟩
  have accounts : (Transition.exec (Accounts.next keyBcrypt 10 keyService []) noUsers
      secondPassword).accounts = [⟨7, "dev", "secret-2", userStatusEnabled⟩] := by decide +kernel
  refine (login_iff_password_given keyBcrypt_sound start secondPassword
    ⟨"dev", "secret-2"⟩ ⟨"jti-1", "jti-2"⟩ 7).1.2 ⟨by decide +kernel, ?_⟩
  rw [accounts]
  exact ⟨_, List.mem_singleton_self _, rfl, rfl, rfl, rfl⟩

end K8sPlatform.Auth
