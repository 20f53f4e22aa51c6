import Mathlib.Data.List.Basic
import K8sPlatform.Lib.Text
import K8sPlatform.Lib.Transition

/-! # The session of a browser: its tokens, its requests and their refresh -/

namespace K8sPlatform.Frontend

/-- What is stored under the keys `token` and `refresh_token`. -/
structure LocalStorage where
  token : Option String
  refreshToken : Option String
  deriving DecidableEq, Repr

inductive ProfileStatus
  | idle | loading | ready | failed
  deriving DecidableEq, Repr

/-- The state of the slice; what it holds of the current user is not looked at. -/
structure UserState (User : Type) where
  token : Option String
  refreshToken : Option String
  currentUser : Option User
  profileStatus : ProfileStatus

structure LoginResponse where
  accessToken : String
  refreshToken : Option String
  deriving DecidableEq, Repr

inductive UserAction (User : Type)
  | setToken (payload : Option String)
  | setRefreshToken (payload : Option String)
  | setCurrentUser (payload : Option User)
  | logout
  | loginFulfilled (payload : LoginResponse)
  | fetchCurrentUserPending
  | fetchCurrentUserFulfilled (payload : User)
  | fetchCurrentUserRejected

variable {User : Type}

/-- Neither `null` nor the empty text. -/
def truthy (v : Option String) : Bool := v.getD "" ≠ ""

/-- What a key holds; the texts that an older version stored for no token count as none. -/
def readStoredToken (v : Option String) : Option String :=
  if truthy v ∧ v ≠ some "undefined" ∧ v ≠ some "null" then v else none

/-- What a key holds after a value is persisted under it. -/
def persistToken (value : Option String) : Option String :=
  if truthy value then value else none

def LocalStorage.initialState (storage : LocalStorage) : UserState User where
  token := readStoredToken storage.token
  refreshToken := readStoredToken storage.refreshToken
  currentUser := none
  profileStatus := .idle

/-- The reducers of the slice, with what they persist. -/
def userReducer (s : UserState User) (storage : LocalStorage) :
    UserAction User → UserState User × LocalStorage
  | .setToken payload =>
      ({ s with token := payload }, { storage with token := persistToken payload })
  | .setRefreshToken payload =>
      ({ s with refreshToken := payload }, { storage with refreshToken := persistToken payload })
  | .setCurrentUser payload => ({ s with currentUser := payload }, storage)
  | .logout => (⟨none, none, none, .idle⟩, ⟨none, none⟩)
  | .loginFulfilled payload =>
      -- the profile is fetched next
      ({ s with
          token := some payload.accessToken
          refreshToken := payload.refreshToken
          profileStatus := .loading },
        ⟨persistToken (some payload.accessToken), persistToken payload.refreshToken⟩)
  | .fetchCurrentUserPending => ({ s with profileStatus := .loading }, storage)
  | .fetchCurrentUserFulfilled payload =>
      ({ s with currentUser := some payload, profileStatus := .ready }, storage)
  | .fetchCurrentUserRejected => ({ s with profileStatus := .failed }, storage)

/-- A request by its number, with the header that it was last sent with. -/
structure Config where
  id : Nat
  url : String
  retried : Bool
  authorization : Option String
  deriving DecidableEq, Repr

/-- A post of the refresh token and the requests that wait for its answer. -/
structure Refresh where
  refreshToken : String
  waiting : List Config
  deriving DecidableEq, Repr

/-- What the page puts on the wire. -/
inductive Message
  | request (c : Config)
  | refresh (refreshToken : String)
  deriving DecidableEq, Repr

/-- How the promise of a request ends; with its page it is forgotten. -/
inductive Settlement
  | resolved | rejected | forgotten
  deriving DecidableEq, Repr

/-- A page with its storage, its requests on their way and all that it has sent. -/
structure SessionPage (User : Type) where
  user : UserState User
  storage : LocalStorage
  refreshInFlight : Option Refresh
  pending : List Config
  settled : List (Nat × Settlement)
  nextId : Nat
  wire : List Message

/-- The answer to a refresh: the post fails, or its body names tokens. -/
inductive RefreshAnswer
  | failed
  | body (accessToken refreshToken : Option String)
  deriving DecidableEq, Repr

inductive SessionEvent (User : Type)
  | send (url : String)
  | answer (id : Nat) (status : Option Nat)
  | refreshed (answer : RefreshAnswer)
  | login (payload : LoginResponse)
  | profilePending
  | profile (user : User)
  | profileRejected
  | logout
  | load

def isAuthPath (url : String) : Bool :=
  Text.hasInfix "/auth/login" url || Text.hasInfix "/auth/refresh" url
    || Text.hasInfix "/auth/logout" url

/-- The request interceptor. -/
def LocalStorage.intercept (storage : LocalStorage) (c : Config) : Config :=
  if truthy storage.token then
    { c with authorization := some ("Bearer " ++ storage.token.getD "") }
  else c

@[simp] theorem LocalStorage.intercept_id (storage : LocalStorage) (c : Config) :
    (storage.intercept c).id = c.id := by
  unfold LocalStorage.intercept
  split_ifs <;> rfl

@[simp] theorem LocalStorage.intercept_retried (storage : LocalStorage) (c : Config) :
    (storage.intercept c).retried = c.retried := by
  unfold LocalStorage.intercept
  split_ifs <;> rfl

namespace SessionPage

def opened (storage : LocalStorage) : SessionPage User where
  user := storage.initialState
  storage := storage
  refreshInFlight := none
  pending := []
  settled := []
  nextId := 0
  wire := []

def dispatch (p : SessionPage User) (a : UserAction User) : SessionPage User :=
  let after := userReducer p.user p.storage a
  { p with user := after.1, storage := after.2 }

def request (p : SessionPage User) (c : Config) : SessionPage User :=
  let c := p.storage.intercept c
  { p with pending := p.pending ++ [c], wire := p.wire ++ [.request c] }

/-- Without the way to the login page, which loads a page anew. -/
def handleUnauthorized (p : SessionPage User) : SessionPage User :=
  dispatch { p with storage := ⟨none, none⟩ } .logout

def handleError (p : SessionPage User) (url : String) (status : Option Nat) : SessionPage User :=
  if status = some 401 then
    -- the login and the refresh answer so to a wrong password or token
    if Text.hasInfix "/auth/login" url || Text.hasInfix "/auth/refresh" url then p
    else p.handleUnauthorized
  else p

def settle (p : SessionPage User) (id : Nat) (s : Settlement) : SessionPage User :=
  { p with settled := p.settled ++ [(id, s)] }

def reject (p : SessionPage User) (c : Config) (status : Option Nat) : SessionPage User :=
  (p.handleError c.url status).settle c.id .rejected

/-- The end of the wait for a refresh that failed. -/
def refuse (p : SessionPage User) (c : Config) : SessionPage User := p.reject c (some 401)

/-- The start of `refreshAccessToken`, or the wait for the one that runs already. -/
def awaitRefresh (p : SessionPage User) (c : Config) : SessionPage User :=
  match p.refreshInFlight with
  | some r => { p with refreshInFlight := some { r with waiting := r.waiting ++ [c] } }
  | none =>
      match readStoredToken p.storage.refreshToken with
      | none => p.refuse c
      | some rt =>
          { p with refreshInFlight := some ⟨rt, [c]⟩, wire := p.wire ++ [.refresh rt] }

/-- The tokens of a refresh, stored and dispatched. -/
def adopt (p : SessionPage User) (access : String) (refresh : Option String) : SessionPage User :=
  let storage :=
    { p.storage with
      token := some access
      refreshToken := if truthy refresh then refresh else p.storage.refreshToken }
  let p := dispatch { p with storage := storage } (.setToken (some access))
  if truthy refresh then p.dispatch (.setRefreshToken refresh) else p

/-- The second sending of a request, after a refresh. -/
def retry (access : String) (p : SessionPage User) (c : Config) : SessionPage User :=
  p.request { c with retried := true, authorization := some ("Bearer " ++ access) }

/-- The end of the refresh and of the waits for it, before any other event. -/
def refreshed (p : SessionPage User) (answer : RefreshAnswer) : SessionPage User :=
  match p.refreshInFlight with
  | none => p
  | some r =>
      let p := { p with refreshInFlight := none }
      match answer with
      | .body (some access) refresh =>
          if access = "" then r.waiting.foldl refuse p
          else r.waiting.foldl (retry access) (p.adopt access refresh)
      | _ => r.waiting.foldl refuse p

/-- The answer to a request; only a status in the 200s resolves it. -/
def answered (p : SessionPage User) (id : Nat) (status : Option Nat) : SessionPage User :=
  match p.pending.find? (·.id = id) with
  | none => p
  | some c =>
      let p := { p with pending := p.pending.filter (·.id ≠ id) }
      if 200 ≤ status.getD 0 ∧ status.getD 0 < 300 then p.settle id .resolved
      else if status = some 401 ∧ c.retried = false ∧ isAuthPath c.url = false then
        p.awaitRefresh c
      else p.reject c status

def waiting (p : SessionPage User) : List Config :=
  (p.refreshInFlight.map Refresh.waiting).getD []

/-- The page is loaded anew: its script is gone, with all that it waited for. -/
def load (p : SessionPage User) : SessionPage User :=
  { p with
    user := p.storage.initialState
    refreshInFlight := none
    pending := []
    settled := p.settled ++ (p.pending ++ p.waiting).map fun c => (c.id, .forgotten) }

def next (p : SessionPage User) : SessionEvent User → SessionPage User
  | .send url =>
      { p with nextId := p.nextId + 1 }.request ⟨p.nextId, url, false, none⟩
  | .answer id status => p.answered id status
  | .refreshed answer => p.refreshed answer
  | .login payload => p.dispatch (.loginFulfilled payload)
  | .profilePending => p.dispatch .fetchCurrentUserPending
  | .profile user => p.dispatch (.fetchCurrentUserFulfilled user)
  | .profileRejected => p.dispatch .fetchCurrentUserRejected
  | .logout => p.dispatch .logout
  | .load => p.load

end SessionPage

end K8sPlatform.Frontend
