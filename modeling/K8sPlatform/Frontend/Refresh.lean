import K8sPlatform.Frontend.Session

/-! # The tokens of a page: one refresh at a time, and the end of a session -/

namespace K8sPlatform.Frontend

open Transition

variable {User : Type}

def Message.presented : Message → Option String
  | .request _ => none
  | .refresh rt => some rt

/-- A request without a token. -/
def Message.Anonymous : Message → Prop
  | .request c => c.authorization = none
  | .refresh _ => False

namespace SessionEvent

/-- The refresh tokens that come with an event. -/
def issued : SessionEvent User → List String
  | .login payload => payload.refreshToken.toList
  | .refreshed (.body (some _) refresh) => refresh.toList
  | _ => []

/-- The answer to a refresh that names an access token names a refresh token, too, as that of the
server does. -/
def Rotates : SessionEvent User → Prop
  | .refreshed (.body (some _) refresh) => truthy refresh = true
  | _ => True

def isLoad : SessionEvent User → Bool
  | .load => true
  | _ => false

def isLogin : SessionEvent User → Bool
  | .login _ => true
  | _ => false

end SessionEvent

theorem readStoredToken_some {v : Option String} {t : String} (h : readStoredToken v = some t) :
    v = some t := by
  unfold readStoredToken at h
  split_ifs at h
  exact h

namespace SessionPage

/-- The refresh tokens that were posted, in order. -/
def presented (p : SessionPage User) : List String := p.wire.filterMap Message.presented

/-- The page is not loaded anew while it awaits a refresh, and the server rotates. -/
def InTurn (p : SessionPage User) (e : SessionEvent User) : Prop :=
  e.Rotates ∧ (e.isLoad = true → p.refreshInFlight = none)

/-- Where `future` is still to be issued: what is stored was not posted but by the refresh in
flight. -/
structure Single (future : List String) (p : SessionPage User) : Prop where
  once : p.presented.Nodup
  later : future.Nodup
  ahead : ∀ t ∈ future, t ∉ p.presented ∧ p.storage.refreshToken ≠ some t
  stored : ∀ t ∈ p.presented, p.storage.refreshToken = some t → p.refreshInFlight.isSome = true
  waits : ∀ r, p.refreshInFlight = some r →
    r.waiting ≠ [] ∧ ∀ c ∈ r.waiting, isAuthPath c.url = false

namespace Single

variable {future : List String} {p q : SessionPage User}

theorem of_same (h : Single future p) (presented : q.presented = p.presented)
    (flight : q.refreshInFlight = p.refreshInFlight)
    (stored : q.storage.refreshToken = p.storage.refreshToken) : Single future q := by
  constructor
  · rw [presented]
    exact h.once
  · exact h.later
  · rw [presented, stored]
    exact h.ahead
  · rw [presented, stored, flight]
    exact h.stored
  · rw [flight]
    exact h.waits

/-- Nothing is left to present. -/
theorem of_cleared (h : Single future p) (presented : q.presented = p.presented)
    (flight : q.refreshInFlight = p.refreshInFlight ∨ q.refreshInFlight = none)
    (cleared : q.storage.refreshToken = none) : Single future q := by
  constructor
  · rw [presented]
    exact h.once
  · exact h.later
  · intro t mem
    rw [presented, cleared]
    exact ⟨(h.ahead t mem).1, fun eq => by cases eq⟩
  · intro t _ eq
    rw [cleared] at eq
    cases eq
  · intro r eq
    obtain same | none := flight
    · exact h.waits r (same ▸ eq)
    · rw [none] at eq
      cases eq

/-- A new token takes the place of the stored one. -/
theorem of_issued {t : String} (h : Single (t :: future) p) (presented : q.presented = p.presented)
    (flight : q.refreshInFlight = p.refreshInFlight ∨ q.refreshInFlight = none)
    (issued : q.storage.refreshToken = some t) : Single future q := by
  have fresh : t ∉ p.presented := (h.ahead t List.mem_cons_self).1
  constructor
  · rw [presented]
    exact h.once
  · exact (List.nodup_cons.1 h.later).2
  · intro u mem
    have other : t ≠ u := fun eq => (List.nodup_cons.1 h.later).1 (eq ▸ mem)
    rw [presented, issued]
    exact ⟨(h.ahead u (List.mem_cons_of_mem t mem)).1, fun eq => other (Option.some.inj eq)⟩
  · intro u mem eq
    rw [issued] at eq
    rw [presented] at mem
    exact absurd (Option.some.inj eq ▸ mem) fresh
  · intro r eq
    obtain same | none := flight
    · exact h.waits r (same ▸ eq)
    · rw [none] at eq
      cases eq

/-- Tokens that nobody keeps. -/
theorem skip {lost : List String} (h : Single (lost ++ future) p) : Single future p := by
  constructor
  · exact h.once
  · exact (List.nodup_append.1 h.later).2.1
  · exact fun t mem => h.ahead t (List.mem_append_right lost mem)
  · exact h.stored
  · exact h.waits

end Single

@[simp] theorem presented_request (p : SessionPage User) (c : Config) :
    (p.request c).presented = p.presented := by
  simp [presented, request, Message.presented]

theorem handleUnauthorized_storage (p : SessionPage User) :
    p.handleUnauthorized.storage = ⟨none, none⟩ := rfl

theorem handleError_frame (p : SessionPage User) (url : String) (status : Option Nat) :
    (p.handleError url status).wire = p.wire ∧
      (p.handleError url status).refreshInFlight = p.refreshInFlight := by
  unfold handleError
  split_ifs <;> exact ⟨rfl, rfl⟩

theorem handleError_storage (p : SessionPage User) (url : String) (status : Option Nat) :
    (p.handleError url status).storage = p.storage ∨
      (p.handleError url status).storage = ⟨none, none⟩ := by
  unfold handleError
  split_ifs
  · exact .inl rfl
  · exact .inr rfl
  · exact .inl rfl

/-- A request that may be refreshed signs the page out when it is refused. -/
theorem reject_storage (p : SessionPage User) {c : Config} (plain : isAuthPath c.url = false) :
    (p.reject c (some 401)).storage = ⟨none, none⟩ := by
  have other :
      (Text.hasInfix "/auth/login" c.url || Text.hasInfix "/auth/refresh" c.url) = false := by
    unfold isAuthPath at plain
    exact (Bool.or_eq_false_iff.1 plain).1
  simp only [reject, handleError, other, settle]
  rfl

theorem reject_frame (p : SessionPage User) (c : Config) (status : Option Nat) :
    (p.reject c status).presented = p.presented ∧
      (p.reject c status).refreshInFlight = p.refreshInFlight := by
  obtain ⟨wire, flight⟩ := p.handleError_frame c.url status
  exact ⟨congrArg (List.filterMap Message.presented) wire, flight⟩

theorem adopt_frame (p : SessionPage User) (access : String) (refresh : Option String) :
    (p.adopt access refresh).presented = p.presented ∧
      (p.adopt access refresh).refreshInFlight = p.refreshInFlight := by
  unfold adopt
  dsimp only
  split_ifs <;> exact ⟨rfl, rfl⟩

theorem adopt_refreshToken (p : SessionPage User) (access : String) {refresh : Option String}
    (given : truthy refresh = true) : (p.adopt access refresh).storage.refreshToken = refresh := by
  simp [adopt, given, dispatch, userReducer, persistToken]

/-- All that waited for a failed refresh are refused. -/
theorem refused_all {cs : List Config} (plain : ∀ c ∈ cs, isAuthPath c.url = false)
    (p : SessionPage User) :
    let q := cs.foldl refuse p
    q.presented = p.presented ∧ q.refreshInFlight = p.refreshInFlight ∧
      (cs ≠ [] → q.storage = ⟨none, none⟩) := by
  induction cs using List.reverseRecOn with
  | nil => exact ⟨rfl, rfl, fun some => absurd rfl some⟩
  | append_singleton cs c ih =>
      obtain ⟨presented, flight, -⟩ := ih fun d mem => plain d (List.mem_append_left [c] mem)
      simp only [List.foldl_append, List.foldl_cons, List.foldl_nil]
      obtain ⟨same, still⟩ := reject_frame (cs.foldl refuse p) c (some 401)
      have last : isAuthPath c.url = false := plain c (by simp)
      exact ⟨same.trans presented, still.trans flight, fun _ => reject_storage _ last⟩

/-- All that waited for a refresh are sent again. -/
theorem retried_all (access : String) (cs : List Config) (p : SessionPage User) :
    let q := cs.foldl (retry access) p
    q.presented = p.presented ∧ q.refreshInFlight = p.refreshInFlight ∧ q.storage = p.storage := by
  induction cs generalizing p with
  | nil => exact ⟨rfl, rfl, rfl⟩
  | cons c cs ih =>
      obtain ⟨presented, flight, storage⟩ := ih (retry access p c)
      exact ⟨presented.trans (presented_request p _), flight, storage⟩

namespace Single

variable {future : List String} {p q : SessionPage User}

theorem reject (h : Single future p) (c : Config) (status : Option Nat) :
    Single future (p.reject c status) := by
  obtain ⟨presented, flight⟩ := p.reject_frame c status
  obtain same | cleared := p.handleError_storage c.url status
  · exact h.of_same presented flight (congrArg LocalStorage.refreshToken same)
  · exact h.of_cleared presented (.inl flight) (congrArg LocalStorage.refreshToken cleared)

theorem await (h : Single future p) {c : Config} (plain : isAuthPath c.url = false) :
    Single future (p.awaitRefresh c) := by
  unfold awaitRefresh
  cases flight : p.refreshInFlight with
  | some r =>
      obtain ⟨-, others⟩ := h.waits r flight
      constructor
      · exact h.once
      · exact h.later
      · exact h.ahead
      · exact fun _ _ _ => rfl
      · rintro r' eq
        cases eq
        refine ⟨by simp, ?_⟩
        intro d mem
        obtain earlier | eq := List.mem_append.1 mem
        · exact others d earlier
        · exact List.mem_singleton.1 eq ▸ plain
  | none =>
      cases stored : readStoredToken p.storage.refreshToken with
      | none => exact h.reject c (some 401)
      | some rt =>
          have here : p.storage.refreshToken = some rt := readStoredToken_some stored
          have fresh : rt ∉ p.presented := by
            intro mem
            have busy := h.stored rt mem here
            rw [flight] at busy
            cases busy
          have posted : ({ p with
              refreshInFlight := some ⟨rt, [c]⟩, wire := p.wire ++ [.refresh rt] } :
                SessionPage User).presented = p.presented ++ [rt] := by
            simp [presented, Message.presented]
          constructor
          · rw [posted]
            exact List.nodup_append.2 ⟨h.once, by simp, by
              intro t mem u single
              rw [List.mem_singleton.1 single]
              exact fun eq => fresh (eq ▸ mem)⟩
          · exact h.later
          · intro t mem
            obtain ⟨unused, other⟩ := h.ahead t mem
            refine ⟨?_, other⟩
            rw [posted, List.mem_append, List.mem_singleton]
            rintro (earlier | eq)
            · exact unused earlier
            · exact other (eq ▸ here)
          · exact fun _ _ _ => rfl
          · rintro r eq
            cases eq
            exact ⟨by simp, by simpa using plain⟩

theorem answered (h : Single future p) (id : Nat) (status : Option Nat) :
    Single future (p.answered id status) := by
  unfold SessionPage.answered
  cases p.pending.find? (·.id = id) with
  | none => exact h
  | some c =>
      have taken : Single future { p with pending := p.pending.filter (·.id ≠ id) } :=
        h.of_same rfl rfl rfl
      dsimp only
      split_ifs with done refused
      · exact taken.of_same rfl rfl rfl
      · exact taken.await refused.2.2
      · exact taken.reject c status

theorem refreshed {answer : RefreshAnswer}
    (h : Single ((SessionEvent.refreshed answer : SessionEvent User).issued ++ future) p)
    (rotates : (SessionEvent.refreshed answer : SessionEvent User).Rotates) :
    Single future (p.refreshed answer) := by
  unfold SessionPage.refreshed
  cases flight : p.refreshInFlight with
  | none => exact h.skip
  | some r =>
      obtain ⟨any, plain⟩ := h.waits r flight
      have refused : Single future
          (r.waiting.foldl refuse { p with refreshInFlight := none }) := by
        obtain ⟨presented, idle, cleared⟩ := refused_all plain { p with refreshInFlight := none }
        exact h.skip.of_cleared presented (.inr idle)
          (congrArg LocalStorage.refreshToken (cleared any))
      match answer, h, rotates with
      | .failed, _, _ => exact refused
      | .body none _, _, _ => exact refused
      | .body (some access) refresh, h, rotates =>
          dsimp only
          split_ifs with empty
          · exact refused
          · obtain ⟨t, rfl⟩ : ∃ t, refresh = .some t := by
              cases refresh with
              | none => cases rotates
              | some t => exact ⟨t, rfl⟩
            obtain ⟨presented, idle, storage⟩ := retried_all access r.waiting
              (({ p with refreshInFlight := none } : SessionPage User).adopt access (some t))
            obtain ⟨before, still⟩ :=
              ({ p with refreshInFlight := none } : SessionPage User).adopt_frame access (some t)
            apply of_issued (t := t) h (presented.trans before) (.inr (idle.trans still))
            rw [storage]
            exact adopt_refreshToken _ access rotates

theorem login {payload : LoginResponse}
    (h : Single ((SessionEvent.login payload : SessionEvent User).issued ++ future) p) :
    Single future (p.dispatch (.loginFulfilled payload)) := by
  have stored : (p.dispatch (.loginFulfilled payload)).storage.refreshToken =
      persistToken payload.refreshToken := rfl
  cases given : payload.refreshToken with
  | none =>
      rw [given] at stored
      exact h.skip.of_cleared rfl (.inl rfl) stored
  | some t =>
      rw [given, persistToken] at stored
      split_ifs at stored with empty
      · simp only [SessionEvent.issued, given] at h
        exact of_issued h rfl (.inl rfl) stored
      · exact h.skip.of_cleared rfl (.inl rfl) stored

theorem next {e : SessionEvent User} (h : Single (e.issued ++ future) p) (turn : p.InTurn e) :
    Single future (p.next e) := by
  cases e with
  | send url => exact h.of_same (presented_request _ _) rfl rfl
  | answer id status => exact answered h id status
  | refreshed answer => exact refreshed h turn.1
  | login payload => exact login h
  | profilePending | profile | profileRejected => exact h.of_same rfl rfl rfl
  | logout => exact of_cleared h rfl (.inl rfl) rfl
  | load => exact h.of_same rfl (turn.2 rfl).symm rfl

theorem exec {es : List (SessionEvent User)} {p : SessionPage User}
    (h : Single (es.flatMap SessionEvent.issued) p) (along : Along InTurn SessionPage.next p es) :
    Single [] (Transition.exec SessionPage.next p es) := by
  induction es generalizing p with
  | nil => exact h
  | cons e es ih =>
      rw [List.flatMap_cons] at h
      exact ih (h.next along.1) along.2

end Single

/-- No refresh token is posted twice, however the answers to the requests of a page and the events
of its session interleave: where the server issues each token once, and the page is not loaded
anew while a refresh is in flight. -/
theorem refresh_tokens_presented_once (storage : LocalStorage) (es : List (SessionEvent User))
    (fresh : (storage.refreshToken.toList ++ es.flatMap SessionEvent.issued).Nodup)
    (turn : Along InTurn next (opened storage) es) :
    (exec next (opened storage) es).presented.Nodup := by
  have start : Single (es.flatMap SessionEvent.issued) (opened storage : SessionPage User) := by
    obtain ⟨-, later, apart⟩ := List.nodup_append.1 fresh
    constructor
    · exact List.nodup_nil
    · exact later
    · intro t mem
      refine ⟨List.not_mem_nil, ?_⟩
      intro stored
      exact apart t (by simpa [opened] using stored) t mem rfl
    · intro t mem
      cases mem
    · intro r flight
      cases flight
  exact (start.exec turn).once

/-- Two requests are refused while the first refresh runs, and one more after it. -/
def crowdedRun : List (SessionEvent Unit) :=
  [.send "/clusters", .send "/users", .answer 0 (some 401), .answer 1 (some 401),
    .refreshed (.body (some "a2") (some "r2")), .answer 0 (some 200), .send "/roles",
    .answer 2 (some 401)]

theorem crowded_tokens_presented_once :
    (exec next (opened ⟨some "a1", some "r1"⟩) crowdedRun).presented = ["r1", "r2"] ∧
      (exec next (opened ⟨some "a1", some "r1"⟩) crowdedRun).presented.Nodup :=
  ⟨by decide +kernel, refresh_tokens_presented_once ⟨some "a1", some "r1"⟩ crowdedRun (by decide)
    (by simp [crowdedRun, Along, InTurn, SessionEvent.Rotates, SessionEvent.isLoad, truthy])⟩

/-- What the slice says of the tokens is what a page that is opened now would read. -/
def Agrees (p : SessionPage User) : Prop :=
  p.user.token = readStoredToken p.storage.token ∧
    p.user.refreshToken = readStoredToken p.storage.refreshToken

/-- A text that is read back when it is stored. -/
def IsToken (t : String) : Prop := readStoredToken (some t) = some t

/-- The tokens that the page takes over in this step are read back. -/
def Readable (p : SessionPage User) : SessionEvent User → Prop
  | .login payload => IsToken payload.accessToken ∧ ∀ t ∈ payload.refreshToken, IsToken t
  | .refreshed (.body (some access) refresh) =>
      p.refreshInFlight ≠ none → access ≠ "" →
        IsToken access ∧ ∀ t ∈ refresh, t ≠ "" → IsToken t
  | _ => True

theorem readStoredToken_persistToken (v : Option String) :
    v = readStoredToken (persistToken v) ↔ ∀ t ∈ v, IsToken t := by
  cases v with
  | none => simp [persistToken, readStoredToken, truthy]
  | some t =>
      by_cases given : truthy (some t) = true
      · simp [persistToken, given, IsToken, eq_comm]
      · simp [persistToken, given, IsToken, readStoredToken]

theorem Agrees.of_same {p q : SessionPage User} (h : p.Agrees) (user : q.user = p.user)
    (storage : q.storage = p.storage) : q.Agrees := by
  unfold Agrees
  rw [user, storage]
  exact h

theorem Agrees.signedOut {p : SessionPage User} (user : p.user.token = none)
    (refresh : p.user.refreshToken = none) (storage : p.storage = ⟨none, none⟩) : p.Agrees := by
  unfold Agrees
  rw [user, refresh, storage]
  exact ⟨rfl, rfl⟩

theorem Agrees.reject {p : SessionPage User} (h : p.Agrees) (c : Config) (status : Option Nat) :
    (p.reject c status).Agrees := by
  unfold SessionPage.reject handleError
  split_ifs
  · exact h
  · exact .signedOut rfl rfl rfl
  · exact h

theorem Agrees.refused_all {p : SessionPage User} (h : p.Agrees) (cs : List Config) :
    (cs.foldl refuse p).Agrees := by
  induction cs generalizing p with
  | nil => exact h
  | cons c cs ih => exact ih (h.reject c (some 401))

theorem Agrees.answered {p : SessionPage User} (h : p.Agrees) (id : Nat) (status : Option Nat) :
    (p.answered id status).Agrees := by
  unfold SessionPage.answered
  cases p.pending.find? (·.id = id) with
  | none => exact h
  | some c =>
      have taken :
          ({ p with pending := p.pending.filter (·.id ≠ id) } : SessionPage User).Agrees := h
      dsimp only
      split_ifs
      · exact taken
      · unfold awaitRefresh
        dsimp only
        split
        · exact taken
        · split
          · exact taken.reject c (some 401)
          · exact taken
      · exact taken.reject c status

theorem user_retried_all (access : String) (cs : List Config) (p : SessionPage User) :
    (cs.foldl (retry access) p).user = p.user := by
  induction cs generalizing p with
  | nil => rfl
  | cons c cs ih => exact ih (retry access p c)

theorem agrees_adopt {p : SessionPage User} (h : p.Agrees) (access : String)
    (refresh : Option String) :
    (p.adopt access refresh).Agrees ↔ IsToken access ∧ ∀ t ∈ refresh, t ≠ "" → IsToken t := by
  have first : some access = readStoredToken (persistToken (some access)) ↔ IsToken access := by
    simpa using readStoredToken_persistToken (some access)
  by_cases named : truthy refresh = true
  · obtain ⟨t, rfl⟩ : ∃ t, refresh = some t := by
      cases refresh with
      | none => cases named
      | some t => exact ⟨t, rfl⟩
    have second : some t = readStoredToken (persistToken (some t)) ↔ IsToken t := by
      simpa using readStoredToken_persistToken (some t)
    have some : t ≠ "" := by simpa [truthy] using named
    simp only [adopt, named, if_true, dispatch, userReducer, Agrees, first, second]
    simp [some]
  · have unnamed : ∀ t ∈ refresh, t = "" := by
      rintro t rfl
      simpa [truthy] using named
    simp only [adopt, named, dispatch, userReducer, Agrees, Bool.false_eq_true, if_false, h.2,
      and_true]
    constructor
    · intro same
      exact ⟨first.1 same, fun t mem some => absurd (unnamed t mem) some⟩
    · intro tokens
      exact first.2 tokens.1

theorem agrees_refreshed {p : SessionPage User} (h : p.Agrees) (answer : RefreshAnswer) :
    (p.refreshed answer).Agrees ↔ p.Readable (.refreshed answer) := by
  unfold SessionPage.refreshed
  cases flight : p.refreshInFlight with
  | none =>
      apply iff_of_true h
      match answer with
      | .body (some _) _ => exact fun busy => absurd flight busy
      | .body none _ | .failed => trivial
  | some r =>
      have idle : ({ p with refreshInFlight := none } : SessionPage User).Agrees := h
      match answer with
      | .failed | .body none _ => exact iff_of_true (idle.refused_all r.waiting) trivial
      | .body (some access) refresh =>
          dsimp only
          split_ifs with empty
          · exact iff_of_true (idle.refused_all r.waiting) fun _ given => absurd empty given
          · have same := user_retried_all access r.waiting
              (({ p with refreshInFlight := none } : SessionPage User).adopt access refresh)
            obtain ⟨-, -, storage⟩ := retried_all access r.waiting
              (({ p with refreshInFlight := none } : SessionPage User).adopt access refresh)
            have adopted := agrees_adopt idle access refresh
            rw [Agrees, same, storage]
            apply adopted.trans
            simp [Readable, flight, empty]

theorem agrees_next {p : SessionPage User} {e : SessionEvent User} (h : p.Agrees) :
    (p.next e).Agrees ↔ p.Readable e := by
  cases e with
  | send url => exact iff_of_true h trivial
  | answer id status => exact iff_of_true (h.answered id status) trivial
  | refreshed answer => exact agrees_refreshed h answer
  | login payload =>
      have access := readStoredToken_persistToken (some payload.accessToken)
      have refresh := readStoredToken_persistToken payload.refreshToken
      simp only [Option.mem_some, forall_eq'] at access
      exact and_congr access refresh
  | profilePending | profile | profileRejected => exact iff_of_true h trivial
  | logout => exact iff_of_true (.signedOut rfl rfl rfl) trivial
  | load => exact iff_of_true ⟨rfl, rfl⟩ trivial

/-- The slice and the storage agree in every state of a run just when every token that is taken over
is a text that is read back. -/
theorem slice_agrees_iff (storage : LocalStorage) (es : List (SessionEvent User)) :
    (∀ n, (exec next (opened storage : SessionPage User) (es.take n)).Agrees) ↔
      Along Readable next (opened storage) es :=
  always_iff_along (I := fun _ => True) (fun _ => trivial) (fun _ h => agrees_next h) trivial
    ⟨rfl, rfl⟩ es

/-- No token is left, neither in the slice nor in the storage. -/
def SignedOut (p : SessionPage User) : Prop :=
  p.storage = ⟨none, none⟩ ∧ p.user.token = none ∧ p.user.refreshToken = none

theorem awaitRefresh_nothing {p : SessionPage User} (idle : p.refreshInFlight = none)
    (nothing : readStoredToken p.storage.refreshToken = none) (c : Config) :
    p.awaitRefresh c = p.refuse c := by
  unfold awaitRefresh
  rw [idle]
  dsimp only
  rw [nothing]

/-- A refresh that succeeds brings an access token, whatever became of the session. -/
theorem refreshed_token {p : SessionPage User} {r : Refresh} (flight : p.refreshInFlight = some r)
    {access : String} (given : access ≠ "") :
    (p.refreshed (.body (some access) none)).storage.token = some access := by
  unfold refreshed
  rw [flight]
  dsimp only
  obtain ⟨-, -, storage⟩ := retried_all access r.waiting
    (({ p with refreshInFlight := none } : SessionPage User).adopt access none)
  have persisted : persistToken (some access) = some access := by simp [persistToken, truthy, given]
  rw [if_neg given, storage]
  exact persisted

/-- Signed out for good: nothing is under way that brings a token. -/
structure Ended (wire : List Message) (p : SessionPage User) : Prop where
  signedOut : p.SignedOut
  idle : p.refreshInFlight = none
  since : ∃ sent, p.wire = wire ++ sent ∧ ∀ m ∈ sent, Message.Anonymous m

namespace Ended

variable {wire : List Message} {p : SessionPage User}

theorem reject (h : Ended wire p) (c : Config) (status : Option Nat) :
    Ended wire (p.reject c status) := by
  obtain ⟨same, flight⟩ := p.handleError_frame c.url status
  have signedOut : (p.reject c status).SignedOut := by
    unfold SessionPage.reject handleError
    split_ifs
    · exact h.signedOut
    · exact ⟨rfl, rfl, rfl⟩
    · exact h.signedOut
  obtain ⟨sent, appended, anonymous⟩ := h.since
  exact ⟨signedOut, flight.trans h.idle, sent, same.trans appended, anonymous⟩

theorem answered (h : Ended wire p) (id : Nat) (status : Option Nat) :
    Ended wire (p.answered id status) := by
  unfold SessionPage.answered
  cases p.pending.find? (·.id = id) with
  | none => exact h
  | some c =>
      have taken : Ended wire { p with pending := p.pending.filter (·.id ≠ id) } :=
        ⟨h.signedOut, h.idle, h.since⟩
      dsimp only
      split_ifs
      · exact ⟨h.signedOut, h.idle, h.since⟩
      · -- nothing is stored to refresh with
        have nothing : readStoredToken p.storage.refreshToken = none := by
          rw [h.signedOut.1]
          rfl
        rw [awaitRefresh_nothing taken.idle nothing]
        exact taken.reject c (some 401)
      · exact taken.reject c status

theorem send (h : Ended wire p) (url : String) : Ended wire (p.next (.send url)) := by
  obtain ⟨sent, appended, anonymous⟩ := h.since
  have plain : p.storage.intercept ⟨p.nextId, url, false, none⟩ = ⟨p.nextId, url, false, none⟩ := by
    rw [h.signedOut.1]
    rfl
  refine ⟨h.signedOut, h.idle, sent ++ [.request ⟨p.nextId, url, false, none⟩], ?_, ?_⟩
  · rw [← List.append_assoc, ← appended]
    simp only [SessionPage.next, SessionPage.request, plain]
  · intro m mem
    obtain earlier | eq := List.mem_append.1 mem
    · exact anonymous m earlier
    · rw [List.mem_singleton.1 eq]
      rfl

theorem next (h : Ended wire p) {e : SessionEvent User} (other : e.isLogin = false) :
    Ended wire (p.next e) := by
  cases e with
  | send url => exact h.send url
  | answer id status => exact h.answered id status
  | refreshed answer =>
      simp only [SessionPage.next, SessionPage.refreshed, h.idle]
      exact h
  | login payload => cases other
  | profilePending | profile | profileRejected => exact ⟨h.signedOut, h.idle, h.since⟩
  | logout => exact ⟨⟨rfl, rfl, rfl⟩, h.idle, h.since⟩
  | load =>
      have read : (p.storage.initialState : UserState User).token = none ∧
          (p.storage.initialState : UserState User).refreshToken = none := by
        rw [h.signedOut.1]
        exact ⟨rfl, rfl⟩
      exact ⟨⟨h.signedOut.1, read⟩, rfl, h.since⟩

end Ended

/-- A logout ends the session until the next login just when no refresh is in flight: no token comes
back and no request carries one. The answer to a refresh in flight brings the session back. -/
theorem logout_ends_session_iff (p : SessionPage User) :
    (∀ es : List (SessionEvent User), (∀ e ∈ es, e.isLogin = false) →
        (exec next (p.next .logout) es).SignedOut ∧
          ∃ sent, (exec next (p.next .logout) es).wire = p.wire ++ sent ∧
            ∀ m ∈ sent, Message.Anonymous m) ↔
      p.refreshInFlight = none := by
  constructor
  · intro ends
    by_contra busy
    obtain ⟨r, flight⟩ := Option.ne_none_iff_exists'.1 busy
    have late : ∀ e ∈ [(.refreshed (.body (some "a") none) : SessionEvent User)],
        e.isLogin = false := by
      simp [SessionEvent.isLogin]
    obtain ⟨⟨gone, -⟩, -⟩ := ends _ late
    have back : ((p.next .logout).refreshed (.body (some "a") none)).storage.token = some "a" :=
      refreshed_token (p := p.next .logout) flight (by decide)
    have none := congrArg LocalStorage.token gone
    rw [exec_cons, exec_nil, SessionPage.next, back] at none
    cases none
  · intro idle es others
    have ended : Ended p.wire (p.next .logout) :=
      ⟨⟨rfl, rfl, rfl⟩, idle, [], (List.append_nil _).symm, by simp⟩
    suffices Ended p.wire (exec SessionPage.next (p.next .logout) es) from
      ⟨this.signedOut, this.since⟩
    generalize p.next .logout = q at ended ⊢
    induction es generalizing q with
    | nil => exact ended
    | cons e es ih =>
        apply ih (fun d mem => others d (List.mem_cons_of_mem e mem))
        exact ended.next (others e List.mem_cons_self)

end SessionPage

end K8sPlatform.Frontend
