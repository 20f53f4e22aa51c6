import K8sPlatform.Lib.Transition
import K8sPlatform.Auth.Service
import K8sPlatform.Websocket.Handshake

/-! # The calls that take a token, step by step -/

namespace K8sPlatform.Auth

/-- Where a token is presented. A logout brings its access token through `AuthMiddleware`. -/
inductive Entry
  | refresh (ids : Service.TokenIds)
  | request
  | handshake
  | logout (refreshToken : String)

def Entry.wants : Entry → TokenType
  | .refresh _ => refreshTokenType
  | .request | .handshake | .logout _ => accessTokenType

/-- What a call goes on with when its `RevokeClaims` has returned. -/
inductive Purpose
  | rotation (result : LoginResult)
  | logout (refreshToken : String)
  | logoutRefresh

/-- Where a call is between its steps. `late` says whether the token had been revoked when the call
parsed it. -/
inductive TokenCall
  | idle
  | parsed (entry : Entry) (claims : CustomClaims) (late : Bool)
  | accepted (ids : Service.TokenIds) (claims : CustomClaims)
  | known (ids : Service.TokenIds) (claims : CustomClaims) (user : SysUser)
  | issued (ids : Service.TokenIds) (claims : CustomClaims) (user : SysUser) (accessToken : String)
  | revoking (claims : CustomClaims) (purpose : Purpose)
  | writing (claims : CustomClaims) (ttl : Nat) (purpose : Purpose)
  | leaving (refreshToken : String)

/-- A token that got past the checks of a call, and whether the call was late. -/
structure Acceptance where
  entry : Entry
  claims : CustomClaims
  late : Bool

/-- The world and the calls in progress, with what has happened: the ids of the tokens for which
`RevokeClaims` has returned, the tokens accepted, and those for which `Refresh` has returned a new
pair. -/
structure TokenCalls where
  world : World
  calls : Nat → TokenCall
  revoked : List String
  passed : List Acceptance
  answers : List (CustomClaims × LoginResult)

def TokenCalls.start (w : World) : TokenCalls :=
  ⟨{ w with denied := fun _ => none }, fun _ => .idle, [], [], []⟩

/-- `present` parses the token of a call, and `advance` is its next step. Redis drops a key no
earlier than its time, and other requests change the tables and the cached trees. -/
inductive TokenStep
  | wait (duration : Nat)
  | expire (jti : String)
  | elsewhere (db : Database) (cache : Nat → Option (PermissionTree × Nat))
  | login (username password : String) (ids : Service.TokenIds)
  | present (call : Nat) (entry : Entry) (token : String)
  | advance (call : Nat)

namespace TokenCalls

def setCall (t : TokenCalls) (call : Nat) (c : TokenCall) : TokenCalls :=
  { t with calls := Function.update t.calls call c }

/-- `EXISTS` of the token's deny key. -/
def denies (t : TokenCalls) (claims : CustomClaims) : Bool :=
  claims.id != "" && (t.world.denied claims.id).isSome

/-- `RevokeClaims` has returned. -/
def finish (t : TokenCalls) (call : Nat) (claims : CustomClaims) : Purpose → TokenCalls
  | .rotation result =>
      { t with
        revoked := claims.id :: t.revoked
        answers := t.answers ++ [(claims, result)] }.setCall call .idle
  | .logout refreshToken =>
      { t with revoked := claims.id :: t.revoked }.setCall call (.leaving refreshToken)
  | .logoutRefresh => { t with revoked := claims.id :: t.revoked }.setCall call .idle

/-- `SET` of the token's deny key. -/
def deny (t : TokenCalls) (claims : CustomClaims) (ttl : Nat) : TokenCalls :=
  { t with
    world := { t.world with
      denied := fun jti =>
        if jti = claims.id then some (t.world.now + ttl) else t.world.denied jti } }

/-- A call whose token is not on the deny list goes on. -/
def pass (t : TokenCalls) (call : Nat) (entry : Entry) (claims : CustomClaims) (late : Bool) :
    TokenCalls :=
  { t with passed := ⟨entry, claims, late⟩ :: t.passed }.setCall call
    (match entry with
    | .refresh ids => .accepted ids claims
    | .logout refreshToken => .revoking claims (.logout refreshToken)
    | .request | .handshake => .idle)

variable (s : Service)

def advance (t : TokenCalls) (call : Nat) : TokenCalls :=
  match t.calls call with
  | .idle => t
  | .parsed entry claims late =>
      if t.denies claims then t.setCall call .idle else t.pass call entry claims late
  | .accepted ids claims =>
      match t.world.db.findUser claims.userId with
      | none => t.setCall call .idle
      | some user =>
          if user.status ≠ userStatusEnabled then t.setCall call .idle
          else t.setCall call (.known ids claims user)
  | .known ids claims user =>
      t.setCall call (.issued ids claims user
        (s.jwt.issueAccessToken t.world.now ids.access user.id user.username claims.scopes))
  | .issued ids claims user accessToken =>
      t.setCall call (.revoking claims (.rotation (s.loginResult user accessToken
        (s.jwt.issueRefreshToken t.world.now ids.refresh user.id user.username claims.scopes))))
  | .revoking claims purpose =>
      match claims.id != "", s.denyTTL t.world claims with
      | true, some ttl => t.setCall call (.writing claims ttl purpose)
      | _, _ => t.finish call claims purpose
  | .writing claims ttl purpose => (t.deny claims ttl).finish call claims purpose
  | .leaving refreshToken =>
      if Text.trimSpace refreshToken = "" then t.setCall call .idle
      else
        match s.jwt.parseToken t.world.now refreshToken with
        | .error _ => t.setCall call .idle
        | .ok claims =>
            if claims.type ≠ refreshTokenType then t.setCall call .idle
            else t.setCall call (.revoking claims .logoutRefresh)

def next (t : TokenCalls) : TokenStep → TokenCalls
  | .wait duration => { t with world := { t.world with now := t.world.now + duration } }
  | .expire jti =>
    match t.world.denied jti with
    | some deadline =>
        if deadline ≤ t.world.now then
          { t with world := { t.world with denied := Function.update t.world.denied jti none } }
        else t
    | none => t
  | .elsewhere db cache => { t with world := { t.world with db := db, cache := cache } }
  | .login .. => t
  | .present call entry token =>
    match t.calls call, s.jwt.parseToken t.world.now token with
    | .idle, .ok claims =>
        if claims.type ≠ entry.wants then t
        else t.setCall call (.parsed entry claims (claims.id ∈ t.revoked))
    | _, _ => t
  | .advance call => t.advance s call

/-! ## A call alone -/

/-- Redis holds no key beyond its time. -/
def NothingOverdue (t : TokenCalls) : Prop :=
  ∀ jti deadline, t.world.denied jti = some deadline → t.world.now < deadline

theorem denies_eq {t : TokenCalls} (timely : t.NothingOverdue) (claims : CustomClaims) :
    t.denies claims = Service.isRevoked t.world healthy claims := by
  unfold denies Service.isRevoked
  cases kept : t.world.denied claims.id with
  | none => simp
  | some deadline => simp [healthy, timely _ _ kept]

variable {s} {t : TokenCalls} {call : Nat}

section SetCall

variable (t : TokenCalls) (call : Nat) (c c' : TokenCall)

@[simp] theorem setCall_self : (t.setCall call c).calls call = c := Function.update_self _ _ _

theorem setCall_of_ne {t : TokenCalls} {call other : Nat} {c : TokenCall} (ne : other ≠ call) :
    (t.setCall call c).calls other = t.calls other := Function.update_of_ne ne ..

@[simp] theorem setCall_setCall : (t.setCall call c).setCall call c' = t.setCall call c' := by
  simp [setCall]

@[simp] theorem setCall_world : (t.setCall call c).world = t.world := rfl

@[simp] theorem setCall_revoked : (t.setCall call c).revoked = t.revoked := rfl

@[simp] theorem setCall_passed : (t.setCall call c).passed = t.passed := rfl

@[simp] theorem setCall_answers : (t.setCall call c).answers = t.answers := rfl

@[simp] theorem setCall_denies (claims : CustomClaims) :
    (t.setCall call c).denies claims = t.denies claims := rfl

end SetCall

theorem advance_idle (free : t.calls call = .idle) : t.advance s call = t := by
  unfold advance
  rw [free]

theorem exec_advance (s : Service) (t : TokenCalls) (call n : Nat) :
    Transition.exec (next s) t (List.replicate (n + 1) (.advance call)) =
      Transition.exec (next s) (t.advance s call) (List.replicate n (.advance call)) := rfl

theorem exec_idle (free : t.calls call = .idle) (n : Nat) :
    Transition.exec (next s) t (List.replicate n (.advance call)) = t := by
  induction n with
  | zero => rfl
  | succ n ih =>
      rw [exec_advance, advance_idle free]
      exact ih

/-- Without anything in between, the steps of a `RevokeClaims` are those of `revokeClaims`. -/
theorem exec_revoking {claims : CustomClaims} {purpose : Purpose}
    (revoking : t.calls call = .revoking claims purpose) :
    ∃ n ≤ 2, 0 < n ∧ Transition.exec (next s) t (List.replicate n (.advance call)) =
      ({ t with world := s.revokeClaims t.world healthy claims } : TokenCalls).finish call claims
        purpose := by
  unfold Service.revokeClaims
  cases named : claims.id != "" with
  | false =>
      refine ⟨1, by omega, by omega, ?_⟩
      simp [next, advance, revoking, named]
  | true =>
      cases remaining : s.denyTTL t.world claims with
      | none =>
          refine ⟨1, by omega, by omega, ?_⟩
          simp [next, advance, revoking, named, remaining, healthy]
      | some ttl =>
          refine ⟨2, by omega, by omega, ?_⟩
          cases purpose <;>
            simp [next, advance, revoking, named, remaining, healthy, deny, finish, setCall]

/-- Without anything in between, the steps of a refresh are those of `refresh`. -/
theorem refresh_alone (timely : t.NothingOverdue) (free : t.calls call = .idle) (token : String)
    (ids : Service.TokenIds) :
    let after := Transition.exec (next s) t
      (.present call (.refresh ids) token :: List.replicate 6 (.advance call))
    after.world = (s.refresh t.world healthy token ids).2 ∧ after.calls call = .idle ∧
      after.answers.map Prod.snd =
        t.answers.map Prod.snd ++ (s.refresh t.world healthy token ids).1.toOption.toList := by
  dsimp only
  rw [Transition.exec_cons]
  unfold Service.refresh
  cases parsed : s.jwt.parseToken t.world.now token with
  | error err =>
      have stays : t.next s (.present call (.refresh ids) token) = t := by
        simp [next, free, parsed]
      rw [stays, exec_idle free]
      simp [free, Except.toOption]
  | ok claims =>
  by_cases wanted : claims.type = refreshTokenType
  swap
  · have stays : t.next s (.present call (.refresh ids) token) = t := by
      simp [next, free, parsed, Entry.wants, wanted]
    rw [stays, exec_idle free]
    simp [free, wanted, Except.toOption]
  have begun : t.next s (.present call (.refresh ids) token) =
      t.setCall call (.parsed (.refresh ids) claims (claims.id ∈ t.revoked)) := by
    simp [next, free, parsed, Entry.wants, wanted]
  rw [begun, exec_advance]
  simp only [wanted, ne_eq, not_true_eq_false, if_false, ← denies_eq timely]
  cases revoked : t.denies claims with
  | true =>
      have refused : (t.setCall call (.parsed (.refresh ids) claims
          (claims.id ∈ t.revoked))).advance s call = t.setCall call .idle := by
        simp [advance, revoked]
      rw [refused, exec_idle (setCall_self ..)]
      simp [Except.toOption]
  | false =>
  let t' : TokenCalls :=
    { t with passed := ⟨.refresh ids, claims, claims.id ∈ t.revoked⟩ :: t.passed }
  have accepted : (t.setCall call (.parsed (.refresh ids) claims
      (claims.id ∈ t.revoked))).advance s call = t'.setCall call (.accepted ids claims) := by
    simp only [advance, setCall_self, setCall_denies, revoked]
    simp [pass, t', setCall]
  rw [accepted, exec_advance]
  cases found : t.world.db.findUser claims.userId with
  | none =>
      have refused : (t'.setCall call (.accepted ids claims)).advance s call =
          t'.setCall call .idle := by
        simp [advance, found, t']
      rw [refused, exec_idle (setCall_self ..)]
      simp [healthy, Except.toOption, t']
  | some user =>
  by_cases enabled : user.status = userStatusEnabled
  swap
  · have refused : (t'.setCall call (.accepted ids claims)).advance s call =
        t'.setCall call .idle := by
      simp [advance, found, enabled, t']
    rw [refused, exec_idle (setCall_self ..)]
    simp [enabled, healthy, Except.toOption, t']
  let result := s.loginResult user
    (s.jwt.issueAccessToken t.world.now ids.access user.id user.username claims.scopes)
    (s.jwt.issueRefreshToken t.world.now ids.refresh user.id user.username claims.scopes)
  have issued : Transition.exec (next s) ((t'.setCall call (.accepted ids claims)).advance s call)
      (List.replicate 2 (.advance call)) =
        t'.setCall call (.revoking claims (.rotation result)) := by
    simp [List.replicate_succ, next, advance, found, enabled, result, t']
  obtain ⟨n, le, -, revoked⟩ := exec_revoking (s := s)
    (setCall_self t' call (.revoking claims (.rotation result)))
  have split : 4 = 2 + (n + (2 - n)) := by omega
  rw [split, ← List.replicate_append_replicate, ← List.replicate_append_replicate,
    Transition.exec_append, Transition.exec_append, issued, revoked, exec_idle (by simp [finish])]
  simp [finish, setCall, enabled, healthy, Except.toOption, result, t']

/-- The second half of a logout, which revokes the refresh token that the request brought. -/
theorem exec_leaving {refreshToken : String} (leaving : t.calls call = .leaving refreshToken) :
    ∃ n ≤ 3,
      let after := Transition.exec (next s) t (List.replicate n (.advance call))
      after.calls call = .idle ∧ after.world =
        if Text.trimSpace refreshToken = "" then t.world
        else
          match s.jwt.parseToken t.world.now refreshToken with
          | .error _ => t.world
          | .ok claims =>
              if claims.type ≠ refreshTokenType then t.world
              else s.revokeClaims t.world healthy claims := by
  by_cases blank : Text.trimSpace refreshToken = ""
  · refine ⟨1, by omega, ?_⟩
    simp [next, advance, leaving, blank]
  cases parsed : s.jwt.parseToken t.world.now refreshToken with
  | error err =>
      refine ⟨1, by omega, ?_⟩
      simp [next, advance, leaving, blank, parsed]
  | ok claims =>
  by_cases wanted : claims.type = refreshTokenType
  swap
  · refine ⟨1, by omega, ?_⟩
    simp [next, advance, leaving, blank, parsed, wanted]
  have begun : t.advance s call = t.setCall call (.revoking claims .logoutRefresh) := by
    simp [advance, leaving, blank, parsed, wanted]
  obtain ⟨n, le, -, revoked⟩ := exec_revoking (s := s)
    (setCall_self t call (.revoking claims .logoutRefresh))
  refine ⟨n + 1, by omega, ?_⟩
  rw [exec_advance, begun, revoked]
  simp [finish, setCall, blank, wanted]

/-- Without anything in between, the steps of a request to the logout route are those of
`authMiddleware` and `logout`. -/
theorem logout_alone (timely : t.NothingOverdue) (free : t.calls call = .idle) {authHeader : String}
    {token : String} (extracted : extractToken authHeader = .ok token) (refreshToken : String) :
    let after := Transition.exec (next s) t
      (.present call (.logout refreshToken) token :: List.replicate 6 (.advance call))
    after.calls call = .idle ∧ after.world =
      match s.authMiddleware t.world healthy authHeader with
      | .error _ => t.world
      | .ok access => s.logout t.world healthy access refreshToken := by
  dsimp only
  rw [Transition.exec_cons]
  unfold Service.authMiddleware
  rw [extracted]
  dsimp only
  cases parsed : s.jwt.parseToken t.world.now token with
  | error err =>
      have stays : t.next s (.present call (.logout refreshToken) token) = t := by
        simp [next, free, parsed]
      rw [stays, exec_idle free]
      cases err <;> exact ⟨free, rfl⟩
  | ok claims =>
  by_cases wanted : claims.type = accessTokenType
  swap
  · have stays : t.next s (.present call (.logout refreshToken) token) = t := by
      simp [next, free, parsed, Entry.wants, wanted]
    rw [stays, exec_idle free]
    simp [free, wanted]
  have begun : t.next s (.present call (.logout refreshToken) token) =
      t.setCall call (.parsed (.logout refreshToken) claims (claims.id ∈ t.revoked)) := by
    simp [next, free, parsed, Entry.wants, wanted]
  rw [begun, exec_advance]
  simp only [wanted, ne_eq, not_true_eq_false, if_false, ← denies_eq timely]
  cases revoked : t.denies claims with
  | true =>
      have refused : (t.setCall call (.parsed (.logout refreshToken) claims
          (claims.id ∈ t.revoked))).advance s call = t.setCall call .idle := by
        simp [advance, revoked]
      rw [refused, exec_idle (setCall_self ..)]
      simp
  | false =>
  let t' : TokenCalls :=
    { t with passed := ⟨.logout refreshToken, claims, claims.id ∈ t.revoked⟩ :: t.passed }
  have accepted : (t.setCall call (.parsed (.logout refreshToken) claims
      (claims.id ∈ t.revoked))).advance s call =
        t'.setCall call (.revoking claims (.logout refreshToken)) := by
    simp only [advance, setCall_self, setCall_denies, revoked]
    simp [pass, t', setCall]
  rw [accepted]
  obtain ⟨n, le, -, first⟩ := exec_revoking (s := s)
    (setCall_self t' call (.revoking claims (.logout refreshToken)))
  obtain ⟨m, le', free', world'⟩ := exec_leaving (s := s)
    (setCall_self ({ t' with
      world := s.revokeClaims t.world healthy claims
      revoked := claims.id :: t.revoked } : TokenCalls) call (.leaving refreshToken))
  have split : 5 = n + (m + (5 - n - m)) := by omega
  rw [split, ← List.replicate_append_replicate, ← List.replicate_append_replicate,
    Transition.exec_append, Transition.exec_append, first]
  have same : ({ t'.setCall call (.revoking claims (.logout refreshToken)) with
      world := s.revokeClaims t.world healthy claims } : TokenCalls).finish call claims
        (.logout refreshToken) = setCall { t' with
          world := s.revokeClaims t.world healthy claims
          revoked := claims.id :: t.revoked } call (.leaving refreshToken) := by
    simp [finish, setCall, t']
  rw [setCall_world, same, exec_idle free']
  refine ⟨free', world'.trans ?_⟩
  have clock : (s.revokeClaims t.world healthy claims).now = t.world.now := by
    unfold Service.revokeClaims
    split <;> rfl
  simp only [setCall_world, clock, Service.logout]
  rfl

/-- Without anything in between, a call goes on with a token that parses, is of its type and is not
revoked. -/
theorem check_alone (timely : t.NothingOverdue) (free : t.calls call = .idle) (entry : Entry)
    (token : String) :
    (Transition.exec (next s) t [.present call entry token, .advance call]).passed =
      match s.jwt.parseToken t.world.now token with
      | .error _ => t.passed
      | .ok claims =>
          if claims.type = entry.wants ∧ Service.isRevoked t.world healthy claims = false then
            ⟨entry, claims, claims.id ∈ t.revoked⟩ :: t.passed
          else t.passed := by
  cases parsed : s.jwt.parseToken t.world.now token with
  | error err => simp [next, free, parsed, advance]
  | ok claims =>
  by_cases wanted : claims.type = entry.wants
  · dsimp only
    rw [← denies_eq timely]
    have begun : t.next s (.present call entry token) =
        t.setCall call (.parsed entry claims (claims.id ∈ t.revoked)) := by
      simp [next, free, parsed, wanted]
    rw [Transition.exec_cons, begun]
    cases revoked : t.denies claims with
    | true => simp [next, advance, revoked]
    | false =>
        simp only [Transition.exec_cons, Transition.exec_nil, next, advance, setCall_self,
          setCall_denies, revoked]
        simp [pass, setCall, wanted]
  · simp [next, free, parsed, wanted, advance]

/-- The check of a request is that of `authMiddleware`. -/
theorem request_alone (timely : t.NothingOverdue) (free : t.calls call = .idle)
    {authHeader token : String} (extracted : extractToken authHeader = .ok token) :
    (Transition.exec (next s) t [.present call .request token, .advance call]).passed =
      match s.authMiddleware t.world healthy authHeader with
      | .error _ => t.passed
      | .ok claims => ⟨.request, claims, claims.id ∈ t.revoked⟩ :: t.passed := by
  rw [check_alone timely free, Service.authMiddleware, extracted]
  dsimp only
  cases parsed : s.jwt.parseToken t.world.now token with
  | error err => cases err <;> rfl
  | ok claims =>
      by_cases wanted : claims.type = accessTokenType
      · cases revoked : Service.isRevoked t.world healthy claims <;>
          simp [Entry.wants, wanted, revoked]
      · simp [Entry.wants, wanted]

/-- What the handshake accepts has passed its check. -/
theorem handshake_alone (timely : t.NothingOverdue) (free : t.calls call = .idle)
    {r : Websocket.Handshake} {allowOrigins : List String} {userId : Nat} {pt : PermissionTree}
    {w : World}
    (accepts : Websocket.wsHandler s allowOrigins t.world healthy r = (.accepted userId pt, w)) :
    ∃ claims, claims.userId = userId ∧
      (Transition.exec (next s) t
        [.present call .handshake (Websocket.extractWSToken r), .advance call]).passed =
          ⟨.handshake, claims, claims.id ∈ t.revoked⟩ :: t.passed := by
  rw [check_alone timely free]
  unfold Websocket.wsHandler at accepts
  by_cases empty : Websocket.extractWSToken r = ""
  · simp [empty] at accepts
  simp only [empty, if_false] at accepts
  cases parsed : s.jwt.parseToken t.world.now (Websocket.extractWSToken r) with
  | error err =>
      rw [parsed] at accepts
      cases err <;> simp at accepts
  | ok claims =>
      rw [parsed] at accepts
      by_cases wanted : claims.type = accessTokenType
      swap
      · simp [wanted] at accepts
      cases revoked : Service.isRevoked t.world healthy claims with
      | true => simp [wanted, revoked] at accepts
      | false =>
          simp only [wanted, revoked, ne_eq, not_true_eq_false, if_false, Bool.false_eq_true]
            at accepts
          split at accepts
          · simp at accepts
          · split_ifs at accepts
            · simp only [Prod.mk.injEq, Websocket.Answer.accepted.injEq] at accepts
              exact ⟨claims, accepts.1.1, if_pos ⟨wanted, revoked⟩⟩
            · simp at accepts

end TokenCalls

end K8sPlatform.Auth
