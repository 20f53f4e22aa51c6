import K8sPlatform.Auth.TokenCalls

/-! # A revoked token stays rejected -/

namespace K8sPlatform.Auth

/-- The claims of a token that verifies. -/
def JWTManager.Genuine (m : JWTManager) (claims : CustomClaims) : Prop :=
  ∃ token, m.verify token = some claims

/-- At this time the token no longer parses. -/
def CustomClaims.ExpiredBy (claims : CustomClaims) (now : Nat) : Prop :=
  ∃ t ∈ claims.expiresAt, t ≤ now

theorem CustomClaims.ExpiredBy.mono {claims : CustomClaims} {now now' : Nat}
    (h : claims.ExpiredBy now) (le : now ≤ now') : claims.ExpiredBy now' := by
  obtain ⟨t, mem, ends⟩ := h
  exact ⟨t, mem, ends.trans le⟩

namespace TokenCalls

/-- No call that came after the revocation of its token had it accepted. -/
def StaysRejected (t : TokenCalls) : Prop := ∀ a ∈ t.passed, a.late = false

/-- A late call reaches its `EXISTS` while its token is still in force, or while Redis still has
the key. -/
def Punctual (t : TokenCalls) : TokenStep → Prop
  | .advance call => ∀ entry claims, t.calls call = .parsed entry claims true →
      ¬claims.ExpiredBy t.world.now ∨ (t.world.denied claims.id).isSome
  | _ => True

/-- The claims in a call's hands come from a token that verifies, and the key it is about to write
will outlive the token. -/
def Sound (s : Service) (t : TokenCalls) : TokenCall → Prop
  | .idle | .leaving _ => True
  | .parsed _ claims late => s.jwt.Genuine claims ∧ (late = true → claims.id ∈ t.revoked)
  | .accepted _ claims | .known _ claims _ | .issued _ claims _ _ | .revoking claims _ =>
      s.jwt.Genuine claims
  | .writing claims ttl _ => s.jwt.Genuine claims ∧ claims.ExpiredBy (t.world.now + ttl)

structure Inv (s : Service) (t : TokenCalls) : Prop where
  sound : ∀ call, t.Sound s (t.calls call)
  outlives : ∀ claims, s.jwt.Genuine claims → ∀ deadline,
    t.world.denied claims.id = some deadline → claims.ExpiredBy deadline
  kept : ∀ claims, s.jwt.Genuine claims → claims.id ∈ t.revoked →
    claims.ExpiredBy t.world.now ∨ (t.world.denied claims.id).isSome

variable {s : Service} {t : TokenCalls} {call : Nat}

theorem genuine_id (ideal : s.jwt.Ideal) {claims : CustomClaims} (genuine : s.jwt.Genuine claims) :
    (claims.id != "") = true := by
  obtain ⟨token, verified⟩ := genuine
  obtain ⟨now, jti, userId, username, scopes, tokenType, ttl, named, rfl⟩ := ideal.signed verified
  simpa [JWTManager.newClaims] using named

theorem genuine_expires (ideal : s.jwt.Ideal) {claims : CustomClaims}
    (genuine : s.jwt.Genuine claims) : ∃ t, claims.expiresAt = some t := by
  obtain ⟨token, verified⟩ := genuine
  obtain ⟨now, jti, userId, username, scopes, tokenType, ttl, named, rfl⟩ := ideal.signed verified
  exact ⟨_, rfl⟩

theorem genuine_unique (ideal : s.jwt.Ideal) {claims claims' : CustomClaims}
    (genuine : s.jwt.Genuine claims) (genuine' : s.jwt.Genuine claims')
    (same : claims'.id = claims.id) : claims' = claims := by
  obtain ⟨token, verified⟩ := genuine
  obtain ⟨token', verified'⟩ := genuine'
  exact ideal.unique verified' verified same

theorem parseToken_genuine {now : Nat} {token : String} {claims : CustomClaims}
    (parsed : s.jwt.parseToken now token = .ok claims) : s.jwt.Genuine claims :=
  ⟨token, (parseToken_ok.1 parsed).1⟩

/-! ## What each step keeps -/

/-- A call's own facts outlast the clock and the growth of what is revoked. -/
theorem Sound.mono {t t' : TokenCalls} {c : TokenCall} (h : t.Sound s c)
    (clock : t.world.now ≤ t'.world.now) (grows : t.revoked ⊆ t'.revoked) : t'.Sound s c := by
  cases c with
  | parsed entry claims late => exact ⟨h.1, fun was => grows (h.2 was)⟩
  | writing claims ttl purpose => exact ⟨h.1, h.2.mono (by omega)⟩
  | idle | leaving | accepted | known | issued | revoking => exact h

theorem Inv.start (w : World) : (start w).Inv s where
  sound _ := trivial
  outlives _ _ _ kept := by cases kept
  kept _ _ revoked := absurd revoked List.not_mem_nil

theorem Inv.setCall (inv : t.Inv s) {c : TokenCall} (sound : t.Sound s c) :
    (t.setCall call c).Inv s where
  sound other := by
    by_cases same : other = call
    · subst same
      rw [setCall_self]
      exact sound.mono le_rfl fun _ => id
    · rw [setCall_of_ne same]
      exact (inv.sound other).mono le_rfl fun _ => id
  outlives := inv.outlives
  kept := inv.kept

theorem Inv.wait (inv : t.Inv s) (duration : Nat) : (t.next s (.wait duration)).Inv s where
  sound call := (inv.sound call).mono (Nat.le_add_right ..) fun _ => id
  outlives := inv.outlives
  kept claims genuine revoked :=
    (inv.kept claims genuine revoked).imp_left fun ends => ends.mono (Nat.le_add_right ..)

/-- A key that Redis may drop has outlived its token. -/
theorem Inv.expire (inv : t.Inv s) (jti : String) : (t.next s (.expire jti)).Inv s := by
  unfold TokenCalls.next
  dsimp only
  split
  case h_2 => exact inv
  case h_1 deadline held =>
  split_ifs with due
  swap
  · exact inv
  constructor
  case sound => exact fun call => (inv.sound call).mono le_rfl fun _ => id
  case outlives =>
    intro claims genuine deadline' held'
    by_cases same : claims.id = jti
    · simp [same] at held'
    · exact inv.outlives claims genuine deadline' (by simpa [same] using held')
  case kept =>
    intro claims genuine revoked
    by_cases same : claims.id = jti
    · exact .inl ((inv.outlives claims genuine deadline (same ▸ held)).mono due)
    · simpa [same] using inv.kept claims genuine revoked

theorem Inv.deny (ideal : s.jwt.Ideal) (inv : t.Inv s) {claims : CustomClaims} {ttl : Nat}
    (genuine : s.jwt.Genuine claims) (ends : claims.ExpiredBy (t.world.now + ttl)) :
    (t.deny claims ttl).Inv s where
  sound call := (inv.sound call).mono le_rfl fun _ => id
  outlives claims' genuine' deadline held := by
    by_cases same : claims'.id = claims.id
    · obtain rfl := genuine_unique ideal genuine genuine' same
      have : t.world.now + ttl = deadline := by simpa [TokenCalls.deny] using held
      exact this ▸ ends
    · exact inv.outlives claims' genuine' deadline (by simpa [TokenCalls.deny, same] using held)
  kept claims' genuine' revoked := by
    by_cases same : claims'.id = claims.id
    · exact .inr (by simp [TokenCalls.deny, same])
    · simpa [TokenCalls.deny, same] using inv.kept claims' genuine' revoked

/-- `RevokeClaims` returns with its key in Redis, or when the token has expired. -/
theorem Inv.finish (ideal : s.jwt.Ideal) (inv : t.Inv s) {claims : CustomClaims}
    (genuine : s.jwt.Genuine claims)
    (done : claims.ExpiredBy t.world.now ∨ (t.world.denied claims.id).isSome) (purpose : Purpose) :
    (t.finish call claims purpose).Inv s := by
  have grown (answers : List (CustomClaims × LoginResult)) :
      ({ t with revoked := claims.id :: t.revoked, answers := answers } : TokenCalls).Inv s := by
    constructor
    case sound => exact fun call => (inv.sound call).mono le_rfl (List.subset_cons_self ..)
    case outlives => exact inv.outlives
    case kept =>
      intro claims' genuine' revoked
      rcases List.mem_cons.1 revoked with same | before
      · obtain rfl := genuine_unique ideal genuine genuine' same
        exact done
      · exact inv.kept claims' genuine' before
  cases purpose with
  | rotation result => exact (grown _).setCall trivial
  | logout refreshToken => exact (grown _).setCall trivial
  | logoutRefresh => exact (grown _).setCall trivial

theorem Inv.pass (inv : t.Inv s) {entry : Entry} {claims : CustomClaims} {late : Bool}
    (genuine : s.jwt.Genuine claims) : (t.pass call entry claims late).Inv s := by
  have recorded :
      ({ t with passed := ⟨entry, claims, late⟩ :: t.passed } : TokenCalls).Inv s :=
    ⟨inv.sound, inv.outlives, inv.kept⟩
  cases entry with
  | refresh | logout => exact recorded.setCall genuine
  | request | handshake => exact recorded.setCall trivial

theorem Inv.advance (ideal : s.jwt.Ideal) (inv : t.Inv s) (call : Nat) :
    (t.advance s call).Inv s := by
  have sound := inv.sound call
  unfold TokenCalls.advance
  cases phase : t.calls call with
  | idle => exact inv
  | parsed entry claims late =>
      rw [phase] at sound
      dsimp only
      split_ifs
      · exact inv.setCall trivial
      · exact inv.pass sound.1
  | accepted ids claims =>
      rw [phase] at sound
      dsimp only
      split
      · exact inv.setCall trivial
      · split_ifs
        · exact inv.setCall trivial
        · exact inv.setCall sound
  | known ids claims user =>
      rw [phase] at sound
      exact inv.setCall sound
  | issued ids claims user accessToken =>
      rw [phase] at sound
      exact inv.setCall sound
  | revoking claims purpose =>
      rw [phase] at sound
      obtain ⟨expiry, expires⟩ := genuine_expires ideal sound
      dsimp only
      rw [genuine_id ideal sound, Service.denyTTL, expires]
      dsimp only
      by_cases ahead : t.world.now < expiry
      · rw [if_pos ahead]
        exact inv.setCall ⟨sound, expiry, expires, by omega⟩
      · rw [if_neg ahead]
        exact inv.finish ideal sound (.inl ⟨expiry, expires, by omega⟩) purpose
  | writing claims ttl purpose =>
      rw [phase] at sound
      have written : ((t.deny claims ttl).world.denied claims.id).isSome := by
        simp [TokenCalls.deny]
      exact (inv.deny ideal sound.1 sound.2).finish ideal sound.1 (.inr written) purpose
  | leaving refreshToken =>
      dsimp only
      split_ifs
      · exact inv.setCall trivial
      split
      · exact inv.setCall trivial
      case h_2 claims parsed =>
        split_ifs
        · exact inv.setCall trivial
        · exact inv.setCall (parseToken_genuine parsed)

theorem Inv.next (ideal : s.jwt.Ideal) (inv : t.Inv s) (e : TokenStep) : (t.next s e).Inv s := by
  cases e with
  | wait duration => exact inv.wait duration
  | expire jti => exact inv.expire jti
  | elsewhere db cache => exact ⟨fun call => (inv.sound call).mono le_rfl fun _ => id,
      inv.outlives, inv.kept⟩
  | login => exact inv
  | present call entry token =>
      unfold TokenCalls.next
      dsimp only
      split
      case h_2 => exact inv
      case h_1 claims _ parsed =>
        split_ifs
        · exact inv
        · exact inv.setCall ⟨parseToken_genuine parsed, by simp⟩
  | advance call => exact inv.advance ideal call

theorem mem_pass {entry : Entry} {claims : CustomClaims} {late : Bool} {a : Acceptance} :
    a ∈ (t.pass call entry claims late).passed ↔ a = ⟨entry, claims, late⟩ ∨ a ∈ t.passed :=
  List.mem_cons

@[simp] theorem finish_passed (claims : CustomClaims) (purpose : Purpose) :
    (t.finish call claims purpose).passed = t.passed := by
  cases purpose <;> rfl

/-- Only the check of a call adds to what has been accepted. -/
theorem advance_passed (s : Service) (t : TokenCalls) (call : Nat) :
    (t.advance s call).passed = t.passed ∨
      ∃ entry claims late, t.calls call = .parsed entry claims late ∧
        t.denies claims = false ∧ t.advance s call = t.pass call entry claims late := by
  unfold advance
  cases phase : t.calls call with
  | idle | known | issued => exact .inl rfl
  | parsed entry claims late =>
      dsimp only
      cases denied : t.denies claims with
      | true => exact .inl rfl
      | false => exact .inr ⟨entry, claims, late, rfl, denied, rfl⟩
  | accepted ids claims =>
      dsimp only
      split
      · exact .inl rfl
      · split_ifs <;> exact .inl rfl
  | revoking claims purpose =>
      dsimp only
      split
      · exact .inl rfl
      · exact .inl (finish_passed ..)
  | writing claims ttl purpose => exact .inl (finish_passed ..)
  | leaving refreshToken =>
      dsimp only
      split_ifs
      · exact .inl rfl
      split
      · exact .inl rfl
      · split_ifs <;> exact .inl rfl

theorem next_passed (e : TokenStep) (other : ∀ call, e ≠ .advance call) :
    (t.next s e).passed = t.passed := by
  cases e with
  | wait | elsewhere | login => rfl
  | expire jti =>
      unfold next
      dsimp only
      split
      · split_ifs <;> rfl
      · rfl
  | present call entry token =>
      unfold next
      dsimp only
      split
      · split_ifs <;> rfl
      · rfl
  | advance call => exact absurd rfl (other call)

/-- A late call is refused exactly when its check comes in time. -/
theorem next_staysRejected_iff (ideal : s.jwt.Ideal) (inv : t.Inv s) (good : t.StaysRejected)
    (e : TokenStep) : (t.next s e).StaysRejected ↔ t.Punctual e := by
  cases e with
  | wait | expire | elsewhere | login | present =>
      unfold StaysRejected
      rw [next_passed _ fun call => by rintro ⟨⟩]
      exact iff_of_true good trivial
  | advance call =>
      constructor
      · intro rejects entry claims parsed
        by_contra late
        have absent : t.denies claims = false := by
          simp only [not_or] at late
          simp [denies, late.2]
        have accepted : t.next s (.advance call) = t.pass call entry claims true := by
          simp [next, advance, parsed, absent]
        have := rejects ⟨entry, claims, true⟩ (by rw [accepted]; exact mem_pass.2 (.inl rfl))
        simp at this
      · intro punctual a mem
        rcases advance_passed s t call with same | step
        · exact good a (same ▸ mem)
        obtain ⟨entry, claims, late, parsed, absent, accepted⟩ := step
        have mem' : a ∈ (t.pass call entry claims late).passed := accepted ▸ mem
        rcases mem_pass.1 mem' with rfl | before
        swap
        · exact good a before
        by_contra isLate
        obtain rfl : late = true := by simpa using isLate
        have sound := inv.sound call
        rw [parsed] at sound
        have held : (t.world.denied claims.id).isSome := by
          rcases punctual entry claims parsed with ahead | held
          · exact (inv.kept claims sound.1 (sound.2 rfl)).resolve_left ahead
          · exact held
        have denied : t.denies claims = true := by
          rw [denies, genuine_id ideal sound.1, held]
          rfl
        exact absurd (absent.symm.trans denied) (by decide)

/-- In a run of logins, refreshes, logouts, requests and handshakes, step by step and under any
clock, a token that `RevokeClaims` has returned for is rejected by every later call, exactly when
every later call asks for the deny key in time. -/
theorem revoked_rejected_iff (s : Service) (ideal : s.jwt.Ideal) (w : World)
    (es : List TokenStep) :
    (∀ n, (Transition.exec (next s) (start w) (es.take n)).StaysRejected) ↔
      Transition.Along Punctual (next s) (start w) es :=
  Transition.always_iff_along (I := Inv s) (fun inv => inv.next ideal _)
    (fun inv good => next_staysRejected_iff ideal inv good _) (.start w)
    (fun _ mem => absurd mem List.not_mem_nil) es

/-- The claims of the refresh token that user 7 gets at time 0. -/
def devRefreshClaims : CustomClaims where
  userId := 7
  username := "dev"
  scopes := []
  type := refreshTokenType
  id := "jti-2"
  issuer := "k8s-platform"
  issuedAt := 0
  expiresAt := some (86400 * 10 ^ 9)
  notBefore := some 0

/-- A token library that has signed one refresh token. -/
def devSession : Service where
  jwt :=
    { sign := fun claims => if claims = devRefreshClaims then "dev-refresh" else "other"
      verify := fun token => if token = "dev-refresh" then some devRefreshClaims else none
      issuer := "k8s-platform"
      accessTTL := 7200 * 10 ^ 9
      refreshTTL := 86400 * 10 ^ 9 }
  orm := scopeClusterMapped
  checkPassword := fun hash raw => hash == raw

def devUser : SysUser := ⟨7, "dev", "secret", userStatusEnabled, false⟩

def devSessionWorld : World where
  db := ⟨[devUser], [], [], [], [], 1, 1⟩
  cache := fun _ => none
  denied := fun _ => none
  now := 0

theorem devSession_ideal : devSession.jwt.Ideal where
  signed {token claims} verified := by
    have eq : devRefreshClaims = claims := by
      simp only [devSession] at verified
      split_ifs at verified
      simpa using verified
    exact ⟨0, "jti-2", 7, "dev", [], refreshTokenType, 86400 * 10 ^ 9, by decide, eq ▸ rfl⟩
  unique {token token' claims claims'} verified verified' _ := by
    simp only [devSession] at verified verified'
    split_ifs at verified verified'
    exact Option.some.inj (verified.symm.trans verified')

def devIds : Service.TokenIds := ⟨"jti-3", "jti-4"⟩

/-- A refresh, and a second one that has parsed the token when it expires and Redis drops its
key. -/
def lateRefresh : List TokenStep :=
  [.present 0 (.refresh devIds) "dev-refresh", .advance 0, .advance 0, .advance 0, .advance 0,
    .advance 0, .advance 0, .present 1 (.refresh devIds) "dev-refresh", .wait (86400 * 10 ^ 9),
    .expire "jti-2", .advance 1]

theorem lateRefresh_accepted :
    ¬ ∀ n, (Transition.exec (next devSession) (start devSessionWorld)
      (lateRefresh.take n)).StaysRejected := by
  intro always
  have accepted : (Transition.exec (next devSession) (start devSessionWorld)
      lateRefresh).passed.any (·.late) = true := by decide +kernel
  obtain ⟨a, mem, late⟩ := List.any_eq_true.1 accepted
  have rejected := always 11 a mem
  exact absurd (late.symm.trans rejected) (by decide)

/-- The second refresh gets past the deny list with the token that the first one revoked. -/
theorem revoked_token_accepted :
    devSession.jwt.Ideal ∧ ¬ ∀ n,
      (Transition.exec (next devSession) (start devSessionWorld)
        (lateRefresh.take n)).StaysRejected :=
  ⟨devSession_ideal, lateRefresh_accepted⟩

/-- It asks for the key after the token has expired. -/
theorem lateRefresh_unpunctual :
    ¬ Transition.Along Punctual (next devSession) (start devSessionWorld) lateRefresh :=
  fun along => lateRefresh_accepted
    ((revoked_rejected_iff devSession devSession_ideal devSessionWorld lateRefresh).2 along)

end TokenCalls

end K8sPlatform.Auth
