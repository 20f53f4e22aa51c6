import K8sPlatform.Auth.DenyList

/-! # A refresh token is exchanged once -/

namespace K8sPlatform.Auth

/-- The token that a refresh has found free and not yet answered with a new pair. -/
def TokenCall.exchanging : TokenCall → Option CustomClaims
  | .accepted _ claims | .known _ claims _ | .issued _ claims _ _
  | .revoking claims (.rotation _) | .writing claims _ (.rotation _) => some claims
  | _ => none

namespace TokenCalls

/-- The ids of the tokens exchanged so far, once for each new pair. -/
def exchanged (t : TokenCalls) : List String := t.answers.map (·.1.id)

/-- Every refresh token has been exchanged at most once. -/
def SingleUse (t : TokenCalls) : Prop := t.exchanged.Nodup

/-- A refresh reaches its `EXISTS` while no other one is between its own `EXISTS` of the token and
its answer, and not after the expiry of a token that has been exchanged, unless it is refused. -/
def Alone (t : TokenCalls) : TokenStep → Prop
  | .advance call => ∀ ids claims late, t.calls call = .parsed (.refresh ids) claims late →
      t.denies claims = false →
        (∀ other claims', (t.calls other).exchanging = some claims' → claims'.id ≠ claims.id) ∧
          (claims.id ∈ t.exchanged → ¬claims.ExpiredBy t.world.now)
  | _ => True

/-- Each token is in the hands of one refresh, or has been exchanged and revoked, or neither. -/
structure Once (t : TokenCalls) : Prop where
  single : ∀ call claims other claims', (t.calls call).exchanging = some claims →
    (t.calls other).exchanging = some claims' → claims'.id = claims.id → other = call
  fresh : ∀ call claims, (t.calls call).exchanging = some claims → claims.id ∉ t.exchanged
  once : t.SingleUse
  revoked : t.exchanged ⊆ t.revoked

variable {s : Service} {t : TokenCalls} {call : Nat}

theorem Once.start (w : World) : (start w).Once where
  single _ _ _ _ exchanging := by cases exchanging
  fresh _ _ exchanging := by cases exchanging
  once := List.nodup_nil
  revoked := List.nil_subset _

/-- A step of a call that takes no token keeps the accounts. -/
theorem Once.setCall (h : t.Once) {c : TokenCall}
    (keeps : ∀ claims, c.exchanging = some claims → (t.calls call).exchanging = some claims) :
    (t.setCall call c).Once := by
  have before {other : Nat} {claims : CustomClaims}
      (exchanging : ((t.setCall call c).calls other).exchanging = some claims) :
      (t.calls other).exchanging = some claims := by
    by_cases same : other = call
    · subst same
      rw [setCall_self] at exchanging
      exact keeps claims exchanging
    · rwa [setCall_of_ne same] at exchanging
  exact ⟨fun _ _ _ _ one two => h.single _ _ _ _ (before one) (before two),
    fun _ _ one => h.fresh _ _ (before one), h.once, h.revoked⟩

/-- A refresh takes its token. -/
theorem Once.take (h : t.Once) {c : TokenCall} {claims : CustomClaims}
    (taken : c.exchanging = some claims) (free : ∀ other claims',
      (t.calls other).exchanging = some claims' → claims'.id ≠ claims.id)
    (unused : claims.id ∉ t.exchanged) : (t.setCall call c).Once := by
  constructor
  case single =>
    intro one claims₁ two claims₂ first second same
    by_cases isOne : one = call <;> by_cases isTwo : two = call
    · rw [isOne, isTwo]
    · subst isOne
      rw [setCall_self, taken] at first
      rw [setCall_of_ne isTwo] at second
      cases first
      exact absurd same (free _ _ second)
    · subst isTwo
      rw [setCall_self, taken] at second
      rw [setCall_of_ne isOne] at first
      cases second
      exact absurd same.symm (free _ _ first)
    · rw [setCall_of_ne isOne] at first
      rw [setCall_of_ne isTwo] at second
      exact h.single _ _ _ _ first second same
  case fresh =>
    intro one claims₁ first
    by_cases isOne : one = call
    · subst isOne
      rw [setCall_self, taken] at first
      cases first
      exact unused
    · rw [setCall_of_ne isOne] at first
      exact h.fresh _ _ first
  case once => exact h.once
  case revoked => exact h.revoked

/-- `RevokeClaims` returns, and a refresh with it: its token is exchanged and revoked. -/
theorem Once.finish (h : t.Once) {claims : CustomClaims} {purpose : Purpose}
    (rotates : ∀ result, purpose = .rotation result → (t.calls call).exchanging = some claims) :
    (t.finish call claims purpose).Once := by
  have grown : ({ t with revoked := claims.id :: t.revoked } : TokenCalls).Once :=
    ⟨h.single, h.fresh, h.once, fun _ mem => List.mem_cons_of_mem _ (h.revoked mem)⟩
  cases purpose with
  | logout refreshToken => exact grown.setCall fun _ none => by cases none
  | logoutRefresh => exact grown.setCall fun _ none => by cases none
  | rotation result =>
      have exchanging := rotates result rfl
      have others {other : Nat} {claims' : CustomClaims}
          (held : ((t.finish call claims (.rotation result)).calls other).exchanging =
            some claims') : other ≠ call ∧ (t.calls other).exchanging = some claims' := by
        by_cases same : other = call
        · subst same
          simp [TokenCalls.finish, TokenCall.exchanging] at held
        · exact ⟨same, by rwa [TokenCalls.finish, setCall_of_ne same] at held⟩
      have exchanged_eq : (t.finish call claims (.rotation result)).exchanged =
          t.exchanged ++ [claims.id] := by
        simp [exchanged, TokenCalls.finish]
      constructor
      case single =>
        intro _ _ _ _ first second
        exact h.single _ _ _ _ (others first).2 (others second).2
      case fresh =>
        intro other claims' held
        rw [exchanged_eq, List.mem_append, not_or]
        refine ⟨h.fresh _ _ (others held).2, fun mem => ?_⟩
        exact (others held).1 (h.single _ _ _ _ exchanging (others held).2 (by simpa using mem))
      case once =>
        rw [SingleUse, exchanged_eq, List.nodup_append]
        refine ⟨h.once, List.nodup_singleton _, fun id mem id' mem' same => ?_⟩
        rw [same, List.mem_singleton.1 mem'] at mem
        exact h.fresh _ _ exchanging mem
      case revoked =>
        rw [exchanged_eq]
        exact List.append_subset.2 ⟨grown.revoked, by simp [TokenCalls.finish]⟩

/-- A refresh that passes its check takes a token that nobody holds and that was never
exchanged. -/
theorem Once.pass (ideal : s.jwt.Ideal) (inv : t.Inv s) (h : t.Once) {entry : Entry}
    {claims : CustomClaims} {late : Bool} (parsed : t.calls call = .parsed entry claims late)
    (absent : t.denies claims = false) (alone : t.Alone (.advance call)) :
    (t.pass call entry claims late).Once := by
  have recorded : ({ t with passed := ⟨entry, claims, late⟩ :: t.passed } : TokenCalls).Once :=
    ⟨h.single, h.fresh, h.once, h.revoked⟩
  cases entry with
  | request | handshake | logout => exact recorded.setCall fun _ none => by cases none
  | refresh ids =>
      obtain ⟨free, inForce⟩ := alone ids claims late parsed absent
      apply recorded.take rfl free
      intro used
      have sound := inv.sound call
      rw [parsed] at sound
      have gone : ¬(t.world.denied claims.id).isSome = true := by
        rw [denies, genuine_id ideal sound.1] at absent
        simpa using absent
      exact inForce used ((inv.kept claims sound.1 (h.revoked used)).resolve_right gone)

theorem Once.advance (ideal : s.jwt.Ideal) (inv : t.Inv s) (h : t.Once)
    (alone : t.Alone (.advance call)) : (t.advance s call).Once := by
  unfold TokenCalls.advance
  cases phase : t.calls call with
  | idle => exact h
  | parsed entry claims late =>
      dsimp only
      cases denied : t.denies claims with
      | true => exact h.setCall fun _ none => by cases none
      | false => exact h.pass ideal inv phase denied alone
  | accepted ids claims =>
      dsimp only
      split
      · exact h.setCall fun _ none => by cases none
      · split_ifs
        · exact h.setCall fun _ none => by cases none
        · exact h.setCall fun _ same => by rw [phase]; exact same
  | known ids claims user => exact h.setCall fun _ same => by rw [phase]; exact same
  | issued ids claims user accessToken =>
      exact h.setCall fun _ same => by rw [phase]; exact same
  | revoking claims purpose =>
      dsimp only
      split
      · apply h.setCall
        intro _ same
        rw [phase]
        cases purpose <;> exact same
      · apply h.finish
        intro result rotates
        rw [phase, rotates]
        rfl
  | writing claims ttl purpose =>
      have denied : (t.deny claims ttl).Once := ⟨h.single, h.fresh, h.once, h.revoked⟩
      apply denied.finish
      intro result rotates
      show (t.calls call).exchanging = some claims
      rw [phase, rotates]
      rfl
  | leaving refreshToken =>
      dsimp only
      split_ifs
      · exact h.setCall fun _ none => by cases none
      split
      · exact h.setCall fun _ none => by cases none
      · split_ifs
        · exact h.setCall fun _ none => by cases none
        · exact h.setCall fun _ none => by cases none

theorem Once.next (ideal : s.jwt.Ideal) (inv : t.Inv s) (h : t.Once) {e : TokenStep}
    (alone : t.Alone e) : (t.next s e).Once := by
  cases e with
  | wait | elsewhere => exact ⟨h.single, h.fresh, h.once, h.revoked⟩
  | login => exact h
  | expire jti =>
      unfold TokenCalls.next
      dsimp only
      split
      · split_ifs
        · exact ⟨h.single, h.fresh, h.once, h.revoked⟩
        · exact h
      · exact h
  | present call entry token =>
      unfold TokenCalls.next
      dsimp only
      split
      · split_ifs
        · exact h
        · exact h.setCall fun _ none => by cases none
      · exact h
  | advance call => exact h.advance ideal inv alone

/-- Runs whose refreshes each check the deny list alone. -/
def aloneRuns (s : Service) (w : World) : Transition.System TokenCalls TokenStep :=
  (Transition.System.ofFn (· = start w) (next s)).guard Alone

theorem aloneRuns_once (ideal : s.jwt.Ideal) (w : World) :
    Transition.Invariant (aloneRuns s w) fun t => t.Inv s ∧ t.Once where
  init := by
    rintro t rfl
    exact ⟨.start w, .start w⟩
  step := by
    rintro t e _ ⟨inv, once⟩ ⟨alone, rfl⟩
    exact ⟨inv.next ideal e, once.next ideal inv alone⟩

/-- In every run of refreshes, logouts and requests in which each refresh checks the deny list
alone, no refresh token is ever exchanged twice. -/
theorem refresh_singleUse (s : Service) (ideal : s.jwt.Ideal) (w : World) {t : TokenCalls}
    (reachable : Transition.Reachable (aloneRuns s w) t) : t.SingleUse :=
  ((aloneRuns_once ideal w).holds reachable).2.once

/-- A refresh from its start to its answer. -/
def soleRefresh : List TokenStep :=
  [.present 0 (.refresh devIds) "dev-refresh", .advance 0, .advance 0, .advance 0, .advance 0,
    .advance 0, .advance 0]

theorem alone_of_exchanging (held : (t.calls call).exchanging.isSome = true) :
    t.Alone (.advance call) := by
  intro ids claims late parsed
  rw [parsed] at held
  cases held

theorem soleRefresh_alone :
    Transition.Along Alone (next devSession) (start devSessionWorld) soleRefresh := by
  have begun : (start devSessionWorld).next devSession
      (.present 0 (.refresh devIds) "dev-refresh") =
        (start devSessionWorld).setCall 0 (.parsed (.refresh devIds) devRefreshClaims false) := by
    rfl
  refine ⟨trivial, ?_, alone_of_exchanging (by decide +kernel),
    alone_of_exchanging (by decide +kernel), alone_of_exchanging (by decide +kernel),
    alone_of_exchanging (by decide +kernel), alone_of_exchanging (by decide +kernel), trivial⟩
  rw [begun]
  refine fun ids claims late _ _ => ⟨fun other claims' held => ?_, fun used => by cases used⟩
  by_cases same : other = 0
  · subst same
    cases held
  · rw [setCall_of_ne same] at held
    cases held

/-- One refresh that runs alone. -/
theorem soleRefresh_singleUse :
    (Transition.exec (next devSession) (start devSessionWorld) soleRefresh).SingleUse :=
  refresh_singleUse devSession devSession_ideal devSessionWorld
    (Transition.Reachable.exec_guard (.init rfl) soleRefresh_alone)

/-- Two refreshes that both check the deny list before either writes to it. -/
def raceRefresh : List TokenStep :=
  [.present 0 (.refresh devIds) "dev-refresh",
    .present 1 (.refresh ⟨"jti-5", "jti-6"⟩) "dev-refresh", .advance 0, .advance 1, .advance 0,
    .advance 0, .advance 0, .advance 0, .advance 0, .advance 1, .advance 1, .advance 1, .advance 1,
    .advance 1]

/-- Both refreshes answer with a new pair for the one token. -/
theorem refresh_raced :
    devSession.jwt.Ideal ∧
      ¬ ∀ es, (Transition.exec (next devSession) (start devSessionWorld) es).SingleUse := by
  refine ⟨devSession_ideal, fun always => ?_⟩
  have twice : (Transition.exec (next devSession) (start devSessionWorld) raceRefresh).exchanged =
      ["jti-2", "jti-2"] := by decide +kernel
  have once := always raceRefresh
  rw [SingleUse, twice] at once
  simp at once

end TokenCalls

end K8sPlatform.Auth
