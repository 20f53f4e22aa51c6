import K8sPlatform.Lib.Text
import K8sPlatform.Errcode

namespace K8sPlatform.Auth

abbrev TokenType := String

def accessTokenType : TokenType := "access"
def refreshTokenType : TokenType := "refresh"

/-- Times are nanoseconds; a date in a claim is cut to whole seconds. -/
structure CustomClaims where
  userId : Nat
  username : String
  scopes : List String
  type : TokenType
  id : String
  issuer : String
  issuedAt : Nat
  expiresAt : Option Nat
  notBefore : Option Nat
  deriving DecidableEq, Repr

def numericDate (t : Nat) : Nat := t / 10 ^ 9 * 10 ^ 9

/-- The token library and the configuration of the tokens. `verify` is the check of a
token's signature and algorithm with the decoding of its claims. -/
structure JWTManager where
  sign : CustomClaims → String
  verify : String → Option CustomClaims
  issuer : String
  accessTTL : Nat
  refreshTTL : Nat

namespace JWTManager

variable (m : JWTManager)

def signToken (now : Nat) (jti : String) (userId : Nat) (username : String)
    (scopes : List String) (tokenType : TokenType) (ttl : Nat) : String :=
  m.sign
    { userId, username, scopes
      type := tokenType
      id := jti
      issuer := m.issuer
      issuedAt := numericDate now
      expiresAt := some (numericDate (now + ttl))
      notBefore := some (numericDate now) }

/-- The claims that `signToken` signs. -/
def newClaims (now : Nat) (jti : String) (userId : Nat) (username : String)
    (scopes : List String) (tokenType : TokenType) (ttl : Nat) : CustomClaims where
  userId := userId
  username := username
  scopes := scopes
  type := tokenType
  id := jti
  issuer := m.issuer
  issuedAt := numericDate now
  expiresAt := some (numericDate (now + ttl))
  notBefore := some (numericDate now)

theorem signToken_eq (now : Nat) (jti : String) (userId : Nat) (username : String)
    (scopes : List String) (tokenType : TokenType) (ttl : Nat) :
    m.signToken now jti userId username scopes tokenType ttl =
      m.sign (m.newClaims now jti userId username scopes tokenType ttl) := rfl

/-- Signatures are ideal and ids are unique: what verifies has been signed by `signToken`, each
token under an id of its own. -/
structure Ideal : Prop where
  signed : ∀ {token claims}, m.verify token = some claims →
    ∃ now jti userId username scopes tokenType ttl, jti ≠ "" ∧
      claims = m.newClaims now jti userId username scopes tokenType ttl
  unique : ∀ {token token' claims claims'}, m.verify token = some claims →
    m.verify token' = some claims' → claims.id = claims'.id → claims = claims'

def issueAccessToken (now : Nat) (jti : String) (userId : Nat) (username : String)
    (scopes : List String) : String :=
  m.signToken now jti userId username scopes accessTokenType m.accessTTL

def issueRefreshToken (now : Nat) (jti : String) (userId : Nat) (username : String)
    (scopes : List String) : String :=
  m.signToken now jti userId username scopes refreshTokenType m.refreshTTL

inductive ParseError
  | expired | notValidYet | invalid
  deriving DecidableEq, Repr

def parseToken (now : Nat) (token : String) : Except ParseError CustomClaims :=
  match m.verify token with
  | none => .error .invalid
  | some claims =>
      if claims.expiresAt.any (· ≤ now) then .error .expired
      else if claims.notBefore.any (now < ·) then .error .notValidYet
      else .ok claims

end JWTManager

/-- The token of an `Authorization` header, empty when the header is missing. -/
def extractToken (authHeader : String) : Except String String :=
  if authHeader = "" then .error "authorization header is empty"
  else
    match Text.cut ' ' authHeader with
    | none => .error "authorization header format must be Bearer <token>"
    | some (kind, token) =>
        if Text.toLower kind ≠ "bearer" then
          .error "authorization header format must be Bearer <token>"
        else if token = "" then .error "token is empty"
        else .ok token

/-- The token is inside its validity at `now`. -/
def CustomClaims.InForce (claims : CustomClaims) (now : Nat) : Prop :=
  (∀ t ∈ claims.expiresAt, now < t) ∧ ∀ t ∈ claims.notBefore, t ≤ now

theorem parseToken_ok {m : JWTManager} {now : Nat} {token : String} {claims : CustomClaims} :
    m.parseToken now token = .ok claims ↔ m.verify token = some claims ∧ claims.InForce now := by
  simp only [JWTManager.parseToken, CustomClaims.InForce]
  cases m.verify token with
  | none => simp
  | some c =>
      have expiry : c.expiresAt.any (· ≤ now) = true ↔ ¬ ∀ t ∈ c.expiresAt, now < t := by
        cases c.expiresAt <;> simp
      have start : c.notBefore.any (now < ·) = true ↔ ¬ ∀ t ∈ c.notBefore, t ≤ now := by
        cases c.notBefore <;> simp
      simp only [Option.some.injEq]
      split_ifs with expired early
      · rw [expiry] at expired
        exact ⟨fun h => by (cases h), fun ⟨eq, future, _⟩ => absurd (eq ▸ future) expired⟩
      · rw [start] at early
        exact ⟨fun h => by (cases h), fun ⟨eq, _, begun⟩ => absurd (eq ▸ begun) early⟩
      · rw [expiry, not_not] at expired
        rw [start, not_not] at early
        simp only [Except.ok.injEq]
        exact ⟨fun eq => ⟨eq, eq ▸ ⟨expired, early⟩⟩, And.left⟩

end K8sPlatform.Auth
