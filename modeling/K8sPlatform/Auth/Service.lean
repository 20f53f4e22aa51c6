import K8sPlatform.Auth.Loader
import K8sPlatform.Auth.Middleware
import K8sPlatform.Auth.Token

namespace K8sPlatform.Auth

open Errcode

/-- What the service is configured with. `checkPassword` compares a stored hash with a
password, and `orm` is how gorm scans the permission query. -/
structure Service where
  jwt : JWTManager
  orm : NamingStrategy
  checkPassword : String → String → Bool

def rbacCacheTTL : Nat := 3600 * 10 ^ 9

/-- The tables, the two kinds of Redis keys with their expiry times, and the clock. -/
structure World where
  db : Database
  cache : Nat → Option (PermissionTree × Nat)
  denied : String → Option Nat
  now : Nat

/-- The errors that the database and Redis answer with during a call, if they fail. -/
structure Health where
  db : Option String
  redis : Option String

def healthy : Health := ⟨none, none⟩

structure UserBrief where
  id : Nat
  username : String
  deriving DecidableEq, Repr

structure LoginResult where
  accessToken : String
  refreshToken : String
  tokenType : String
  expiresIn : Nat
  user : UserBrief
  deriving DecidableEq, Repr

def unauthenticated (message : String) : Error := .new .unauthenticated message

namespace Service

variable (s : Service)

def isRevoked (w : World) (h : Health) (claims : CustomClaims) : Bool :=
  claims.id != "" && h.redis.isNone && (w.denied claims.id).any (w.now < ·)

/-- The remaining life of the token; `none` when it is over. -/
def denyTTL (w : World) (claims : CustomClaims) : Option Nat :=
  match claims.expiresAt with
  | none => some s.jwt.accessTTL
  | some t => if w.now < t then some (t - w.now) else none

def revokeClaims (w : World) (h : Health) (claims : CustomClaims) : World :=
  match claims.id != "", h.redis, s.denyTTL w claims with
  | true, none, some ttl =>
      { w with
        denied := fun jti => if jti = claims.id then some (w.now + ttl) else w.denied jti }
  | _, _, _ => w

def getCachedPermissionTree (w : World) (h : Health) (userId : Nat) : Option PermissionTree :=
  if h.redis.isSome then none
  else
    match w.cache userId with
    | some (pt, expiry) => if w.now < expiry then some pt else none
    | none => none

def setCachedPermissionTree (w : World) (h : Health) (userId : Nat) (pt : PermissionTree) :
    World :=
  if h.redis.isSome then w
  else
    { w with
      cache := fun id => if id = userId then some (pt, w.now + rbacCacheTTL) else w.cache id }

def getUserPermissionTree (w : World) (h : Health) (userId : Nat) :
    Except Error PermissionTree × World :=
  match getCachedPermissionTree w h userId with
  | some pt => (.ok pt, w)
  | none =>
    match h.db with
    | some err => (.error (.wrap .internal ("query user permission tree: " ++ err)), w)
    | none =>
        let pt := loadPermissionTree s.orm w.db userId
        (.ok pt, setCachedPermissionTree w h userId pt)

def invalidateUserPermissionCache (w : World) (h : Health) (userId : Nat) : World :=
  if h.redis.isSome then w
  else { w with cache := fun id => if id = userId then none else w.cache id }

/-- The scope claims of a new token. -/
def scopeClaims (pt : PermissionTree) : List String :=
  pt.scopes.filterMap fun sc =>
    if sc.scopeType = scopePlatform then some "platform"
    else if sc.scopeType = scopeCluster then some ("cluster:" ++ sc.clusterCode)
    else if sc.scopeType = scopeNamespace then some ("cluster:" ++ sc.clusterCode ++ ":" ++ sc.ns)
    else none

def loginResult (user : SysUser) (accessToken refreshToken : String) : LoginResult where
  accessToken := accessToken
  refreshToken := refreshToken
  tokenType := "Bearer"
  expiresIn := s.jwt.accessTTL / 10 ^ 9
  user := ⟨user.id, user.username⟩

/-- The two token ids are fresh UUIDs. -/
structure TokenIds where
  access : String
  refresh : String
  deriving DecidableEq, Repr

def login (w : World) (h : Health) (username password : String) (ids : TokenIds) :
    Except Error LoginResult :=
  match h.db with
  | some err => .error (.wrap .databaseError err)
  | none =>
    match w.db.users.find? fun u => u.username == username && !u.deleted with
    | none => .error (unauthenticated "用户名或密码错误")
    | some user =>
      if user.status ≠ userStatusEnabled then .error (unauthenticated "账号已被禁用或锁定")
      else if s.checkPassword user.passwordHash password then
        let scopes := scopeClaims (loadPermissionTree s.orm w.db user.id)
        .ok (s.loginResult user
          (s.jwt.issueAccessToken w.now ids.access user.id user.username scopes)
          (s.jwt.issueRefreshToken w.now ids.refresh user.id user.username scopes))
      else .error (unauthenticated "用户名或密码错误")

def refresh (w : World) (h : Health) (refreshToken : String) (ids : TokenIds) :
    Except Error LoginResult × World :=
  match s.jwt.parseToken w.now refreshToken with
  | .error _ => (.error (unauthenticated "Refresh Token 无效或已过期"), w)
  | .ok claims =>
    if claims.type ≠ refreshTokenType then (.error (unauthenticated "Token 类型错误"), w)
    else if isRevoked w h claims then (.error (unauthenticated "Refresh Token 已失效"), w)
    else
      match h.db with
      | some err => (.error (.wrap .databaseError err), w)
      | none =>
        match w.db.findUser claims.userId with
        | none => (.error (unauthenticated "用户不存在"), w)
        | some user =>
          if user.status ≠ userStatusEnabled then
            (.error (unauthenticated "账号已被禁用或锁定"), w)
          else
            (.ok (s.loginResult user
              (s.jwt.issueAccessToken w.now ids.access user.id user.username claims.scopes)
              (s.jwt.issueRefreshToken w.now ids.refresh user.id user.username claims.scopes)),
              s.revokeClaims w h claims)

def logout (w : World) (h : Health) (access : CustomClaims) (refreshToken : String) : World :=
  let w' := s.revokeClaims w h access
  if Text.trimSpace refreshToken = "" then w'
  else
    match s.jwt.parseToken w.now refreshToken with
    | .error _ => w'
    | .ok rc => if rc.type ≠ refreshTokenType then w' else s.revokeClaims w' h rc

/-- The claims that `AuthMiddleware` puts into the context. -/
def authMiddleware (w : World) (h : Health) (authHeader : String) : Except Error CustomClaims :=
  match extractToken authHeader with
  | .error _ => .error (unauthenticated "缺少有效的 Authorization Header")
  | .ok token =>
    match s.jwt.parseToken w.now token with
    | .error .expired => .error (.ofCode .tokenExpired)
    | .error _ => .error (unauthenticated "Token 解析失败或无效")
    | .ok claims =>
      if claims.type ≠ accessTokenType then
        .error (unauthenticated "Token 类型错误，请使用 Access Token")
      else if isRevoked w h claims then .error (unauthenticated "Token 已失效")
      else .ok claims

/-- The tree that `RBACMiddleware` puts into the context of the user it finds there. -/
def rbacMiddleware (w : World) (h : Health) (userId : Nat) (req : Request) :
    Except Error PermissionTree × World :=
  if userId = 0 then (.error (.ofCode .unauthenticated), w)
  else
    match s.getUserPermissionTree w h userId with
    | (.error err, w') => (.error err, w')
    | (.ok pt, w') => (rbacCheck pt req |>.map fun _ => pt, w')

end Service

end K8sPlatform.Auth
