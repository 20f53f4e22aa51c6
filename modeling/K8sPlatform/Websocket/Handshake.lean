import K8sPlatform.Auth.Service

namespace K8sPlatform.Websocket

open Errcode Auth

def wsTokenProtocolPrefix : String := "access_token."

/-- What the handshake reads of the request. `upgradable` is whether the upgrade succeeds
once the origin is allowed. -/
structure Handshake where
  queryToken : String
  authHeader : String
  subprotocols : List String
  origin : String
  upgradable : Bool
  deriving DecidableEq, Repr

def protocolToken (p : String) : Option String :=
  (Text.cutPrefix wsTokenProtocolPrefix p).filter (· != "")

/-- The query parameter, then the `Authorization` header, then the first subprotocol that
carries a token; empty when none does. -/
def extractWSToken (r : Handshake) : String :=
  if Text.trimSpace r.queryToken ≠ "" then Text.trimSpace r.queryToken
  else
    match (Text.cutPrefix "Bearer " r.authHeader).map Text.trimSpace with
    | some token =>
        if token ≠ "" then token else (r.subprotocols.findSome? protocolToken).getD ""
    | none => (r.subprotocols.findSome? protocolToken).getD ""

def originAllowed (allowOrigins : List String) (r : Handshake) : Bool :=
  r.origin == "" || allowOrigins.any fun o => o == "*" || o == r.origin

inductive Answer
  | refused (err : Error)
  | notUpgraded
  | accepted (userId : Nat) (pt : PermissionTree)

def wsHandler (s : Service) (allowOrigins : List String) (w : World) (h : Health)
    (r : Handshake) : Answer × World :=
  let token := extractWSToken r
  if token = "" then
    (.refused (.new .unauthenticated
      "缺少 token（Sec-WebSocket-Protocol / Authorization / query）"), w)
  else
    match s.jwt.parseToken w.now token with
    | .error .expired => (.refused (.ofCode .tokenExpired), w)
    | .error _ => (.refused (.new .unauthenticated "Token 解析失败或无效"), w)
    | .ok claims =>
      if claims.type ≠ accessTokenType then
        (.refused (.new .unauthenticated "Token 类型错误，请使用 Access Token"), w)
      else if Service.isRevoked w h claims then
        (.refused (.new .unauthenticated "Token 已失效"), w)
      else
        match s.getUserPermissionTree w h claims.userId with
        | (.error err, w') =>
            (.refused (.wrapMsg .permissionDenied err.text "加载权限失败"), w')
        | (.ok pt, w') =>
            if originAllowed allowOrigins r && r.upgradable then
              (.accepted claims.userId pt, w')
            else (.notUpgraded, w')

end K8sPlatform.Websocket
