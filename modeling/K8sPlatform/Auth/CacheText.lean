import Mathlib.Data.Finset.Sort
import Mathlib.Data.String.Basic
import K8sPlatform.Auth.Cache
import K8sPlatform.Lib.JsonRead

/-! # The cached permission trees as the texts that Redis holds -/

namespace K8sPlatform.Auth

open Errcode Transition JsonText

/-- The values of these texts hold no number. -/
abbrev CacheJson := JsonTree Empty

/-- A field that is left out when it is empty. -/
def omitEmpty (name value : String) : List (String × CacheJson) :=
  if value = "" then [] else [(name, .str value)]

def Scope.json (sc : Scope) : CacheJson :=
  .obj (("scope_type", .str sc.scopeType) ::
    (omitEmpty "cluster_code" sc.clusterCode ++ omitEmpty "namespace" sc.ns))

/-- A set of codes is an object of empty objects, in the order of its keys. -/
def permsJson (perms : Finset String) : CacheJson :=
  .obj (perms.sort.map fun code => (code, .obj []))

def PermissionTree.json (pt : PermissionTree) : CacheJson :=
  .obj [("perms", permsJson pt.perms), ("scopes", .arr (pt.scopes.map Scope.json)),
    ("is_platform_admin", .bool pt.isPlatformAdmin)]

/-- What `json.Marshal` makes of a tree. -/
def marshalTree (pt : PermissionTree) : List Char := write (fun x => nomatch x) pt.json

def fieldOf (fields : List (String × CacheJson)) (name : String) : Option CacheJson :=
  (fields.find? fun f => f.1 = name).map Prod.snd

/-- A missing field and `null` leave the zero value. -/
def readString : Option CacheJson → Option String
  | none | some .null => some ""
  | some (.str s) => some s
  | some _ => none

def readBool : Option CacheJson → Option Bool
  | none | some .null => some false
  | some (.bool b) => some b
  | some _ => none

def isStruct : CacheJson → Bool
  | .null | .obj _ => true
  | _ => false

def readPerms : Option CacheJson → Option (Finset String)
  | none | some .null => some ∅
  | some (.obj fields) =>
      if fields.all fun f => isStruct f.2 then some (fields.map Prod.fst).toFinset else none
  | some _ => none

def readScope : CacheJson → Option Scope
  | .null => some ⟨"", "", ""⟩
  | .obj fields =>
      match readString (fieldOf fields "scope_type"), readString (fieldOf fields "cluster_code"),
        readString (fieldOf fields "namespace") with
      | some scopeType, some clusterCode, some ns => some ⟨scopeType, clusterCode, ns⟩
      | _, _, _ => none
  | _ => none

def readScopes : Option CacheJson → Option (List Scope)
  | none | some .null => some []
  | some (.arr items) => items.mapM readScope
  | some _ => none

def readTree : CacheJson → Option PermissionTree
  | .null => some ⟨∅, [], false⟩
  | .obj fields =>
      match readPerms (fieldOf fields "perms"), readScopes (fieldOf fields "scopes"),
        readBool (fieldOf fields "is_platform_admin") with
      | some perms, some scopes, some admin => some ⟨perms, scopes, admin⟩
      | _, _, _ => none
  | _ => none

/-- What `json.Unmarshal` reads from a text, if it is one of a tree. -/
def unmarshalTree (t : List Char) : Option PermissionTree :=
  (read (fun _ => none) t).bind readTree

theorem numbers_empty : Numbers (fun x : Empty => nomatch x) (fun _ => none) where
  own := nofun
  first := nofun
  reads := nofun

theorem readScope_json (sc : Scope) : readScope sc.json = some sc := by
  obtain ⟨scopeType, clusterCode, ns⟩ := sc
  by_cases code : clusterCode = "" <;> by_cases name : ns = "" <;>
    simp [Scope.json, readScope, omitEmpty, code, name, fieldOf, readString]

theorem readPerms_json (perms : Finset String) :
    readPerms (some (permsJson perms)) = some perms := by
  have structs : (perms.sort.map fun code => (code, (.obj [] : CacheJson))).all
      (fun f => isStruct f.2) = true := by
    simp [isStruct]
  rw [permsJson, readPerms, if_pos structs, List.map_map]
  simp [Function.comp_def]

theorem readTree_json (pt : PermissionTree) : readTree pt.json = some pt := by
  have scopes : readScopes (some (.arr (pt.scopes.map Scope.json))) = some pt.scopes := by
    rw [readScopes]
    induction pt.scopes with
    | nil => rfl
    | cons sc scopes ih => simp [readScope_json, ih]
  have perms := readPerms_json pt.perms
  simp [PermissionTree.json, readTree, fieldOf, perms, scopes, readBool]

/-- A cached tree is read as it was written. -/
theorem unmarshalTree_marshalTree (pt : PermissionTree) :
    unmarshalTree (marshalTree pt) = some pt := by
  rw [unmarshalTree, marshalTree, read_write numbers_empty, Option.bind_some, readTree_json]

/-! ## The service over texts -/

/-- The world with the texts that Redis holds. -/
structure TextWorld where
  db : Database
  cache : Nat → Option (List Char × Nat)
  denied : String → Option Nat
  now : Nat

namespace TextWorld

def getCachedPermissionTree (w : TextWorld) (h : Health) (userId : Nat) : Option PermissionTree :=
  if h.redis.isSome then none
  else
    match w.cache userId with
    | some (data, expiry) => if w.now < expiry then unmarshalTree data else none
    | none => none

def setCachedPermissionTree (w : TextWorld) (h : Health) (userId : Nat) (pt : PermissionTree) :
    TextWorld :=
  if h.redis.isSome then w
  else
    { w with
      cache := fun id =>
        if id = userId then some (marshalTree pt, w.now + rbacCacheTTL) else w.cache id }

def getUserPermissionTree (s : Service) (w : TextWorld) (h : Health) (userId : Nat) :
    Except Error PermissionTree × TextWorld :=
  match w.getCachedPermissionTree h userId with
  | some pt => (.ok pt, w)
  | none =>
    match h.db with
    | some err => (.error (.wrap .internal ("query user permission tree: " ++ err)), w)
    | none =>
        let pt := loadPermissionTree s.orm w.db userId
        (.ok pt, w.setCachedPermissionTree h userId pt)

def invalidateUserPermissionCache (w : TextWorld) (h : Health) (userId : Nat) : TextWorld :=
  if h.redis.isSome then w
  else { w with cache := fun id => if id = userId then none else w.cache id }

def administer (w : TextWorld) (h : Health) (op : Op) : Except Error Reply × TextWorld :=
  let (reply, db) := handle w.db op
  let written := { w with db := db }
  match reply with
  | .error err => (.error err, written)
  | .ok reply =>
      (.ok reply, (op.invalidates db h).foldl
        (fun w userId => w.invalidateUserPermissionCache h userId) written)

/-- A call with the health of the database and of Redis during it. -/
def next (s : Service) (w : TextWorld) (c : CacheCall × Health) : TextWorld :=
  match c.1 with
  | .admin op => (w.administer c.2 op).2
  | .get userId => (getUserPermissionTree s w c.2 userId).2
  | .wait duration => { w with now := w.now + duration }

end TextWorld

/-- The same call over trees. -/
def World.next (s : Service) (w : World) (c : CacheCall × Health) : World :=
  match c.1 with
  | .admin op => (Auth.administer w c.2 op).2
  | .get userId => (s.getUserPermissionTree w c.2 userId).2
  | .wait duration => { w with now := w.now + duration }

/-- The world as Redis holds it. -/
def World.texts (w : World) : TextWorld where
  db := w.db
  cache := fun id => (w.cache id).map fun entry => (marshalTree entry.1, entry.2)
  denied := w.denied
  now := w.now

theorem getCached_texts (w : World) (h : Health) (userId : Nat) :
    w.texts.getCachedPermissionTree h userId = Service.getCachedPermissionTree w h userId := by
  simp only [TextWorld.getCachedPermissionTree, Service.getCachedPermissionTree, World.texts]
  cases w.cache userId with
  | none => rfl
  | some entry => simp only [Option.map_some, unmarshalTree_marshalTree]

theorem setCached_texts (w : World) (h : Health) (userId : Nat) (pt : PermissionTree) :
    w.texts.setCachedPermissionTree h userId pt =
      (Service.setCachedPermissionTree w h userId pt).texts := by
  unfold TextWorld.setCachedPermissionTree Service.setCachedPermissionTree
  split_ifs
  · rfl
  · simp only [World.texts, TextWorld.mk.injEq, true_and, and_true]
    funext id
    split_ifs <;> rfl

theorem getTree_texts (s : Service) (w : World) (h : Health) (userId : Nat) :
    TextWorld.getUserPermissionTree s w.texts h userId =
      ((s.getUserPermissionTree w h userId).1, (s.getUserPermissionTree w h userId).2.texts) := by
  unfold TextWorld.getUserPermissionTree Service.getUserPermissionTree
  rw [getCached_texts]
  cases Service.getCachedPermissionTree w h userId with
  | some pt => rfl
  | none =>
      cases h.db with
      | some err => rfl
      | none => exact Prod.ext rfl (setCached_texts w h userId _)

theorem invalidate_texts (w : World) (h : Health) (userId : Nat) :
    w.texts.invalidateUserPermissionCache h userId =
      (Service.invalidateUserPermissionCache w h userId).texts := by
  unfold TextWorld.invalidateUserPermissionCache Service.invalidateUserPermissionCache
  split_ifs
  · rfl
  · simp only [World.texts, TextWorld.mk.injEq, true_and, and_true]
    funext id
    split_ifs <;> rfl

theorem administer_texts (w : World) (h : Health) (op : Op) :
    w.texts.administer h op = ((administer w h op).1, (administer w h op).2.texts) := by
  have dropped (users : List Nat) (w : World) :
      users.foldl (fun w userId => TextWorld.invalidateUserPermissionCache w h userId) w.texts =
        (users.foldl (fun w userId => Service.invalidateUserPermissionCache w h userId)
          w).texts := by
    induction users generalizing w with
    | nil => rfl
    | cons userId users ih =>
        rw [List.foldl_cons, List.foldl_cons, invalidate_texts, ih]
  unfold TextWorld.administer administer
  rcases reply : handle w.db op with ⟨reply | reply, db⟩
  · simp only [World.texts, reply]
  · simp only [show w.texts.db = w.db from rfl, reply]
    exact Prod.ext rfl (dropped _ { w with db := db })

theorem next_texts (s : Service) (w : World) (c : CacheCall × Health) :
    w.texts.next s c = (w.next s c).texts := by
  obtain ⟨call, h⟩ := c
  cases call with
  | admin op => exact congrArg Prod.snd (administer_texts w h op)
  | get userId => exact congrArg Prod.snd (getTree_texts s w h userId)
  | wait duration => rfl

/-- After every run of calls, with the database and Redis failing at any of them, the service that
stores its trees as JSON texts answers as the one that stores the trees themselves. -/
theorem cached_texts_refine (s : Service) (w : World) (calls : List (CacheCall × Health))
    (h : Health) (userId : Nat) :
    (TextWorld.getUserPermissionTree s (exec (TextWorld.next s) w.texts calls) h userId).1 =
      (s.getUserPermissionTree (exec (World.next s) w calls) h userId).1 := by
  have same : exec (TextWorld.next s) w.texts calls = (exec (World.next s) w calls).texts := by
    induction calls generalizing w with
    | nil => rfl
    | cons c calls ih => rw [exec_cons, exec_cons, next_texts, ih]
  rw [same, getTree_texts]

end K8sPlatform.Auth
