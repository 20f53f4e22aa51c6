import K8sPlatform.Api.Routes

/-! # The requests of the frontend's services, and the routes that serve them -/

namespace K8sPlatform.Api

open Query hiding encode
open UrlPath Routing

/-- What `encodeURIComponent` keeps. -/
def keepComponent (b : UInt8) : Bool := isUnreserved b || (Text.utf8 "!*'()".toList).contains b

def encodeURIComponent (s : Bytes) : Bytes := encode keepComponent s

theorem keepComponent_escapes : EscapesSegments keepComponent where
  percent := by decide
  plus := by decide
  slash := by decide

/-- The path of a template of the services, after the browser has parsed it. -/
def urlPath (template : String) (values : List Bytes) : Bytes :=
  text (normalize (fill (pieces template) (values.map encodeURIComponent)))

/-- What the server has for a request. -/
def answer (router : Router Endpoint) (method template : String) (values : List Bytes) :
    Option (Route Endpoint × List (String × Bytes)) :=
  (parsePath (urlPath template values)).bind (router method)

theorem map_fill {f : Bytes → Bytes} {ps : List Piece} (literals : ∀ t, .literal t ∈ ps → f t = t)
    (vs : List Bytes) : (fill ps vs).map f = fill ps (vs.map f) := by
  induction ps generalizing vs with
  | nil => rfl
  | cons p ps ih =>
      have rest : ∀ t, .literal t ∈ ps → f t = t :=
        fun t mem => literals t (List.mem_cons_of_mem _ mem)
      cases p with
      | literal t =>
          rw [fill, fill, List.map_cons, ih rest, literals t List.mem_cons_self]
      | param name =>
          cases vs with
          | nil => rfl
          | cons v vs => rw [fill, List.map_cons, List.map_cons, fill, ih rest]

theorem urlPath_eq {template : String} {values : List Bytes}
    (sendable : Sendable keepComponent (pieces template) values) :
    urlPath template values = requestPath keepComponent (pieces template) values := by
  have fixed : ∀ t, .literal t ∈ pieces template → encode keepComponent t = t :=
    fun t mem => encode_of_kept (sendable.literals t mem).kept
  rw [requestPath, map_fill fixed]
  rfl

def plainPiece : Piece → Bool
  | .literal t =>
      t != [] && t.all keepComponent && t != ['.'.toUInt8] && t != ['.'.toUInt8, '.'.toUInt8]
  | .param _ => true

def plainTemplate (template : String) : Bool := (pieces template).all plainPiece

theorem plain_of_plainTemplate {template : String} (plain : plainTemplate template = true)
    (t : Bytes) (mem : .literal t ∈ pieces template) : Plain keepComponent t := by
  have own : plainPiece (.literal t) = true := List.all_eq_true.1 plain _ mem
  rw [plainPiece, Bool.and_eq_true, Bool.and_eq_true, Bool.and_eq_true, List.all_eq_true] at own
  obtain ⟨⟨⟨some_, kept⟩, noDot⟩, noDots⟩ := own
  exact ⟨bne_iff_ne.1 some_, kept, bne_iff_ne.1 noDot, bne_iff_ne.1 noDots⟩

theorem sendable_of_plain {template : String} (plain : plainTemplate template = true)
    {values : List Bytes} (count : values.length = (names (pieces template)).length)
    (carried : ∀ v ∈ values, Carried v) : Sendable keepComponent (pieces template) values :=
  ⟨plain_of_plainTemplate plain, count, carried⟩

theorem endpoints_plain : ∀ e ∈ apiEndpoints, plainTemplate e.fullPath = true := by
  have all : apiEndpoints.all (fun e => plainTemplate e.fullPath) = true := by decide +kernel
  exact List.all_eq_true.1 all

variable {router : Router Endpoint}

theorem answer_of_mem (bySegments : BySegments apiRoutes router) {e : Endpoint}
    (mem : e ∈ apiEndpoints) {values : List Bytes}
    (count : values.length = (names (pieces e.fullPath)).length)
    (carried : ∀ v ∈ values, Carried v) :
    answer router e.method e.fullPath values =
      some (e.route, (names (pieces e.fullPath)).zip values) := by
  have sendable := sendable_of_plain (endpoints_plain e mem) count carried
  rw [answer, urlPath_eq sendable]
  exact route_requestPath bySegments apiRoutes_apart (List.mem_map_of_mem mem)
    keepComponent_escapes sendable

/-! ## The check of the permissions -/

theorem utf8_inj {s t : String} (same : Text.utf8 s.toList = Text.utf8 t.toList) : s = t := by
  have bytes : s.toList.utf8Encode = t.toList.utf8Encode := congrArg List.toByteArray same
  rw [String.utf8Encode_toList, String.utf8Encode_toList] at bytes
  exact String.toByteArray_inj.1 bytes

def bytes (s : String) : Bytes := Text.utf8 s.toList

/-- What `RBACMiddleware` is given of a request that a route serves. -/
structure Checked (served : Route Endpoint × List (String × Bytes)) (req : Auth.Request) :
    Prop where
  method : req.method = served.1.method
  fullPath : req.fullPath = served.1.handler.fullPath
  code : bytes req.paramCode = (served.2.lookup "code").getD []

/-- The cluster that was sent with a request. -/
def sentCode (e : Endpoint) (values : List String) : String :=
  (((names (pieces e.fullPath)).zip values).lookup "code").getD ""

theorem lookup_zip_map {ns : List String} {vs : List String} (key : String) :
    ((ns.zip (vs.map bytes)).lookup key).getD [] = bytes (((ns.zip vs).lookup key).getD "") := by
  induction ns generalizing vs with
  | nil => rfl
  | cons n ns ih =>
      cases vs with
      | nil => rfl
      | cons v vs =>
          rw [List.map_cons, List.zip_cons_cons, List.zip_cons_cons, List.lookup_cons,
            List.lookup_cons]
          cases key == n with
          | true => rfl
          | false => exact ih

/-- The cluster that the check decides on: the one of the path, or the one of the header. -/
def agreedCluster (sent header : String) : String × Bool :=
  Auth.requestClusterCode ⟨"", "", sent, header⟩

/-- With a router that keeps the raw path, every route is reached with the values that were sent;
behind `RBACMiddleware` the check decides on the permission it was registered with and on the
cluster that was sent. -/
theorem route_served (bySegments : BySegments apiRoutes router) {e : Endpoint}
    (mem : e ∈ apiEndpoints) {values : List String}
    (count : values.length = (names (pieces e.fullPath)).length)
    (carried : ∀ v ∈ values, Carried (bytes v)) :
    answer router e.method e.fullPath (values.map bytes) =
        some (e.route, (names (pieces e.fullPath)).zip (values.map bytes)) ∧
      ∀ (permission : String) (pt : Auth.PermissionTree) (req : Auth.Request),
        e.permission = some permission →
        Checked (e.route, (names (pieces e.fullPath)).zip (values.map bytes)) req →
        (Auth.rbacCheck pt req = .ok () ↔
          pt.hasPerm permission = true ∧
          (agreedCluster (sentCode e values) req.headerClusterCode).2 = false ∧
          ((agreedCluster (sentCode e values) req.headerClusterCode).1 ≠ "" →
            pt.hasAnyAccessToCluster
              (agreedCluster (sentCode e values) req.headerClusterCode).1 = true)) := by
  have carried' : ∀ v ∈ values.map bytes, Carried v := by
    intro v there
    obtain ⟨s, inside, rfl⟩ := List.mem_map.1 there
    exact carried s inside
  refine ⟨answer_of_mem bySegments mem ((List.length_map _).trans count) carried', ?_⟩
  intro permission pt req needed checked
  obtain ⟨some_, registered⟩ := permissions_registered e mem permission needed
  have asked : Auth.resolvePermCode req.method req.fullPath = permission := by
    rw [checked.method, checked.fullPath]
    exact registered
  have sent : req.paramCode = sentCode e values :=
    utf8_inj (checked.code.trans (lookup_zip_map "code"))
  have agreed : Auth.requestClusterCode req =
      agreedCluster (sentCode e values) req.headerClusterCode := by
    rw [← sent]
    rfl
  rw [Auth.rbacCheck_ok, asked, agreed]
  exact and_iff_right some_

/-- A page of a cluster whose resource has a slash in its API version. -/
theorem deployment_served :
    answer (firstMatch apiRoutes) "GET" resourcePath
        (["prod", "apps/v1", "Deployment", "shop", "web"].map bytes) =
      some (Endpoint.route ⟨"GET", resourcePath, "GetResource", some "resource:get"⟩,
        (names (pieces resourcePath)).zip
          (["prod", "apps/v1", "Deployment", "shop", "web"].map bytes)) := by
  have count : ["prod", "apps/v1", "Deployment", "shop", "web"].length =
      (names (pieces resourcePath)).length := by decide +kernel
  have carried : ∀ v ∈ ["prod", "apps/v1", "Deployment", "shop", "web"], Carried (bytes v) := by
    decide +kernel
  have mem : (⟨"GET", resourcePath, "GetResource", some "resource:get"⟩ : Endpoint) ∈
      apiEndpoints := by
    simp [apiEndpoints, resourceRoutes]
  exact (route_served (firstMatch_bySegments apiRoutes) mem count carried).1

/-! ## The services -/

inductive ServiceCall where
  | listResources (code apiVersion kind : Bytes)
  | getResource (code apiVersion kind ns name : Bytes)
  | createResource (code apiVersion kind : Bytes)
  | updateResource (code apiVersion kind ns name : Bytes)
  | deleteResource (code apiVersion kind ns name : Bytes)
  | listNamespaces (code : Bytes)
  | listBackups
  | createBackup (code : Bytes)
  | getBackup (id : Nat)
  | restoreBackup (id : Nat)
  | deleteBackup (id : Nat)
  | downloadBackup (id : Nat)
  | listReleases (clusterCode : Bytes)
  | installRelease (clusterCode : Bytes)
  | uninstallRelease (clusterCode ns name : Bytes)
  | rollbackRelease (clusterCode ns name : Bytes)
  | listHistory (clusterCode ns name : Bytes)
  | listRepos
  | addRepo
  | removeRepo (name : Bytes)
  | updateRepos
  | searchCharts
  | podLogs (clusterCode ns podName : Bytes)

/-- What stands in a URL: a text, which is escaped, or a number as it is. -/
inductive Value where
  | text (s : Bytes)
  | id (n : Nat)

def Value.written : Value → Bytes
  | text s => encodeURIComponent s
  | id n => bytes (toString n)

def Value.read : Value → Bytes
  | text s => s
  | id n => bytes (toString n)

/-- A segment can carry the value. -/
def Value.Fits : Value → Prop
  | text s => Carried s
  | id _ => True

/-- A request; the values stand in its URL under the names that the routes have for them. -/
structure Call where
  method : String
  url : String
  values : List Value

/-- What the client puts before the URLs of the services. -/
def baseURL : String := "/api/v1"

/-- The path of the request, after the browser has parsed it. -/
def Call.path (c : Call) : Bytes :=
  text (normalize (fill (pieces (baseURL ++ c.url)) (c.values.map Value.written)))

def Call.answer (router : Router Endpoint) (c : Call) :
    Option (Route Endpoint × List (String × Bytes)) :=
  (parsePath c.path).bind (router c.method)

def objectURL : String := "/clusters/:code/resources/:apiVersion/:kind/:namespace/:name"

def unscopedURL : String := "/clusters/:code/resources/:apiVersion/:kind/:name"

/-- One object; without a namespace its segment is left out. -/
def objectCall (method : String) (code apiVersion kind ns name : Bytes) : Call :=
  if ns ≠ [] then ⟨method, objectURL, [code, apiVersion, kind, ns, name].map .text⟩
  else ⟨method, unscopedURL, [code, apiVersion, kind, name].map .text⟩

def ServiceCall.query : ServiceCall → Call
  | listResources code apiVersion kind =>
      ⟨"GET", "/clusters/:code/resources/:apiVersion/:kind", [code, apiVersion, kind].map .text⟩
  | getResource code apiVersion kind ns name => objectCall "GET" code apiVersion kind ns name
  | createResource code apiVersion kind =>
      ⟨"POST", "/clusters/:code/resources/:apiVersion/:kind", [code, apiVersion, kind].map .text⟩
  | updateResource code apiVersion kind ns name => objectCall "PUT" code apiVersion kind ns name
  | deleteResource code apiVersion kind ns name => objectCall "DELETE" code apiVersion kind ns name
  | listNamespaces code => ⟨"GET", "/clusters/:code/resources/v1/Namespace", [.text code]⟩
  | listBackups => ⟨"GET", "/backups", []⟩
  | createBackup code => ⟨"POST", "/clusters/:code/backups", [.text code]⟩
  | getBackup id => ⟨"GET", "/backups/:id", [.id id]⟩
  | restoreBackup id => ⟨"POST", "/backups/:id/restore", [.id id]⟩
  | deleteBackup id => ⟨"DELETE", "/backups/:id", [.id id]⟩
  | downloadBackup id => ⟨"GET", "/backups/:id/download", [.id id]⟩
  | listReleases clusterCode => ⟨"GET", "/clusters/:code/helm/releases", [.text clusterCode]⟩
  | installRelease clusterCode => ⟨"POST", "/clusters/:code/helm/releases", [.text clusterCode]⟩
  | uninstallRelease clusterCode ns name =>
      ⟨"DELETE", "/clusters/:code/helm/releases/:namespace/:name",
        [clusterCode, ns, name].map .text⟩
  | rollbackRelease clusterCode ns name =>
      ⟨"POST", "/clusters/:code/helm/releases/:namespace/:name/rollback",
        [clusterCode, ns, name].map .text⟩
  | listHistory clusterCode ns name =>
      ⟨"GET", "/clusters/:code/helm/releases/:namespace/:name/history",
        [clusterCode, ns, name].map .text⟩
  | listRepos => ⟨"GET", "/helm/repos", []⟩
  | addRepo => ⟨"POST", "/helm/repos", []⟩
  | removeRepo name => ⟨"DELETE", "/helm/repos/:name", [.text name]⟩
  | updateRepos => ⟨"POST", "/helm/repos/update", []⟩
  | searchCharts => ⟨"GET", "/helm/charts", []⟩
  | podLogs clusterCode ns podName =>
      ⟨"GET", "/clusters/:code/pods/:namespace/:pod/logs", [clusterCode, ns, podName].map .text⟩

/-- The handler that a call is made for, and what it is to read from the path. -/
def ServiceCall.target : ServiceCall → String × List (String × Bytes)
  | listResources code apiVersion kind =>
      ("ListResources", [("code", code), ("apiVersion", apiVersion), ("kind", kind)])
  | getResource code apiVersion kind ns name =>
      ("GetResource", [("code", code), ("apiVersion", apiVersion), ("kind", kind),
        ("namespace", ns), ("name", name)])
  | createResource code apiVersion kind =>
      ("CreateResource", [("code", code), ("apiVersion", apiVersion), ("kind", kind)])
  | updateResource code apiVersion kind ns name =>
      ("UpdateResource", [("code", code), ("apiVersion", apiVersion), ("kind", kind),
        ("namespace", ns), ("name", name)])
  | deleteResource code apiVersion kind ns name =>
      ("DeleteResource", [("code", code), ("apiVersion", apiVersion), ("kind", kind),
        ("namespace", ns), ("name", name)])
  | listNamespaces code =>
      ("ListResources", [("code", code), ("apiVersion", bytes "v1"), ("kind", bytes "Namespace")])
  | listBackups => ("ListBackups", [])
  | createBackup code => ("CreateBackup", [("code", code)])
  | getBackup id => ("GetBackup", [("id", bytes (toString id))])
  | restoreBackup id => ("RestoreBackup", [("id", bytes (toString id))])
  | deleteBackup id => ("DeleteBackup", [("id", bytes (toString id))])
  | downloadBackup id => ("DownloadBackup", [("id", bytes (toString id))])
  | listReleases clusterCode => ("ListReleases", [("code", clusterCode)])
  | installRelease clusterCode => ("InstallRelease", [("code", clusterCode)])
  | uninstallRelease clusterCode ns name =>
      ("UninstallRelease", [("code", clusterCode), ("namespace", ns), ("name", name)])
  | rollbackRelease clusterCode ns name =>
      ("RollbackRelease", [("code", clusterCode), ("namespace", ns), ("name", name)])
  | listHistory clusterCode ns name =>
      ("ListHistory", [("code", clusterCode), ("namespace", ns), ("name", name)])
  | listRepos => ("ListRepos", [])
  | addRepo => ("AddRepo", [])
  | removeRepo name => ("RemoveRepo", [("name", name)])
  | updateRepos => ("UpdateRepos", [])
  | searchCharts => ("SearchCharts", [])
  | podLogs clusterCode ns podName =>
      ("StreamPodLogsHandler", [("code", clusterCode), ("namespace", ns), ("pod", podName)])

/-- The calls about one object that has no namespace. -/
def ServiceCall.clusterScoped : ServiceCall → Bool
  | getResource _ _ _ ns _ | updateResource _ _ _ ns _ | deleteResource _ _ _ ns _ => ns == []
  | _ => false

def reached (served : Route Endpoint × List (String × Bytes)) : String × List (String × Bytes) :=
  (served.1.handler.handler, served.2)

/-- The handler that a route is found with, and the names of its parameters. -/
def found (method fullPath : String) : Option (String × List String) :=
  (apiEndpoints.find? fun e => e.method == method && e.fullPath == fullPath).map fun e =>
    (e.handler, names (pieces e.fullPath))

theorem toList_digits (n : Nat) : (toString n).toList = Nat.toDigits 10 n := String.toList_ofList

theorem keepComponent_digit {c : Char} (digit : c.isDigit = true) :
    ∀ b ∈ String.utf8EncodeChar c, keepComponent b = true ∧ b ≠ '.'.toUInt8 := by
  have all : ∀ k < 10, ∀ b ∈ String.utf8EncodeChar (Char.ofNat (48 + k)),
      keepComponent b = true ∧ b ≠ '.'.toUInt8 := by decide +kernel
  rw [Char.isDigit, Bool.and_eq_true, decide_eq_true_eq, decide_eq_true_eq] at digit
  have low : 48 ≤ c.toNat := UInt32.le_iff_toNat_le.1 digit.1
  have high : c.toNat ≤ 57 := UInt32.le_iff_toNat_le.1 digit.2
  have own : Char.ofNat (48 + (c.toNat - 48)) = c := by
    rw [Nat.add_sub_cancel' low, Char.ofNat_toNat]
  exact own ▸ all (c.toNat - 48) (by omega)

theorem digits_kept (n : Nat) :
    ∀ b ∈ bytes (toString n), keepComponent b = true ∧ b ≠ '.'.toUInt8 := by
  intro b mem
  rw [bytes, toList_digits] at mem
  obtain ⟨c, there, written⟩ := List.mem_flatMap.1 mem
  exact keepComponent_digit (Nat.isDigit_of_mem_toDigits (by decide) (by decide) there) b written

theorem bytes_ne_nil {s : String} (some_ : s ≠ "") : bytes s ≠ [] := by
  intro none_
  exact some_ (utf8_inj none_)

theorem Value.written_eq (v : Value) : v.written = encodeURIComponent v.read := by
  cases v with
  | text s => rfl
  | id n => exact (encode_of_kept fun b mem => (digits_kept n b mem).1).symm

theorem Value.Fits.carried {v : Value} (fits : v.Fits) : Carried v.read := by
  cases v with
  | text s => exact fits
  | id n =>
      have noDot : '.'.toUInt8 ∉ bytes (toString n) := fun mem => (digits_kept n _ mem).2 rfl
      have some_ : toString n ≠ "" := by
        intro empty
        have chars := congrArg String.toList empty
        rw [toList_digits] at chars
        exact Nat.toDigits_ne_nil chars
      refine ⟨bytes_ne_nil some_, ?_, ?_⟩
      · intro dot
        rw [Value.read] at dot
        exact noDot (dot ▸ List.mem_cons_self)
      · intro dots
        rw [Value.read] at dots
        exact noDot (dots ▸ List.mem_cons_self)

theorem Call.answer_eq (c : Call) :
    c.answer router = Api.answer router c.method (baseURL ++ c.url) (c.values.map Value.read) := by
  rw [Call.answer, Api.answer, Call.path, urlPath, List.map_map]
  congr 6
  funext v
  exact v.written_eq

theorem Call.carried {c : Call} (fits : ∀ v ∈ c.values, v.Fits) :
    ∀ v ∈ c.values.map Value.read, Carried v := by
  intro v there
  obtain ⟨w, mem, rfl⟩ := List.mem_map.1 there
  exact (fits w mem).carried

theorem Call.reached_of_found (bySegments : BySegments apiRoutes router) {c : Call}
    {handler : String} {ns : List String}
    (own : found c.method (baseURL ++ c.url) = some (handler, ns))
    (count : c.values.length = ns.length) (fits : ∀ v ∈ c.values, v.Fits) :
    (c.answer router).map reached = some (handler, ns.zip (c.values.map Value.read)) := by
  obtain ⟨e, first, describes⟩ := Option.map_eq_some_iff.1 own
  have mem : e ∈ apiEndpoints := List.mem_of_find?_eq_some first
  have same := List.find?_some first
  rw [Bool.and_eq_true, beq_iff_eq, beq_iff_eq] at same
  obtain ⟨method, fullPath⟩ := same
  obtain ⟨rfl, rfl⟩ := Prod.ext_iff.1 describes
  rw [c.answer_eq, ← method, ← fullPath,
    answer_of_mem bySegments mem ((List.length_map _).trans count) (Call.carried fits)]
  rfl

/-- A template that every route is apart from is not served. -/
theorem answer_none (bySegments : BySegments apiRoutes router) {method template : String}
    (plain : plainTemplate template = true)
    (far : ∀ r ∈ apiRoutes, apart r.pieces (pieces template) = true) {values : List Bytes}
    (count : values.length = (names (pieces template)).length)
    (carried : ∀ v ∈ values, Carried v) : answer router method template values = none := by
  rw [answer, urlPath_eq (sendable_of_plain plain count carried)]
  exact route_requestPath_none bySegments (fun r mem _ => far r mem) keepComponent_escapes
    (sendable_of_plain plain count carried)

/-- No route of any method has the shape of the URL without a namespace. -/
theorem unscoped_apart : ∀ r ∈ apiRoutes,
    apart r.pieces (pieces (baseURL ++ unscopedURL)) = true := by
  have fixed : pieces (baseURL ++ unscopedURL) =
      [.literal (bytes "api"), .literal (bytes "v1"), .literal (bytes "clusters"), .param "code",
        .literal (bytes "resources"), .param "apiVersion", .param "kind", .param "name"] := by
    decide +kernel
  have all : apiRoutes.all (fun r => apart r.pieces
      [.literal (bytes "api"), .literal (bytes "v1"), .literal (bytes "clusters"), .param "code",
        .literal (bytes "resources"), .param "apiVersion", .param "kind", .param "name"]) =
      true := by
    decide +kernel
  intro r mem
  rw [fixed]
  exact List.all_eq_true.1 all r mem

theorem objectCall_answer (bySegments : BySegments apiRoutes router) {method handler : String}
    (own : found method (baseURL ++ objectURL) =
      some (handler, ["code", "apiVersion", "kind", "namespace", "name"]))
    {code apiVersion kind ns name : Bytes}
    (fits : ∀ v ∈ (objectCall method code apiVersion kind ns name).values, v.Fits) :
    ((objectCall method code apiVersion kind ns name).answer router).map reached =
      if ns == [] then none
      else some (handler, [("code", code), ("apiVersion", apiVersion), ("kind", kind),
        ("namespace", ns), ("name", name)]) := by
  cases ns with
  | nil =>
      have parameters : 4 = (names (pieces (baseURL ++ unscopedURL))).length := by decide +kernel
      have count : [code, apiVersion, kind, name].length =
          (names (pieces (baseURL ++ unscopedURL))).length := parameters
      have unserved : answer router method (baseURL ++ unscopedURL)
          [code, apiVersion, kind, name] = none :=
        answer_none bySegments (by decide +kernel) unscoped_apart count (Call.carried fits)
      rw [Call.answer_eq]
      exact congrArg (Option.map reached) unserved
  | cons b rest => exact Call.reached_of_found bySegments own rfl fits

/-- The namespaces are listed as resources of a fixed kind. -/
theorem listNamespaces_eq (code : Bytes) :
    answer router "GET" (baseURL ++ "/clusters/:code/resources/v1/Namespace") [code] =
      answer router "GET" (baseURL ++ "/clusters/:code/resources/:apiVersion/:kind")
        [code, bytes "v1", bytes "Namespace"] := by
  have fixed : pieces (baseURL ++ "/clusters/:code/resources/v1/Namespace") =
      [.literal (bytes "api"), .literal (bytes "v1"), .literal (bytes "clusters"), .param "code",
        .literal (bytes "resources"), .literal (bytes "v1"), .literal (bytes "Namespace")] := by
    decide +kernel
  have named : pieces (baseURL ++ "/clusters/:code/resources/:apiVersion/:kind") =
      [.literal (bytes "api"), .literal (bytes "v1"), .literal (bytes "clusters"), .param "code",
        .literal (bytes "resources"), .param "apiVersion", .param "kind"] := by
    decide +kernel
  have plain : encodeURIComponent (bytes "v1") = bytes "v1" ∧
      encodeURIComponent (bytes "Namespace") = bytes "Namespace" := by decide +kernel
  have same : urlPath (baseURL ++ "/clusters/:code/resources/v1/Namespace") [code] =
      urlPath (baseURL ++ "/clusters/:code/resources/:apiVersion/:kind")
        [code, bytes "v1", bytes "Namespace"] := by
    rw [urlPath, urlPath, fixed, named, List.map_cons, List.map_cons, List.map_cons, List.map_nil,
      List.map_cons, List.map_nil, plain.1, plain.2]
    rfl
  rw [answer, answer, same]

/-- With a router that keeps the raw path, every call of the services is served by the handler it is
made for, with the values it is made with; but what is asked about one object without a namespace
has no route. -/
theorem calls_served (bySegments : BySegments apiRoutes router) {c : ServiceCall}
    (fits : ∀ v ∈ c.query.values, v.Fits) :
    (c.query.answer router).map reached = if c.clusterScoped then none else some c.target := by
  cases c with
  | getResource code apiVersion kind ns name =>
      exact objectCall_answer bySegments (by decide +kernel) fits
  | updateResource code apiVersion kind ns name =>
      exact objectCall_answer bySegments (by decide +kernel) fits
  | deleteResource code apiVersion kind ns name =>
      exact objectCall_answer bySegments (by decide +kernel) fits
  | listNamespaces code =>
      let listed : Call := ⟨"GET", "/clusters/:code/resources/:apiVersion/:kind",
        [code, bytes "v1", bytes "Namespace"].map .text⟩
      have own : found "GET" (baseURL ++ "/clusters/:code/resources/:apiVersion/:kind") =
          some ("ListResources", ["code", "apiVersion", "kind"]) := by decide +kernel
      have fixed : Carried (bytes "v1") ∧ Carried (bytes "Namespace") := by decide +kernel
      have fitting : ∀ v ∈ listed.values, v.Fits := by
        refine List.forall_mem_cons.2 ⟨fits _ List.mem_cons_self, ?_⟩
        exact List.forall_mem_cons.2 ⟨fixed.1, List.forall_mem_singleton.2 fixed.2⟩
      have served := Call.reached_of_found bySegments (c := listed) own rfl fitting
      rw [Call.answer_eq] at served ⊢
      exact (congrArg (Option.map reached) (listNamespaces_eq code)).trans served
  | listResources code apiVersion kind =>
      have own : found "GET" (baseURL ++ "/clusters/:code/resources/:apiVersion/:kind") =
          some ("ListResources", ["code", "apiVersion", "kind"]) := by decide +kernel
      exact Call.reached_of_found bySegments own rfl fits
  | createResource code apiVersion kind =>
      have own : found "POST" (baseURL ++ "/clusters/:code/resources/:apiVersion/:kind") =
          some ("CreateResource", ["code", "apiVersion", "kind"]) := by decide +kernel
      exact Call.reached_of_found bySegments own rfl fits
  | listBackups =>
      have own : found "GET" (baseURL ++ "/backups") =
          some ("ListBackups", []) := by decide +kernel
      exact Call.reached_of_found bySegments own rfl fits
  | createBackup code =>
      have own : found "POST" (baseURL ++ "/clusters/:code/backups") =
          some ("CreateBackup", ["code"]) := by decide +kernel
      exact Call.reached_of_found bySegments own rfl fits
  | getBackup id =>
      have own : found "GET" (baseURL ++ "/backups/:id") =
          some ("GetBackup", ["id"]) := by decide +kernel
      exact Call.reached_of_found bySegments own rfl fits
  | restoreBackup id =>
      have own : found "POST" (baseURL ++ "/backups/:id/restore") =
          some ("RestoreBackup", ["id"]) := by decide +kernel
      exact Call.reached_of_found bySegments own rfl fits
  | deleteBackup id =>
      have own : found "DELETE" (baseURL ++ "/backups/:id") =
          some ("DeleteBackup", ["id"]) := by decide +kernel
      exact Call.reached_of_found bySegments own rfl fits
  | downloadBackup id =>
      have own : found "GET" (baseURL ++ "/backups/:id/download") =
          some ("DownloadBackup", ["id"]) := by decide +kernel
      exact Call.reached_of_found bySegments own rfl fits
  | listReleases clusterCode =>
      have own : found "GET" (baseURL ++ "/clusters/:code/helm/releases") =
          some ("ListReleases", ["code"]) := by decide +kernel
      exact Call.reached_of_found bySegments own rfl fits
  | installRelease clusterCode =>
      have own : found "POST" (baseURL ++ "/clusters/:code/helm/releases") =
          some ("InstallRelease", ["code"]) := by decide +kernel
      exact Call.reached_of_found bySegments own rfl fits
  | uninstallRelease clusterCode ns name =>
      have own : found "DELETE" (baseURL ++ "/clusters/:code/helm/releases/:namespace/:name") =
          some ("UninstallRelease", ["code", "namespace", "name"]) := by decide +kernel
      exact Call.reached_of_found bySegments own rfl fits
  | rollbackRelease clusterCode ns name =>
      have own : found "POST"
          (baseURL ++ "/clusters/:code/helm/releases/:namespace/:name/rollback") =
          some ("RollbackRelease", ["code", "namespace", "name"]) := by decide +kernel
      exact Call.reached_of_found bySegments own rfl fits
  | listHistory clusterCode ns name =>
      have own : found "GET" (baseURL ++ "/clusters/:code/helm/releases/:namespace/:name/history") =
          some ("ListHistory", ["code", "namespace", "name"]) := by decide +kernel
      exact Call.reached_of_found bySegments own rfl fits
  | listRepos =>
      have own : found "GET" (baseURL ++ "/helm/repos") =
          some ("ListRepos", []) := by decide +kernel
      exact Call.reached_of_found bySegments own rfl fits
  | addRepo =>
      have own : found "POST" (baseURL ++ "/helm/repos") =
          some ("AddRepo", []) := by decide +kernel
      exact Call.reached_of_found bySegments own rfl fits
  | removeRepo name =>
      have own : found "DELETE" (baseURL ++ "/helm/repos/:name") =
          some ("RemoveRepo", ["name"]) := by decide +kernel
      exact Call.reached_of_found bySegments own rfl fits
  | updateRepos =>
      have own : found "POST" (baseURL ++ "/helm/repos/update") =
          some ("UpdateRepos", []) := by decide +kernel
      exact Call.reached_of_found bySegments own rfl fits
  | searchCharts =>
      have own : found "GET" (baseURL ++ "/helm/charts") =
          some ("SearchCharts", []) := by decide +kernel
      exact Call.reached_of_found bySegments own rfl fits
  | podLogs clusterCode ns podName =>
      have own : found "GET" (baseURL ++ "/clusters/:code/pods/:namespace/:pod/logs") =
          some ("StreamPodLogsHandler", ["code", "namespace", "pod"]) := by decide +kernel
      exact Call.reached_of_found bySegments own rfl fits

/-- A namespace is no object of a namespace: its page finds no route. -/
theorem namespace_page_unserved :
    ((ServiceCall.getResource (bytes "prod") (bytes "v1") (bytes "Namespace") []
      (bytes "shop")).query.answer (firstMatch apiRoutes)).map reached = none := by
  have carried : Carried (bytes "prod") ∧ Carried (bytes "v1") ∧ Carried (bytes "Namespace") ∧
      Carried (bytes "shop") := by decide +kernel
  have fits : ∀ v ∈ (ServiceCall.getResource (bytes "prod") (bytes "v1") (bytes "Namespace") []
      (bytes "shop")).query.values, v.Fits := by
    obtain ⟨code, apiVersion, kind, name⟩ := carried
    exact List.forall_mem_cons.2 ⟨code, List.forall_mem_cons.2 ⟨apiVersion,
      List.forall_mem_cons.2 ⟨kind, List.forall_mem_singleton.2 name⟩⟩⟩
  exact calls_served (firstMatch_bySegments apiRoutes) fits

end K8sPlatform.Api
