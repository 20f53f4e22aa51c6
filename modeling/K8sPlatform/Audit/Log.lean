import K8sPlatform.Audit.Masking
import K8sPlatform.Audit.Redaction
import K8sPlatform.Lib.JsonText

/-! # The rows of the audit log -/

namespace K8sPlatform.Audit

open JsonText Query

universe u

variable {F : Type u}

/-- `encoding/json`: how a body is read, and how a number is written. -/
structure JsonLib (F : Type u) where
  unmarshal : Bytes → Option (JsonTree F)
  formatFloat : F → Option (List Char)

variable (lib : JsonLib F)

/-- Empty for no body. -/
def maskAndTruncateBody (contentType : String) (body : Bytes) (maxBytes : Nat) : Bytes :=
  if body = [] then []
  else if Text.hasInfix "application/json" contentType = false then
    utf8 "\"(non-json body truncated)\""
  else
    match lib.unmarshal body with
    | none => utf8 "\"(invalid json)\""
    | some obj =>
        match marshal lib.formatFloat (maskSensitive obj) with
        | none => utf8 "\"(marshal error)\""
        | some out =>
            if maxBytes < (Text.utf8 out).length then
              (Text.utf8 out).take maxBytes ++ utf8 "...(truncated)"
            else Text.utf8 out

/-- `JSONB.Value`: what goes to the column, NULL for `none`. -/
def jsonbValue (j : Bytes) : Option Bytes := if j = [] ∨ j = utf8 "null" then none else some j

/-- Nothing, or a document. -/
def Storable (out : Bytes) : Prop := out = [] ∨ Valid out

/-- The body, if it is a document, is written in no more than the limit after masking. -/
def Fits (contentType : String) (body : Bytes) (maxBytes : Nat) : Prop :=
  ∀ obj out, body ≠ [] → Text.hasInfix "application/json" contentType = true →
    lib.unmarshal body = some obj → marshal lib.formatFloat (maskSensitive obj) = some out →
      (Text.utf8 out).length ≤ maxBytes

section

variable {lib}

theorem valid_of_quote {s : String} (inner : String) (quoted : s.toList = quote inner) :
    Valid (utf8 s) :=
  ⟨s.toList, quoted ▸ (Derives.string (chars_flatMap inner.toList)).alone, rfl⟩

theorem fallbacks_valid : Valid (utf8 "\"(non-json body truncated)\"") ∧
    Valid (utf8 "\"(invalid json)\"") ∧ Valid (utf8 "\"(marshal error)\"") :=
  ⟨valid_of_quote "(non-json body truncated)" (by decide +kernel),
    valid_of_quote "(invalid json)" (by decide +kernel),
    valid_of_quote "(marshal error)" (by decide +kernel)⟩

theorem truncated_invalid (front : Bytes) : ¬Valid (front ++ utf8 "...(truncated)") := by
  have parts : utf8 "...(truncated)" =
      utf8 "...(truncated" ++ [UInt8.ofNat ')'.toNat] := by decide
  rw [parts, ← List.append_assoc]
  exact not_valid_of_last (by decide) (by decide) _

theorem maskAndTruncateBody_fits (numbers : WritesNumbers lib.formatFloat)
    {contentType : String} {body : Bytes} {maxBytes : Nat} :
    Storable (maskAndTruncateBody lib contentType body maxBytes) ↔
      Fits lib contentType body maxBytes := by
  obtain ⟨nonJson, invalid, unwritten⟩ := fallbacks_valid
  unfold maskAndTruncateBody
  split_ifs with empty other
  · exact iff_of_true (.inl rfl) fun _ _ notEmpty => absurd empty notEmpty
  · apply iff_of_true (.inr nonJson)
    intro _ _ _ json
    rw [json] at other
    cases other
  · cases read : lib.unmarshal body with
    | none =>
        apply iff_of_true (.inr invalid)
        intro _ _ _ _ found
        rw [read] at found
        cases found
    | some obj =>
        dsimp only
        cases written : marshal lib.formatFloat (maskSensitive obj) with
        | none =>
            apply iff_of_true (.inr unwritten)
            intro obj' _ _ _ found out
            rw [read] at found
            rw [Option.some.inj found, out] at written
            cases written
        | some out =>
            dsimp only
            split_ifs with long
            · refine iff_of_false ?_ fun fits => ?_
              · rintro (none_ | valid)
                · exact List.append_ne_nil_of_right_ne_nil _ (by decide) none_
                · exact truncated_invalid _ valid
              · have short := fits obj out empty (by simpa using other) read written
                omega
            · apply iff_of_true (.inr (valid_marshal numbers written))
              intro obj' out' _ _ found written'
              rw [read] at found
              rw [← Option.some.inj found, written] at written'
              rw [← Option.some.inj written']
              omega

end

/-- What the middleware reads of a request and of its answer; a header or a parameter that is absent
reads as empty. -/
structure Exchange where
  method : String
  path : String
  requestURI : String
  contentType : String
  header : String → String
  param : String → String
  remoteIP : String
  traceID : String
  permCode : Option String
  userID : Option Nat
  username : Option String
  status : Int
  costMs : Int
  body : Bytes

structure AuditLog where
  traceID : String
  userID : Nat
  username : String
  clientIP : String
  userAgent : String
  moduleName : String
  action : String
  targetType : String
  targetID : String
  clusterCode : String
  ns : String
  status : String
  requestMethod : String
  requestURI : String
  requestBody : Bytes
  responseCode : Int
  costMs : Int

def isWriteMethod (m : String) : Bool := m ∈ ["POST", "PUT", "PATCH", "DELETE"]

/-- The text before the first `sep`, if some text is there. -/
def upTo (sep : Char) (s : String) : String :=
  match Text.cut sep s with
  | some (front, _) => if front = "" then s else front
  | none => s

def moduleFromPath (path : String) : String :=
  let p := (Text.cutPrefix "/api/v1/" path).getD path
  upTo '/' ((Text.cutPrefix "/" p).getD p)

def parseModuleAction (c : Exchange) : String × String :=
  match c.permCode with
  | some code =>
      if code = "" then fallback
      else
        match Text.cut ':' code with
        | some (front, back) => if front = "" then (code, "") else (front, back)
        | none => (code, "")
  | none => fallback
where
  fallback : String × String :=
    if moduleFromPath c.path = "" then ("", "")
    else (moduleFromPath c.path, Text.toLower c.method)

def pickClusterCode (c : Exchange) : String :=
  if c.param "code" ≠ "" then c.param "code" else c.header "X-Cluster-Code"

def pickNamespace (c : Exchange) : String :=
  if c.param "namespace" ≠ "" then c.param "namespace" else c.header "X-Namespace"

def pickTarget (c : Exchange) : String × String :=
  let targetType := moduleFromPath c.path
  if c.param "id" ≠ "" then (targetType, c.param "id")
  else if c.param "name" ≠ "" then (targetType, c.param "name")
  else if c.param "code" ≠ "" then (targetType, c.param "code")
  else (targetType, "")

def clientIP (c : Exchange) : String :=
  if c.header "X-Forwarded-For" ≠ "" then
    Text.trimSpace ((Text.split ',' (c.header "X-Forwarded-For")).headD "")
  else if c.header "X-Real-IP" ≠ "" then c.header "X-Real-IP"
  else c.remoteIP

def auditEntry (maxBytes : Nat) (c : Exchange) : AuditLog where
  traceID := c.traceID
  userID := c.userID.getD 0
  username := c.username.getD ""
  clientIP := clientIP c
  userAgent := c.header "User-Agent"
  moduleName := (parseModuleAction c).1
  action := (parseModuleAction c).2
  targetType := (pickTarget c).1
  targetID := (pickTarget c).2
  clusterCode := pickClusterCode c
  ns := pickNamespace c
  status := if c.status ≥ 400 then "fail" else "success"
  requestMethod := c.method
  requestURI := c.requestURI
  requestBody := maskAndTruncateBody lib c.contentType c.body maxBytes
  responseCode := c.status
  costMs := c.costMs

/-- A row that the table does not take is lost, and only logged. -/
def writeAuditLog (accepts : AuditLog → Bool) (maxBytes : Nat) (rows : List AuditLog)
    (c : Exchange) : List AuditLog :=
  if (parseModuleAction c).1 = "" then rows
  else if accepts (auditEntry lib maxBytes c) then rows ++ [auditEntry lib maxBytes c]
  else rows

def auditMiddleware (accepts : AuditLog → Bool) (maxBytes : Nat) (rows : List AuditLog)
    (c : Exchange) : List AuditLog :=
  if isWriteMethod c.method then writeAuditLog lib accepts maxBytes rows c else rows

/-- The row that the request is to leave. -/
def auditRow (maxBytes : Nat) (c : Exchange) : Option AuditLog :=
  if isWriteMethod c.method = true ∧ (parseModuleAction c).1 ≠ "" then
    some (auditEntry lib maxBytes c)
  else none

/-- The table refuses what is no document in the column of the body, and nothing else. -/
def ChecksBodies (accepts : AuditLog → Bool) : Prop :=
  ∀ entry, accepts entry = true ↔ ∀ b, jsonbValue entry.requestBody = some b → Valid b

theorem storable_iff {out : Bytes} :
    Storable out ↔ ∀ b, jsonbValue out = some b → Valid b := by
  unfold jsonbValue Storable
  split_ifs with null
  · refine iff_of_true ?_ fun b none_ => by cases none_
    rcases null with empty | eq
    · exact .inl empty
    · exact .inr ⟨_, Derives.null.alone, eq⟩
  · rw [not_or] at null
    constructor
    · rintro (empty | valid) b eq
      · exact absurd empty null.1
      · rwa [← Option.some.inj eq]
    · exact fun valid => .inr (valid out rfl)

section

variable {lib} {accepts : AuditLog → Bool} {maxBytes : Nat}

theorem auditMiddleware_keeps (numbers : WritesNumbers lib.formatFloat)
    (checks : ChecksBodies accepts) {c : Exchange}
    (fits : Fits lib c.contentType c.body maxBytes) (rows : List AuditLog) :
    auditMiddleware lib accepts maxBytes rows c =
      rows ++ (auditRow lib maxBytes c).toList := by
  have taken : accepts (auditEntry lib maxBytes c) = true :=
    (checks _).2 (storable_iff.1 ((maskAndTruncateBody_fits numbers).2 fits))
  unfold auditMiddleware writeAuditLog auditRow
  by_cases write : isWriteMethod c.method = true
  · by_cases unknown : (parseModuleAction c).1 = ""
    · simp [write, unknown]
    · simp [write, unknown, taken]
  · simp [write]

/-- A request whose body is cut leaves no row. -/
theorem auditMiddleware_loses (numbers : WritesNumbers lib.formatFloat)
    (checks : ChecksBodies accepts) {c : Exchange}
    (cut : ¬Fits lib c.contentType c.body maxBytes) (rows : List AuditLog) :
    auditMiddleware lib accepts maxBytes rows c = rows := by
  have refused : ¬accepts (auditEntry lib maxBytes c) = true := fun taken =>
    cut ((maskAndTruncateBody_fits numbers).1 (storable_iff.2 ((checks _).1 taken)))
  unfold auditMiddleware writeAuditLog
  simp [refused]

/-- Where every body fits, the log has a row for every request that is to leave one. -/
theorem rows_of_requests (numbers : WritesNumbers lib.formatFloat)
    (checks : ChecksBodies accepts) {cs : List Exchange}
    (fits : ∀ c ∈ cs, Fits lib c.contentType c.body maxBytes) (rows : List AuditLog) :
    cs.foldl (auditMiddleware lib accepts maxBytes) rows =
      rows ++ cs.filterMap (auditRow lib maxBytes) := by
  induction cs generalizing rows with
  | nil => exact (List.append_nil rows).symm
  | cons c cs ih =>
      obtain ⟨first, rest⟩ := List.forall_mem_cons.1 fits
      rw [List.foldl_cons, auditMiddleware_keeps numbers checks first, ih rest, List.append_assoc]
      congr 1
      cases row : auditRow lib maxBytes c with
      | none => rw [List.filterMap_cons_none row, Option.toList_none, List.nil_append]
      | some entry =>
          rw [List.filterMap_cons_some row]
          rfl

end

/-- A body is stored as a document just when it is not cut, and its row is in the log just then. -/
theorem maskAndTruncateBody_storable_iff (numbers : WritesNumbers lib.formatFloat)
    (contentType : String) (body : Bytes) (maxBytes : Nat) :
    (Storable (maskAndTruncateBody lib contentType body maxBytes) ↔
        Fits lib contentType body maxBytes) ∧
      ∀ accepts, ChecksBodies accepts → ∀ c rows entry, c.contentType = contentType →
        c.body = body → auditRow lib maxBytes c = some entry →
          (auditMiddleware lib accepts maxBytes rows c = rows ++ [entry] ↔
            Fits lib contentType body maxBytes) := by
  refine ⟨maskAndTruncateBody_fits numbers, ?_⟩
  rintro accepts checks c rows entry rfl rfl leaves
  constructor
  · intro kept
    by_contra cut
    rw [auditMiddleware_loses numbers checks cut] at kept
    exact List.cons_ne_nil _ _ (List.self_eq_append_right.1 kept)
  · intro fits
    rw [auditMiddleware_keeps numbers checks fits, leaves]
    rfl

/-- The numbers of one digit. -/
def digitLib (read : Bytes → Option (JsonTree (Fin 10))) : JsonLib (Fin 10) where
  unmarshal := read
  formatFloat x := some [Nat.digitChar x]

theorem digitLib_numbers (read : Bytes → Option (JsonTree (Fin 10))) :
    WritesNumbers (digitLib read).formatFloat := by
  intro x t written
  obtain rfl := Option.some.inj written
  have digit : ∀ y : Fin 10, (Nat.digitChar y).isDigit = true := by decide
  have digits : Digits [Nat.digitChar x] :=
    ⟨List.cons_ne_nil _ _, fun c mem => List.mem_singleton.1 mem ▸ digit x⟩
  have whole : Whole [Nat.digitChar x] := by
    refine ⟨digits, ?_⟩
    by_cases zero : Nat.digitChar x = '0'
    · exact .inl (by rw [zero])
    · exact .inr fun rest eq => zero (List.cons.inj eq).1
  exact ⟨[], _, [], [], .inl rfl, whole, .inl rfl, .inl rfl, by simp⟩

def scaleBody : Bytes := utf8 "\x7b\"replicas\": 3, \"token\": \"abc\"\x7d"

def scaleLib : JsonLib (Fin 10) := digitLib fun body =>
  if body = scaleBody then some (.obj [("replicas", .num 3), ("token", .str "abc")]) else none

theorem scaleBody_fits : Fits scaleLib "application/json" scaleBody 4096 := by
  intro obj out _ _ read written
  have all : (scaleLib.unmarshal scaleBody).bind
      (fun obj => marshal scaleLib.formatFloat (maskSensitive obj)) =
        some "\x7b\"replicas\":3,\"token\":\"***\"\x7d".toList := by
    decide +kernel
  rw [read, Option.bind_some, written] at all
  rw [Option.some.inj all]
  decide +kernel

theorem scaleBody_storable :
    Storable (maskAndTruncateBody scaleLib "application/json" scaleBody 4096) :=
  (maskAndTruncateBody_storable_iff scaleLib (digitLib_numbers _) "application/json" scaleBody
    4096).1.2 scaleBody_fits

/-- A limit of eight bytes cuts the document after its first letters. -/
theorem scaleBody_cut :
    maskAndTruncateBody scaleLib "application/json" scaleBody 8 =
        utf8 "\x7b\"replic...(truncated)" ∧
      ¬Storable (maskAndTruncateBody scaleLib "application/json" scaleBody 8) := by
  have cut : maskAndTruncateBody scaleLib "application/json" scaleBody 8 =
      utf8 "\x7b\"replic" ++ utf8 "...(truncated)" := by decide +kernel
  refine ⟨by rw [cut]; decide, ?_⟩
  rw [cut]
  rintro (none_ | valid)
  · exact List.append_ne_nil_of_right_ne_nil _ (by decide) none_
  · exact truncated_invalid _ valid

end K8sPlatform.Audit
