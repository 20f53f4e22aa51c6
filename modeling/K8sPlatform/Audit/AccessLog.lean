import K8sPlatform.Audit.Log
import K8sPlatform.Lib.Transition

/-! # The lines of the access log -/

namespace K8sPlatform.Audit

open Transition

inductive FieldValue where
  | text (s : String)
  | number (n : Int)
  | texts (ss : List String)
  deriving DecidableEq

abbrev Fields := List (String × FieldValue)

/-- The context of a logger; `With` leaves the logger as it is and returns one with more fields. -/
structure Logger where
  fields : Fields
  deriving DecidableEq

def Logger.withFields (l : Logger) (keysAndValues : Fields) : Logger :=
  ⟨l.fields ++ keysAndValues⟩

/-- `RequestID`: the header, else a fresh uuid without its hyphens. -/
def requestID (header uuid : String) : String :=
  if header = "" then String.ofList (uuid.toList.filter (· ≠ '-')) else header

inductive Level where
  | info
  | warn
  | error

structure Line where
  request : Nat
  level : Level
  message : String
  context : Fields
  fields : Fields

inductive Stage where
  /-- `With` has returned this logger, which is not assigned yet. -/
  | entering (made : Logger)
  /-- The handlers run. -/
  | entered
  | answered

structure LoggedRequest where
  traceID : String
  stage : Stage

/-- `AccessLog` serves all requests with one variable `log`. -/
structure AccessLog where
  log : Logger
  requests : List LoggedRequest
  lines : List Line

inductive AccessEvent where
  /-- `log.With("trace_id", ..)` -/
  | arrive (header uuid : String)
  /-- `log = ..` -/
  | assign (r : Nat)
  /-- `c.Next()` returns, and the line is written. -/
  | answer (r : Nat) (c : Exchange) (errors : List String)

def traceField (traceID : String) : String × FieldValue := ("trace_id", .text traceID)

def lineFields (c : Exchange) (errors : List String) : Fields :=
  [("method", .text c.method), ("path", .text c.path), ("status", .number c.status),
    ("cost_ms", .number c.costMs), ("client_ip", .text (clientIP c)),
    ("user_agent", .text (c.header "User-Agent"))] ++
  if errors = [] then [] else [("errors", .texts errors)]

def lineLevel (status : Int) : Level :=
  if status ≥ 500 then .error else if status ≥ 400 then .warn else .info

namespace AccessLog

def start : AccessLog := ⟨⟨[]⟩, [], []⟩

def setStage (s : AccessLog) (r : Nat) (q : LoggedRequest) (stage : Stage) : AccessLog :=
  { s with requests := s.requests.set r { q with stage := stage } }

def arrived (s : AccessLog) (traceID : String) : AccessLog :=
  { s with requests :=
      s.requests ++ [⟨traceID, .entering (s.log.withFields [traceField traceID])⟩] }

def assigned (s : AccessLog) (r : Nat) (q : LoggedRequest) (made : Logger) : AccessLog :=
  { s.setStage r q .entered with log := made }

def written (s : AccessLog) (r : Nat) (q : LoggedRequest) (c : Exchange) (errors : List String) :
    AccessLog :=
  { s.setStage r q .answered with
    lines := s.lines ++
      [⟨r, lineLevel c.status, "HTTP " ++ c.method ++ " " ++ c.path, s.log.fields,
        lineFields c errors⟩] }

def next (s : AccessLog) : AccessEvent → AccessLog
  | .arrive header uuid => s.arrived (requestID header uuid)
  | .assign r =>
      match s.requests[r]? with
      | some ⟨t, .entering made⟩ => s.assigned r ⟨t, .entering made⟩ made
      | _ => s
  | .answer r c errors =>
      match s.requests[r]? with
      | some ⟨t, .entered⟩ => s.written r ⟨t, .entered⟩ c errors
      | _ => s

end AccessLog

def Stage.isIn : Stage → Bool
  | .entering _ => false
  | .entered => true
  | .answered => true

/-- The trace ids of the requests that have assigned, in the order in which they arrived. -/
def traces (qs : List LoggedRequest) : Fields :=
  (qs.filter (·.stage.isIn)).map fun q => traceField q.traceID

theorem traces_append (ps qs : List LoggedRequest) :
    traces (ps ++ qs) = traces ps ++ traces qs := by
  simp only [traces, List.filter_append, List.map_append]

theorem traces_cons (q : LoggedRequest) (qs : List LoggedRequest) :
    traces (q :: qs) = traces [q] ++ traces qs := traces_append [q] qs

theorem traces_entering (t : String) (made : Logger) : traces [⟨t, .entering made⟩] = [] := rfl

theorem traces_parts {qs : List LoggedRequest} {r : Nat} {q : LoggedRequest}
    (found : qs[r]? = some q) :
    traces qs = traces (qs.take r) ++ traces [q] ++ traces (qs.drop (r + 1)) := by
  obtain ⟨inside, rfl⟩ := List.getElem?_eq_some_iff.1 found
  rw [List.append_assoc, ← traces_cons, List.getElem_cons_drop, ← traces_append,
    List.take_append_drop]

theorem traces_set {qs : List LoggedRequest} {r : Nat} {q : LoggedRequest}
    (found : qs[r]? = some q) (q' : LoggedRequest) :
    traces (qs.set r q') = traces (qs.take r) ++ traces [q'] ++ traces (qs.drop (r + 1)) := by
  obtain ⟨inside, rfl⟩ := List.getElem?_eq_some_iff.1 found
  rw [List.set_eq_take_append_cons_drop, if_pos inside, traces_append, traces_cons,
    List.append_assoc]

theorem length_traces_set_le {qs : List LoggedRequest} {r : Nat} {q : LoggedRequest}
    (isIn : q.stage.isIn = true) : (traces qs).length ≤ (traces (qs.set r q)).length := by
  by_cases inside : r < qs.length
  · have found : qs[r]? = some qs[r] := List.getElem?_eq_getElem inside
    have own : (traces [q]).length = 1 := by simp [traces, isIn]
    have old : (traces [qs[r]]).length ≤ 1 := by
      simpa [traces] using List.length_filter_le (·.stage.isIn) [qs[r]]
    rw [traces_set found, traces_parts found]
    simp only [List.length_append]
    omega
  · rw [List.set_eq_of_length_le (by omega)]

theorem traces_restage {qs : List LoggedRequest} {r : Nat} {q : LoggedRequest}
    (found : qs[r]? = some q) (isIn : q.stage.isIn = true) {stage : Stage}
    (isIn' : stage.isIn = true) : traces (qs.set r { q with stage := stage }) = traces qs := by
  have same : traces [{ q with stage := stage }] = traces [q] := by simp [traces, isIn, isIn']
  rw [traces_set found, traces_parts found, same]

namespace AccessLog

/-- The shared logger has the trace ids of just the requests that have entered. -/
def Accumulated (s : AccessLog) : Prop := s.log.fields = traces s.requests

/-- What is assigned is the shared logger with one more id. -/
def Current (s : AccessLog) : AccessEvent → Prop
  | .assign r => ∀ t made, s.requests[r]? = some ⟨t, .entering made⟩ →
      made = s.log.withFields [traceField t]
  | _ => True

/-- What a request that is entering holds was there when it arrived. -/
def Held (s : AccessLog) : Prop :=
  ∀ r t made, s.requests[r]? = some ⟨t, .entering made⟩ →
    made.fields.length ≤ (traces (s.requests.take r)).length + 1

theorem Held.setStage {s : AccessLog} (held : Held s) {r : Nat} {q : LoggedRequest} {stage : Stage}
    (isIn : stage.isIn = true) : Held (s.setStage r q stage) := by
  intro r' t made found
  have other : r' ≠ r := by
    rintro rfl
    have inside : r' < (s.requests.set r' { q with stage := stage }).length :=
      (List.getElem?_eq_some_iff.1 found).1
    rw [List.length_set] at inside
    rw [AccessLog.setStage, List.getElem?_set_self inside] at found
    cases found
    cases isIn
  have old : s.requests[r']? = some ⟨t, .entering made⟩ := by
    rwa [AccessLog.setStage, List.getElem?_set_ne other.symm] at found
  have grown : (traces (s.requests.take r')).length ≤
      (traces ((s.requests.take r').set r { q with stage := stage })).length :=
    length_traces_set_le isIn
  rw [AccessLog.setStage, List.take_set]
  exact (held r' t made old).trans (by omega)

theorem Held.arrived {s : AccessLog} (held : Held s) (good : Accumulated s) (t : String) :
    Held (s.arrived t) := by
  intro r t' made found
  rw [AccessLog.arrived] at found ⊢
  rcases Nat.lt_or_ge r s.requests.length with old | new
  · rw [List.getElem?_append_left old] at found
    rw [List.take_append_of_le_length old.le]
    exact held r t' made found
  · obtain rfl : r = s.requests.length := by
      have inside := (List.getElem?_eq_some_iff.1 found).1
      rw [List.length_append, List.length_singleton] at inside
      omega
    rw [List.getElem?_concat_length] at found
    cases found
    rw [List.take_left, ← good]
    exact (List.length_append).le

theorem Held.next {s : AccessLog} (held : Held s) (good : Accumulated s) (e : AccessEvent) :
    Held (s.next e) := by
  cases e with
  | arrive header uuid => exact held.arrived good _
  | assign r =>
      rw [AccessLog.next]
      split
      · exact held.setStage rfl
      · exact held
  | answer r c errors =>
      rw [AccessLog.next]
      split
      · exact held.setStage rfl
      · exact held

/-- A request whose logger is one longer than the shared one arrived after all that have entered. -/
theorem Held.none_after {s : AccessLog} (held : Held s) (good : Accumulated s) {r : Nat}
    {t : String} {made : Logger} (found : s.requests[r]? = some ⟨t, .entering made⟩)
    (longer : made.fields.length = s.log.fields.length + 1) :
    traces (s.requests.drop (r + 1)) = [] := by
  have all : s.log.fields = traces (s.requests.take r) ++ traces (s.requests.drop (r + 1)) := by
    rw [good, traces_parts found, traces_entering, List.append_nil]
  have bound := held r t made found
  rw [longer, all, List.length_append] at bound
  exact List.length_eq_zero_iff.1 (by omega)

theorem accumulated_assigned_iff {s : AccessLog} (held : Held s) (good : Accumulated s) {r : Nat}
    {t : String} {made : Logger} (found : s.requests[r]? = some ⟨t, .entering made⟩) :
    Accumulated (s.assigned r ⟨t, .entering made⟩ made) ↔
      made = s.log.withFields [traceField t] := by
  have before : s.log.fields =
      traces (s.requests.take r) ++ traces (s.requests.drop (r + 1)) := by
    rw [good, traces_parts found, traces_entering, List.append_nil]
  have after : traces (s.assigned r ⟨t, .entering made⟩ made).requests =
      traces (s.requests.take r) ++ [traceField t] ++ traces (s.requests.drop (r + 1)) :=
    traces_set found _
  constructor
  · intro kept
    have fields : made.fields = _ := kept.trans after
    have none_ := held.none_after good found (by
      rw [fields, before]
      simp only [List.length_append, List.length_singleton]
      omega)
    rw [none_, List.append_nil] at fields before
    rw [Logger.withFields, before, ← fields]
  · intro eq
    have none_ := held.none_after good found (by
      rw [eq, Logger.withFields, List.length_append, List.length_singleton])
    rw [none_, List.append_nil] at before after
    rw [Accumulated, after, ← before]
    exact congrArg Logger.fields eq

theorem accumulated_next_iff {s : AccessLog} (held : Held s) (good : Accumulated s)
    (e : AccessEvent) : Accumulated (s.next e) ↔ Current s e := by
  cases e with
  | arrive header uuid =>
      apply iff_of_true _ trivial
      rw [Accumulated, AccessLog.next, arrived, traces_append, traces_entering, List.append_nil]
      exact good
  | assign r =>
      rw [AccessLog.next]
      split
      · next t made found =>
          rw [accumulated_assigned_iff held good found]
          constructor
          · intro eq t' made' found'
            rw [found] at found'
            cases found'
            exact eq
          · intro current
            exact current t made found
      · next other =>
          apply iff_of_true good
          intro t made found
          exact absurd found (other t made)
  | answer r c errors =>
      apply iff_of_true _ trivial
      rw [AccessLog.next]
      split
      · next t found =>
          have same : traces (s.written r ⟨t, .entered⟩ c errors).requests = traces s.requests :=
            traces_restage found rfl rfl
          exact good.trans same.symm
      · exact good

theorem start_held : Held start := by
  intro r t made found
  cases found

theorem accumulated_iff_current (es : List AccessEvent) :
    (∀ n, Accumulated (exec next start (es.take n))) ↔ Along Current next start es :=
  always_iff_along_of (I := Held) (P := Accumulated) (fun held good _ => held.next good _)
    (fun held good => accumulated_next_iff held good _) start_held rfl es

/-- The trace id of the request that an event lets in. -/
def entryOf (s : AccessLog) : AccessEvent → Fields
  | .assign r =>
      match s.requests[r]? with
      | some ⟨t, .entering _⟩ => [traceField t]
      | _ => []
  | _ => []

/-- The trace ids of the requests that enter in a run, in the order in which they do. -/
def enteredIds : AccessLog → List AccessEvent → Fields
  | _, [] => []
  | s, e :: es => s.entryOf e ++ enteredIds (s.next e) es

theorem enteredIds_append (s : AccessLog) (es fs : List AccessEvent) :
    enteredIds s (es ++ fs) = enteredIds s es ++ enteredIds (exec next s es) fs := by
  induction es generalizing s with
  | nil => rfl
  | cons e es ih =>
      rw [List.cons_append, enteredIds, enteredIds, ih, exec_cons, List.append_assoc]

/-- The state after the events, from an empty log. -/
def run (es : List AccessEvent) : AccessLog := exec next start es

theorem run_concat (es : List AccessEvent) (e : AccessEvent) :
    run (es ++ [e]) = (run es).next e := exec_append next start es [e]

/-- After the `r`th request has taken the logger, others have entered. -/
def Overtaken (past : List AccessEvent) (r : Nat) : Prop :=
  ∃ before header uuid between, past = before ++ .arrive header uuid :: between ∧
    (run before).requests.length = r ∧
    enteredIds (run (before ++ [.arrive header uuid])) between ≠ []

/-- No request is overtaken between taking the logger and assigning it. -/
def NoneOvertaken (es : List AccessEvent) : Prop :=
  ∀ past r rest t made, es = past ++ .assign r :: rest →
    (run past).requests[r]? = some ⟨t, .entering made⟩ → ¬Overtaken past r

/-- What one event does to the request of an index. -/
theorem request_next {s : AccessLog} {r : Nat} {q : LoggedRequest} {e : AccessEvent}
    (found : (s.next e).requests[r]? = some q) :
    s.requests[r]? = some q ∨
      (∃ header uuid, e = .arrive header uuid ∧ r = s.requests.length ∧
        q = ⟨requestID header uuid,
          .entering (s.log.withFields [traceField (requestID header uuid)])⟩) ∨
      (∃ made, e = .assign r ∧ s.requests[r]? = some ⟨q.traceID, .entering made⟩ ∧
        q.stage = .entered) ∨
      ∃ c errors, e = .answer r c errors ∧ s.requests[r]? = some ⟨q.traceID, .entered⟩ ∧
        q.stage = .answered := by
  cases e with
  | arrive header uuid =>
      rw [AccessLog.next, AccessLog.arrived] at found
      rcases Nat.lt_or_ge r s.requests.length with old | new
      · rw [List.getElem?_append_left old] at found
        exact .inl found
      · obtain rfl : r = s.requests.length := by
          have inside := (List.getElem?_eq_some_iff.1 found).1
          rw [List.length_append, List.length_singleton] at inside
          omega
        rw [List.getElem?_concat_length] at found
        cases found
        exact .inr (.inl ⟨header, uuid, rfl, rfl, rfl⟩)
  | assign r' =>
      rw [AccessLog.next] at found
      split at found
      · next t made waiting =>
          by_cases eq : r = r'
          · subst eq
            have inside := (List.getElem?_eq_some_iff.1 waiting).1
            rw [AccessLog.assigned, AccessLog.setStage, List.getElem?_set_self inside] at found
            cases found
            exact .inr (.inr (.inl ⟨made, rfl, waiting, rfl⟩))
          · rw [AccessLog.assigned, AccessLog.setStage, List.getElem?_set_ne (Ne.symm eq)] at found
            exact .inl found
      · exact .inl found
  | answer r' c errors =>
      rw [AccessLog.next] at found
      split at found
      · next t served =>
          by_cases eq : r = r'
          · subst eq
            have inside := (List.getElem?_eq_some_iff.1 served).1
            rw [AccessLog.written, AccessLog.setStage, List.getElem?_set_self inside] at found
            cases found
            exact .inr (.inr (.inr ⟨c, errors, rfl, served, rfl⟩))
          · rw [AccessLog.written, AccessLog.setStage, List.getElem?_set_ne (Ne.symm eq)] at found
            exact .inl found
      · exact .inl found

theorem length_next (s : AccessLog) (e : AccessEvent) :
    s.requests.length ≤ (s.next e).requests.length := by
  cases e with
  | arrive header uuid =>
      rw [AccessLog.next, AccessLog.arrived, List.length_append]
      exact Nat.le_add_right _ _
  | assign r =>
      rw [AccessLog.next]
      split
      · exact (List.length_set).ge
      · exact le_rfl
  | answer r c errors =>
      rw [AccessLog.next]
      split
      · exact (List.length_set).ge
      · exact le_rfl

theorem length_run (es fs : List AccessEvent) :
    (run es).requests.length ≤ (run (es ++ fs)).requests.length := by
  induction fs using List.reverseRecOn with
  | nil => rw [List.append_nil]
  | append_singleton fs e ih =>
      rw [← List.append_assoc, run_concat]
      exact ih.trans (length_next _ e)

/-- A request that has not assigned yet has arrived. -/
theorem exists_arrival {es : List AccessEvent} {r : Nat} {t : String} {made : Logger}
    (waiting : (run es).requests[r]? = some ⟨t, .entering made⟩) :
    ∃ before header uuid between, es = before ++ .arrive header uuid :: between ∧
      (run before).requests.length = r := by
  induction es using List.reverseRecOn with
  | nil => cases waiting
  | append_singleton es e ih =>
      rw [run_concat] at waiting
      rcases request_next waiting with old | ⟨header, uuid, rfl, rfl, -⟩ | ⟨_, -, -, stage⟩ |
        ⟨_, _, -, -, stage⟩
      · obtain ⟨before, header, uuid, between, rfl, length⟩ := ih old
        exact ⟨before, header, uuid, between ++ [e], by simp, length⟩
      · exact ⟨es, header, uuid, [], rfl, rfl⟩
      · cases stage
      · cases stage

/-- It holds the logger of its arrival, with its own id. -/
theorem made_at_arrival {before between : List AccessEvent} {header uuid t : String}
    {made : Logger} (waiting : (run (before ++ .arrive header uuid :: between)).requests[
      (run before).requests.length]? = some ⟨t, .entering made⟩) :
    made = (run before).log.withFields [traceField t] := by
  induction between using List.reverseRecOn with
  | nil =>
      rw [run_concat] at waiting
      rcases request_next waiting with old | ⟨_, _, -, -, eq⟩ | ⟨_, -, -, stage⟩ |
        ⟨_, _, -, -, stage⟩
      · rw [List.getElem?_eq_none le_rfl] at old
        cases old
      · cases eq
        rfl
      · cases stage
      · cases stage
  | append_singleton between e ih =>
      rw [← List.cons_append, ← List.append_assoc, run_concat] at waiting
      rcases request_next waiting with old | ⟨_, _, -, new, -⟩ | ⟨_, -, -, stage⟩ |
        ⟨_, _, -, -, stage⟩
      · exact ih old
      · have arrived : (run (before ++ [.arrive header uuid])).requests.length =
            (run before).requests.length + 1 := by
          rw [run_concat, AccessLog.next, AccessLog.arrived, List.length_append,
            List.length_singleton]
        have later := length_run (before ++ [.arrive header uuid]) between
        rw [List.append_assoc, List.singleton_append] at later
        omega
      · cases stage
      · cases stage

/-- While nobody enters, the logger stays. -/
theorem log_of_no_entries {s : AccessLog} {es : List AccessEvent} (none_ : enteredIds s es = []) :
    (exec next s es).log = s.log := by
  induction es generalizing s with
  | nil => rfl
  | cons e es ih =>
      rw [enteredIds, List.append_eq_nil_iff] at none_
      rw [exec_cons, ih none_.2]
      cases e with
      | arrive header uuid => rfl
      | assign r =>
          rw [AccessLog.next]
          split
          · next t made waiting =>
              rw [entryOf, waiting] at none_
              cases none_.1
          · rfl
      | answer r c errors =>
          rw [AccessLog.next]
          split
          · rfl
          · rfl

theorem next_log_of_current {s : AccessLog} {e : AccessEvent} (current : Current s e) :
    (s.next e).log.fields = s.log.fields ++ s.entryOf e := by
  cases e with
  | arrive header uuid => exact (List.append_nil _).symm
  | assign r =>
      rw [AccessLog.next, entryOf]
      split
      · next t made waiting =>
          rw [current t made waiting]
          rfl
      · exact (List.append_nil _).symm
  | answer r c errors =>
      rw [AccessLog.next]
      split
      · exact (List.append_nil _).symm
      · exact (List.append_nil _).symm

theorem log_of_along {s : AccessLog} {es : List AccessEvent} (along : Along Current next s es) :
    (exec next s es).log.fields = s.log.fields ++ enteredIds s es := by
  induction es generalizing s with
  | nil => exact (List.append_nil _).symm
  | cons e es ih =>
      rw [exec_cons, ih along.2, next_log_of_current along.1, List.append_assoc]
      rfl

theorem run_arrival (before between : List AccessEvent) (header uuid : String) :
    run (before ++ .arrive header uuid :: between) =
      exec next (run (before ++ [.arrive header uuid])) between := by
  rw [List.append_cons]
  exact exec_append next start _ between

/-- Where all that have assigned did so with the shared logger, the next one does so unless it was
overtaken. -/
theorem current_iff {es : List AccessEvent} (along : Along Current next start es) {r : Nat}
    {t : String} {made : Logger} (waiting : (run es).requests[r]? = some ⟨t, .entering made⟩) :
    made = (run es).log.withFields [traceField t] ↔ ¬Overtaken es r := by
  constructor
  · rintro eq ⟨before, header, uuid, between, rfl, rfl, entered⟩
    rw [List.append_cons, along_append] at along
    have log := log_of_along along.2
    have arrived : (run (before ++ [.arrive header uuid])).log = (run before).log := by
      rw [run_concat]
      rfl
    rw [made_at_arrival waiting, Logger.withFields, Logger.withFields, Logger.mk.injEq,
      List.append_cancel_right_eq, run_arrival, ← arrived] at eq
    rw [← run, ← eq, List.self_eq_append_right] at log
    exact entered log
  · intro calm
    obtain ⟨before, header, uuid, between, rfl, rfl⟩ := exists_arrival waiting
    have none_ : enteredIds (run (before ++ [.arrive header uuid])) between = [] := by
      by_contra entered
      exact calm ⟨before, header, uuid, between, rfl, rfl, entered⟩
    rw [made_at_arrival waiting, run_arrival, log_of_no_entries none_, run_concat]
    rfl

theorem noneOvertaken_concat {es : List AccessEvent} {e : AccessEvent} :
    NoneOvertaken (es ++ [e]) ↔ NoneOvertaken es ∧
      ∀ r t made, e = .assign r → (run es).requests[r]? = some ⟨t, .entering made⟩ →
        ¬Overtaken es r := by
  constructor
  · intro calm
    refine ⟨fun past r rest t made eq => ?_, fun r t made eq => ?_⟩
    · exact calm past r (rest ++ [e]) t made (by rw [eq]; simp)
    · exact calm es r [] t made (by rw [eq])
  · rintro ⟨calm, last⟩ past r rest t made eq
    rcases List.eq_nil_or_concat' rest with rfl | ⟨rest', e', rfl⟩
    · obtain ⟨rfl, same⟩ := List.append_inj' eq rfl
      exact last r t made (List.cons.inj same).1
    · rw [← List.cons_append, ← List.append_assoc] at eq
      obtain ⟨rfl, -⟩ := List.append_inj' eq rfl
      exact calm past r rest' t made rfl

theorem along_current_iff (es : List AccessEvent) :
    Along Current next start es ↔ NoneOvertaken es := by
  induction es using List.reverseRecOn with
  | nil =>
      refine iff_of_true trivial fun past r rest t made eq => ?_
      simp at eq
  | append_singleton es e ih =>
      rw [along_append, noneOvertaken_concat, ← ih]
      refine and_congr_right fun along => ?_
      constructor
      · rintro ⟨current, -⟩ r t made rfl waiting
        exact (current_iff along waiting).1 (current t made waiting)
      · intro calm
        refine ⟨?_, trivial⟩
        cases e with
        | arrive header uuid => trivial
        | assign r =>
            intro t made waiting
            exact (current_iff along waiting).2 (calm r t made rfl waiting)
        | answer r c errors => trivial

/-- The shared logger has the trace ids of just those that have entered as long as no request is
overtaken between taking the logger and assigning it. -/
theorem accumulated_iff (es : List AccessEvent) :
    (∀ n, Accumulated (exec next start (es.take n))) ↔ NoneOvertaken es :=
  (accumulated_iff_current es).trans (along_current_iff es)

/-- The first request to be overtaken throws out the ids of those that have entered since it
arrived. -/
theorem overtaken_loses {es : List AccessEvent} (calm : NoneOvertaken es) {r : Nat} {t : String}
    {made : Logger} (waiting : (run es).requests[r]? = some ⟨t, .entering made⟩)
    (overtaken : Overtaken es r) :
    ∃ kept lost, lost ≠ [] ∧ (run es).log.fields = kept ++ lost ∧
      (run (es ++ [.assign r])).log.fields = kept ++ [traceField t] := by
  obtain ⟨before, header, uuid, between, rfl, rfl, entered⟩ := overtaken
  have along := (along_current_iff _).2 calm
  rw [List.append_cons, along_append] at along
  refine ⟨(run (before ++ [.arrive header uuid])).log.fields, _, entered, ?_, ?_⟩
  · rw [run_arrival]
    exact log_of_along along.2
  · rw [run_concat, AccessLog.next, waiting]
    dsimp only
    rw [AccessLog.assigned, made_at_arrival waiting, run_concat]
    rfl

/-! ## The lines -/

/-- A request that has entered has assigned the logger. -/
theorem exists_entry {es : List AccessEvent} {r : Nat} {q : LoggedRequest}
    (found : (run es).requests[r]? = some q) (isIn : q.stage.isIn = true) :
    ∃ before made between, es = before ++ .assign r :: between ∧
      (run before).requests[r]? = some ⟨q.traceID, .entering made⟩ := by
  induction es using List.reverseRecOn generalizing q with
  | nil => cases found
  | append_singleton es e ih =>
      have earlier {q' : LoggedRequest} (found' : (run es).requests[r]? = some q')
          (isIn' : q'.stage.isIn = true) (same : q'.traceID = q.traceID) :
          ∃ before made between, es ++ [e] = before ++ .assign r :: between ∧
            (run before).requests[r]? = some ⟨q.traceID, .entering made⟩ := by
        obtain ⟨before, made, between, rfl, waiting⟩ := ih found' isIn'
        exact ⟨before, made, between ++ [e], by simp, same ▸ waiting⟩
      rw [run_concat] at found
      rcases request_next found with old | ⟨_, _, -, -, rfl⟩ | ⟨made, rfl, waiting, -⟩ |
        ⟨_, _, -, served, -⟩
      · exact earlier old isIn rfl
      · cases isIn
      · exact ⟨es, made, [], rfl, waiting⟩
      · exact earlier served rfl rfl

/-- The line of a request has the ids of those that had entered before it, its own, and those of the
requests that entered while it was served. -/
def Accumulates (es : List AccessEvent) (line : Line) : Prop :=
  ∃ before t made served c errors after,
    es = before ++ .assign line.request :: (served ++ .answer line.request c errors :: after) ∧
    (run before).requests[line.request]? = some ⟨t, .entering made⟩ ∧
    (run (before ++ .assign line.request :: served)).requests[line.request]? =
      some ⟨t, .entered⟩ ∧
    line.context = enteredIds start before ++
      traceField t :: enteredIds (run (before ++ [.assign line.request])) served

theorem Accumulates.concat {es : List AccessEvent} {line : Line} (h : Accumulates es line)
    (e : AccessEvent) : Accumulates (es ++ [e]) line := by
  obtain ⟨before, t, made, served, c, errors, after, rfl, waiting, answering, context⟩ := h
  exact ⟨before, t, made, served, c, errors, after ++ [e], by simp, waiting, answering, context⟩

/-- The line that is written now. -/
theorem accumulates_of_entered {es : List AccessEvent} (calm : NoneOvertaken es) {r : Nat}
    {t : String} (found : (run es).requests[r]? = some ⟨t, .entered⟩) (level : Level)
    (message : String) (c : Exchange) (errors : List String) (fields : Fields) :
    Accumulates (es ++ [.answer r c errors]) ⟨r, level, message, (run es).log.fields, fields⟩ := by
  obtain ⟨before, made, served, rfl, waiting⟩ := exists_entry found rfl
  refine ⟨before, t, made, served, c, errors, [], by simp, waiting, found, ?_⟩
  have own : (run before).entryOf (.assign r) = [traceField t] := by
    rw [entryOf, waiting]
  have log := log_of_along ((along_current_iff _).2 calm)
  rw [enteredIds_append, enteredIds] at log
  calc (run (before ++ .assign r :: served)).log.fields
      = enteredIds start before ++
          ((run before).entryOf (.assign r) ++ enteredIds ((run before).next (.assign r)) served) :=
        log
    _ = enteredIds start before ++
          traceField t :: enteredIds (run (before ++ [.assign r])) served := by
        rw [own, run_concat, List.singleton_append]

theorem lines_next (s : AccessLog) (e : AccessEvent) :
    (s.next e).lines = s.lines ∨ ∃ r t c errors, e = .answer r c errors ∧
      s.requests[r]? = some ⟨t, .entered⟩ ∧
      (s.next e).lines = s.lines ++
        [⟨r, lineLevel c.status, "HTTP " ++ c.method ++ " " ++ c.path, s.log.fields,
          lineFields c errors⟩] := by
  cases e with
  | arrive header uuid => exact .inl rfl
  | assign r =>
      left
      rw [AccessLog.next]
      split
      · rfl
      · rfl
  | answer r c errors =>
      generalize after : s.next (.answer r c errors) = s'
      rw [AccessLog.next] at after
      split at after
      · next t found =>
          subst after
          exact .inr ⟨r, t, c, errors, rfl, found, rfl⟩
      · exact .inl (congrArg AccessLog.lines after.symm)

theorem accumulates_of_mem {es : List AccessEvent} (calm : NoneOvertaken es) :
    ∀ line ∈ (run es).lines, Accumulates es line := by
  induction es using List.reverseRecOn with
  | nil =>
      intro line mem
      cases mem
  | append_singleton es e ih =>
      have calm' := (noneOvertaken_concat.1 calm).1
      have old (line : Line) (mem : line ∈ (run es).lines) : Accumulates (es ++ [e]) line :=
        (ih calm' line mem).concat e
      intro line mem
      rw [run_concat] at mem
      rcases lines_next (run es) e with same | ⟨r, t, c, errors, rfl, found, grown⟩
      · exact old line (same ▸ mem)
      · rw [grown] at mem
        rcases List.mem_append.1 mem with there | new
        · exact old line there
        · rw [List.mem_singleton.1 new]
          exact accumulates_of_entered calm' found _ _ c errors _

/-- Every request that was answered has its line. -/
theorem exists_line (es : List AccessEvent) {r : Nat} {t : String}
    (found : (run es).requests[r]? = some ⟨t, .answered⟩) :
    ∃ line ∈ (run es).lines, line.request = r := by
  induction es using List.reverseRecOn with
  | nil => cases found
  | append_singleton es e ih =>
      rw [run_concat] at found ⊢
      rcases request_next found with old | ⟨_, _, -, -, eq⟩ | ⟨_, -, -, stage⟩ |
        ⟨c, errors, rfl, served, -⟩
      · obtain ⟨line, mem, request⟩ := ih old
        refine ⟨line, ?_, request⟩
        rcases lines_next (run es) e with same | ⟨_, _, _, _, -, -, grown⟩
        · rwa [same]
        · rw [grown]
          exact List.mem_append_left _ mem
      · cases eq
      · cases stage
      · rw [AccessLog.next, served]
        exact ⟨_, List.mem_append_right _ (List.mem_singleton_self _), rfl⟩

/-- Where no request is overtaken, every request that is answered has a line, and each line has the
trace ids of all requests that had entered when it was written: those before its own request, its
own after them, then those of the requests that entered while it was served. -/
theorem lines_accumulate (es : List AccessEvent) (calm : NoneOvertaken es) :
    (∀ line ∈ (run es).lines, Accumulates es line) ∧
      ∀ r t, (run es).requests[r]? = some ⟨t, .answered⟩ →
        ∃ line ∈ (run es).lines, line.request = r :=
  ⟨accumulates_of_mem calm, fun _ _ found => exists_line es found⟩

def healthCheck : Exchange where
  method := "GET"
  path := "/healthz"
  requestURI := "/healthz"
  contentType := ""
  header _ := ""
  param _ := ""
  remoteIP := "10.0.0.7"
  traceID := ""
  permCode := none
  userID := none
  username := none
  status := 200
  costMs := 1
  body := []

/-- The second request enters while the first is served. -/
def twoChecks : List AccessEvent :=
  [.arrive "a1" "", .assign 0, .arrive "" "9f-0c", .assign 1, .answer 0 healthCheck [],
    .answer 1 healthCheck []]

theorem twoChecks_calm : NoneOvertaken twoChecks := by
  rw [← along_current_iff]
  refine ⟨trivial, ?_, trivial, ?_, trivial, trivial, trivial⟩
  · intro t made found
    cases found
    rfl
  · intro t made found
    cases found
    rfl

theorem twoChecks_accumulate :
    NoneOvertaken twoChecks ∧ ∀ line ∈ (run twoChecks).lines, Accumulates twoChecks line :=
  ⟨twoChecks_calm, (lines_accumulate twoChecks twoChecks_calm).1⟩

example : (run twoChecks).lines.map (·.context) =
    [[traceField "a1", traceField "9f0c"], [traceField "a1", traceField "9f0c"]] := by
  decide +kernel

end AccessLog

end K8sPlatform.Audit
