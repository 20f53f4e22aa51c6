import K8sPlatform.Lib.Validation
import K8sPlatform.Auth.Middleware
import K8sPlatform.Websocket.Hub

/-! # The log streams of the pods, and the table of the active ones -/

namespace K8sPlatform.Websocket

open Auth Errcode

/-- The path parameters and the query of a request. -/
structure LogQuery where
  code : String
  ns : String
  pod : String
  container : String
  follow : String
  tail : String
  deriving DecidableEq, Repr

/-- What a request has started, as the answer tells it. -/
structure LogStarted where
  channel : String
  follow : Bool
  tail : Nat
  container : String
  pod : String
  ns : String
  cluster : String
  wsEndpoint : String
  action : String
  hint : String
  deriving DecidableEq, Repr

namespace LogQuery

variable (q : LogQuery)

def follows : Bool := q.follow == "1" || q.follow == "true" || q.follow == "yes"

/-- A number that is none, or not positive, is as good as none. -/
def tailLines : Nat := ((Validation.atoi q.tail).getD 0).toNat

def request : LogRequest := ⟨q.code, q.ns, q.pod, q.container, q.follows⟩

def channel : String := podLogChannelName q.code q.ns q.pod

def started : LogStarted where
  channel := q.channel
  follow := q.follows
  tail := q.tailLines
  container := q.container
  pod := q.pod
  ns := q.ns
  cluster := q.code
  wsEndpoint := "/api/v1/ws"
  action := "subscribe"
  hint := "请使用 WebSocket 连接 /api/v1/ws?token=<JWT>，并发送 \x7baction:'subscribe', " ++
    "channel:'<channel>'\x7d 订阅日志"

/-- `StreamPodLogsHandler` up to the lock. -/
def accept (pt : Option PermissionTree) : Except Error LogStarted :=
  if q.code = "" ∨ q.ns = "" ∨ q.pod = "" then
    .error (.new .invalidArgument "code/namespace/pod 不能为空")
  else
    match requireNamespaceScope pt q.code q.ns with
    | .error err => .error err
    | .ok () => .ok q.started

end LogQuery

/-- Where the goroutine of a stream is: in `StreamPodLogs`, before its cleanup, or at its end. -/
inductive StreamPhase
  | streaming
  | returned
  | ended
  deriving DecidableEq, Repr

/-- `cancelled` is whether the context is done. -/
structure LogStream where
  request : LogRequest
  tailLines : Nat
  channel : String
  cancelled : Bool
  phase : StreamPhase

/-- The stream runs, and nobody has told it to stop. -/
def LogStream.Live (a : LogStream) : Prop := a.phase = .streaming ∧ a.cancelled = false

instance (a : LogStream) : Decidable a.Live := inferInstanceAs (Decidable (_ ∧ _))

/-- `PodLogHandler`: the streams ever started, by number, and by channel the one whose `cancel` is
in the table. -/
structure LogStreams where
  streams : Nat → Option LogStream
  active : String → Option Nat

/-- `request` is a request with the section that it runs under the lock and the `go` behind it,
`expire` the timeout of the context, and `cleanUp` the deferred function, under the lock. -/
inductive LogStep
  | request (stream : Nat) (pt : Option PermissionTree) (q : LogQuery)
  | expire (stream : Nat)
  | finish (stream : Nat)
  | cleanUp (stream : Nat)

namespace LogStreams

def start : LogStreams := ⟨fun _ => none, fun _ => none⟩

def setStream (s : LogStreams) (n : Nat) (f : LogStream → LogStream) : LogStreams :=
  { s with streams := Function.update s.streams n ((s.streams n).map f) }

/-- `cancel()` of the context of a stream. -/
def cancel (s : LogStreams) (n : Nat) : LogStreams := s.setStream n ({ · with cancelled := true })

/-- An active stream of the channel is cancelled and leaves the table. -/
def replace (s : LogStreams) (channel : String) : LogStreams :=
  match s.active channel with
  | none => s
  | some old => { s.cancel old with active := Function.update s.active channel none }

def insert (s : LogStreams) (n : Nat) (q : LogQuery) : LogStreams where
  streams := Function.update s.streams n (some
    { request := q.request
      tailLines := q.tailLines
      channel := q.channel
      cancelled := false
      phase := .streaming })
  active := Function.update s.active q.channel (some n)

def next (s : LogStreams) : LogStep → LogStreams
  | .request n pt q =>
      match s.streams n, q.accept pt with
      | none, .ok _ => (s.replace q.channel).insert n q
      | _, _ => s
  | .expire n => s.cancel n
  | .finish n =>
      match s.streams n with
      | some a => if a.phase = .streaming then s.setStream n ({ · with phase := .returned }) else s
      | none => s
  | .cleanUp n =>
      match s.streams n with
      | some a =>
          if a.phase = .returned then
            { s.setStream n ({ · with phase := .ended, cancelled := true }) with
              active := Function.update s.active a.channel none }
          else s
      | none => s

/-- A channel has one live stream at most, and the table holds its `cancel`. -/
structure OneEach (s : LogStreams) : Prop where
  unique : ∀ i j a b, s.streams i = some a → s.streams j = some b → a.Live → b.Live →
    a.channel = b.channel → i = j
  listed : ∀ i a, s.streams i = some a → a.Live → s.active a.channel = some i

/-- A cleanup does not find the entry of a live stream. -/
def SparesLive (s : LogStreams) : LogStep → Prop
  | .cleanUp n =>
      ∀ a, s.streams n = some a → a.phase = .returned →
        ∀ j b, s.active a.channel = some j → s.streams j = some b → ¬b.Live
  | _ => True

/-! ## What a step does -/

/-- The entries of the table are those of their channels. -/
def Entered (s : LogStreams) : Prop :=
  ∀ ch j, s.active ch = some j → ∃ b, s.streams j = some b ∧ b.channel = ch

/-- A step: a stream takes the place of another, comes nearer to its end, or is cleaned up. -/
inductive Steps (s : LogStreams) (e : LogStep) : LogStreams → Prop
  | idle (spares : s.SparesLive e) : Steps s e s
  | starts (n : Nat) (q : LogQuery) (absent : s.streams n = none) (spares : s.SparesLive e) :
      Steps s e ((s.replace q.channel).insert n q)
  | nears (n : Nat) (f : LogStream → LogStream) (channel : ∀ a, (f a).channel = a.channel)
      (live : ∀ a, (f a).Live → a.Live) (spares : s.SparesLive e) : Steps s e (s.setStream n f)
  | cleans (n : Nat) (a : LogStream) (found : s.streams n = some a) (returned : a.phase = .returned)
      (spares : s.SparesLive e ↔ ∀ j b, s.active a.channel = some j → s.streams j = some b →
        ¬b.Live) :
      Steps s e { s.setStream n ({ · with phase := .ended, cancelled := true }) with
        active := Function.update s.active a.channel none }

variable {s s' : LogStreams} {e : LogStep}

theorem next_steps (s : LogStreams) (e : LogStep) : s.Steps e (s.next e) := by
  unfold next
  cases e with
  | request n pt q =>
      dsimp only
      split
      case h_1 absent _ => exact .starts n q absent trivial
      case h_2 => exact .idle trivial
  | expire n => exact .nears n _ (fun _ => rfl) (fun _ live => by cases live.2) trivial
  | finish n =>
      dsimp only
      split
      · split_ifs
        · exact .nears n _ (fun _ => rfl) (fun _ live => by cases live.1) trivial
        · exact .idle trivial
      · exact .idle trivial
  | cleanUp n =>
      dsimp only
      cases found : s.streams n with
      | none =>
          refine .idle fun a found' => ?_
          simp [found] at found'
      | some a =>
          dsimp only
          split_ifs with returned
          · refine .cleans n a found returned ⟨fun spares => spares a found returned, ?_⟩
            intro spares a' found'
            obtain rfl : a = a' := Option.some.inj (found.symm.trans found')
            exact fun _ => spares
          · refine .idle fun a' found' returned' => ?_
            obtain rfl : a = a' := Option.some.inj (found.symm.trans found')
            exact absurd returned' returned

theorem insert_streams_self (s : LogStreams) (n : Nat) (q : LogQuery) :
    (s.insert n q).streams n = some ⟨q.request, q.tailLines, q.channel, false, .streaming⟩ :=
  Function.update_self ..

theorem insert_streams_of_ne {n i : Nat} (q : LogQuery) (other : i ≠ n) :
    (s.insert n q).streams i = s.streams i :=
  Function.update_of_ne other ..

theorem insert_active_self (s : LogStreams) (n : Nat) (q : LogQuery) :
    (s.insert n q).active q.channel = some n :=
  Function.update_self ..

theorem insert_active_of_ne {q : LogQuery} {ch : String} (n : Nat) (other : ch ≠ q.channel) :
    (s.insert n q).active ch = s.active ch :=
  Function.update_of_ne other ..

theorem streams_setStream {n i : Nat} {f : LogStream → LogStream} {a : LogStream}
    (found : (s.setStream n f).streams i = some a) :
    ∃ a', s.streams i = some a' ∧ (i = n ∧ a = f a' ∨ i ≠ n ∧ a = a') := by
  by_cases same : i = n
  · subst same
    have mapped : (s.streams i).map f = some a := by simpa [setStream] using found
    obtain ⟨a', found', rfl⟩ := Option.map_eq_some_iff.1 mapped
    exact ⟨a', found', .inl ⟨rfl, rfl⟩⟩
  · exact ⟨a, by simpa [setStream, same] using found, .inr ⟨same, rfl⟩⟩

theorem streams_setStream_of_some {n i : Nat} {f : LogStream → LogStream} {a : LogStream}
    (found : s.streams i = some a) :
    (s.setStream n f).streams i = some (if i = n then f a else a) := by
  by_cases same : i = n
  · subst same
    simp [setStream, found]
  · simp [setStream, same, found]

/-- The active stream of the channel is done for, and nothing else has changed. -/
structure Replaced (s : LogStreams) (channel : String) (s' : LogStreams) : Prop where
  streams : ∀ i a, s'.streams i = some a → ∃ a', s.streams i = some a' ∧ a.channel = a'.channel ∧
    (a.Live → a'.Live ∧ s.active channel ≠ some i)
  made : ∀ i a, s.streams i = some a → ∃ a', s'.streams i = some a' ∧ a'.channel = a.channel
  active : ∀ ch, ch ≠ channel → s'.active ch = s.active ch

theorem replaced (s : LogStreams) (channel : String) : Replaced s channel (s.replace channel) := by
  unfold replace
  cases entry : s.active channel with
  | none =>
      refine ⟨fun i a found => ⟨a, found, rfl, fun live => ⟨live, ?_⟩⟩,
        fun i a found => ⟨a, found, rfl⟩, fun _ _ => rfl⟩
      rw [entry]
      exact (Option.some_ne_none i).symm
  | some old =>
      refine ⟨fun i a found => ?_, fun i a found => ?_, fun ch other => ?_⟩
      · obtain ⟨a', found', ⟨rfl, rfl⟩ | ⟨other, rfl⟩⟩ := streams_setStream found
        · exact ⟨a', found', rfl, fun live => by cases live.2⟩
        · refine ⟨a, found', rfl, fun live => ⟨live, ?_⟩⟩
          rw [entry]
          exact fun same => other (Option.some.inj same).symm
      · refine ⟨_, streams_setStream_of_some found, ?_⟩
        split_ifs <;> rfl
      · exact Function.update_of_ne other ..

theorem Entered.step (entered : s.Entered) (steps : s.Steps e s') : s'.Entered := by
  cases steps with
  | idle => exact entered
  | starts n q absent =>
      have before := replaced s q.channel
      intro ch j entry
      by_cases same : ch = q.channel
      · subst same
        rw [insert_active_self] at entry
        obtain rfl := Option.some.inj entry
        exact ⟨_, insert_streams_self .., rfl⟩
      · rw [insert_active_of_ne n same, before.active ch same] at entry
        obtain ⟨b, found, channel⟩ := entered ch j entry
        obtain ⟨b', found', channel'⟩ := before.made j b found
        have other : j ≠ n := by
          rintro rfl
          simp [absent] at found
        exact ⟨b', (insert_streams_of_ne q other).trans found', channel'.trans channel⟩
  | nears n f channel =>
      intro ch j entry
      obtain ⟨b, found, named⟩ := entered ch j entry
      refine ⟨_, streams_setStream_of_some found, ?_⟩
      split_ifs
      · exact (channel b).trans named
      · exact named
  | cleans n a found =>
      intro ch j entry
      by_cases same : ch = a.channel
      · simp [same] at entry
      · obtain ⟨b, found', named⟩ := entered ch j (by simpa [same] using entry)
        refine ⟨_, streams_setStream_of_some found', ?_⟩
        split_ifs <;> exact named

theorem OneEach.of_listed
    (listed : ∀ i a, s.streams i = some a → a.Live → s.active a.channel = some i) : s.OneEach := by
  refine ⟨fun i j a b foundI foundJ liveI liveJ same => ?_, listed⟩
  have entry := listed i a foundI liveI
  rw [same, listed j b foundJ liveJ] at entry
  exact (Option.some.inj entry).symm

theorem OneEach.step_iff (entered : s.Entered) (one : s.OneEach) (steps : s.Steps e s') :
    s'.OneEach ↔ s.SparesLive e := by
  cases steps with
  | idle spares => exact iff_of_true one spares
  | starts n q absent spares =>
      refine iff_of_true (.of_listed fun i a found live => ?_) spares
      have before := replaced s q.channel
      by_cases new : i = n
      · subst new
        rw [insert_streams_self] at found
        obtain rfl := Option.some.inj found
        exact insert_active_self ..
      · rw [insert_streams_of_ne q new] at found
        obtain ⟨a', found', named, kept⟩ := before.streams i a found
        obtain ⟨live', notActive⟩ := kept live
        have entry := one.listed i a' found' live'
        have other : a.channel ≠ q.channel := by
          intro same
          rw [← named, same] at entry
          exact notActive entry
        rw [insert_active_of_ne n other, before.active _ other, named]
        exact entry
  | nears n f channel live spares =>
      refine iff_of_true (.of_listed fun i a found alive => ?_) spares
      obtain ⟨a', found', ⟨rfl, rfl⟩ | ⟨-, rfl⟩⟩ := streams_setStream found
      · rw [channel]
        exact one.listed i a' found' (live a' alive)
      · exact one.listed i a found' alive
  | cleans n a found returned spares =>
      rw [spares]
      constructor
      · intro after j b entry foundJ alive
        have other : j ≠ n := by
          rintro rfl
          obtain rfl : a = b := Option.some.inj (found.symm.trans foundJ)
          cases returned.symm.trans alive.1
        obtain ⟨b', foundB, named⟩ := entered _ j entry
        obtain rfl : b = b' := Option.some.inj (foundJ.symm.trans foundB)
        have still := after.listed j b
          ((streams_setStream_of_some foundJ).trans (by rw [if_neg other])) alive
        simp [named] at still
      · intro spares
        refine .of_listed fun i b foundI alive => ?_
        obtain ⟨b', foundB, ⟨rfl, rfl⟩ | ⟨-, rfl⟩⟩ := streams_setStream foundI
        · cases alive.1
        · have entry := one.listed i b foundB alive
          have other : b.channel ≠ a.channel := by
            intro same
            rw [same] at entry
            exact spares i b entry foundB alive
          exact (Function.update_of_ne other ..).trans entry

/-- In every state of a run each channel has one live stream at most, which the table lists, exactly
when no cleanup finds the entry of a live stream. -/
theorem one_each_iff (es : List LogStep) :
    (∀ n, (Transition.exec next start (es.take n)).OneEach) ↔
      Transition.Along SparesLive next start es := by
  apply Transition.always_iff_along (I := Entered)
  · intro s e entered
    exact entered.step (next_steps s e)
  · intro s e entered one
    exact one.step_iff entered (next_steps s e)
  · intro ch j entry
    cases entry
  · exact .of_listed fun i a found => by cases found

def logsOfWeb : LogQuery := ⟨"prod", "team-a", "web-0", "", "true", ""⟩

/-- The stream that a second request has replaced cleans up behind it, and a third request starts
another one. -/
def threeRequests : List LogStep :=
  let pt : Option PermissionTree := some ⟨∅, [], true⟩
  [.request 0 pt logsOfWeb, .request 1 pt logsOfWeb, .finish 0, .cleanUp 0,
    .request 2 pt logsOfWeb]

/-- The second and the third stream run side by side, and nothing can cancel the second one. -/
theorem two_streams : ¬(Transition.exec next start threeRequests).OneEach ∧
    ((Transition.exec next start threeRequests).streams 1).any (fun a => decide a.Live) = true ∧
    ((Transition.exec next start threeRequests).streams 2).any (fun a => decide a.Live) = true ∧
    (Transition.exec next start threeRequests).active logsOfWeb.channel = some 2 := by
  have facts :
      ((Transition.exec next start threeRequests).streams 1).any (fun a => decide a.Live) = true ∧
      ((Transition.exec next start threeRequests).streams 2).any (fun a => decide a.Live) = true ∧
      (Transition.exec next start threeRequests).active logsOfWeb.channel = some 2 ∧
      ((Transition.exec next start threeRequests).streams 1).any
        (fun a => a.channel == logsOfWeb.channel) = true := by decide +kernel
  obtain ⟨second, third, entry, channel⟩ := facts
  refine ⟨fun one => ?_, second, third, entry⟩
  cases found : (Transition.exec next start threeRequests).streams 1 with
  | none => simp [found] at second
  | some a =>
      rw [found] at second channel
      have live : a.Live := of_decide_eq_true second
      have named : a.channel = logsOfWeb.channel := by simpa using channel
      have listed := one.listed 1 a found live
      rw [named, entry] at listed
      cases listed

end LogStreams

end K8sPlatform.Websocket
