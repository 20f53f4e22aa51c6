import Mathlib.Data.List.DropRight
import K8sPlatform.Lib.OrderedMap
import K8sPlatform.Lib.Text
import K8sPlatform.Lib.Transition

/-! # The state that the pages keep of the WebSocket -/

namespace K8sPlatform.Frontend

inductive WSConnectionStatus
  | idle | connecting | open_ | closing | closed | reconnecting | error
  deriving DecidableEq, Repr

structure PodLogLinePayload where
  clusterCode : String
  ns : String
  podName : String
  containerName : Option String
  line : String
  follow : Option Bool
  eof : Option Bool
  deriving DecidableEq, Repr

/-- The state of the slice; what a progress and an event hold is not looked at. -/
structure WSState (Progress Event : Type) where
  status : WSConnectionStatus
  lastError : Option String
  lastConnectedAt : Option String
  reconnectCount : Nat
  subscriptions : List String
  taskProgress : List Progress
  clusterEvents : List Event
  podLogs : OrderedMap String (List PodLogLinePayload)
  lastPongAt : Option String

/-- A message by its type, with the fields that are read for it. -/
inductive WSMessage (Progress Event : Type)
  | pong
  | error (message : Option String)
  | taskProgress (data : Option Progress)
  | clusterEvent (data : Option Event)
  | podLogs (channel : Option String) (data : Option PodLogLinePayload)
  | other

inductive WSAction (Progress Event : Type)
  | setStatus (status : WSConnectionStatus)
  | setLastError (err : Option String)
  | setReconnecting
  | bumpReconnect
  | addSubscription (ch : String)
  | removeSubscription (ch : String)
  | clearSubscriptions
  | onMessage (msg : WSMessage Progress Event)
  | clearTaskProgress
  | clearClusterEvents
  | clearPodLogs (ch : Option String)
  | resetWS

def maxTaskProgress : Nat := 200
def maxClusterEvents : Nat := 200
def maxPodLogLines : Nat := 1000

variable {Progress Event : Type}

def initialState : WSState Progress Event where
  status := .idle
  lastError := none
  lastConnectedAt := none
  reconnectCount := 0
  subscriptions := []
  taskProgress := []
  clusterEvents := []
  podLogs := .empty
  lastPongAt := none

def ringPush {α : Type} (arr : List α) (item : α) (max : Nat) : List α :=
  let arr := arr ++ [item]
  if arr.length > max then arr.drop (arr.length - max) else arr

def buildPodLogChannel (clusterCode ns podName : String) : String :=
  "pod_logs:" ++ clusterCode ++ ":" ++ ns ++ ":" ++ podName

/-- The channel of a line: that of the message, or else the one of its pod. -/
def channelOf (channel : Option String) (payload : PodLogLinePayload) : String :=
  match channel with
  | some ch =>
      if ':' ∈ ch.toList then ch
      else buildPodLogChannel payload.clusterCode payload.ns payload.podName
  | none => buildPodLogChannel payload.clusterCode payload.ns payload.podName

def onMessage (now : String) (s : WSState Progress Event) :
    WSMessage Progress Event → WSState Progress Event
  | .pong => { s with lastPongAt := some now }
  | .error message =>
      { s with
        lastError := some (if message.getD "" = "" then "WebSocket 频道订阅失败" else message.getD "") }
  | .taskProgress none => s
  | .taskProgress (some payload) =>
      { s with taskProgress := ringPush s.taskProgress payload maxTaskProgress }
  | .clusterEvent none => s
  | .clusterEvent (some payload) =>
      { s with clusterEvents := ringPush s.clusterEvents payload maxClusterEvents }
  | .podLogs _ none => s
  | .podLogs channel (some payload) =>
      let channel := channelOf channel payload
      -- every channel has a colon, so that no property of the prototype is met
      if channel = "" then s
      else
        { s with
          podLogs := s.podLogs.set channel
            (ringPush ((s.podLogs.get? channel).getD []) payload maxPodLogLines) }
  | .other => s

/-- The reducers of the slice; `now` is the time as a text. -/
def reducer (now : String) (s : WSState Progress Event) :
    WSAction Progress Event → WSState Progress Event
  | .setStatus .open_ =>
      { s with status := .open_, lastConnectedAt := some now, lastError := none }
  | .setStatus status => { s with status := status }
  | .setLastError err =>
      { s with lastError := err, status := if err.getD "" = "" then s.status else .error }
  | .setReconnecting =>
      { s with status := .reconnecting, reconnectCount := s.reconnectCount + 1 }
  | .bumpReconnect => { s with reconnectCount := s.reconnectCount + 1 }
  | .addSubscription ch =>
      if ch = "" then s
      else if ch ∈ s.subscriptions then s
      else { s with subscriptions := s.subscriptions ++ [ch] }
  | .removeSubscription ch =>
      { s with
        subscriptions := s.subscriptions.filter (· ≠ ch)
        podLogs := if Text.hasPrefix "pod_logs:" ch then s.podLogs.delete ch else s.podLogs }
  | .clearSubscriptions => { s with subscriptions := [], podLogs := .empty }
  | .onMessage msg => onMessage now s msg
  | .clearTaskProgress => { s with taskProgress := [] }
  | .clearClusterEvents => { s with clusterEvents := [] }
  | .clearPodLogs ch =>
      { s with podLogs := if ch.getD "" = "" then .empty else s.podLogs.delete (ch.getD "") }
  | .resetWS =>
      { initialState with lastConnectedAt := s.lastConnectedAt }

/-- A dispatched action and its time. -/
abbrev Dispatched (Progress Event : Type) := String × WSAction Progress Event

def next (s : WSState Progress Event) (d : Dispatched Progress Event) : WSState Progress Event :=
  reducer d.1 s d.2

/-- The lines received on a channel since it was subscribed or last cleared; none while it is not
subscribed. -/
def hear (ch : String) (heard : Option (List PodLogLinePayload)) :
    WSAction Progress Event → Option (List PodLogLinePayload)
  | .addSubscription ch' => if ch' = ch ∧ ch ≠ "" then some (heard.getD []) else heard
  | .removeSubscription ch' => if ch' = ch then none else heard
  | .clearSubscriptions | .resetWS => none
  | .clearPodLogs ch' =>
      if ch'.getD "" = "" ∨ ch'.getD "" = ch then heard.map fun _ => [] else heard
  | .onMessage (.podLogs channel (some payload)) =>
      if channelOf channel payload = ch then heard.map (· ++ [payload]) else heard
  | _ => heard

/-- The same for all channels. -/
def hearAll (heard : String → Option (List PodLogLinePayload)) (d : Dispatched Progress Event) :
    String → Option (List PodLogLinePayload) :=
  fun ch => hear ch (heard ch) d.2

/-- The lines of each channel after a run. -/
def heardAfter (run : List (Dispatched Progress Event)) :
    String → Option (List PodLogLinePayload) :=
  Transition.exec hearAll (fun _ => none) run

/-- One channel: it has a buffer only when it is subscribed, and the buffer has the last lines that
were received. -/
structure Follows (subscribed : Prop) (buffer heard : Option (List PodLogLinePayload)) : Prop where
  channel : subscribed ↔ heard.isSome = true
  buffered : buffer ≠ none → subscribed
  latest : ∀ lines, heard = some lines → buffer.getD [] = lines.rtake maxPodLogLines

def BuffersFollow (s : WSState Progress Event)
    (heard : String → Option (List PodLogLinePayload)) : Prop :=
  ∀ ch, Follows (ch ∈ s.subscriptions) (s.podLogs.get? ch) (heard ch)

/-- A line comes for a subscribed channel, and a channel without the name of a pod has no buffer
when its subscription ends. -/
def Lands (s : WSState Progress Event) (d : Dispatched Progress Event) : Prop :=
  match d.2 with
  | .onMessage (.podLogs channel (some payload)) => channelOf channel payload ∈ s.subscriptions
  | .removeSubscription ch => Text.hasPrefix "pod_logs:" ch = true ∨ s.podLogs.get? ch = none
  | _ => True

theorem ringPush_eq {α : Type} (arr : List α) (item : α) (max : Nat) :
    ringPush arr item max = (arr ++ [item]).rtake max := by
  unfold ringPush List.rtake
  dsimp only
  split
  · rfl
  · rename_i fits
    rw [Nat.sub_eq_zero_of_le (not_lt.1 fits), List.drop_zero]

/-- A ring holds the last elements pushed. -/
theorem ringPush_rtake {α : Type} (all : List α) (item : α) (max : Nat) :
    ringPush (all.rtake max) item max = (all ++ [item]).rtake max := by
  rw [ringPush_eq]
  unfold List.rtake
  have short : all.length - max ≤ all.length := Nat.sub_le _ _
  rw [← List.drop_append_of_le_length short, List.drop_drop]
  congr 1
  simp only [List.length_drop, List.length_append, List.length_singleton]
  omega

section Channel

variable {subscribed subscribed' : Prop} {buffer heard : Option (List PodLogLinePayload)}

theorem follows_none : Follows subscribed buffer none ↔ ¬subscribed ∧ buffer = none := by
  constructor
  · intro h
    have unsubscribed : ¬subscribed := fun is => by cases h.channel.1 is
    exact ⟨unsubscribed, by_contra fun there => unsubscribed (h.buffered there)⟩
  · rintro ⟨unsubscribed, rfl⟩
    refine ⟨iff_of_false unsubscribed Bool.false_ne_true, fun there => absurd rfl there, ?_⟩
    intro lines received
    cases received

theorem follows_some {lines : List PodLogLinePayload} :
    Follows subscribed buffer (some lines) ↔
      subscribed ∧ buffer.getD [] = lines.rtake maxPodLogLines := by
  constructor
  · exact fun h => ⟨h.channel.2 rfl, h.latest lines rfl⟩
  · rintro ⟨is, latest⟩
    refine ⟨iff_of_true is rfl, fun _ => is, ?_⟩
    rintro _ ⟨rfl⟩
    exact latest

theorem Follows.congr (h : Follows subscribed buffer heard) (same : subscribed' ↔ subscribed) :
    Follows subscribed' buffer heard := by
  rwa [propext same]

theorem Follows.subscribe (h : Follows subscribed buffer heard) (is : subscribed') :
    Follows subscribed' buffer (some (heard.getD [])) := by
  cases heard with
  | none =>
      obtain ⟨-, rfl⟩ := follows_none.1 h
      exact follows_some.2 ⟨is, (List.rtake_nil ..).symm⟩
  | some lines => exact follows_some.2 ⟨is, (follows_some.1 h).2⟩

theorem Follows.clear (h : Follows subscribed buffer heard) :
    Follows subscribed none (heard.map fun _ => []) := by
  cases heard with
  | none => exact follows_none.2 ⟨(follows_none.1 h).1, rfl⟩
  | some lines => exact follows_some.2 ⟨(follows_some.1 h).1, (List.rtake_nil ..).symm⟩

/-- A line is in its place where the channel is subscribed, and nowhere else. -/
theorem Follows.push_iff (h : Follows subscribed buffer heard) (payload : PodLogLinePayload) :
    Follows subscribed (some (ringPush (buffer.getD []) payload maxPodLogLines))
        (heard.map (· ++ [payload])) ↔ subscribed := by
  cases heard with
  | none =>
      have unsubscribed := (follows_none.1 h).1
      rw [Option.map_none, follows_none]
      exact iff_of_false (fun both => Option.some_ne_none _ both.2) unsubscribed
  | some lines =>
      obtain ⟨is, latest⟩ := follows_some.1 h
      rw [Option.map_some, follows_some, Option.getD_some, latest, ringPush_rtake]
      exact and_iff_left rfl

end Channel

/-! ## Every reducer -/

variable {s : WSState Progress Event} {heard : String → Option (List PodLogLinePayload)}

theorem colon_mem_buildPodLogChannel (clusterCode ns podName : String) :
    ':' ∈ (buildPodLogChannel clusterCode ns podName).toList := by
  unfold buildPodLogChannel
  rw [String.toList_append, String.toList_append]
  exact List.mem_append_left _ (List.mem_append_right _ (by decide))

theorem channelOf_ne_empty (channel : Option String) (payload : PodLogLinePayload) :
    channelOf channel payload ≠ "" := by
  have colon : ':' ∈ (channelOf channel payload).toList := by
    unfold channelOf
    split
    · split
      · assumption
      · exact colon_mem_buildPodLogChannel ..
    · exact colon_mem_buildPodLogChannel ..
  intro empty
  rw [empty] at colon
  exact absurd colon (by decide)

theorem BuffersFollow.addSubscription (h : BuffersFollow s heard) (now ch : String) :
    BuffersFollow (next s (now, .addSubscription ch))
      (hearAll heard ((now, .addSubscription ch) : Dispatched Progress Event)) := by
  intro c
  have buffers : (next s (now, .addSubscription ch)).podLogs = s.podLogs := by
    unfold next reducer
    dsimp only
    split_ifs <;> rfl
  have channels : c ∈ (next s (now, .addSubscription ch)).subscriptions ↔
      c ∈ s.subscriptions ∨ ch = c ∧ c ≠ "" := by
    unfold next reducer
    dsimp only
    split_ifs with empty known
    · simp only [empty]
      grind
    · grind
    · rw [List.mem_append, List.mem_singleton]
      grind
  rw [buffers]
  unfold hearAll hear
  dsimp only
  split
  case isTrue new => exact (h c).subscribe (channels.2 (.inr new))
  case isFalse other => exact (h c).congr (channels.trans (or_iff_left other))

theorem BuffersFollow.removeSubscription_iff (h : BuffersFollow s heard) (now ch : String) :
    BuffersFollow (next s (now, .removeSubscription ch))
        (hearAll heard ((now, .removeSubscription ch) : Dispatched Progress Event)) ↔
      Text.hasPrefix "pod_logs:" ch = true ∨ s.podLogs.get? ch = none := by
  have channels (c : String) : c ∈ (next s (now, .removeSubscription ch)).subscriptions ↔
      c ∈ s.subscriptions ∧ c ≠ ch :=
    List.mem_filter.trans (and_congr_right fun _ => decide_eq_true_iff)
  have buffer (c : String) : (next s (now, .removeSubscription ch)).podLogs.get? c =
      if Text.hasPrefix "pod_logs:" ch ∧ c = ch then none else s.podLogs.get? c := by
    unfold next reducer
    dsimp only
    by_cases named : Text.hasPrefix "pod_logs:" ch = true
    · rw [if_pos named, OrderedMap.get?_delete]
      simp only [named, true_and]
    · rw [if_neg named, if_neg fun both => named both.1]
  have heard' (c : String) :
      hearAll heard ((now, .removeSubscription ch) : Dispatched Progress Event) c =
        if ch = c then none else heard c := rfl
  constructor
  · intro after
    have own := after ch
    rw [heard', if_pos rfl, follows_none, buffer] at own
    by_cases named : Text.hasPrefix "pod_logs:" ch = true
    · exact .inl named
    · rw [if_neg fun both => named both.1] at own
      exact .inr own.2
  · intro lands c
    rw [heard', buffer]
    by_cases same : ch = c
    · subst same
      rw [if_pos rfl, follows_none, channels]
      refine ⟨fun both => both.2 rfl, ?_⟩
      split_ifs with named
      · rfl
      · exact lands.resolve_left fun is => named ⟨is, rfl⟩
    · rw [if_neg same, if_neg fun both => same both.2.symm]
      exact (h c).congr ((channels c).trans (and_iff_left (Ne.symm same)))

theorem BuffersFollow.clearPodLogs (h : BuffersFollow s heard) (now : String) (ch : Option String) :
    BuffersFollow (next s (now, .clearPodLogs ch))
      (hearAll heard ((now, .clearPodLogs ch) : Dispatched Progress Event)) := by
  intro c
  have buffer : (next s (now, .clearPodLogs ch)).podLogs.get? c =
      if ch.getD "" = "" ∨ ch.getD "" = c then none else s.podLogs.get? c := by
    unfold next reducer
    dsimp only
    split
    case isTrue all =>
      rw [if_pos (.inl all)]
      rfl
    case isFalse one =>
      rw [OrderedMap.get?_delete]
      simp only [one, false_or, eq_comm (a := c)]
  rw [buffer]
  unfold hearAll hear
  dsimp only
  split_ifs
  · exact (h c).clear
  · exact h c

theorem BuffersFollow.podLogs_iff (h : BuffersFollow s heard) (now : String)
    (channel : Option String) (payload : PodLogLinePayload) :
    BuffersFollow (next s (now, .onMessage (.podLogs channel (some payload))))
        (hearAll heard
          ((now, .onMessage (.podLogs channel (some payload))) : Dispatched Progress Event)) ↔
      channelOf channel payload ∈ s.subscriptions := by
  have state : next s (now, .onMessage (.podLogs channel (some payload))) =
      { s with
        podLogs := s.podLogs.set (channelOf channel payload)
          (ringPush ((s.podLogs.get? (channelOf channel payload)).getD []) payload
            maxPodLogLines) } :=
    if_neg (channelOf_ne_empty channel payload)
  have heard' (c : String) :
      hearAll heard
          ((now, .onMessage (.podLogs channel (some payload))) : Dispatched Progress Event) c =
        if channelOf channel payload = c then (heard c).map (· ++ [payload]) else heard c := rfl
  have own := (h (channelOf channel payload)).push_iff payload
  constructor
  · intro after
    have there := after (channelOf channel payload)
    rw [state, heard', if_pos rfl] at there
    dsimp only at there
    rw [OrderedMap.get?_set, if_pos rfl] at there
    exact own.1 there
  · intro subscribed c
    rw [state, heard']
    dsimp only
    rw [OrderedMap.get?_set]
    by_cases same : channelOf channel payload = c
    · subst same
      rw [if_pos rfl, if_pos rfl]
      exact own.2 subscribed
    · rw [if_neg same, if_neg (Ne.symm same)]
      exact h c

/-- After `clearSubscriptions` and `resetWS` nothing is left. -/
theorem buffersFollow_nothing {s : WSState Progress Event} (unsubscribed : s.subscriptions = [])
    (empty : s.podLogs = .empty) : BuffersFollow s fun _ => none := by
  intro ch
  rw [follows_none, unsubscribed, empty]
  exact ⟨List.not_mem_nil, rfl⟩

/-- A step keeps the buffers with the subscriptions just when it lands. -/
theorem BuffersFollow.step_iff (h : BuffersFollow s heard) (d : Dispatched Progress Event) :
    BuffersFollow (next s d) (hearAll heard d) ↔ Lands s d := by
  obtain ⟨now, action⟩ := d
  cases action with
  | addSubscription ch => exact iff_of_true (h.addSubscription now ch) trivial
  | removeSubscription ch => exact h.removeSubscription_iff now ch
  | clearSubscriptions | resetWS => exact iff_of_true (buffersFollow_nothing rfl rfl) trivial
  | clearPodLogs ch => exact iff_of_true (h.clearPodLogs now ch) trivial
  | onMessage msg =>
      cases msg with
      | podLogs channel data =>
          cases data with
          | none => exact iff_of_true h trivial
          | some payload => exact h.podLogs_iff now channel payload
      | taskProgress data | clusterEvent data => cases data <;> exact iff_of_true h trivial
      | pong | error | other => exact iff_of_true h trivial
  | setStatus status => cases status <;> exact iff_of_true h trivial
  | setLastError | setReconnecting | bumpReconnect | clearTaskProgress | clearClusterEvents =>
      exact iff_of_true h trivial

/-- In a run the buffers always follow the subscriptions just when every step lands. -/
theorem buffers_follow_iff (run : List (Dispatched Progress Event)) :
    (∀ n, BuffersFollow (Transition.exec next initialState (run.take n))
        (heardAfter (run.take n))) ↔
      Transition.Along Lands next initialState run :=
  Transition.always_iff_along_beside (fun h => h.step_iff _) (buffersFollow_nothing rfl rfl) run

def webLogs : String := buildPodLogChannel "prod" "default" "web-0"

def webLine : PodLogLinePayload where
  clusterCode := "prod"
  ns := "default"
  podName := "web-0"
  containerName := none
  line := "GET / 200"
  follow := some true
  eof := none

/-- The line was sent before the server knew that the subscription had ended. -/
def lateLine : List (Dispatched Unit Unit) :=
  [("2026-01-01T00:00:00Z", .addSubscription webLogs),
    ("2026-01-01T00:00:01Z", .removeSubscription webLogs),
    ("2026-01-01T00:00:02Z", .onMessage (.podLogs (some webLogs) (some webLine)))]

theorem late_line_kept :
    (Transition.exec next initialState lateLine).subscriptions = [] ∧
      (Transition.exec next initialState lateLine).podLogs.get? webLogs = some [webLine] ∧
      ¬BuffersFollow (Transition.exec next initialState lateLine) (heardAfter lateLine) := by
  have unsubscribed : (Transition.exec next initialState lateLine).subscriptions = [] := by
    decide +kernel
  have kept : (Transition.exec next initialState lateLine).podLogs.get? webLogs =
      some [webLine] := by
    decide +kernel
  refine ⟨unsubscribed, kept, fun follow => ?_⟩
  have subscribed := (follow webLogs).buffered (by rw [kept]; exact Option.some_ne_none _)
  rw [unsubscribed] at subscribed
  exact absurd subscribed List.not_mem_nil

/-! ## What holds in every run -/

/-- The progresses and the events that have come since they were last cleared. -/
def hearQueues (heard : List Progress × List Event) (d : Dispatched Progress Event) :
    List Progress × List Event :=
  match d.2 with
  | .onMessage (.taskProgress (some payload)) => (heard.1 ++ [payload], heard.2)
  | .onMessage (.clusterEvent (some payload)) => (heard.1, heard.2 ++ [payload])
  | .clearTaskProgress => ([], heard.2)
  | .clearClusterEvents => (heard.1, [])
  | .resetWS => ([], [])
  | _ => heard

structure QueuesLatest (s : WSState Progress Event) (heard : List Progress × List Event) :
    Prop where
  progress : s.taskProgress = heard.1.rtake maxTaskProgress
  events : s.clusterEvents = heard.2.rtake maxClusterEvents

theorem QueuesLatest.step {heard : List Progress × List Event} (h : QueuesLatest s heard)
    (d : Dispatched Progress Event) : QueuesLatest (next s d) (hearQueues heard d) := by
  obtain ⟨now, action⟩ := d
  obtain ⟨progress, events⟩ := h
  cases action with
  | addSubscription ch =>
      unfold next reducer
      dsimp only
      split_ifs <;> exact ⟨progress, events⟩
  | onMessage msg =>
      cases msg with
      | podLogs channel data =>
          cases data with
          | none => exact ⟨progress, events⟩
          | some payload =>
              unfold next reducer onMessage
              dsimp only
              split_ifs <;> exact ⟨progress, events⟩
      | taskProgress data =>
          cases data with
          | none => exact ⟨progress, events⟩
          | some payload =>
              refine ⟨?_, events⟩
              change ringPush s.taskProgress payload maxTaskProgress = _
              rw [progress]
              exact ringPush_rtake ..
      | clusterEvent data =>
          cases data with
          | none => exact ⟨progress, events⟩
          | some payload =>
              refine ⟨progress, ?_⟩
              change ringPush s.clusterEvents payload maxClusterEvents = _
              rw [events]
              exact ringPush_rtake ..
      | pong | error | other => exact ⟨progress, events⟩
  | setStatus status => cases status <;> exact ⟨progress, events⟩
  | clearTaskProgress => exact ⟨(List.rtake_nil ..).symm, events⟩
  | clearClusterEvents => exact ⟨progress, (List.rtake_nil ..).symm⟩
  | resetWS => exact ⟨(List.rtake_nil ..).symm, (List.rtake_nil ..).symm⟩
  | setLastError | setReconnecting | bumpReconnect | removeSubscription | clearSubscriptions
  | clearPodLogs => exact ⟨progress, events⟩

/-- The two queues have the last payloads that have come since they were cleared. -/
theorem queues_latest (run : List (Dispatched Progress Event)) :
    QueuesLatest (Transition.exec next initialState run)
      (Transition.exec hearQueues ([], []) run) :=
  Transition.exec_related (fun h => h.step _)
    ⟨(List.rtake_nil ..).symm, (List.rtake_nil ..).symm⟩ run

theorem length_ringPush_le {α : Type} (arr : List α) (item : α) (max : Nat) :
    (ringPush arr item max).length ≤ max := by
  rw [ringPush_eq, List.rtake, List.length_drop]
  omega

/-- A step leaves a buffer alone, removes it, or pushes a line. -/
theorem get?_podLogs_next (s : WSState Progress Event) (d : Dispatched Progress Event)
    (ch : String) :
    (next s d).podLogs.get? ch = s.podLogs.get? ch ∨ (next s d).podLogs.get? ch = none ∨
      ∃ arr payload, (next s d).podLogs.get? ch = some (ringPush arr payload maxPodLogLines) := by
  obtain ⟨now, action⟩ := d
  cases action with
  | addSubscription ch' =>
      unfold next reducer
      dsimp only
      split_ifs <;> exact .inl rfl
  | removeSubscription ch' =>
      unfold next reducer
      dsimp only
      split_ifs
      · rw [OrderedMap.get?_delete]
        split_ifs
        · exact .inr (.inl rfl)
        · exact .inl rfl
      · exact .inl rfl
  | clearPodLogs ch' =>
      unfold next reducer
      dsimp only
      split_ifs
      · exact .inr (.inl rfl)
      · rw [OrderedMap.get?_delete]
        split_ifs
        · exact .inr (.inl rfl)
        · exact .inl rfl
  | clearSubscriptions | resetWS => exact .inr (.inl rfl)
  | onMessage msg =>
      cases msg with
      | podLogs channel data =>
          cases data with
          | none => exact .inl rfl
          | some payload =>
              unfold next reducer onMessage
              dsimp only
              split_ifs
              · exact .inl rfl
              · rw [OrderedMap.get?_set]
                split_ifs
                · exact .inr (.inr ⟨_, _, rfl⟩)
                · exact .inl rfl
      | taskProgress data | clusterEvent data => cases data <;> exact .inl rfl
      | pong | error | other => exact .inl rfl
  | setStatus status => cases status <;> exact .inl rfl
  | setLastError | setReconnecting | bumpReconnect | clearTaskProgress | clearClusterEvents =>
      exact .inl rfl

/-- No buffer grows beyond its bound. -/
theorem podLogs_bounded (run : List (Dispatched Progress Event)) (ch : String)
    (buffer : List PodLogLinePayload)
    (there : (Transition.exec next initialState run).podLogs.get? ch = some buffer) :
    buffer.length ≤ maxPodLogLines := by
  have bounded : Transition.Invariant
      (.ofFn (· = initialState) next : Transition.System (WSState Progress Event) _)
      fun s => ∀ buffer, s.podLogs.get? ch = some buffer → buffer.length ≤ maxPodLogLines :=
    { init := by
        rintro s rfl buffer found
        cases found
      step := by
        rintro s d _ bound rfl buffer found
        obtain kept | gone | ⟨arr, payload, pushed⟩ := get?_podLogs_next s d ch
        · exact bound buffer (kept ▸ found)
        · rw [gone] at found
          cases found
        · rw [pushed] at found
          obtain rfl := Option.some.inj found
          exact length_ringPush_le .. }
  exact bounded.holds (.exec run (.init rfl)) buffer there

end K8sPlatform.Frontend
