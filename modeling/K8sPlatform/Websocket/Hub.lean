import K8sPlatform.Lib.Transition
import K8sPlatform.Auth.Tree
import K8sPlatform.Resource.Object

/-! # The hub, its clients, and what reaches their send queues -/

namespace K8sPlatform.Websocket

open Auth Errcode
open Resource (Json)

def typePodLogs : String := "pod_logs"
def typeTaskProgress : String := "task_progress"
def typeClusterEvent : String := "cluster_event"
def typePong : String := "pong"
def typeError : String := "error"

def wsSendQueueSize : Nat := 256

/-- The size of the hub's queues of registrations and of removals. -/
def hubQueueSize : Nat := 64

structure PodLogLine where
  clusterCode : String
  ns : String
  podName : String
  containerName : String
  line : String
  follow : Bool
  eof : Bool
  deriving DecidableEq, Repr

inductive Data
  | line (line : PodLogLine)
  | relayed (payload : Json)
  | notice (message : String)

structure Message where
  type : String
  channel : String
  data : Option Data

def authorizeChannel (pt : Option PermissionTree) (channel : String) : Bool :=
  match pt with
  | none => false
  | some pt =>
      if channel = "" then false
      else if '*' ∈ channel.toList then false
      else if channel = typeTaskProgress then pt.hasPerm "backup:list"
      else if channel = typeClusterEvent then pt.hasPerm "cluster:list"
      else if Text.hasPrefix (typePodLogs ++ ":") channel then
        match Text.split ':' channel with
        | [_, clusterCode, ns, podName] =>
            if clusterCode = "" ∨ ns = "" ∨ podName = "" then false
            else if !pt.hasPerm "cluster:list" && !pt.hasPerm "resource:get" then false
            else pt.hasNamespaceScope clusterCode ns
        | _ => false
      else false

/-- A text that should be JSON, as the value that it is; `none` when it is not. -/
abbrev Payload := Option Json

/-- What Go's decoder leaves in the two fields, and whether it met no value of another type. -/
structure ProgressScope where
  clusterCode : String
  ns : String
  wellTyped : Bool
  deriving DecidableEq, Repr

/-- Keys match in any case, the last one wins, `null` changes nothing, and a value that is no
string is an error that does not stop the decoding. -/
def ProgressScope.decode (p : ProgressScope) (field : String × Json) : ProgressScope :=
  if Text.foldCase field.1 = "cluster_code".toList then
    match field.2 with
    | .str s => { p with clusterCode := s }
    | .null => p
    | _ => { p with wellTyped := false }
  else if Text.foldCase field.1 = "namespace".toList then
    match field.2 with
    | .str s => { p with ns := s }
    | .null => p
    | _ => { p with wellTyped := false }
  else p

def progressScope : Json → ProgressScope
  | .obj fields => fields.foldl ProgressScope.decode ⟨"", "", true⟩
  | .null => ⟨"", "", true⟩
  | _ => ⟨"", "", false⟩

def authorizeTaskProgressPayload (pt : Option PermissionTree) (raw : Payload) : Bool :=
  authorizeChannel pt typeTaskProgress &&
    match pt, raw.map progressScope with
    | some pt, some p =>
        p.wellTyped &&
          if p.clusterCode = "" then pt.hasClusterScope ""
          else if p.ns = "" ∨ Text.hasPrefix "multi:" p.ns = true then
            pt.hasClusterScope p.clusterCode
          else pt.hasNamespaceScope p.clusterCode p.ns
    | _, _ => false

/-! ## Clients -/

/-- `reading` is whether `readPump` has not returned. -/
structure Client where
  userId : Nat
  permTree : Option PermissionTree
  send : List Message
  closed : Bool
  channels : List String
  reading : Bool

def newClient (userId : Nat) (pt : Option PermissionTree) : Client where
  userId := userId
  permTree := pt
  send := []
  closed := false
  channels := []
  reading := true

namespace Client

/-- A name that ends in `*` stands for all channels that begin with the rest of it. -/
def matchesWildcard (ch channel : String) : Bool :=
  ch.toList.getLast? == some '*' && Text.hasPrefix (String.ofList ch.toList.dropLast) channel

def subscribed (c : Client) (channel : String) : Bool :=
  channel != "" &&
    (c.channels.contains channel || c.channels.any fun ch => matchesWildcard ch channel)

def subscribe (c : Client) (channel : String) : Client :=
  if channel = "" then c else { c with channels := c.channels.insert channel }

def unsubscribe (c : Client) (channel : String) : Client :=
  { c with channels := c.channels.filter (· ≠ channel) }

/-- A message for a full queue is dropped. -/
def put (c : Client) (payload : Message) : Client :=
  if c.send.length < wsSendQueueSize then { c with send := c.send ++ [payload] } else c

/-- What `broadcastToChannel` does for one client of the map. -/
def offer (c : Client) (channel : String) (payload : Message) (progressRaw : Option Payload) :
    Client :=
  if !c.subscribed channel then c
  else
    match progressRaw with
    | none => c.put payload
    | some raw =>
        if channel = typeTaskProgress ∧ authorizeTaskProgressPayload c.permTree raw = false then c
        else c.put payload

@[simp] theorem put_closed (c : Client) (m : Message) : (c.put m).closed = c.closed := by
  unfold put
  split_ifs <;> rfl

@[simp] theorem put_reading (c : Client) (m : Message) : (c.put m).reading = c.reading := by
  unfold put
  split_ifs <;> rfl

@[simp] theorem put_channels (c : Client) (m : Message) : (c.put m).channels = c.channels := by
  unfold put
  split_ifs <;> rfl

end Client

/-! ## The hub -/

/-- All clients ever made, by number, and among them those of the map and of the two queues.
`stopping` is whether `stopCh` is closed and `down` whether the run loop has returned. A send on a
closed channel brings the process down: `crashed`. -/
structure Hub where
  connections : Nat → Option Client
  clients : List Nat
  register : List Nat
  unregister : List Nat
  stopping : Bool
  down : Bool
  crashed : Bool

def newHub : Hub where
  connections := fun _ => none
  clients := []
  register := []
  unregister := []
  stopping := false
  down := false
  crashed := false

namespace Hub

def setClient (h : Hub) (id : Nat) (c : Client) : Hub :=
  { h with connections := Function.update h.connections id (some c) }

/-- A queue takes what it has room for, and drops the rest. -/
def enqueue (queue : List Nat) (id : Nat) : List Nat :=
  if queue.length < hubQueueSize then queue ++ [id] else queue

theorem mem_enqueue {queue : List Nat} {id id' : Nat} :
    id ∈ enqueue queue id' ↔ id ∈ queue ∨ queue.length < hubQueueSize ∧ id = id' := by
  unfold enqueue
  split_ifs with room <;> simp [room]

theorem nodup_enqueue {queue : List Nat} {id : Nat} (nodup : queue.Nodup) (fresh : id ∉ queue) :
    (enqueue queue id).Nodup := by
  unfold enqueue
  split_ifs
  · simpa using nodup.concat fresh
  · exact nodup

def sendToClient (h : Hub) (id : Nat) (payload : Message) : Hub :=
  match h.connections id with
  | none => h
  | some c => if c.closed then { h with crashed := true } else h.setClient id (c.put payload)

def broadcastToChannel (h : Hub) (channel : String) (payload : Message)
    (progressRaw : Option Payload) : Hub :=
  { h with
    connections := fun id =>
      if id ∈ h.clients then (h.connections id).map (·.offer channel payload progressRaw)
      else h.connections id }

/-- A payload that is no JSON cannot be put into a message. -/
def publishMessage (h : Hub) (msgType channel : String) (payload : Payload) : Hub :=
  match payload with
  | none => h
  | some json =>
      let out : Message := ⟨msgType, channel, some (.relayed json)⟩
      if channel = typeTaskProgress then h.broadcastToChannel channel out (some payload)
      else h.broadcastToChannel channel out none

/-- Message type and channel by Redis channel. -/
def redisChannelMap : List (String × String × String) :=
  [("notifier:task_progress", typeTaskProgress, typeTaskProgress),
   ("notifier:cluster_event", typeClusterEvent, typeClusterEvent),
   ("notifier:pod_logs", typePodLogs, typePodLogs)]

def relay (h : Hub) (redisCh : String) (payload : Payload) : Hub :=
  match redisChannelMap.lookup redisCh with
  | none => h
  | some (msgType, subChan) => h.publishMessage msgType subChan payload

/-- `close(c.send)` for a client of the map. -/
def close (h : Hub) (id : Nat) : Hub :=
  match h.connections id with
  | none => h
  | some c => h.setClient id { c with closed := true }

end Hub

def pong (channel : String) : Message := ⟨typePong, channel, none⟩

def refusal (channel message : String) : Message := ⟨typeError, channel, some (.notice message)⟩

/-- A message from the browser: an action, or a text that is none. -/
inductive Received
  | action (name channel : String)
  | text (s : String)

/-- The body of the loop of `readPump`. -/
def Hub.receive (h : Hub) (id : Nat) (c : Client) : Received → Hub
  | .text s =>
      if Text.foldCase (Text.trimSpace s) = "ping".toList then h.sendToClient id (pong "") else h
  | .action name channel =>
      let action := Text.toLower name
      if action = "subscribe" then
        if authorizeChannel c.permTree channel then h.setClient id (c.subscribe channel)
        else h.sendToClient id (refusal channel "无权订阅该频道")
      else if action = "unsubscribe" then h.setClient id (c.unsubscribe channel)
      else if action = "ping" then h.sendToClient id (pong channel)
      else h

def podLogChannelName (clusterCode ns podName : String) : String :=
  typePodLogs ++ ":" ++ clusterCode ++ ":" ++ ns ++ ":" ++ podName

structure LogRequest where
  clusterCode : String
  ns : String
  podName : String
  containerName : String
  follow : Bool

/-- What one `ReadString` of the log stream gives. -/
inductive LogRead
  | line (text : String)
  | eof (rest : String)
  | failed (rest err : String)

/-- What the cluster answers. The reads end early when the context is done. -/
structure LogAnswers where
  client : Except Error Bool
  clientset : Except String Unit
  stream : Except String Unit
  reads : List LogRead

def LogRequest.base (r : LogRequest) : PodLogLine where
  clusterCode := r.clusterCode
  ns := r.ns
  podName := r.podName
  containerName := r.containerName
  line := ""
  follow := r.follow
  eof := false

namespace LogRequest

variable (r : LogRequest)

/-- The line of a read, if it is not empty. -/
def item (text : String) : List PodLogLine :=
  if text = "" then [] else [{ r.base with line := Text.trimRight ['\r', '\n'] text }]

def pushErr (err : Error) : List PodLogLine × Except Error Unit :=
  ([{ r.base with line := err.text, eof := true }], .error err)

def readAll : List LogRead → List PodLogLine × Except Error Unit
  | [] => ([], .ok ())
  | .line text :: reads =>
      let (lines, result) := readAll reads
      (r.item text ++ lines, result)
  | .eof rest :: _ => (r.item rest ++ [{ r.base with eof := true }], .ok ())
  | .failed rest err :: _ =>
      let (lines, result) := r.pushErr (.wrapMsg .k8sAPIError err "读取 Pod 日志流失败")
      (r.item rest ++ lines, result)

end LogRequest

/-- The lines that `StreamPodLogs` pushes to the channel of the pod, and its result. -/
def streamPodLogs (r : LogRequest) (a : LogAnswers) : List PodLogLine × Except Error Unit :=
  if r.clusterCode = "" ∨ r.ns = "" ∨ r.podName = "" then
    ([], .error (.new .invalidArgument "clusterCode/namespace/podName 不能为空"))
  else
    match a.client, a.clientset, a.stream with
    | .error err, _, _ =>
        ([{ r.base with line := "打开日志流失败: " ++ err.text, eof := true }], .error err)
    | .ok false, _, _ => r.pushErr (.new .clusterConnectFail "无法获取集群 rest.Config")
    | .ok true, .error err, _ =>
        r.pushErr (.wrapMsg .clusterConnectFail err "创建 kubernetes clientset 失败")
    | .ok true, .ok (), .error err =>
        r.pushErr (.wrapMsg .k8sAPIError err "打开 Pod 日志流失败")
    | .ok true, .ok (), .ok () => r.readAll a.reads

def Hub.pushLine (h : Hub) (channel : String) (line : PodLogLine) : Hub :=
  h.broadcastToChannel channel ⟨typePodLogs, channel, some (.line line)⟩ none

/-! ## Steps -/

/-- `connect` is the handshake up to `Register`, `hangUp` the return of `readPump` with its
`Unregister`, `write` one turn of `writePump`, and `push` the `n`-th line of a log stream. A
broadcast holds the lock of the map, and does at each client what the other clients have no part
in. Nothing calls `Broadcast`. -/
inductive HubStep
  | connect (id userId : Nat) (pt : Option PermissionTree)
  | receive (id : Nat) (message : Received)
  | hangUp (id : Nat)
  | write (id : Nat)
  | takeRegister
  | takeUnregister
  | stop
  | shutDown
  | push (r : LogRequest) (a : LogAnswers) (n : Nat)
  | relay (redisCh : String) (payload : Payload)

namespace Hub

def advance (h : Hub) : HubStep → Hub
  | .connect id userId pt =>
      match h.connections id with
      | some _ => h
      | none => { h.setClient id (newClient userId pt) with register := enqueue h.register id }
  | .receive id message =>
      match h.connections id with
      | some c => if c.reading then h.receive id c message else h
      | none => h
  | .hangUp id =>
      match h.connections id with
      | some c =>
          if c.reading then
            { h.setClient id { c with reading := false } with
              unregister := enqueue h.unregister id }
          else h
      | none => h
  | .write id =>
      match h.connections id with
      | some c => h.setClient id { c with send := c.send.tail }
      | none => h
  | .takeRegister =>
      match h.down, h.register with
      | false, id :: rest => { h with clients := h.clients.insert id, register := rest }
      | _, _ => h
  | .takeUnregister =>
      match h.down, h.unregister with
      | false, id :: rest =>
          if id ∈ h.clients then
            { h.close id with clients := h.clients.filter (· ≠ id), unregister := rest }
          else { h with unregister := rest }
      | _, _ => h
  | .stop => { h with stopping := true }
  | .shutDown =>
      if h.stopping && !h.down then
        { h with
          connections := fun id =>
            if id ∈ h.clients then (h.connections id).map ({ · with closed := true })
            else h.connections id
          clients := []
          down := true }
      else h
  | .push r a n =>
      match (streamPodLogs r a).1[n]? with
      | some line => h.pushLine (podLogChannelName r.clusterCode r.ns r.podName) line
      | none => h
  | .relay redisCh payload => h.relay redisCh payload

/-- After a crash nothing happens. -/
def next (h : Hub) (e : HubStep) : Hub := if h.crashed then h else h.advance e

/-- Every client ever made has the property. -/
def All (P : Client → Prop) (h : Hub) : Prop := ∀ id c, h.connections id = some c → P c

variable {P : Client → Prop} {h : Hub}

theorem All.setClient (all : h.All P) {id : Nat} {c : Client} (holds : P c) :
    (h.setClient id c).All P := by
  intro other c' found
  by_cases same : other = id
  · subst same
    obtain rfl : c = c' := by simpa [Hub.setClient] using found
    exact holds
  · exact all other c' (by simpa [Hub.setClient, same] using found)

theorem All.sendToClient (all : h.All P) {id : Nat} {m : Message}
    (keeps : ∀ c, P c → P (c.put m)) : (h.sendToClient id m).All P := by
  unfold Hub.sendToClient
  cases found : h.connections id with
  | none => exact all
  | some c =>
      dsimp only
      split_ifs
      · exact all
      · exact all.setClient (keeps c (all id c found))

theorem All.close (all : h.All P) {id : Nat} (keeps : ∀ c, P c → P { c with closed := true }) :
    (h.close id).All P := by
  unfold Hub.close
  cases found : h.connections id with
  | none => exact all
  | some c => exact all.setClient (keeps c (all id c found))

theorem All.broadcastToChannel (all : h.All P) {channel : String} {m : Message}
    {progressRaw : Option Payload} (keeps : ∀ c, P c → P (c.offer channel m progressRaw)) :
    (h.broadcastToChannel channel m progressRaw).All P := by
  intro id c found
  simp only [Hub.broadcastToChannel] at found
  split_ifs at found
  · obtain ⟨c', found', rfl⟩ := Option.map_eq_some_iff.1 found
    exact keeps c' (all id c' found')
  · exact all id c found

end Hub

/-- Runs of the hub from its start. -/
def hubRuns : Transition.System Hub HubStep := .ofFn (· = newHub) Hub.next

end K8sPlatform.Websocket
