import K8sPlatform.Websocket.Hub

/-! # Who closes the queue of a client, and who may still send on it -/

namespace K8sPlatform.Websocket

open Auth

/-- The reply of `readPump` to a message, if it makes one. -/
def Received.reply (pt : Option PermissionTree) : Received → Option Message
  | .text s => if Text.foldCase (Text.trimSpace s) = "ping".toList then some (pong "") else none
  | .action name channel =>
      let action := Text.toLower name
      if action = "subscribe" then
        if authorizeChannel pt channel then none else some (refusal channel "无权订阅该频道")
      else if action = "unsubscribe" then none
      else if action = "ping" then some (pong channel)
      else none

/-- A message without a reply changes the channels of the client, if anything. -/
def Client.hear (c : Client) : Received → Client
  | .text _ => c
  | .action name channel =>
      let action := Text.toLower name
      if action = "subscribe" then c.subscribe channel
      else if action = "unsubscribe" then c.unsubscribe channel
      else c

theorem Hub.setClient_self {h : Hub} {id : Nat} {c : Client} (found : h.connections id = some c) :
    h.setClient id c = h := by
  rw [Hub.setClient, ← found, Function.update_eq_self]

theorem Hub.receive_eq {h : Hub} {id : Nat} {c : Client} (found : h.connections id = some c)
    (m : Received) :
    h.receive id c m = match m.reply c.permTree with
      | some answer => h.sendToClient id answer
      | none => h.setClient id (c.hear m) := by
  cases m with
  | text s =>
      simp only [Hub.receive, Received.reply, Client.hear]
      split_ifs
      · rfl
      · exact (Hub.setClient_self found).symm
  | action name channel =>
      simp only [Hub.receive, Received.reply, Client.hear]
      split_ifs
      · rfl
      · rfl
      · rfl
      · rfl
      · exact (Hub.setClient_self found).symm

/-- Whether `broadcastToChannel` sends to a client of the map. -/
def Client.wants (c : Client) (channel : String) (progressRaw : Option Payload) : Bool :=
  c.subscribed channel &&
    match progressRaw with
    | none => true
    | some raw => channel != typeTaskProgress || authorizeTaskProgressPayload c.permTree raw

theorem Client.offer_eq (c : Client) (channel : String) (payload : Message)
    (progressRaw : Option Payload) :
    c.offer channel payload progressRaw =
      if c.wants channel progressRaw then c.put payload else c := by
  cases hs : c.subscribed channel with
  | false => simp [Client.offer, Client.wants, hs]
  | true =>
      cases progressRaw with
      | none => simp [Client.offer, Client.wants, hs]
      | some raw =>
          by_cases task : channel = typeTaskProgress
          · subst task
            cases allowed : authorizeTaskProgressPayload c.permTree raw <;>
              simp [Client.offer, Client.wants, hs, allowed]
          · simp [Client.offer, Client.wants, hs, task]

/-- A call of `broadcastToChannel` that holds the read lock, with the clients to come. -/
structure Fanout where
  channel : String
  payload : Message
  progressRaw : Option Payload
  todo : List Nat

/-- Where the run loop is: at its `select`, before a lock with what it has taken, between the
removal of a client from the map and the `close`, in a full broadcast, or in the branch of `stopCh`,
there with the queue of a client closed and its connection not. -/
inductive LoopPhase
  | select
  | registering (id : Nat)
  | unregistering (id : Nat)
  | dropping (id : Nat)
  | broadcasting (payload : Message) (todo : List Nat)
  | stopping
  | closing
  | severing (id : Nat)
  | returned

/-- The run loop holds the lock for writing. -/
def LoopPhase.locked : LoopPhase → Bool
  | .dropping _ | .closing | .severing _ => true
  | _ => false

/-- `inbox` is the message that a reader is about to handle, `severed` are the clients whose
connection is closed. No code reads `stopped`: it keeps the clients whose queue the branch of
`stopCh` has closed. -/
structure LiveHub where
  hub : Hub
  broadcast : List Message
  phase : LoopPhase
  fanouts : List Fanout
  inbox : Nat → Option Received
  severed : List Nat
  stopped : List Nat

/-- `read` and `handle` are a turn of `readPump`, `disconnect` is a connection that breaks, or that
`writePump` closes. The order in which a broadcast takes the clients of the map comes with it, and
the branch of `stopCh` is told which client it takes next. -/
inductive LiveStep
  | connect (id userId : Nat) (pt : Option PermissionTree)
  | read (id : Nat) (message : Received)
  | handle (id : Nat)
  | hangUp (id : Nat)
  | write (id : Nat)
  | disconnect (id : Nat)
  | broadcast (payload : Message)
  | publish (channel : String) (payload : Message) (progressRaw : Option Payload)
      (order : List Nat)
  | visit (n : Nat)
  | stop
  | takeStop
  | takeRegister
  | takeUnregister
  | takeBroadcast (order : List Nat)
  | proceed (id : Nat)

/-- The size of the hub's queue of full broadcasts. -/
def broadcastQueueSize : Nat := 256

/-- `close(c.send)`: the second `close` of a channel brings the process down. -/
def Hub.closeSend (h : Hub) (id : Nat) : Hub :=
  match h.connections id with
  | none => h
  | some c => if c.closed then { h with crashed := true } else h.close id

/-- `broadcastToChannel` at one client. -/
def Fanout.offerTo (f : Fanout) (h : Hub) (id : Nat) : Hub :=
  match h.connections id with
  | none => h
  | some c => if c.wants f.channel f.progressRaw then h.sendToClient id f.payload else h

namespace LiveHub

def start : LiveHub := ⟨newHub, [], .select, [], fun _ => none, [], []⟩

/-- The run loop goes on from where it is. -/
def proceed (s : LiveHub) (next : Nat) : LiveHub :=
  match s.phase with
  | .select | .returned => s
  | .registering id =>
      if s.fanouts.isEmpty then
        { s with hub := { s.hub with clients := s.hub.clients.insert id }, phase := .select }
      else s
  | .unregistering id =>
      if s.fanouts.isEmpty then
        if id ∈ s.hub.clients then
          { s with
            hub := { s.hub with clients := s.hub.clients.filter (· ≠ id) }
            phase := .dropping id }
        else { s with phase := .select }
      else s
  | .dropping id => { s with hub := s.hub.closeSend id, phase := .select }
  | .broadcasting _ [] => { s with phase := .select }
  | .broadcasting payload (id :: todo) =>
      { s with hub := s.hub.sendToClient id payload, phase := .broadcasting payload todo }
  | .stopping => if s.fanouts.isEmpty then { s with phase := .closing } else s
  | .closing =>
      if s.hub.clients = [] then { s with hub := { s.hub with down := true }, phase := .returned }
      else if next ∈ s.hub.clients then
        { s with
          hub := s.hub.closeSend next
          phase := .severing next
          stopped := s.stopped.insert next }
      else s
  | .severing id =>
      { s with
        hub := { s.hub with clients := s.hub.clients.filter (· ≠ id) }
        phase := .closing
        severed := s.severed.insert id }

def advance (s : LiveHub) : LiveStep → LiveHub
  | .connect id userId pt => { s with hub := s.hub.advance (.connect id userId pt) }
  | .read id message =>
      match s.hub.connections id with
      | some c =>
          if c.reading && (s.inbox id).isNone && !s.severed.contains id then
            { s with inbox := Function.update s.inbox id (some message) }
          else s
      | none => s
  | .handle id =>
      match s.inbox id with
      | some message =>
          { s with
            hub := s.hub.advance (.receive id message)
            inbox := Function.update s.inbox id none }
      | none => s
  | .hangUp id =>
      match s.hub.connections id with
      | some c =>
          if c.reading && (s.inbox id).isNone then
            { s with hub := s.hub.advance (.hangUp id), severed := s.severed.insert id }
          else s
      | none => s
  | .write id => { s with hub := s.hub.advance (.write id) }
  | .disconnect id => { s with severed := s.severed.insert id }
  | .broadcast payload =>
      if s.broadcast.length < broadcastQueueSize then
        { s with broadcast := s.broadcast ++ [payload] }
      else s
  | .publish channel payload progressRaw order =>
      if !s.phase.locked && order.isPerm s.hub.clients then
        { s with fanouts := s.fanouts ++ [⟨channel, payload, progressRaw, order⟩] }
      else s
  | .visit n =>
      match s.fanouts[n]? with
      | none => s
      | some f =>
          match f.todo with
          | [] => { s with fanouts := s.fanouts.eraseIdx n }
          | id :: todo =>
              { s with hub := f.offerTo s.hub id, fanouts := s.fanouts.set n { f with todo } }
  | .stop => { s with hub := s.hub.advance .stop }
  | .takeStop =>
      match s.phase, s.hub.stopping with
      | .select, true => { s with phase := .stopping }
      | _, _ => s
  | .takeRegister =>
      match s.phase, s.hub.register with
      | .select, id :: rest =>
          { s with hub := { s.hub with register := rest }, phase := .registering id }
      | _, _ => s
  | .takeUnregister =>
      match s.phase, s.hub.unregister with
      | .select, id :: rest =>
          { s with hub := { s.hub with unregister := rest }, phase := .unregistering id }
      | _, _ => s
  | .takeBroadcast order =>
      match s.phase, s.broadcast with
      | .select, payload :: rest =>
          if order.isPerm s.hub.clients then
            { s with broadcast := rest, phase := .broadcasting payload order }
          else s
      | _, _ => s
  | .proceed next => s.proceed next

/-- After a crash nothing happens. -/
def next (s : LiveHub) (e : LiveStep) : LiveHub := if s.hub.crashed then s else s.advance e

/-- No step has sent on a closed queue, or closed one for the second time. -/
def Intact (s : LiveHub) : Prop := s.hub.crashed = false

/-- A reader does not reply to a client whose queue the branch of `stopCh` has closed. -/
def SparesStopped (s : LiveHub) : LiveStep → Prop
  | .handle id =>
      ∀ c m, s.hub.connections id = some c → s.inbox id = some m → c.reading = true →
        (m.reply c.permTree).isSome = true → id ∉ s.stopped
  | _ => True

end LiveHub

/-! ## Custody of the queues -/

/-- Of every client: whether its queue is closed and whether its reader runs. With that the map,
the queues of the hub, the run loop, the clients that the broadcasts in progress have still to take,
and those whose queue the branch of `stopCh` has closed. -/
structure Custody where
  state : Nat → Option (Bool × Bool)
  clients : List Nat
  register : List Nat
  unregister : List Nat
  phase : LoopPhase
  visits : List (List Nat)
  stopped : List Nat

namespace Custody

/-- What the run loop may rely on where it is. -/
def Holds (x : Custody) : LoopPhase → Prop
  | .select | .stopping | .returned => True
  | .registering id => id ∉ x.register ∧ id ∉ x.clients ∧ ∃ r, x.state id = some (false, r)
  | .unregistering id => ∃ b, x.state id = some (b, false)
  | .dropping id =>
      id ∉ x.register ∧ id ∉ x.clients ∧ x.state id = some (false, false) ∧ x.visits = []
  | .broadcasting _ todo => todo ⊆ x.clients
  | .closing | .severing _ => x.visits = []

/-- Each queue has one closer, and nobody but a reader can come too late to one that is closed. -/
structure Sound (x : Custody) : Prop where
  once : x.register.Nodup
  awaiting : ∀ id ∈ x.register, id ∉ x.clients ∧ ∃ r, x.state id = some (false, r)
  leaving : ∀ id ∈ x.unregister, ∃ b, x.state id = some (b, false)
  mapped : ∀ id ∈ x.clients, ∃ b r, x.state id = some (b, r) ∧ (b = true → x.phase = .severing id)
  visits : ∀ v ∈ x.visits, v ⊆ x.clients
  stopped : ∀ id ∈ x.stopped, ∃ r, x.state id = some (true, r)
  closed : ∀ id, x.state id = some (true, true) → id ∈ x.stopped
  loop : x.Holds x.phase

/-- What the steps of the hub do to the custody. -/
inductive Steps (x : Custody) : Custody → Prop
  | quiet : Steps x x
  | connects (id : Nat) (new : x.state id = none) :
      Steps x { x with
        state := Function.update x.state id (some (false, true))
        register := Hub.enqueue x.register id }
  | hangsUp (id : Nat) (b : Bool) (found : x.state id = some (b, true)) :
      Steps x { x with
        state := Function.update x.state id (some (b, false))
        unregister := Hub.enqueue x.unregister id }
  | visits (vs : List (List Nat)) (sub : ∀ v ∈ vs, ∃ w ∈ x.visits, v ⊆ w) :
      Steps x { x with visits := vs }
  | publishes (order : List Nat) (free : x.phase.locked = false) (sub : order ⊆ x.clients) :
      Steps x { x with visits := x.visits ++ [order] }
  | goes (p : LoopPhase) (holds : x.Holds p) (settled : ∀ id, x.phase ≠ .severing id) :
      Steps x { x with phase := p }
  | takesRegister (id : Nat) (rest : List Nat) (idle : x.phase = .select)
      (head : x.register = id :: rest) :
      Steps x { x with register := rest, phase := .registering id }
  | takesUnregister (id : Nat) (rest : List Nat) (idle : x.phase = .select)
      (head : x.unregister = id :: rest) :
      Steps x { x with unregister := rest, phase := .unregistering id }
  | registers (id : Nat) (turn : x.phase = .registering id) :
      Steps x { x with clients := x.clients.insert id, phase := .select }
  | removes (id : Nat) (turn : x.phase = .unregistering id) (alone : x.visits = [])
      (member : id ∈ x.clients) :
      Steps x { x with clients := x.clients.filter (· ≠ id), phase := .dropping id }
  | drops (id : Nat) (turn : x.phase = .dropping id) :
      Steps x { x with state := Function.update x.state id (some (true, false)), phase := .select }
  | closes (id : Nat) (r : Bool) (turn : x.phase = .closing) (member : id ∈ x.clients)
      (found : x.state id = some (false, r)) :
      Steps x { x with
        state := Function.update x.state id (some (true, r))
        phase := .severing id
        stopped := x.stopped.insert id }
  | severs (id : Nat) (turn : x.phase = .severing id) :
      Steps x { x with clients := x.clients.filter (· ≠ id), phase := .closing }

variable {x y : Custody}

/-- The steps of the others leave the run loop what it relies on. -/
theorem Holds.frame {p : LoopPhase} (holds : x.Holds p) (clients : y.clients = x.clients)
    (register : ∀ id ∈ y.register, id ∈ x.register ∨ x.state id = none)
    (awake : ∀ id r, x.state id = some (false, r) → ∃ r', y.state id = some (false, r'))
    (gone : ∀ id b, x.state id = some (b, false) → y.state id = some (b, false))
    (visits : p.locked = true → x.visits = [] → y.visits = []) : y.Holds p := by
  have unlisted {id : Nat} {v : Bool × Bool} (absent : id ∉ x.register)
      (found : x.state id = some v) : id ∉ y.register := by
    intro mem
    rcases register id mem with old | new
    · exact absent old
    · cases new.symm.trans found
  cases p with
  | select => trivial
  | stopping => trivial
  | returned => trivial
  | registering id =>
      obtain ⟨absent, outside, r, found⟩ := holds
      exact ⟨unlisted absent found, clients ▸ outside, awake id r found⟩
  | unregistering id =>
      obtain ⟨b, found⟩ := holds
      exact ⟨b, gone id b found⟩
  | dropping id =>
      obtain ⟨absent, outside, found, alone⟩ := holds
      exact ⟨unlisted absent found, clients ▸ outside, gone id false found, visits rfl alone⟩
  | broadcasting payload todo => exact fun id mem => clients ▸ holds mem
  | closing => exact visits rfl holds
  | severing id => exact visits rfl holds

theorem Sound.holds {p : LoopPhase} (sound : x.Sound) (turn : x.phase = p) : x.Holds p :=
  turn ▸ sound.loop

theorem settled_of {p : LoopPhase} (turn : x.phase = p) (other : ∀ id, p ≠ .severing id)
    (id : Nat) : x.phase ≠ .severing id :=
  turn ▸ other id

/-- A client with an open queue may be in the map in any phase. -/
theorem mapped_of_awake {state : Nat → Option (Bool × Bool)} {id : Nat} {p : Prop}
    (awake : ∃ r, state id = some (false, r)) :
    ∃ b r, state id = some (b, r) ∧ (b = true → p) := by
  obtain ⟨r, found⟩ := awake
  exact ⟨false, r, found, fun shut => absurd shut Bool.false_ne_true⟩

/-- Outside the branch of `stopCh` no queue of the map is closed. -/
theorem Sound.awake (sound : x.Sound) (settled : ∀ id, x.phase ≠ .severing id) {id : Nat}
    (mem : id ∈ x.clients) : ∃ r, x.state id = some (false, r) := by
  obtain ⟨b, r, found, when⟩ := sound.mapped id mem
  cases b with
  | false => exact ⟨r, found⟩
  | true => exact absurd (when rfl) (settled id)

theorem Sound.connects (sound : x.Sound) {id : Nat} (new : x.state id = none) :
    Sound { x with
      state := Function.update x.state id (some (false, true))
      register := Hub.enqueue x.register id } := by
  have kept {i : Nat} {v : Bool × Bool} (found : x.state i = some v) :
      Function.update x.state id (some (false, true)) i = some v := by
    have other : i ≠ id := by
      rintro rfl
      cases new.symm.trans found
    exact (Function.update_of_ne other ..).trans found
  refine { sound with
    once := Hub.nodup_enqueue sound.once fun mem => ?_
    awaiting := fun i mem => ?_, leaving := fun i mem => ?_, mapped := fun i mem => ?_
    stopped := fun i mem => ?_, closed := fun i shut => ?_
    loop := sound.loop.frame rfl (fun i mem => ?_) (fun i r found => ⟨r, kept found⟩)
      (fun i b found => kept found) (fun _ alone => alone) }
  · obtain ⟨-, r, found⟩ := sound.awaiting id mem
    cases new.symm.trans found
  · rcases Hub.mem_enqueue.1 mem with old | ⟨-, rfl⟩
    · obtain ⟨outside, r, found⟩ := sound.awaiting i old
      exact ⟨outside, r, kept found⟩
    · refine ⟨fun inside => ?_, true, Function.update_self ..⟩
      obtain ⟨b, r, found, -⟩ := sound.mapped i inside
      cases new.symm.trans found
  · obtain ⟨b, found⟩ := sound.leaving i mem
    exact ⟨b, kept found⟩
  · obtain ⟨b, r, found, when⟩ := sound.mapped i mem
    exact ⟨b, r, kept found, when⟩
  · obtain ⟨r, found⟩ := sound.stopped i mem
    exact ⟨r, kept found⟩
  · by_cases same : i = id
    · simp [same] at shut
    · exact sound.closed i ((Function.update_of_ne same ..).symm.trans shut)
  · rcases Hub.mem_enqueue.1 mem with old | ⟨-, rfl⟩
    · exact .inl old
    · exact .inr new

theorem Sound.hangsUp (sound : x.Sound) {id : Nat} {b : Bool}
    (found : x.state id = some (b, true)) :
    Sound { x with
      state := Function.update x.state id (some (b, false))
      unregister := Hub.enqueue x.unregister id } := by
  have kept {i : Nat} {b' r : Bool} (known : x.state i = some (b', r)) :
      ∃ r', Function.update x.state id (some (b, false)) i = some (b', r') := by
    by_cases same : i = id
    · subst same
      obtain ⟨rfl, rfl⟩ := Prod.mk.inj (Option.some.inj (found.symm.trans known))
      exact ⟨false, Function.update_self ..⟩
    · exact ⟨r, (Function.update_of_ne same ..).trans known⟩
  have gone {i : Nat} {b' : Bool} (known : x.state i = some (b', false)) :
      Function.update x.state id (some (b, false)) i = some (b', false) := by
    have other : i ≠ id := by
      rintro rfl
      cases found.symm.trans known
    exact (Function.update_of_ne other ..).trans known
  refine { sound with
    awaiting := fun i mem => ?_, leaving := fun i mem => ?_, mapped := fun i mem => ?_
    stopped := fun i mem => ?_, closed := fun i shut => ?_
    loop := sound.loop.frame rfl (fun i mem => .inl mem) (fun i r known => kept known)
      (fun i b known => gone known) (fun _ alone => alone) }
  · obtain ⟨outside, r, known⟩ := sound.awaiting i mem
    exact ⟨outside, kept known⟩
  · rcases Hub.mem_enqueue.1 mem with old | ⟨-, rfl⟩
    · obtain ⟨b', known⟩ := sound.leaving i old
      exact ⟨b', gone known⟩
    · exact ⟨b, Function.update_self ..⟩
  · obtain ⟨b', r, known, when⟩ := sound.mapped i mem
    obtain ⟨r', known'⟩ := kept known
    exact ⟨b', r', known', when⟩
  · obtain ⟨r, known⟩ := sound.stopped i mem
    exact kept known
  · by_cases same : i = id
    · simp [same] at shut
    · exact sound.closed i ((Function.update_of_ne same ..).symm.trans shut)

theorem Sound.removes (sound : x.Sound) {id : Nat} (turn : x.phase = .unregistering id)
    (alone : x.visits = []) (member : id ∈ x.clients) :
    Sound { x with clients := x.clients.filter (· ≠ id), phase := .dropping id } := by
  obtain ⟨b, gone⟩ := sound.holds turn
  have settled := settled_of turn fun _ => LoopPhase.noConfusion
  have here : x.state id = some (false, false) := by
    obtain ⟨r, found⟩ := sound.awake settled member
    obtain ⟨rfl, rfl⟩ := Prod.mk.inj (Option.some.inj (found.symm.trans gone))
    exact found
  refine { sound with
    awaiting := fun i mem => ⟨fun inside => ?_, (sound.awaiting i mem).2⟩
    mapped := fun i mem => ?_
    visits := fun v mem => ?_
    loop := ⟨fun listed => (sound.awaiting id listed).1 member, ?_, here, alone⟩ }
  · exact (sound.awaiting i mem).1 (List.mem_of_mem_filter inside)
  · exact mapped_of_awake (sound.awake settled (List.mem_of_mem_filter mem))
  · rw [alone] at mem
    cases mem
  · simp

theorem Sound.drops (sound : x.Sound) {id : Nat} (turn : x.phase = .dropping id) :
    Sound { x with
      state := Function.update x.state id (some (true, false)), phase := .select } := by
  obtain ⟨absent, outside, found, -⟩ := sound.holds turn
  have settled := settled_of turn fun _ => LoopPhase.noConfusion
  have kept {i : Nat} {v : Bool × Bool} (other : i ≠ id) (known : x.state i = some v) :
      Function.update x.state id (some (true, false)) i = some v :=
    (Function.update_of_ne other ..).trans known
  refine { sound with
    awaiting := fun i mem => ?_, leaving := fun i mem => ?_, mapped := fun i mem => ?_
    stopped := fun i mem => ?_, closed := fun i shut => ?_, loop := trivial }
  · obtain ⟨unmapped, r, known⟩ := sound.awaiting i mem
    exact ⟨unmapped, r, kept (ne_of_mem_of_not_mem mem absent) known⟩
  · by_cases same : i = id
    · subst same
      exact ⟨true, Function.update_self ..⟩
    · obtain ⟨b, known⟩ := sound.leaving i mem
      exact ⟨b, kept same known⟩
  · obtain ⟨r, known⟩ := sound.awake settled mem
    exact mapped_of_awake ⟨r, kept (ne_of_mem_of_not_mem mem outside) known⟩
  · obtain ⟨r, known⟩ := sound.stopped i mem
    refine ⟨r, kept ?_ known⟩
    rintro rfl
    cases found.symm.trans known
  · by_cases same : i = id
    · simp [same] at shut
    · exact sound.closed i ((Function.update_of_ne same ..).symm.trans shut)

theorem Sound.closes (sound : x.Sound) {id : Nat} {r : Bool} (turn : x.phase = .closing)
    (member : id ∈ x.clients) (found : x.state id = some (false, r)) :
    Sound { x with
      state := Function.update x.state id (some (true, r))
      phase := .severing id
      stopped := x.stopped.insert id } := by
  have alone : x.visits = [] := sound.holds turn
  have settled := settled_of turn fun _ => LoopPhase.noConfusion
  have kept {i : Nat} {v : Bool × Bool} (other : i ≠ id) (known : x.state i = some v) :
      Function.update x.state id (some (true, r)) i = some v :=
    (Function.update_of_ne other ..).trans known
  refine { sound with
    awaiting := fun i mem => ?_, leaving := fun i mem => ?_, mapped := fun i mem => ?_
    stopped := fun i mem => ?_, closed := fun i shut => ?_, loop := alone }
  · obtain ⟨unmapped, r', known⟩ := sound.awaiting i mem
    exact ⟨unmapped, r', kept (ne_of_mem_of_not_mem member unmapped).symm known⟩
  · obtain ⟨b, known⟩ := sound.leaving i mem
    by_cases same : i = id
    · subst same
      obtain ⟨rfl, rfl⟩ := Prod.mk.inj (Option.some.inj (found.symm.trans known))
      exact ⟨true, Function.update_self ..⟩
    · exact ⟨b, kept same known⟩
  · by_cases same : i = id
    · subst same
      exact ⟨true, r, Function.update_self .., fun _ => rfl⟩
    · obtain ⟨r', known⟩ := sound.awake settled mem
      exact mapped_of_awake ⟨r', kept same known⟩
  · by_cases same : i = id
    · subst same
      exact ⟨r, Function.update_self ..⟩
    · rcases List.mem_insert_iff.1 mem with rfl | old
      · exact absurd rfl same
      · obtain ⟨r', known⟩ := sound.stopped i old
        exact ⟨r', kept same known⟩
  · by_cases same : i = id
    · subst same
      exact List.mem_insert_self
    · exact List.mem_insert_of_mem
        (sound.closed i ((Function.update_of_ne same ..).symm.trans shut))

theorem Sound.step (sound : x.Sound) (steps : x.Steps y) : y.Sound := by
  cases steps with
  | quiet => exact sound
  | connects id new => exact sound.connects new
  | hangsUp id b found => exact sound.hangsUp found
  | visits vs sub =>
      refine { sound with
        visits := fun v mem => ?_
        loop := sound.loop.frame rfl (fun i mem => .inl mem) (fun i r known => ⟨r, known⟩)
          (fun i b known => known) (fun _ alone => ?_) }
      · obtain ⟨w, known, within⟩ := sub v mem
        exact List.Subset.trans within (sound.visits w known)
      · apply List.eq_nil_iff_forall_not_mem.2
        intro v mem
        obtain ⟨w, known, -⟩ := sub v mem
        rw [alone] at known
        cases known
  | publishes order free sub =>
      refine { sound with
        visits := fun v mem => ?_
        loop := sound.loop.frame rfl (fun i mem => .inl mem) (fun i r known => ⟨r, known⟩)
          (fun i b known => known) (fun held _ => ?_) }
      · rcases List.mem_append.1 mem with old | new
        · exact sound.visits v old
        · rw [List.mem_singleton.1 new]
          exact sub
      · cases free.symm.trans held
  | goes p holds settled =>
      refine { sound with
        mapped := fun i mem => ?_
        loop := holds.frame rfl (fun i mem => .inl mem) (fun i r known => ⟨r, known⟩)
          (fun i b known => known) (fun _ alone => alone) }
      exact mapped_of_awake (sound.awake settled mem)
  | takesRegister id rest idle head =>
      have settled := settled_of idle fun _ => LoopPhase.noConfusion
      have nodup : (id :: rest).Nodup := head ▸ sound.once
      have listed {i : Nat} (mem : i ∈ id :: rest) : i ∈ x.register := head ▸ mem
      refine { sound with
        once := (List.nodup_cons.1 nodup).2
        awaiting := fun i mem => sound.awaiting i (listed (List.mem_cons_of_mem _ mem))
        mapped := fun i mem => ?_
        loop := ⟨(List.nodup_cons.1 nodup).1, sound.awaiting id (listed List.mem_cons_self)⟩ }
      exact mapped_of_awake (sound.awake settled mem)
  | takesUnregister id rest idle head =>
      have settled := settled_of idle fun _ => LoopPhase.noConfusion
      have listed {i : Nat} (mem : i ∈ id :: rest) : i ∈ x.unregister := head ▸ mem
      refine { sound with
        leaving := fun i mem => sound.leaving i (listed (List.mem_cons_of_mem _ mem))
        mapped := fun i mem => ?_
        loop := sound.leaving id (listed List.mem_cons_self) }
      exact mapped_of_awake (sound.awake settled mem)
  | registers id turn =>
      obtain ⟨absent, -, awake⟩ := sound.holds turn
      have settled := settled_of turn fun _ => LoopPhase.noConfusion
      refine { sound with
        awaiting := fun i mem => ⟨fun inside => ?_, (sound.awaiting i mem).2⟩
        mapped := fun i mem => ?_
        visits := fun v mem i member => List.mem_insert_of_mem (sound.visits v mem member)
        loop := trivial }
      · rcases List.mem_insert_iff.1 inside with rfl | inside
        · exact absent mem
        · exact (sound.awaiting i mem).1 inside
      · rcases List.mem_insert_iff.1 mem with rfl | inside
        · exact mapped_of_awake awake
        · exact mapped_of_awake (sound.awake settled inside)
  | removes id turn alone member => exact sound.removes turn alone member
  | drops id turn => exact sound.drops turn
  | closes id r turn member found => exact sound.closes turn member found
  | severs id turn =>
      have alone : x.visits = [] := sound.holds turn
      refine { sound with
        awaiting := fun i mem => ⟨fun inside => ?_, (sound.awaiting i mem).2⟩
        mapped := fun i mem => ?_, visits := fun v mem => ?_, loop := alone }
      · exact (sound.awaiting i mem).1 (List.mem_of_mem_filter inside)
      · obtain ⟨inside, other⟩ := List.mem_filter.1 mem
        obtain ⟨b, r, found, when⟩ := sound.mapped i inside
        refine ⟨b, r, found, fun shut => ?_⟩
        obtain rfl : id = i := LoopPhase.severing.inj (turn.symm.trans (when shut))
        simp at other
      · rw [alone] at mem
        cases mem

end Custody

/-! ## The hub keeps it -/

namespace Hub

def state (h : Hub) (id : Nat) : Option (Bool × Bool) :=
  (h.connections id).map fun c => (c.closed, c.reading)

/-- What the custody sees of a hub has not changed. -/
structure Alike (h h' : Hub) : Prop where
  crashed : h'.crashed = h.crashed
  state : h'.state = h.state
  clients : h'.clients = h.clients
  register : h'.register = h.register
  unregister : h'.unregister = h.unregister

theorem Alike.refl (h : Hub) : h.Alike h := ⟨rfl, rfl, rfl, rfl, rfl⟩

variable {h : Hub} {id : Nat} {c : Client}

theorem state_of (found : h.connections id = some c) : h.state id = some (c.closed, c.reading) := by
  rw [state, found]
  rfl

theorem state_setClient (h : Hub) (id : Nat) (c : Client) :
    (h.setClient id c).state = Function.update h.state id (some (c.closed, c.reading)) := by
  funext i
  by_cases same : i = id
  · subst same
    simp [state, setClient]
  · simp [state, setClient, same]

theorem alike_setClient (found : h.connections id = some c) {c' : Client}
    (closed : c'.closed = c.closed) (reading : c'.reading = c.reading) :
    h.Alike (h.setClient id c') := by
  refine ⟨rfl, ?_, rfl, rfl, rfl⟩
  rw [state_setClient, closed, reading, ← state_of found, Function.update_eq_self]

theorem alike_sendToClient {r : Bool} (awake : h.state id = some (false, r)) (m : Message) :
    h.Alike (h.sendToClient id m) := by
  unfold sendToClient
  cases found : h.connections id with
  | none => exact .refl h
  | some c =>
      have live : c.closed = false := by
        rw [state_of found] at awake
        exact congrArg Prod.fst (Option.some.inj awake)
      dsimp only
      rw [live]
      exact alike_setClient found (c.put_closed m) (c.put_reading m)

theorem alike_hear (found : h.connections id = some c) (m : Received) :
    h.Alike (h.setClient id (c.hear m)) := by
  apply alike_setClient found
  · cases m with
    | text => rfl
    | action name channel =>
        simp only [Client.hear, Client.subscribe, Client.unsubscribe]
        split_ifs <;> rfl
  · cases m with
    | text => rfl
    | action name channel =>
        simp only [Client.hear, Client.subscribe, Client.unsubscribe]
        split_ifs <;> rfl

theorem sendToClient_crashes (found : h.connections id = some c) (closed : c.closed = true)
    (m : Message) : (h.sendToClient id m).crashed = true := by
  rw [sendToClient, found]
  simp [closed]

theorem closeSend_of_awake {r : Bool} (awake : h.state id = some (false, r)) :
    (h.closeSend id).crashed = h.crashed ∧
      (h.closeSend id).state = Function.update h.state id (some (true, r)) ∧
      (h.closeSend id).clients = h.clients ∧ (h.closeSend id).register = h.register ∧
      (h.closeSend id).unregister = h.unregister := by
  cases found : h.connections id with
  | none =>
      rw [state, found] at awake
      cases awake
  | some c =>
      rw [state_of found] at awake
      obtain ⟨live, rfl⟩ := Prod.mk.inj (Option.some.inj awake)
      have closes : h.closeSend id = h.setClient id { c with closed := true } := by
        simp [closeSend, close, found, live]
      rw [closes]
      exact ⟨rfl, state_setClient .., rfl, rfl, rfl⟩

end Hub

theorem Fanout.alike_offerTo {f : Fanout} {h : Hub} {id : Nat} {r : Bool}
    (awake : h.state id = some (false, r)) : h.Alike (f.offerTo h id) := by
  unfold offerTo
  cases h.connections id with
  | none => exact .refl h
  | some c =>
      dsimp only
      split_ifs
      · exact Hub.alike_sendToClient awake f.payload
      · exact .refl h

namespace LiveHub

def custody (s : LiveHub) : Custody where
  state := s.hub.state
  clients := s.hub.clients
  register := s.hub.register
  unregister := s.hub.unregister
  phase := s.phase
  visits := s.fanouts.map (·.todo)
  stopped := s.stopped

variable {s s' : LiveHub} {e : LiveStep}

/-- A step without a crash, which the custody follows, or the crash of a reply that comes too
late. -/
inductive Outcome (s : LiveHub) (e : LiveStep) (s' : LiveHub) : Prop
  | keeps (spares : s.SparesStopped e) (alive : s'.hub.crashed = false)
      (steps : s.custody.Steps s'.custody)
  | crashes (late : ¬s.SparesStopped e) (crash : s'.hub.crashed = true)

theorem steps_of_alike (alike : s.hub.Alike s'.hub)
    (steps : s.custody.Steps { s.custody with
      phase := s'.phase, visits := s'.fanouts.map (·.todo), stopped := s'.stopped }) :
    s.custody.Steps s'.custody := by
  have same : s'.custody = { s.custody with
      phase := s'.phase, visits := s'.fanouts.map (·.todo), stopped := s'.stopped } := by
    simp only [custody, alike.state, alike.clients, alike.register, alike.unregister]
  rw [same]
  exact steps

theorem steps_of_closeSend {id : Nat} {r : Bool} (awake : s.hub.state id = some (false, r))
    (hub : s'.hub = s.hub.closeSend id)
    (steps : s.custody.Steps { s.custody with
      state := Function.update s.hub.state id (some (true, r))
      phase := s'.phase, visits := s'.fanouts.map (·.todo), stopped := s'.stopped }) :
    s.custody.Steps s'.custody := by
  obtain ⟨-, state, clients, register, unregister⟩ := Hub.closeSend_of_awake awake
  have same : s'.custody = { s.custody with
      state := Function.update s.hub.state id (some (true, r))
      phase := s'.phase, visits := s'.fanouts.map (·.todo), stopped := s'.stopped } := by
    simp only [custody, hub, state, clients, register, unregister]
  rw [same]
  exact steps

theorem steps_of_setClient {id : Nat} {c : Client}
    (connections : s'.hub.connections = (s.hub.setClient id c).connections)
    (steps : s.custody.Steps { s'.custody with
      state := Function.update s.hub.state id (some (c.closed, c.reading)) }) :
    s.custody.Steps s'.custody := by
  have state : s'.hub.state = Function.update s.hub.state id (some (c.closed, c.reading)) := by
    rw [← Hub.state_setClient]
    unfold Hub.state
    rw [connections]
  rw [← state] at steps
  exact steps

theorem handle_outcome (sound : s.custody.Sound) (running : s.hub.crashed = false) (id : Nat) :
    s.Outcome (.handle id) (s.advance (.handle id)) := by
  simp only [advance, Hub.advance]
  cases waiting : s.inbox id with
  | none =>
      refine .keeps (fun c m _ found => ?_) running .quiet
      cases waiting.symm.trans found
  | some m =>
      dsimp only
      cases found : s.hub.connections id with
      | none =>
          refine .keeps (fun c m found' => ?_) running (steps_of_alike (.refl _) .quiet)
          cases found.symm.trans found'
      | some c =>
          dsimp only
          cases reads : c.reading with
          | false =>
              refine .keeps (fun c' m' found' _ reads' => ?_) running
                (steps_of_alike (.refl _) .quiet)
              obtain rfl := Option.some.inj (found.symm.trans found')
              cases reads.symm.trans reads'
          | true =>
              rw [if_pos rfl, Hub.receive_eq found]
              cases replies : m.reply c.permTree with
              | none =>
                  refine .keeps (fun c' m' found' waiting' _ some => ?_) ?_ ?_
                  · obtain rfl := Option.some.inj (found.symm.trans found')
                    obtain rfl := Option.some.inj (waiting.symm.trans waiting')
                    rw [replies] at some
                    cases some
                  · exact (Hub.alike_hear found m).crashed.trans running
                  · exact steps_of_alike (Hub.alike_hear found m) .quiet
              | some answer =>
                  have custodian := Hub.state_of found
                  rw [reads] at custodian
                  cases shut : c.closed with
                  | false =>
                      rw [shut] at custodian
                      have alike := Hub.alike_sendToClient custodian answer
                      refine .keeps (fun c' m' _ _ _ _ mem => ?_) (alike.crashed.trans running)
                        (steps_of_alike alike .quiet)
                      obtain ⟨r, closed⟩ := sound.stopped id mem
                      cases custodian.symm.trans closed
                  | true =>
                      rw [shut] at custodian
                      refine .crashes (fun spares => ?_)
                        (Hub.sendToClient_crashes found shut answer)
                      refine spares c m found waiting reads ?_ (sound.closed id custodian)
                      rw [replies]
                      rfl

theorem visit_outcome (sound : s.custody.Sound) (running : s.hub.crashed = false) (n : Nat) :
    s.Outcome (.visit n) (s.advance (.visit n)) := by
  simp only [advance]
  cases found : s.fanouts[n]? with
  | none => exact .keeps trivial running .quiet
  | some f =>
      have listed : f ∈ s.fanouts := List.mem_of_getElem? found
      dsimp only
      cases todo : f.todo with
      | nil =>
          refine .keeps trivial running (.visits _ fun v mem => ?_)
          obtain ⟨g, kept, rfl⟩ := List.mem_map.1 mem
          exact ⟨g.todo, List.mem_map_of_mem (List.mem_of_mem_eraseIdx kept), List.Subset.refl _⟩
      | cons id rest =>
          have member : id ∈ s.hub.clients := by
            apply sound.visits f.todo (List.mem_map_of_mem listed)
            rw [todo]
            exact List.mem_cons_self
          -- The branch of `stopCh` holds the lock while a queue of the map is closed.
          have settled (i : Nat) : s.custody.phase ≠ .severing i := by
            intro turn
            have alone := sound.loop
            rw [turn] at alone
            have none : s.fanouts = [] := List.map_eq_nil_iff.1 alone
            rw [none] at listed
            cases listed
          obtain ⟨r, awake⟩ := sound.awake settled member
          have alike : s.hub.Alike (f.offerTo s.hub id) := Fanout.alike_offerTo awake
          refine .keeps trivial (alike.crashed.trans running)
            (steps_of_alike alike (.visits _ fun v mem => ?_))
          obtain ⟨g, kept, rfl⟩ := List.mem_map.1 mem
          rcases List.mem_or_eq_of_mem_set kept with old | rfl
          · exact ⟨g.todo, List.mem_map_of_mem old, List.Subset.refl _⟩
          · refine ⟨f.todo, List.mem_map_of_mem listed, ?_⟩
            rw [todo]
            exact List.subset_cons_self ..

theorem proceed_outcome (sound : s.custody.Sound) (running : s.hub.crashed = false) (id : Nat) :
    s.Outcome (.proceed id) (s.advance (.proceed id)) := by
  have phase : s.custody.phase = s.phase := rfl
  have loop := sound.loop
  simp only [advance, proceed]
  cases turn : s.phase with
  | select => exact .keeps trivial running .quiet
  | returned => exact .keeps trivial running .quiet
  | registering i =>
      dsimp only
      split_ifs
      · exact .keeps trivial running (.registers i turn)
      · exact .keeps trivial running .quiet
  | unregistering i =>
      rw [turn] at phase
      dsimp only
      split_ifs with alone mapped
      · have none : s.custody.visits = [] := List.map_eq_nil_iff.2 (List.isEmpty_iff.1 alone)
        exact .keeps trivial running (.removes i phase none mapped)
      · refine .keeps trivial running (.goes .select trivial fun j => ?_)
        rw [phase]
        exact LoopPhase.noConfusion
      · exact .keeps trivial running .quiet
  | dropping i =>
      rw [phase, turn] at loop
      obtain ⟨-, -, found, -⟩ := loop
      refine .keeps trivial ((Hub.closeSend_of_awake found).1.trans running) ?_
      exact steps_of_closeSend found rfl (.drops i turn)
  | broadcasting payload todo =>
      rw [turn] at phase
      have settled (j : Nat) : s.custody.phase ≠ .severing j := by
        rw [phase]
        exact LoopPhase.noConfusion
      cases todo with
      | nil => exact .keeps trivial running (.goes .select trivial settled)
      | cons i rest =>
          rw [phase] at loop
          have sub : i :: rest ⊆ s.hub.clients := loop
          obtain ⟨r, awake⟩ := sound.awake settled (sub List.mem_cons_self)
          have alike := Hub.alike_sendToClient awake payload
          refine .keeps trivial (alike.crashed.trans running) (steps_of_alike alike ?_)
          exact .goes (.broadcasting payload rest) (List.subset_of_cons_subset sub) settled
  | stopping =>
      rw [turn] at phase
      dsimp only
      split_ifs with alone
      · refine .keeps trivial running (.goes .closing ?_ fun j => ?_)
        · exact List.map_eq_nil_iff.2 (List.isEmpty_iff.1 alone)
        · rw [phase]
          exact LoopPhase.noConfusion
      · exact .keeps trivial running .quiet
  | closing =>
      rw [turn] at phase
      have settled (j : Nat) : s.custody.phase ≠ .severing j := by
        rw [phase]
        exact LoopPhase.noConfusion
      dsimp only
      split_ifs with empty member
      · exact .keeps trivial running (.goes .returned trivial settled)
      · obtain ⟨r, awake⟩ := sound.awake settled member
        refine .keeps trivial ((Hub.closeSend_of_awake awake).1.trans running) ?_
        exact steps_of_closeSend awake rfl (.closes id r phase member awake)
      · exact .keeps trivial running .quiet
  | severing i => exact .keeps trivial running (.severs i turn)

theorem advance_outcome (sound : s.custody.Sound) (running : s.hub.crashed = false)
    (e : LiveStep) : s.Outcome e (s.advance e) := by
  cases e with
  | connect id userId pt =>
      simp only [advance, Hub.advance]
      cases new : s.hub.connections id with
      | some c => exact .keeps trivial running (steps_of_alike (.refl _) .quiet)
      | none =>
          have unknown : s.custody.state id = none := by
            simp [custody, Hub.state, new]
          exact .keeps trivial running (steps_of_setClient rfl (.connects id unknown))
  | read id message =>
      simp only [advance]
      split
      · split_ifs
        · exact .keeps trivial running .quiet
        · exact .keeps trivial running .quiet
      · exact .keeps trivial running .quiet
  | handle id => exact handle_outcome sound running id
  | hangUp id =>
      simp only [advance, Hub.advance]
      cases found : s.hub.connections id with
      | none => exact .keeps trivial running .quiet
      | some c =>
          dsimp only
          cases reads : c.reading with
          | false => exact .keeps trivial running .quiet
          | true =>
              simp only [Bool.true_and, if_true]
              split_ifs
              · have known := Hub.state_of found
                rw [reads] at known
                exact .keeps trivial running (steps_of_setClient rfl (.hangsUp id c.closed known))
              · exact .keeps trivial running .quiet
  | write id =>
      simp only [advance, Hub.advance]
      cases found : s.hub.connections id with
      | none => exact .keeps trivial running .quiet
      | some c =>
          exact .keeps trivial running (steps_of_alike (Hub.alike_setClient found rfl rfl) .quiet)
  | disconnect id => exact .keeps trivial running .quiet
  | broadcast payload =>
      simp only [advance]
      split_ifs <;> exact .keeps trivial running .quiet
  | publish channel payload progressRaw order =>
      simp only [advance]
      split_ifs with free
      · rw [Bool.and_eq_true, Bool.not_eq_true', List.isPerm_iff] at free
        refine .keeps trivial running ?_
        have := Custody.Steps.publishes (x := s.custody) order free.1 free.2.subset
        simpa [custody] using this
      · exact .keeps trivial running .quiet
  | visit n => exact visit_outcome sound running n
  | stop => exact .keeps trivial running (steps_of_alike ⟨rfl, rfl, rfl, rfl, rfl⟩ .quiet)
  | takeStop =>
      simp only [advance]
      split
      case h_1 turn _ =>
        refine .keeps trivial running (.goes .stopping trivial fun j => ?_)
        rw [show s.custody.phase = _ from turn]
        exact LoopPhase.noConfusion
      case h_2 => exact .keeps trivial running .quiet
  | takeRegister =>
      simp only [advance]
      split
      case h_1 id rest turn head =>
        exact .keeps trivial running (.takesRegister id rest turn head)
      case h_2 => exact .keeps trivial running .quiet
  | takeUnregister =>
      simp only [advance]
      split
      case h_1 id rest turn head =>
        exact .keeps trivial running (.takesUnregister id rest turn head)
      case h_2 => exact .keeps trivial running .quiet
  | takeBroadcast order =>
      simp only [advance]
      split
      case h_1 payload rest turn head =>
        split_ifs with same
        · refine .keeps trivial running
            (.goes (.broadcasting payload order) (List.isPerm_iff.1 same).subset fun j => ?_)
          rw [show s.custody.phase = _ from turn]
          exact LoopPhase.noConfusion
        · exact .keeps trivial running .quiet
      case h_2 => exact .keeps trivial running .quiet
  | proceed id => exact proceed_outcome sound running id

theorem next_outcome (sound : s.custody.Sound) (running : s.hub.crashed = false) (e : LiveStep) :
    s.Outcome e (s.next e) := by
  have goes : s.next e = s.advance e := if_neg (Bool.eq_false_iff.1 running)
  rw [goes]
  exact advance_outcome sound running e

/-! ## Runs -/

/-- In a run no step sends on a closed queue, or closes one for the second time, exactly when no
reader replies to a client whose queue the branch of `stopCh` has closed. -/
theorem intact_iff (es : List LiveStep) :
    (∀ n, (Transition.exec next start (es.take n)).Intact) ↔
      Transition.Along SparesStopped next start es := by
  apply Transition.always_iff_along_of (I := fun s => s.custody.Sound)
  · intro s e sound running alive
    rcases next_outcome sound running e with ⟨-, -, steps⟩ | ⟨-, crash⟩
    · exact sound.step steps
    · cases alive.symm.trans crash
  · intro s e sound running
    rcases next_outcome sound running e with ⟨spares, alive, -⟩ | ⟨late, crash⟩
    · exact iff_of_true alive spares
    · refine iff_of_false (fun intact => ?_) late
      cases intact.symm.trans crash
  · exact ⟨List.nodup_nil, nofun, nofun, nofun, nofun, nofun, nofun, trivial⟩
  · rfl

/-- The hub stops while a reader has a ping in hand. -/
def pingAtStop : List LiveStep :=
  [.connect 1 7 none, .takeRegister, .proceed 0, .read 1 (.text "ping"), .stop, .takeStop,
    .proceed 0, .proceed 1, .handle 1]

theorem stop_crashes : ¬∀ n, (Transition.exec next start (pingAtStop.take n)).Intact := by
  intro always
  have crash : (Transition.exec next start (pingAtStop.take 9)).hub.crashed = true := by
    decide +kernel
  cases (always 9).symm.trans crash

/-- The clients of a list have taken a broadcast. -/
def offered (f : Fanout) (h : Hub) (order : List Nat) : Hub :=
  { h with
    connections := fun id =>
      if id ∈ order then (h.connections id).map (·.offer f.channel f.payload f.progressRaw)
      else h.connections id }

theorem offerTo_eq (f : Fanout) {h : Hub} {id : Nat}
    (awake : ∀ c, h.connections id = some c → c.closed = false) :
    f.offerTo h id = offered f h [id] := by
  cases found : h.connections id with
  | none =>
      have same : (offered f h [id]).connections = h.connections := by
        funext i
        by_cases own : i = id
        · subst own
          simp [offered, found]
        · simp [offered, own]
      rw [Fanout.offerTo, found]
      exact congrArg (fun connections => { h with connections }) same.symm
  | some c =>
      have same : (offered f h [id]).connections =
          Function.update h.connections id (some (c.offer f.channel f.payload f.progressRaw)) := by
        funext i
        by_cases own : i = id
        · subst own
          simp [offered, found]
        · simp [offered, own]
      have goal : f.offerTo h id = h.setClient id (c.offer f.channel f.payload f.progressRaw) := by
        rw [Fanout.offerTo, found, Client.offer_eq]
        dsimp only
        split_ifs
        · rw [Hub.sendToClient, found]
          simp [awake c found]
        · exact (Hub.setClient_self found).symm
      rw [goal]
      exact congrArg (fun connections => { h with connections }) same.symm

theorem offer_all (f : Fanout) (h : Hub) {order : List Nat} (nodup : order.Nodup)
    (awake : ∀ id ∈ order, ∀ c, h.connections id = some c → c.closed = false) :
    order.foldl f.offerTo h = offered f h order := by
  induction order generalizing h with
  | nil => simp [offered]
  | cons id order ih =>
      obtain ⟨absent, nodup⟩ := List.nodup_cons.1 nodup
      rw [List.foldl_cons, offerTo_eq f (awake id List.mem_cons_self), ih _ nodup]
      · have same : (offered f (offered f h [id]) order).connections =
            (offered f h (id :: order)).connections := by
          funext i
          by_cases own : i = id
          · subst own
            simp [offered, absent]
          · simp [offered, own]
        exact congrArg (fun connections => { h with connections }) same
      · intro i mem c found
        have other : i ≠ id := ne_of_mem_of_not_mem mem absent
        exact awake i (List.mem_cons_of_mem _ mem) c (by simpa [offered, other] using found)

/-- A broadcast that goes through the map at once is the one of the hub without the locks. -/
theorem publish_alone (s : LiveHub) {order : List Nat} (free : s.phase.locked = false)
    (none : s.fanouts = []) (perm : order.Perm s.hub.clients) (nodup : s.hub.clients.Nodup)
    (awake : ∀ id ∈ s.hub.clients, ∀ c, s.hub.connections id = some c → c.closed = false)
    (channel : String) (payload : Message) (progressRaw : Option Payload) :
    Transition.exec advance s (.publish channel payload progressRaw order ::
        List.replicate (order.length + 1) (.visit 0)) =
      { s with hub := s.hub.broadcastToChannel channel payload progressRaw } := by
  have visits (f : Fanout) (h : Hub) (todo : List Nat) :
      Transition.exec advance { s with hub := h, fanouts := [{ f with todo }] }
          (List.replicate (todo.length + 1) (.visit 0)) =
        { s with hub := todo.foldl f.offerTo h, fanouts := [] } := by
    induction todo generalizing h with
    | nil => rfl
    | cons id todo ih => exact ih (f.offerTo h id)
  have published : s.advance (.publish channel payload progressRaw order) =
      { s with fanouts := [⟨channel, payload, progressRaw, order⟩] } := by
    simp [advance, free, none, List.isPerm_iff.2 perm]
  rw [Transition.exec_cons, published]
  apply (visits ⟨channel, payload, progressRaw, order⟩ s.hub order).trans
  have offers := offer_all ⟨channel, payload, progressRaw, order⟩ s.hub (perm.nodup_iff.2 nodup)
    fun id mem => awake id (perm.mem_iff.1 mem)
  rw [offers, ← none]
  simp only [offered, Hub.broadcastToChannel, perm.mem_iff]

/-- The same of a removal. -/
theorem remove_alone (s : LiveHub) (idle : s.phase = .select) (none : s.fanouts = [])
    (up : s.hub.down = false)
    (awake : ∀ id ∈ s.hub.clients, ∀ c, s.hub.connections id = some c → c.closed = false)
    (next : Nat) :
    Transition.exec advance s [.takeUnregister, .proceed next, .proceed next] =
      { s with hub := s.hub.advance .takeUnregister } := by
  cases queue : s.hub.unregister with
  | nil =>
      simp only [Transition.exec_cons, Transition.exec_nil, advance, proceed, Hub.advance, idle,
        queue, up]
      rw [← idle]
  | cons id rest =>
      by_cases mapped : id ∈ s.hub.clients
      · cases found : s.hub.connections id with
        | none =>
            simp [advance, proceed, Hub.advance, Hub.closeSend, Hub.close, idle, none, up, queue,
              mapped, found]
        | some c =>
            simp [advance, proceed, Hub.advance, Hub.closeSend, Hub.close, Hub.setClient, idle,
              none, up, queue, mapped, found, awake id mapped c found]
      · simp [advance, proceed, Hub.advance, idle, none, up, queue, mapped]

end LiveHub

end K8sPlatform.Websocket
