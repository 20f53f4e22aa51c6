import K8sPlatform.Lib.OrderedMap
import K8sPlatform.Websocket.Closing

/-! # The browser's subscriptions and the server's -/

namespace K8sPlatform.Websocket

open Auth

inductive WSClientAction
  | subscribe (channel : String)
  | unsubscribe (channel : String)
  | ping
  deriving DecidableEq, Repr

/-- What the server reads of an action. -/
def WSClientAction.received : WSClientAction → Received
  | .subscribe channel => .action "subscribe" channel
  | .unsubscribe channel => .action "unsubscribe" channel
  | .ping => .action "ping" ""

inductive ReadyState
  | connecting | opened | closing | closed
  deriving DecidableEq, Repr

/-- `WebSocketClient` that has not been closed by the page. `conn` numbers the connection while it
is open; with `retrying` the reconnecting socket opens another one behind a close. -/
structure WebSocketClient where
  token : String
  readyState : ReadyState
  retrying : Bool
  conn : Nat
  pendingSubscriptions : List String
  deriving DecidableEq, Repr

/-- The module `websocket.ts`: the counts of the channels and the one client. -/
structure Browser where
  channelRefs : OrderedMap String Nat
  client : Option WebSocketClient

/-- A page and the server, with the actions on their way by connection: `none` when it is not one
of the page. -/
structure Page where
  browser : Browser
  wires : Nat → Option (List WSClientAction)
  hub : Hub

def Browser.refs (b : Browser) (channel : String) : Nat := (b.channelRefs.get? channel).getD 0

/-- The components call `subscribeChannel` and `unsubscribeChannel`; `logout` is the effect of
`useWebSocketLifecycle` without a token. `connecting`, `opens`, `closing` and `closed` are events of
the socket, with `deliver` the reader of a connection handles the next action, and `server` is
whatever else the server does, with other browsers, too. -/
inductive PageStep
  | connectWebSocket (token : String)
  | disconnectWebSocket
  | logout
  | connecting
  | opens (conn userId : Nat) (pt : Option PermissionTree)
  | closing
  | closed (code : Nat)
  | subscribeChannel (channel : String)
  | unsubscribeChannel (channel : String)
  | heartbeat
  | deliver (conn : Nat)
  | server (e : HubStep)

namespace Page

def start : Page := ⟨⟨.empty, none⟩, fun _ => none, newHub⟩

variable (s : Page)

def setClient (c : Option WebSocketClient) : Page :=
  { s with browser := { s.browser with client := c } }

def setRefs (refs : OrderedMap String Nat) : Page :=
  { s with browser := { s.browser with channelRefs := refs } }

def setWire (conn : Nat) (actions : List WSClientAction) : Page :=
  { s with wires := Function.update s.wires conn (some actions) }

/-- `sendRaw` of an open socket sends, and otherwise keeps the channel in mind. -/
def sendRaw (c : WebSocketClient) (action : WSClientAction) : Page :=
  if c.readyState = .opened then s.setWire c.conn ((s.wires c.conn).getD [] ++ [action])
  else
    match action with
    | .subscribe channel =>
        s.setClient (some { c with
          pendingSubscriptions :=
            if channel ∈ c.pendingSubscriptions then c.pendingSubscriptions
            else c.pendingSubscriptions ++ [channel] })
    | .unsubscribe channel =>
        s.setClient (some { c with
          pendingSubscriptions := c.pendingSubscriptions.filter (· ≠ channel) })
    | .ping => s

/-- `unsubscribe` deletes the channel of an open client, too. -/
def forget (channel : String) : Page :=
  s.setClient (s.browser.client.map fun c =>
    { c with pendingSubscriptions := c.pendingSubscriptions.filter (· ≠ channel) })

def newClient (token : String) : WebSocketClient := ⟨token, .connecting, true, 0, []⟩

/-- `onopen` sends for the channels that are counted, and for those that were kept in mind. -/
def onOpen (c : WebSocketClient) : List WSClientAction :=
  (s.browser.channelRefs.entries.filter fun e => 0 < e.2).map (fun e => .subscribe e.1) ++
    c.pendingSubscriptions.map .subscribe

def next (s : Page) : PageStep → Page
  | .connectWebSocket token =>
      match s.browser.client with
      | some c => if c.token = token then s else s.setClient (some (newClient token))
      | none => s.setClient (some (newClient token))
  | .disconnectWebSocket => s.setClient none
  | .logout => (s.setClient none).setRefs .empty
  | .connecting =>
      match s.browser.client with
      | some c =>
          if c.readyState = .closed ∧ c.retrying then
            s.setClient (some { c with readyState := .connecting })
          else s
      | none => s
  | .opens conn userId pt =>
      match s.browser.client, s.hub.connections conn with
      | some c, none =>
          if c.readyState = .connecting ∧ s.hub.crashed = false then
            let opened :=
              { c with readyState := .opened, conn := conn, pendingSubscriptions := [] }
            { (s.setClient (some opened)).setWire conn (s.onOpen c) with
              hub := s.hub.next (.connect conn userId pt) }
          else s
      | _, _ => s
  | .closing =>
      match s.browser.client with
      | some c =>
          if c.readyState = .opened then s.setClient (some { c with readyState := .closing }) else s
      | none => s
  | .closed code =>
      match s.browser.client with
      | some c =>
          s.setClient (some { c with
            readyState := .closed
            retrying := c.retrying && code != 1008 && code != 4001 })
      | none => s
  | .subscribeChannel channel =>
      if channel = "" then s
      else
        let count := s.browser.refs channel + 1
        let counted := s.setRefs (s.browser.channelRefs.set channel count)
        match s.browser.client with
        | some c => if count = 1 then counted.sendRaw c (.subscribe channel) else counted
        | none => counted
  | .unsubscribeChannel channel =>
      if channel = "" then s
      else
        let cur := s.browser.refs channel
        if cur ≤ 1 then
          let uncounted := s.setRefs (s.browser.channelRefs.delete channel)
          match s.browser.client with
          | some c => (uncounted.sendRaw c (.unsubscribe channel)).forget channel
          | none => uncounted
        else s.setRefs (s.browser.channelRefs.set channel (cur - 1))
  | .heartbeat =>
      match s.browser.client with
      | some c => if c.readyState = .opened then s.sendRaw c .ping else s
      | none => s
  | .deliver conn =>
      match s.wires conn, s.hub.connections conn with
      | some (action :: rest), some cl =>
          if cl.reading = true ∧ s.hub.crashed = false then
            { s.setWire conn rest with hub := s.hub.next (.receive conn action.received) }
          else s
      | _, _ => s
  | .server (.receive conn message) =>
      match s.wires conn with
      | some _ => s
      | none => { s with hub := s.hub.next (.receive conn message) }
  | .server e => { s with hub := s.hub.next e }

/-- The server grants what it is asked for. -/
def Grants (s : Page) : PageStep → Prop
  | .deliver conn =>
      ∀ channel rest cl, s.wires conn = some (.subscribe channel :: rest) →
        s.hub.connections conn = some cl → authorizeChannel cl.permTree channel = true
  | _ => True

/-- The channels of an open connection whose actions are all handled are those that are counted. -/
def Agree (s : Page) : Prop :=
  ∀ c, s.browser.client = some c → c.readyState = .opened → s.wires c.conn = some [] →
    ∃ cl, s.hub.connections c.conn = some cl ∧
      ∀ channel, channel ∈ cl.channels ↔ 0 < s.browser.refs channel

end Page

/-- Runs of a page, which loads without a client. -/
def pageRuns : Transition.System Page PageStep := .ofFn (· = Page.start) Page.next

/-! ## The channels at the server -/

/-- What an action does to the channels of its connection. -/
def WSClientAction.apply (channels : List String) : WSClientAction → List String
  | .subscribe channel => channels.insert channel
  | .unsubscribe channel => channels.filter (· ≠ channel)
  | .ping => channels

def Hub.channelsOf (h : Hub) (conn : Nat) : Option (List String) :=
  (h.connections conn).map Client.channels

namespace Hub

variable {h : Hub} {id : Nat} {c : Client}

theorem channelsOf_eq (found : h.connections id = some c) : h.channelsOf id = some c.channels := by
  rw [channelsOf, found, Option.map_some]

theorem channelsOf_setClient (h : Hub) (id : Nat) (c : Client) :
    (h.setClient id c).channelsOf = Function.update h.channelsOf id (some c.channels) := by
  funext other
  by_cases same : other = id
  · subst same
    simp [channelsOf, setClient]
  · simp [channelsOf, setClient, same]

theorem channelsOf_keep (found : h.connections id = some c) {c' : Client}
    (same : c'.channels = c.channels) : (h.setClient id c').channelsOf = h.channelsOf := by
  rw [channelsOf_setClient, same, ← channelsOf_eq found, Function.update_eq_self]

theorem offer_channels (c : Client) (channel : String) (m : Message)
    (progressRaw : Option Payload) : (c.offer channel m progressRaw).channels = c.channels := by
  rw [Client.offer_eq]
  split_ifs
  · exact c.put_channels m
  · rfl

theorem channelsOf_sendToClient (h : Hub) (id : Nat) (m : Message) :
    (h.sendToClient id m).channelsOf = h.channelsOf := by
  unfold sendToClient
  cases found : h.connections id with
  | none => rfl
  | some c =>
      dsimp only
      split_ifs
      · rfl
      · exact channelsOf_keep found (c.put_channels m)

theorem channelsOf_broadcastToChannel (h : Hub) (channel : String) (m : Message)
    (progressRaw : Option Payload) :
    (h.broadcastToChannel channel m progressRaw).channelsOf = h.channelsOf := by
  funext id
  simp only [channelsOf, broadcastToChannel]
  split_ifs
  · rw [Option.map_map]
    exact congrArg (Option.map · (h.connections id)) (funext fun c => offer_channels c ..)
  · rfl

theorem channelsOf_relay (h : Hub) (redisCh : String) (payload : Payload) :
    (h.relay redisCh payload).channelsOf = h.channelsOf := by
  unfold relay
  split
  · rfl
  · unfold publishMessage
    split
    · rfl
    · split_ifs
      · exact channelsOf_broadcastToChannel ..
      · exact channelsOf_broadcastToChannel ..

theorem channelsOf_close (h : Hub) (id : Nat) : (h.close id).channelsOf = h.channelsOf := by
  unfold close
  cases found : h.connections id with
  | none => rfl
  | some c => exact channelsOf_keep found rfl

/-- Only what a client sends changes its channels. -/
theorem channelsOf_next {e : HubStep} {channels : List String}
    (silent : ∀ m, e ≠ .receive id m) (found : h.channelsOf id = some channels) :
    (h.next e).channelsOf id = some channels := by
  unfold next
  split_ifs
  · exact found
  cases e with
  | connect id' userId pt =>
      unfold advance
      dsimp only
      cases fresh : h.connections id' with
      | some c => exact found
      | none =>
          have other : id ≠ id' := by
            rintro rfl
            simp [channelsOf, fresh] at found
          change (h.setClient id' (newClient userId pt)).channelsOf id = some channels
          rw [channelsOf_setClient, Function.update_of_ne other, found]
  | receive id' m =>
      have other : id ≠ id' := fun same => silent m (same ▸ rfl)
      unfold advance
      dsimp only
      cases known : h.connections id' with
      | none => exact found
      | some c =>
          dsimp only
          split_ifs
          · rw [receive_eq known]
            split
            · rw [channelsOf_sendToClient, found]
            · rw [channelsOf_setClient, Function.update_of_ne other, found]
          · exact found
  | hangUp id' =>
      unfold advance
      dsimp only
      cases known : h.connections id' with
      | none => exact found
      | some c =>
          dsimp only
          split_ifs
          · have keep : (h.setClient id' { c with reading := false }).channelsOf = h.channelsOf :=
              channelsOf_keep known rfl
            exact (congrFun keep id).trans found
          · exact found
  | write id' =>
      unfold advance
      dsimp only
      cases known : h.connections id' with
      | none => exact found
      | some c =>
          have keep : (h.setClient id' { c with send := c.send.tail }).channelsOf = h.channelsOf :=
            channelsOf_keep known rfl
          exact (congrFun keep id).trans found
  | takeRegister =>
      unfold advance
      dsimp only
      split <;> exact found
  | takeUnregister =>
      unfold advance
      dsimp only
      split
      · split_ifs
        · exact (congrFun (channelsOf_close h _) id).trans found
        · exact found
      · exact found
  | stop => exact found
  | shutDown =>
      unfold advance
      dsimp only
      split_ifs
      · rw [← found, channelsOf]
        dsimp only
        split_ifs
        · rw [Option.map_map]
          rfl
        · rfl
      · exact found
  | push r a n =>
      unfold advance
      dsimp only
      split
      · exact (congrFun (channelsOf_broadcastToChannel ..) id).trans found
      · exact found
  | relay redisCh payload => exact (congrFun (channelsOf_relay ..) id).trans found

theorem absent_of_next {e : HubStep} (silent : ∀ m, e ≠ .receive id m)
    (absent : (h.next e).connections id = none) : h.connections id = none := by
  cases found : h.connections id with
  | none => rfl
  | some c =>
      have kept := channelsOf_next silent (channelsOf_eq found)
      rw [channelsOf, absent] at kept
      exact absurd kept (Option.some_ne_none _).symm

/-- What the reader of a connection makes of an action that it grants. -/
theorem channelsOf_receive {action : WSClientAction} (found : h.connections id = some c)
    (reads : c.reading = true) (running : h.crashed = false)
    (grants : ∀ channel, action = .subscribe channel →
      authorizeChannel c.permTree channel = true) :
    (h.next (.receive id action.received)).channelsOf id = some (action.apply c.channels) := by
  have advance : h.next (.receive id action.received) = h.receive id c action.received := by
    simp [next, Hub.advance, running, found, reads]
  rw [advance, receive_eq found]
  cases action with
  | subscribe channel =>
      have lower : Text.toLower "subscribe" = "subscribe" := by decide
      have granted := grants channel rfl
      have named : channel ≠ "" := by
        rintro rfl
        cases tree : c.permTree <;> simp [authorizeChannel, tree] at granted
      have reply : (WSClientAction.subscribe channel).received.reply c.permTree = none := by
        simp [WSClientAction.received, Received.reply, lower, granted]
      rw [reply]
      simp [channelsOf_setClient, WSClientAction.received, Client.hear, lower, Client.subscribe,
        named, WSClientAction.apply]
  | unsubscribe channel =>
      have lower : Text.toLower "unsubscribe" = "unsubscribe" := by decide
      have reply : (WSClientAction.unsubscribe channel).received.reply c.permTree = none := by
        simp [WSClientAction.received, Received.reply, lower]
      rw [reply]
      simp [channelsOf_setClient, WSClientAction.received, Client.hear, lower, Client.unsubscribe,
        WSClientAction.apply]
  | ping =>
      have lower : Text.toLower "ping" = "ping" := by decide
      have reply : WSClientAction.ping.received.reply c.permTree = some (pong "") := by
        simp [WSClientAction.received, Received.reply, lower]
      rw [reply]
      exact (congrFun (channelsOf_sendToClient ..) id).trans (channelsOf_eq found)

end Hub

/-! ## What is on its way -/

namespace Page

/-- When all that is on its way is handled, the connection has the channels. -/
def Leads (s : Page) (conn : Nat) (wanted : String → Prop) : Prop :=
  ∃ actions channels, s.wires conn = some actions ∧ s.hub.channelsOf conn = some channels ∧
    ∀ channel, channel ∈ actions.foldl WSClientAction.apply channels ↔ wanted channel

/-- A client that is not open keeps only channels in mind that are counted, a number without a
client is not in use, and an open connection is led to the channels that are counted. -/
structure Linked (s : Page) : Prop where
  pending : ∀ c, s.browser.client = some c → ∀ channel ∈ c.pendingSubscriptions,
    c.readyState ≠ .opened ∧ 0 < s.browser.refs channel
  unused : ∀ conn, s.hub.connections conn = none → s.wires conn = none
  leads : ∀ c, s.browser.client = some c → c.readyState = .opened →
    s.Leads c.conn fun channel => 0 < s.browser.refs channel

variable {s : Page}

theorem Leads.mono {conn : Nat} {wanted wanted' : String → Prop} (leads : s.Leads conn wanted)
    (same : ∀ channel, wanted channel ↔ wanted' channel) : s.Leads conn wanted' := by
  obtain ⟨actions, channels, wire, known, after⟩ := leads
  exact ⟨actions, channels, wire, known, fun channel => (after channel).trans (same channel)⟩

/-- An action that is sent comes last. -/
theorem Leads.setWire {conn : Nat} {wanted wanted' : String → Prop} (leads : s.Leads conn wanted)
    (action : WSClientAction)
    (turns : ∀ channels, (∀ channel, channel ∈ channels ↔ wanted channel) →
      ∀ channel, channel ∈ action.apply channels ↔ wanted' channel) :
    (s.setWire conn ((s.wires conn).getD [] ++ [action])).Leads conn wanted' := by
  obtain ⟨actions, channels, wire, known, after⟩ := leads
  refine ⟨actions ++ [action], channels, ?_, known, ?_⟩
  · simp [Page.setWire, wire]
  · rw [List.foldl_append]
    exact turns _ after

theorem refs_set (b : Browser) (channel other : String) (count : Nat) (client) :
    Browser.refs ⟨b.channelRefs.set channel count, client⟩ other =
      if other = channel then count else b.refs other := by
  unfold Browser.refs
  rw [OrderedMap.get?_set]
  split_ifs <;> rfl

theorem refs_delete (b : Browser) (channel other : String) (client) :
    Browser.refs ⟨b.channelRefs.delete channel, client⟩ other =
      if other = channel then 0 else b.refs other := by
  unfold Browser.refs
  rw [OrderedMap.get?_delete]
  split_ifs <;> rfl

theorem mem_entries_iff (b : Browser) (channel : String) :
    (∃ count, (channel, count) ∈ b.channelRefs.entries ∧ 0 < count) ↔ 0 < b.refs channel := by
  simp only [Browser.refs, ← OrderedMap.get?_eq_some]
  constructor
  · rintro ⟨count, found, counted⟩
    rwa [found]
  · intro counted
    cases found : b.channelRefs.get? channel with
    | none => simp [found] at counted
    | some count => exact ⟨count, rfl, by simpa [found] using counted⟩

theorem mem_foldl_subscribe (names channels : List String) (channel : String) :
    channel ∈ (names.map WSClientAction.subscribe).foldl WSClientAction.apply channels ↔
      channel ∈ names ∨ channel ∈ channels := by
  induction names generalizing channels with
  | nil => simp
  | cons name names ih =>
      rw [List.map_cons, List.foldl_cons, ih]
      simp only [WSClientAction.apply, List.mem_insert_iff, List.mem_cons]
      tauto

/-- A new connection is led to the channels that are counted. -/
theorem mem_onOpen {c : WebSocketClient} {channel : String}
    (pending : ∀ channel ∈ c.pendingSubscriptions, 0 < s.browser.refs channel) :
    channel ∈ (s.onOpen c).foldl WSClientAction.apply [] ↔ 0 < s.browser.refs channel := by
  have names : s.onOpen c =
      (((s.browser.channelRefs.entries.filter fun e => 0 < e.2).map Prod.fst ++
        c.pendingSubscriptions).map .subscribe) := by
    rw [List.map_append, List.map_map]
    rfl
  have counted : channel ∈ (s.browser.channelRefs.entries.filter fun e => 0 < e.2).map Prod.fst ↔
      0 < s.browser.refs channel := by
    rw [← mem_entries_iff]
    simp
  rw [names, mem_foldl_subscribe, List.mem_append, counted]
  constructor
  · rintro ((now | kept) | none)
    · exact now
    · exact pending channel kept
    · exact absurd none List.not_mem_nil
  · intro now
    exact .inl (.inl now)

theorem Linked.setClient (linked : s.Linked) {c : Option WebSocketClient}
    (down : ∀ c', c = some c' → c'.readyState ≠ .opened)
    (pending : ∀ c', c = some c' → ∀ channel ∈ c'.pendingSubscriptions,
      0 < s.browser.refs channel) : (s.setClient c).Linked where
  pending c' now channel mem := ⟨down c' now, pending c' now channel mem⟩
  unused := linked.unused
  leads c' now opened := absurd opened (down c' now)

theorem Linked.newClient (linked : s.Linked) (token : String) :
    (s.setClient (some (newClient token))).Linked := by
  apply linked.setClient
  · rintro c' ⟨⟩
    exact ReadyState.noConfusion
  · rintro c' ⟨⟩ channel mem
    exact absurd mem List.not_mem_nil

/-- The client goes into a state in which it is not open, with what it keeps in mind. -/
theorem Linked.goes (linked : s.Linked) {c c' : WebSocketClient}
    (found : s.browser.client = some c) (down : c'.readyState ≠ .opened)
    (kept : c'.pendingSubscriptions = c.pendingSubscriptions) :
    (s.setClient (some c')).Linked := by
  apply linked.setClient
  · rintro c' ⟨⟩
    exact down
  · rintro c' ⟨⟩ channel mem
    exact (linked.pending c found channel (kept ▸ mem)).2

theorem Linked.forget (linked : s.Linked) (channel : String) : (s.forget channel).Linked where
  pending := by
    intro c now other mem
    obtain ⟨c', found, rfl⟩ := Option.map_eq_some_iff.1 now
    exact linked.pending c' found other (List.mem_filter.1 mem).1
  unused := linked.unused
  leads := by
    intro c now opened
    obtain ⟨c', found, rfl⟩ := Option.map_eq_some_iff.1 now
    exact linked.leads c' found opened

variable {refs : OrderedMap String Nat}

theorem Linked.recount (linked : s.Linked)
    (same : ∀ channel, 0 < s.browser.refs channel ↔ 0 < (s.setRefs refs).browser.refs channel) :
    (s.setRefs refs).Linked where
  pending c found channel mem := by
    obtain ⟨down, counted⟩ := linked.pending c found channel mem
    exact ⟨down, (same channel).1 counted⟩
  unused := linked.unused
  leads c found opened := (linked.leads c found opened).mono same

theorem Linked.unlinked (linked : s.Linked) (absent : s.browser.client = none) :
    (s.setRefs refs).Linked where
  pending c found := absurd (absent.symm.trans found) (Option.some_ne_none c).symm
  unused := linked.unused
  leads c found := absurd (absent.symm.trans found) (Option.some_ne_none c).symm

/-- An open client sends what turns the one count into the other. -/
theorem Linked.sends (linked : s.Linked) {c : WebSocketClient} {action : WSClientAction}
    (found : s.browser.client = some c) (opened : c.readyState = .opened)
    (turns : ∀ channels, (∀ channel, channel ∈ channels ↔ 0 < s.browser.refs channel) →
      ∀ channel, channel ∈ action.apply channels ↔ 0 < (s.setRefs refs).browser.refs channel) :
    ((s.setRefs refs).sendRaw c action).Linked := by
  have leads := linked.leads c found opened
  have only : ∀ c', s.browser.client = some c' → c' = c := fun c' found' =>
    Option.some.inj (found'.symm.trans found)
  unfold sendRaw
  rw [if_pos opened]
  refine ⟨?_, ?_, ?_⟩
  · intro c' found' channel mem
    obtain rfl := only c' found'
    exact absurd opened (linked.pending c' found channel mem).1
  · intro other absent
    obtain ⟨actions, channels, wire, -⟩ := leads
    have different : other ≠ c.conn := by
      rintro rfl
      exact absurd (wire.symm.trans (linked.unused _ absent)) (Option.some_ne_none actions)
    exact (Function.update_of_ne different ..).trans (linked.unused other absent)
  · intro c' found' _
    obtain rfl := only c' found'
    exact leads.setWire action turns

/-- A client that is not open keeps channels in mind. -/
theorem Linked.keeps (linked : s.Linked) {c : WebSocketClient} (down : c.readyState ≠ .opened)
    {names : List String}
    (counted : ∀ channel ∈ names, 0 < (s.setRefs refs).browser.refs channel) :
    ((s.setRefs refs).setClient (some { c with pendingSubscriptions := names })).Linked where
  pending := by
    rintro c' ⟨⟩ channel mem
    exact ⟨down, counted channel mem⟩
  unused := linked.unused
  leads := by
    rintro c' ⟨⟩ opened
    exact absurd opened down

theorem Linked.subscribeChannel (linked : s.Linked) (channel : String) :
    (s.next (.subscribeChannel channel)).Linked := by
  by_cases unnamed : channel = ""
  · rw [next, if_pos unnamed]
    exact linked
  rw [next, if_neg unnamed]
  dsimp only
  have counts (other : String) :
      0 < (s.setRefs (s.browser.channelRefs.set channel
          (s.browser.refs channel + 1))).browser.refs other ↔
        other = channel ∨ 0 < s.browser.refs other := by
    rw [setRefs, refs_set]
    split_ifs with same <;> simp [same]
  cases found : s.browser.client with
  | none => exact linked.unlinked found
  | some c =>
      by_cases first : s.browser.refs channel + 1 = 1
      · dsimp only
        rw [if_pos first]
        by_cases opened : c.readyState = .opened
        · apply linked.sends found opened
          intro channels now other
          rw [counts, WSClientAction.apply, List.mem_insert_iff, now]
        · unfold sendRaw
          rw [if_neg opened]
          apply linked.keeps opened
          intro other mem
          rw [counts]
          split_ifs at mem
          · exact .inr (linked.pending c found other mem).2
          · obtain old | new := List.mem_append.1 mem
            · exact .inr (linked.pending c found other old).2
            · exact .inl (List.mem_singleton.1 new)
      · dsimp only
        rw [if_neg first]
        apply linked.recount
        intro other
        rw [counts]
        constructor
        · exact .inr
        · rintro (rfl | counted)
          · omega
          · exact counted

theorem Linked.unsubscribeChannel (linked : s.Linked) (channel : String) :
    (s.next (.unsubscribeChannel channel)).Linked := by
  by_cases unnamed : channel = ""
  · rw [next, if_pos unnamed]
    exact linked
  rw [next, if_neg unnamed]
  dsimp only
  by_cases last : s.browser.refs channel ≤ 1
  · rw [if_pos last]
    have counts (other : String) :
        0 < (s.setRefs (s.browser.channelRefs.delete channel)).browser.refs other ↔
          other ≠ channel ∧ 0 < s.browser.refs other := by
      rw [setRefs, refs_delete]
      split_ifs with same <;> simp [same]
    cases found : s.browser.client with
    | none => exact linked.unlinked found
    | some c =>
        refine Linked.forget ?_ channel
        by_cases opened : c.readyState = .opened
        · apply linked.sends found opened
          intro channels now other
          simp [counts, WSClientAction.apply, now, and_comm]
        · unfold sendRaw
          rw [if_neg opened]
          apply linked.keeps opened
          intro other mem
          obtain ⟨old, different⟩ := List.mem_filter.1 mem
          rw [counts]
          exact ⟨of_decide_eq_true different, (linked.pending c found other old).2⟩
  · rw [if_neg last]
    apply linked.recount
    intro other
    rw [setRefs, refs_set]
    split_ifs with same
    · subst same
      omega
    · exact Iff.rfl

theorem Linked.opens (linked : s.Linked) (conn userId : Nat) (pt : Option PermissionTree) :
    (s.next (.opens conn userId pt)).Linked := by
  unfold next
  dsimp only
  cases found : s.browser.client with
  | none => exact linked
  | some c =>
  cases known : s.hub.connections conn with
  | some cl => exact linked
  | none =>
  dsimp only
  by_cases running : c.readyState = .connecting ∧ s.hub.crashed = false
  case neg =>
    rw [if_neg running]
    exact linked
  rw [if_pos running]
  obtain ⟨connecting, alive⟩ := running
  have connects : s.hub.next (.connect conn userId pt) =
      { s.hub.setClient conn (Websocket.newClient userId pt) with
        register := Hub.enqueue s.hub.register conn } := by
    simp [Hub.next, Hub.advance, alive, known]
  rw [connects]
  refine ⟨?_, ?_, ?_⟩
  · rintro c' ⟨⟩ channel mem
    exact absurd mem List.not_mem_nil
  · intro other absent
    have different : other ≠ conn := by
      rintro rfl
      simp [Hub.setClient] at absent
    refine (Function.update_of_ne different ..).trans (linked.unused other ?_)
    exact (Function.update_of_ne different ..).symm.trans absent
  · rintro c' ⟨⟩ -
    refine ⟨s.onOpen c, [], Function.update_self .., ?_, fun channel => ?_⟩
    · exact (congrFun (Hub.channelsOf_setClient ..) conn).trans (Function.update_self ..)
    · exact mem_onOpen fun channel mem => (linked.pending c found channel mem).2

theorem Linked.deliver (linked : s.Linked) {conn : Nat} (grants : s.Grants (.deliver conn)) :
    (s.next (.deliver conn)).Linked := by
  unfold next
  dsimp only
  cases wire : s.wires conn with
  | none => exact linked
  | some actions =>
  cases actions with
  | nil => exact linked
  | cons action rest =>
  cases known : s.hub.connections conn with
  | none => exact linked
  | some cl =>
  dsimp only
  split_ifs with works
  case neg => exact linked
  obtain ⟨reads, running⟩ := works
  have applies : (s.hub.next (.receive conn action.received)).channelsOf conn =
      some (action.apply cl.channels) := by
    apply Hub.channelsOf_receive known reads running
    intro channel asks
    subst asks
    exact grants channel rest cl wire known
  have silent : ∀ other, other ≠ conn → ∀ m,
      HubStep.receive conn action.received ≠ .receive other m := by
    rintro other different m ⟨⟩
    exact different rfl
  refine ⟨linked.pending, ?_, ?_⟩
  · intro other absent
    have different : other ≠ conn := by
      rintro rfl
      rw [Hub.channelsOf, absent] at applies
      exact absurd applies (Option.some_ne_none _).symm
    refine (Function.update_of_ne different ..).trans (linked.unused other ?_)
    exact Hub.absent_of_next (silent other different) absent
  · intro c found opened
    obtain ⟨actions, channels, wire', known', after⟩ := linked.leads c found opened
    by_cases same : c.conn = conn
    · subst same
      obtain rfl : action :: rest = actions := Option.some.inj (wire.symm.trans wire')
      obtain rfl : cl.channels = channels :=
        Option.some.inj ((Hub.channelsOf_eq known).symm.trans known')
      exact ⟨rest, _, Function.update_self .., applies, after⟩
    · refine ⟨actions, channels, ?_, Hub.channelsOf_next (silent _ same) known', after⟩
      exact (Function.update_of_ne same ..).trans wire'

theorem Linked.server (linked : s.Linked) {e : HubStep}
    (silent : ∀ conn m, e = .receive conn m → s.wires conn = none) :
    ({ s with hub := s.hub.next e } : Page).Linked where
  pending := linked.pending
  unused := by
    intro conn absent
    cases wire : s.wires conn with
    | none => rfl
    | some actions =>
        have quiet : ∀ m, e ≠ .receive conn m := by
          intro m spoken
          exact absurd (wire.symm.trans (silent conn m spoken)) (Option.some_ne_none actions)
        have gone := linked.unused conn (Hub.absent_of_next quiet absent)
        exact absurd (wire.symm.trans gone) (Option.some_ne_none actions)
  leads := by
    intro c found opened
    obtain ⟨actions, channels, wire, known, after⟩ := linked.leads c found opened
    have quiet : ∀ m, e ≠ .receive c.conn m := by
      intro m spoken
      exact absurd (wire.symm.trans (silent c.conn m spoken)) (Option.some_ne_none actions)
    exact ⟨actions, channels, wire, Hub.channelsOf_next quiet known, after⟩

/-- A step that the server grants keeps the link. -/
theorem Linked.step (linked : s.Linked) {e : PageStep} (grants : s.Grants e) :
    (s.next e).Linked := by
  cases e with
  | connectWebSocket token =>
      unfold next
      dsimp only
      cases found : s.browser.client with
      | none => exact linked.newClient token
      | some c =>
          dsimp only
          split_ifs
          · exact linked
          · exact linked.newClient token
  | disconnectWebSocket => exact linked.setClient (fun c' => nofun) fun c' => nofun
  | logout =>
      have alone : (s.setClient none).Linked := linked.setClient (fun c' => nofun) fun c' => nofun
      exact alone.unlinked rfl
  | connecting =>
      unfold next
      dsimp only
      cases found : s.browser.client with
      | none => exact linked
      | some c =>
          dsimp only
          split_ifs
          · exact linked.goes found ReadyState.noConfusion rfl
          · exact linked
  | opens conn userId pt => exact linked.opens conn userId pt
  | closing =>
      unfold next
      dsimp only
      cases found : s.browser.client with
      | none => exact linked
      | some c =>
          dsimp only
          split_ifs
          · exact linked.goes found ReadyState.noConfusion rfl
          · exact linked
  | closed code =>
      unfold next
      dsimp only
      cases found : s.browser.client with
      | none => exact linked
      | some c => exact linked.goes found ReadyState.noConfusion rfl
  | subscribeChannel channel => exact linked.subscribeChannel channel
  | unsubscribeChannel channel => exact linked.unsubscribeChannel channel
  | heartbeat =>
      unfold next
      dsimp only
      cases found : s.browser.client with
      | none => exact linked
      | some c =>
          dsimp only
          split_ifs with opened
          · exact linked.sends found opened fun channels now => now
          · exact linked
  | deliver conn => exact linked.deliver grants
  | server e =>
      cases e with
      | receive conn m =>
          unfold next
          dsimp only
          cases wire : s.wires conn with
          | some actions => exact linked
          | none =>
              apply linked.server
              rintro conn' m' ⟨⟩
              exact wire
      | _ => exact linked.server nofun

theorem Linked.agree (linked : s.Linked) : s.Agree := by
  intro c found opened handled
  obtain ⟨actions, channels, wire, known, after⟩ := linked.leads c found opened
  obtain rfl : [] = actions := Option.some.inj (handled.symm.trans wire)
  obtain ⟨cl, present, rfl⟩ := Option.map_eq_some_iff.1 known
  exact ⟨cl, present, after⟩

theorem linked_invariant : Transition.Invariant (pageRuns.guard Grants) Linked where
  init := by
    rintro s rfl
    exact ⟨fun c => nofun, fun _ _ => rfl, fun c => nofun⟩
  step := by
    rintro s e t linked ⟨grants, rfl⟩
    exact linked.step grants

end Page

/-- Where the server grants what it is asked for, browser and server agree in every state. -/
theorem browser_server_agree {s : Page}
    (reached : Transition.Reachable (pageRuns.guard Page.Grants) s) : s.Agree :=
  (Page.linked_invariant.holds reached).agree

/-- An administrator's page, whose connection breaks once. -/
def reconnects : List PageStep :=
  [.connectWebSocket "token", .opens 0 1 (some ⟨∅, [], true⟩), .subscribeChannel typeTaskProgress,
    .closed 1006, .connecting, .opens 1 1 (some ⟨∅, [], true⟩), .deliver 1]

/-- The new connection is open and has the channel. -/
theorem reconnected_agree :
    (Transition.exec Page.next Page.start reconnects).Agree ∧
      ((Transition.exec Page.next Page.start reconnects).browser.client.map fun c =>
        (c.conn, c.readyState)) = some (1, .opened) ∧
      (Transition.exec Page.next Page.start reconnects).wires 1 = some [] ∧
      ((Transition.exec Page.next Page.start reconnects).hub.connections 1).map (·.channels) =
        some {typeTaskProgress} := by
  refine ⟨browser_server_agree (Transition.Reachable.exec_guard (.init rfl) ?_), rfl, rfl, rfl⟩
  refine ⟨trivial, trivial, trivial, trivial, trivial, trivial, ?_, trivial⟩
  intro channel rest cl wire known
  have sent :
      some [WSClientAction.subscribe typeTaskProgress] = some (.subscribe channel :: rest) := wire
  have client : some (newClient 1 (some ⟨∅, [], true⟩)) = some cl := known
  cases sent
  cases client
  decide

end K8sPlatform.Websocket
