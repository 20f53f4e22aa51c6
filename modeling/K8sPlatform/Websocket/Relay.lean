import K8sPlatform.Websocket.Hub

/-! # Relayed events and the scope of their clients -/

namespace K8sPlatform.Websocket

open Auth Errcode
open Resource (Json)

def redisChannelTaskProgress : String := "notifier:task_progress"
def redisChannelClusterEvent : String := "notifier:cluster_event"

/-- The client's tree reaches the cluster that the event names and, where the event names a
namespace, that namespace or the whole cluster. -/
def Client.InScope (c : Client) (event : ProgressScope) : Prop :=
  ∃ tree, c.permTree = some tree ∧ tree.hasAnyAccessToCluster event.clusterCode = true ∧
    (event.ns ≠ "" → tree.hasNamespaceScope event.clusterCode event.ns = true ∨
      tree.hasClusterScope event.clusterCode = true)

/-- An event that names a cluster is put only into the queues of clients in its scope. -/
def Hub.RespectsScope (h : Hub) (redisCh : String) (payload : Json) : Prop :=
  (progressScope payload).clusterCode ≠ "" → ∀ id c c', h.connections id = some c →
    (h.relay redisCh (some payload)).connections id = some c' → c'.send ≠ c.send →
      c.InScope (progressScope payload)

theorem Client.put_send_ne_iff {c : Client} {m : Message} :
    (c.put m).send ≠ c.send ↔ c.send.length < wsSendQueueSize := by
  unfold Client.put
  split_ifs with room
  · simp [room]
  · simp [room]

/-- Whom an event reaches: the subscribed clients with room, and of the progress of tasks only
those that the check lets through. -/
theorem Client.offer_send_ne_iff {c : Client} {channel : String} {m : Message} {raw : Payload} :
    (c.offer channel m (some raw)).send ≠ c.send ↔ c.subscribed channel = true ∧
      (channel = typeTaskProgress → authorizeTaskProgressPayload c.permTree raw = true) ∧
        c.send.length < wsSendQueueSize := by
  unfold Client.offer
  cases subscribed : c.subscribed channel with
  | false => simp
  | true =>
      simp only [Bool.not_true, Bool.false_eq_true, if_false, true_and]
      split_ifs with refused
      · simp [refused.1, refused.2]
      · rw [Client.put_send_ne_iff]
        refine ⟨fun room => ⟨fun progress => ?_, room⟩, And.right⟩
        simpa [progress] using refused

theorem Client.offer_none_send_ne_iff {c : Client} {channel : String} {m : Message} :
    (c.offer channel m none).send ≠ c.send ↔ c.subscribed channel = true ∧
      c.send.length < wsSendQueueSize := by
  unfold Client.offer
  cases c.subscribed channel with
  | false => simp
  | true => simpa using Client.put_send_ne_iff

/-- The check of a task's progress asks for no less than its scope. -/
theorem inScope_of_authorizeTaskProgressPayload {c : Client} {payload : Json}
    (authorized : authorizeTaskProgressPayload c.permTree (some payload) = true)
    (named : (progressScope payload).clusterCode ≠ "") : c.InScope (progressScope payload) := by
  unfold authorizeTaskProgressPayload at authorized
  cases hasTree : c.permTree with
  | none => simp [hasTree] at authorized
  | some tree =>
      simp only [hasTree, Option.map_some, Bool.and_eq_true, named, if_false] at authorized
      refine ⟨tree, hasTree, ?_⟩
      have scope := authorized.2.2
      split_ifs at scope
      · exact ⟨by simp [PermissionTree.hasAnyAccessToCluster, scope], fun _ => .inr scope⟩
      · exact ⟨PermissionTree.hasAnyAccessToCluster_of_hasNamespaceScope scope,
          fun _ => .inl scope⟩

theorem relay_taskProgress (h : Hub) (payload : Json) :
    h.relay redisChannelTaskProgress (some payload) = h.broadcastToChannel typeTaskProgress
      ⟨typeTaskProgress, typeTaskProgress, some (.relayed payload)⟩ (some (some payload)) := rfl

theorem relay_clusterEvent (h : Hub) (payload : Json) :
    h.relay redisChannelClusterEvent (some payload) = h.broadcastToChannel typeClusterEvent
      ⟨typeClusterEvent, typeClusterEvent, some (.relayed payload)⟩ none := rfl

/-- The send queues that a broadcast changes are those of clients in the map. -/
theorem broadcastToChannel_send_ne_iff {h : Hub} {channel : String} {m : Message}
    {progressRaw : Option Payload} {id : Nat} {c : Client} (found : h.connections id = some c) :
    (∃ c', (h.broadcastToChannel channel m progressRaw).connections id = some c' ∧
        c'.send ≠ c.send) ↔
      id ∈ h.clients ∧ (c.offer channel m progressRaw).send ≠ c.send := by
  by_cases mem : id ∈ h.clients
  · simp [Hub.broadcastToChannel, mem, found]
  · simp [Hub.broadcastToChannel, mem, found]

/-- Whom a cluster event reaches. -/
theorem clusterEvent_sent_iff {h : Hub} (payload : Json) {id : Nat} {c : Client}
    (found : h.connections id = some c) :
    (∃ c', (h.relay redisChannelClusterEvent (some payload)).connections id = some c' ∧
        c'.send ≠ c.send) ↔
      id ∈ h.clients ∧ c.subscribed typeClusterEvent = true ∧ c.send.length < wsSendQueueSize := by
  rw [relay_clusterEvent, broadcastToChannel_send_ne_iff found, Client.offer_none_send_ne_iff]

/-- The progress of tasks always respects scope. A cluster event does exactly when every client
that is subscribed to the events and has room in its queue is in the event's scope. -/
theorem respectsScope_iff (h : Hub) (redisCh : String)
    (relayed : redisCh = redisChannelTaskProgress ∨ redisCh = redisChannelClusterEvent)
    (payload : Json) :
    h.RespectsScope redisCh payload ↔
      (redisCh = redisChannelClusterEvent → (progressScope payload).clusterCode ≠ "" →
        ∀ id ∈ h.clients, ∀ c, h.connections id = some c →
          c.subscribed typeClusterEvent = true → c.send.length < wsSendQueueSize →
            c.InScope (progressScope payload)) := by
  unfold Hub.RespectsScope
  rcases relayed with rfl | rfl
  · rw [relay_taskProgress]
    refine iff_of_true (fun named id c c' found found' sent => ?_) fun other => ?_
    swap
    · exact absurd other (by decide)
    have reached := (broadcastToChannel_send_ne_iff found).1 ⟨c', found', sent⟩
    have authorized := (Client.offer_send_ne_iff.1 reached.2).2.1 rfl
    exact inScope_of_authorizeTaskProgressPayload authorized named
  · constructor
    · intro respects _ named id mem c found subscribed room
      obtain ⟨c', found', sent⟩ := (clusterEvent_sent_iff payload found).2 ⟨mem, subscribed, room⟩
      exact respects named id c c' found found' sent
    · intro inScope named id c c' found found' sent
      obtain ⟨mem, subscribed, room⟩ := (clusterEvent_sent_iff payload found).1 ⟨c', found', sent⟩
      exact inScope rfl named id mem c found subscribed room

/-- A tree that lists clusters, and reaches one namespace. -/
def viewerTree : PermissionTree := ⟨{"cluster:list"}, [⟨scopeNamespace, "prod", "team-a"⟩], false⟩

def viewerRun : List HubStep :=
  [.connect 0 7 (some viewerTree), .takeRegister,
    .receive 0 (.action "subscribe" "cluster_event")]

/-- The hub with that one client, which is subscribed to the cluster events. -/
def viewerHub : Hub := Transition.exec Hub.next newHub viewerRun

def clusterEvent (clusterCode ns : String) : Json :=
  .obj [("cluster_code", .str clusterCode), ("kind", .str "Secret"), ("namespace", .str ns),
    ("name", .str "token"), ("event_type", .str "MODIFIED")]

theorem viewerHub_client : ∃ c, viewerHub.connections 0 = some c ∧ c.permTree = some viewerTree ∧
    c.subscribed typeClusterEvent = true ∧ c.send.length < wsSendQueueSize := by
  have ready : (viewerHub.connections 0).any (fun c => c.permTree == some viewerTree &&
      c.subscribed typeClusterEvent && decide (c.send.length < wsSendQueueSize)) = true := by
    decide +kernel
  obtain ⟨c, found, facts⟩ := (Option.any_eq_true ..).1 ready
  simp only [Bool.and_eq_true, beq_iff_eq, decide_eq_true_eq] at facts
  exact ⟨c, found, facts.1.1, facts.1.2, facts.2⟩

/-- It is sent an event of a cluster that its tree does not reach. -/
theorem clusterEvent_leaks :
    ¬ ∀ h, Transition.Reachable hubRuns h → ∀ payload,
      h.RespectsScope redisChannelClusterEvent payload := by
  intro respects
  obtain ⟨c, found, hasTree, subscribed, room⟩ := viewerHub_client
  obtain ⟨c', found', sent⟩ := (clusterEvent_sent_iff (clusterEvent "dev" "kube-system") found).2
    ⟨by decide, subscribed, room⟩
  obtain ⟨tree, same, reaches, -⟩ := respects viewerHub (.exec viewerRun (.init rfl))
    (clusterEvent "dev" "kube-system") (by decide) 0 c c' found found' sent
  rw [hasTree, Option.some.injEq] at same
  subst same
  exact absurd reaches (by decide)

/-- An event of its own namespace is sent to it by right. -/
theorem clusterEvent_inScope :
    viewerHub.RespectsScope redisChannelClusterEvent (clusterEvent "prod" "team-a") := by
  rw [respectsScope_iff viewerHub redisChannelClusterEvent (.inr rfl)]
  rintro - - id mem c found - -
  obtain ⟨c', found', hasTree, -, -⟩ := viewerHub_client
  obtain rfl : id = 0 := by
    have only : viewerHub.clients = [0] := by decide
    simpa [only] using mem
  obtain rfl : c' = c := by simpa [found'] using found
  exact ⟨viewerTree, hasTree, by decide, fun _ => .inl (by decide)⟩

end K8sPlatform.Websocket
