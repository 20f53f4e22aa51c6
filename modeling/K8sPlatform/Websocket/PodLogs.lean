import K8sPlatform.Websocket.Hub

/-! # Pod log lines reach only authorised clients -/

namespace K8sPlatform.Websocket

open Auth Errcode

theorem podLogChannelName_eq (clusterCode ns podName : String) :
    podLogChannelName clusterCode ns podName =
      Text.join ':' [typePodLogs, clusterCode, ns, podName] := by
  simp only [podLogChannelName, Text.join, String.append_assoc]
  rfl

theorem split_podLogChannelName (clusterCode ns podName : String) :
    Text.split ':' (podLogChannelName clusterCode ns podName) =
      typePodLogs :: (Text.split ':' clusterCode ++ Text.split ':' ns ++
        Text.split ':' podName) := by
  have head : Text.split ':' typePodLogs = [typePodLogs] := Text.split_of_not_mem (by decide)
  rw [podLogChannelName_eq, Text.split_join ':' (by simp)]
  simp [head]

/-- A channel whose name splits into four parts is that of the pod which they name. -/
theorem eq_of_split_podLogChannelName {clusterCode ns podName head c n p : String}
    (four : Text.split ':' (podLogChannelName clusterCode ns podName) = [head, c, n, p]) :
    c = clusterCode ∧ n = ns ∧ p = podName := by
  obtain ⟨a, as, ofCluster⟩ := List.exists_cons_of_ne_nil (Text.split_ne_nil ':' clusterCode)
  obtain ⟨b, bs, ofNs⟩ := List.exists_cons_of_ne_nil (Text.split_ne_nil ':' ns)
  obtain ⟨d, ds, ofPod⟩ := List.exists_cons_of_ne_nil (Text.split_ne_nil ':' podName)
  rw [split_podLogChannelName, ofCluster, ofNs, ofPod] at four
  -- each of the three has at least one part, so none has two
  have lengths := congrArg List.length four
  simp only [List.length_cons, List.length_append, List.length_nil] at lengths
  obtain rfl : as = [] := List.eq_nil_of_length_eq_zero (by omega)
  obtain rfl : bs = [] := List.eq_nil_of_length_eq_zero (by omega)
  obtain rfl : ds = [] := List.eq_nil_of_length_eq_zero (by omega)
  obtain ⟨-, rfl, rfl, rfl⟩ : typePodLogs = head ∧ a = c ∧ b = n ∧ d = p := by simpa using four
  exact ⟨(Text.eq_of_split_eq ofCluster).symm, (Text.eq_of_split_eq ofNs).symm,
    (Text.eq_of_split_eq ofPod).symm⟩

/-- The kinds of names that a tree may be subscribed under. A pod log name has four parts, of
which the second and the third are looked up in the tree. -/
theorem authorizeChannel_cases {pt : Option PermissionTree} {channel : String}
    (authorized : authorizeChannel pt channel = true) :
    '*' ∉ channel.toList ∧ ∃ tree, pt = some tree ∧
      (channel = typeTaskProgress ∧ tree.hasPerm "backup:list" = true ∨
        channel = typeClusterEvent ∧ tree.hasPerm "cluster:list" = true ∨
        ∃ head clusterCode ns podName,
          Text.split ':' channel = [head, clusterCode, ns, podName] ∧
          tree.hasNamespaceScope clusterCode ns = true) := by
  unfold authorizeChannel at authorized
  cases pt with
  | none => cases authorized
  | some tree =>
      dsimp only at authorized
      by_cases empty : channel = ""
      · simp [empty] at authorized
      by_cases star : '*' ∈ channel.toList
      · simp [empty, star] at authorized
      simp only [empty, star, if_false] at authorized
      refine ⟨star, tree, rfl, ?_⟩
      by_cases progress : channel = typeTaskProgress
      · simp only [progress, if_true] at authorized
        exact .inl ⟨progress, authorized⟩
      rw [if_neg progress] at authorized
      by_cases event : channel = typeClusterEvent
      · rw [if_pos event] at authorized
        exact .inr (.inl ⟨event, authorized⟩)
      rw [if_neg event] at authorized
      by_cases isLog : Text.hasPrefix (typePodLogs ++ ":") channel = true
      swap
      · rw [if_neg isLog] at authorized
        cases authorized
      rw [if_pos isLog] at authorized
      split at authorized
      case h_1 head clusterCode ns podName parts =>
        split_ifs at authorized
        exact .inr (.inr ⟨head, clusterCode, ns, podName, parts, authorized⟩)
      case h_2 => cases authorized

/-- A name that is authorised is the channel of one cluster and namespace at most. -/
theorem authorizeChannel_podLogChannelName {pt : Option PermissionTree}
    {clusterCode ns podName : String}
    (authorized : authorizeChannel pt (podLogChannelName clusterCode ns podName) = true) :
    ∃ tree, pt = some tree ∧ tree.hasNamespaceScope clusterCode ns = true := by
  have parts := split_podLogChannelName clusterCode ns podName
  obtain ⟨-, tree, rfl, ⟨progress, -⟩ | ⟨event, -⟩ | named⟩ := authorizeChannel_cases authorized
  · rw [progress, Text.split_of_not_mem (by decide)] at parts
    simp [Text.split_ne_nil] at parts
  · rw [event, Text.split_of_not_mem (by decide)] at parts
    simp [Text.split_ne_nil] at parts
  · obtain ⟨head, c, n, p, four, scope⟩ := named
    obtain ⟨rfl, rfl, -⟩ := eq_of_split_podLogChannelName four
    exact ⟨tree, rfl, scope⟩

/-! ## What clients are subscribed to, and what they are sent -/

/-- The client's tree covers the namespace of the line. -/
def Client.MayRead (c : Client) (line : PodLogLine) : Prop :=
  ∃ tree, c.permTree = some tree ∧ tree.hasNamespaceScope line.clusterCode line.ns = true

/-- The client is subscribed to authorised names only, and has been sent no line that it may not
read. -/
structure Client.Guarded (c : Client) : Prop where
  channels : ∀ channel ∈ c.channels, authorizeChannel c.permTree channel = true
  lines : ∀ m ∈ c.send, ∀ line, m.data = some (.line line) → c.MayRead line

/-- Without a name that ends in `*`, a client gets what it is subscribed to by name. -/
theorem Client.Guarded.mem_of_subscribed {c : Client} (guarded : c.Guarded) {channel : String}
    (subscribed : c.subscribed channel = true) : channel ∈ c.channels := by
  unfold Client.subscribed at subscribed
  simp only [Bool.and_eq_true, Bool.or_eq_true, List.contains_iff_mem,
    List.any_eq_true] at subscribed
  obtain ⟨-, mem | ⟨name, mem, wild⟩⟩ := subscribed
  · exact mem
  · have plain := (authorizeChannel_cases (guarded.channels name mem)).1
    simp only [Client.matchesWildcard, Bool.and_eq_true, beq_iff_eq] at wild
    exact absurd (List.mem_of_getLast? wild.1) plain

theorem Client.Guarded.put {c : Client} (guarded : c.Guarded) {m : Message}
    (mayRead : ∀ line, m.data = some (.line line) → c.MayRead line) : (c.put m).Guarded := by
  unfold Client.put
  split_ifs
  · refine ⟨guarded.channels, fun m' mem => ?_⟩
    rcases List.mem_append.1 mem with old | new
    · exact guarded.lines m' old
    · obtain rfl := List.mem_singleton.1 new
      exact mayRead
  · exact guarded

theorem Client.Guarded.offer {c : Client} (guarded : c.Guarded) {channel : String} {m : Message}
    (mayRead : channel ∈ c.channels → ∀ line, m.data = some (.line line) → c.MayRead line)
    (progressRaw : Option Payload) : (c.offer channel m progressRaw).Guarded := by
  unfold Client.offer
  cases subscribed : c.subscribed channel with
  | false => exact guarded
  | true =>
      have sent := guarded.put (mayRead (guarded.mem_of_subscribed subscribed))
      cases progressRaw with
      | none => exact sent
      | some raw =>
          simp only [Bool.not_true, Bool.false_eq_true, if_false]
          split_ifs
          · exact guarded
          · exact sent

theorem Client.Guarded.subscribe {c : Client} (guarded : c.Guarded) {channel : String}
    (authorized : authorizeChannel c.permTree channel = true) : (c.subscribe channel).Guarded := by
  unfold Client.subscribe
  split_ifs
  · exact guarded
  · refine ⟨fun name mem => ?_, guarded.lines⟩
    rcases List.mem_insert_iff.1 mem with rfl | old
    · exact authorized
    · exact guarded.channels name old

theorem Client.Guarded.unsubscribe {c : Client} (guarded : c.Guarded) (channel : String) :
    (c.unsubscribe channel).Guarded :=
  ⟨fun name mem => guarded.channels name (List.mem_of_mem_filter mem), guarded.lines⟩

/-- The lines of a log stream are those of its pod. -/
theorem streamPodLogs_base {r : LogRequest} {a : LogAnswers} {line : PodLogLine}
    (mem : line ∈ (streamPodLogs r a).1) : line.clusterCode = r.clusterCode ∧ line.ns = r.ns := by
  have item {text : String} (mem : line ∈ r.item text) :
      line.clusterCode = r.clusterCode ∧ line.ns = r.ns := by
    unfold LogRequest.item at mem
    split_ifs at mem
    · cases mem
    · exact List.mem_singleton.1 mem ▸ ⟨rfl, rfl⟩
  have reads (rs : List LogRead) (mem : line ∈ (r.readAll rs).1) :
      line.clusterCode = r.clusterCode ∧ line.ns = r.ns := by
    induction rs with
    | nil => cases mem
    | cons read rs ih =>
        cases read with
        | line text =>
            rcases List.mem_append.1 mem with first | rest
            · exact item first
            · exact ih rest
        | eof rest =>
            rcases List.mem_append.1 mem with first | last
            · exact item first
            · exact List.mem_singleton.1 last ▸ ⟨rfl, rfl⟩
        | failed rest err =>
            rcases List.mem_append.1 mem with first | last
            · exact item first
            · exact List.mem_singleton.1 last ▸ ⟨rfl, rfl⟩
  unfold streamPodLogs at mem
  split_ifs at mem
  · cases mem
  · split at mem
    case h_5 => exact reads _ mem
    all_goals exact List.mem_singleton.1 mem ▸ ⟨rfl, rfl⟩

namespace Hub

/-- Every client is guarded, and a line that is pushed is of the pod that names its channel. -/
theorem advance_guarded {h : Hub} (all : h.All Client.Guarded) (e : HubStep) :
    (h.advance e).All Client.Guarded := by
  have notice {id : Nat} {m : Message} (none : ∀ line, m.data ≠ some (.line line)) :
      (h.sendToClient id m).All Client.Guarded :=
    all.sendToClient fun c guarded => guarded.put fun line eq => absurd eq (none line)
  cases e with
  | connect id userId pt =>
      unfold Hub.advance
      dsimp only
      split
      · exact all
      · exact all.setClient ⟨by simp [newClient], by simp [newClient]⟩
  | receive id message =>
      unfold Hub.advance
      dsimp only
      cases found : h.connections id with
      | none => exact all
      | some c =>
      have guarded := all id c found
      dsimp only
      split_ifs
      swap
      · exact all
      cases message with
      | text s =>
          unfold Hub.receive
          dsimp only
          split_ifs
          · exact notice (by simp [pong])
          · exact all
      | action name channel =>
          unfold Hub.receive
          dsimp only
          split_ifs with _ authorized
          · exact all.setClient (guarded.subscribe authorized)
          · exact notice (by simp [refusal])
          · exact all.setClient (guarded.unsubscribe channel)
          · exact notice (by simp [pong])
          · exact all
  | hangUp id =>
      unfold Hub.advance
      dsimp only
      cases found : h.connections id with
      | none => exact all
      | some c =>
          dsimp only
          split_ifs
          · exact all.setClient ⟨(all id c found).channels, (all id c found).lines⟩
          · exact all
  | write id =>
      unfold Hub.advance
      dsimp only
      cases found : h.connections id with
      | none => exact all
      | some c =>
          exact all.setClient ⟨(all id c found).channels,
            fun m mem => (all id c found).lines m (List.mem_of_mem_tail mem)⟩
  | takeRegister =>
      unfold Hub.advance
      dsimp only
      split <;> exact all
  | takeUnregister =>
      unfold Hub.advance
      dsimp only
      split
      · split_ifs
        · exact all.close fun c guarded => ⟨guarded.channels, guarded.lines⟩
        · exact all
      · exact all
  | stop => exact all
  | shutDown =>
      unfold Hub.advance
      dsimp only
      split_ifs
      · intro id c found
        dsimp only at found
        split_ifs at found
        · obtain ⟨c', found', rfl⟩ := Option.map_eq_some_iff.1 found
          exact ⟨(all id c' found').channels, (all id c' found').lines⟩
        · exact all id c found
      · exact all
  | push r a n =>
      unfold Hub.advance
      dsimp only
      cases got : (streamPodLogs r a).1[n]? with
      | none => exact all
      | some line =>
          obtain ⟨cluster, ns⟩ := streamPodLogs_base (List.mem_of_getElem? got)
          refine all.broadcastToChannel fun c guarded => guarded.offer (fun mem => ?_) none
          rintro line' ⟨⟩
          rw [Client.MayRead, cluster, ns]
          exact authorizeChannel_podLogChannelName (guarded.channels _ mem)
  | relay redisCh payload =>
      unfold Hub.advance Hub.relay
      dsimp only
      split
      · exact all
      · unfold Hub.publishMessage
        split
        · exact all
        · split_ifs
          · exact all.broadcastToChannel fun c guarded => guarded.offer (fun _ line => by simp) _
          · exact all.broadcastToChannel fun c guarded => guarded.offer (fun _ line => by simp) _

end Hub

theorem hubRuns_guarded : Transition.Invariant hubRuns (Hub.All Client.Guarded) where
  init := by
    rintro h rfl id c found
    cases found
  step := by
    rintro h e _ all rfl
    unfold Hub.next
    split_ifs
    · exact all
    · exact Hub.advance_guarded all e

/-- In every run of the hub a client is sent only lines of namespaces that its tree covers, and is
subscribed to authorised names only, none of them a wildcard; and the channel of a pod is authorised
for nothing but its own cluster and namespace. -/
theorem podLogs_authorized :
    (∀ h, Transition.Reachable hubRuns h → ∀ id c, h.connections id = some c →
      (∀ m ∈ c.send, ∀ line, m.data = some (.line line) → c.MayRead line) ∧
        ∀ channel ∈ c.channels, '*' ∉ channel.toList ∧
          authorizeChannel c.permTree channel = true) ∧
      ∀ clusterCode ns podName,
        (∀ pt, authorizeChannel pt (podLogChannelName clusterCode ns podName) = true →
          ∃ tree, pt = some tree ∧ tree.hasNamespaceScope clusterCode ns = true) ∧
        ∀ head c n p, Text.split ':' (podLogChannelName clusterCode ns podName) =
          [head, c, n, p] → c = clusterCode ∧ n = ns ∧ p = podName := by
  refine ⟨fun h reachable id c found => ?_, fun _ _ _ => ⟨fun _ => ?_, fun _ _ _ _ => ?_⟩⟩
  · have guarded := hubRuns_guarded.holds reachable id c found
    refine ⟨guarded.lines, fun channel mem => ?_⟩
    have authorized := guarded.channels channel mem
    exact ⟨(authorizeChannel_cases authorized).1, authorized⟩
  · exact authorizeChannel_podLogChannelName
  · exact eq_of_split_podLogChannelName

/-- A tree for one namespace. -/
def teamTree : PermissionTree := ⟨{"resource:get"}, [⟨scopeNamespace, "prod", "team-a"⟩], false⟩

/-- A client of that tree subscribes to the logs of a pod, which are then streamed. -/
def podLogRun : List HubStep :=
  [.connect 0 7 (some teamTree), .takeRegister,
    .receive 0 (.action "subscribe" "pod_logs:prod:team-a:web"),
    .push ⟨"prod", "team-a", "web", "", false⟩
      ⟨.ok true, .ok (), .ok (), [.line "started\n", .eof ""]⟩ 0]

/-- It is sent a line, and may read it. -/
theorem podLogRun_authorized :
    ∃ c, (Transition.exec Hub.next newHub podLogRun).connections 0 = some c ∧ c.send ≠ [] ∧
      ∀ m ∈ c.send, ∀ line, m.data = some (.line line) → c.MayRead line := by
  have sent : ((Transition.exec Hub.next newHub podLogRun).connections 0).any
      (fun c => !c.send.isEmpty) = true := by decide +kernel
  obtain ⟨c, found, some_⟩ := (Option.any_eq_true ..).1 sent
  have reachable : Transition.Reachable hubRuns (Transition.exec Hub.next newHub podLogRun) :=
    .exec podLogRun (.init rfl)
  exact ⟨c, found, by simpa using some_, (podLogs_authorized.1 _ reachable 0 c found).1⟩

end K8sPlatform.Websocket
