import K8sPlatform.Websocket.Hub

/-! # When the hub forgets a closed connection -/

namespace K8sPlatform.Websocket

/-- What there is to see of one client: whether it was made, whether its `readPump` runs, whether
its send channel is closed, whether it waits in one of the queues, whether it is in the map, and
whether the run loop has returned. -/
@[ext]
structure Seen where
  made : Bool
  reading : Bool
  closed : Bool
  registering : Bool
  removing : Bool
  member : Bool
  down : Bool

/-- What a step of the hub is to one client. `room` is whether the queue takes it. -/
inductive Lot
  | none
  | connect (room : Bool)
  | hangUp (room : Bool)
  | registered
  | removal
  | shutDown
  deriving DecidableEq

/-- The step loses no registration. -/
def Lot.Admits (lot : Lot) : Prop := lot ≠ .connect false

/-- The step loses no removal, neither at the queue nor by coming before the registration. -/
def Lot.Removes (lot : Lot) (v : Seen) : Prop :=
  lot ≠ .hangUp false ∧ (lot = .removal → v.member = true)

namespace Seen

def next (v : Seen) : Lot → Seen
  | .none => v
  | .connect room => { v with made := true, reading := true, registering := room }
  | .hangUp room => { v with reading := false, removing := room }
  | .registered => { v with registering := false, member := true }
  | .removal => { v with removing := false, member := false, closed := v.closed || v.member }
  | .shutDown => { v with member := false, closed := v.closed || v.member, down := true }

/-- When each of them can happen. -/
def Enabled (v : Seen) : Lot → Prop
  | .none => True
  | .connect _ => v.made = false
  | .hangUp _ => v.reading = true
  | .registered => v.registering = true ∧ v.down = false
  | .removal => v.removing = true ∧ v.down = false
  | .shutDown => v.down = false

/-- A client is in one place at a time, and leaves once. -/
structure Valid (v : Seen) : Prop where
  unmade : v.made = false →
    v.reading = false ∧ v.closed = false ∧ v.registering = false ∧ v.removing = false ∧
      v.member = false
  registering : v.registering = true → v.member = false ∧ v.closed = false
  member : v.member = true → v.closed = false
  removing : v.removing = true → v.reading = false
  closed : v.closed = true → (v.reading = false ∧ v.removing = false) ∨ v.down = true
  down : v.down = true → v.member = false

/-- The registration is on its way, or has been made. -/
def Admitted (v : Seen) : Prop :=
  v.made = true → v.registering = true ∨ v.member = true ∨ v.closed = true

/-- The removal is still to come, is on its way, or has been made. -/
def Leaving (v : Seen) : Prop :=
  v.made = true → v.reading = true ∨ v.removing = true ∨ v.closed = true

/-- The removal is lost, and only the end of the run loop can close the channel. -/
structure Stranded (v : Seen) : Prop where
  made : v.made = true
  reading : v.reading = false
  removing : v.removing = false
  closed : v.closed = true → v.down = true

variable {v : Seen} {lot : Lot}

theorem Valid.next (valid : v.Valid) (enabled : v.Enabled lot) : (v.next lot).Valid := by
  obtain ⟨made, reading, closed, registering, removing, member, down⟩ := v
  obtain ⟨unmade, inQueue, inMap, leaves, ends, stops⟩ := valid
  cases lot <;> constructor <;> simp_all [Seen.next, Enabled]

/-- A registration that is lost stays lost. -/
theorem Admitted.next (valid : v.Valid) (enabled : v.Enabled lot) :
    (v.next lot).Admitted ↔ v.Admitted ∧ lot.Admits := by
  obtain ⟨made, reading, closed, registering, removing, member, down⟩ := v
  obtain ⟨unmade, inQueue, inMap, leaves, ends, stops⟩ := valid
  cases lot with
  | none => simp [Seen.next, Lot.Admits]
  | connect room => cases room <;> simp_all [Seen.next, Enabled, Admitted, Lot.Admits]
  | hangUp room => simp [Seen.next, Admitted, Lot.Admits]
  | registered => simp_all [Seen.next, Enabled, Admitted, Lot.Admits]
  | removal => cases member <;> simp_all [Seen.next, Enabled, Admitted, Lot.Admits]
  | shutDown => cases member <;> simp_all [Seen.next, Enabled, Admitted, Lot.Admits]

theorem Leaving.next (leaving : v.Leaving)
    (removes : lot.Removes v) : (v.next lot).Leaving := by
  obtain ⟨made, reading, closed, registering, removing, member, down⟩ := v
  cases lot with
  | none => exact leaving
  | connect room => simp [Seen.next, Leaving]
  | hangUp room => cases room <;> simp_all [Seen.next, Leaving, Lot.Removes]
  | registered => exact leaving
  | removal => simp_all [Seen.next, Leaving, Lot.Removes]
  | shutDown =>
      intro here
      rcases leaving here with reads | removes | ends
      · exact .inl reads
      · exact .inr (.inl removes)
      · exact .inr (.inr (by simpa [Seen.next] using Or.inl ends))

/-- A removal is lost at a full queue, or when it comes before the registration. -/
theorem Valid.strand (valid : v.Valid) (enabled : v.Enabled lot) (lost : ¬lot.Removes v) :
    (v.next lot).Stranded := by
  obtain ⟨made, reading, closed, registering, removing, member, down⟩ := v
  obtain ⟨unmade, inQueue, inMap, leaves, ends, stops⟩ := valid
  cases lot with
  | none | connect | registered | shutDown => simp [Lot.Removes] at lost
  | hangUp room =>
      obtain rfl : room = false := by simpa [Lot.Removes] using lost
      constructor <;> simp_all [Seen.next, Enabled]
  | removal =>
      obtain rfl : member = false := by simpa [Lot.Removes] using lost
      constructor <;> simp_all [Seen.next, Enabled]

theorem Stranded.next (valid : v.Valid) (enabled : v.Enabled lot) (stranded : v.Stranded) :
    (v.next lot).Stranded := by
  obtain ⟨made, reading, closed, registering, removing, member, down⟩ := v
  obtain ⟨isMade, notReading, notRemoving, ended⟩ := stranded
  cases lot with
  | none => exact ⟨isMade, notReading, notRemoving, ended⟩
  | connect | hangUp | removal => simp_all [Enabled]
  | registered => exact ⟨isMade, notReading, notRemoving, ended⟩
  | shutDown => exact ⟨isMade, notReading, notRemoving, fun _ => rfl⟩

end Seen

namespace Hub

/-! ## The connections of the hub -/

def seen (h : Hub) (id : Nat) : Seen where
  made := (h.connections id).isSome
  reading := (h.connections id).any (·.reading)
  closed := (h.connections id).any (·.closed)
  registering := decide (id ∈ h.register)
  removing := decide (id ∈ h.unregister)
  member := decide (id ∈ h.clients)
  down := h.down

/-- What the step is to the client. -/
def lot (h : Hub) (id : Nat) (e : HubStep) : Lot :=
  if h.crashed then .none
  else
    match e with
    | .connect id' _ _ =>
        if id' = id ∧ (h.connections id).isSome = false then
          .connect (h.register.length < hubQueueSize)
        else .none
    | .hangUp id' =>
        if id' = id ∧ (h.connections id).any (·.reading) = true then
          .hangUp (h.unregister.length < hubQueueSize)
        else .none
    | .takeRegister => if h.down = false ∧ h.register.head? = some id then .registered else .none
    | .takeUnregister => if h.down = false ∧ h.unregister.head? = some id then .removal else .none
    | .shutDown => if h.stopping && !h.down then .shutDown else .none
    | .receive .. | .write _ | .stop | .push .. | .relay .. => .none

/-- No client waits twice in a queue, and each is where it can be. -/
structure Orderly (h : Hub) : Prop where
  register : h.register.Nodup
  unregister : h.unregister.Nodup
  seen : ∀ id, (h.seen id).Valid

/-- Nothing has changed for any client but what it is subscribed to and sent. -/
structure Quiet (h h' : Hub) : Prop where
  register : h'.register = h.register
  unregister : h'.unregister = h.unregister
  seen : ∀ id, h'.seen id = h.seen id

variable {h : Hub}

theorem Quiet.refl (h : Hub) : Quiet h h := ⟨rfl, rfl, fun _ => rfl⟩

/-- A client is replaced by one that reads and is closed as it was. -/
theorem Quiet.setClient {id : Nat} {c c' : Client} (found : h.connections id = some c)
    (reading : c'.reading = c.reading) (closed : c'.closed = c.closed) :
    Quiet h (h.setClient id c') where
  register := rfl
  unregister := rfl
  seen other := by
    by_cases same : other = id
    · subst same
      refine Seen.ext ?_ ?_ ?_ rfl rfl rfl rfl <;>
        simp [Hub.seen, Hub.setClient, found, reading, closed]
    · refine Seen.ext ?_ ?_ ?_ rfl rfl rfl rfl <;> simp [Hub.seen, Hub.setClient, same]

theorem offer_reading (c : Client) (channel : String) (m : Message)
    (progressRaw : Option Payload) : (c.offer channel m progressRaw).reading = c.reading ∧
      (c.offer channel m progressRaw).closed = c.closed := by
  unfold Client.offer
  split_ifs
  · exact ⟨rfl, rfl⟩
  · split
    · exact ⟨c.put_reading m, c.put_closed m⟩
    · split_ifs
      · exact ⟨rfl, rfl⟩
      · exact ⟨c.put_reading m, c.put_closed m⟩

theorem Quiet.sendToClient (h : Hub) (id : Nat) (m : Message) : Quiet h (h.sendToClient id m) := by
  unfold Hub.sendToClient
  cases found : h.connections id with
  | none => exact .refl h
  | some c =>
      dsimp only
      split_ifs
      · exact ⟨rfl, rfl, fun _ => rfl⟩
      · exact .setClient found (c.put_reading m) (c.put_closed m)

theorem Quiet.broadcastToChannel (h : Hub) (channel : String) (m : Message)
    (progressRaw : Option Payload) : Quiet h (h.broadcastToChannel channel m progressRaw) where
  register := rfl
  unregister := rfl
  seen id := by
    by_cases mem : id ∈ h.clients
    · cases found : h.connections id <;> refine Seen.ext ?_ ?_ ?_ rfl rfl rfl rfl <;>
        simp [Hub.seen, Hub.broadcastToChannel, mem, found, offer_reading]
    · refine Seen.ext ?_ ?_ ?_ rfl rfl rfl rfl <;> simp [Hub.seen, Hub.broadcastToChannel, mem]

theorem Quiet.receive {id : Nat} {c : Client} (found : h.connections id = some c)
    (message : Received) : Quiet h (h.receive id c message) := by
  cases message with
  | text s =>
      unfold Hub.receive
      dsimp only
      split_ifs
      · exact .sendToClient h id _
      · exact .refl h
  | action name channel =>
      unfold Hub.receive
      dsimp only
      split_ifs
      · refine .setClient found ?_ ?_ <;> unfold Client.subscribe <;> split_ifs <;> rfl
      · exact .sendToClient h id _
      · exact .setClient found rfl rfl
      · exact .sendToClient h id _
      · exact .refl h

theorem Quiet.relay (h : Hub) (redisCh : String) (payload : Payload) :
    Quiet h (h.relay redisCh payload) := by
  unfold Hub.relay
  split
  · exact .refl h
  · unfold Hub.publishMessage
    split
    · exact .refl h
    · split_ifs
      · exact .broadcastToChannel h ..
      · exact .broadcastToChannel h ..

theorem Orderly.exists_client (orderly : h.Orderly) {id : Nat} (mem : id ∈ h.clients) :
    ∃ c, h.connections id = some c := by
  cases found : h.connections id with
  | some c => exact ⟨c, rfl⟩
  | none =>
      have unmade := (orderly.seen id).unmade (by simp [Hub.seen, found])
      simp [Hub.seen, mem] at unmade

/-- The step does to every client what its lot is. -/
structure Follows (h h' : Hub) (e : HubStep) : Prop where
  register : h'.register.Nodup
  unregister : h'.unregister.Nodup
  seen : ∀ id, h'.seen id = (h.seen id).next (h.lot id e)

theorem Quiet.follows {h' : Hub} {e : HubStep} (quiet : Quiet h h') (orderly : h.Orderly)
    (none : ∀ id, h.lot id e = .none) : Follows h h' e where
  register := quiet.register ▸ orderly.register
  unregister := quiet.unregister ▸ orderly.unregister
  seen id := by
    rw [none id]
    exact quiet.seen id

theorem follows_connect (orderly : h.Orderly) (alive : h.crashed = false) (id' userId : Nat)
    (pt : Option Auth.PermissionTree) :
    Follows h (h.advance (.connect id' userId pt)) (.connect id' userId pt) := by
  unfold advance
  dsimp only
  cases found : h.connections id' with
  | some c =>
      apply (Quiet.refl h).follows orderly
      intro id
      rw [lot, if_neg (by simp [alive])]
      exact if_neg fun ⟨same, absent⟩ => by simp [← same, found] at absent
  | none =>
  have unmade := (orderly.seen id').unmade (by simp [Hub.seen, found])
  have fresh : id' ∉ h.register := by simpa [Hub.seen] using unmade.2.2.1
  refine ⟨nodup_enqueue orderly.register fresh, orderly.unregister, fun id => ?_⟩
  by_cases same : id = id'
  · subst same
    have lot_eq : h.lot id (.connect id userId pt) =
        .connect (h.register.length < hubQueueSize) := by simp [lot, alive, found]
    rw [lot_eq]
    refine Seen.ext ?_ ?_ ?_ (decide_eq_decide.2 ?_) rfl rfl rfl
    · simp [Hub.seen, Hub.setClient, Seen.next]
    · simp [Hub.seen, Hub.setClient, Seen.next, newClient]
    · simp [Hub.seen, Hub.setClient, Seen.next, newClient, found]
    · rw [mem_enqueue]
      simp [fresh]
  · have lot_eq : h.lot id (.connect id' userId pt) = .none := by simp [lot, Ne.symm same]
    rw [lot_eq]
    refine Seen.ext ?_ ?_ ?_ (decide_eq_decide.2 ?_) rfl rfl rfl
    · simp [Hub.seen, Hub.setClient, Seen.next, same]
    · simp [Hub.seen, Hub.setClient, Seen.next, same]
    · simp [Hub.seen, Hub.setClient, Seen.next, same]
    · rw [mem_enqueue]
      simp [same]

theorem follows_hangUp (orderly : h.Orderly) (alive : h.crashed = false) (id' : Nat) :
    Follows h (h.advance (.hangUp id')) (.hangUp id') := by
  unfold advance
  dsimp only
  have other (unread : (h.connections id').any (·.reading) = false) :
      Follows h h (.hangUp id') := by
    apply (Quiet.refl h).follows orderly
    intro id
    rw [lot, if_neg (by simp [alive])]
    exact if_neg fun ⟨same, reads⟩ => by simp [← same, unread] at reads
  cases found : h.connections id' with
  | none => exact other (by simp [found])
  | some c =>
  dsimp only
  by_cases reading : c.reading = true
  swap
  · rw [if_neg reading]
    exact other (by simp [found, reading])
  rw [if_pos reading]
  have fresh : id' ∉ h.unregister := by
    intro mem
    have := (orderly.seen id').removing (by simpa [Hub.seen] using mem)
    simp [Hub.seen, found, reading] at this
  refine ⟨orderly.register, nodup_enqueue orderly.unregister fresh, fun id => ?_⟩
  by_cases same : id = id'
  · subst same
    have lot_eq : h.lot id (.hangUp id) = .hangUp (h.unregister.length < hubQueueSize) := by
      simp [lot, alive, found, reading]
    rw [lot_eq]
    refine Seen.ext ?_ ?_ ?_ rfl (decide_eq_decide.2 ?_) rfl rfl
    · simp [Hub.seen, Hub.setClient, Seen.next, found]
    · simp [Hub.seen, Hub.setClient, Seen.next]
    · simp [Hub.seen, Hub.setClient, Seen.next, found]
    · rw [mem_enqueue]
      simp [fresh]
  · have lot_eq : h.lot id (.hangUp id') = .none := by simp [lot, Ne.symm same]
    rw [lot_eq]
    refine Seen.ext ?_ ?_ ?_ rfl (decide_eq_decide.2 ?_) rfl rfl
    · simp [Hub.seen, Hub.setClient, Seen.next, same]
    · simp [Hub.seen, Hub.setClient, Seen.next, same]
    · simp [Hub.seen, Hub.setClient, Seen.next, same]
    · rw [mem_enqueue]
      simp [same]

theorem follows_takeRegister (orderly : h.Orderly) (alive : h.crashed = false) :
    Follows h (h.advance .takeRegister) .takeRegister := by
  unfold advance
  dsimp only
  split
  case h_2 other =>
    apply (Quiet.refl h).follows orderly
    intro id
    rw [lot, if_neg (by simp [alive])]
    apply if_neg
    rintro ⟨up, first⟩
    obtain ⟨rest, queue⟩ := List.head?_eq_some_iff.1 first
    exact other id rest up queue
  case h_1 first rest up queue =>
  have nodup := orderly.register
  rw [queue, List.nodup_cons] at nodup
  refine ⟨nodup.2, orderly.unregister, fun id => ?_⟩
  by_cases same : id = first
  · subst same
    have lot_eq : h.lot id .takeRegister = .registered := by simp [lot, alive, up, queue]
    rw [lot_eq]
    refine Seen.ext rfl rfl rfl ?_ rfl ?_ rfl
    · simpa [Hub.seen, Seen.next] using nodup.1
    · simp [Hub.seen, Seen.next]
  · have lot_eq : h.lot id .takeRegister = .none := by simp [lot, queue, Ne.symm same]
    rw [lot_eq]
    refine Seen.ext rfl rfl rfl (decide_eq_decide.2 ?_) rfl (decide_eq_decide.2 ?_) rfl
    · simp [queue, same]
    · simp [same]

theorem follows_takeUnregister (orderly : h.Orderly) (alive : h.crashed = false) :
    Follows h (h.advance .takeUnregister) .takeUnregister := by
  unfold advance
  dsimp only
  split
  case h_2 other =>
    apply (Quiet.refl h).follows orderly
    intro id
    rw [lot, if_neg (by simp [alive])]
    apply if_neg
    rintro ⟨up, first⟩
    obtain ⟨rest, queue⟩ := List.head?_eq_some_iff.1 first
    exact other id rest up queue
  case h_1 first rest up queue =>
  have nodup := orderly.unregister
  rw [queue, List.nodup_cons] at nodup
  have lot_self : h.lot first .takeUnregister = .removal := by simp [lot, alive, up, queue]
  have lot_other {id : Nat} (other : id ≠ first) : h.lot id .takeUnregister = .none := by
    simp [lot, queue, Ne.symm other]
  split_ifs with mem
  · obtain ⟨c, found⟩ := orderly.exists_client mem
    have closes : h.close first = h.setClient first { c with closed := true } := by
      simp [Hub.close, found]
    rw [closes]
    refine ⟨orderly.register, nodup.2, fun id => ?_⟩
    by_cases same : id = first
    · subst same
      rw [lot_self]
      refine Seen.ext ?_ ?_ ?_ rfl ?_ ?_ rfl
      · simp [Hub.seen, Hub.setClient, Seen.next, found]
      · simp [Hub.seen, Hub.setClient, Seen.next, found]
      · simp [Hub.seen, Hub.setClient, Seen.next, mem]
      · simpa [Hub.seen, Seen.next] using nodup.1
      · simp [Hub.seen, Seen.next]
    · rw [lot_other same]
      refine Seen.ext ?_ ?_ ?_ rfl (decide_eq_decide.2 ?_) (decide_eq_decide.2 ?_) rfl
      · simp [Hub.seen, Hub.setClient, Seen.next, same]
      · simp [Hub.seen, Hub.setClient, Seen.next, same]
      · simp [Hub.seen, Hub.setClient, Seen.next, same]
      · simp [queue, same]
      · simp [same]
  · refine ⟨orderly.register, nodup.2, fun id => ?_⟩
    by_cases same : id = first
    · subst same
      rw [lot_self]
      refine Seen.ext rfl rfl ?_ rfl ?_ ?_ rfl
      · simp [Hub.seen, Seen.next, mem]
      · simpa [Hub.seen, Seen.next] using nodup.1
      · simpa [Hub.seen, Seen.next] using mem
    · rw [lot_other same]
      refine Seen.ext rfl rfl rfl rfl (decide_eq_decide.2 ?_) rfl rfl
      simp [queue, same]

theorem follows_shutDown (orderly : h.Orderly) (alive : h.crashed = false) :
    Follows h (h.advance .shutDown) .shutDown := by
  unfold advance
  dsimp only
  split_ifs with stops
  swap
  · apply (Quiet.refl h).follows orderly
    intro id
    rw [lot, if_neg (by simp [alive])]
    exact if_neg stops
  refine ⟨orderly.register, orderly.unregister, fun id => ?_⟩
  have lot_eq : h.lot id .shutDown = .shutDown := by
    rw [lot, if_neg (by simp [alive])]
    exact if_pos stops
  rw [lot_eq]
  by_cases mem : id ∈ h.clients
  · obtain ⟨c, found⟩ := orderly.exists_client mem
    refine Seen.ext ?_ ?_ ?_ rfl rfl ?_ rfl <;> simp [Hub.seen, Seen.next, mem, found]
  · refine Seen.ext ?_ ?_ ?_ rfl rfl ?_ rfl <;> simp [Hub.seen, Seen.next, mem]

theorem follows_advance (orderly : h.Orderly) (alive : h.crashed = false) (e : HubStep) :
    Follows h (h.advance e) e := by
  have quiet {h' : Hub} (same : Quiet h h') (none : ∀ id, h.lot id e = .none) :
      Follows h h' e := same.follows orderly none
  cases e with
  | connect id userId pt => exact follows_connect orderly alive id userId pt
  | hangUp id => exact follows_hangUp orderly alive id
  | takeRegister => exact follows_takeRegister orderly alive
  | takeUnregister => exact follows_takeUnregister orderly alive
  | shutDown => exact follows_shutDown orderly alive
  | receive id message =>
      refine quiet ?_ fun _ => ite_self _
      unfold advance
      dsimp only
      cases found : h.connections id with
      | none => exact .refl h
      | some c =>
          dsimp only
          split_ifs
          · exact .receive found message
          · exact .refl h
  | write id =>
      refine quiet ?_ fun _ => ite_self _
      unfold advance
      dsimp only
      cases found : h.connections id with
      | none => exact .refl h
      | some c => exact .setClient found rfl rfl
  | stop => exact quiet ⟨rfl, rfl, fun _ => rfl⟩ fun _ => ite_self _
  | push r a n =>
      refine quiet ?_ fun _ => ite_self _
      unfold advance
      dsimp only
      split
      · exact .broadcastToChannel h ..
      · exact .refl h
  | relay redisCh payload => exact quiet (.relay h redisCh payload) fun _ => ite_self _

theorem lot_enabled (h : Hub) (id : Nat) (e : HubStep) :
    (h.seen id).Enabled (h.lot id e) := by
  unfold lot
  by_cases crashed : h.crashed = true
  · rw [if_pos crashed]
    trivial
  rw [if_neg crashed]
  cases e with
  | receive | write | stop | push | relay => trivial
  | connect id' userId pt =>
      dsimp only
      split_ifs with is
      · exact is.2
      · trivial
  | hangUp id' =>
      dsimp only
      split_ifs with is
      · exact is.2
      · trivial
  | takeRegister =>
      dsimp only
      split_ifs with is
      · exact ⟨decide_eq_true (List.mem_of_head? is.2), is.1⟩
      · trivial
  | takeUnregister =>
      dsimp only
      split_ifs with is
      · exact ⟨decide_eq_true (List.mem_of_head? is.2), is.1⟩
      · trivial
  | shutDown =>
      dsimp only
      split_ifs with is
      · simp only [Bool.and_eq_true, Bool.not_eq_true'] at is
        exact is.2
      · trivial

/-- What a step of the hub is to a client is a step of that client. -/
theorem next_follows (orderly : h.Orderly) (e : HubStep) : Follows h (h.next e) e := by
  unfold next
  split_ifs with crashed
  · exact (Quiet.refl h).follows orderly fun id => by simp [lot, crashed]
  · exact follows_advance orderly (by simpa using crashed) e

theorem Orderly.next (orderly : h.Orderly) (e : HubStep) : (h.next e).Orderly where
  register := (next_follows orderly e).register
  unregister := (next_follows orderly e).unregister
  seen id := by
    rw [(next_follows orderly e).seen id]
    exact (orderly.seen id).next (lot_enabled h id e)

theorem newHub_orderly : newHub.Orderly where
  register := List.nodup_nil
  unregister := List.nodup_nil
  seen id := by constructor <;> simp [Hub.seen, newHub]

/-! ## When a closed connection is forgotten -/

/-- Both queues have been drained. -/
def Drained (h : Hub) : Prop := h.register = [] ∧ h.unregister = []

/-- The client's `readPump` has returned. -/
def HungUp (h : Hub) (id : Nat) : Prop := ∃ c, h.connections id = some c ∧ c.reading = false

def Forgotten (h : Hub) (id : Nat) : Prop :=
  id ∉ h.clients ∧ ∃ c, h.connections id = some c ∧ c.closed = true

/-- `Register` of the client finds room in its queue. -/
def RegisterRoom (id : Nat) (h : Hub) : HubStep → Prop
  | .connect id' _ _ => h.crashed = false → id' = id → h.connections id = none →
      h.register.length < hubQueueSize
  | _ => True

/-- `Unregister` of the client finds room in its queue, and the run loop takes the removal when the
client is in the map. -/
def RemovalInTurn (id : Nat) (h : Hub) : HubStep → Prop
  | .hangUp id' => h.crashed = false → id' = id →
      (∃ c, h.connections id = some c ∧ c.reading = true) → h.unregister.length < hubQueueSize
  | .takeUnregister => h.crashed = false → h.down = false → h.unregister.head? = some id →
      id ∈ h.clients
  | _ => True

theorem registerRoom_iff {id : Nat} {e : HubStep} : RegisterRoom id h e ↔ (h.lot id e).Admits := by
  unfold lot Lot.Admits
  by_cases crashed : h.crashed = true
  · cases e <;> simp [RegisterRoom, crashed]
  rw [if_neg crashed]
  cases e with
  | receive | write | stop | push | relay => simp [RegisterRoom]
  | hangUp | takeRegister | takeUnregister | shutDown =>
      dsimp only
      split_ifs <;> simp [RegisterRoom]
  | connect id' userId pt =>
      dsimp only
      split_ifs with is
      · simp_all [RegisterRoom]
      · simp only [RegisterRoom, ne_eq, reduceCtorEq, not_false_eq_true, iff_true]
        exact fun _ same absent => absurd ⟨same, by simp [absent]⟩ is

theorem removalInTurn_iff {id : Nat} {e : HubStep} :
    RemovalInTurn id h e ↔ (h.lot id e).Removes (h.seen id) := by
  unfold lot Lot.Removes
  by_cases crashed : h.crashed = true
  · cases e <;> simp [RemovalInTurn, crashed]
  rw [if_neg crashed]
  cases e with
  | receive | write | stop | push | relay => simp [RemovalInTurn]
  | connect | takeRegister | shutDown =>
      dsimp only
      split_ifs <;> simp [RemovalInTurn]
  | hangUp id' =>
      dsimp only
      split_ifs with is
      · obtain ⟨same, reads⟩ := is
        obtain ⟨c, found, reading⟩ := (Option.any_eq_true ..).1 reads
        simp_all [RemovalInTurn]
      · simp only [RemovalInTurn, ne_eq, reduceCtorEq, not_false_eq_true, true_and, iff_true,
          false_implies]
        rintro _ same ⟨c, found, reading⟩
        exact absurd ⟨same, by simp [found, reading]⟩ is
  | takeUnregister =>
      dsimp only
      split_ifs with is
      · simp_all [RemovalInTurn, Hub.seen]
      · simp only [RemovalInTurn, ne_eq, reduceCtorEq, not_false_eq_true, true_and, iff_true,
          false_implies]
        exact fun _ up first => absurd ⟨up, first⟩ is

theorem next_admitted_iff (orderly : h.Orderly) (id : Nat) (e : HubStep) :
    ((h.next e).seen id).Admitted ↔ (h.seen id).Admitted ∧ RegisterRoom id h e := by
  rw [(next_follows orderly e).seen id, registerRoom_iff]
  exact Seen.Admitted.next (orderly.seen id) (lot_enabled h id e)

/-- A client is admitted at the end of a run exactly when its registration found room. -/
theorem exec_admitted_iff (orderly : h.Orderly) (id : Nat) (es : List HubStep) :
    ((Transition.exec next h es).seen id).Admitted ↔
      (h.seen id).Admitted ∧ Transition.Along (RegisterRoom id) next h es := by
  induction es generalizing h with
  | nil => exact (and_iff_left trivial).symm
  | cons e es ih =>
      rw [Transition.exec_cons, ih (orderly.next e), next_admitted_iff orderly, and_assoc]
      rfl

/-- At the end of a run a client is leaving when its removal came in turn, else stranded. -/
theorem exec_leaving_or_stranded (id : Nat) (es : List HubStep) :
    let h := Transition.exec next newHub es
    (Transition.Along (RemovalInTurn id) next newHub es ∧ h.Orderly ∧ (h.seen id).Leaving) ∨
      (¬Transition.Along (RemovalInTurn id) next newHub es ∧ h.Orderly ∧ (h.seen id).Stranded) := by
  refine Transition.exec_good_or_bad (Q := RemovalInTurn id)
    (G := fun h => h.Orderly ∧ (h.seen id).Leaving)
    (B := fun h => h.Orderly ∧ (h.seen id).Stranded) ?_ ?_ ?_ ?_ es
  · rintro h e ⟨orderly, leaving⟩ inTurn
    refine ⟨orderly.next e, ?_⟩
    rw [(next_follows orderly e).seen id]
    exact leaving.next (removalInTurn_iff.1 inTurn)
  · rintro h e ⟨orderly, -⟩ lost
    refine ⟨orderly.next e, ?_⟩
    rw [(next_follows orderly e).seen id]
    exact (orderly.seen id).strand (lot_enabled h id e) fun removes =>
      lost (removalInTurn_iff.2 removes)
  · rintro h e ⟨orderly, stranded⟩
    refine ⟨orderly.next e, ?_⟩
    rw [(next_follows orderly e).seen id]
    exact stranded.next (orderly.seen id) (lot_enabled h id e)
  · exact ⟨newHub_orderly, fun made => by simp [Hub.seen, newHub] at made⟩

theorem forgotten_seen_iff {id : Nat} :
    h.Forgotten id ↔ (h.seen id).member = false ∧ (h.seen id).closed = true := by
  simp [Forgotten, Hub.seen, Option.any_eq_true]

/-- A connection that is gone is forgotten once the queues are drained exactly when its registration
found room and its removal found room and came in its turn, or the hub has been shut down since. -/
theorem forgotten_iff (es : List HubStep) (id : Nat)
    (hungUp : (Transition.exec next newHub es).HungUp id)
    (drained : (Transition.exec next newHub es).Drained) :
    (Transition.exec next newHub es).Forgotten id ↔
      Transition.Along (RegisterRoom id) next newHub es ∧
        ((Transition.exec next newHub es).down = true ∨
          Transition.Along (RemovalInTurn id) next newHub es) := by
  have admitted := exec_admitted_iff newHub_orderly id es
  have start : (newHub.seen id).Admitted := fun made => by simp [Hub.seen, newHub] at made
  rw [and_iff_right start] at admitted
  rw [forgotten_seen_iff, ← admitted]
  have removal := exec_leaving_or_stranded id es
  dsimp only at removal
  generalize Transition.exec next newHub es = h at *
  obtain ⟨c, found, stopped⟩ := hungUp
  have made : (h.seen id).made = true := by simp [Hub.seen, found]
  have notReading : (h.seen id).reading = false := by simp [Hub.seen, found, stopped]
  have notRegistering : (h.seen id).registering = false := by simp [Hub.seen, drained.1]
  have notRemoving : (h.seen id).removing = false := by simp [Hub.seen, drained.2]
  constructor
  · rintro ⟨-, closed⟩
    refine ⟨fun _ => .inr (.inr closed), ?_⟩
    rcases removal with ⟨inTurn, -⟩ | ⟨-, -, stranded⟩
    · exact .inr inTurn
    · exact .inl (stranded.closed closed)
  · rintro ⟨admitted, finished⟩
    have orderly : h.Orderly := removal.elim (·.2.1) (·.2.1)
    have valid := orderly.seen id
    have entered := (admitted made).resolve_left (by simp [notRegistering])
    rcases finished with down | inTurn
    · have gone := valid.down down
      exact ⟨gone, entered.resolve_left (by simp [gone])⟩
    · rcases removal with ⟨-, -, leaving⟩ | ⟨lost, -⟩
      · have closed := ((leaving made).resolve_left (by simp [notReading])).resolve_left
          (by simp [notRemoving])
        refine ⟨?_, closed⟩
        by_contra member
        have still := valid.member (by simpa using member)
        exact absurd (closed.symm.trans still) (by decide)
      · exact absurd inTurn lost

/-- A connection that comes and goes, with both steps taken in turn. -/
def visit : List HubStep := [.connect 0 7 none, .takeRegister, .hangUp 0, .takeUnregister]

theorem visit_forgotten : (Transition.exec next newHub visit).Forgotten 0 := by
  have hungUp : (Transition.exec next newHub visit).HungUp 0 := ⟨_, rfl, rfl⟩
  have registered : Transition.Along (RegisterRoom 0) next newHub visit :=
    ⟨fun _ _ _ => by decide, trivial, trivial, trivial, trivial⟩
  have removed : Transition.Along (RemovalInTurn 0) next newHub visit :=
    ⟨trivial, trivial, fun _ _ _ => by decide, fun _ _ _ => by decide, trivial⟩
  exact (forgotten_iff visit 0 hungUp ⟨rfl, rfl⟩).2 ⟨registered, .inr removed⟩

/-- The run loop takes the removal first. -/
def removedFirst : List HubStep := [.connect 0 7 none, .hangUp 0, .takeUnregister, .takeRegister]

/-- The client stays in the map, and its send channel open. -/
theorem removedFirst_remembered :
    let h := Transition.exec next newHub removedFirst
    h.HungUp 0 ∧ h.Drained ∧ 0 ∈ h.clients ∧ ¬h.Forgotten 0 := by
  refine ⟨⟨_, rfl, rfl⟩, ⟨rfl, rfl⟩, by decide, fun forgotten => ?_⟩
  exact forgotten.1 (by decide)

end Hub

end K8sPlatform.Websocket
