import Mathlib.Data.List.Count
import K8sPlatform.Frontend.Session

/-! # The requests of a page: each is in one place, and sent twice at most -/

namespace K8sPlatform.Frontend

open Transition

variable {User : Type}

def Message.sends (n : Nat) : Message → Bool
  | .request c => c.id = n
  | .refresh _ => false

/-- How often a request was sent by now. -/
def Config.sent (c : Config) : Nat := if c.retried then 2 else 1

def countIn (n : Nat) (cs : List Config) : Nat := cs.countP (·.id = n)

@[simp] theorem countIn_nil (n : Nat) : countIn n [] = 0 := rfl

theorem countIn_cons (n : Nat) (c : Config) (cs : List Config) :
    countIn n (c :: cs) = countIn n cs + if c.id = n then 1 else 0 := by
  simp [countIn, List.countP_cons]

theorem countIn_append (n : Nat) (cs ds : List Config) :
    countIn n (cs ++ ds) = countIn n cs + countIn n ds := List.countP_append

theorem countIn_filter (n m : Nat) (cs : List Config) :
    countIn n (cs.filter (·.id ≠ m)) = if n = m then 0 else countIn n cs := by
  by_cases same : n = m
  · simp +contextual [countIn, same, List.countP_eq_zero]
  · rw [if_neg same, countIn, countIn, List.countP_filter]
    apply List.countP_congr
    intro c _
    simp only [decide_eq_true_eq, Bool.and_eq_true, ne_eq]
    constructor
    · exact And.left
    · intro named
      exact ⟨named, fun other => same (named.symm.trans other)⟩

theorem countIn_pos {n : Nat} {cs : List Config} :
    0 < countIn n cs ↔ ∃ c ∈ cs, c.id = n := by
  simp [countIn, List.countP_pos_iff]

namespace SessionPage

/-- How often the request of a number was sent. -/
def sends (p : SessionPage User) (n : Nat) : Nat := p.wire.countP (Message.sends n)

/-- In how many places a request is: on its way, waiting for a refresh, or with its promise
settled. -/
def places (p : SessionPage User) (n : Nat) : Nat :=
  countIn n p.pending + countIn n p.waiting + p.settled.countP (·.1 = n)

/-- What holds between the steps of an event, with some requests taken out of the page. -/
structure Orderly (held : List Config) (p : SessionPage User) : Prop where
  found : ∀ n, n < p.nextId → p.places n + countIn n held = 1
  sent : ∀ c ∈ p.pending ++ p.waiting ++ held, p.sends c.id = c.sent
  first : ∀ c ∈ p.waiting, c.retried = false
  most : ∀ n, p.sends n ≤ 2
  absent : ∀ n, p.nextId ≤ n → p.places n + countIn n held = 0
  unsent : ∀ n, p.nextId ≤ n → p.sends n = 0

namespace Orderly

variable {held : List Config} {p q : SessionPage User} {c : Config}

/-- The slice and the storage have no say. -/
theorem of_same (h : Orderly held p) (pending : q.pending = p.pending)
    (flight : q.refreshInFlight = p.refreshInFlight) (settled : q.settled = p.settled)
    (ids : q.nextId = p.nextId) (wire : q.wire = p.wire) : Orderly held q := by
  have waiting : q.waiting = p.waiting := by rw [SessionPage.waiting, flight, SessionPage.waiting]
  have sends (n : Nat) : q.sends n = p.sends n := by rw [SessionPage.sends, wire, SessionPage.sends]
  have places (n : Nat) : q.places n = p.places n := by
    rw [SessionPage.places, pending, waiting, settled, SessionPage.places]
  constructor
  · intro n known
    rw [places]
    exact h.found n (ids ▸ known)
  · intro c mem
    rw [sends]
    exact h.sent c (by rwa [pending, waiting] at mem)
  · rw [waiting]
    exact h.first
  · intro n
    rw [sends]
    exact h.most n
  · intro n unknown
    rw [places]
    exact h.absent n (ids ▸ unknown)
  · intro n unknown
    rw [sends]
    exact h.unsent n (ids ▸ unknown)

theorem dispatch (h : Orderly held p) (a : UserAction User) : Orderly held (p.dispatch a) :=
  h.of_same rfl rfl rfl rfl rfl

theorem handleError (h : Orderly held p) (url : String) (status : Option Nat) :
    Orderly held (p.handleError url status) := by
  unfold SessionPage.handleError
  split_ifs
  · exact h
  · exact h.of_same rfl rfl rfl rfl rfl
  · exact h

theorem places_settle (p : SessionPage User) (id : Nat) (s : Settlement) (n : Nat) :
    (p.settle id s).places n = p.places n + if id = n then 1 else 0 := by
  simp only [places, SessionPage.settle, waiting, List.countP_append, List.countP_singleton,
    decide_eq_true_eq]
  omega

theorem settle (h : Orderly (c :: held) p) (s : Settlement) :
    Orderly held (p.settle c.id s) := by
  constructor
  · intro n known
    have before := h.found n known
    rw [countIn_cons] at before
    rw [places_settle]
    omega
  · intro d mem
    apply h.sent d
    rw [List.mem_append] at mem ⊢
    exact mem.imp_right (List.mem_cons_of_mem c)
  · exact h.first
  · exact h.most
  · intro n unknown
    have before := h.absent n unknown
    rw [countIn_cons] at before
    rw [places_settle]
    omega
  · exact h.unsent

theorem reject (h : Orderly (c :: held) p) (status : Option Nat) :
    Orderly held (p.reject c status) :=
  (h.handleError c.url status).settle .rejected

/-- What is held is in no other place, and its number has been used. -/
theorem alone (h : Orderly (c :: held) p) :
    c.id < p.nextId ∧ p.places c.id = 0 ∧ countIn c.id held = 0 := by
  have here : countIn c.id (c :: held) = countIn c.id held + 1 := by simp [countIn_cons]
  have used : c.id < p.nextId := by
    by_contra unused
    have before := h.absent c.id (Nat.le_of_not_lt unused)
    omega
  have before := h.found c.id used
  exact ⟨used, by omega, by omega⟩

theorem places_request (p : SessionPage User) (d : Config) (n : Nat) :
    (p.request d).places n = p.places n + if d.id = n then 1 else 0 := by
  simp only [places, SessionPage.request, waiting, countIn_append, countIn_cons, countIn_nil,
    LocalStorage.intercept_id]
  omega

theorem sends_request (p : SessionPage User) (d : Config) (n : Nat) :
    (p.request d).sends n = p.sends n + if d.id = n then 1 else 0 := by
  simp [sends, SessionPage.request, Message.sends, List.countP_append, List.countP_singleton]

theorem mem_request {p : SessionPage User} {d e : Config} {held : List Config}
    (mem : e ∈ (p.request d).pending ++ (p.request d).waiting ++ held) :
    e = p.storage.intercept d ∨ e ∈ p.pending ++ p.waiting ++ held := by
  simp only [SessionPage.request, waiting, List.mem_append, List.mem_singleton] at mem ⊢
  tauto

/-- One more sending of a request that the page holds. -/
theorem request (h : Orderly (c :: held) p) {d : Config} (same : d.id = c.id)
    (sent : d.sent = c.sent + 1) : Orderly held (p.request d) := by
  obtain ⟨used, nowhere, notHeld⟩ := h.alone
  have before : p.sends c.id = c.sent := h.sent c (by simp)
  have room : d.sent ≤ 2 := by
    unfold Config.sent
    split_ifs <;> omega
  constructor
  · intro n known
    have found := h.found n known
    rw [countIn_cons] at found
    rw [places_request, same]
    omega
  · intro e mem
    rw [sends_request, same]
    obtain eq | earlier := mem_request mem
    · have written : e.sent = d.sent := by simp [eq, Config.sent]
      rw [written, eq, LocalStorage.intercept_id, same, if_pos rfl, before, sent]
    · have other : c.id ≠ e.id := by
        intro eq
        have somewhere : 0 < countIn c.id (p.pending ++ p.waiting ++ held) :=
          countIn_pos.2 ⟨e, earlier, eq.symm⟩
        rw [countIn_append, countIn_append] at somewhere
        simp only [places] at nowhere
        omega
      rw [if_neg other, Nat.add_zero]
      apply h.sent e
      rw [List.mem_append] at earlier ⊢
      exact earlier.imp_right (List.mem_cons_of_mem c)
  · exact h.first
  · intro n
    rw [sends_request, same]
    by_cases eq : c.id = n
    · rw [if_pos eq, ← eq, before]
      omega
    · rw [if_neg eq]
      exact h.most n
  · intro n unknown
    have absent := h.absent n unknown
    rw [countIn_cons] at absent
    rw [places_request, same]
    omega
  · intro n unknown
    have other : c.id ≠ n := Nat.ne_of_lt (Nat.lt_of_lt_of_le used unknown)
    rw [sends_request, same, if_neg other]
    exact h.unsent n unknown

/-- The first sending of a request. -/
theorem send (h : Orderly [] p) (url : String) : Orderly [] (p.next (.send url)) := by
  have nowhere := h.absent p.nextId (Nat.le_refl _)
  have never := h.unsent p.nextId (Nat.le_refl _)
  have places (n : Nat) :
      (p.next (.send url)).places n = p.places n + if p.nextId = n then 1 else 0 :=
    places_request _ _ n
  have sends (n : Nat) :
      (p.next (.send url)).sends n = p.sends n + if p.nextId = n then 1 else 0 :=
    sends_request _ _ n
  have ids : (p.next (.send url)).nextId = p.nextId + 1 := rfl
  constructor
  · intro n known
    rw [places]
    by_cases eq : p.nextId = n
    · rw [if_pos eq, ← eq]
      omega
    · rw [if_neg eq]
      exact h.found n (by omega)
  · intro e mem
    rw [sends]
    obtain eq | earlier := mem_request mem
    · rw [eq, LocalStorage.intercept_id, if_pos rfl, never]
      simp [Config.sent]
    · have used : e.id ≠ p.nextId := by
        intro eq
        have somewhere : 0 < countIn p.nextId (p.pending ++ p.waiting ++ []) :=
          countIn_pos.2 ⟨e, earlier, eq⟩
        rw [countIn_append, countIn_append] at somewhere
        simp only [SessionPage.places] at nowhere
        omega
      rw [if_neg (Ne.symm used)]
      exact h.sent e earlier
  · exact h.first
  · intro n
    rw [sends]
    by_cases eq : p.nextId = n
    · rw [if_pos eq, ← eq, never]
      omega
    · rw [if_neg eq]
      exact h.most n
  · intro n unknown
    have fresh : p.nextId ≠ n := by omega
    rw [places, if_neg fresh]
    exact h.absent n (by omega)
  · intro n unknown
    have fresh : p.nextId ≠ n := by omega
    rw [sends, if_neg fresh]
    exact h.unsent n (by omega)

theorem retry (h : Orderly (c :: held) p) (first : c.retried = false) (access : String) :
    Orderly held (p.retry access c) :=
  h.request (d := { c with retried := true, authorization := some ("Bearer " ++ access) }) rfl
    (by simp [Config.sent, first])

/-- A held request joins those that wait for a refresh. -/
theorem park (h : Orderly (c :: held) p) (first : c.retried = false)
    (pending : q.pending = p.pending) (waiting : q.waiting = p.waiting ++ [c])
    (settled : q.settled = p.settled) (ids : q.nextId = p.nextId)
    (sends : ∀ n, q.sends n = p.sends n) : Orderly held q := by
  have places (n : Nat) : q.places n = p.places n + if c.id = n then 1 else 0 := by
    simp only [SessionPage.places, pending, waiting, settled, countIn_append, countIn_cons,
      countIn_nil]
    omega
  constructor
  · intro n known
    have found := h.found n (ids ▸ known)
    rw [countIn_cons] at found
    rw [places]
    omega
  · intro e mem
    rw [sends]
    apply h.sent e
    rw [pending, waiting] at mem
    simp only [List.mem_append, List.mem_cons] at mem ⊢
    tauto
  · intro e mem
    rw [waiting, List.mem_append, List.mem_singleton] at mem
    obtain earlier | eq := mem
    · exact h.first e earlier
    · rw [eq, first]
  · intro n
    rw [sends]
    exact h.most n
  · intro n unknown
    have absent := h.absent n (ids ▸ unknown)
    rw [countIn_cons] at absent
    rw [places]
    omega
  · intro n unknown
    rw [sends]
    exact h.unsent n (ids ▸ unknown)

theorem await (h : Orderly (c :: held) p) (first : c.retried = false) :
    Orderly held (p.awaitRefresh c) := by
  unfold awaitRefresh
  cases flight : p.refreshInFlight with
  | some r =>
      have joined : ({ p with
          refreshInFlight := some { r with waiting := r.waiting ++ [c] } } :
            SessionPage User).waiting = p.waiting ++ [c] := by
        simp [waiting, flight]
      exact h.park first rfl joined rfl rfl fun _ => rfl
  | none =>
      cases stored : readStoredToken p.storage.refreshToken with
      | none => exact h.reject (some 401)
      | some rt =>
          let q : SessionPage User :=
            { p with refreshInFlight := some ⟨rt, [c]⟩, wire := p.wire ++ [.refresh rt] }
          have joined : q.waiting = p.waiting ++ [c] := by simp [q, waiting, flight]
          have posted (n : Nat) : q.sends n = p.sends n := by
            simp [q, SessionPage.sends, Message.sends]
          exact h.park (q := q) first rfl joined rfl rfl posted

/-- The end of a refresh takes the requests that wait for it out of the page. -/
theorem landed (h : Orderly [] p) {r : Refresh} (flight : p.refreshInFlight = some r) :
    Orderly r.waiting { p with refreshInFlight := none } := by
  have waiting : p.waiting = r.waiting := by simp [SessionPage.waiting, flight]
  have places (n : Nat) :
      ({ p with refreshInFlight := none } : SessionPage User).places n + countIn n r.waiting =
        p.places n := by
    simp only [SessionPage.places, waiting]
    simp only [SessionPage.waiting, Option.map_none, Option.getD_none, countIn_nil]
    omega
  constructor
  · intro n known
    rw [places]
    exact h.found n known
  · intro e mem
    apply h.sent e
    rw [waiting]
    simpa [SessionPage.waiting] using mem
  · intro e mem
    simp [SessionPage.waiting] at mem
  · exact h.most
  · intro n unknown
    rw [places]
    exact h.absent n unknown
  · exact h.unsent

/-- The held requests, each given back by `f`. -/
theorem foldl {f : SessionPage User → Config → SessionPage User} {P : Config → Prop}
    (gives : ∀ {c held p}, P c → Orderly (c :: held) p → Orderly held (f p c))
    {held : List Config} {p : SessionPage User} (all : ∀ c ∈ held, P c) (h : Orderly held p) :
    Orderly [] (held.foldl f p) := by
  induction held generalizing p with
  | nil => exact h
  | cons c held ih =>
      apply ih (fun d mem => all d (List.mem_cons_of_mem c mem))
      exact gives (all c List.mem_cons_self) h

theorem adopt (h : Orderly held p) (access : String) (refresh : Option String) :
    Orderly held (p.adopt access refresh) := by
  unfold SessionPage.adopt
  dsimp only
  split_ifs <;> exact h.of_same rfl rfl rfl rfl rfl

theorem refreshed (h : Orderly [] p) (answer : RefreshAnswer) :
    Orderly [] (p.refreshed answer) := by
  unfold SessionPage.refreshed
  cases flight : p.refreshInFlight with
  | none => exact h
  | some r =>
      have held : Orderly r.waiting { p with refreshInFlight := none } := h.landed flight
      have refused : Orderly [] (r.waiting.foldl refuse { p with refreshInFlight := none }) :=
        held.foldl (P := fun _ => True) (fun _ given => given.reject (some 401))
          (fun _ _ => trivial)
      have firsts : ∀ c ∈ r.waiting, c.retried = false := by
        intro c mem
        apply h.first c
        simpa [waiting, flight] using mem
      match answer with
      | .failed => exact refused
      | .body none _ => exact refused
      | .body (some access) refresh =>
          dsimp only
          split_ifs
          · exact refused
          · exact (held.adopt access refresh).foldl (fun first given => given.retry first access)
              firsts

/-- An answer takes its request out of the page. -/
theorem taken (h : Orderly [] p) {id : Nat} (found : p.pending.find? (·.id = id) = some c) :
    Orderly [c] { p with pending := p.pending.filter (·.id ≠ id) } := by
  have named : c.id = id := by simpa using List.find?_some found
  have mem : c ∈ p.pending := List.mem_of_find?_eq_some found
  have here : 0 < countIn id p.pending := countIn_pos.2 ⟨c, mem, named⟩
  have once : p.places id = 1 := by
    by_cases known : id < p.nextId
    · exact h.found id known
    · have absent := h.absent id (Nat.le_of_not_lt known)
      simp only [places, countIn_nil] at absent
      omega
  have places (n : Nat) :
      ({ p with pending := p.pending.filter (·.id ≠ id) } : SessionPage User).places n +
        countIn n [c] = p.places n := by
    simp only [SessionPage.places, waiting, countIn_filter, countIn_cons, countIn_nil, named]
      at once ⊢
    by_cases eq : n = id
    · subst eq
      simp only [if_true]
      omega
    · rw [if_neg eq, if_neg (Ne.symm eq)]
      omega
  constructor
  · intro n known
    rw [places]
    exact h.found n known
  · intro e inside
    apply h.sent e
    simp only [List.mem_append, List.mem_filter, List.mem_singleton, waiting] at inside ⊢
    obtain (⟨kept, -⟩ | waits) | eq := inside
    · exact .inl (.inl kept)
    · exact .inl (.inr waits)
    · exact .inl (.inl (eq ▸ mem))
  · exact h.first
  · exact h.most
  · intro n unknown
    rw [places]
    exact h.absent n unknown
  · exact h.unsent

theorem answered (h : Orderly [] p) (id : Nat) (status : Option Nat) :
    Orderly [] (p.answered id status) := by
  unfold SessionPage.answered
  cases found : p.pending.find? (·.id = id) with
  | none => exact h
  | some c =>
      have held := h.taken found
      have named : c.id = id := by simpa using List.find?_some found
      dsimp only
      split_ifs with done refused
      · exact named ▸ held.settle .resolved
      · exact held.await refused.2.1
      · exact held.reject status

theorem load (h : Orderly [] p) : Orderly [] p.load := by
  have places (n : Nat) : p.load.places n = p.places n := by
    have forgotten : ((p.pending ++ p.waiting).map fun c => (c.id, Settlement.forgotten)).countP
        (·.1 = n) = countIn n p.pending + countIn n p.waiting := by
      rw [List.countP_map, ← countIn_append]
      rfl
    simp only [SessionPage.places, SessionPage.load, List.countP_append, forgotten]
    simp only [waiting, Option.map_none, Option.getD_none, countIn_nil]
    omega
  constructor
  · intro n known
    rw [places]
    exact h.found n known
  · intro e mem
    simp [SessionPage.load, waiting] at mem
  · intro e mem
    simp [SessionPage.load, waiting] at mem
  · exact h.most
  · intro n unknown
    rw [places]
    exact h.absent n unknown
  · exact h.unsent

theorem next (h : Orderly [] p) (e : SessionEvent User) : Orderly [] (p.next e) := by
  cases e with
  | send url => exact h.send url
  | answer id status => exact h.answered id status
  | refreshed answer => exact h.refreshed answer
  | login | profilePending | profile | profileRejected | logout => exact h.dispatch _
  | load => exact h.load

end Orderly

theorem opened_orderly (storage : LocalStorage) :
    Orderly [] (opened storage : SessionPage User) := by
  constructor
  · intro n known
    exact absurd known (Nat.not_lt_zero n)
  · intro c mem
    simp [opened, waiting] at mem
  · intro c mem
    simp [opened, waiting] at mem
  · exact fun _ => Nat.zero_le 2
  · exact fun _ _ => rfl
  · exact fun _ _ => rfl

theorem exec_orderly {p : SessionPage User} (h : Orderly [] p) (es : List (SessionEvent User)) :
    Orderly [] (exec next p es) := by
  induction es generalizing p with
  | nil => exact h
  | cons e es ih => exact ih (h.next e)

/-- After every run of the page, each request that was made is in just one place, so that none is
lost while a refresh is awaited and none is answered twice, and none was sent more than twice. -/
theorem requests_kept (storage : LocalStorage) (es : List (SessionEvent User)) (n : Nat) :
    (n < (exec next (opened storage) es).nextId → (exec next (opened storage) es).places n = 1) ∧
      (exec next (opened storage) es).sends n ≤ 2 := by
  have orderly : Orderly [] (exec next (opened storage) es) :=
    exec_orderly (opened_orderly storage) es
  constructor
  · intro made
    simpa using orderly.found n made
  · exact orderly.most n

end SessionPage

end K8sPlatform.Frontend
