import K8sPlatform.Cluster.Clients

/-! # Clients after an update or a deletion -/

namespace K8sPlatform.Clusters

open Errcode Crypto
open Kubeconfig (Ranging RestConfig)

universe u

variable {δ : Type u}

namespace Clients

/-- A manager keeps a client of a version of the row, or builds one. -/
inductive Keeps (s : Clients δ) (m : Nat) (code : String) (n : Nat) : Prop
  | cached {entry} (kept : (s.managers m).clients code = some entry) (version : entry.version = n)
  | building {i c restCfg} (called : s.calls i = some c) (manager : c.manager = m)
      (named : c.code = code) (phase : c.phase = .building restCfg n)

variable {lib : Libraries} {newForConfig : RestConfig → Except String δ} {s s' : Clients δ}
  {call : Nat} {c : Call δ} {m : Nat} {code : String} {n : Nat}

theorem calls_setPhase {phase : Phase δ} {i : Nat} {c' : Call δ}
    (called : (s.setPhase call c phase).calls i = some c') :
    (i = call ∧ c' = { c with phase }) ∨ (i ≠ call ∧ s.calls i = some c') := by
  by_cases same : i = call
  · subst same
    rw [setPhase_self] at called
    exact .inl ⟨rfl, (Option.some.inj called).symm⟩
  · rw [setPhase_of_ne same] at called
    exact .inr ⟨same, called⟩

/-- A call whose phase is not the new one has been where it is. -/
theorem calls_of_setPhase {phase : Phase δ} {i : Nat} {c' : Call δ} (P : Phase δ → Prop)
    (called : (s.setPhase call c phase).calls i = some c') (holds : P c'.phase)
    (new : ¬P phase) : s.calls i = some c' := by
  rcases calls_setPhase called with ⟨-, rfl⟩ | ⟨-, before⟩
  · exact absurd holds new
  · exact before

theorem Keeps.setPhase {phase : Phase δ} (keeps : Keeps (s.setPhase call c phase) m code n) :
    Keeps s m code n ∨ (c.code = code ∧ ∃ restCfg, phase = .building restCfg n) := by
  cases keeps with
  | cached kept version => exact .inl (.cached kept version)
  | building called manager named building =>
      rcases calls_setPhase called with ⟨-, rfl⟩ | ⟨-, before⟩
      · exact .inr ⟨named, _, building⟩
      · exact .inl (.building before manager named building)

theorem Keeps.of_setPhase {phase : Phase δ} (keeps : Keeps (s.setPhase call c phase) m code n)
    (other : ∀ restCfg, phase ≠ .building restCfg n) : Keeps s m code n := by
  rcases keeps.setPhase with before | ⟨-, restCfg, building⟩
  · exact before
  · exact absurd building (other restCfg)

theorem Keeps.setTable {t : Table} {code' : String} {version : Nat}
    (keeps : Keeps (s.setTable t code' version) m code n) : Keeps s m code n := by
  cases keeps with
  | cached kept version => exact .cached kept version
  | building called manager named building => exact .building called manager named building

@[simp] theorem setLock_calls (m : Nat) (mu : Option Nat) : (s.setLock m mu).calls = s.calls := rfl

theorem setLock_clients (m m' : Nat) (mu : Option Nat) :
    ((s.setLock m mu).managers m').clients = (s.managers m').clients := by
  by_cases same : m' = m
  · subst same
    rw [setLock, setManager_self]
  · rw [setLock, setManager_of_ne same]

theorem setClient_clients {m' : Nat} {code' : String} {entry : Option (ClientEntry δ)}
    {e : ClientEntry δ} (kept : ((s.setClient m' code' entry).managers m).clients code = some e) :
    (s.managers m).clients code = some e ∨ (m = m' ∧ code = code' ∧ entry = some e) := by
  by_cases same : m = m'
  · subst same
    rw [setClient, setManager_self] at kept
    by_cases named : code = code'
    · subst named
      exact .inr ⟨rfl, rfl, by simpa using kept⟩
    · exact .inl (by simpa [named] using kept)
  · rw [setClient, setManager_of_ne same] at kept
    exact .inl kept

theorem Keeps.setLock {m' : Nat} {mu : Option Nat} (keeps : Keeps (s.setLock m' mu) m code n) :
    Keeps s m code n := by
  cases keeps with
  | cached kept version =>
      rw [setLock_clients] at kept
      exact .cached kept version
  | building called manager named building => exact .building called manager named building

theorem Keeps.setClient {m' : Nat} {code' : String} {entry : Option (ClientEntry δ)}
    (keeps : Keeps (s.setClient m' code' entry) m code n) :
    Keeps s m code n ∨ (m = m' ∧ code = code' ∧ ∃ e, entry = some e ∧ e.version = n) := by
  cases keeps with
  | cached kept version =>
      rcases setClient_clients kept with before | ⟨manager, named, rfl⟩
      · exact .inl (.cached before version)
      · exact .inr ⟨manager, named, _, rfl, version⟩
  | building called manager named building => exact .inl (.building called manager named building)

theorem not_building_of_unwritten {phase : Phase δ} (unwritten : phase.unwritten = true)
    (restCfg : RestConfig) (n : Nat) : phase ≠ .building restCfg n := by
  rintro rfl
  cases unwritten

theorem found_of_reads {t : Table} {kms : AESGCM} {x : Ranging} {r : RestConfig × Bytes}
    (reads : decryptAndBuildConfig lib kms x t code = .ok r) : (t.find code).isSome = true := by
  unfold decryptAndBuildConfig at reads
  cases found : t.find code with
  | none => simp [found] at reads
  | some row => rfl

/-- A manager keeps what it kept before, or builds a client of the row as it is. -/
theorem Advances.keeps (advances : Advances lib newForConfig s call c s')
    (called : s.calls call = some c) (keeps : Keeps s' m code n) :
    Keeps s m code n ∨ (n = s.version code ∧ (s.table.find code).isSome = true) := by
  cases advances with
  | wait => exact .inl keeps
  | hit phase free kept => exact .inl (keeps.of_setPhase nofun)
  | miss phase => exact .inl (keeps.of_setPhase nofun)
  | lock phase free => exact .inl (keeps.setLock.of_setPhase nofun)
  | read phase reads =>
      rcases keeps.setPhase with before | ⟨rfl, restCfg, building⟩
      · exact .inl before
      · cases building
        exact .inr ⟨rfl, found_of_reads reads⟩
  | fail phase => exact .inl (keeps.setLock.of_setPhase nofun)
  | build phase builds =>
      rcases keeps.setLock.setClient with before | ⟨rfl, rfl, e, entry, rfl⟩
      · exact .inl (before.of_setPhase nofun)
      · obtain rfl := Option.some.inj entry
        exact .inl (.building called rfl rfl phase)
  | check before after =>
      exact .inl (keeps.of_setPhase fun restCfg => not_building_of_unwritten after restCfg n)
  | touch before updates => exact .inl (keeps.of_setPhase nofun).setTable
  | update before updates counts => exact .inl (keeps.of_setPhase nofun).setTable
  | delete before found => exact .inl (keeps.of_setPhase nofun).setTable
  | @invalidate version deletion phase free =>
      have kept : Keeps (s.setClient c.manager c.code none) m code n :=
        keeps.of_setPhase (by cases deletion <;> exact nofun)
      rcases kept.setClient with before | ⟨-, -, e, entry, -⟩
      · exact .inl before
      · cases entry
  | fetch phase => exact .inl (keeps.of_setPhase nofun)

theorem Advances.version (advances : Advances lib newForConfig s call c s') (code : String) :
    s.version code ≤ s'.version code := by
  have set (t : Table) {version : Nat} (grows : s.version c.code ≤ version) :
      s.version code ≤ (s.setTable t c.code version).version code := by
    show s.version code ≤ Function.update s.version c.code version code
    by_cases same : code = c.code
    · subst same
      rwa [Function.update_self]
    · rw [Function.update_of_ne same]
  cases advances with
  | @touch updates t before _ => exact set t (Nat.le_refl _)
  | @update updates t version before _ counts =>
      exact set t (counts ▸ Nat.le_add_right _ _)
  | delete before found => exact set (s.table.delete c.code) (Nat.le_succ _)
  | _ => exact Nat.le_refl _

/-- A call that has got a client got it from the cache, or has built it. -/
theorem Advances.answers (advances : Advances lib newForConfig s call c s')
    (called : s.calls call = some c) {i : Nat} {c' : Call δ} {entry : ClientEntry δ}
    (called' : s'.calls i = some c') (answered : c'.phase = .answered (.ok entry)) :
    s.calls i = some c' ∨ (i = call ∧ c' = { c with phase := .answered (.ok entry) } ∧
      (((s.managers c.manager).clients c.code = some entry ∧ (s.managers c.manager).mu = none ∧
          (c.phase = .looking ∨ c.phase = .waiting)) ∨
        ∃ restCfg, c.phase = .building restCfg entry.version)) := by
  have before {s : Clients δ} {phase : Phase δ}
      (called' : (s.setPhase call c phase).calls i = some c') :=
    calls_of_setPhase (· = .answered (.ok entry)) called' answered
  cases advances with
  | wait => exact .inl called'
  | hit phase free kept =>
      rcases calls_setPhase called' with ⟨rfl, rfl⟩ | ⟨-, before⟩
      · cases answered
        exact .inr ⟨rfl, rfl, .inl ⟨kept, free, phase⟩⟩
      · exact .inl before
  | miss phase => exact .inl (before called' nofun)
  | lock phase free =>
      rw [setLock_calls] at called'
      exact .inl (before called' nofun)
  | read phase reads => exact .inl (before called' nofun)
  | fail phase =>
      rw [setLock_calls] at called'
      exact .inl (before called' nofun)
  | build phase builds =>
      rcases calls_setPhase called' with ⟨rfl, rfl⟩ | ⟨-, before⟩
      · cases answered
        exact .inr ⟨rfl, rfl, .inr ⟨_, phase⟩⟩
      · exact .inl before
  | check unwritten after => exact .inl (before called' (by rintro rfl; cases after))
  | touch unwritten updates => exact .inl (before called' nofun)
  | update unwritten updates counts => exact .inl (before called' nofun)
  | delete unwritten found => exact .inl (before called' nofun)
  | @invalidate version deletion phase free =>
      exact .inl (before called' (by cases deletion <;> exact nofun))
  | fetch phase => exact .inl (before called' nofun)

/-- The phases that calls begin with. -/
theorem begin_cases (P : Phase δ → Prop) (looking : P .looking)
    (refused : ∀ err, P (.answered (.error err))) (admitting : ∀ i id, P (.admitting i id))
    (deleting : P .deleting) (nameless : ∀ err, P (.deleted none (.error err))) (code : String)
    (request : Request) : P (begin code request) := by
  unfold begin
  split
  · split
    · exact refused _
    · exact looking
  · exact admitting _ _
  · split
    · exact nameless _
    · exact deleting

/-- A call in a phase that no call begins with was there before. -/
theorem calls_of_begin {request : Request} {i : Nat} {c' : Call δ} (P : Phase δ → Prop)
    (called : (s.beginCall call m code request).calls i = some c') (holds : P c'.phase)
    (looking : ¬P .looking) (refused : ∀ err, ¬P (.answered (.error err)))
    (admitting : ∀ i id, ¬P (.admitting i id)) (deleting : ¬P .deleting)
    (nameless : ∀ err, ¬P (.deleted none (.error err))) : s.calls i = some c' := by
  unfold beginCall at called
  dsimp only at called
  by_cases same : i = call
  · subst same
    rw [Function.update_self] at called
    obtain rfl := Option.some.inj called
    have new := begin_cases (¬P ·) looking refused admitting deleting nameless code request
    exact absurd holds new
  · rwa [Function.update_of_ne same] at called

/-- A manager keeps what it kept before, or builds a client of the row as it is. -/
theorem Steps.keeps (steps : Steps lib newForConfig s s') (keeps : Keeps s' m code n) :
    Keeps s m code n ∨ (n = s.version code ∧ (s.table.find code).isSome = true) := by
  cases steps with
  | stay => exact .inl keeps
  | importCluster =>
      cases keeps with
      | cached kept version => exact .inl (.cached kept version)
      | building called manager named phase => exact .inl (.building called manager named phase)
  | begin idle =>
      cases keeps with
      | cached kept version => exact .inl (.cached kept version)
      | @building i c restCfg called manager named phase =>
          have before := calls_of_begin (· = .building restCfg n) called phase nofun nofun nofun
            nofun nofun
          exact .inl (.building before manager named phase)
  | advance called advances => exact advances.keeps called keeps

theorem Steps.version (steps : Steps lib newForConfig s s') (code : String) :
    s.version code ≤ s'.version code := by
  cases steps with
  | advance called advances => exact advances.version code
  | _ => exact Nat.le_refl _

theorem Steps.answers (steps : Steps lib newForConfig s s') {i : Nat} {c' : Call δ}
    {entry : ClientEntry δ} (called' : s'.calls i = some c')
    (answered : c'.phase = .answered (.ok entry)) :
    s.calls i = some c' ∨ ∃ c, s.calls i = some c ∧ c' = { c with phase := c'.phase } ∧
      Keeps s c.manager c.code entry.version := by
  cases steps with
  | stay => exact .inl called'
  | importCluster => exact .inl called'
  | begin idle =>
      exact .inl (calls_of_begin (· = .answered (.ok entry)) called' answered nofun nofun nofun
        nofun nofun)
  | @advance call c s' called advances =>
      rcases advances.answers called called' answered with
        before | ⟨rfl, rfl, ⟨kept, -, -⟩ | ⟨restCfg, building⟩⟩
      · exact .inl before
      · exact .inr ⟨c, called, rfl, .cached kept rfl⟩
      · exact .inr ⟨c, called, rfl, .building called rfl rfl building⟩

/-! ## What an invalidation leaves -/

/-- The row and what the manager keeps of it are not from before `v`. -/
def Fresh (s : Clients δ) (m : Nat) (code : String) (v : Nat) : Prop :=
  Copies.Since (s.version code) (Keeps s m code) v

theorem Fresh.step {v : Nat} (fresh : Fresh s m code v) (steps : Steps lib newForConfig s s') :
    Fresh s' m code v :=
  Copies.Since.next fresh (steps.version code) fun _ keeps =>
    (steps.keeps keeps).imp_right And.left

structure Inv (s : Clients δ) : Prop where
  locked : ∀ i c, s.calls i = some c → c.phase.locks = true →
    (s.managers c.manager).mu = some i
  written : ∀ i c v d, s.calls i = some c → c.phase = .invalidating v d → v ≤ s.version c.code
  cleared : ∀ i c v, s.calls i = some c → c.phase.cleared = some v → Fresh s c.manager c.code v

theorem Inv.start (kms : Nat → AESGCM) : (start kms : Clients δ).Inv where
  locked _ _ called := by cases called
  written _ _ _ _ called := by cases called
  cleared _ _ _ called := by cases called

theorem setLock_mu_of_ne {m other : Nat} {mu : Option Nat} (ne : other ≠ m) :
    ((s.setLock m mu).managers other).mu = (s.managers other).mu := by
  rw [setLock, setManager_of_ne ne]

theorem setClient_mu (m m' : Nat) (code : String) (entry : Option (ClientEntry δ)) :
    ((s.setClient m' code entry).managers m).mu = (s.managers m).mu := by
  by_cases same : m = m'
  · subst same
    rw [setClient, setManager_self]
  · rw [setClient, setManager_of_ne same]

/-- A call that gives up the lock leaves the others of its manager without it. -/
theorem Inv.unlock (inv : s.Inv) (called : s.calls call = some c) (locks : c.phase.locks = true)
    {i : Nat} {c' : Call δ} (ne : i ≠ call) (called' : s.calls i = some c')
    (locks' : c'.phase.locks = true) :
    c'.manager ≠ c.manager ∧ (s.managers c'.manager).mu = some i := by
  have mine := inv.locked call c called locks
  have theirs := inv.locked i c' called' locks'
  refine ⟨fun same => ?_, theirs⟩
  rw [same, mine] at theirs
  exact ne (Option.some.inj theirs).symm

theorem Inv.locked_next (inv : s.Inv) (advances : Advances lib newForConfig s call c s')
    (called : s.calls call = some c) (i : Nat) (c' : Call δ) (called' : s'.calls i = some c')
    (locks : c'.phase.locks = true) : (s'.managers c'.manager).mu = some i := by
  have before {s : Clients δ} {phase : Phase δ}
      (called' : (s.setPhase call c phase).calls i = some c') :=
    calls_of_setPhase (·.locks = true) called' locks
  cases advances with
  | wait => exact inv.locked i c' called' locks
  | hit phase free kept => exact inv.locked i c' (before called' Bool.false_ne_true) locks
  | miss phase => exact inv.locked i c' (before called' Bool.false_ne_true) locks
  | lock phase free =>
      rw [setLock_calls] at called'
      rcases calls_setPhase called' with ⟨rfl, rfl⟩ | ⟨ne, old⟩
      · rw [setLock, setManager_self]
      · have held := inv.locked i c' old locks
        have other : c'.manager ≠ c.manager := by
          intro same
          rw [same, free] at held
          cases held
        rwa [setLock_mu_of_ne other]
  | read phase reads =>
      rcases calls_setPhase called' with ⟨rfl, rfl⟩ | ⟨ne, old⟩
      · exact inv.locked i c called (by rw [phase]; rfl)
      · exact inv.locked i c' old locks
  | fail holds =>
      rw [setLock_calls] at called'
      rcases calls_setPhase called' with ⟨rfl, rfl⟩ | ⟨ne, old⟩
      · cases locks
      · obtain ⟨other, held⟩ := inv.unlock called holds ne old locks
        rwa [setLock_mu_of_ne other]
  | build phase builds =>
      rcases calls_setPhase called' with ⟨rfl, rfl⟩ | ⟨ne, old⟩
      · cases locks
      · obtain ⟨other, held⟩ := inv.unlock called (by rw [phase]; rfl) ne old locks
        rwa [setLock_mu_of_ne other, setClient_mu]
  | check unwritten after =>
      have old : s.calls i = some c' := by
        apply before called'
        rw [Phase.locks_of_unwritten after]
        exact Bool.false_ne_true
      exact inv.locked i c' old locks
  | touch unwritten updates => exact inv.locked i c' (before called' Bool.false_ne_true) locks
  | update unwritten updates counts =>
      exact inv.locked i c' (before called' Bool.false_ne_true) locks
  | delete unwritten found => exact inv.locked i c' (before called' Bool.false_ne_true) locks
  | @invalidate version deletion phase free =>
      have old : s.calls i = some c' :=
        before called' (by cases deletion <;> exact Bool.false_ne_true)
      rw [setPhase_managers, setClient_mu]
      exact inv.locked i c' old locks
  | fetch phase => exact inv.locked i c' (before called' Bool.false_ne_true) locks

theorem Inv.written_next (inv : s.Inv) (advances : Advances lib newForConfig s call c s')
    (i : Nat) (c' : Call δ) (v : Nat) (d : Bool) (called' : s'.calls i = some c')
    (invalidating : c'.phase = .invalidating v d) : v ≤ s'.version c'.code := by
  have before {s : Clients δ} {phase : Phase δ}
      (called' : (s.setPhase call c phase).calls i = some c') :=
    calls_of_setPhase (· = .invalidating v d) called' invalidating
  have grown (old : s.calls i = some c') : v ≤ s'.version c'.code :=
    Nat.le_trans (inv.written i c' v d old invalidating) (advances.version c'.code)
  cases advances with
  | wait => exact grown called'
  | hit phase free kept => exact grown (before called' nofun)
  | miss phase => exact grown (before called' nofun)
  | lock phase free =>
      rw [setLock_calls] at called'
      exact grown (before called' nofun)
  | read phase reads => exact grown (before called' nofun)
  | fail holds =>
      rw [setLock_calls] at called'
      exact grown (before called' nofun)
  | build phase builds =>
      rw [setLock_calls] at called'
      exact grown (before called' nofun)
  | check unwritten after => exact grown (before called' (by rintro rfl; cases after))
  | touch unwritten updates => exact grown (before called' nofun)
  | update unwritten updates counts =>
      rcases calls_setPhase called' with ⟨rfl, rfl⟩ | ⟨ne, old⟩
      · cases invalidating
        rw [setPhase_version, setTable_version]
      · exact grown old
  | delete unwritten found =>
      rcases calls_setPhase called' with ⟨rfl, rfl⟩ | ⟨ne, old⟩
      · cases invalidating
        rw [setPhase_version, setTable_version]
      · exact grown old
  | @invalidate version deletion phase free =>
      exact grown (before called' (by cases deletion <;> exact nofun))
  | fetch phase => exact grown (before called' nofun)

/-- While no call of the manager holds the lock, an invalidation leaves nothing to be kept. -/
theorem Inv.fresh_of_invalidate (inv : s.Inv) {v : Nat} {d : Bool} {phase : Phase δ}
    (called : s.calls call = some c) (invalidating : c.phase = .invalidating v d)
    (free : (s.managers c.manager).mu = none) (other : ∀ cfg n, phase ≠ .building cfg n) :
    Fresh ((s.setClient c.manager c.code none).setPhase call c phase) c.manager c.code v := by
  apply Copies.since_of_none (inv.written call c v d called invalidating)
  intro n keeps
  cases keeps.of_setPhase fun cfg => other cfg n with
  | cached kept version =>
      rw [setClient, setManager_self] at kept
      simp at kept
  | building old manager named building =>
      have held := inv.locked _ _ old (by rw [building]; rfl)
      rw [manager, free] at held
      cases held

theorem Inv.cleared_next (inv : s.Inv) (advances : Advances lib newForConfig s call c s')
    (called : s.calls call = some c) (i : Nat) (c' : Call δ) (v : Nat)
    (called' : s'.calls i = some c') (cleared : c'.phase.cleared = some v) :
    Fresh s' c'.manager c'.code v := by
  have steps : Steps lib newForConfig s s' := .advance called advances
  have old_ (old : s.calls i = some c') : Fresh s' c'.manager c'.code v :=
    (inv.cleared i c' v old cleared).step steps
  have mine (cleared' : c.phase.cleared = some v) : Fresh s' c.manager c.code v :=
    (inv.cleared call c v called cleared').step steps
  have before {s : Clients δ} {phase : Phase δ}
      (called' : (s.setPhase call c phase).calls i = some c') :=
    calls_of_setPhase (·.cleared = some v) called' cleared
  cases advances with
  | wait => exact old_ called'
  | hit phase free kept => exact old_ (before called' nofun)
  | miss phase => exact old_ (before called' nofun)
  | lock phase free =>
      rw [setLock_calls] at called'
      exact old_ (before called' nofun)
  | read phase reads => exact old_ (before called' nofun)
  | fail holds =>
      rw [setLock_calls] at called'
      exact old_ (before called' nofun)
  | build phase builds =>
      rw [setLock_calls] at called'
      exact old_ (before called' nofun)
  | check unwritten after =>
      refine old_ (before called' ?_)
      rw [Phase.cleared_of_unwritten after]
      exact nofun
  | touch unwritten updates => exact old_ (before called' nofun)
  | update unwritten updates counts => exact old_ (before called' nofun)
  | delete unwritten found => exact old_ (before called' nofun)
  | @invalidate version deletion phase free =>
      rcases calls_setPhase called' with ⟨rfl, rfl⟩ | ⟨ne, old⟩
      · have same : version = v := by
          cases deletion <;> exact Option.some.inj cleared
        subst same
        exact inv.fresh_of_invalidate called phase free (by cases deletion <;> exact nofun)
      · exact old_ old
  | fetch phase =>
      rcases calls_setPhase called' with ⟨rfl, rfl⟩ | ⟨ne, old⟩
      · exact mine (by rw [phase]; exact cleared)
      · exact old_ old

theorem Inv.step (inv : s.Inv) (steps : Steps lib newForConfig s s') : s'.Inv := by
  have still {m : Nat} {code : String} {v : Nat} (fresh : Fresh s m code v) :
      Fresh s' m code v := fresh.step steps
  cases steps with
  | stay => exact inv
  | importCluster =>
      refine ⟨inv.locked, inv.written, fun i c v called cleared => ?_⟩
      exact still (inv.cleared i c v called cleared)
  | begin idle =>
      constructor
      · intro i c called locks
        exact inv.locked i c (calls_of_begin (·.locks = true) called locks nofun nofun nofun nofun
          nofun) locks
      · intro i c v d called invalidating
        exact inv.written i c v d (calls_of_begin (· = .invalidating v d) called invalidating nofun
          nofun nofun nofun nofun) invalidating
      · intro i c v called cleared
        have old := calls_of_begin (·.cleared = some v) called cleared nofun nofun nofun nofun nofun
        exact still (inv.cleared i c v old cleared)
  | advance called advances =>
      exact ⟨inv.locked_next advances called, inv.written_next advances,
        inv.cleared_next advances called⟩

theorem invariant (lib : Libraries) (newForConfig : RestConfig → Except String δ)
    (kms : Nat → AESGCM) : Transition.Invariant (runs lib newForConfig kms) Inv where
  init := by
    rintro s rfl
    exact .start kms
  step := by
    rintro s e s' inv rfl
    exact inv.step (next_steps lib newForConfig s e)

/-- What a call of the manager is answered with is not from before `v`. -/
def AnswersSince (s : Clients δ) (i m : Nat) (code : String) (v : Nat) : Prop :=
  ∀ c entry, s.calls i = some c → c.manager = m → c.code = code →
    c.phase = .answered (.ok entry) → v ≤ entry.version

theorem AnswersSince.step {v i : Nat} (since : AnswersSince s i m code v)
    (fresh : Fresh s m code v) (steps : Steps lib newForConfig s s') :
    AnswersSince s' i m code v := by
  intro c' entry called' manager named answered
  rcases steps.answers called' answered with old | ⟨c, -, same, keeps⟩
  · exact since c' entry old manager named answered
  · rw [same] at manager named
    subst manager named
    exact fresh.2 _ keeps

theorem AnswersSince.exec {v i : Nat} (since : AnswersSince s i m code v)
    (fresh : Fresh s m code v) (es : List ClientStep) :
    AnswersSince (Transition.exec (Clients.next lib newForConfig) s es) i m code v := by
  induction es generalizing s with
  | nil => exact since
  | cons e es ih =>
      have steps := next_steps lib newForConfig s e
      exact ih (since.step fresh steps) (fresh.step steps)

/-- Once an `Update` of a kubeconfig or a `Delete` has returned, a `GetDynamicClient` of its manager
that begins later gets no client of the row as it was before. -/
theorem client_not_superseded {kms : Nat → AESGCM}
    (reach : Transition.Reachable (runs lib newForConfig kms) s) {j : Nat} {op : Call δ} {v : Nat}
    (called : s.calls j = some op) (returned : op.phase.returned = some v) {i : Nat}
    (later : s.calls i = none) (es : List ClientStep) {entry : ClientEntry δ}
    (called' : (Transition.exec (next lib newForConfig) s es).calls i = some c)
    (manager : c.manager = op.manager) (named : c.code = op.code)
    (answered : c.phase = .answered (.ok entry)) : v ≤ entry.version := by
  have cleared := Phase.cleared_of_returned returned
  have fresh := ((invariant lib newForConfig kms).holds reach).cleared j op v called cleared
  have before : AnswersSince s i op.manager op.code v := by
    intro c entry called
    rw [later] at called
    cases called
  exact before.exec fresh es c entry called' manager named answered

/-- The cluster is imported, and user 8 updates its kubeconfig. -/
def afterUpdate : Clients RestConfig :=
  let x : Ranging := .first "east"
  Transition.exec (next demo .ok) (start fun _ => ⟨demoKey 1, none⟩)
    [.importCluster 0 x demoNonce "prod" "prod" Kubeconfig.threeContextsFile 7,
      .call 0 0 "prod" (.update (some ⟨none, none, Kubeconfig.threeContextsFile, none⟩) 8),
      .advance 0 x demoNonce, .advance 0 x demoNonce, .advance 0 x demoNonce,
      .advance 0 x demoNonce, .advance 0 x demoNonce]

theorem afterUpdate_reachable :
    Transition.Reachable (runs demo .ok fun _ => ⟨demoKey 1, none⟩) afterUpdate :=
  .exec _ (.init rfl)

def getProd : List ClientStep :=
  .call 1 0 "prod" (.getDynamicClient false) ::
    List.replicate 4 (.advance 1 (.first "east") demoNonce)

theorem reread_after_update :
    ∃ op c entry, afterUpdate.calls 0 = some op ∧ op.phase.returned = some 1 ∧
      (Transition.exec (next demo .ok) afterUpdate getProd).calls 1 = some c ∧
      c.phase = .answered (.ok entry) ∧ 1 ≤ entry.version := by
  have updated : (afterUpdate.calls 0).any (fun op => op.manager == 0 && op.code == "prod" &&
      op.phase.returned == some 1) = true := by decide +kernel
  have got : ((Transition.exec (next demo .ok) afterUpdate getProd).calls 1).any (fun c =>
      (c.manager == 0 && c.code == "prod") && match c.phase with
        | .answered (.ok _) => true
        | _ => false) = true := by decide +kernel
  obtain ⟨op, called, ofOp⟩ := (Option.any_eq_true ..).1 updated
  obtain ⟨c, called', ofCall⟩ := (Option.any_eq_true ..).1 got
  simp only [Bool.and_eq_true, beq_iff_eq] at ofOp ofCall
  obtain ⟨⟨manager, named⟩, returned⟩ := ofOp
  obtain ⟨⟨manager', named'⟩, answered⟩ := ofCall
  split at answered
  case h_1 entry phase =>
    have idle : afterUpdate.calls 1 = none := by decide +kernel
    have current := client_not_superseded afterUpdate_reachable called returned idle getProd called'
      (manager'.trans manager.symm) (named'.trans named.symm) phase
    exact ⟨op, c, entry, called, returned, called', phase, current⟩
  case h_2 => cases answered

end Clients

end K8sPlatform.Clusters
