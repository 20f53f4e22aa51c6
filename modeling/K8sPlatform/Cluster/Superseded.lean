import K8sPlatform.Cluster.Invalidation

/-! # The clients that the tasks of a worker get -/

namespace K8sPlatform.Clusters

open Errcode Crypto
open Kubeconfig (Ranging RestConfig)

universe u

variable {δ : Type u}

section Gone

variable {lib : Libraries} {t t' : Table} {code code' : String}

theorem gone_iff : t.gone code = true ↔
    (∃ r ∈ t, r.code = code) ∧ ∀ r ∈ t, r.code = code → r.deleted = true := by
  simp [Table.gone, Table.find, List.any_eq_true]

theorem not_gone_of_found (found : (t.find code).isSome = true) : t.gone code = false := by
  rw [Table.gone, ← Option.not_isSome, found, Bool.not_true, Bool.and_false]

/-- Rows that keep their codes and stay deleted keep a cluster deleted. -/
theorem gone_map {f : Cluster → Cluster} (codes : ∀ r, (f r).code = r.code)
    (deleted : ∀ r, r.deleted = true → (f r).deleted = true) (gone : t.gone code = true) :
    Table.gone (t.map f) code = true := by
  obtain ⟨⟨r, mem, named⟩, all⟩ := gone_iff.1 gone
  refine gone_iff.2
    ⟨⟨f r, List.mem_map_of_mem mem, (codes r).trans named⟩, fun r' mem' named' => ?_⟩
  obtain ⟨r, mem, rfl⟩ := List.mem_map.1 mem'
  exact deleted r (all r mem ((codes r).symm.trans named'))

theorem gone_of_map {f : Cluster → Cluster} (codes : ∀ r, (f r).code = r.code)
    (deleted : ∀ r, r.code = code → (f r).deleted = r.deleted)
    (gone : Table.gone (t.map f) code = true) : t.gone code = true := by
  obtain ⟨⟨r', mem', named'⟩, all⟩ := gone_iff.1 gone
  obtain ⟨r, mem, rfl⟩ := List.mem_map.1 mem'
  refine gone_iff.2 ⟨⟨r, mem, (codes r).symm.trans named'⟩, fun r mem named => ?_⟩
  rw [← deleted r named]
  exact all (f r) (List.mem_map_of_mem mem) ((codes r).trans named)

theorem gone_update {u : Updates} (updates : t.update code' u = .ok t') :
    t'.gone code = t.gone code := by
  unfold Table.update at updates
  split at updates
  · obtain rfl := Except.ok.inj updates
    rfl
  · split at updates
    · cases updates
    · obtain rfl := Except.ok.inj updates
      have codes (r : Cluster) :
          (if r.code = code' ∧ r.deleted = false then u.apply r else r).code = r.code := by
        split_ifs
        · exact apply_code u r
        · rfl
      have deleted (r : Cluster) :
          (if r.code = code' ∧ r.deleted = false then u.apply r else r).deleted = r.deleted := by
        split_ifs
        · exact apply_deleted u r
        · rfl
      exact Bool.eq_iff_iff.2 ⟨gone_of_map codes fun r _ => deleted r,
        gone_map codes fun r is => (deleted r).trans is⟩

theorem delete_code (r : Cluster) (code : String) :
    (if r.code = code then { r with deleted := true } else r).code = r.code := by
  split_ifs <;> rfl

theorem gone_delete (gone : t.gone code = true) : (t.delete code').gone code = true := by
  refine gone_map (fun r => delete_code r code') (fun r is => ?_) gone
  split_ifs
  · rfl
  · exact is

theorem gone_of_delete (ne : code ≠ code') (gone : (t.delete code').gone code = true) :
    t.gone code = true := by
  refine gone_of_map (fun r => delete_code r code') (fun r named => ?_) gone
  rw [if_neg (named ▸ ne)]

theorem gone_importCluster (kms : AESGCM) (x : Ranging) (nonce : Nonce) (name code' : String)
    (raw : Bytes) (creatorId : Nat) :
    Table.gone (importCluster lib kms x nonce t name code' raw creatorId).2 code = t.gone code := by
  obtain ⟨err, fails⟩ | ⟨c, adds, imports⟩ :=
    importCluster_cases lib kms x nonce t name code' raw creatorId
  · rw [fails]
  · rw [adds, Bool.eq_iff_iff, gone_iff, gone_iff]
    simp only [List.mem_append, List.mem_singleton]
    constructor
    · rintro ⟨⟨r, mem, named⟩, all⟩
      refine ⟨⟨r, ?_, named⟩, fun r mem => all r (.inl mem)⟩
      rcases mem with old | rfl
      · exact old
      · have live := all r (.inr rfl) named
        rw [imports.live] at live
        cases live
    · rintro ⟨⟨r, mem, named⟩, all⟩
      refine ⟨⟨r, .inl mem, named⟩, fun r' mem' named' => ?_⟩
      rcases mem' with old | rfl
      · exact all r' old named'
      · have fresh := imports.fresh
        rw [← imports.code_eq, named', ← named] at fresh
        exact absurd (List.mem_map_of_mem mem) fresh

end Gone

namespace Clients

variable {lib : Libraries} {newForConfig : RestConfig → Except String δ} {s s' : Clients δ}
  {call : Nat} {c : Call δ} {code : String}

theorem setTable_version_of (t : Table) {code' : String} {version : Nat}
    (stays : code = code' → version = s.version code') :
    (s.setTable t code' version).version code = s.version code := by
  by_cases same : code = code'
  · rw [same, setTable_version, stays same]
  · exact Function.update_of_ne same ..

/-- A deleted cluster stays deleted, and its version is its last one. -/
theorem Advances.gone (advances : Advances lib newForConfig s call c s')
    (gone : s.table.gone code = true) :
    s'.table.gone code = true ∧ s'.version code = s.version code := by
  have live (same : code = c.code) : (s.table.find c.code).isSome = false := by
    cases found : (s.table.find c.code).isSome with
    | false => rfl
    | true =>
        rw [same, not_gone_of_found found] at gone
        cases gone
  cases advances with
  | @touch u t before updates =>
      exact ⟨(gone_update updates).trans gone, setTable_version_of t fun _ => rfl⟩
  | @update u t version before updates counts =>
      refine ⟨(gone_update updates).trans gone, setTable_version_of t fun same => ?_⟩
      rw [counts, live same]
      rfl
  | delete before found =>
      refine ⟨gone_delete gone, setTable_version_of (s.table.delete c.code) fun same => ?_⟩
      rw [live same] at found
      cases found
  | _ => exact ⟨gone, rfl⟩

/-- Only a deletion leaves a cluster deleted that was not, and it leaves a new version. -/
theorem Advances.of_gone (advances : Advances lib newForConfig s call c s')
    (gone : s'.table.gone code = true) :
    s.table.gone code = true ∨ s.version code < s'.version code := by
  cases advances with
  | touch before updates => exact .inl ((gone_update updates).symm.trans gone)
  | update before updates counts => exact .inl ((gone_update updates).symm.trans gone)
  | delete before found =>
      by_cases same : code = c.code
      · subst same
        rw [setPhase_version, setTable_version]
        exact .inr (Nat.lt_succ_self _)
      · exact .inl (gone_of_delete same gone)
  | _ => exact .inl gone

theorem Steps.gone (steps : Steps lib newForConfig s s') (gone : s.table.gone code = true) :
    s'.table.gone code = true ∧ s'.version code = s.version code := by
  cases steps with
  | stay => exact ⟨gone, rfl⟩
  | importCluster => exact ⟨(gone_importCluster ..).trans gone, rfl⟩
  | begin idle => exact ⟨gone, rfl⟩
  | advance called advances => exact advances.gone gone

theorem Steps.of_gone (steps : Steps lib newForConfig s s') (gone : s'.table.gone code = true) :
    s.table.gone code = true ∨ s.version code < s'.version code := by
  cases steps with
  | stay => exact .inl gone
  | importCluster => exact .inl ((gone_importCluster ..).symm.trans gone)
  | begin idle => exact .inl gone
  | advance called advances => exact advances.of_gone gone

/-- A step changes at most the phase of its own call. -/
theorem Advances.calls (advances : Advances lib newForConfig s call c s') {i : Nat} {c' : Call δ}
    (called' : s'.calls i = some c') :
    s.calls i = some c' ∨ (i = call ∧ c' = { c with phase := c'.phase }) := by
  have moved {s : Clients δ} {phase : Phase δ}
      (called' : (s.setPhase call c phase).calls i = some c') :
      (i = call ∧ c' = { c with phase := c'.phase }) ∨ s.calls i = some c' := by
    rcases calls_setPhase called' with ⟨rfl, rfl⟩ | ⟨-, old⟩
    · exact .inl ⟨rfl, rfl⟩
    · exact .inr old
  cases advances with
  | wait => exact .inl called'
  | lock phase free =>
      rw [setLock_calls] at called'
      exact (moved called').symm
  | fail phase =>
      rw [setLock_calls] at called'
      exact (moved called').symm
  | build phase builds =>
      rw [setLock_calls] at called'
      exact (moved called').symm
  | _ => exact (moved called').symm

/-- A call that has come to build a client has read the row as it is. -/
theorem Advances.building (advances : Advances lib newForConfig s call c s') {i : Nat}
    {c' : Call δ} {restCfg : RestConfig} {n : Nat} (called' : s'.calls i = some c')
    (building : c'.phase = .building restCfg n) :
    s.calls i = some c' ∨
      (i = call ∧ c' = { c with phase := c'.phase } ∧ n = s.version c.code) := by
  have before {s : Clients δ} {phase : Phase δ}
      (called' : (s.setPhase call c phase).calls i = some c') :=
    calls_of_setPhase (· = .building restCfg n) called' building
  cases advances with
  | wait => exact .inl called'
  | hit phase free kept => exact .inl (before called' nofun)
  | miss phase => exact .inl (before called' nofun)
  | lock phase free =>
      rw [setLock_calls] at called'
      exact .inl (before called' nofun)
  | read phase reads =>
      rcases calls_setPhase called' with ⟨rfl, rfl⟩ | ⟨-, old⟩
      · cases building
        exact .inr ⟨rfl, rfl, rfl⟩
      · exact .inl old
  | fail phase =>
      rw [setLock_calls] at called'
      exact .inl (before called' nofun)
  | build phase builds =>
      rw [setLock_calls] at called'
      exact .inl (before called' nofun)
  | check unwritten after => exact .inl (before called' (by rintro rfl; cases after))
  | touch unwritten updates => exact .inl (before called' nofun)
  | update unwritten updates counts => exact .inl (before called' nofun)
  | delete unwritten found => exact .inl (before called' nofun)
  | @invalidate version deletion phase free =>
      exact .inl (before called' (by cases deletion <;> exact nofun))
  | fetch phase => exact .inl (before called' nofun)

theorem Steps.calls (steps : Steps lib newForConfig s s') {i : Nat} {c' : Call δ}
    (called' : s'.calls i = some c') :
    (∃ c, s.calls i = some c ∧ c' = { c with phase := c'.phase }) ∨
      (c'.since = s.version c'.code ∧ c'.gone = s.table.gone c'.code) := by
  cases steps with
  | stay => exact .inl ⟨c', called', rfl⟩
  | importCluster => exact .inl ⟨c', called', rfl⟩
  | @begin call m code request idle =>
      unfold beginCall at called'
      dsimp only at called'
      by_cases same : i = call
      · subst same
        rw [Function.update_self] at called'
        obtain rfl := Option.some.inj called'
        exact .inr ⟨rfl, rfl⟩
      · rw [Function.update_of_ne same] at called'
        exact .inl ⟨c', called', rfl⟩
  | @advance call c s' called advances =>
      rcases advances.calls called' with old | ⟨rfl, same⟩
      · exact .inl ⟨c', old, rfl⟩
      · exact .inl ⟨c, called, same⟩

/-! ## What the tasks get -/

structure TaskInv (s : Clients δ) : Prop where
  bounded : ∀ m code, Copies.Bounded (s.version code) (Keeps s m code)
  dead : ∀ m code n, s.table.gone code = true → Keeps s m code n → n < s.version code
  since : ∀ i c, s.calls i = some c → c.since ≤ s.version c.code
  gone : ∀ i c, s.calls i = some c → c.gone = true →
    s.table.gone c.code = true ∧ c.since = s.version c.code
  building : ∀ i c restCfg n, s.calls i = some c → c.phase = .building restCfg n → c.since ≤ n

theorem TaskInv.start (kms : Nat → AESGCM) : (start kms : Clients δ).TaskInv where
  bounded m code n keeps := by
    cases keeps with
    | cached kept => cases kept
    | building called => cases called
  dead _ _ _ gone := by cases gone
  since _ _ called := by cases called
  gone _ _ called := by cases called
  building _ _ _ _ called := by cases called

theorem TaskInv.step (inv : s.TaskInv) (steps : Steps lib newForConfig s s') : s'.TaskInv where
  bounded m code := (inv.bounded m code).next (steps.version code)
    fun _ keeps => (steps.keeps keeps).imp_right And.left
  dead m code n gone keeps := by
    have older : n ≤ s.version code := by
      rcases steps.keeps keeps with before | ⟨rfl, -⟩
      · exact inv.bounded m code n before
      · exact Nat.le_refl _
    rcases steps.of_gone gone with before | grows
    · rw [(steps.gone before).2]
      rcases steps.keeps keeps with kept | ⟨-, found⟩
      · exact inv.dead m code n before kept
      · rw [not_gone_of_found found] at before
        cases before
    · exact Nat.lt_of_le_of_lt older grows
  since i c' called' := by
    rcases steps.calls called' with ⟨c, called, same⟩ | ⟨since, -⟩
    · rw [same]
      exact Nat.le_trans (inv.since i c called) (steps.version c.code)
    · rw [since]
      exact steps.version c'.code
  gone i c' called' gone' := by
    rcases steps.calls called' with ⟨c, called, same⟩ | ⟨since, gone⟩
    · rw [same] at gone' ⊢
      obtain ⟨gone, last⟩ := inv.gone i c called gone'
      obtain ⟨still, version⟩ := steps.gone gone
      exact ⟨still, last.trans version.symm⟩
    · obtain ⟨still, version⟩ := steps.gone (gone.symm.trans gone')
      exact ⟨still, since.trans version.symm⟩
  building i c' restCfg n called' building := by
    cases steps with
    | stay => exact inv.building i c' restCfg n called' building
    | importCluster => exact inv.building i c' restCfg n called' building
    | begin idle =>
        have old := calls_of_begin (· = .building restCfg n) called' building nofun nofun nofun
          nofun nofun
        exact inv.building i c' restCfg n old building
    | @advance call c s' called advances =>
        rcases advances.building called' building with old | ⟨rfl, same, rfl⟩
        · exact inv.building i c' restCfg n old building
        · rw [same]
          exact inv.since i c called

/-- Every client that a task got was built from the row as it was when the task was claimed, or
later, and no task of a deleted cluster got one. -/
def TasksCurrent (s : Clients δ) : Prop :=
  ∀ i c entry, s.calls i = some c → c.task = true → c.phase = .answered (.ok entry) →
    c.since ≤ entry.version ∧ c.gone = false

/-- A task that finds a client in the cache finds one built from the row as it was when the task
was claimed, or later. -/
def FindsCurrent (s : Clients δ) : ClientStep → Prop
  | .advance call _ _ => ∀ c entry, s.calls call = some c → c.task = true →
      (c.phase = .looking ∨ c.phase = .waiting) → (s.managers c.manager).mu = none →
      (s.managers c.manager).clients c.code = some entry → c.since ≤ entry.version
  | _ => True

/-- What a manager keeps of a deleted cluster is older than the claims that follow. -/
theorem TaskInv.not_gone (inv : s.TaskInv) (called : s.calls call = some c) {n : Nat}
    (keeps : Keeps s c.manager c.code n) (since : c.since ≤ n) : c.gone = false := by
  cases deleted : c.gone with
  | false => rfl
  | true =>
      obtain ⟨gone, last⟩ := inv.gone call c called deleted
      have older := inv.dead c.manager c.code n gone keeps
      omega

theorem advance_hit (phase : c.phase = .looking ∨ c.phase = .waiting)
    (free : (s.managers c.manager).mu = none) {entry : ClientEntry δ}
    (kept : (s.managers c.manager).clients c.code = some entry) (x : Ranging) (nonce : Nonce) :
    s.advance lib newForConfig call c x nonce = s.setPhase call c (.answered (.ok entry)) := by
  unfold advance
  rcases phase with looking | waiting
  · simp [looking, free, kept]
  · simp [waiting, free, kept]

/-- A call's step leaves the tasks current when a client that it finds is current. -/
theorem Advances.tasksCurrent (advances : Advances lib newForConfig s call c s')
    (called : s.calls call = some c) (inv : s.TaskInv) (current : s.TasksCurrent)
    (finds : ∀ entry, c.task = true → (c.phase = .looking ∨ c.phase = .waiting) →
      (s.managers c.manager).mu = none → (s.managers c.manager).clients c.code = some entry →
      c.since ≤ entry.version) : s'.TasksCurrent := by
  intro i c' entry called' task answered
  rcases advances.answers called called' answered with
    old | ⟨rfl, rfl, ⟨kept, free, phase⟩ | ⟨restCfg, building⟩⟩
  · exact current i c' entry old task answered
  · have since := finds entry task phase free kept
    have there := inv.not_gone called (.cached kept rfl) since
    exact ⟨since, there⟩
  · have since := inv.building i c restCfg entry.version called building
    have there := inv.not_gone called (.building called rfl rfl building) since
    exact ⟨since, there⟩

theorem tasksCurrent_next_iff (inv : s.TaskInv) (current : s.TasksCurrent) (e : ClientStep) :
    (s.next lib newForConfig e).TasksCurrent ↔ s.FindsCurrent e := by
  unfold next
  cases e with
  | importCluster m x nonce name code raw creatorId => exact iff_of_true current trivial
  | call call m code request =>
      dsimp only
      cases idle : s.calls call with
      | some c => exact iff_of_true current trivial
      | none =>
          refine iff_of_true (fun i c entry called task answered => ?_) trivial
          have old := calls_of_begin (· = .answered (.ok entry)) called answered nofun nofun nofun
            nofun nofun
          exact current i c entry old task answered
  | advance call x nonce =>
      dsimp only
      cases called : s.calls call with
      | none =>
          apply iff_of_true current
          intro c entry called'
          rw [called] at called'
          cases called'
      | some c =>
          constructor
          · intro after c' entry called' task phase free kept
            obtain rfl : c = c' := Option.some.inj (called.symm.trans called')
            dsimp only at after
            rw [advance_hit phase free kept] at after
            exact (after call _ entry (setPhase_self ..) task rfl).1
          · intro finds
            have advances := advance_advances lib newForConfig s call c x nonce
            exact advances.tasksCurrent called inv current fun entry => finds c entry called

/-- In every state that a run goes through the tasks have current clients, just when every task
that finds a client in the cache finds a current one. -/
theorem tasksCurrent_iff (lib : Libraries) (newForConfig : RestConfig → Except String δ)
    (kms : Nat → AESGCM) (es : List ClientStep) :
    (∀ n, (Transition.exec (next lib newForConfig) (start kms) (es.take n)).TasksCurrent) ↔
      Transition.Along FindsCurrent (next lib newForConfig) (start kms) es :=
  have none_ : (start kms : Clients δ).TasksCurrent := by
    intro i c entry called
    cases called
  Transition.always_iff_along (I := TaskInv) (P := TasksCurrent)
    (fun inv => inv.step (next_steps ..))
    (fun inv current => tasksCurrent_next_iff inv current _) (.start kms) none_ es

/-- The api-server (0) imports a cluster, the worker (1) claims a task and gets a client, and the
api-server deletes the cluster; then the worker claims the next task. -/
def afterDeletion : Clients RestConfig :=
  let x : Ranging := .first "east"
  Transition.exec (next demo .ok) (start fun _ => ⟨demoKey 1, none⟩)
    [.importCluster 0 x demoNonce "prod" "prod" Kubeconfig.threeContextsFile 7,
      .call 0 1 "prod" (.getDynamicClient true), .advance 0 x demoNonce, .advance 0 x demoNonce,
      .advance 0 x demoNonce, .advance 0 x demoNonce,
      .call 1 0 "prod" .delete, .advance 1 x demoNonce, .advance 1 x demoNonce,
      .call 2 1 "prod" (.getDynamicClient true), .advance 2 x demoNonce]

theorem deleted_cluster_reached :
    Transition.Reachable (runs demo .ok fun _ => ⟨demoKey 1, none⟩) afterDeletion ∧
      (afterDeletion.calls 1).bind (·.phase.returned) = some 1 ∧
      ∃ c entry, afterDeletion.calls 2 = some c ∧ c.task = true ∧ c.gone = true ∧ c.since = 1 ∧
        c.phase = .answered (.ok entry) ∧ entry.version = 0 := by
  refine ⟨.exec _ (.init rfl), by decide +kernel, ?_⟩
  have got : (afterDeletion.calls 2).any (fun c => (c.task && c.gone && c.since == 1) &&
      match c.phase with
      | .answered (.ok entry) => entry.version == 0
      | _ => false) = true := by decide +kernel
  obtain ⟨c, called, facts⟩ := (Option.any_eq_true ..).1 got
  simp only [Bool.and_eq_true, beq_iff_eq] at facts
  obtain ⟨⟨⟨task, gone⟩, since⟩, answered⟩ := facts
  split at answered
  case h_1 entry phase => exact ⟨c, entry, called, task, gone, since, phase, eq_of_beq answered⟩
  case h_2 => cases answered

end Clients

end K8sPlatform.Clusters
