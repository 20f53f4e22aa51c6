import K8sPlatform.Resource.Informers

/-! # The end of the informers, and what the table knows of them -/

namespace K8sPlatform.Resource

namespace InformerManager

/-- The loop of `StopAll` over the keys of the table: every entry it meets has its channel
closed. -/
def closeAll (s : InformerManager) (keys : List GvrKey) : InformerManager :=
  keys.foldl (fun t key =>
    match s.informers key with
    | none => t
    | some e => t.setEntry e ({ · with stopped := true })) s

/-- The loop leaves no entry in the table. -/
def stopAll (s : InformerManager) (keys : List GvrKey) : InformerManager :=
  { s.closeAll keys with informers := fun key => if key ∈ keys then none else s.informers key }

/-- The keys that a loop over the table meets. -/
def Ranges (s : InformerManager) (keys : List GvrKey) : Prop :=
  ∀ key, s.informers key ≠ none → key ∈ keys

inductive ManagerStep
  | step (step : InformerStep)
  | stopAll (keys : List GvrKey)

def proceed (gvkToGVR : GVK → GVR) (s : InformerManager) : ManagerStep → InformerManager
  | .step step => next gvkToGVR s step
  | .stopAll keys => s.stopAll keys

/-- The table knows an entry exactly while its channel is open, and by one key. -/
structure NoOrphan (s : InformerManager) : Prop where
  known : ∀ i entry, s.entries[i]? = some entry →
    (entry.stopped = false ↔ ∃ key, s.informers key = some i)
  made : ∀ key i, s.informers key = some i → i < s.entries.length
  once : ∀ key key' i, s.informers key = some i → s.informers key' = some i → key = key'

variable {s t : InformerManager}

theorem noOrphan_start : start.NoOrphan where
  known := nofun
  made := nofun
  once := nofun

theorem NoOrphan.setCall (good : s.NoOrphan) (call : Nat) (key : GvrKey) (phase : CallPhase) :
    (s.setCall call key phase).NoOrphan := ⟨good.known, good.made, good.once⟩

theorem NoOrphan.setEntry (good : s.NoOrphan) (e : Nat) {f : InformerEntry → InformerEntry}
    (same : ∀ x, (f x).stopped = x.stopped) : (s.setEntry e f).NoOrphan where
  known := by
    intro i x found
    obtain ⟨x', known', rfl⟩ := entries_setEntry found
    have before := good.known i x' known'
    split_ifs
    · rw [same]
      exact before
    · exact before
  made := by
    intro key i found
    rw [InformerManager.setEntry, List.length_modify]
    exact good.made key i found
  once := good.once

theorem NoOrphan.put (good : s.NoOrphan) {key : GvrKey} (absent : s.informers key = none) :
    (s.put key).NoOrphan where
  known := by
    intro i x found
    by_cases old : i < s.entries.length
    · have found' : s.entries[i]? = some x := by
        rw [← found]
        exact (List.getElem?_append_left old).symm
      rw [good.known i x found']
      constructor
      · rintro ⟨key', own⟩
        have other : key' ≠ key := by
          rintro rfl
          rw [absent] at own
          cases own
        exact ⟨key', (Function.update_of_ne other ..).trans own⟩
      · rintro ⟨key', own⟩
        by_cases other : key' = key
        · subst other
          cases (Function.update_self ..).symm.trans own
          exact absurd old (Nat.lt_irrefl _)
        · exact ⟨key', (Function.update_of_ne other ..).symm.trans own⟩
    · rw [InformerManager.put, List.getElem?_append_right (Nat.le_of_not_lt old)] at found
      obtain ⟨short, rfl⟩ := List.getElem?_eq_some_iff.1 found
      rw [List.length_singleton, Nat.lt_one_iff] at short
      have last : i = s.entries.length := by omega
      subst last
      refine iff_of_true ?_ ⟨key, Function.update_self ..⟩
      simp [InformerEntry.new]
  made := by
    intro key' i found
    rw [InformerManager.put, List.length_append, List.length_singleton]
    by_cases other : key' = key
    · subst other
      cases (Function.update_self ..).symm.trans found
      omega
    · have before := good.made key' i ((Function.update_of_ne other ..).symm.trans found)
      omega
  once := by
    intro key' key'' i left right
    by_cases first : key' = key
    · by_cases second : key'' = key
      · exact first.trans second.symm
      · subst first
        cases (Function.update_self ..).symm.trans left
        have before := good.made key'' _ ((Function.update_of_ne second ..).symm.trans right)
        exact absurd before (Nat.lt_irrefl _)
    · by_cases second : key'' = key
      · subst second
        cases (Function.update_self ..).symm.trans right
        have before := good.made key' _ ((Function.update_of_ne first ..).symm.trans left)
        exact absurd before (Nat.lt_irrefl _)
      · exact good.once key' key'' i ((Function.update_of_ne first ..).symm.trans left)
          ((Function.update_of_ne second ..).symm.trans right)

/-- Some keys leave the table, and the channels of their entries are closed. -/
structure Closes (s : InformerManager) (keys : GvrKey → Prop) (t : InformerManager) : Prop where
  gone : ∀ key, keys key → t.informers key = none
  kept : ∀ key, ¬keys key → t.informers key = s.informers key
  length : t.entries.length = s.entries.length
  closed : ∀ i x, t.entries[i]? = some x → (∃ key, keys key ∧ s.informers key = some i) →
    x.stopped = true
  same : ∀ i x, t.entries[i]? = some x → (¬∃ key, keys key ∧ s.informers key = some i) →
    s.entries[i]? = some x

theorem NoOrphan.close (good : s.NoOrphan) {keys : GvrKey → Prop} (closes : s.Closes keys t) :
    t.NoOrphan := by
  have still {key : GvrKey} {i : Nat} (found : t.informers key = some i) :
      ¬keys key ∧ s.informers key = some i := by
    have out : ¬keys key := by
      intro inside
      rw [closes.gone key inside] at found
      cases found
    exact ⟨out, (closes.kept key out).symm.trans found⟩
  constructor
  · intro i x found
    by_cases own : ∃ key, keys key ∧ s.informers key = some i
    · rw [closes.closed i x found own]
      refine iff_of_false Bool.true_eq_false_eq_False.elim ?_
      rintro ⟨key', there⟩
      obtain ⟨out, there'⟩ := still there
      obtain ⟨key, inside, own'⟩ := own
      exact out (good.once key key' i own' there' ▸ inside)
    · rw [good.known i x (closes.same i x found own)]
      constructor
      · rintro ⟨key, there⟩
        have out : ¬keys key := fun inside => own ⟨key, inside, there⟩
        exact ⟨key, (closes.kept key out).trans there⟩
      · rintro ⟨key, there⟩
        exact ⟨key, (still there).2⟩
  · intro key i found
    rw [closes.length]
    exact good.made key i (still found).2
  · intro key key' i left right
    exact good.once key key' i (still left).2 (still right).2

theorem stop_closes {key : GvrKey} {e : Nat} (found : s.informers key = some e) :
    s.Closes (· = key) { s.setEntry e ({ · with stopped := true }) with
      informers := Function.update s.informers key none } where
  gone := by
    rintro key' rfl
    exact Function.update_self ..
  kept key' other := Function.update_of_ne other ..
  length := List.length_modify ..
  closed := by
    rintro i x there ⟨key', rfl, own⟩
    obtain ⟨x', -, rfl⟩ := entries_setEntry there
    rw [if_pos (Option.some.inj (found.symm.trans own))]
  same := by
    intro i x there other
    obtain ⟨x', known, rfl⟩ := entries_setEntry there
    have apart : e ≠ i := by
      rintro rfl
      exact other ⟨key, rfl, found⟩
    rw [if_neg apart]
    exact known

/-- What the loop has done to an entry when it has met these keys. -/
theorem closeAll_entries (s : InformerManager) (keys : List GvrKey) :
    (s.closeAll keys).entries.length = s.entries.length ∧
      ∀ i x, (s.closeAll keys).entries[i]? = some x →
        ((∃ key ∈ keys, s.informers key = some i) → x.stopped = true) ∧
          ((¬∃ key ∈ keys, s.informers key = some i) → s.entries[i]? = some x) := by
  induction keys using List.reverseRecOn with
  | nil =>
      refine ⟨rfl, fun i x there => ⟨?_, fun _ => there⟩⟩
      rintro ⟨key, mem, -⟩
      cases mem
  | append_singleton keys key ih =>
      obtain ⟨length, entries⟩ := ih
      rw [closeAll] at length entries ⊢
      rw [List.foldl_append, List.foldl_cons, List.foldl_nil]
      cases found : s.informers key with
      | none =>
          refine ⟨length, fun i x there => ?_⟩
          have before := entries i x there
          constructor
          · rintro ⟨key', mem, own⟩
            rcases List.mem_append.1 mem with old | last
            · exact before.1 ⟨key', old, own⟩
            · rw [List.mem_singleton.1 last, found] at own
              cases own
          · intro other
            apply before.2
            rintro ⟨key', mem, own⟩
            exact other ⟨key', List.mem_append_left _ mem, own⟩
      | some e =>
          refine ⟨(List.length_modify ..).trans length, fun i x there => ?_⟩
          obtain ⟨x', known, rfl⟩ := entries_setEntry there
          have before := entries i x' known
          constructor
          · rintro ⟨key', mem, own⟩
            split_ifs with same
            · rfl
            · rcases List.mem_append.1 mem with old | last
              · exact before.1 ⟨key', old, own⟩
              · rw [List.mem_singleton.1 last, found] at own
                exact absurd (Option.some.inj own) same
          · intro other
            have apart : e ≠ i := by
              rintro rfl
              exact other ⟨key, List.mem_append_right _ (List.mem_singleton_self _), found⟩
            rw [if_neg apart]
            apply before.2
            rintro ⟨key', mem, own⟩
            exact other ⟨key', List.mem_append_left _ mem, own⟩

theorem stopAll_closes (s : InformerManager) (keys : List GvrKey) :
    s.Closes (· ∈ keys) (s.stopAll keys) where
  gone _ inside := if_pos inside
  kept _ out := if_neg out
  length := (closeAll_entries s keys).1
  closed i x there own := ((closeAll_entries s keys).2 i x there).1 own
  same i x there other := ((closeAll_entries s keys).2 i x there).2 other

/-- Every step keeps the table and the open channels together. -/
theorem NoOrphan.next (good : s.NoOrphan) (gvkToGVR : GVK → GVR) (step : InformerStep) :
    (next gvkToGVR s step).NoOrphan := by
  have steps := next_steps gvkToGVR s step
  generalize InformerManager.next gvkToGVR s step = t at steps ⊢
  cases steps with
  | idle waits => exact good
  | begins call key phase first => exact good.setCall call key phase
  | passes call key p p' found passes => exact good.setCall call key p'
  | puts call key entry found absent =>
      cases entry with
      | none => exact (good.put absent).setCall call key .panicked
      | some e => exact (good.put absent).setCall call key (.locking e)
  | locks call key e entry found known =>
      apply NoOrphan.setCall
      exact good.setEntry e fun _ => rfl
  | awaits call key e entry found known =>
      apply NoOrphan.setCall
      exact good.setEntry e fun _ => rfl
  | stops key e found => exact good.close (stop_closes found)
  | syncs e entry known => exact good.setEntry e fun _ => rfl

/-- In every run of the informers' starts, look-ups and stops, in any interleaving, an informer's
channel is open exactly while the table knows it, under one key; and a loop of `StopAll` over the
table closes the channel of every informer ever made. -/
theorem no_orphans (gvkToGVR : GVK → GVR) (steps : List ManagerStep) :
    NoOrphan (Transition.exec (proceed gvkToGVR) start steps) ∧
      ∀ keys, (Transition.exec (proceed gvkToGVR) start steps).Ranges keys →
        ∀ entry ∈ ((Transition.exec (proceed gvkToGVR) start steps).stopAll keys).entries,
          entry.stopped = true := by
  have good : NoOrphan (Transition.exec (proceed gvkToGVR) start steps) := by
    have kept {s : InformerManager} (good : s.NoOrphan) (steps : List ManagerStep) :
        NoOrphan (Transition.exec (proceed gvkToGVR) s steps) := by
      induction steps generalizing s with
      | nil => exact good
      | cons first steps ih =>
          cases first with
          | step step => exact ih (good.next gvkToGVR step)
          | stopAll keys => exact ih (good.close (stopAll_closes s keys))
    exact kept noOrphan_start steps
  refine ⟨good, fun keys ranges entry mem => ?_⟩
  obtain ⟨i, there⟩ := List.mem_iff_getElem?.1 mem
  have after := good.close (stopAll_closes _ keys)
  by_contra opened
  rw [Bool.not_eq_true, after.known i entry there] at opened
  obtain ⟨key, found⟩ := opened
  by_cases inside : key ∈ keys
  · rw [(stopAll_closes _ keys).gone key inside] at found
    cases found
  · rw [(stopAll_closes _ keys).kept key inside] at found
    apply inside
    apply ranges
    rw [found]
    exact Option.some_ne_none i

end InformerManager

end K8sPlatform.Resource
