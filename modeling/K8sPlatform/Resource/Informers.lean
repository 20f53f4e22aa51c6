import Mathlib.Logic.Function.Basic
import K8sPlatform.Lib.Transition
import K8sPlatform.Resource.Scope

/-! # The informers: starts, stops and lookups -/

namespace K8sPlatform.Resource

open Errcode

structure GVR where
  group : String
  version : String
  resource : String
  deriving DecidableEq, Repr

structure GvrKey where
  clusterCode : String
  gvr : GVR
  deriving DecidableEq, Repr

/-- `stopped` is whether `stopCh` is closed, `held` whether a call holds `readyMu` for writing, and
`synced` the answer of `HasSynced`. No code reads `runs`, the number of times `Run` was started. -/
structure InformerEntry where
  stopped : Bool
  started : Bool
  held : Bool
  ready : Bool
  synced : Bool
  runs : Nat
  deriving DecidableEq, Repr

def InformerEntry.new : InformerEntry := ⟨false, false, false, false, false, 0⟩

/-- `Run` has not been started and no call is at it, or it has been started once, by a call that
holds the entry or has left it as started. -/
def InformerEntry.RunsOnce (entry : InformerEntry) : Prop :=
  entry.runs = 0 ∧ entry.started = false ∧ entry.held = false ∨
    entry.runs = 1 ∧ (entry.started = true ∨ entry.held = true)

/-- Where a call is. Up to `panicked` it is one of `StartInformer`: before its first check, before
its second one with the entry of the first, before `readyMu` of an entry, in its wait, or at its
end. The others are of `GetIndexer`: before its lookup, before `readyMu`, or at its end, which tells
what it has read, and whether the informer had synced by then. -/
inductive CallPhase
  | checking
  | rechecking (entry : Option Nat)
  | locking (entry : Nat)
  | waiting (entry : Nat)
  | started (entry : Nat)
  | refused (err : Error)
  | panicked
  | looking
  | reading (entry : Nat)
  | absent
  | answered (entry : Nat) (ready synced : Bool)
  deriving DecidableEq

/-- The call has ended. -/
def CallPhase.over : CallPhase → Bool
  | .started _ | .refused _ | .panicked | .absent | .answered .. => true
  | _ => false

/-- The phases that a call reaches without an entry. -/
def CallPhase.early : CallPhase → Bool
  | .checking | .rechecking none | .refused _ | .looking | .absent => true
  | _ => false

structure Call where
  key : GvrKey
  phase : CallPhase
  deriving DecidableEq

/-- The entries ever made, by number, the table of those that are known, and the calls. -/
structure InformerManager where
  informers : GvrKey → Option Nat
  entries : List InformerEntry
  calls : Nat → Option Call

/-- How `waitForCacheSyncWithTimeout` ends. -/
inductive WaitEnd
  | synced | stopped | timeout
  deriving DecidableEq, Repr

/-- A wait may time out at any moment; the stop of an informer also ends `WaitForCacheSync`. -/
def WaitEnd.possible (entry : InformerEntry) : WaitEnd → Bool
  | .synced => entry.synced
  | .stopped => entry.stopped
  | .timeout => true

/-- `check`, `recheck`, `lock` and `await` are the parts of `StartInformer`: the first check, the
section under the lock of the table, that up to the wait, and the end of the wait; `client` is the
answer of `GetDynamicClient`. `lookUp` and `read` are those of `GetIndexer`. With `sync` an informer
has its initial list. -/
inductive InformerStep
  | startInformer (call : Nat) (clusterCode : String) (gvk : GVK)
  | check (call : Nat)
  | recheck (call : Nat) (client : Except Error Unit)
  | lock (call : Nat)
  | await (call : Nat) (how : WaitEnd)
  | getIndexer (call : Nat) (clusterCode : String) (gvk : GVK)
  | lookUp (call : Nat)
  | read (call : Nat)
  | stopInformer (clusterCode : String) (gvk : GVK)
  | sync (entry : Nat)

namespace InformerManager

def start : InformerManager := ⟨fun _ => none, [], fun _ => none⟩

variable (s : InformerManager)

def setCall (call : Nat) (key : GvrKey) (phase : CallPhase) : InformerManager :=
  { s with calls := Function.update s.calls call (some ⟨key, phase⟩) }

def setEntry (e : Nat) (f : InformerEntry → InformerEntry) : InformerManager :=
  { s with entries := s.entries.modify e f }

def isStarted (e : Nat) : Bool := s.entries[e]?.any (·.started)

/-- Behind the section under the lock. `entry` is the variable of the first check there, since the
section assigns to one of its own; nil is dereferenced at once, where nobody sees it. -/
def goOn (call : Nat) (key : GvrKey) : Option Nat → InformerManager
  | none => s.setCall call key .panicked
  | some e => s.setCall call key (.locking e)

/-- A new entry is in the table. -/
def put (key : GvrKey) : InformerManager :=
  { s with
    entries := s.entries ++ [.new]
    informers := Function.update s.informers key (some s.entries.length) }

/-- `gvkToGVR` is the guess of the API machinery. -/
def next (gvkToGVR : GVK → GVR) (s : InformerManager) : InformerStep → InformerManager
  | .startInformer call clusterCode gvk =>
      match s.calls call with
      | none => s.setCall call ⟨clusterCode, gvkToGVR gvk⟩ .checking
      | some _ => s
  | .check call =>
      match s.calls call with
      | some ⟨key, .checking⟩ =>
          match s.informers key with
          | none => s.setCall call key (.rechecking none)
          | some e =>
              if s.isStarted e then s.setCall call key (.started e)
              else s.setCall call key (.rechecking (some e))
      | _ => s
  | .recheck call client =>
      match s.calls call with
      | some ⟨key, .rechecking entry⟩ =>
          match s.informers key, client with
          | some e, _ =>
              if s.isStarted e then s.setCall call key (.started e) else s.goOn call key entry
          | none, .error err => s.setCall call key (.refused err)
          | none, .ok () => (s.put key).goOn call key entry
      | _ => s
  | .lock call =>
      match s.calls call with
      | some ⟨key, .locking e⟩ =>
          match s.entries[e]? with
          | none => s
          | some entry =>
              if entry.held then s
              else if entry.started then s.setCall call key (.started e)
              else
                (s.setEntry e fun x => { x with held := true, runs := x.runs + 1 }).setCall call key
                  (.waiting e)
      | _ => s
  | .await call how =>
      match s.calls call with
      | some ⟨key, .waiting e⟩ =>
          match s.entries[e]? with
          | none => s
          | some entry =>
              if how.possible entry then
                (s.setEntry e ({ · with started := true, ready := true, held := false })).setCall
                  call key (.started e)
              else s
      | _ => s
  | .getIndexer call clusterCode gvk =>
      match s.calls call with
      | none => s.setCall call ⟨clusterCode, gvkToGVR gvk⟩ .looking
      | some _ => s
  | .lookUp call =>
      match s.calls call with
      | some ⟨key, .looking⟩ =>
          match s.informers key with
          | none => s.setCall call key .absent
          | some e => s.setCall call key (.reading e)
      | _ => s
  | .read call =>
      match s.calls call with
      | some ⟨key, .reading e⟩ =>
          match s.entries[e]? with
          | none => s
          | some entry =>
              if entry.held then s
              else s.setCall call key (.answered e entry.ready entry.synced)
      | _ => s
  | .stopInformer clusterCode gvk =>
      match s.informers ⟨clusterCode, gvkToGVR gvk⟩ with
      | none => s
      | some e =>
          { s.setEntry e ({ · with stopped := true }) with
            informers := Function.update s.informers ⟨clusterCode, gvkToGVR gvk⟩ none }
  | .sync e =>
      match s.entries[e]? with
      | none => s
      | some entry => if entry.runs = 0 then s else s.setEntry e ({ · with synced := true })

/-- No call has dereferenced nil, `Run` has not been started twice for an entry, and when no call is
under way it has been started for all of them. -/
structure StartsSafely (s : InformerManager) : Prop where
  noPanic : ∀ call key, s.calls call ≠ some ⟨key, .panicked⟩
  atMostOnce : ∀ entry ∈ s.entries, entry.runs ≤ 1
  once : (∀ call c, s.calls call = some c → c.phase.over = true) →
    ∀ entry ∈ s.entries, entry.runs = 1

/-- No call gets a client for a key that is not in the table. -/
def NoClient (s : InformerManager) : InformerStep → Prop
  | .recheck call (.ok ()) =>
      ∀ key entry, s.calls call = some ⟨key, .rechecking entry⟩ → s.informers key ≠ none
  | _ => True

/-- The entry is in the table, or a call of `GetIndexer` is about to read it. -/
def Visible (s : InformerManager) (e : Nat) : Prop :=
  (∃ key, s.informers key = some e) ∨ ∃ call key, s.calls call = some ⟨key, .reading e⟩

/-- The informers that `GetIndexer` has reported or would report as ready have synced. -/
structure ReadySynced (s : InformerManager) : Prop where
  entries : ∀ e entry, s.Visible e → s.entries[e]? = some entry → entry.ready = true →
    entry.synced = true
  answers : ∀ call key e ready synced, s.calls call = some ⟨key, .answered e ready synced⟩ →
    ready = true → synced = true

/-- A wait for an entry that `GetIndexer` may still read ends when the informer has synced. -/
def WaitsForSync (s : InformerManager) : InformerStep → Prop
  | .await call how =>
      ∀ key e entry, s.calls call = some ⟨key, .waiting e⟩ → s.Visible e →
        s.entries[e]? = some entry → how.possible entry = true → entry.synced = true
  | _ => True

/-! ## What a step does -/

/-- A call goes on without a change of the table or of an entry. -/
inductive Passes (s : InformerManager) (key : GvrKey) : CallPhase → CallPhase → Prop
  | finds (e : Nat) (found : s.informers key = some e) :
      Passes s key .checking (.rechecking (some e))
  | misses : Passes s key .checking (.rechecking none)
  | finds_started (e : Nat) (found : s.informers key = some e) :
      Passes s key .checking (.started e)
  | refinds_started (entry : Option Nat) (e : Nat) (found : s.informers key = some e) :
      Passes s key (.rechecking entry) (.started e)
  | goes_on (e e' : Nat) (found : s.informers key = some e) :
      Passes s key (.rechecking (some e')) (.locking e')
  | panics (e : Nat) (found : s.informers key = some e) :
      Passes s key (.rechecking none) .panicked
  | refused (entry : Option Nat) (err : Error) : Passes s key (.rechecking entry) (.refused err)
  | waited (e : Nat) : Passes s key (.locking e) (.started e)
  | misses_indexer : Passes s key .looking .absent
  | looks (e : Nat) (found : s.informers key = some e) : Passes s key .looking (.reading e)
  | answers (e : Nat) (entry : InformerEntry) (known : s.entries[e]? = some entry) :
      Passes s key (.reading e) (.answered e entry.ready entry.synced)

/-- A step, with what it has to do with the two conditions. -/
inductive Steps (s : InformerManager) (step : InformerStep) : InformerManager → Prop
  | idle (waits : s.WaitsForSync step) (noClient : s.NoClient step) : Steps s step s
  | begins (call : Nat) (key : GvrKey) (phase : CallPhase)
      (first : phase = .checking ∨ phase = .looking) (waits : s.WaitsForSync step)
      (noClient : s.NoClient step) : Steps s step (s.setCall call key phase)
  | passes (call : Nat) (key : GvrKey) (p p' : CallPhase) (found : s.calls call = some ⟨key, p⟩)
      (passes : s.Passes key p p') (waits : s.WaitsForSync step) (noClient : s.NoClient step) :
      Steps s step (s.setCall call key p')
  | puts (call : Nat) (key : GvrKey) (entry : Option Nat)
      (found : s.calls call = some ⟨key, .rechecking entry⟩) (absent : s.informers key = none)
      (waits : s.WaitsForSync step) (client : ¬s.NoClient step) :
      Steps s step ((s.put key).goOn call key entry)
  | locks (call : Nat) (key : GvrKey) (e : Nat) (entry : InformerEntry)
      (found : s.calls call = some ⟨key, .locking e⟩) (known : s.entries[e]? = some entry)
      (free : entry.held = false) (unstarted : entry.started = false)
      (waits : s.WaitsForSync step) (noClient : s.NoClient step) :
      Steps s step ((s.setEntry e fun x => { x with held := true, runs := x.runs + 1 }).setCall call
        key (.waiting e))
  | awaits (call : Nat) (key : GvrKey) (e : Nat) (entry : InformerEntry)
      (found : s.calls call = some ⟨key, .waiting e⟩) (known : s.entries[e]? = some entry)
      (waits : s.WaitsForSync step ↔ (s.Visible e → entry.synced = true))
      (noClient : s.NoClient step) :
      Steps s step ((s.setEntry e
        ({ · with started := true, ready := true, held := false })).setCall call key (.started e))
  | stops (key : GvrKey) (e : Nat) (found : s.informers key = some e)
      (waits : s.WaitsForSync step) (noClient : s.NoClient step) :
      Steps s step { s.setEntry e ({ · with stopped := true }) with
        informers := Function.update s.informers key none }
  | syncs (e : Nat) (entry : InformerEntry) (known : s.entries[e]? = some entry)
      (runs : entry.runs ≠ 0) (waits : s.WaitsForSync step) (noClient : s.NoClient step) :
      Steps s step (s.setEntry e ({ · with synced := true }))

theorem next_steps (gvkToGVR : GVK → GVR) (s : InformerManager) (step : InformerStep) :
    s.Steps step (next gvkToGVR s step) := by
  unfold next
  cases step with
  | startInformer call clusterCode gvk =>
      dsimp only
      split
      · exact .begins _ _ _ (.inl rfl) trivial trivial
      · exact .idle trivial trivial
  | check call =>
      dsimp only
      split
      case h_1 key found =>
        split
        case h_1 => exact .passes _ _ _ _ found .misses trivial trivial
        case h_2 e known =>
          split_ifs
          · exact .passes _ _ _ _ found (.finds_started e known) trivial trivial
          · exact .passes _ _ _ _ found (.finds e known) trivial trivial
      case h_2 => exact .idle trivial trivial
  | recheck call client =>
      dsimp only
      split
      case h_1 key entry found =>
        have noClient {e : Nat} (known : s.informers key = some e) :
            s.NoClient (.recheck call client) := by
          cases client with
          | error err => trivial
          | ok u =>
              intro key' entry' found' absent
              cases found.symm.trans found'
              cases known.symm.trans absent
        split
        case h_1 _ e known =>
          split_ifs
          · exact .passes _ _ _ _ found (.refinds_started entry e known) trivial (noClient known)
          · cases entry with
            | none => exact .passes _ _ _ _ found (.panics e known) trivial (noClient known)
            | some e' => exact .passes _ _ _ _ found (.goes_on e e' known) trivial (noClient known)
        case h_2 err absent =>
          exact .passes _ _ _ _ found (.refused entry err) trivial trivial
        case h_3 absent =>
          exact .puts call key entry found absent trivial fun none_ => none_ key entry found absent
      case h_2 other =>
        refine .idle trivial ?_
        cases client with
        | error err => trivial
        | ok u => exact fun key entry found => absurd found (other key entry)
  | lock call =>
      dsimp only
      split
      case h_1 key e found =>
        split
        case h_1 => exact .idle trivial trivial
        case h_2 entry known =>
          split_ifs with held started
          · exact .idle trivial trivial
          · exact .passes _ _ _ _ found (.waited e) trivial trivial
          · exact .locks call key e entry found known (Bool.eq_false_iff.2 held)
              (Bool.eq_false_iff.2 started) trivial trivial
      case h_2 => exact .idle trivial trivial
  | await call how =>
      dsimp only
      split
      case h_1 key e found =>
        split
        case h_1 absent =>
          refine .idle (fun key' e' entry found' _ known => ?_) trivial
          cases found.symm.trans found'
          cases absent.symm.trans known
        case h_2 entry known =>
          split_ifs with possible
          · refine .awaits call key e entry found known ⟨?_, ?_⟩ trivial
            · exact fun waits visible => waits key e entry found visible known possible
            · intro synced key' e' entry' found' visible known' _
              cases found.symm.trans found'
              obtain rfl := Option.some.inj (known.symm.trans known')
              exact synced visible
          · refine .idle (fun key' e' entry' found' _ known' possible' => ?_) trivial
            cases found.symm.trans found'
            obtain rfl := Option.some.inj (known.symm.trans known')
            exact absurd possible' possible
      case h_2 other =>
        exact .idle (fun key e entry found => absurd found (other key e)) trivial
  | getIndexer call clusterCode gvk =>
      dsimp only
      split
      · exact .begins _ _ _ (.inr rfl) trivial trivial
      · exact .idle trivial trivial
  | lookUp call =>
      dsimp only
      split
      case h_1 key found =>
        split
        case h_1 => exact .passes _ _ _ _ found .misses_indexer trivial trivial
        case h_2 e known => exact .passes _ _ _ _ found (.looks e known) trivial trivial
      case h_2 => exact .idle trivial trivial
  | read call =>
      dsimp only
      split
      case h_1 key e found =>
        split
        case h_1 => exact .idle trivial trivial
        case h_2 entry known =>
          split_ifs
          · exact .idle trivial trivial
          · exact .passes _ _ _ _ found (.answers e entry known) trivial trivial
      case h_2 => exact .idle trivial trivial
  | stopInformer clusterCode gvk =>
      dsimp only
      split
      case h_1 => exact .idle trivial trivial
      case h_2 e found => exact .stops _ e found trivial trivial
  | sync e =>
      dsimp only
      split
      case h_1 => exact .idle trivial trivial
      case h_2 entry known =>
        split_ifs with none_
        · exact .idle trivial trivial
        · exact .syncs e entry known none_ trivial trivial

variable {s t : InformerManager}

theorem calls_setCall {call other : Nat} {key key' : GvrKey} {phase phase' : CallPhase}
    (found : (s.setCall call key phase).calls other = some ⟨key', phase'⟩) :
    other = call ∧ key' = key ∧ phase' = phase ∨ s.calls other = some ⟨key', phase'⟩ := by
  by_cases same : other = call
  · subst same
    cases (Function.update_self ..).symm.trans found
    exact .inl ⟨rfl, rfl, rfl⟩
  · exact .inr ((Function.update_of_ne same ..).symm.trans found)

theorem entries_setEntry {e i : Nat} {f : InformerEntry → InformerEntry} {x : InformerEntry}
    (known : (s.setEntry e f).entries[i]? = some x) :
    ∃ x', s.entries[i]? = some x' ∧ x = if e = i then f x' else x' := by
  simp only [setEntry, List.getElem?_modify] at known
  obtain ⟨x', known', rfl⟩ := Option.map_eq_some_iff.1 known
  exact ⟨x', known', rfl⟩

theorem entries_setEntry_self {e : Nat} {f : InformerEntry → InformerEntry} {x : InformerEntry}
    (known : s.entries[e]? = some x) : (s.setEntry e f).entries[e]? = some (f x) := by
  simp [setEntry, known]

/-! ## Readiness -/

theorem visible_setCall {call e : Nat} {key : GvrKey} {phase : CallPhase}
    (visible : (s.setCall call key phase).Visible e) : s.Visible e ∨ phase = .reading e := by
  rcases visible with table | ⟨other, key', found⟩
  · exact .inl (.inl table)
  · rcases calls_setCall found with ⟨-, -, same⟩ | old
    · exact .inr same.symm
    · exact .inl (.inr ⟨other, key', old⟩)

/-- No entry becomes ready or loses its list. -/
theorem ReadySynced.setEntry (good : s.ReadySynced) (e : Nat) {f : InformerEntry → InformerEntry}
    (ready : ∀ x, (f x).ready = x.ready) (synced : ∀ x, x.synced = true → (f x).synced = true) :
    (s.setEntry e f).ReadySynced := by
  refine ⟨fun i x seen known isReady => ?_, good.answers⟩
  obtain ⟨x', known', rfl⟩ := entries_setEntry known
  have before := good.entries i x' seen known'
  split_ifs at isReady ⊢
  · exact synced x' (before ((ready x').symm.trans isReady))
  · exact before isReady

theorem ReadySynced.setCall (good : s.ReadySynced) {call : Nat} {key : GvrKey}
    {phase : CallPhase} (reads : ∀ e, phase = .reading e → s.Visible e)
    (answers : ∀ e ready synced, phase = .answered e ready synced → ready = true → synced = true) :
    (s.setCall call key phase).ReadySynced := by
  constructor
  · intro e x seen known ready
    have before : s.Visible e := (visible_setCall seen).elim id (reads e)
    exact good.entries e x before known ready
  · intro other key' e ready synced found
    rcases calls_setCall found with ⟨-, -, same⟩ | old
    · exact answers e ready synced same.symm
    · exact good.answers other key' e ready synced old

theorem ReadySynced.put (good : s.ReadySynced) (key : GvrKey) : (s.put key).ReadySynced := by
  constructor
  · intro e x seen known ready
    by_cases new : e < s.entries.length
    · have known' : s.entries[e]? = some x := by
        rw [← known]
        exact (List.getElem?_append_left new).symm
      refine good.entries e x (seen.imp_left ?_) known' ready
      rintro ⟨key', found⟩
      by_cases same : key' = key
      · subst same
        cases (Function.update_self ..).symm.trans found
        exact absurd new (lt_irrefl _)
      · exact ⟨key', (Function.update_of_ne same ..).symm.trans found⟩
    · -- The entry is the new one, which nobody has made ready.
      rw [InformerManager.put, List.getElem?_append_right (Nat.le_of_not_lt new)] at known
      have fresh : x = .new := by simpa using List.mem_of_getElem? known
      rw [fresh] at ready
      cases ready
  · exact good.answers

theorem ReadySynced.remove (good : s.ReadySynced) (key : GvrKey) :
    ReadySynced { s with informers := Function.update s.informers key none } := by
  refine ⟨fun e x seen known => good.entries e x (seen.imp_left ?_) known, good.answers⟩
  rintro ⟨key', found⟩
  by_cases same : key' = key
  · subst same
    cases (Function.update_self ..).symm.trans found
  · exact ⟨key', (Function.update_of_ne same ..).symm.trans found⟩

theorem ReadySynced.step_iff {step : InformerStep} (good : s.ReadySynced)
    (steps : s.Steps step t) : t.ReadySynced ↔ s.WaitsForSync step := by
  cases steps with
  | idle waits => exact iff_of_true good waits
  | begins call key phase first waits =>
      refine iff_of_true (good.setCall ?_ ?_) waits
      · rintro e rfl
        simp at first
      · rintro e ready synced rfl
        simp at first
  | passes call key p p' found passes waits =>
      refine iff_of_true (good.setCall ?_ ?_) waits
      · rintro e rfl
        cases passes with
        | looks e listed => exact .inl ⟨key, listed⟩
      · rintro e ready synced rfl
        cases passes with
        | answers e entry known =>
            exact good.entries e entry (.inr ⟨call, key, found⟩) known
  | puts call key entry found absent waits =>
      refine iff_of_true ?_ waits
      cases entry with
      | none => exact (good.put key).setCall nofun nofun
      | some e => exact (good.put key).setCall nofun nofun
  | locks call key e entry found known free unstarted waits =>
      refine iff_of_true (ReadySynced.setCall ?_ nofun nofun) waits
      exact good.setEntry e (fun _ => rfl) fun _ synced => synced
  | awaits call key e entry found known waits =>
      rw [waits]
      constructor
      · intro after seen
        refine after.entries e { entry with started := true, ready := true, held := false }
          (seen.imp_right ?_) (entries_setEntry_self known) rfl
        rintro ⟨other, key', reads⟩
        have differs : other ≠ call := by
          rintro rfl
          cases found.symm.trans reads
        exact ⟨other, key', (Function.update_of_ne differs ..).trans reads⟩
      · intro synced
        refine ReadySynced.setCall (s := s.setEntry e _) ⟨fun i x seen known' ready => ?_,
          good.answers⟩ nofun nofun
        obtain ⟨x', known'', rfl⟩ := entries_setEntry known'
        split_ifs at ready ⊢ with same
        · subst same
          obtain rfl := Option.some.inj (known.symm.trans known'')
          exact synced seen
        · exact good.entries i x' seen known'' ready
  | stops key e found waits =>
      refine iff_of_true ?_ waits
      exact (good.remove key).setEntry e (fun _ => rfl) fun _ synced => synced
  | syncs e entry known runs waits =>
      exact iff_of_true (good.setEntry e (fun _ => rfl) fun _ _ => rfl) waits

/-- In a run `GetIndexer` never reports, or would report, an informer as ready that has not synced,
exactly when no wait for an entry in its sight ends by timeout or stop before that. -/
theorem ready_synced_iff (gvkToGVR : GVK → GVR) (steps : List InformerStep) :
    (∀ n, (Transition.exec (next gvkToGVR) start (steps.take n)).ReadySynced) ↔
      Transition.Along WaitsForSync (next gvkToGVR) start steps := by
  apply Transition.always_iff_along (I := fun _ => True)
  · intros
    trivial
  · intro s step _ good
    exact good.step_iff (next_steps gvkToGVR s step)
  · trivial
  · exact ⟨fun _ _ _ known => absurd known (Option.some_ne_none _).symm, nofun⟩

/-- The guess for most kinds. -/
def regularPlural (gvk : GVK) : GVR := ⟨gvk.group, gvk.version, Text.toLower gvk.kind ++ "s"⟩

def deployments : GVK := ⟨"apps", "v1", "Deployment"⟩

/-- A first call leaves its entry in the table; the wait of a second one times out, and a lookup
finds the informer ready. -/
def lateSync : List InformerStep :=
  [.startInformer 0 "prod" deployments, .check 0, .recheck 0 (.ok ()),
    .startInformer 1 "prod" deployments, .check 1, .recheck 1 (.ok ()), .lock 1, .await 1 .timeout,
    .getIndexer 2 "prod" deployments, .lookUp 2, .read 2]

theorem timeout_is_ready : ¬(Transition.exec (next regularPlural) start lateSync).ReadySynced := by
  have answer : (Transition.exec (next regularPlural) start lateSync).calls 2 =
      some ⟨⟨"prod", ⟨"apps", "v1", "deployments"⟩⟩, .answered 0 true false⟩ := by
    decide +kernel
  intro good
  cases good.answers 2 _ 0 true false answer rfl

/-! ## Starts -/

/-- Nothing has ever been put in the table. -/
structure Empty (s : InformerManager) : Prop where
  table : ∀ key, s.informers key = none
  entries : s.entries = []
  early : ∀ call c, s.calls call = some c → c.phase.early = true

theorem Empty.setCall (empty : s.Empty) (call : Nat) (key : GvrKey) {phase : CallPhase}
    (early : phase.early = true) : (s.setCall call key phase).Empty := by
  refine ⟨empty.table, empty.entries, ?_⟩
  rintro other ⟨key', phase'⟩ found
  rcases calls_setCall found with ⟨-, -, rfl⟩ | old
  · exact early
  · exact empty.early other _ old

theorem Empty.startsSafely (empty : s.Empty) : s.StartsSafely := by
  have none_ (entry : InformerEntry) : entry ∉ s.entries := by
    rw [empty.entries]
    exact List.not_mem_nil
  refine ⟨fun call key panicked => ?_, fun entry mem => absurd mem (none_ entry),
    fun _ entry mem => absurd mem (none_ entry)⟩
  cases empty.early call _ panicked

/-- While nothing is in the table, a step either leaves it so, or puts the first entry there and
dereferences nil. -/
theorem Empty.step {step : InformerStep} (empty : s.Empty) (steps : s.Steps step t) :
    s.NoClient step ∧ t.Empty ∨ ¬s.NoClient step ∧ ¬t.StartsSafely := by
  have noEntry {e : Nat} {entry : InformerEntry} (known : s.entries[e]? = some entry) : False := by
    rw [empty.entries] at known
    cases known
  have noKey {key : GvrKey} {e : Nat} (found : s.informers key = some e) : False := by
    cases (empty.table key).symm.trans found
  cases steps with
  | idle waits noClient => exact .inl ⟨noClient, empty⟩
  | begins call key phase first waits noClient =>
      refine .inl ⟨noClient, empty.setCall call key ?_⟩
      rcases first with rfl | rfl <;> rfl
  | passes call key p p' found passes waits noClient =>
      refine .inl ⟨noClient, empty.setCall call key ?_⟩
      have early := empty.early call _ found
      cases passes with
      | finds e listed => exact (noKey listed).elim
      | misses => rfl
      | finds_started e listed => exact (noKey listed).elim
      | refinds_started entry e listed => exact (noKey listed).elim
      | goes_on e e' listed => exact (noKey listed).elim
      | panics e listed => exact (noKey listed).elim
      | refused => rfl
      | waited => cases early
      | misses_indexer => rfl
      | looks e listed => exact (noKey listed).elim
      | answers => cases early
  | puts call key entry found absent waits client =>
      cases entry with
      | some e => cases empty.early call _ found
      | none =>
          refine .inr ⟨client, fun safe => safe.noPanic call key ?_⟩
          exact Function.update_self ..
  | locks call key e entry found known => exact (noEntry known).elim
  | awaits call key e entry found known => exact (noEntry known).elim
  | stops key e found => exact (noKey found).elim
  | syncs e entry known => exact (noEntry known).elim

/-- Starts are safe in a run exactly when no call of `StartInformer` gets a client: the first one
that does puts an entry in the table and dereferences nil. -/
theorem starts_safely_iff (gvkToGVR : GVK → GVR) (steps : List InformerStep) :
    (∀ n, (Transition.exec (next gvkToGVR) start (steps.take n)).StartsSafely) ↔
      Transition.Along NoClient (next gvkToGVR) start steps := by
  apply Transition.always_iff_along_of (I := Empty)
  · intro s step empty _ safe
    rcases empty.step (next_steps gvkToGVR s step) with ⟨-, stays⟩ | ⟨-, broken⟩
    · exact stays
    · exact absurd safe broken
  · intro s step empty _
    rcases empty.step (next_steps gvkToGVR s step) with ⟨noClient, stays⟩ | ⟨client, broken⟩
    · exact iff_of_true stays.startsSafely noClient
    · exact iff_of_false broken client
  · exact ⟨fun _ => rfl, rfl, nofun⟩
  · exact Empty.startsSafely ⟨fun _ => rfl, rfl, nofun⟩

def firstStart : List InformerStep :=
  [.startInformer 0 "prod" deployments, .check 0, .recheck 0 (.ok ())]

theorem first_start_panics :
    ¬(Transition.exec (next regularPlural) start firstStart).StartsSafely := by
  intro safe
  apply safe.noPanic 0 ⟨"prod", ⟨"apps", "v1", "deployments"⟩⟩
  decide +kernel

/-- A call that waits has started `Run`. -/
structure RunsOnce (s : InformerManager) : Prop where
  entries : ∀ entry ∈ s.entries, InformerEntry.RunsOnce entry
  waiting : ∀ call key e, s.calls call = some ⟨key, .waiting e⟩ →
    ∃ entry, s.entries[e]? = some entry ∧ entry.runs = 1

theorem RunsOnce.setCall (good : s.RunsOnce) (call : Nat) (key : GvrKey) {phase : CallPhase}
    (waits : ∀ e, phase = .waiting e → ∃ entry, s.entries[e]? = some entry ∧ entry.runs = 1) :
    (s.setCall call key phase).RunsOnce := by
  refine ⟨good.entries, fun other key' e found => ?_⟩
  rcases calls_setCall found with ⟨-, -, same⟩ | old
  · exact waits e same.symm
  · exact good.waiting other key' e old

/-- What happens to one entry happens to all of its kind. -/
theorem RunsOnce.setEntry (good : s.RunsOnce) {e : Nat} {f : InformerEntry → InformerEntry}
    (keeps : ∀ x, s.entries[e]? = some x → InformerEntry.RunsOnce (f x))
    (runs : ∀ x, s.entries[e]? = some x → x.runs = 1 → (f x).runs = 1) :
    (s.setEntry e f).RunsOnce := by
  constructor
  · intro x mem
    obtain ⟨i, known⟩ := List.mem_iff_getElem?.1 mem
    obtain ⟨x', known', rfl⟩ := entries_setEntry known
    split_ifs with same
    · exact keeps x' (same ▸ known')
    · exact good.entries x' (List.mem_of_getElem? known')
  · intro call key i found
    obtain ⟨x, known, once⟩ := good.waiting call key i found
    by_cases same : e = i
    · subst same
      exact ⟨f x, entries_setEntry_self known, runs x known once⟩
    · refine ⟨x, ?_, once⟩
      simpa [InformerManager.setEntry, same] using known

theorem RunsOnce.put (good : s.RunsOnce) (key : GvrKey) : (s.put key).RunsOnce := by
  constructor
  · intro x mem
    rcases List.mem_append.1 mem with old | new
    · exact good.entries x old
    · rw [List.mem_singleton.1 new]
      exact .inl ⟨rfl, rfl, rfl⟩
  · intro call key' e found
    obtain ⟨x, known, once⟩ := good.waiting call key' e found
    refine ⟨x, ?_, once⟩
    obtain ⟨bound, -⟩ := List.getElem?_eq_some_iff.1 known
    exact (List.getElem?_append_left bound).trans known

theorem RunsOnce.step {step : InformerStep} (good : s.RunsOnce) (steps : s.Steps step t) :
    t.RunsOnce := by
  have entry_at {e : Nat} {x : InformerEntry} (known : s.entries[e]? = some x) :
      InformerEntry.RunsOnce x := good.entries x (List.mem_of_getElem? known)
  cases steps with
  | idle => exact good
  | begins call key phase first =>
      apply good.setCall call key
      rintro e rfl
      simp at first
  | passes call key p p' found passes =>
      apply good.setCall call key
      rintro e rfl
      cases passes
  | puts call key entry found absent =>
      cases entry with
      | none => exact (good.put key).setCall call key nofun
      | some e => exact (good.put key).setCall call key nofun
  | locks call key e entry found known free unstarted =>
      have none_ : entry.runs = 0 := by
        rcases entry_at known with ⟨runs, -, -⟩ | ⟨-, started | held⟩
        · exact runs
        · cases unstarted.symm.trans started
        · cases free.symm.trans held
      have own {x : InformerEntry} (known' : s.entries[e]? = some x) : x.runs = 0 := by
        rw [← Option.some.inj (known.symm.trans known')]
        exact none_
      refine RunsOnce.setCall (good.setEntry ?_ ?_) call key ?_
      · intro x known'
        exact .inr ⟨congrArg (· + 1) (own known'), .inr rfl⟩
      · intro x known' once
        cases (own known').symm.trans once
      · rintro e' ⟨⟩
        exact ⟨_, entries_setEntry_self known, congrArg (· + 1) none_⟩
  | awaits call key e entry found known =>
      have own {x : InformerEntry} (known' : s.entries[e]? = some x) : x.runs = 1 := by
        obtain ⟨y, known'', once⟩ := good.waiting call key e found
        rw [← Option.some.inj (known''.symm.trans known')]
        exact once
      refine RunsOnce.setCall (good.setEntry ?_ ?_) call key nofun
      · intro x known'
        have once : x.runs = 1 := own known'
        exact .inr ⟨once, .inl rfl⟩
      · exact fun x known' once => once
  | stops key e found =>
      have after := good.setEntry (e := e) (f := ({ · with stopped := true }))
        (fun x known => (entry_at known : x.RunsOnce)) fun x known once => once
      exact ⟨after.entries, after.waiting⟩
  | syncs e entry known runs =>
      exact good.setEntry (fun x known => (entry_at known : x.RunsOnce)) fun x known once => once

/-- In no run is `Run` started twice for an entry. -/
theorem run_at_most_once (gvkToGVR : GVK → GVR) (steps : List InformerStep) :
    ∀ entry ∈ (Transition.exec (next gvkToGVR) start steps).entries, entry.runs ≤ 1 := by
  have invariant : Transition.Invariant (.ofFn (· = start) (next gvkToGVR)) RunsOnce := by
    constructor
    · rintro s rfl
      exact ⟨nofun, nofun⟩
    · rintro s step t good rfl
      exact good.step (next_steps gvkToGVR s step)
  have good := invariant.holds (Transition.Reachable.exec steps (.init rfl))
  intro entry mem
  rcases good.entries entry mem with ⟨runs, -⟩ | ⟨runs, -⟩ <;> omega

end InformerManager

end K8sPlatform.Resource
