import K8sPlatform.Lib.Copies
import K8sPlatform.Lib.Transition
import K8sPlatform.Cluster.Manager

/-! # Cached clients, and the calls of the processes -/

namespace K8sPlatform.Clusters

open Errcode Crypto
open Kubeconfig (Ranging RestConfig)

universe u

variable {δ : Type u}

/-- `version` is the version of the row that the client was built from. -/
structure ClientEntry (δ : Type u) where
  restCfg : RestConfig
  dynCli : δ
  version : Nat

/-- A manager of a process, and the call that holds its lock. -/
structure Manager (δ : Type u) where
  kms : AESGCM
  clients : String → Option (ClientEntry δ)
  mu : Option Nat

/-- `GetDynamicClient`, of a row of the version. -/
def Manager.getDynamicClient (lib : Libraries) (newForConfig : RestConfig → Except String δ)
    (m : Manager δ) (t : Table) (x : Ranging) (clusterCode : String) (version : Nat) :
    Except Error (ClientEntry δ) × Manager δ :=
  if clusterCode = "" then (.error (.new .invalidArgument "cluster code 不能为空"), m)
  else
    match m.clients clusterCode with
    | some entry => (.ok entry, m)
    | none =>
      match decryptAndBuildConfig lib m.kms x t clusterCode with
      | .error err => (.error err, m)
      | .ok (restCfg, _) =>
        match newForConfig restCfg with
        | .error err =>
            (.error (.wrapMsg .clusterConnectFail err "创建 dynamic client 失败"), m)
        | .ok dynCli =>
            let entry : ClientEntry δ := ⟨restCfg, dynCli, version⟩
            (.ok entry, { m with clients := Function.update m.clients clusterCode (some entry) })

/-- Where a call is. A call of `Update` or `Delete` keeps the version that its statement left. -/
inductive Phase (δ : Type u)
  | looking
  | waiting
  | reading
  | building (restCfg : RestConfig) (version : Nat)
  | answered (result : Except Error (ClientEntry δ))
  | admitting (input : Option UpdateInput) (operatorId : Nat)
  | collecting (input : UpdateInput) (operatorId : Nat)
  | writing (input : UpdateInput) (updates : Updates)
  | fetching (version : Option Nat)
  | updated (version : Option Nat) (result : Except Error Cluster)
  | deleting
  | invalidating (version : Nat) (deletion : Bool)
  | deleted (version : Option Nat) (result : Except Error Unit)

/-- A call to a manager. `since` is the version of the row when the call began, `gone` whether the
cluster had been deleted, and `task` whether a worker makes the call for a task that it claims. -/
structure Call (δ : Type u) where
  manager : Nat
  code : String
  task : Bool
  since : Nat
  gone : Bool
  phase : Phase δ

/-- The processes over one table. `version` counts the kubeconfigs written over the first one of a
code, and the deletion. -/
structure Clients (δ : Type u) where
  table : Table
  version : String → Nat
  managers : Nat → Manager δ
  calls : Nat → Option (Call δ)

inductive Request
  | getDynamicClient (task : Bool)
  | update (input : Option UpdateInput) (operatorId : Nat)
  | delete
  deriving DecidableEq, Repr

/-- `call` begins a call, and `advance` is its next step. -/
inductive ClientStep
  | importCluster (manager : Nat) (x : Ranging) (nonce : Nonce) (name code : String) (raw : Bytes)
      (creatorId : Nat)
  | call (call manager : Nat) (code : String) (request : Request)
  | advance (call : Nat) (x : Ranging) (nonce : Nonce)

/-- The code is taken, by a row that has been deleted. -/
def Table.gone (t : Table) (code : String) : Bool :=
  t.any (·.code == code) && (t.find code).isNone

namespace Clients

def start (kms : Nat → AESGCM) : Clients δ where
  table := []
  version _ := 0
  managers m := ⟨kms m, fun _ => none, none⟩
  calls _ := none

def setPhase (s : Clients δ) (call : Nat) (c : Call δ) (phase : Phase δ) : Clients δ :=
  { s with calls := Function.update s.calls call (some { c with phase }) }

def setManager (s : Clients δ) (m : Nat) (f : Manager δ → Manager δ) : Clients δ :=
  { s with managers := Function.update s.managers m (f (s.managers m)) }

/-- `Lock` of a call, or `Unlock`. -/
def setLock (s : Clients δ) (m : Nat) (mu : Option Nat) : Clients δ :=
  s.setManager m fun manager => { manager with mu }

def setClient (s : Clients δ) (m : Nat) (code : String) (entry : Option (ClientEntry δ)) :
    Clients δ :=
  s.setManager m fun manager =>
    { manager with clients := Function.update manager.clients code entry }

def setTable (s : Clients δ) (t : Table) (code : String) (version : Nat) : Clients δ :=
  { s with table := t, version := Function.update s.version code version }

/-- A call's first phase. -/
def begin (code : String) : Request → Phase δ
  | .getDynamicClient _ =>
      if code = "" then .answered (.error (.new .invalidArgument "cluster code 不能为空"))
      else .looking
  | .update input operatorId => .admitting input operatorId
  | .delete =>
      if code = "" then .deleted none (.error (.new .invalidArgument "cluster code 不能为空"))
      else .deleting

def beginCall (s : Clients δ) (call m : Nat) (code : String) (request : Request) : Clients δ :=
  { s with
    calls := Function.update s.calls call (some
      { manager := m
        code
        task := request == .getDynamicClient true
        since := s.version code
        gone := s.table.gone code
        phase := begin code request }) }

variable (lib : Libraries) (newForConfig : RestConfig → Except String δ)

/-- The next step of a call: one look at the clients, one statement, or what is done under the
lock. A call that has to wait for the lock stays where it is. -/
def advance (s : Clients δ) (call : Nat) (c : Call δ) (x : Ranging) (nonce : Nonce) : Clients δ :=
  let m := s.managers c.manager
  match c.phase with
  | .looking =>
      if m.mu.isSome then s
      else
        match m.clients c.code with
        | some entry => s.setPhase call c (.answered (.ok entry))
        | none => s.setPhase call c .waiting
  | .waiting =>
      if m.mu.isSome then s
      else
        match m.clients c.code with
        | some entry => s.setPhase call c (.answered (.ok entry))
        | none => (s.setPhase call c .reading).setLock c.manager (some call)
  | .reading =>
      match decryptAndBuildConfig lib m.kms x s.table c.code with
      | .error err => (s.setPhase call c (.answered (.error err))).setLock c.manager none
      | .ok (restCfg, _) => s.setPhase call c (.building restCfg (s.version c.code))
  | .building restCfg version =>
      match newForConfig restCfg with
      | .error err =>
          (s.setPhase call c (.answered (.error
            (.wrapMsg .clusterConnectFail err "创建 dynamic client 失败")))).setLock c.manager none
      | .ok dynCli =>
          ((s.setPhase call c (.answered (.ok ⟨restCfg, dynCli, version⟩))).setClient c.manager
            c.code (some ⟨restCfg, dynCli, version⟩)).setLock c.manager none
  | .admitting input operatorId =>
      match admitUpdate s.table c.code input with
      | .error err => s.setPhase call c (.updated none (.error err))
      | .ok input => s.setPhase call c (.collecting input operatorId)
  | .collecting input operatorId =>
      match collectUpdates lib m.kms x nonce s.table c.code input operatorId with
      | .error err => s.setPhase call c (.updated none (.error err))
      | .ok updates => s.setPhase call c (.writing input updates)
  | .writing input updates =>
      match s.table.update c.code updates with
      | .error err => s.setPhase call c (.updated none (.error (.wrap .databaseError err)))
      | .ok t =>
          if input.newRawKubeconfig.isEmpty then
            (s.setTable t c.code (s.version c.code)).setPhase call c (.fetching none)
          else
            let version := s.version c.code + if (s.table.find c.code).isSome then 1 else 0
            (s.setTable t c.code version).setPhase call c (.invalidating version false)
  | .deleting =>
      if (s.table.find c.code).isNone then
        s.setPhase call c (.deleted none (.error (.new .notFound "集群不存在")))
      else
        (s.setTable (s.table.delete c.code) c.code (s.version c.code + 1)).setPhase call c
          (.invalidating (s.version c.code + 1) true)
  | .invalidating version deletion =>
      if m.mu.isSome then s
      else
        (s.setClient c.manager c.code none).setPhase call c
          (if deletion then .deleted (some version) (.ok ()) else .fetching (some version))
  | .fetching version =>
      match s.table.find c.code with
      | none =>
          s.setPhase call c (.updated version (.error (.wrap .databaseError "record not found")))
      | some row => s.setPhase call c (.updated version (.ok row.withoutKubeconfig))
  | .answered _ | .updated .. | .deleted .. => s

def next (s : Clients δ) : ClientStep → Clients δ
  | .importCluster m x nonce name code raw creatorId =>
      { s with
        table := (importCluster lib (s.managers m).kms x nonce s.table name code raw creatorId).2 }
  | .call call m code request =>
      match s.calls call with
      | some _ => s
      | none => s.beginCall call m code request
  | .advance call x nonce =>
      match s.calls call with
      | none => s
      | some c => s.advance lib newForConfig call c x nonce

/-- Any calls of any processes, interleaved in any way. -/
def runs (kms : Nat → AESGCM) : Transition.System (Clients δ) ClientStep :=
  .ofFn (· = start kms) (next lib newForConfig)

section Alone

variable {lib newForConfig} {s : Clients δ} {call m : Nat}

theorem unlock_of_free {m : Manager δ} (free : m.mu = none) : { m with mu := none } = m := by
  rw [← free]

/-- Without anything in between, the steps of a get are those of `getDynamicClient`. -/
theorem getDynamicClient_alone (idle : s.calls call = none) (free : (s.managers m).mu = none)
    (code : String) (task : Bool) (x : Ranging) (nonce : Nonce) :
    let after := Transition.exec (next lib newForConfig) s
      (.call call m code (.getDynamicClient task) :: List.replicate 4 (.advance call x nonce))
    let result := (s.managers m).getDynamicClient lib newForConfig s.table x code (s.version code)
    after.managers m = result.2 ∧
      ∃ c, after.calls call = some c ∧ c.phase = .answered result.1 := by
  unfold Manager.getDynamicClient
  by_cases named : code = ""
  · simp [Transition.exec, List.replicate_succ, next, idle, beginCall, begin, named, advance]
  cases kept : (s.managers m).clients code with
  | some entry =>
      simp [Transition.exec, List.replicate_succ, next, idle, beginCall, begin, named, advance,
        free, kept, setPhase]
  | none =>
  rw [if_neg named]
  dsimp only
  cases reads : decryptAndBuildConfig lib (s.managers m).kms x s.table code with
  | error err =>
      simp [Transition.exec, List.replicate_succ, next, idle, beginCall, begin, named, advance,
        free, kept, setPhase, reads, setLock, setManager, unlock_of_free free]
  | ok read =>
  dsimp only
  cases builds : newForConfig read.1 <;>
    simp [Transition.exec, List.replicate_succ, next, idle, beginCall, begin, named, advance, free,
      kept, setPhase, reads, builds, setLock, setClient, setManager, unlock_of_free free]

/-- Without anything in between, the steps of a deletion are those of `delete`. -/
theorem delete_alone (idle : s.calls call = none) (free : (s.managers m).mu = none) (code : String)
    (x : Ranging) (nonce : Nonce) :
    let after := Transition.exec (next lib newForConfig) s
      (.call call m code .delete :: List.replicate 2 (.advance call x nonce))
    after.table = (Clusters.delete s.table code).2 ∧ ∃ c v, after.calls call = some c ∧
      c.phase = .deleted v (Clusters.delete s.table code).1 := by
  unfold Clusters.delete
  by_cases named : code = ""
  · simp [Transition.exec, List.replicate_succ, next, idle, beginCall, begin, named, advance]
  cases found : s.table.find code with
  | none =>
      simp [Transition.exec, List.replicate_succ, next, idle, beginCall, begin, named, advance,
        found, setPhase]
  | some row =>
      simp [Transition.exec, List.replicate_succ, next, idle, beginCall, begin, named, advance,
        found, setPhase, free, setTable, setClient, setManager]

/-- Without anything in between, the steps of an update are those of `update`. -/
theorem update_alone (idle : s.calls call = none) (free : (s.managers m).mu = none) (code : String)
    (input : Option UpdateInput) (operatorId : Nat) (x : Ranging) (nonce : Nonce) :
    let after := Transition.exec (next lib newForConfig) s
      (.call call m code (.update input operatorId) :: List.replicate 5 (.advance call x nonce))
    let result := Clusters.update lib (s.managers m).kms x nonce s.table code input operatorId
    after.table = result.2 ∧ ∃ c v, after.calls call = some c ∧ c.phase = .updated v result.1 := by
  unfold Clusters.update
  cases admitted : admitUpdate s.table code input with
  | error err =>
      simp [Transition.exec, List.replicate_succ, next, idle, beginCall, begin, advance, setPhase,
        admitted]
  | ok i =>
  dsimp only
  cases collected : collectUpdates lib (s.managers m).kms x nonce s.table code i operatorId with
  | error err =>
      simp [Transition.exec, List.replicate_succ, next, idle, beginCall, begin, advance, setPhase,
        admitted, collected]
  | ok u =>
  dsimp only
  cases written : s.table.update code u with
  | error err =>
      simp [Transition.exec, List.replicate_succ, next, idle, beginCall, begin, advance, setPhase,
        admitted, collected, written]
  | ok t =>
  dsimp only
  cases found : t.find code <;> cases raw : i.newRawKubeconfig.isEmpty <;>
    simp [Transition.exec, List.replicate_succ, next, idle, beginCall, begin, advance, setPhase,
      admitted, collected, written, free, setTable, setClient, setManager, raw, found]

end Alone

/-! ## What a step does -/

section Set

variable (s : Clients δ) (call : Nat) (c : Call δ) (phase : Phase δ) (m : Nat) (code : String)

@[simp] theorem setPhase_self :
    (s.setPhase call c phase).calls call = some { c with phase } := Function.update_self ..

theorem setPhase_of_ne {s : Clients δ} {call other : Nat} {c : Call δ} {phase : Phase δ}
    (ne : other ≠ call) : (s.setPhase call c phase).calls other = s.calls other :=
  Function.update_of_ne ne ..

@[simp] theorem setPhase_managers : (s.setPhase call c phase).managers = s.managers := rfl

@[simp] theorem setPhase_version : (s.setPhase call c phase).version = s.version := rfl

@[simp] theorem setTable_version (t : Table) (version : Nat) :
    (s.setTable t code version).version code = version := Function.update_self ..

@[simp] theorem setManager_self (f : Manager δ → Manager δ) :
    (s.setManager m f).managers m = f (s.managers m) := Function.update_self ..

theorem setManager_of_ne {s : Clients δ} {m other : Nat} {f : Manager δ → Manager δ}
    (ne : other ≠ m) : (s.setManager m f).managers other = s.managers other :=
  Function.update_of_ne ne ..

end Set

end Clients

/-- The phases of a call that holds the lock. -/
def Phase.locks : Phase δ → Bool
  | .reading | .building .. => true
  | _ => false

/-- The phases of an update or a deletion that has written nothing. -/
def Phase.unwritten : Phase δ → Bool
  | .admitting .. | .collecting .. | .writing .. | .deleting => true
  | .updated none _ | .deleted none _ => true
  | _ => false

/-- The version of an update or a deletion whose invalidation is done. -/
def Phase.cleared : Phase δ → Option Nat
  | .fetching version | .updated version _ | .deleted version _ => version
  | _ => none

/-- The same of one that has returned. -/
def Phase.returned : Phase δ → Option Nat
  | .updated version _ | .deleted version _ => version
  | _ => none

theorem Phase.locks_of_unwritten {phase : Phase δ} (unwritten : phase.unwritten = true) :
    phase.locks = false := by
  cases phase with
  | reading => cases unwritten
  | building restCfg version => cases unwritten
  | _ => rfl

theorem Phase.cleared_of_unwritten {phase : Phase δ} (unwritten : phase.unwritten = true) :
    phase.cleared = none := by
  cases phase with
  | fetching version => cases unwritten
  | updated version result =>
      cases version with
      | none => rfl
      | some v => cases unwritten
  | deleted version result =>
      cases version with
      | none => rfl
      | some v => cases unwritten
  | _ => rfl

theorem Phase.cleared_of_returned {phase : Phase δ} {v : Nat}
    (returned : phase.returned = some v) : phase.cleared = some v := by
  cases phase with
  | updated version result => exact returned
  | deleted version result => exact returned
  | _ => cases returned

namespace Clients

variable (lib : Libraries) (newForConfig : RestConfig → Except String δ)

/-- What the next step of a call comes to. -/
inductive Advances (s : Clients δ) (call : Nat) (c : Call δ) : Clients δ → Prop
  | wait : Advances s call c s
  | hit {entry} (phase : c.phase = .looking ∨ c.phase = .waiting)
      (free : (s.managers c.manager).mu = none)
      (kept : (s.managers c.manager).clients c.code = some entry) :
      Advances s call c (s.setPhase call c (.answered (.ok entry)))
  | miss (phase : c.phase = .looking) : Advances s call c (s.setPhase call c .waiting)
  | lock (phase : c.phase = .waiting) (free : (s.managers c.manager).mu = none) :
      Advances s call c ((s.setPhase call c .reading).setLock c.manager (some call))
  | read {x restCfg plain} (phase : c.phase = .reading)
      (reads : decryptAndBuildConfig lib (s.managers c.manager).kms x s.table c.code =
        .ok (restCfg, plain)) :
      Advances s call c (s.setPhase call c (.building restCfg (s.version c.code)))
  | fail {err} (phase : c.phase.locks = true) :
      Advances s call c ((s.setPhase call c (.answered (.error err))).setLock c.manager none)
  | build {restCfg version dynCli} (phase : c.phase = .building restCfg version)
      (builds : newForConfig restCfg = .ok dynCli) :
      Advances s call c
        (((s.setPhase call c (.answered (.ok ⟨restCfg, dynCli, version⟩))).setClient c.manager
          c.code (some ⟨restCfg, dynCli, version⟩)).setLock c.manager none)
  | check {phase} (before : c.phase.unwritten = true) (after : phase.unwritten = true) :
      Advances s call c (s.setPhase call c phase)
  | touch {updates t} (before : c.phase.unwritten = true)
      (updates_ : s.table.update c.code updates = .ok t) :
      Advances s call c ((s.setTable t c.code (s.version c.code)).setPhase call c (.fetching none))
  | update {updates t version} (before : c.phase.unwritten = true)
      (updates_ : s.table.update c.code updates = .ok t)
      (counts : version = s.version c.code + if (s.table.find c.code).isSome then 1 else 0) :
      Advances s call c
        ((s.setTable t c.code version).setPhase call c (.invalidating version false))
  | delete (before : c.phase.unwritten = true) (found : (s.table.find c.code).isSome = true) :
      Advances s call c
        ((s.setTable (s.table.delete c.code) c.code (s.version c.code + 1)).setPhase call c
          (.invalidating (s.version c.code + 1) true))
  | invalidate {version deletion} (phase : c.phase = .invalidating version deletion)
      (free : (s.managers c.manager).mu = none) :
      Advances s call c ((s.setClient c.manager c.code none).setPhase call c
        (if deletion then .deleted (some version) (.ok ()) else .fetching (some version)))
  | fetch {version result} (phase : c.phase = .fetching version) :
      Advances s call c (s.setPhase call c (.updated version result))

variable {lib newForConfig} {s : Clients δ} {call : Nat} {c : Call δ}

theorem advance_advances (lib : Libraries) (newForConfig : RestConfig → Except String δ)
    (s : Clients δ) (call : Nat) (c : Call δ) (x : Ranging) (nonce : Nonce) :
    Advances lib newForConfig s call c (s.advance lib newForConfig call c x nonce) := by
  unfold advance
  dsimp only
  cases phase : c.phase with
  | looking =>
      cases free : (s.managers c.manager).mu with
      | some holder => exact .wait
      | none =>
          cases kept : (s.managers c.manager).clients c.code with
          | some entry => exact .hit (.inl phase) free kept
          | none => exact .miss phase
  | waiting =>
      cases free : (s.managers c.manager).mu with
      | some holder => exact .wait
      | none =>
          cases kept : (s.managers c.manager).clients c.code with
          | some entry => exact .hit (.inr phase) free kept
          | none => exact .lock phase free
  | reading =>
      dsimp only
      cases reads : decryptAndBuildConfig lib (s.managers c.manager).kms x s.table c.code with
      | error err => exact .fail (by rw [phase]; rfl)
      | ok read => exact .read phase reads
  | building restCfg version =>
      dsimp only
      cases builds : newForConfig restCfg with
      | error err => exact .fail (by rw [phase]; rfl)
      | ok dynCli => exact .build phase builds
  | answered result => exact .wait
  | admitting input operatorId =>
      have before : c.phase.unwritten = true := by rw [phase]; rfl
      dsimp only
      split
      · exact .check before rfl
      · exact .check before rfl
  | collecting input operatorId =>
      have before : c.phase.unwritten = true := by rw [phase]; rfl
      dsimp only
      split
      · exact .check before rfl
      · exact .check before rfl
  | writing input updates =>
      have before : c.phase.unwritten = true := by rw [phase]; rfl
      dsimp only
      cases updates_ : s.table.update c.code updates with
      | error err => exact .check before rfl
      | ok t =>
          dsimp only
          split
          · exact .touch before updates_
          · exact .update before updates_ rfl
  | fetching version =>
      dsimp only
      split
      · exact .fetch phase
      · exact .fetch phase
  | updated version result => exact .wait
  | deleting =>
      have before : c.phase.unwritten = true := by rw [phase]; rfl
      dsimp only
      cases found : s.table.find c.code with
      | none => exact .check before rfl
      | some row => exact .delete before (by rw [found]; rfl)
  | invalidating version deletion =>
      cases free : (s.managers c.manager).mu with
      | some holder => exact .wait
      | none => exact .invalidate phase free
  | deleted version result => exact .wait

variable (lib newForConfig)

/-- What a step of the processes comes to. -/
inductive Steps (s : Clients δ) : Clients δ → Prop
  | stay : Steps s s
  | importCluster {kms x nonce name code raw creatorId} :
      Steps s { s with table := (importCluster lib kms x nonce s.table name code raw creatorId).2 }
  | begin {call m code request} (idle : s.calls call = none) :
      Steps s (s.beginCall call m code request)
  | advance {call c s'} (called : s.calls call = some c)
      (advances : Advances lib newForConfig s call c s') : Steps s s'

theorem next_steps (s : Clients δ) (e : ClientStep) :
    Steps lib newForConfig s (s.next lib newForConfig e) := by
  unfold next
  cases e with
  | importCluster m x nonce name code raw creatorId => exact .importCluster
  | call call m code request =>
      dsimp only
      cases idle : s.calls call with
      | some c => exact .stay
      | none => exact .begin idle
  | advance call x nonce =>
      dsimp only
      cases called : s.calls call with
      | none => exact .stay
      | some c => exact .advance called (advance_advances lib newForConfig s call c x nonce)

end Clients

end K8sPlatform.Clusters
