import K8sPlatform.Backup.Handler
import K8sPlatform.Backup.Worker

/-! # The scope of a batch backup, from the request to the calls of the worker -/

namespace K8sPlatform.Backup

open Errcode Auth

/-- The comma-separated pieces of the elements of a list. -/
def pieces (xs : List String) : List String := xs.flatMap (Text.split ',')

theorem pieces_ne_nil {xs : List String} (h : xs ≠ []) : pieces xs ≠ [] := by
  obtain ⟨x, mem⟩ := List.exists_mem_of_ne_nil xs h
  obtain ⟨piece, inPiece⟩ := List.exists_mem_of_ne_nil _ (Text.split_ne_nil ',' x)
  exact List.ne_nil_of_mem (List.mem_flatMap.2 ⟨x, mem, inPiece⟩)

/-- The call is on a namespaced kind, in one namespace that the tree has scope on. -/
def ApiCall.InScope (pt : PermissionTree) (code : String) (call : ApiCall) : Prop :=
  isNamespacedKind call.kind = true ∧
    ∃ ns, call.ns = some ns ∧ ns ≠ "" ∧ pt.hasNamespaceScope code ns = true

/-- No kind with a comma in it has a piece that names a cluster-scoped kind. -/
def KindsKept (kindFilter : List String) : Prop :=
  ∀ element ∈ kindFilter, ',' ∈ element.toList → ∀ kind ∈ Text.split ',' element,
    (resolveGVR kind).isOk = true → isNamespacedKind kind = true

/-- Each namespace with a comma in it falls into namespaces that the tree has scope on. -/
def NamespacesKept (pt : PermissionTree) (code : String) (namespaces : List String) : Prop :=
  ∀ element ∈ namespaces, ',' ∈ element.toList → ∀ ns ∈ Text.split ',' element,
    ns ≠ "" ∧ pt.hasNamespaceScope code ns = true

/-- Joining and splitting changes no element into one out of scope. Without a kind that
resolves, the namespaces do not matter. -/
def CommasKept (pt : PermissionTree) (code : String) (req : CreateBackupReq) : Prop :=
  KindsKept req.batchKindFilter ∧
    ((∃ kind ∈ pieces req.batchKindFilter, (resolveGVR kind).isOk = true) →
      NamespacesKept pt code req.batchNamespaces)

theorem join_eq_empty {xs : List String} (h : Text.join ',' xs = "") : xs = [] ∨ xs = [""] := by
  cases xs with
  | nil => exact .inl rfl
  | cons x rest =>
      cases rest with
      | nil => exact .inr (by simpa [Text.join] using h)
      | cons y rest =>
          have chars := congrArg String.toList h
          simp [Text.join] at chars

/-- The worker decodes the pieces of what was submitted. -/
theorem decodeList_join {xs : List String} (h : xs ≠ []) (h' : xs ≠ [""]) :
    decodeList (Text.join ',' xs) = pieces xs := by
  unfold decodeList
  split
  · rename_i empty
    obtain rfl | rfl := join_eq_empty empty
    · exact absurd rfl h
    · exact absurd rfl h'
  · exact Text.split_join ',' h

theorem not_resolves_empty : (resolveGVR "").isOk = false := by decide

/-- An empty filter has no kind that resolves, before and after. -/
theorem resolving_decodeList {xs : List String} {kind : String}
    (resolves : (resolveGVR kind).isOk = true) :
    kind ∈ decodeList (Text.join ',' xs) ↔ kind ∈ pieces xs := by
  by_cases empty : xs = []
  · simp [empty, Text.join, decodeList, pieces]
  by_cases blank : xs = [""]
  · have none_ : kind ≠ "" := by
      rintro rfl
      rw [not_resolves_empty] at resolves
      cases resolves
    have split : Text.split ',' "" = [""] := Text.split_of_not_mem (by simp)
    simp [blank, Text.join, decodeList, pieces, split, none_]
  · rw [decodeList_join empty blank]

theorem mem_batchKinds {kinds : List String} {kind : String × GVR} :
    kind ∈ batchKinds kinds ↔ kind.1 ∈ kinds ∧ resolveGVR kind.1 = .ok kind.2 := by
  obtain ⟨name, gvr⟩ := kind
  simp only [batchKinds, List.mem_filterMap, List.mem_eraseDups]
  constructor
  · rintro ⟨k, mem, found⟩
    cases resolved : resolveGVR k with
    | error err => simp [resolved, Except.toOption] at found
    | ok g =>
        obtain ⟨rfl, rfl⟩ : k = name ∧ g = gvr := by simpa [resolved, Except.toOption] using found
        exact ⟨mem, resolved⟩
  · rintro ⟨mem, resolved⟩
    exact ⟨name, mem, by simp [resolved, Except.toOption]⟩

/-! ## The calls -/

section Calls

variable {cfg : BackupConfig} {e : Environment} {task : BackupTask}

theorem mem_batchPairs {namespaces : List String} {kinds : List (String × GVR)}
    {pair : String × String × GVR} :
    pair ∈ batchPairs e namespaces kinds ↔ pair.1 ∈ namespaces ∧ pair.2 ∈ kinds := by
  obtain ⟨ns, kind⟩ := pair
  simp only [batchPairs, List.mem_flatMap, List.mem_map]
  constructor
  · rintro ⟨⟨ns', n⟩, mem, kind', ordered, eq⟩
    obtain ⟨rfl, rfl⟩ := Prod.mk.inj eq
    exact ⟨List.fst_mem_of_mem_zipIdx mem, (e.order_perm n kinds).mem_iff.1 ordered⟩
  · rintro ⟨mem, memKind⟩
    obtain ⟨n, found⟩ := List.mem_iff_getElem?.1 mem
    exact ⟨(ns, n), List.mem_zipIdx_iff_getElem?.2 found, kind,
      (e.order_perm n kinds).mem_iff.2 memKind, rfl⟩

/-- The call is one of a batch over these namespaces and kinds. -/
def ApiCall.Over (namespaces : List String) (kinds : List (String × GVR)) (call : ApiCall) : Prop :=
  ∃ ns ∈ namespaces, ∃ kind ∈ kinds, ∃ verb name, call = batchCall verb ns kind name

variable {namespaces : List String} {kinds : List (String × GVR)}

/-- What a list call finds lies in its own namespace and kind. -/
theorem mem_listPair {code : String} {pair : String × String × GVR} {found : List PlanItem}
    {item : PlanItem} (h : listPair e code pair = some found) (mem : item ∈ found) :
    item.ns = pair.1 ∧ item.kind = pair.2 := by
  unfold listPair at h
  split at h
  · cases h
  · cases h
    obtain ⟨name, _, rfl⟩ := List.mem_map.1 mem
    exact ⟨rfl, rfl⟩

theorem backupItem_calls {st : Storage} {p : BatchProgress} {item : PlanItem × Nat} :
    (backupItem cfg e task st p item).calls =
      p.calls ++ [batchCall .get item.1.ns item.1.kind item.1.name] := by
  unfold backupItem
  dsimp only
  split
  · rfl
  · split <;> rfl

theorem foldl_backupItem_calls {st : Storage} (items : List (PlanItem × Nat)) (p : BatchProgress) :
    (items.foldl (backupItem cfg e task st) p).calls =
      p.calls ++ items.map fun item => batchCall .get item.1.ns item.1.kind item.1.name := by
  induction items generalizing p with
  | nil => simp
  | cons item items ih => simp [ih, backupItem_calls]

theorem runBatch_calls {s : Store} {st : Storage} :
    (runBatch cfg e s task st namespaces kinds).calls =
      ((batchPairs e namespaces kinds).map fun pair => batchCall .list pair.1 pair.2 "") ++
        (batchItems e task.clusterCode (batchPairs e namespaces kinds)).zipIdx.map fun item =>
          batchCall .get item.1.ns item.1.kind item.1.name := by
  unfold runBatch
  dsimp only
  split
  · rename_i none_
    simp [none_]
  · split
    · rw [foldl_backupItem_calls]
    · split <;> rw [foldl_backupItem_calls]

theorem mem_batchItems {item : PlanItem}
    (h : item ∈ batchItems e task.clusterCode (batchPairs e namespaces kinds)) :
    item.ns ∈ namespaces ∧ item.kind ∈ kinds := by
  obtain ⟨found, memFound, mem⟩ := List.mem_flatten.1 h
  obtain ⟨pair, memPair, listed⟩ := List.mem_filterMap.1 memFound
  obtain ⟨ns, kind⟩ := mem_listPair listed mem
  rw [ns, kind]
  exact mem_batchPairs.1 memPair

/-- A batch makes no call outside its namespaces and kinds. -/
theorem over_of_mem_runBatch {s : Store} {st : Storage} {call : ApiCall}
    (h : call ∈ (runBatch cfg e s task st namespaces kinds).calls) :
    call.Over namespaces kinds := by
  rw [runBatch_calls, List.mem_append] at h
  obtain listed | got := h
  · obtain ⟨pair, mem, rfl⟩ := List.mem_map.1 listed
    obtain ⟨ns, kind⟩ := mem_batchPairs.1 mem
    exact ⟨_, ns, _, kind, _, _, rfl⟩
  · obtain ⟨⟨item, i⟩, mem, rfl⟩ := List.mem_map.1 got
    obtain ⟨ns, kind⟩ := mem_batchItems (List.fst_mem_of_mem_zipIdx mem)
    exact ⟨_, ns, _, kind, _, _, rfl⟩

/-- It lists every kind in every namespace. -/
theorem list_mem_runBatch {s : Store} {st : Storage} {ns : String} {kind : String × GVR}
    (memNs : ns ∈ namespaces) (memKind : kind ∈ kinds) :
    batchCall .list ns kind "" ∈ (runBatch cfg e s task st namespaces kinds).calls := by
  rw [runBatch_calls, List.mem_append]
  exact .inl (List.mem_map.2 ⟨(ns, kind), mem_batchPairs.2 ⟨memNs, memKind⟩, rfl⟩)

/-- The calls of a task are over the lists of its payload. -/
theorem over_of_mem_calls {s : Store} {call : ApiCall}
    (h : call ∈ (doBackupNamespaceBatch cfg e s task).calls) :
    ∃ payload, s.payloads task.id = some payload ∧
      call.Over payload.decode.1 (batchKinds payload.decode.2) := by
  unfold doBackupNamespaceBatch at h
  cases unread : e.payload with
  | some err => simp [unread] at h
  | none =>
      cases stored : s.payloads task.id with
      | none => simp [unread, stored] at h
      | some payload =>
          refine ⟨payload, rfl, ?_⟩
          rcases lists : payload.decode with ⟨nss, kindFilter⟩
          simp only [unread, stored, Option.map_some, Option.getD_some, lists] at h
          split at h
          · simp at h
          · cases client : e.client task.clusterCode with
            | some err => simp [client] at h
            | none =>
                cases storage : cfg.getStorage task.storageType with
                | error err => simp [client, storage] at h
                | ok st =>
                    simp only [client, storage] at h
                    split at h
                    · simp at h
                    · exact over_of_mem_runBatch h

theorem list_mem_quiet {s : Store} {payload : BatchPayload} {st : Storage} {ns : String}
    {kind : String × GVR} (stored : s.payloads task.id = some payload)
    (storage : cfg.getStorage task.storageType = .ok st) (memNs : ns ∈ payload.decode.1)
    (memKind : kind ∈ batchKinds payload.decode.2) :
    batchCall .list ns kind "" ∈ (doBackupNamespaceBatch cfg quiet s task).calls := by
  have someKind : payload.decode.2 ≠ [] := by
    intro empty
    simp [empty, batchKinds] at memKind
  have someNs : payload.decode.1 ≠ [] := List.ne_nil_of_mem memNs
  have resolved : batchKinds payload.decode.2 ≠ [] := List.ne_nil_of_mem memKind
  rcases lists : payload.decode with ⟨nss, kindFilter⟩
  rw [lists] at memNs memKind someKind someNs resolved
  have run : doBackupNamespaceBatch cfg quiet s task =
      runBatch cfg quiet s task st nss (batchKinds kindFilter) := by
    simp only [doBackupNamespaceBatch, quiet, stored, Option.map_some, Option.getD_some, lists,
      storage]
    rw [if_neg (by simp [someNs, someKind]), if_neg resolved]
  rw [run]
  exact list_mem_runBatch memNs memKind

end Calls

/-- The two tables of cluster-scoped kinds agree. -/
theorem kindNeedsClusterScope_eq (kind : String) :
    kindNeedsClusterScope kind = !isNamespacedKind kind := by
  simp [kindNeedsClusterScope, isNamespacedKind]

theorem batchScope_ok {pt : PermissionTree} {code : String} {namespaces kindFilter : List String}
    (h : batchScope (some pt) code namespaces kindFilter = .ok ()) :
    (∀ ns ∈ namespaces, requireNamespaceScope (some pt) code ns = .ok ()) ∧
      (kindFilter.any kindNeedsClusterScope = true → pt.hasClusterScope code = true) := by
  unfold batchScope at h
  cases denied : namespaces.find? fun ns =>
      (requireNamespaceScope (some pt) code ns).toOption.isNone with
  | some ns =>
      have refused := List.find?_some denied
      simp only [denied] at h
      simp [h, Except.toOption] at refused
  | none =>
      simp only [denied] at h
      constructor
      · intro ns mem
        have passed := List.find?_eq_none.1 denied ns mem
        cases check : requireNamespaceScope (some pt) code ns with
        | ok _ => rfl
        | error err => simp [check, Except.toOption] at passed
      · intro cluster
        simp only [cluster, if_true] at h
        cases check : requireClusterScope (some pt) code with
        | ok _ => exact requireClusterScope_ok.1 check
        | error err => simp [check] at h

/-- An accepted batch passed its scope checks and was submitted as it stands. -/
theorem createBackup_batch {cfg : BackupConfig} {h : Health} {s s' : Store} {caller : Caller}
    {code : String} {req : CreateBackupReq} {task : BackupTask}
    (batch : req.effectiveMode = .namespaceBatch)
    (accepted : createBackup cfg h s caller code (.ok req) = (s', .ok task)) :
    batchScope caller.tree code req.batchNamespaces req.batchKindFilter = .ok () ∧
      ∃ inp, submitBackupTask cfg h s inp = (s', .ok task) ∧ inp.mode = .namespaceBatch ∧
        inp.namespaces = req.batchNamespaces ∧ inp.kindFilter = req.batchKindFilter := by
  unfold createBackup at accepted
  split at accepted
  · cases accepted
  · cases checked : req.input caller code with
    | error err => simp [checked] at accepted
    | ok inp =>
        simp only [checked] at accepted
        unfold CreateBackupReq.input at checked
        cases user : mustCurrentUser caller with
        | error err => simp [user] at checked
        | ok operator =>
            simp only [user, batch, if_true] at checked
            split at checked
            · cases checked
            · split at checked
              · cases checked
              · split at checked
                · cases checked
                · rename_i scope
                  cases checked
                  exact ⟨scope, _, accepted, rfl, rfl, rfl⟩

section Accepted

variable {pt : PermissionTree} {code : String} {namespaces kindFilter : List String}

/-- Without cluster scope, what passed the checks is in scope before it is joined. -/
theorem submitted_in_scope (outside : pt.hasClusterScope code = false)
    (scope : batchScope (some pt) code namespaces kindFilter = .ok ()) :
    (∀ ns ∈ namespaces, ns ≠ "" ∧ pt.hasNamespaceScope code ns = true) ∧
      ∀ kind ∈ kindFilter, isNamespacedKind kind = true := by
  obtain ⟨perNs, perKind⟩ := batchScope_ok scope
  constructor
  · intro ns mem
    have passed := requireNamespaceScope_ok.1 (perNs ns mem)
    by_cases blank : ns = ""
    · simp [blank, outside] at passed
    · exact ⟨blank, by simpa [blank] using passed⟩
  · intro kind mem
    by_contra cluster
    have any : kindFilter.any kindNeedsClusterScope = true :=
      List.any_eq_true.2 ⟨kind, mem, by simp [kindNeedsClusterScope_eq, cluster]⟩
    rw [perKind any] at outside
    cases outside

/-- An element without a comma is its only piece. -/
theorem forall_pieces_iff {xs : List String} {P : String → Prop}
    (whole : ∀ x ∈ xs, ',' ∉ x.toList → P x) :
    (∀ piece ∈ pieces xs, P piece) ↔
      ∀ x ∈ xs, ',' ∈ x.toList → ∀ piece ∈ Text.split ',' x, P piece := by
  constructor
  · intro all x mem _ piece inPiece
    exact all piece (List.mem_flatMap.2 ⟨x, mem, inPiece⟩)
  · intro kept piece mem
    obtain ⟨x, memX, inPiece⟩ := List.mem_flatMap.1 mem
    by_cases comma : ',' ∈ x.toList
    · exact kept x memX comma piece inPiece
    · rw [Text.split_of_not_mem comma, List.mem_singleton] at inPiece
      exact inPiece ▸ whole x memX comma

end Accepted

/-- For every accepted batch of a caller without cluster scope: all calls that workers make
for its task are in the caller's scope exactly when the commas in it change nothing. -/
theorem batch_in_scope_iff (cfg : BackupConfig) (h : Health) (s s' : Store) (pt : PermissionTree)
    (user : Option (Nat × String)) (code : String) (req : CreateBackupReq) (task : BackupTask)
    (batch : req.effectiveMode = .namespaceBatch) (outside : pt.hasClusterScope code = false)
    (accepted : createBackup cfg h s ⟨some pt, user⟩ code (.ok req) = (s', .ok task)) :
    (∀ e later, later.payloads task.id = s'.payloads task.id →
        ∀ call ∈ (doBackupNamespaceBatch cfg e later { task with status := .running }).calls,
          call.InScope pt code) ↔ CommasKept pt code req := by
  obtain ⟨scope, inp, submitted, mode, nss, kinds⟩ := createBackup_batch batch accepted
  obtain ⟨⟨st, storage⟩, someNs, someKind, _, stored⟩ := submitBackupTask_batch mode submitted
  obtain ⟨nsScope, kindScope⟩ := submitted_in_scope outside scope
  rw [nss] at someNs
  rw [kinds] at someKind
  have decodedNs : inp.payload.decode.1 = pieces req.batchNamespaces := by
    have blank : req.batchNamespaces ≠ [""] := fun eq => (nsScope "" (by simp [eq])).1 rfl
    simp only [BatchPayload.decode, SubmitBackupInput.payload, nss, decodeList_join someNs blank]
  have decodedKind : ∀ kind, kind ∈ batchKinds inp.payload.decode.2 ↔
      kind.1 ∈ pieces req.batchKindFilter ∧ resolveGVR kind.1 = .ok kind.2 := by
    intro kind
    rw [mem_batchKinds]
    apply and_congr_left
    intro resolved
    simp only [BatchPayload.decode, SubmitBackupInput.payload, kinds]
    exact resolving_decodeList (by simp [resolved, Except.isOk, Except.toBool])
  -- the condition, over all pieces instead of the elements with a comma
  have kindsIff := forall_pieces_iff (P := fun kind =>
    (resolveGVR kind).isOk = true → isNamespacedKind kind = true)
    fun kind mem _ _ => kindScope kind mem
  have nsIff := forall_pieces_iff (P := fun ns => ns ≠ "" ∧ pt.hasNamespaceScope code ns = true)
    fun ns mem _ => nsScope ns mem
  rw [CommasKept, KindsKept, NamespacesKept, ← kindsIff, ← nsIff]
  constructor
  · intro inScope
    have listed : ∀ ns ∈ pieces req.batchNamespaces, ∀ kind ∈ pieces req.batchKindFilter,
        (resolveGVR kind).isOk = true →
          isNamespacedKind kind = true ∧ ns ≠ "" ∧ pt.hasNamespaceScope code ns = true := by
      intro ns memNs kind memKind resolves
      cases resolved : resolveGVR kind with
      | error err => simp [resolved, Except.isOk, Except.toBool] at resolves
      | ok gvr =>
          have call : batchCall .list ns (kind, gvr) "" ∈
              (doBackupNamespaceBatch cfg quiet s' { task with status := .running }).calls :=
            list_mem_quiet stored storage (decodedNs ▸ memNs)
              ((decodedKind (kind, gvr)).2 ⟨memKind, resolved⟩)
          obtain ⟨namespaced, ns', eq, named, has⟩ := inScope quiet s' rfl _ call
          simp only [batchCall] at namespaced eq
          rw [if_pos namespaced, Option.some.injEq] at eq
          exact ⟨namespaced, eq ▸ named, eq ▸ has⟩
    obtain ⟨first, memFirst⟩ := List.exists_mem_of_ne_nil _ (pieces_ne_nil someNs)
    exact ⟨fun kind mem resolves => (listed first memFirst kind mem resolves).1,
      fun ⟨kind, mem, resolves⟩ ns memNs => (listed ns memNs kind mem resolves).2⟩
  · rintro ⟨kindsKept, nsKept⟩ e later same call mem
    obtain ⟨payload, read, ns, memNs, kind, memKind, verb, name, rfl⟩ := over_of_mem_calls mem
    obtain rfl : inp.payload = payload := by
      rw [same, stored] at read
      exact Option.some.inj read
    obtain ⟨memPiece, resolved⟩ := (decodedKind kind).1 memKind
    have resolves : (resolveGVR kind.1).isOk = true := by
      simp [resolved, Except.isOk, Except.toBool]
    have namespaced := kindsKept kind.1 memPiece resolves
    have has := nsKept ⟨kind.1, memPiece, resolves⟩ ns (decodedNs ▸ memNs)
    exact ⟨namespaced, ns, if_pos namespaced, has⟩

/-- An operator of one namespace. -/
def nsOperator : Caller :=
  ⟨some ⟨∅, [⟨scopeNamespace, "prod", "default"⟩], false⟩, some (7, "dev")⟩

def batchRequest (kindFilter : List String) : CreateBackupReq :=
  ⟨"namespace_batch", "", ["default"], "", kindFilter, "", "local", ""⟩

def batchTask (kind : String) : BackupTask :=
  ⟨1, "prod", some "default", some kind, none, "namespace_batch", "", "local", "", .pending, none,
    "dev", 7, none, 0⟩

/-- One kind of the request splits into two, and the worker lists all namespaces. -/
theorem namespaces_listed_as_pods :
    (nsOperator.tree.map (·.hasClusterScope "prod")) = some false ∧
      (createBackup localOnly healthy .empty nsOperator "prod"
        (.ok (batchRequest ["Pod,Namespace"]))).2.toOption = some (batchTask "Pod,Namespace") ∧
      ⟨.list, "Namespace", ⟨"", "v1", "namespaces"⟩, none, ""⟩ ∈
        (doBackupNamespaceBatch localOnly quiet
          (createBackup localOnly healthy .empty nsOperator "prod"
            (.ok (batchRequest ["Pod,Namespace"]))).1
          { batchTask "Pod,Namespace" with status := .running }).calls ∧
      isNamespacedKind "Namespace" = false := by
  decide

/-- A request without commas lists its own kind in its own namespace. -/
theorem batch_in_scope_pods :
    ApiCall.InScope ⟨∅, [⟨scopeNamespace, "prod", "default"⟩], false⟩ "prod"
      ⟨.list, "Pod", ⟨"", "v1", "pods"⟩, some "default", ""⟩ :=
  (batch_in_scope_iff localOnly healthy .empty _ _ (some (7, "dev")) "prod" (batchRequest ["Pod"])
    (batchTask "Pod") (by decide) (by decide) rfl).2
    ⟨by unfold KindsKept; decide, fun _ => by unfold NamespacesKept; decide⟩ quiet _ rfl _
    (by decide)

end K8sPlatform.Backup
