import K8sPlatform.Lib.Relational
import K8sPlatform.Backup.BatchDelete

/-! # What a batch backup stores of the cluster -/

namespace K8sPlatform.Backup

/-- `ListOptions.Limit` of the list calls, whose continue tokens are not followed. -/
def listLimit : Nat := 500

/-- The namespace that a call on a kind carries. -/
def callScope (kind ns : String) : Option String :=
  if isNamespacedKind kind then some ns else none

/-- The names of the live objects of a cluster, by kind and scope; in the empty namespace those of
every namespace. -/
structure Cluster where
  names : String → Option String → List String
  named : ∀ kind ns, "" ∉ names kind ns
  nodup : ∀ kind ns, ns ≠ some "" → (names kind ns).Nodup

/-- The API server returns the first page of a list, or an error; nothing is found by name in the
empty namespace. -/
structure Cluster.Serves (c : Cluster) (e : Environment) (code : String) : Prop where
  list : ∀ call, call.verb = .list →
    e.list code call = .ok ((c.names call.kind call.ns).take listLimit) ∨
      ∃ err, e.list code call = .error err
  get : ∀ call, call.verb = .get → call.ns = some "" → ∃ err, e.get code call = .error err

/-- How often an object has been stored. -/
def copies (stored : List ((PlanItem × Nat) × Upload)) (kind : String) (ns : Option String)
    (name : String) : Nat :=
  stored.countP fun put =>
    put.1.1.kind.1 = kind ∧ callScope kind put.1.1.ns = ns ∧ put.1.1.name = name

/-- Each live object of each requested pair has been stored once. -/
def Complete (c : Cluster) (inp : SubmitBackupInput) (stored : List ((PlanItem × Nat) × Upload)) :
    Prop :=
  ∀ ns ∈ inp.namespaces, ∀ kind ∈ inp.kindFilter, ∀ name ∈ c.names kind (callScope kind ns),
    copies stored kind (callScope kind ns) name = 1

/-- Each requested pair with live objects is of a known kind, fits into a page, and is listed
once. -/
def WithinReach (c : Cluster) (inp : SubmitBackupInput) : Prop :=
  ∀ ns ∈ inp.namespaces, ∀ kind ∈ inp.kindFilter, c.names kind (callScope kind ns) ≠ [] →
    (resolveGVR kind).isOk = true ∧ (c.names kind (callScope kind ns)).length ≤ listLimit ∧
      if isNamespacedKind kind then (pieces inp.namespaces).count ns = 1
      else (pieces inp.namespaces).length = 1

/-- Each kind of the filter that resolves is in the map once. -/
theorem countP_batchKinds (kindFilter : List String) (kind : String) :
    (batchKinds kindFilter).countP (fun entry => entry.1 = kind) =
      if kind ∈ kindFilter ∧ (resolveGVR kind).isOk = true then 1 else 0 := by
  have each : (batchKinds kindFilter).countP (fun entry => entry.1 = kind) =
      kindFilter.eraseDups.countP fun k => k = kind ∧ (resolveGVR kind).isOk = true := by
    rw [batchKinds, List.countP_filterMap]
    apply List.countP_congr
    intro k _
    cases resolved : resolveGVR k with
    | error err =>
        simp only [Except.toOption, Option.map_none, Option.getD_none, Bool.false_eq_true,
          decide_eq_true_eq, false_iff, not_and]
        rintro rfl
        simp [resolved, Except.isOk, Except.toBool]
    | ok gvr =>
        simp only [Except.toOption, Option.map_some, Option.getD_some, decide_eq_true_eq]
        constructor
        · rintro rfl
          exact ⟨rfl, by simp [resolved, Except.isOk, Except.toBool]⟩
        · exact And.left
  rw [each]
  by_cases resolves : (resolveGVR kind).isOk = true
  · have count : kindFilter.eraseDups.countP
        (fun k => k = kind ∧ (resolveGVR kind).isOk = true) = kindFilter.eraseDups.count kind := by
      simp only [resolves, and_true, List.count]
      rfl
    rw [count, (Relational.nodup_eraseDups kindFilter).count]
    simp [resolves]
  · simp [resolves]

variable {cfg : BackupConfig} {e : Environment} {task : BackupTask}

theorem countP_batchPairs (namespaces : List String) (kinds : List (String × GVR)) (kind : String)
    (ns : Option String) :
    (batchPairs e namespaces kinds).countP
        (fun pair => pair.2.1 = kind ∧ callScope kind pair.1 = ns) =
      namespaces.countP (fun ns' => callScope kind ns' = ns) *
        kinds.countP (fun entry => entry.1 = kind) := by
  have shifted (i : Nat) : ((namespaces.zipIdx i).flatMap fun indexed =>
        (e.order indexed.2 kinds).map fun entry => (indexed.1, entry)).countP
          (fun pair => pair.2.1 = kind ∧ callScope kind pair.1 = ns) =
      namespaces.countP (fun ns' => callScope kind ns' = ns) *
        kinds.countP (fun entry => entry.1 = kind) := by
    induction namespaces generalizing i with
    | nil => simp
    | cons ns' namespaces ih =>
        have inner : ((e.order i kinds).map fun entry => (ns', entry)).countP
            (fun pair => pair.2.1 = kind ∧ callScope kind pair.1 = ns) =
            if callScope kind ns' = ns then kinds.countP (fun entry => entry.1 = kind) else 0 := by
          rw [List.countP_map, ← (e.order_perm i kinds).countP_eq]
          split
          · rename_i same
            simp [Function.comp_def, same]
          · rename_i other
            simp [Function.comp_def, other]
        rw [List.zipIdx_cons, List.flatMap_cons, List.countP_append, inner, ih, List.countP_cons,
          Nat.add_mul, Nat.add_comm]
        by_cases same : callScope kind ns' = ns <;> simp [same]
  exact shifted 0

/-- The page of a pair, as items of the plan. -/
def Cluster.page (c : Cluster) (pair : String × String × GVR) : List PlanItem :=
  ((c.names pair.2.1 (callScope pair.2.1 pair.1)).take listLimit).map fun name =>
    ⟨pair.1, pair.2, name⟩

theorem Cluster.Serves.page {c : Cluster} {code : String} {pair : String × String × GVR}
    (serves : c.Serves e code) (listed : listPair e code pair ≠ none) :
    listPair e code pair = some (c.page pair) := by
  unfold listPair at listed ⊢
  obtain found | ⟨err, failed⟩ := serves.list (batchCall .list pair.1 pair.2 "") rfl
  · have named : ((c.names pair.2.1 (callScope pair.2.1 pair.1)).take listLimit).filter (· ≠ "") =
        (c.names pair.2.1 (callScope pair.2.1 pair.1)).take listLimit := by
      apply List.filter_eq_self.2
      intro name mem
      rw [decide_eq_true_eq]
      rintro rfl
      exact c.named _ _ (List.mem_of_mem_take mem)
    have answer : e.list code (batchCall .list pair.1 pair.2 "") =
        .ok ((c.names pair.2.1 (callScope pair.2.1 pair.1)).take listLimit) := found
    rw [answer]
    dsimp only
    rw [named, Cluster.page]
  · rw [failed] at listed
    exact absurd rfl listed

theorem countP_batchItems {c : Cluster} {code : String} (pairs : List (String × String × GVR))
    (all : ∀ pair ∈ pairs, listPair e code pair = some (c.page pair)) (kind : String)
    (ns : Option String) (name : String) :
    (batchItems e code pairs).countP
        (fun item => item.kind.1 = kind ∧ callScope kind item.ns = ns ∧ item.name = name) =
      pairs.countP (fun pair => pair.2.1 = kind ∧ callScope kind pair.1 = ns) *
        ((c.names kind ns).take listLimit).count name := by
  induction pairs with
  | nil => simp [batchItems]
  | cons pair pairs ih =>
      have rest := ih fun pair mem => all pair (List.mem_cons_of_mem _ mem)
      have items : batchItems e code (pair :: pairs) =
          c.page pair ++ batchItems e code pairs := by
        simp [batchItems, all pair List.mem_cons_self]
      have first : (c.page pair).countP
          (fun item => item.kind.1 = kind ∧ callScope kind item.ns = ns ∧ item.name = name) =
          if pair.2.1 = kind ∧ callScope kind pair.1 = ns then
            ((c.names kind ns).take listLimit).count name else 0 := by
        rw [Cluster.page, List.countP_map]
        split
        · rename_i same
          obtain ⟨rfl, rfl⟩ := same
          simp [Function.comp_def, List.count]
          rfl
        · rename_i other
          refine List.countP_eq_zero.2 fun name' _ same => other ?_
          simp only [Function.comp_apply, decide_eq_true_eq] at same
          exact ⟨same.1, same.2.1⟩
      rw [items, List.countP_append, rest, first, List.countP_cons, Nat.add_mul, Nat.add_comm]
      by_cases same : pair.2.1 = kind ∧ callScope kind pair.1 = ns <;> simp [same]

variable (cfg e task) in
theorem batchStored_items (st : Storage) (items : List (PlanItem × Nat)) :
    (batchStored cfg e task st items).map Prod.fst =
      items.filter fun item => (batchUpload cfg e task st item).isSome := by
  induction items with
  | nil => rfl
  | cons item items ih =>
      cases put : batchUpload cfg e task st item with
      | none => simpa [batchStored, put] using ih
      | some up => simpa [batchStored, put] using ih

variable (cfg) in
/-- When every pair has been listed and every object stored, an object has been stored as often as
its pair was listed, if it is on the first page. -/
theorem copies_eq {c : Cluster} (st : Storage) {payload : BatchPayload}
    (serves : c.Serves e task.clusterCode)
    (listed : batchUnlisted e task payload = 0)
    (all : (batchStored cfg e task st (batchPlan e task payload)).length =
      (batchPlan e task payload).length) (kind : String) (ns : Option String) (name : String) :
    copies (batchStored cfg e task st (batchPlan e task payload)) kind ns name =
      payload.decode.1.countP (fun ns' => callScope kind ns' = ns) *
        (if kind ∈ payload.decode.2 ∧ (resolveGVR kind).isOk = true then 1 else 0) *
        ((c.names kind ns).take listLimit).count name := by
  have pages : ∀ pair ∈ batchPairs e payload.decode.1 (batchKinds payload.decode.2),
      listPair e task.clusterCode pair = some (c.page pair) := by
    intro pair mem
    apply serves.page
    intro none_
    have some_ := List.countP_eq_zero.1 listed pair mem
    rw [none_] at some_
    exact some_ rfl
  have items : (batchStored cfg e task st (batchPlan e task payload)).map Prod.fst =
      batchPlan e task payload := by
    have kept := batchStored_items cfg e task st (batchPlan e task payload)
    have lengths := congrArg List.length kept
    rw [List.length_map, all] at lengths
    rw [kept]
    exact List.filter_sublist.eq_of_length lengths.symm
  have ofPlan : copies (batchStored cfg e task st (batchPlan e task payload)) kind ns name =
      (batchPlan e task payload).countP fun item =>
        item.1.kind.1 = kind ∧ callScope kind item.1.ns = ns ∧ item.1.name = name := by
    have each : copies (batchStored cfg e task st (batchPlan e task payload)) kind ns name =
        ((batchStored cfg e task st (batchPlan e task payload)).map Prod.fst).countP fun item =>
          item.1.kind.1 = kind ∧ callScope kind item.1.ns = ns ∧ item.1.name = name := by
      rw [List.countP_map]
      rfl
    rw [each, items]
  have ofItems : (batchPlan e task payload).countP (fun item =>
        item.1.kind.1 = kind ∧ callScope kind item.1.ns = ns ∧ item.1.name = name) =
      (batchItems e task.clusterCode
        (batchPairs e payload.decode.1 (batchKinds payload.decode.2))).countP fun item =>
          item.kind.1 = kind ∧ callScope kind item.ns = ns ∧ item.name = name := by
    conv_rhs => rw [← List.zipIdx_map_fst 0 (batchItems e task.clusterCode
      (batchPairs e payload.decode.1 (batchKinds payload.decode.2))), List.countP_map]
    rfl
  rw [ofPlan, ofItems, countP_batchItems _ pages, countP_batchPairs, countP_batchKinds]

/-! ## The report -/

/-- The summary tells how many items have failed. -/
theorem batchSummary_failed {done failed total done' failed' total' : Nat}
    (same : batchSummary done failed total = batchSummary done' failed' total') :
    failed = failed' := by
  have comma (n : Nat) (text : String) (plain : '，' ∉ text.toList) :
      '，' ∉ (text ++ toString n).toList := by
    have digits : '，' ∉ Nat.toDigits 10 n := Text.not_mem_digits (by decide) n
    simpa using ⟨plain, digits⟩
  have parts (d f t : Nat) : Text.split '，' (batchSummary d f t) =
      ["批量完成：成功 " ++ toString d, "失败 " ++ toString f, "总对象 " ++ toString t] := by
    have shape : batchSummary d f t = ("批量完成：成功 " ++ toString d) ++ String.singleton '，' ++
        ("失败 " ++ toString f) ++ String.singleton '，' ++ ("总对象 " ++ toString t) := by
      have second : ("，失败 " : String) = String.singleton '，' ++ "失败 " := by decide
      have third : ("，总对象 " : String) = String.singleton '，' ++ "总对象 " := by decide
      have regrouped (a b c x y z sep : String) : a ++ x ++ (sep ++ b) ++ y ++ (sep ++ c) ++ z =
          (a ++ x) ++ sep ++ (b ++ y) ++ sep ++ (c ++ z) := by
        simp only [String.append_assoc]
      have all := regrouped "批量完成：成功 " "失败 " "总对象 " (toString d) (toString f) (toString t)
        (String.singleton '，')
      rewrite [← second, ← third] at all
      exact all
    rw [shape, Text.split_append_sep, Text.split_append_sep,
      Text.split_of_not_mem (comma d "批量完成：成功 " (by decide)),
      Text.split_of_not_mem (comma f "失败 " (by decide)),
      Text.split_of_not_mem (comma t "总对象 " (by decide))]
    rfl
  have pieces := congrArg (Text.split '，') same
  rw [parts, parts, List.cons.injEq, List.cons.injEq] at pieces
  have digits : Nat.toDigits 10 failed = Nat.toDigits 10 failed' := by
    have chars := congrArg String.toList pieces.2.1
    simpa using chars
  exact Text.digits_inj digits

/-- A report of no failed item means that every pair was listed and every object stored. -/
theorem reports_none_failed {s : Store} {payload : BatchPayload} {st : Storage} {t : BackupTask}
    {done total : Nat} (read : s.payloads task.id = some payload)
    (storage : cfg.getStorage task.storageType = .ok st)
    (ok : (doBackupNamespaceBatch cfg e s task).result = .ok ())
    (found : (doBackupNamespaceBatch cfg e s task).store.find task.id = some t)
    (reports : t.errorMessage = some (batchSummary done 0 total)) :
    batchUnlisted e task payload = 0 ∧
      (batchStored cfg e task st (batchPlan e task payload)).length =
        (batchPlan e task payload).length ∧
      batchPlan e task payload ≠ [] := by
  obtain ⟨payload', st', last, change, read', storage', lastPut, store, ends⟩ :=
    doBackupNamespaceBatch_ok ok
  obtain rfl := Option.some.inj (read.symm.trans read')
  obtain rfl := Except.ok.inj (storage.symm.trans storage')
  obtain ⟨t₀, rfl⟩ : ∃ t₀, t = change t₀ := by
    rw [Store.find_change (congrArg Store.tasks store) fun t => (ends t).sameId] at found
    obtain ⟨t₀, -, changed⟩ := Option.map_eq_some_iff.1 found
    exact ⟨t₀, changed.symm⟩
  obtain ⟨failed, summary, count⟩ := (ends t₀).summary
  rw [summary, Option.some.injEq] at reports
  have none_ := batchSummary_failed reports
  have most : (batchStored cfg e task st (batchPlan e task payload)).length ≤
      (batchPlan e task payload).length := List.length_filterMap_le _ _
  have some_ := List.length_pos_of_mem (List.mem_of_getLast? lastPut)
  refine ⟨by omega, by omega, ?_⟩
  exact List.length_pos_iff.1 (by omega)

/-! ## The request -/

/-- A requested kind that resolves is among the kinds that the worker decodes. -/
theorem mem_decode_of_resolves {inp : SubmitBackupInput} {kind : String}
    (mem : kind ∈ inp.kindFilter) (resolves : (resolveGVR kind).isOk = true) :
    kind ∈ inp.payload.decode.2 := by
  have comma : ',' ∉ kind.toList := by
    have table : ∀ entry ∈ gvrTable, ',' ∉ entry.1.toList := by decide
    cases resolved : resolveGVR kind with
    | error err => simp [resolved, Except.isOk, Except.toBool] at resolves
    | ok gvr => exact table _ (mem_gvrTable resolved)
  refine (resolving_decodeList resolves).2 (List.mem_flatMap.2 ⟨kind, mem, ?_⟩)
  rw [Text.split_of_not_mem comma]
  exact List.mem_cons_self

/-- A plan that is not empty comes from the pieces of the requested namespaces. -/
theorem decode_of_plan {inp : SubmitBackupInput} (some_ : inp.namespaces ≠ [])
    (planned : batchPlan e task inp.payload ≠ []) :
    inp.payload.decode.1 = pieces inp.namespaces := by
  refine decodeList_join some_ fun blank => planned ?_
  have none_ : inp.payload.decode.1 = [] := by
    simp [BatchPayload.decode, SubmitBackupInput.payload, blank, Text.join, decodeList]
  rw [batchPlan, none_]
  rfl

theorem countP_callScope (namespaces : List String) (kind ns : String) :
    namespaces.countP (fun ns' => callScope kind ns' = callScope kind ns) =
      if isNamespacedKind kind then namespaces.count ns else namespaces.length := by
  unfold callScope
  split
  · simp only [Option.some.injEq, List.count]
    rfl
  · simp

/-- Nothing is stored from the empty namespace. -/
theorem copies_empty {c : Cluster} {st : Storage} {items : List (PlanItem × Nat)}
    (serves : c.Serves e task.clusterCode) (kind name : String) :
    copies (batchStored cfg e task st items) kind (some "") name = 0 := by
  apply List.countP_eq_zero.2
  intro put mem same
  rw [decide_eq_true_eq] at same
  obtain ⟨rfl, scope, -⟩ := same
  have uploaded := (mem_batchStored.1 mem).2
  obtain ⟨err, failed⟩ :=
    serves.get (batchCall .get put.1.1.ns put.1.1.kind put.1.1.name) rfl scope
  unfold batchUpload at uploaded
  rw [failed] at uploaded
  cases uploaded

/-- When no item has failed, a requested pair is stored completely just when it is in reach. -/
theorem pair_complete_iff {c : Cluster} {inp : SubmitBackupInput} {st : Storage} {kind ns : String}
    (serves : c.Serves e task.clusterCode) (listed : batchUnlisted e task inp.payload = 0)
    (all : (batchStored cfg e task st (batchPlan e task inp.payload)).length =
      (batchPlan e task inp.payload).length)
    (decoded : inp.payload.decode.1 = pieces inp.namespaces) (memKind : kind ∈ inp.kindFilter)
    (live : c.names kind (callScope kind ns) ≠ []) :
    (∀ name ∈ c.names kind (callScope kind ns),
        copies (batchStored cfg e task st (batchPlan e task inp.payload)) kind (callScope kind ns)
          name = 1) ↔
      (resolveGVR kind).isOk = true ∧ (c.names kind (callScope kind ns)).length ≤ listLimit ∧
        if isNamespacedKind kind then (pieces inp.namespaces).count ns = 1
        else (pieces inp.namespaces).length = 1 := by
  have formula := copies_eq cfg st serves listed all kind (callScope kind ns)
  rw [decoded, countP_callScope] at formula
  rw [← apply_ite (· = 1)]
  constructor
  · intro complete
    have one (name : String) (mem : name ∈ c.names kind (callScope kind ns)) :=
      (formula name).symm.trans (complete name mem)
    obtain ⟨first, memFirst⟩ := List.exists_mem_of_ne_nil _ live
    have product := Nat.eq_one_of_mul_eq_one_right (one first memFirst)
    have known := Nat.eq_one_of_mul_eq_one_left product
    refine ⟨?_, ?_, Nat.eq_one_of_mul_eq_one_right product⟩
    · split at known
      · rename_i resolves
        exact resolves.2
      · cases known
    · have page : c.names kind (callScope kind ns) ⊆
          (c.names kind (callScope kind ns)).take listLimit := by
        intro name mem
        have counted := Nat.eq_one_of_mul_eq_one_left (one name mem)
        exact List.count_pos_iff.1 (by omega)
      have scope : callScope kind ns ≠ some "" := by
        intro empty
        have stored := complete first memFirst
        rw [empty, copies_empty serves] at stored
        cases stored
      have once := c.nodup kind (callScope kind ns) scope
      exact (once.subperm page).length_le.trans (List.length_take_le _ _)
  · rintro ⟨resolves, short, times⟩ name mem
    have known := mem_decode_of_resolves memKind resolves
    have page : (c.names kind (callScope kind ns)).take listLimit =
        c.names kind (callScope kind ns) := List.take_of_length_le short
    have counted := formula name
    rw [times, if_pos ⟨known, resolves⟩, page, Nat.one_mul] at counted
    have scope : callScope kind ns ≠ some "" := by
      intro empty
      have positive := List.count_pos_iff.2 mem
      rw [empty, copies_empty serves] at counted
      rw [empty] at positive
      omega
    rw [counted, (c.nodup kind (callScope kind ns) scope).count, if_pos mem]

/-- For every accepted batch and every run of it that ends in success and reports no failed item:
each live object of each requested pair has been stored once exactly when each requested pair
with live objects is of a known kind, fits into a page, and is listed once. -/
theorem batch_complete_iff (cfg : BackupConfig) (e : Environment) (h : Health) (s s' later : Store)
    (inp : SubmitBackupInput) (task t : BackupTask) (st : Storage) (c : Cluster) (done total : Nat)
    (batch : inp.mode = .namespaceBatch)
    (accepted : submitBackupTask cfg h s inp = (s', .ok task))
    (same : later.payloads task.id = s'.payloads task.id)
    (serves : c.Serves e task.clusterCode) (storage : cfg.getStorage task.storageType = .ok st)
    (ok : (doBackupNamespaceBatch cfg e later { task with status := .running }).result = .ok ())
    (found : (doBackupNamespaceBatch cfg e later { task with status := .running }).store.find
      task.id = some t)
    (reports : t.errorMessage = some (batchSummary done 0 total)) :
    Complete c inp (batchStored cfg e { task with status := .running } st
        (batchPlan e { task with status := .running } inp.payload)) ↔
      WithinReach c inp := by
  obtain ⟨-, some_, -, -, stored⟩ := submitBackupTask_batch batch accepted
  obtain ⟨listed, all, planned⟩ :=
    reports_none_failed (same.trans stored) storage ok found reports
  have decoded := decode_of_plan some_ planned
  constructor
  · intro complete ns memNs kind memKind live
    exact (pair_complete_iff serves listed all decoded memKind live).1
      (complete ns memNs kind memKind)
  · intro reach ns memNs kind memKind name mem
    have live := List.ne_nil_of_mem mem
    exact (pair_complete_iff serves listed all decoded memKind live).2
      (reach ns memNs kind memKind live) name mem

/-- A batch whose lists, reads, uploads and writes all succeed ends in success. -/
theorem doBackupNamespaceBatch_succeeds {s : Store} {payload : BatchPayload} (st : Storage)
    (read : s.payloads task.id = some payload) (unread : e.payload = none)
    (lists : payload.decode.1 ≠ [] ∧ payload.decode.2 ≠ [])
    (client : e.client task.clusterCode = none)
    (storage : cfg.getStorage task.storageType = .ok st)
    (kinds : batchKinds payload.decode.2 ≠ []) (planned : batchPlan e task payload ≠ [])
    (all : (batchStored cfg e task st (batchPlan e task payload)).length =
      (batchPlan e task payload).length) (wrote : e.result.error = none) :
    (doBackupNamespaceBatch cfg e s task).result = .ok () := by
  have run : doBackupNamespaceBatch cfg e s task =
      runBatch cfg e s task st payload.decode.1 (batchKinds payload.decode.2) := by
    unfold doBackupNamespaceBatch
    simp only [unread, read, Option.map_some, Option.getD_some, client, storage]
    rw [if_neg (by simp [lists]), if_neg kinds]
  have items : batchItems e task.clusterCode
      (batchPairs e payload.decode.1 (batchKinds payload.decode.2)) ≠ [] := by
    intro none_
    apply planned
    rw [batchPlan, none_]
    rfl
  have loop := foldl_backupItem cfg e task st (batchPlan e task payload)
    ⟨(batchPairs e payload.decode.1 (batchKinds payload.decode.2)).map fun pair =>
      batchCall .list pair.1 pair.2 "", s.files, 0, batchUnlisted e task payload, 0, ""⟩
  have some_ := List.length_pos_iff.2 planned
  have done : ((batchPlan e task payload).foldl (backupItem cfg e task st)
      ⟨(batchPairs e payload.decode.1 (batchKinds payload.decode.2)).map fun pair =>
        batchCall .list pair.1 pair.2 "", s.files, 0, batchUnlisted e task payload, 0, ""⟩).done ≠
      0 := by
    have count := loop.2.1
    dsimp only at count
    omega
  rw [run]
  unfold runBatch
  dsimp only
  rw [if_neg items]
  unfold batchPlan batchUnlisted at done
  rw [if_neg done, wrote]

theorem batchUpload_isSome {st : Storage} {item : PlanItem × Nat}
    (got : ∃ yaml, e.get task.clusterCode (batchCall .get item.1.ns item.1.kind item.1.name) =
      .ok yaml) (disk : e.disk item.2 = none)
    (placed : ∃ path, st.uploadPath cfg (buildKey task.clusterCode (e.date item.2)
      (backupID task.id (some (item.2 + 1))) item.1.kind.1 item.1.name) = .ok path) :
    (batchUpload cfg e task st item).isSome = true := by
  obtain ⟨yaml, got⟩ := got
  obtain ⟨path, placed⟩ := placed
  unfold backupID at placed
  unfold batchUpload
  rw [got]
  dsimp only
  rw [disk]
  dsimp only
  rw [placed]
  rfl

theorem uploadPath_local (baseDir : String) {key : String}
    (stays : (FilePath.clean key).head? ≠ some "..") :
    ∃ path, (Storage.localStorage baseDir).uploadPath cfg key = .ok path :=
  ⟨_, safeJoin_of_clean stays⟩

/-- The names of `n` config maps. -/
def crowdNames (n : Nat) : List String := (List.range n).map fun i => "cm-" ++ toString i

theorem nodup_crowdNames (n : Nat) : (crowdNames n).Nodup := by
  apply List.nodup_range.map
  intro i j same
  have chars := congrArg String.toList ((String.append_right_inj _).1 same)
  exact Text.digits_inj (by simpa using chars)

/-- A cluster with `n` config maps in its only namespace. -/
def crowd (n : Nat) : Cluster where
  names kind ns := if kind = "ConfigMap" ∧ ns = some "default" then crowdNames n else []
  named kind ns mem := by
    split at mem
    · obtain ⟨i, -, eq⟩ := List.mem_map.1 mem
      simp at eq
    · cases mem
  nodup kind ns _ := by
    split
    · exact nodup_crowdNames n
    · exact List.nodup_nil

theorem crowd_names (n : Nat) :
    (crowd n).names "ConfigMap" (callScope "ConfigMap" "default") = crowdNames n := rfl

/-- A worker that backs the cluster up. -/
def crowdWorker (n : Nat) : Environment :=
  { answering with
    list := fun _ call => .ok (((crowd n).names call.kind call.ns).take listLimit)
    get := fun _ call =>
      if call.ns = some "" then .error "the server could not find the requested resource"
      else .ok "kind: ConfigMap" }

theorem crowd_serves (n : Nat) : (crowd n).Serves (crowdWorker n) "prod" where
  list _ _ := .inl rfl
  get _ _ empty := ⟨_, if_pos empty⟩

def crowdBatch : SubmitBackupInput :=
  ⟨"prod", "", "", "", ["default"], ["ConfigMap"], .namespaceBatch, "local", "dev", 7⟩

def crowdStored (n : Nat) : List ((PlanItem × Nat) × Upload) :=
  batchStored localOnly (crowdWorker n) configMapBatch (.localStorage "/data/backups")
    (batchPlan (crowdWorker n) configMapBatch crowdBatch.payload)

/-- The batch as it was submitted, and its run. -/
def crowdRun (n : Nat) : BatchRun :=
  doBackupNamespaceBatch localOnly (crowdWorker n)
    (submitBackupTask localOnly healthy .empty crowdBatch).1 configMapBatch

theorem crowd_uploaded (n : Nat) {item : PlanItem × Nat}
    (mem : item ∈ batchPlan (crowdWorker n) configMapBatch crowdBatch.payload) :
    (batchUpload localOnly (crowdWorker n) configMapBatch (.localStorage "/data/backups")
      item).isSome = true := by
  obtain ⟨⟨ns, kind, name⟩, i⟩ := item
  obtain ⟨inNs, inKinds⟩ := mem_batchItems (List.fst_mem_of_mem_zipIdx mem)
  have nss : crowdBatch.payload.decode.1 = ["default"] := by decide
  have kinds : batchKinds crowdBatch.payload.decode.2 =
      [("ConfigMap", ⟨"", "v1", "configmaps"⟩)] := by decide
  rw [nss] at inNs
  rw [kinds] at inKinds
  obtain rfl := List.mem_singleton.1 inNs
  obtain rfl := List.mem_singleton.1 inKinds
  have got : (crowdWorker n).get configMapBatch.clusterCode
      (batchCall .get "default" ("ConfigMap", ⟨"", "v1", "configmaps"⟩) name) =
        .ok "kind: ConfigMap" := by
    simp [crowdWorker, batchCall, isNamespacedKind]
  refine batchUpload_isSome ⟨_, got⟩ rfl (uploadPath_local _ ?_)
  have code : FilePath.clean configMapBatch.clusterCode = ["prod"] := by decide
  have plain := (backupID_plain configMapBatch.id (some (i + 1))).1
  have date : (crowdWorker n).date i = "20260101" := rfl
  rw [date]
  have day : IsDate "20260101" := ⟨by decide, List.all_eq_true.1 (by decide)⟩
  have resolved : resolveGVR "ConfigMap" = .ok ⟨"", "v1", "configmaps"⟩ := by decide
  have cleaned :=
    clean_buildKey configMapBatch.clusterCode day plain (slash_not_mem_kind resolved) name
  rw [code] at cleaned
  intro up
  have head := (congrArg List.head? cleaned).symm.trans up
  simp at head

theorem crowd_all_stored (n : Nat) : (crowdStored n).length =
    (batchPlan (crowdWorker n) configMapBatch crowdBatch.payload).length := by
  have items := batchStored_items localOnly (crowdWorker n) configMapBatch
    (.localStorage "/data/backups") (batchPlan (crowdWorker n) configMapBatch crowdBatch.payload)
  have lengths := congrArg List.length items
  rw [List.length_map] at lengths
  exact lengths.trans
    (congrArg List.length (List.filter_eq_self.2 fun item mem => crowd_uploaded n mem))

/-- The plan is the first page. -/
theorem crowd_plan (n : Nat) :
    (batchPlan (crowdWorker n) configMapBatch crowdBatch.payload).length = min listLimit n ∧
      batchUnlisted (crowdWorker n) configMapBatch crowdBatch.payload = 0 := by
  have pairs : batchPairs (crowdWorker n) crowdBatch.payload.decode.1
      (batchKinds crowdBatch.payload.decode.2) =
        [("default", "ConfigMap", ⟨"", "v1", "configmaps"⟩)] := by
    have nss : crowdBatch.payload.decode.1 = ["default"] := by decide
    have kinds : batchKinds crowdBatch.payload.decode.2 =
        [("ConfigMap", ⟨"", "v1", "configmaps"⟩)] := by decide
    rw [nss, kinds]
    rfl
  have listed : listPair (crowdWorker n) "prod"
      ("default", "ConfigMap", ⟨"", "v1", "configmaps"⟩) = some ((crowd n).page _) :=
    (crowd_serves n).page (by simp [listPair, crowdWorker])
  constructor
  · rw [batchPlan, List.length_zipIdx, pairs]
    simp [batchItems, listed, Cluster.page, crowd_names, crowdNames, configMapBatch, batchTask]
  · rw [batchUnlisted, pairs]
    simp [listed, configMapBatch, batchTask]

/-- With some config maps the batch is accepted, ends in success, and reports no failed item. -/
theorem crowd_reports {n : Nat} (some_ : 0 < n) :
    (crowdRun n).result = .ok () ∧ ∃ t, (crowdRun n).store.find 1 = some t ∧
      t.errorMessage = some (batchSummary (min listLimit n) 0 (min listLimit n)) := by
  obtain ⟨length, listed⟩ := crowd_plan n
  have planned : batchPlan (crowdWorker n) configMapBatch crowdBatch.payload ≠ [] := by
    intro none_
    rw [none_, listLimit, List.length_nil] at length
    omega
  have ok : (crowdRun n).result = .ok () :=
    doBackupNamespaceBatch_succeeds (.localStorage "/data/backups") rfl rfl (by decide) rfl rfl
      (by decide) planned (crowd_all_stored n) rfl
  obtain ⟨payload, st, last, change, read, storage, -, store, ends⟩ := doBackupNamespaceBatch_ok ok
  obtain rfl : crowdBatch.payload = payload := Option.some.inj read
  obtain rfl : Storage.localStorage "/data/backups" = st := Except.ok.inj storage
  obtain ⟨t₀, row⟩ : ∃ t₀, (submitBackupTask localOnly healthy .empty crowdBatch).1.find
      configMapBatch.id = some t₀ := ⟨_, rfl⟩
  have found : (crowdRun n).store.find 1 = some (change t₀) := by
    have changed := Store.find_change (congrArg Store.tasks store) fun t => (ends t).sameId
    rw [row] at changed
    exact changed
  refine ⟨ok, change t₀, found, ?_⟩
  obtain ⟨failed, summary, count⟩ := (ends t₀).summary
  have stored := crowd_all_stored n
  unfold crowdStored at stored
  rw [stored, length] at summary count
  have none_ : failed = 0 := by omega
  rw [summary, none_]

/-- Of 501 config maps, the last is neither stored nor reported. -/
theorem full_page_loses_object :
    (submitBackupTask localOnly healthy .empty crowdBatch).2.isOk = true ∧
      (crowd 501).Serves (crowdWorker 501) "prod" ∧ (crowdRun 501).result = .ok () ∧
      (∃ t, (crowdRun 501).store.find 1 = some t ∧
        t.errorMessage = some (batchSummary 500 0 500)) ∧
      ¬Complete (crowd 501) crowdBatch (crowdStored 501) := by
  obtain ⟨ok, reports⟩ := crowd_reports (n := 501) (by omega)
  refine ⟨by decide, crowd_serves 501, ok, reports, fun complete => ?_⟩
  have last : "cm-500" ∈ crowdNames 501 :=
    List.mem_map.2 ⟨500, List.mem_range.2 (by omega), by decide⟩
  have one := complete "default" List.mem_cons_self "ConfigMap" List.mem_cons_self "cm-500"
    (by rwa [crowd_names])
  have serves : (crowd 501).Serves (crowdWorker 501) configMapBatch.clusterCode :=
    crowd_serves 501
  have formula := copies_eq localOnly (.localStorage "/data/backups") serves (crowd_plan 501).2
    (crowd_all_stored 501) "ConfigMap" (callScope "ConfigMap" "default") "cm-500"
  have missing : (crowdNames 501).take listLimit = crowdNames 500 := by
    rw [crowdNames, ← List.map_take, List.take_range]
    rfl
  have absent : "cm-500" ∉ crowdNames 500 := by
    intro mem
    obtain ⟨i, below, same⟩ := List.mem_map.1 mem
    have five : ("cm-500" : String) = "cm-" ++ toString 500 := by decide
    rw [five] at same
    have chars := congrArg String.toList ((String.append_right_inj _).1 same)
    have index : i = 500 := Text.digits_inj (by simpa using chars)
    rw [index, List.mem_range] at below
    omega
  rw [crowd_names, missing, List.count_eq_zero.2 absent, Nat.mul_zero] at formula
  exact absurd (formula.symm.trans one) (by decide)

/-- Two config maps fit into a page. -/
theorem small_batch_complete : Complete (crowd 2) crowdBatch (crowdStored 2) := by
  obtain ⟨ok, t, found, reports⟩ := crowd_reports (n := 2) (by omega)
  refine (batch_complete_iff localOnly (crowdWorker 2) healthy .empty _ _ crowdBatch
    (batchTask "ConfigMap") t (.localStorage "/data/backups") (crowd 2) 2 2 rfl rfl rfl
    (crowd_serves 2) rfl ok found reports).2 ?_
  intro ns memNs kind memKind live
  obtain rfl := List.mem_singleton.1 memNs
  obtain rfl := List.mem_singleton.1 memKind
  decide

end K8sPlatform.Backup
