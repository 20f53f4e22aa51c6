import K8sPlatform.Backup.Handler
import K8sPlatform.Resource.Scope

/-! # The list of backups against the check on a single backup -/

namespace K8sPlatform.Backup

open Errcode Auth

/-- A listed row is a live row that meets the conditions. -/
theorem mem_list {low : Lowering} {h : Health} {s : Store} {inp : ListInput} {result : ListResult}
    (listed : list low h s inp = .ok result) {item : BackupTask} (mem : item ∈ result.items) :
    item ∈ s.tasks ∧ inp.selects low item = true := by
  unfold list at listed
  split at listed
  · cases listed
  · cases listed
    have sorted := List.mem_of_mem_drop (List.mem_of_mem_take mem)
    exact List.mem_filter.1 (List.mem_mergeSort.1 sorted)

theorem selects_iff {low : Lowering} {inp : ListInput} {t : BackupTask} :
    inp.selects low t = true ↔
      (inp.clusterCode = "" ∨ t.clusterCode = inp.clusterCode) ∧
        (inp.clusterCodes = [] ∨ t.clusterCode ∈ inp.clusterCodes) ∧
        (inp.namespaces = [] ∨ ∃ ns ∈ inp.namespaces, t.ns = some ns) ∧
        (∀ status, inp.status = some status → t.status = status) ∧
        (inp.backupType = "" ∨ t.backupType = inp.backupType) ∧
        (inp.keyword = "" ∨ keywordMatches low inp.keyword t = true) := by
  have inNamespaces : t.ns.any inp.namespaces.contains = true ↔
      ∃ ns ∈ inp.namespaces, t.ns = some ns := by
    cases t.ns <;> simp [eq_comm]
  have ofStatus : (inp.status.all fun status => t.status == status) = true ↔
      ∀ status, inp.status = some status → t.status = status := by
    cases inp.status <;> simp
  unfold ListInput.selects
  simp only [Bool.and_eq_true, Bool.or_eq_true, beq_iff_eq, List.isEmpty_iff, and_assoc,
    inNamespaces, ofStatus, List.contains_eq_mem, decide_eq_true_eq]

/-- A table of one row lists that row on the first page. -/
theorem list_single {low : Lowering} {inp : ListInput} {t : BackupTask}
    (selected : inp.selects low t = true) (page : inp.page = 1) (size : inp.size = 20) :
    list low healthy { Store.empty with tasks := [t] } inp = .ok ⟨1, [t]⟩ := by
  have window : inp.window = (0, 20) := by
    unfold ListInput.window
    rw [page, size]
    decide
  simp [list, healthy, selected, window]

/-- The shape whose operator is let through. -/
def ofOperator (item : BackupTask) : Bool :=
  isNamespaceBatch item.backupType || isMulti (item.ns.getD "")

theorem requireBackupRecordScope_ok {pt : PermissionTree} {user : Option (Nat × String)}
    {item : BackupTask} :
    requireBackupRecordScope ⟨some pt, user⟩ item = .ok () ↔
      pt.hasClusterScope item.clusterCode = true ∨
        (item.ns.getD "" ≠ "" ∧ isMulti (item.ns.getD "") = false ∧
          pt.hasNamespaceScope item.clusterCode (item.ns.getD "") = true) ∨
        (ofOperator item = true ∧ user.any (·.1 == item.operatorId) = true) := by
  have wider : pt.hasClusterScope item.clusterCode = true →
      pt.hasNamespaceScope item.clusterCode (item.ns.getD "") = true :=
    fun cluster => PermissionTree.hasNamespaceScope_of_hasClusterScope cluster _
  unfold requireBackupRecordScope
  dsimp only
  rw [← ofOperator]
  cases shape : ofOperator item
  · have single : isMulti (item.ns.getD "") = false := (Bool.or_eq_false_iff.1 shape).2
    simp only [if_false, Bool.false_eq_true, requireNamespaceScope_ok, single]
    by_cases blank : item.ns.getD "" = ""
    · simp [blank]
    · simpa [blank] using wider
  · simp only [if_true]
    cases cluster : pt.hasClusterScope item.clusterCode
    · cases operator : user.any (·.1 == item.operatorId)
      · cases multi : isMulti (item.ns.getD "")
        · by_cases blank : item.ns.getD "" = "" <;> simp [blank, requireNamespaceScope_ok]
        · simp
      · simp
    · simp

/-- A record is given out to those who pass the check on it. -/
theorem getBackup_ok_iff {h : Health} {s : Store} {caller : Caller} {id : String}
    {item : BackupTask} :
    getBackup h s caller id = .ok item ↔
      (∃ n, Validation.parseUint64 id = some n ∧ get h s n = .ok item) ∧
        requireBackupRecordScope caller item = .ok () := by
  unfold getBackup
  split
  · next invalid => simp [invalid]
  · next zero => simp [zero, get]
  · next n _ valid =>
      simp only [valid, Option.some.injEq, exists_eq_left']
      cases found : get h s n with
      | error err => simp
      | ok item' =>
          dsimp only
          cases checked : requireBackupRecordScope caller item' with
          | error err =>
              refine iff_of_false nofun ?_
              rintro ⟨same, ok⟩
              rw [Except.ok.inj same, ok] at checked
              cases checked
          | ok _ =>
              constructor
              · intro same
                obtain rfl := Except.ok.inj same
                exact ⟨rfl, checked⟩
              · exact fun h => h.1

/-! ## The list -/

/-- The record check covers what the list shows of a cluster, or without a cluster of all in
reach: no part of what is shown needs more scope than the list asked for. -/
def ListKept (pt : PermissionTree) (code : String) : Prop :=
  if code = "" then
    ∀ sc ∈ pt.scopes, sc.scopeType = scopeNamespace → sc.clusterCode ≠ "" →
      pt.hasClusterScope sc.clusterCode = true
  else
    pt.hasClusterScope code = true ∨
      ∀ sc ∈ pt.scopes, sc.scopeType = scopeNamespace → sc.clusterCode = code →
        sc.ns ≠ "" ∧ isMulti sc.ns = false

section Listed

variable {low : Lowering} {h : Health} {s : Store} {pt : PermissionTree}
  {user : Option (Nat × String)} {q : ListBackupsQuery} {result : ListResult} {item : BackupTask}

/-- Without a cluster in the query, what is listed is of an allowed cluster. -/
theorem mem_listBackups_all (listed : listBackups low h s ⟨some pt, user⟩ q = .ok result)
    (mem : item ∈ result.items) (all : q.clusterCode = "") :
    (pt.allowedClusters).2 = true ∨ item.clusterCode ∈ (pt.allowedClusters).1 := by
  unfold listBackups at listed
  simp only [all, ne_eq, not_true_eq_false, if_false, allowedClusters] at listed
  rcases allowed : pt.allowedClusters with ⟨codes, isFull⟩
  rw [allowed] at listed
  cases isFull with
  | true => exact .inl rfl
  | false =>
      dsimp only at listed
      split at listed
      · cases listed
        cases mem
      · rename_i some_
        obtain ⟨_, selected⟩ := mem_list listed mem
        obtain ⟨_, inCodes, _⟩ := selects_iff.1 selected
        exact .inr (inCodes.resolve_left some_)

/-- With a cluster in the query, what is listed is of that cluster and of an allowed namespace. -/
theorem mem_listBackups_chosen (listed : listBackups low h s ⟨some pt, user⟩ q = .ok result)
    (mem : item ∈ result.items) (chosen : q.clusterCode ≠ "") :
    item.clusterCode = q.clusterCode ∧ ((pt.allowedNamespaces q.clusterCode).2 = true ∨
      ∃ ns ∈ (pt.allowedNamespaces q.clusterCode).1, item.ns = some ns) := by
  unfold listBackups at listed
  simp only [chosen, ne_eq, not_false_eq_true, if_true, allowedNamespaces] at listed
  rcases allowed : pt.allowedNamespaces q.clusterCode with ⟨nss, isFull⟩
  rw [allowed] at listed
  cases isFull with
  | true =>
      obtain ⟨_, selected⟩ := mem_list listed mem
      exact ⟨(selects_iff.1 selected).1.resolve_left chosen, .inl rfl⟩
  | false =>
      dsimp only at listed
      split at listed
      · cases listed
        cases mem
      · rename_i some_
        obtain ⟨_, selected⟩ := mem_list listed mem
        obtain ⟨inCode, _, inNs, _⟩ := selects_iff.1 selected
        exact ⟨inCode.resolve_left chosen, .inr (inNs.resolve_left some_)⟩

/-- What is listed passes the check when `ListKept` holds. -/
theorem listed_readable (kept : ListKept pt q.clusterCode)
    (listed : listBackups low h s ⟨some pt, user⟩ q = .ok result) (mem : item ∈ result.items) :
    requireBackupRecordScope ⟨some pt, user⟩ item = .ok () := by
  rw [requireBackupRecordScope_ok]
  unfold ListKept at kept
  by_cases all : q.clusterCode = ""
  · rw [if_pos all] at kept
    by_cases full : (pt.allowedClusters).2 = true
    · exact .inl (allowedClusters_full full _)
    · have inReach := (mem_listBackups_all listed mem all).resolve_left full
      obtain ⟨named, sc, memSc, type | type, eq⟩ :=
        (mem_allowedClusters (by simpa using full) item.clusterCode).1 inReach
      · exact .inl (PermissionTree.hasClusterScope_iff.2 (.inr ⟨sc, memSc, .inr ⟨type, eq⟩⟩))
      · exact .inl (eq ▸ kept sc memSc type (eq ▸ named))
  · rw [if_neg all] at kept
    obtain ⟨code, reach⟩ := mem_listBackups_chosen listed mem all
    have full : (pt.allowedNamespaces q.clusterCode).2 = pt.hasClusterScope q.clusterCode :=
      allowedNamespaces_full
    rw [full] at reach
    rw [code]
    by_cases cluster : pt.hasClusterScope q.clusterCode = true
    · exact .inl cluster
    · have outside : pt.hasClusterScope q.clusterCode = false := by simpa using cluster
      obtain ⟨ns, memNs, eq⟩ := reach.resolve_left cluster
      obtain ⟨sc, memSc, type, scCode, rfl⟩ := (mem_allowedNamespaces outside ns).1 memNs
      obtain ⟨named, single⟩ := kept.resolve_left cluster sc memSc type scCode
      rw [eq, Option.getD_some]
      exact .inr (.inl ⟨named, single, PermissionTree.hasNamespaceScope_iff.2
        (.inr ⟨sc, memSc, .inr ⟨type, scCode, rfl⟩⟩)⟩)

end Listed

/-- A finished backup in the table. -/
def finished (code : String) (ns : Option String) (backupType : String) (operatorId : Nat) :
    BackupTask :=
  ⟨1, code, ns, some "ConfigMap", some "app", backupType, "", "local",
    "prod/20260101/1_ConfigMap_app.yaml", .success, some 20, "dev", operatorId, none, 1⟩

/-- The first page of a cluster, or of all clusters, without other filters. -/
def firstPage (code : String) : ListBackupsQuery := ⟨"1", "20", code, "", "", ""⟩

theorem firstPage_input (code : String) :
    (firstPage code).input = ⟨1, 20, code, none, "", "", [], []⟩ := by
  simp only [firstPage, ListBackupsQuery.input, ListInput.mk.injEq, and_true, true_and]
  exact ⟨by decide, by decide, by decide⟩

def plainLowering : Lowering := ⟨id, id⟩

variable {pt : PermissionTree} (user : Option (Nat × String))

/-- When no cluster is chosen, a namespace scope shows every backup of its cluster. -/
theorem lists_reached_backup {sc : Scope} (mem : sc ∈ pt.scopes)
    (type : sc.scopeType = scopeNamespace) (named : sc.clusterCode ≠ "")
    (outside : pt.hasClusterScope sc.clusterCode = false) (ns : Option String)
    (backupType : String) (operatorId : Nat) :
    listBackups plainLowering healthy
        { Store.empty with tasks := [finished sc.clusterCode ns backupType operatorId] }
        ⟨some pt, user⟩ (firstPage "") =
      .ok ⟨1, [finished sc.clusterCode ns backupType operatorId]⟩ := by
  have limited : (pt.allowedClusters).2 = false := by
    by_contra full
    rw [allowedClusters_full (by simpa using full)] at outside
    cases outside
  have reach : sc.clusterCode ∈ (pt.allowedClusters).1 :=
    (mem_allowedClusters limited _).2 ⟨named, sc, mem, .inr type, rfl⟩
  rcases allowed : pt.allowedClusters with ⟨codes, isFull⟩
  rw [allowed] at limited reach
  obtain rfl : isFull = false := limited
  have some_ : codes ≠ [] := List.ne_nil_of_mem reach
  unfold listBackups
  simp only [firstPage_input, allowedClusters, allowed, some_, if_false]
  rw [if_neg (by simp [firstPage])]
  refine list_single (selects_iff.2 ?_) rfl rfl
  simp [finished, reach]

/-- A namespace that the record check does not accept shows the batches stored under it. -/
theorem lists_batch {sc : Scope} (mem : sc ∈ pt.scopes) (type : sc.scopeType = scopeNamespace)
    (named : sc.clusterCode ≠ "") (outside : pt.hasClusterScope sc.clusterCode = false)
    (operatorId : Nat) :
    listBackups plainLowering healthy
        { Store.empty with
          tasks := [finished sc.clusterCode (some sc.ns) "namespace_batch" operatorId] }
        ⟨some pt, user⟩ (firstPage sc.clusterCode) =
      .ok ⟨1, [finished sc.clusterCode (some sc.ns) "namespace_batch" operatorId]⟩ := by
  have limited : (pt.allowedNamespaces sc.clusterCode).2 = false := by
    rw [allowedNamespaces_full, outside]
  have reach : sc.ns ∈ (pt.allowedNamespaces sc.clusterCode).1 :=
    (mem_allowedNamespaces outside _).2 ⟨sc, mem, type, rfl, rfl⟩
  rcases allowed : pt.allowedNamespaces sc.clusterCode with ⟨nss, isFull⟩
  rw [allowed] at limited reach
  obtain rfl : isFull = false := limited
  have some_ : nss ≠ [] := List.ne_nil_of_mem reach
  unfold listBackups
  simp only [firstPage_input, allowedNamespaces]
  rw [if_pos (by simpa [firstPage] using named)]
  simp only [firstPage, allowed, some_, if_false]
  refine list_single (selects_iff.2 ?_) rfl rfl
  simp [finished, reach]

/-- For every caller and choice of cluster, over all tables and other parameters of the query:
each listed record passes the record check exactly when `ListKept` holds of the tree. -/
theorem listed_readable_iff (caller : Caller) (code : String) :
    (∀ low h s q, q.clusterCode = code → ∀ result, listBackups low h s caller q = .ok result →
        ∀ item ∈ result.items, requireBackupRecordScope caller item = .ok ()) ↔
      ∀ pt, caller.tree = some pt → ListKept pt code := by
  obtain ⟨tree, user⟩ := caller
  constructor
  · rintro readable pt rfl
    unfold ListKept
    split
    · rename_i all
      intro sc mem type named
      by_contra outside
      have outside : pt.hasClusterScope sc.clusterCode = false := by simpa using outside
      have listed := lists_reached_backup user mem type named outside none "single" 0
      have ok := readable _ _ _ _ all.symm _ listed _ (List.mem_singleton_self _)
      rw [requireBackupRecordScope_ok] at ok
      obtain cluster | ⟨blank, _⟩ | ⟨shape, _⟩ := ok
      · change pt.hasClusterScope sc.clusterCode = true at cluster
        rw [outside] at cluster
        cases cluster
      · exact blank rfl
      · have single : ofOperator (finished sc.clusterCode none "single" 0) = false := rfl
        rw [single] at shape
        cases shape
    · rename_i chosen
      by_cases cluster : pt.hasClusterScope code = true
      · exact .inl cluster
      · refine .inr fun sc mem type eq => ?_
        subst eq
        have outside : pt.hasClusterScope sc.clusterCode = false := by simpa using cluster
        obtain ⟨other, differs⟩ : ∃ id, user.any (·.1 == id) = false := by
          cases user with
          | none => exact ⟨0, rfl⟩
          | some u => exact ⟨u.1 + 1, by simp⟩
        have listed := lists_batch user mem type chosen outside other
        have ok := readable _ _ _ _ rfl _ listed _ (List.mem_singleton_self _)
        rw [requireBackupRecordScope_ok] at ok
        obtain whole | ⟨named, single, _⟩ | ⟨_, operator⟩ := ok
        · exact absurd whole cluster
        · exact ⟨named, single⟩
        · change user.any (·.1 == other) = true at operator
          rw [differs] at operator
          cases operator
  · intro kept low h s q code_ result listed item mem
    cases tree with
    | none =>
        -- without a tree nothing is allowed and nothing is listed
        unfold listBackups at listed
        simp only [allowedNamespaces, allowedClusters, if_true] at listed
        split at listed <;> cases listed <;> cases mem
    | some pt => exact listed_readable (code_ ▸ kept pt rfl) listed mem

def defaultNs : Scope := ⟨scopeNamespace, "prod", "default"⟩

def nsTree : PermissionTree := ⟨∅, [defaultNs], false⟩

/-- A caller with one namespace. -/
def nsReader : Caller := ⟨some nsTree, some (7, "dev")⟩

/-- Without a cluster in the query the list shows the backups of all its namespaces. -/
theorem foreign_backup_listed :
    listBackups plainLowering healthy
        { Store.empty with tasks := [finished "prod" (some "kube-system") "single" 1] } nsReader
        (firstPage "") = .ok ⟨1, [finished "prod" (some "kube-system") "single" 1]⟩ ∧
      requireBackupRecordScope nsReader (finished "prod" (some "kube-system") "single" 1) =
        .error (.new .scopeDenied "无权访问命名空间: prod/kube-system") := by
  constructor
  · have reached : defaultNs ∈ nsTree.scopes := List.mem_singleton_self _
    have outside : nsTree.hasClusterScope defaultNs.clusterCode = false := by decide
    exact lists_reached_backup _ reached rfl (by decide) outside _ _ _
  · rfl

end K8sPlatform.Backup
