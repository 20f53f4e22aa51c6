import K8sPlatform.Auth.Revocation
import K8sPlatform.Backup.Progress
import K8sPlatform.Backup.Visibility
import K8sPlatform.Websocket.Hub

/-! # Who sees the progress of a task, and who may read its record -/

namespace K8sPlatform.Websocket

open Auth Backup Errcode
open Resource (Json)

def stageText : ProgressStage → String
  | .pending => "pending"
  | .exporting => "exporting"
  | .uploading => "uploading"
  | .completed => "completed"
  | .failed => "failed"
  | .restoring => "restoring"
  | .other status => status

/-- A field with `omitempty`. -/
def omitEmpty (key value : String) : List (String × Json) :=
  if value = "" then [] else [(key, .str value)]

/-- The payload as it is published. -/
def progressJson (p : TaskProgress) (timestamp : String) : Json :=
  .obj ([("task_id", .str (toString p.taskId))] ++ omitEmpty "backup_id" (toString p.taskId) ++
    omitEmpty "cluster_code" p.clusterCode ++ omitEmpty "namespace" p.ns ++
    omitEmpty "kind" p.kind ++ omitEmpty "name" p.name ++
    [("stage", .str (stageText p.stage)), ("progress", .num (toString p.progress))] ++
    omitEmpty "message" p.message ++ omitEmpty "error" p.error ++ omitEmpty "timestamp" timestamp)

/-- A key that the check does not read. -/
def Unread (key : String) : Prop :=
  Text.foldCase key ≠ "cluster_code".toList ∧ Text.foldCase key ≠ "namespace".toList

instance (key : String) : Decidable (Unread key) := inferInstanceAs (Decidable (_ ∧ _))

theorem decode_unread {key : String} (unread : Unread key) (p : ProgressScope) (value : Json) :
    p.decode (key, value) = p := by
  rw [ProgressScope.decode, if_neg unread.1, if_neg unread.2]

theorem foldl_omitEmpty_unread {key : String} (unread : Unread key) (p : ProgressScope)
    (value : String) : (omitEmpty key value).foldl ProgressScope.decode p = p := by
  unfold omitEmpty
  split
  · rfl
  · exact decode_unread unread p _

theorem foldl_omitEmpty_cluster (value ns : String) :
    (omitEmpty "cluster_code" value).foldl ProgressScope.decode ⟨"", ns, true⟩ =
      ⟨value, ns, true⟩ := by
  unfold omitEmpty
  split
  · rename_i empty
    rw [empty]
    rfl
  · have key : Text.foldCase "cluster_code" = "cluster_code".toList := by decide
    rw [List.foldl_cons, List.foldl_nil, ProgressScope.decode, if_pos key]

theorem foldl_omitEmpty_ns (code value : String) :
    (omitEmpty "namespace" value).foldl ProgressScope.decode ⟨code, "", true⟩ =
      ⟨code, value, true⟩ := by
  unfold omitEmpty
  split
  · rename_i empty
    rw [empty]
    rfl
  · have key : Text.foldCase "namespace" = "namespace".toList := by decide
    have other : Text.foldCase "namespace" ≠ "cluster_code".toList := by decide
    rw [List.foldl_cons, List.foldl_nil, ProgressScope.decode, if_neg other, if_pos key]

/-- The check reads the cluster code and the namespace that were put in, left out or not. -/
theorem progressScope_progressJson (p : TaskProgress) (timestamp : String) :
    progressScope (progressJson p timestamp) = ⟨p.clusterCode, p.ns, true⟩ := by
  have taskId : Unread "task_id" := by decide
  have backupId : Unread "backup_id" := by decide
  have kind : Unread "kind" := by decide
  have name : Unread "name" := by decide
  have stage : Unread "stage" := by decide
  have progress : Unread "progress" := by decide
  have message : Unread "message" := by decide
  have error : Unread "error" := by decide
  have time : Unread "timestamp" := by decide
  simp only [progressScope, progressJson, List.foldl_append, List.foldl_cons, List.foldl_nil,
    decode_unread taskId, foldl_omitEmpty_unread backupId, foldl_omitEmpty_cluster,
    foldl_omitEmpty_ns, foldl_omitEmpty_unread kind, foldl_omitEmpty_unread name,
    decode_unread stage, decode_unread progress, foldl_omitEmpty_unread message,
    foldl_omitEmpty_unread error, foldl_omitEmpty_unread time]

/-! ## Against the check on the record -/

/-- What `activeTasks` can hold of a task: a copy of its row, or nothing. -/
def CopyOf (task : BackupTask) (active : Option (BackupTask × TaskType)) : Prop :=
  ∀ copy taskType, active = some (copy, taskType) →
    copy.clusterCode = task.clusterCode ∧ copy.ns = task.ns

/-- Whose client is sent the progress of a task may read its record. -/
def RevealsNoMore (pt : PermissionTree) (user : Option (Nat × String)) : Prop :=
  ∀ (task : BackupTask) (active : Option (BackupTask × TaskType)) (r : Report)
    (timestamp : String), CopyOf task active →
    authorizeTaskProgressPayload (some pt)
        (some (progressJson (buildProgressPayload task.id active r) timestamp)) = true →
      requireBackupRecordScope ⟨some pt, user⟩ task = .ok ()

/-- A scope on a cluster without a code. -/
def UnnamedCluster (sc : Scope) : Prop := sc.scopeType = scopeCluster ∧ sc.clusterCode = ""

variable {pt : PermissionTree}

/-- Which payloads a client is sent. -/
theorem authorizeTaskProgressPayload_iff {p : TaskProgress} {timestamp : String} :
    authorizeTaskProgressPayload (some pt) (some (progressJson p timestamp)) = true ↔
      pt.hasPerm "backup:list" = true ∧
        if p.clusterCode = "" then pt.hasClusterScope "" = true
        else if p.ns = "" ∨ isMulti p.ns = true then pt.hasClusterScope p.clusterCode = true
        else pt.hasNamespaceScope p.clusterCode p.ns = true := by
  have channel : authorizeChannel (some pt) typeTaskProgress = pt.hasPerm "backup:list" := by
    have named : typeTaskProgress ≠ "" := by decide
    have star : '*' ∉ typeTaskProgress.toList := by decide
    rw [authorizeChannel, if_neg named, if_neg star, if_pos rfl]
  unfold authorizeTaskProgressPayload
  rw [channel, Bool.and_eq_true]
  apply and_congr_right
  intro _
  dsimp only [Option.map_some]
  rw [progressScope_progressJson, Bool.true_and, isMulti]
  split
  · rfl
  · split <;> rfl

/-- Without a cluster scope that names no cluster, only who reads all sees what names none. -/
theorem unrestricted_of_hasClusterScope (named : ∀ sc ∈ pt.scopes, ¬UnnamedCluster sc)
    (scope : pt.hasClusterScope "" = true) : pt.Unrestricted := by
  obtain admin | ⟨sc, mem, platform | cluster⟩ := PermissionTree.hasClusterScope_iff.1 scope
  · exact .inl admin
  · exact .inr ⟨sc, mem, platform⟩
  · exact absurd cluster (named sc mem)

theorem hasClusterScope_of_unrestricted (all : pt.Unrestricted) (code : String) :
    pt.hasClusterScope code = true := by
  rw [PermissionTree.hasClusterScope_iff]
  exact all.imp_right fun ⟨sc, mem, platform⟩ => ⟨sc, mem, .inl platform⟩

/-- What names the cluster and the namespace of the task is only sent to who may read it. -/
theorem readable_of_payload {task : BackupTask} {user : Option (Nat × String)}
    (sent : if task.ns.getD "" = "" ∨ isMulti (task.ns.getD "") = true then
        pt.hasClusterScope task.clusterCode = true
      else pt.hasNamespaceScope task.clusterCode (task.ns.getD "") = true) :
    requireBackupRecordScope ⟨some pt, user⟩ task = .ok () := by
  rw [requireBackupRecordScope_ok]
  split at sent
  · exact .inl sent
  · rename_i single
    obtain ⟨named, multi⟩ := not_or.1 single
    exact .inr (.inl ⟨named, by simpa using multi, sent⟩)

theorem revealsNoMore_of_named (named : pt.Unrestricted ∨ ∀ sc ∈ pt.scopes, ¬UnnamedCluster sc)
    (user : Option (Nat × String)) : RevealsNoMore pt user := by
  intro task active r timestamp copyOf sent
  have payload := (authorizeTaskProgressPayload_iff.1 sent).2
  have ofAll (all : pt.Unrestricted) : requireBackupRecordScope ⟨some pt, user⟩ task = .ok () :=
    requireBackupRecordScope_ok.2 (.inl (hasClusterScope_of_unrestricted all _))
  split at payload
  · obtain all | named := named
    · exact ofAll all
    · exact ofAll (unrestricted_of_hasClusterScope named payload)
  · rename_i code
    cases active with
    | none => exact absurd rfl code
    | some copied =>
        obtain ⟨sameCluster, sameNs⟩ := copyOf copied.1 copied.2 rfl
        simp only [buildProgressPayload, sameCluster, sameNs] at payload
        exact readable_of_payload payload

/-- A backup of one config map in a cluster. -/
def configMapTask (clusterCode : String) : BackupTask where
  id := 1
  clusterCode := clusterCode
  ns := some "default"
  targetKind := some "ConfigMap"
  targetName := some "app"
  backupType := "single"
  restoreMode := ""
  storageType := "local"
  storagePath := ""
  status := .running
  sizeBytes := none
  operator := "ops"
  operatorId := 1
  errorMessage := none
  objectCount := 0

/-- A cluster scope that names no cluster is shown the progress of a task that is no longer active,
of whatever cluster. -/
theorem revealsMore_of_unnamed {user : Option (Nat × String)} {sc : Scope}
    (granted : pt.hasPerm "backup:list" = true) (limited : ¬pt.Unrestricted)
    (mem : sc ∈ pt.scopes) (unnamed : UnnamedCluster sc)
    (apart : ∀ sc ∈ pt.scopes, sc.clusterCode ≠ "prod") : ¬RevealsNoMore pt user := by
  intro noMore
  have whole : pt.hasClusterScope "" = true :=
    PermissionTree.hasClusterScope_iff.2 (.inr ⟨sc, mem, .inr unnamed⟩)
  have readable := noMore (configMapTask "prod") none ⟨100, .success, "任务完成", ""⟩ ""
    (fun _ _ none_ => by cases none_)
    (authorizeTaskProgressPayload_iff.2 ⟨granted, by simpa [buildProgressPayload] using whole⟩)
  have outside : ¬pt.hasNamespaceScope "prod" "default" = true := by
    rw [PermissionTree.hasNamespaceScope_iff]
    rintro (admin | ⟨sc, mem, (platform | ⟨-, code⟩) | ⟨-, code, -⟩⟩)
    · exact limited (.inl admin)
    · exact limited (.inr ⟨sc, mem, platform⟩)
    · exact apart sc mem code
    · exact apart sc mem code
  obtain cluster | ⟨-, -, ns⟩ | ⟨operator, -⟩ := requireBackupRecordScope_ok.1 readable
  · exact outside (PermissionTree.hasNamespaceScope_of_hasClusterScope cluster "default")
  · exact outside ns
  · exact absurd operator (by decide)

/-- The live progress of tasks reveals no more than their records just when the loader reads the
cluster codes of the scopes, or the tree may not list backups, reads every cluster, or has no
cluster scope. -/
theorem reveals_no_more_iff (orm : NamingStrategy) (db : Database) (userId : Nat) (name : String)
    (accepted : db.BindingsAccepted) :
    RevealsNoMore (loadPermissionTree orm db userId) (some (userId, name)) ↔
      orm.FillsScopeCluster ∨
        (loadPermissionTree orm db userId).hasPerm "backup:list" = false ∨
        (loadPermissionTree orm db userId).Unrestricted ∨
        ∀ sc ∈ (loadPermissionTree orm db userId).scopes, ¬UnnamedCluster sc := by
  constructor
  · intro noMore
    by_contra unmet
    simp only [not_or] at unmet
    obtain ⟨unfilled, granted, limited, unnamed⟩ := unmet
    simp only [not_forall, not_not] at unnamed
    obtain ⟨sc, mem, unnamed⟩ := unnamed
    refine revealsMore_of_unnamed (by simpa using granted) limited mem unnamed ?_ noMore
    intro other memOther
    obtain ⟨ur, r, -, rfl⟩ := exists_joined_of_mem_scopes memOther
    rw [readScope_eq, if_neg unfilled]
    exact Ne.symm (by decide : "prod" ≠ "")
  · rintro (fills | denied | all | named)
    · apply revealsNoMore_of_named (.inr fun sc mem => ?_)
      obtain ⟨ur, r, joined, rfl⟩ := exists_joined_of_mem_scopes mem
      rw [readScope_of_fills fills]
      rintro ⟨type, unnamed⟩
      exact (accepted ur joined.binding).1 type unnamed
    · intro task active r timestamp copyOf sent
      rw [(authorizeTaskProgressPayload_iff.1 sent).1] at denied
      cases denied
    · exact revealsNoMore_of_named (.inl all) _
    · exact revealsNoMore_of_named (.inr named) _

/-- A user of one cluster, who may list its backups. -/
def devBound : Database :=
  (handle seededWithUser (.bindUserRole "7" (.ok ⟨4, scopeCluster, "dev", ""⟩) none)).2

theorem devBound_accepted : devBound.BindingsAccepted := by
  apply handle_accepted
  intro ur mem
  obtain rfl := List.mem_singleton.1 mem
  exact ⟨by decide, by decide⟩

theorem reveals_no_more_mapped :
    RevealsNoMore (loadPermissionTree scopeClusterMapped devBound 7) (some (7, "dev")) :=
  (reveals_no_more_iff scopeClusterMapped devBound 7 "dev" devBound_accepted).2
    (.inl scopeClusterMapped_fills)

/-- With the default names the user is shown the end of a backup of another cluster. -/
theorem other_cluster_shown :
    devBound.BindingsAccepted ∧
      authorizeTaskProgressPayload (some (loadPermissionTree gormDefault devBound 7))
        (some (progressJson (buildProgressPayload 1 none ⟨100, .success, "任务完成", ""⟩)
          "2026-01-01T00:00:00Z")) = true ∧
      requireBackupRecordScope ⟨some (loadPermissionTree gormDefault devBound 7), some (7, "dev")⟩
        (configMapTask "prod") = .error (.new .scopeDenied "无权访问命名空间: prod/default") ∧
      ¬RevealsNoMore (loadPermissionTree gormDefault devBound 7) (some (7, "dev")) := by
  have shown : authorizeTaskProgressPayload (some (loadPermissionTree gormDefault devBound 7))
      (some (progressJson (buildProgressPayload 1 none ⟨100, .success, "任务完成", ""⟩)
        "2026-01-01T00:00:00Z")) = true := by
    decide +kernel
  have denied : requireBackupRecordScope
      ⟨some (loadPermissionTree gormDefault devBound 7), some (7, "dev")⟩ (configMapTask "prod") =
      .error (.new .scopeDenied "无权访问命名空间: prod/default") := by
    decide +kernel
  refine ⟨devBound_accepted, shown, denied, fun noMore => ?_⟩
  have readable := noMore (configMapTask "prod") none _ _ (fun _ _ none_ => by cases none_) shown
  rw [denied] at readable
  cases readable

end K8sPlatform.Websocket
