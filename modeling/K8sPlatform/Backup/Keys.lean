import K8sPlatform.Backup.BatchDelete
import K8sPlatform.Backup.Vault

/-! # No two uploads have the same key -/

namespace K8sPlatform.Backup

open FilePath

variable {cfg : BackupConfig} {e : Environment} {task : BackupTask}

theorem pad5_inj {m n : Nat} (h : pad5 m = pad5 n) : m = n := by
  have value (n : Nat) : Nat.ofDigitChars 10 (pad5 n).toList 0 = n := by
    have digits : (toString n).toList = Nat.toDigits 10 n := Nat.toList_repr
    rw [pad5, String.toList_append, String.toList_ofList, digits, Nat.ofDigitChars_append,
      Nat.ofDigitChars_replicate_zero, Nat.mul_zero, Nat.ofDigitChars_ten_toDigits]
  have values := congrArg (fun s => Nat.ofDigitChars 10 s.toList 0) h
  simpa only [value] using values

/-- The characters of the id of a backup. -/
theorem toList_backupID (id : Nat) (n : Option Nat) :
    (backupID id n).toList =
      Nat.toDigits 10 id ++ (n.map fun n => '-' :: (pad5 n).toList).getD [] := by
  cases n with
  | none => simp [backupID]
  | some n => simp [backupID]

/-- The id of a backup tells its task and its position in the batch, however long that is. -/
theorem backupID_inj {id id' : Nat} {n n' : Option Nat} (h : backupID id n = backupID id' n') :
    id = id' ∧ n = n' := by
  have chars := congrArg String.toList h
  rw [toList_backupID, toList_backupID] at chars
  have noDash (id : Nat) : ∀ c ∈ Nat.toDigits 10 id, decide (c ≠ '-') = true := by
    intro c mem
    rw [decide_eq_true_eq]
    rintro rfl
    exact Text.not_mem_digits (by decide) id mem
  have before (id : Nat) (n : Option Nat) :
      (Nat.toDigits 10 id ++ (n.map fun n => '-' :: (pad5 n).toList).getD []).takeWhile
        (· ≠ '-') = Nat.toDigits 10 id := by
    rw [List.takeWhile_append_of_pos (noDash id)]
    cases n <;> simp
  have ids := congrArg (List.takeWhile (· ≠ '-')) chars
  rw [before, before] at ids
  rw [ids] at chars
  refine ⟨Text.digits_inj ids, ?_⟩
  have rest := List.append_cancel_left chars
  cases n with
  | none =>
      cases n' with
      | none => rfl
      | some n' => cases rest
  | some n =>
      cases n' with
      | none => cases rest
      | some n' => rw [pad5_inj (String.toList_inj.1 (List.cons.inj rest).2)]

/-- The name of an object tells the id of its backup. -/
theorem objectName_backupID {id id' : Nat} {n n' : Option Nat} {kind kind' name name' : String}
    (h : objectName (backupID id n) kind name = objectName (backupID id' n') kind' name') :
    backupID id n = backupID id' n' := by
  have underscore (id : Nat) (n : Option Nat) :
      ∀ c ∈ (backupID id n).toList, decide (c ≠ '_') = true := by
    intro c mem
    rw [decide_eq_true_eq]
    rintro rfl
    rw [toList_backupID] at mem
    have plain (n : Nat) : '_' ∉ Nat.toDigits 10 n := Nat.underscore_not_in_toDigits
    cases n with
    | none => simp [plain] at mem
    | some n => simp [plain, pad5] at mem
  have before (id : Nat) (n : Option Nat) (kind name : String) :
      (objectName (backupID id n) kind name).toList.takeWhile (· ≠ '_') =
        (backupID id n).toList := by
    simp only [objectName, String.toList_append, List.append_assoc]
    rw [List.takeWhile_append_of_pos (underscore id n)]
    simp
  have same := congrArg (fun s => s.toList.takeWhile (· ≠ '_')) h
  simp only [before] at same
  exact String.toList_inj.1 same

/-- An object name without slashes is the last component of its key. -/
theorem TaskObject.split_key {o : TaskObject} {gvr : GVR} (kind : resolveGVR o.kind = .ok gvr) :
    Text.split '/' o.key = (Text.split '/' o.code ++ Text.split '/' o.date) ++
      [objectName (backupID o.owner o.item) o.kind o.name] := by
  have slash : ("/" : String) = String.singleton '/' := rfl
  rw [TaskObject.key, buildKey, slash, Text.split_append_sep, Text.split_append_sep,
    Text.split_of_not_mem (slash_not_mem_name (backupID_plain o.owner o.item).1
      (slash_not_mem_kind kind) o.name)]

/-- Where an object is put tells its name. -/
theorem TaskObject.getLast?_path {st : Storage} {o : TaskObject} {gvr : GVR} {path : List String}
    (kind : resolveGVR o.kind = .ok gvr) (placed : st.uploadPath cfg o.key = .ok path) :
    path.getLast? = some (objectName (backupID o.owner o.item) o.kind o.name) := by
  rw [(Storage.uploadPath_eq placed).2]
  exact getLast?_follow_clean _ (o.split_key kind) (name_plain _ _ _)

/-- Uploads of different tasks, or at different positions of a batch, have different keys, and go to
different places. -/
theorem keys_never_collide (cfg : BackupConfig) (o o' : TaskObject) (gvr gvr' : GVR)
    (kind : resolveGVR o.kind = .ok gvr) (kind' : resolveGVR o'.kind = .ok gvr')
    (differ : o.owner ≠ o'.owner ∨ o.owner = o'.owner ∧ o.item ≠ o'.item) :
    o.key ≠ o'.key ∧ ∀ (st st' : Storage) (path path' : List String),
      st.uploadPath cfg o.key = .ok path → st'.uploadPath cfg o'.key = .ok path' →
        path ≠ path' := by
  have apart : objectName (backupID o.owner o.item) o.kind o.name ≠
      objectName (backupID o'.owner o'.item) o'.kind o'.name := by
    intro same
    obtain ⟨owner, item⟩ := backupID_inj (objectName_backupID same)
    obtain other | ⟨-, other⟩ := differ
    · exact other owner
    · exact other item
  constructor
  · intro same
    have pieces := congrArg (Text.split '/') same
    rw [o.split_key kind, o'.split_key kind'] at pieces
    exact apart (List.singleton_inj.1 (List.append_inj' pieces rfl).2)
  · rintro st st' path path' placed placed' rfl
    have last := TaskObject.getLast?_path kind placed
    rw [TaskObject.getLast?_path kind' placed'] at last
    exact apart (Option.some.inj last).symm

theorem keys_never_collide_wide :
    (⟨1, some 99999, "prod", "20260101", "ConfigMap", "a"⟩ : TaskObject).key ≠
        (⟨1, some 100000, "prod", "20260101", "ConfigMap", "a"⟩ : TaskObject).key ∧
      ∀ (st st' : Storage) (path path' : List String),
        st.uploadPath localOnly
            (⟨1, some 99999, "prod", "20260101", "ConfigMap", "a"⟩ : TaskObject).key = .ok path →
          st'.uploadPath localOnly
            (⟨1, some 100000, "prod", "20260101", "ConfigMap", "a"⟩ : TaskObject).key = .ok path' →
          path ≠ path' :=
  keys_never_collide localOnly ⟨1, some 99999, "prod", "20260101", "ConfigMap", "a"⟩
    ⟨1, some 100000, "prod", "20260101", "ConfigMap", "a"⟩ ⟨"", "v1", "configmaps"⟩
    ⟨"", "v1", "configmaps"⟩ (by decide) (by decide) (.inr ⟨rfl, by decide⟩)

/-- A single backup uploads one object. -/
theorem uploadSingle_object {files files' : Files} {up : Upload} {res : UploadResult}
    (ok : uploadSingle cfg e files task = .ok (up, files', res)) :
    ∃ o : TaskObject, o.owner = task.id ∧ o.item = none ∧
      (∃ gvr, resolveGVR o.kind = .ok gvr) ∧ up.key = o.key := by
  obtain ⟨kind, gvr, name, -, -, resolved, -, -, key, -⟩ := uploadSingle_ok ok
  exact ⟨⟨task.id, none, task.clusterCode, e.date 0, kind, name⟩, rfl, rfl, ⟨gvr, resolved⟩, key⟩

/-- A batch uploads an object for an item of its plan, numbered from 1. -/
theorem batchUpload_object {st : Storage} {payload : BatchPayload} {item : PlanItem × Nat}
    {up : Upload} (mem : item ∈ batchPlan e task payload)
    (stored : batchUpload cfg e task st item = some up) :
    ∃ o : TaskObject, o.owner = task.id ∧ o.item = some (item.2 + 1) ∧
      (∃ gvr, resolveGVR o.kind = .ok gvr) ∧ up.key = o.key :=
  ⟨⟨task.id, some (item.2 + 1), task.clusterCode, e.date item.2, item.1.kind.1, item.1.name⟩,
    rfl, rfl, ⟨_, batchPlan_kind mem⟩, (batchUpload_ok stored).2.1⟩

end K8sPlatform.Backup
