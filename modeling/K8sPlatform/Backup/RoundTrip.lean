import K8sPlatform.Backup.Storage
import K8sPlatform.Lib.FileSystem

/-! # Local and NFS storage on a file system -/

namespace K8sPlatform.Backup

open Errcode FilePath FileSystem

/-- The file next to the object that NFS storage writes first; `nanos` is the clock. -/
def tempPath (path : List String) (nanos : Nat) : List String :=
  path.dropLast ++ [path.getLastD "" ++ ".tmp-" ++ toString nanos]

/-- The configuration with the host that the disk makes. -/
def BackupConfig.onDisk {α : Type} (cfg : BackupConfig) (disk : FileSystem α) : BackupConfig :=
  { cfg with wayError := FileSystem.wayError disk }

namespace Storage

namespace OnDisk

variable {α : Type} (cfg : BackupConfig) (fits : List String → Bool) (size : α → Nat) (nanos : Nat)

/-- `os.Rename` looks for a directory in the way itself. -/
def renameErrorText : PathError → String
  | .isDir => "file exists"
  | err => err.text

/-- The write of local storage. -/
def write (disk : FileSystem α) (path : List String) (data : α) : Except String (FileSystem α) :=
  match writeFile fits disk path data with
  | .error err =>
      .error ("write file " ++ slashPath path ++ ": open " ++ slashPath path ++ ": " ++ err.text)
  | .ok disk => .ok disk

/-- The write of NFS storage, which the name of the object sees as one step. -/
def writeAtomic (disk : FileSystem α) (path : List String) (data : α) :
    Except String (FileSystem α) :=
  let tmpPath := tempPath path nanos
  match writeFile fits disk tmpPath data with
  | .error err =>
      .error ("write nfs tmp file: open " ++ slashPath tmpPath ++ ": " ++ err.text)
  | .ok disk =>
    match rename fits disk tmpPath path with
    | .error err =>
        .error ("commit nfs file (rename tmp): rename " ++ slashPath tmpPath ++ " " ++
          slashPath path ++ ": " ++ renameErrorText err)
    | .ok disk => .ok disk

def commit (st : Storage) (disk : FileSystem α) (path : List String) (data : α) :
    Except String (FileSystem α) :=
  match st with
  | .nfsStorage _ => writeAtomic fits nanos disk path data
  | _ => write fits disk path data

def upload (st : Storage) (disk : FileSystem α) (key : String) (data : α) :
    Except String (FileSystem α × UploadResult) :=
  match st.uploadPath cfg key with
  | .error err => .error err
  | .ok path =>
    match mkdirAll fits disk path.dropLast with
    | .error (at_, err) =>
        .error ("mkdir " ++ slashPath path.dropLast ++ ": mkdir " ++ slashPath at_ ++ ": " ++
          err.text)
    | .ok disk =>
      match commit fits nanos st disk path data with
      | .error err => .error err
      | .ok disk => .ok (disk, ⟨size data, key⟩)

/-- What `Download` opens, read to its end; a directory is opened, and cannot be read. -/
def download (st : Storage) (disk : FileSystem α) (key : String) : Except String α :=
  match st.objectPath (cfg.onDisk disk) "Download" key with
  | .error (.refused err) => .error err
  | .error (.stopped err) => .error (hostError "open" st key [] err)
  | .ok path =>
    match readFile disk path with
    | .error .isDir =>
        .error ("read " ++ st.pathText key path ++ ": " ++ PathError.isDir.text)
    | .error err => .error (hostError "open" st key path err)
    | .ok data => .ok data

/-- Deleting a file that is not there is no error. -/
def delete (st : Storage) (disk : FileSystem α) (key : String) : Except String (FileSystem α) :=
  match st.objectPath (cfg.onDisk disk) "Delete" key with
  | .error (.refused err) => .error err
  | .error (.stopped .notExist) => .ok disk
  | .error (.stopped err) => .error (hostError "remove" st key [] err)
  | .ok path =>
    match remove disk path with
    | .error .notExist => .ok disk
    | .error err => .error (hostError "remove" st key path err)
    | .ok disk => .ok disk

def list (st : Storage) (disk : FileSystem α) (pre : String) : Except String (List String) :=
  st.list cfg (files disk) pre

end OnDisk

end Storage

/-- The key under which an object is listed. -/
def listedAs (key : String) : String :=
  if clean key = [] then "." else Text.join '/' (clean key)

/-- An accepted object can be downloaded by its storage path, and deleted by it, and then it is
gone, and neither downloaded nor listed any more. -/
def RoundTrips {α : Type} (cfg : BackupConfig) (fits : List String → Bool) (size : α → Nat)
    (nanos : Nat) (st : Storage) (disk : FileSystem α) (key : String) (data : α) : Prop :=
  ∀ disk' res, Storage.OnDisk.upload cfg fits size nanos st disk key data = .ok (disk', res) →
    Storage.OnDisk.download cfg st disk' res.storagePath = .ok data ∧
      ∃ disk'', Storage.OnDisk.delete cfg st disk' res.storagePath = .ok disk'' ∧
        (∀ path, st.uploadPath cfg key = .ok path → node disk'' path = none) ∧
        (∀ content, Storage.OnDisk.download cfg st disk'' res.storagePath ≠ .ok content) ∧
        ∀ pre keys, Storage.OnDisk.list cfg st disk'' pre = .ok keys → listedAs key ∉ keys

variable {α : Type} {cfg : BackupConfig} {fits : List String → Bool} {size : α → Nat} {nanos : Nat}
  {st : Storage} {disk disk' : FileSystem α} {key : String} {data : α} {path : List String}

theorem tempPath_dropLast : (tempPath path nanos).dropLast = path.dropLast := List.dropLast_concat

theorem tempPath_ne_nil : tempPath path nanos ≠ [] := List.concat_ne_nil _ _

/-- The name of the temporary file is longer. -/
theorem tempPath_ne : tempPath path nanos ≠ path := by
  intro same
  cases List.eq_nil_or_concat path with
  | inl root => exact tempPath_ne_nil (same.trans root)
  | inr parts =>
      obtain ⟨dir, name, rfl⟩ := parts
      have names : name ++ ".tmp-" ++ toString nanos = name := by
        simpa [tempPath] using same
      have lengths := congrArg String.length names
      rw [String.length_append, String.length_append] at lengths
      have suffix : (".tmp-" : String).length = 5 := rfl
      omega

/-- Nothing in a directory is on the way to it. -/
theorem not_prefix_dropLast {p : List String} (named : p ≠ []) : ¬p <+: p.dropLast := by
  intro above
  have shorter := above.length_le
  have pos := List.length_pos_iff.2 named
  rw [List.length_dropLast] at shorter
  omega

theorem not_tempPath_prefix : ¬tempPath path nanos <+: path.dropLast := by
  have parent : path.dropLast = (tempPath path nanos).dropLast := tempPath_dropLast.symm
  rw [parent]
  exact not_prefix_dropLast tempPath_ne_nil

/-! ## What an upload leaves -/

theorem Storage.OnDisk.write_eq_ok : write fits disk path data = .ok disk' ↔
    fileError fits disk path = none ∧ disk' = disk.set path (.file data) := by
  rw [← writeFile_eq_ok]
  unfold write
  cases writeFile fits disk path data <;> simp

theorem Storage.OnDisk.writeAtomic_eq_ok : writeAtomic fits nanos disk path data = .ok disk' ↔
    fileError fits disk (tempPath path nanos) = none ∧
      fileError fits (disk.set (tempPath path nanos) (.file data)) path = none ∧
      disk' = (OrderedMap.delete (disk.set (tempPath path nanos) (.file data))
        (tempPath path nanos)).set path (.file data) := by
  unfold writeAtomic
  cases free : fileError fits disk (tempPath path nanos) with
  | some err => simp [writeFile, free]
  | none =>
      have there : node (disk.set (tempPath path nanos) (.file data)) (tempPath path nanos) =
          some (.file data) := by
        rw [node_set tempPath_ne_nil, if_pos rfl]
      dsimp only
      rw [writeFile_eq_ok.2 ⟨free, rfl⟩]
      dsimp only
      rw [← rename_eq_ok there]
      cases rename fits (disk.set (tempPath path nanos) (.file data)) (tempPath path nanos) path <;>
        simp

/-- The object is there, and there is no other file that was not there before. -/
structure Landed (disk disk' : FileSystem α) (path : List String) (data : α) : Prop where
  named : path ≠ []
  there : node disk' path = some (.file data)
  others : ∀ p content, p ≠ path → node disk' p = some (.file content) →
    node disk p = some (.file content)

/-- Making directories makes no file. -/
theorem file_of_mkdirAll {made : FileSystem α} {dir p : List String} {content : α}
    (dirs : mkdirAll fits disk dir = .ok made) (there : node made p = some (.file content)) :
    node disk p = some (.file content) := by
  rw [node_mkdirAll dirs] at there
  split at there
  · cases there
  · exact there

theorem landed_set {made : FileSystem α} (named : path ≠ [])
    (dirs : mkdirAll fits disk path.dropLast = .ok made) :
    Landed disk (made.set path (.file data)) path data where
  named := named
  there := by rw [node_set named, if_pos rfl]
  others p content other there := by
    rw [node_set named, if_neg other] at there
    exact file_of_mkdirAll dirs there

theorem landed_renamed {made : FileSystem α} {tmp : List String} (named : path ≠ [])
    (temp : tmp ≠ []) (dirs : mkdirAll fits disk path.dropLast = .ok made) :
    Landed disk ((OrderedMap.delete (made.set tmp (.file data)) tmp).set path (.file data)) path
      data where
  named := named
  there := by rw [node_set named, if_pos rfl]
  others p content other there := by
    rw [node_set named, if_neg other, node_delete temp] at there
    split at there
    · cases there
    · rename_i notTemp
      rw [node_set temp, if_neg notTemp] at there
      exact file_of_mkdirAll dirs there

theorem Storage.OnDisk.commit_landed {made : FileSystem α}
    (dirs : mkdirAll fits disk path.dropLast = .ok made)
    (committed : commit fits nanos st made path data = .ok disk') :
    Landed disk disk' path data := by
  cases st with
  | nfsStorage nfs =>
      obtain ⟨-, free, rfl⟩ := writeAtomic_eq_ok.1 committed
      exact landed_renamed (ne_nil_of_fileError free) tempPath_ne_nil dirs
  | localStorage baseDir =>
      obtain ⟨free, rfl⟩ := write_eq_ok.1 committed
      exact landed_set (ne_nil_of_fileError free) dirs
  | s3Storage =>
      obtain ⟨free, rfl⟩ := write_eq_ok.1 committed
      exact landed_set (ne_nil_of_fileError free) dirs

theorem Storage.OnDisk.upload_eq_ok {res : UploadResult} :
    upload cfg fits size nanos st disk key data = .ok (disk', res) ↔
      ∃ path, st.uploadPath cfg key = .ok path ∧
        ∃ made, mkdirAll fits disk path.dropLast = .ok made ∧
          commit fits nanos st made path data = .ok disk' ∧ res = ⟨size data, key⟩ := by
  unfold upload
  cases st.uploadPath cfg key with
  | error err => simp
  | ok path =>
      simp only [Except.ok.injEq, exists_eq_left']
      cases mkdirAll fits disk path.dropLast with
      | error err => simp
      | ok made =>
          simp only [Except.ok.injEq, exists_eq_left']
          cases commit fits nanos st made path data with
          | error err => simp
          | ok written => simp [eq_comm]

theorem Storage.OnDisk.upload_landed {res : UploadResult}
    (uploaded : upload cfg fits size nanos st disk key data = .ok (disk', res)) :
    res.storagePath = key ∧
      ∃ path, st.uploadPath cfg key = .ok path ∧ Landed disk disk' path data := by
  obtain ⟨path, placed, made, dirs, committed, rfl⟩ := upload_eq_ok.1 uploaded
  exact ⟨rfl, path, placed, commit_landed dirs committed⟩

/-! ## Objects that are read where they were written -/

/-- The files of a host have names without slashes. -/
def Named (disk : FileSystem α) : Prop :=
  ∀ p ∈ files disk, ∀ seg ∈ p, Plain seg ∧ '/' ∉ seg.toList

theorem Storage.OnDisk.download_eq_ok : download cfg st disk key = .ok data ↔
    ∃ path, st.objectPath (cfg.onDisk disk) "Download" key = .ok path ∧
      node disk path = some (.file data) := by
  unfold download
  rcases st.objectPath (cfg.onDisk disk) "Download" key with err | path
  · cases err <;> simp
  · simp only [Except.ok.injEq, exists_eq_left', ← readFile_eq_ok]
    rcases readFile disk path with err | content
    · cases err <;> simp
    · simp

theorem Storage.OnDisk.delete_file {content : α}
    (located : st.objectPath (cfg.onDisk disk) "Delete" key = .ok path)
    (there : node disk path = some (.file content)) :
    delete cfg st disk key = .ok (OrderedMap.delete disk path) := by
  unfold delete
  rw [located]
  dsimp only
  rw [remove_file there]

theorem join_inj {xs ys : List String} (some_ : xs ≠ []) (some_' : ys ≠ [])
    (plain : ∀ seg ∈ xs, '/' ∉ seg.toList) (plain' : ∀ seg ∈ ys, '/' ∉ seg.toList)
    (same : Text.join '/' xs = Text.join '/' ys) : xs = ys := by
  have pieces := congrArg (Text.split '/') same
  rwa [Text.split_join_of_not_mem some_ plain, Text.split_join_of_not_mem some_' plain'] at pieces

/-- No file below a directory is listed as the directory itself. -/
theorem join_ne_dot {xs : List String} (some_ : xs ≠ []) (named : ∀ seg ∈ xs, seg ≠ ".")
    (plain : ∀ seg ∈ xs, '/' ∉ seg.toList) : Text.join '/' xs ≠ "." := by
  intro dot
  have joined : Text.join '/' xs = Text.join '/' ["."] := dot
  have single : xs = ["."] := by
    apply join_inj some_ (List.cons_ne_nil _ _) plain _ joined
    decide
  exact named "." (single ▸ List.mem_singleton_self _) rfl

theorem Storage.OnDisk.delete_eq_ok {disk'' : FileSystem α} : delete cfg st disk key = .ok disk'' ↔
    st.objectPath (cfg.onDisk disk) "Delete" key = .error (.stopped .notExist) ∧ disk'' = disk ∨
    ∃ path, st.objectPath (cfg.onDisk disk) "Delete" key = .ok path ∧
      (remove disk path = .ok disk'' ∨ remove disk path = .error .notExist ∧ disk'' = disk) := by
  unfold delete
  rcases st.objectPath (cfg.onDisk disk) "Delete" key with (text | err) | path
  · simp
  · cases err <;> simp [eq_comm]
  · simp only [Except.ok.injEq, exists_eq_left']
    rcases remove disk path with err | left
    · cases err <;> simp [eq_comm]
    · simp

/-- The key that a file is listed as tells where it is. -/
theorem eq_of_relKey {base p : List String} (plain : ∀ seg ∈ p, Plain seg ∧ '/' ∉ seg.toList)
    (listed : Storage.relKey base p = some (listedAs key)) : p = follow base (clean key) := by
  by_cases below : base <+: p
  · obtain ⟨rest, rfl⟩ := below
    have ofRest : ∀ seg ∈ rest, Plain seg ∧ '/' ∉ seg.toList :=
      fun seg mem => plain seg (List.mem_append_right _ mem)
    have noSlash : ∀ seg ∈ rest, '/' ∉ seg.toList := fun seg mem => (ofRest seg mem).2
    have same : rest = clean key := by
      by_cases here : rest = []
      · subst here
        have dot : "." = listedAs key := by simpa [Storage.relKey] using listed
        unfold listedAs at dot
        split at dot
        case isTrue none_ => exact none_.symm
        case isFalse some_ =>
          exact absurd dot.symm
            (join_ne_dot some_ (fun seg mem => (clean_named seg mem).2) slash_not_mem_clean)
      · rw [relKey_append base here] at listed
        have joined := Option.some.inj listed
        unfold listedAs at joined
        split at joined
        case isTrue none_ =>
          exact absurd joined (join_ne_dot here (fun seg mem => (ofRest seg mem).1.2.1) noSlash)
        case isFalse some_ => exact join_inj here some_ noSlash slash_not_mem_clean joined
    rw [← same, follow_plain base fun seg mem => (ofRest seg mem).1]
  · have outside : base.isPrefixOf p ≠ true := fun h => below (List.isPrefixOf_iff_prefix.1 h)
    rw [Storage.relKey, if_neg outside] at listed
    cases listed

/-- A listed key is that of a file below the directory of the uploads. -/
theorem Storage.mem_list {walk : List (List String)} {pre listedKey : String} {keys : List String}
    (placed : st.uploadPath cfg key = .ok path) (listed : st.list cfg walk pre = .ok keys)
    (mem : listedKey ∈ keys) :
    ∃ base, path = follow base (clean key) ∧ ∃ p ∈ walk, relKey base p = some listedKey := by
  cases st with
  | localStorage baseDir =>
      obtain ⟨-, -, landed⟩ := safeJoin_eq_ok.1 placed
      refine ⟨_, landed, ?_⟩
      simp only [list, Except.ok.injEq] at listed
      split at listed
      · subst listed
        cases mem
      · subst listed
        exact List.mem_filterMap.1 (List.mem_filter.1 mem).1
  | nfsStorage nfs =>
      simp only [uploadPath] at placed
      simp only [list] at listed
      split at placed
      · cases placed
      rename_i configured
      rw [if_neg configured] at listed
      cases mount : cfg.unmounted with
      | some err =>
          rw [mount] at placed
          cases placed
      | none =>
          rw [mount] at placed listed
          obtain ⟨-, -, landed⟩ := safeJoin_eq_ok.1 placed
          obtain rfl := Except.ok.inj listed
          exact ⟨_, landed, List.mem_filterMap.1 (List.mem_filter.1 mem).1⟩
  | s3Storage => cases placed

/-- After the object is deleted, what files are left were there before the upload. -/
theorem Landed.left {content : α} {p : List String} (landed : Landed disk disk' path data)
    (there : node (OrderedMap.delete disk' path) p = some (.file content)) :
    p ≠ path ∧ node disk p = some (.file content) := by
  rw [node_delete landed.named] at there
  split at there
  · cases there
  · rename_i other
    exact ⟨other, landed.others p content other there⟩

/-- A key has one place, whatever the host finds. -/
theorem Storage.objectPath_onDisk {disk₁ disk₂ : FileSystem α} {op₁ op₂ : String}
    {path₁ path₂ : List String} (here : st.objectPath (cfg.onDisk disk₁) op₁ key = .ok path₁)
    (there : st.objectPath (cfg.onDisk disk₂) op₂ key = .ok path₂) : path₁ = path₂ := by
  cases st with
  | localStorage baseDir =>
      exact (objectPath_local.1 here).2.symm.trans (objectPath_local.1 there).2
  | nfsStorage nfs =>
      have same := (objectPath_nfs.1 here).2.symm.trans (objectPath_nfs.1 there).2
      exact Except.ok.inj same
  | s3Storage => cases here

theorem roundTrips_of_found (named : Named disk)
    (found : ∀ disk' res, Storage.OnDisk.upload cfg fits size nanos st disk key data =
      .ok (disk', res) → ∀ baseDir, st = .localStorage baseDir →
        (cfg.onDisk disk').Finds baseDir key) :
    RoundTrips cfg fits size nanos st disk key data := by
  intro disk' res uploaded
  obtain ⟨storagePath, path, placed, landed⟩ := Storage.OnDisk.upload_landed uploaded
  have placed' : st.uploadPath (cfg.onDisk disk') key = .ok path := by
    cases st <;> exact placed
  have located (op : String) : st.objectPath (cfg.onDisk disk') op key = .ok path :=
    Storage.objectPath_of_uploadPath (found disk' res uploaded) placed' op
  have gone : node (OrderedMap.delete disk' path) path = none := by
    rw [node_delete landed.named, if_pos rfl]
  rw [storagePath]
  refine ⟨Storage.OnDisk.download_eq_ok.2 ⟨path, located _, landed.there⟩, _,
    Storage.OnDisk.delete_file (located _) landed.there, ?_, ?_, ?_⟩
  · intro path' placed''
    obtain rfl := Except.ok.inj (placed.symm.trans placed'')
    exact gone
  · intro content downloaded
    obtain ⟨path', located', there⟩ := Storage.OnDisk.download_eq_ok.1 downloaded
    obtain rfl := Storage.objectPath_onDisk (located "Download") located'
    rw [gone] at there
    cases there
  · intro pre keys listed mem
    obtain ⟨base, rfl, p, walked, rel⟩ := Storage.mem_list placed listed mem
    obtain ⟨content, there⟩ := mem_files.1 walked
    obtain ⟨other, before⟩ := landed.left there
    have plain := named p (mem_files.2 ⟨content, before⟩)
    exact other (eq_of_relKey plain rel)

/-! ## The two storages over one directory -/

/-- Both storages are configured, on one directory, and that of NFS is mounted. -/
structure SameBase (cfg : BackupConfig) (baseDir : String) (nfs : NFSBackupConfig) : Prop where
  named : baseDir ≠ ""
  configured : nfs.baseDir ≠ ""
  mounted : cfg.unmounted = none
  base : locate cfg.cwd nfs.baseDir = locate cfg.cwd baseDir

/-- They accept the same uploads, with the same outcome, and then read, delete and list the same. -/
structure Alike (cfg : BackupConfig) (fits : List String → Bool) (size : α → Nat) (nanos : Nat)
    (st st' : Storage) (disk : FileSystem α) (key : String) (data : α) : Prop where
  uploads : ∀ r, Storage.OnDisk.upload cfg fits size nanos st disk key data = .ok r ↔
    Storage.OnDisk.upload cfg fits size nanos st' disk key data = .ok r
  downloads : ∀ r, Storage.OnDisk.upload cfg fits size nanos st disk key data = .ok r →
    ∀ content, Storage.OnDisk.download cfg st r.1 r.2.storagePath = .ok content ↔
      Storage.OnDisk.download cfg st' r.1 r.2.storagePath = .ok content
  deletes : ∀ r, Storage.OnDisk.upload cfg fits size nanos st disk key data = .ok r →
    ∀ disk'', Storage.OnDisk.delete cfg st r.1 r.2.storagePath = .ok disk'' ↔
      Storage.OnDisk.delete cfg st' r.1 r.2.storagePath = .ok disk''
  lists : ∀ (disk' : FileSystem α) (pre : String),
    Storage.OnDisk.list cfg st disk' pre = Storage.OnDisk.list cfg st' disk' pre

/-- A file can be put here: its directories can be made, and it is no directory itself. -/
def Writable (fits : List String → Bool) (disk : FileSystem α) (path : List String) : Prop :=
  ∃ made, mkdirAll fits disk path.dropLast = .ok made ∧ fileError fits made path = none

/-- The temporary file has a name that the host takes, and that is free. -/
def Room (fits : List String → Bool) (disk : FileSystem α) (tmp : List String) : Prop :=
  node disk tmp = none ∧ fits tmp = true

/-- Each component of the key, as it is written, is looked up in a directory that is there, or that
the upload makes. -/
def Reached (disk : FileSystem α) (key : String) (path : List String) : Prop :=
  ∀ before seg after, Text.split '/' key = before ++ seg :: after →
    node disk (follow [] before) = some .dir ∨ follow [] before <+: path.dropLast

variable {baseDir : String} {nfs : NFSBackupConfig} {made : FileSystem α}

theorem SameBase.uploadPath (same : SameBase cfg baseDir nfs) (key : String) :
    (Storage.nfsStorage nfs).uploadPath cfg key = safeJoin cfg.cwd baseDir key := by
  simp only [Storage.uploadPath, if_neg same.configured, same.mounted]
  unfold safeJoin
  rw [same.base]

theorem SameBase.list (same : SameBase cfg baseDir nfs) (disk : FileSystem α) (pre : String) :
    Storage.OnDisk.list cfg (.localStorage baseDir) disk pre =
      Storage.OnDisk.list cfg (.nfsStorage nfs) disk pre := by
  simp only [Storage.OnDisk.list, Storage.list, if_neg same.named, if_neg same.configured,
    same.mounted, same.base]

/-- The temporary file does not stand in the way of the object. -/
theorem fileError_set_tempPath {n : Node α} :
    fileError fits (made.set (tempPath path nanos) n) path = none ↔
      fileError fits made path = none := by
  have atPath : node (made.set (tempPath path nanos) n) path = node made path := by
    rw [node_set tempPath_ne_nil, if_neg tempPath_ne.symm]
  have atDir : node (made.set (tempPath path nanos) n) path.dropLast = node made path.dropLast := by
    rw [node_set tempPath_ne_nil, if_neg]
    intro same
    have below : tempPath path nanos <+: path.dropLast := by rw [same]
    exact not_tempPath_prefix below
  rw [fileError_eq_none, fileError_eq_none, isFile, isFile, atPath, atDir]

/-- The object's directory is there when the temporary file is written next to it. -/
theorem fileError_tempPath (dirs : mkdirAll fits disk path.dropLast = .ok made) :
    fileError fits made (tempPath path nanos) = none ↔
      isFile disk (tempPath path nanos) = true ∨ Room fits disk (tempPath path nanos) := by
  have parent : node made path.dropLast = some .dir := by
    rw [node_mkdirAll dirs, if_pos (List.prefix_refl _)]
  have temp : node made (tempPath path nanos) = node disk (tempPath path nanos) := by
    rw [node_mkdirAll dirs, if_neg not_tempPath_prefix]
  rw [fileError_eq_none, isFile, temp, tempPath_dropLast, parent, isFile, Room]
  simp

/-- With room for the temporary file, the atomic write does what the plain one does. -/
theorem writeAtomic_of_room (dirs : mkdirAll fits disk path.dropLast = .ok made)
    (room : Room fits disk (tempPath path nanos)) :
    Storage.OnDisk.writeAtomic fits nanos made path data = .ok disk' ↔
      Storage.OnDisk.write fits made path data = .ok disk' := by
  have absent : made.get? (tempPath path nanos) = none := by
    rw [← node_of_ne_nil tempPath_ne_nil, node_mkdirAll dirs, if_neg not_tempPath_prefix]
    exact room.1
  rw [Storage.OnDisk.writeAtomic_eq_ok, Storage.OnDisk.write_eq_ok, fileError_set_tempPath,
    OrderedMap.delete_set absent]
  exact and_iff_right ((fileError_tempPath dirs).2 (.inr room))

/-- When both writes leave the same, there was room for the temporary file. -/
theorem room_of_writeAtomic (dirs : mkdirAll fits disk path.dropLast = .ok made)
    (plain : Storage.OnDisk.write fits made path data = .ok disk')
    (atomic : Storage.OnDisk.writeAtomic fits nanos made path data = .ok disk') :
    Room fits disk (tempPath path nanos) := by
  obtain ⟨free, left⟩ := Storage.OnDisk.write_eq_ok.1 plain
  obtain ⟨tempFree, -, left'⟩ := Storage.OnDisk.writeAtomic_eq_ok.1 atomic
  rcases (fileError_tempPath dirs).1 tempFree with taken | room
  · -- the file of that name is still there after the plain write, and not after the atomic one
    have named := ne_nil_of_fileError free
    have kept : node disk' (tempPath path nanos) = node disk (tempPath path nanos) := by
      rw [left, node_set named, if_neg tempPath_ne, node_mkdirAll dirs, if_neg not_tempPath_prefix]
    have gone : node disk' (tempPath path nanos) = none := by
      rw [left', node_set named, if_neg tempPath_ne, node_delete tempPath_ne_nil, if_pos rfl]
    obtain ⟨content, there⟩ := isFile_iff.1 taken
    rw [← kept, gone] at there
    cases there
  · exact room

/-- The two accept the same uploads with the same outcome just when there is room for the temporary
file of each object that can be written. -/
theorem uploads_iff (same : SameBase cfg baseDir nfs) :
    (∀ r, Storage.OnDisk.upload cfg fits size nanos (.localStorage baseDir) disk key data = .ok r ↔
      Storage.OnDisk.upload cfg fits size nanos (.nfsStorage nfs) disk key data = .ok r) ↔
      ∀ path, safeJoin cfg.cwd baseDir key = .ok path → Writable fits disk path →
        Room fits disk (tempPath path nanos) := by
  constructor
  · rintro alike path joined ⟨made, dirs, free⟩
    have plain : Storage.OnDisk.write fits made path data =
        .ok (made.set path (.file data)) := Storage.OnDisk.write_eq_ok.2 ⟨free, rfl⟩
    have accepted := Storage.OnDisk.upload_eq_ok.1 ((alike ⟨_, _⟩).1
      (Storage.OnDisk.upload_eq_ok.2 ⟨path, joined, made, dirs, plain, rfl⟩))
    obtain ⟨path', joined', made', dirs', atomic, -⟩ := accepted
    rw [same.uploadPath] at joined'
    obtain rfl := Except.ok.inj (joined.symm.trans joined')
    obtain rfl := Except.ok.inj (dirs.symm.trans dirs')
    exact room_of_writeAtomic dirs plain atomic
  · rintro roomy ⟨disk', res⟩
    rw [Storage.OnDisk.upload_eq_ok, Storage.OnDisk.upload_eq_ok, same.uploadPath]
    constructor
    · rintro ⟨path, joined, made, dirs, plain, rfl⟩
      obtain ⟨free, -⟩ := Storage.OnDisk.write_eq_ok.1 plain
      have room := roomy path joined ⟨made, dirs, free⟩
      exact ⟨path, joined, made, dirs, (writeAtomic_of_room dirs room).2 plain, rfl⟩
    · rintro ⟨path, joined, made, dirs, atomic, rfl⟩
      obtain ⟨-, free, -⟩ := Storage.OnDisk.writeAtomic_eq_ok.1 atomic
      have room := roomy path joined ⟨made, dirs, fileError_set_tempPath.1 free⟩
      exact ⟨path, joined, made, dirs, (writeAtomic_of_room dirs room).1 atomic, rfl⟩

/-- A rooted key is read from the host, not from below the directory. -/
theorem localPath_ne {cwd : List String} (rooted : isAbs key = true)
    (below : locate cwd baseDir ≠ []) (joined : safeJoin cwd baseDir key = .ok path) :
    localPath cwd baseDir key ≠ path := by
  obtain ⟨-, -, landed⟩ := safeJoin_eq_ok.1 joined
  have read : localPath cwd baseDir key = clean key := by
    simp [localPath, locate, follow, clean, rooted]
  rw [read, landed, follow_plain _ (clean_plain (head?_clean_of_isAbs rooted))]
  intro same
  have lengths := congrArg List.length same
  rw [List.length_append] at lengths
  exact below (List.length_eq_zero_iff.1 (by omega))

/-- Deleting at another place leaves the object. -/
theorem Storage.OnDisk.node_delete_other {disk'' : FileSystem α}
    (elsewhere : ∀ other, st.objectPath (cfg.onDisk disk) "Delete" key = .ok other → path ≠ other)
    (deleted : delete cfg st disk key = .ok disk'') : node disk'' path = node disk path := by
  obtain ⟨-, rfl⟩ | ⟨other, located, removed | ⟨-, rfl⟩⟩ := delete_eq_ok.1 deleted
  · rfl
  · exact node_remove removed (elsewhere other located)
  · rfl

/-- The directories after a plain write are the old ones and those on the way to the file. -/
theorem node_dir_set (dirs : mkdirAll fits disk path.dropLast = .ok made)
    (free : fileError fits made path = none) {p : List String} :
    node (made.set path (.file data)) p = some .dir ↔
      node disk p = some .dir ∨ p <+: path.dropLast := by
  have named := ne_nil_of_fileError free
  have file : node made path ≠ some .dir := by
    intro dir
    rw [fileError, dir] at free
    cases free
  rw [node_mkdirAll dirs] at file
  rw [node_set named, node_mkdirAll dirs]
  by_cases same : p = path
  · subst same
    rw [if_neg (not_prefix_dropLast named)] at file
    simp [file, not_prefix_dropLast named]
  · rw [if_neg same]
    by_cases above : p <+: path.dropLast <;> simp [above]

theorem reached_iff (dirs : mkdirAll fits disk path.dropLast = .ok made)
    (free : fileError fits made path = none) :
    FileSystem.wayError (made.set path (.file data)) key = none ↔ Reached disk key path := by
  simp only [wayError_eq_none, node_dir_set dirs free, Reached]

/-- Local storage returns what it was given, when the key is not rooted, or the directory is the
root and the host finds the key as it is written. -/
theorem found_of_roundTrips (joined : safeJoin cfg.cwd baseDir key = .ok path)
    (writable : Writable fits disk path)
    (trips : RoundTrips cfg fits size nanos (.localStorage baseDir) disk key data)
    (rooted : isAbs key = true) : locate cfg.cwd baseDir = [] ∧ Reached disk key path := by
  obtain ⟨made, dirs, free⟩ := writable
  have uploaded : Storage.OnDisk.upload cfg fits size nanos (.localStorage baseDir) disk key data =
      .ok (made.set path (.file data), ⟨size data, key⟩) :=
    Storage.OnDisk.upload_eq_ok.2
      ⟨path, joined, made, dirs, Storage.OnDisk.write_eq_ok.2 ⟨free, rfl⟩, rfl⟩
  obtain ⟨downloaded, disk'', deleted, gone, -, -⟩ := trips _ _ uploaded
  obtain ⟨read, located, -⟩ := Storage.OnDisk.download_eq_ok.1 downloaded
  have way := (Storage.objectPath_local.1 located).1 rooted
  refine ⟨?_, (reached_iff dirs free).1 way⟩
  by_contra below
  have elsewhere : localPath cfg.cwd baseDir key ≠ path := localPath_ne rooted below joined
  have kept : node disk'' path = node (made.set path (.file data)) path :=
    Storage.OnDisk.node_delete_other (fun other there => by
      rw [← (Storage.objectPath_local.1 there).2]
      exact elsewhere.symm) deleted
  rw [gone path joined, node_set (ne_nil_of_fileError free), if_pos rfl] at kept
  cases kept

theorem SameBase.onDisk (same : SameBase cfg baseDir nfs) (disk : FileSystem α) :
    SameBase (cfg.onDisk disk) baseDir nfs :=
  ⟨same.named, same.configured, same.mounted, same.base⟩

/-- The two look for an object that is found at one place. -/
theorem SameBase.objectPath (same : SameBase cfg baseDir nfs)
    (joined : safeJoin cfg.cwd baseDir key = .ok path) (found : cfg.Finds baseDir key)
    (op : String) : (Storage.localStorage baseDir).objectPath cfg op key = .ok path ∧
      (Storage.nfsStorage nfs).objectPath cfg op key = .ok path := by
  have placed : (Storage.localStorage baseDir).uploadPath cfg key = .ok path := joined
  have placed' : (Storage.nfsStorage nfs).uploadPath cfg key = .ok path := by
    rw [same.uploadPath, joined]
  constructor
  · apply Storage.objectPath_of_uploadPath _ placed op
    intro baseDir' this
    cases this
    exact found
  · apply Storage.objectPath_of_uploadPath _ placed' op
    intro baseDir' this
    cases this

/-- Both storages return what they were given and drop what is deleted, and behave alike, just when
each object that can be written has room for its temporary file and no rooted key, unless they are
at the root and the host finds the key as it is written. -/
theorem round_trip_iff (same : SameBase cfg baseDir nfs) (named : Named disk)
    (fits : List String → Bool) (size : α → Nat) (nanos : Nat) (key : String) (data : α) :
    (RoundTrips cfg fits size nanos (.localStorage baseDir) disk key data ∧
      RoundTrips cfg fits size nanos (.nfsStorage nfs) disk key data ∧
      Alike cfg fits size nanos (.localStorage baseDir) (.nfsStorage nfs) disk key data) ↔
      ∀ path, safeJoin cfg.cwd baseDir key = .ok path → Writable fits disk path →
        (isAbs key = true → locate cfg.cwd baseDir = [] ∧ Reached disk key path) ∧
          Room fits disk (tempPath path nanos) := by
  constructor
  · rintro ⟨trips, -, alike⟩ path joined writable
    exact ⟨found_of_roundTrips joined writable trips,
      (uploads_iff same).1 alike.uploads path joined writable⟩
  · intro sound
    -- what the condition says of an accepted upload
    have accepted {r : FileSystem α × UploadResult}
        (uploaded :
          Storage.OnDisk.upload cfg fits size nanos (.localStorage baseDir) disk key data = .ok r) :
        r.2.storagePath = key ∧ ∃ path, safeJoin cfg.cwd baseDir key = .ok path ∧
          (cfg.onDisk r.1).Finds baseDir key := by
      obtain ⟨path, joined, made, dirs, plain, res⟩ := Storage.OnDisk.upload_eq_ok.1 uploaded
      obtain ⟨free, left⟩ := Storage.OnDisk.write_eq_ok.1 plain
      refine ⟨by rw [res], path, joined, fun rooted => ?_⟩
      obtain ⟨root, reached⟩ := (sound path joined ⟨made, dirs, free⟩).1 rooted
      exact ⟨root, left ▸ (reached_iff dirs free).2 reached⟩
    refine ⟨?_, ?_, ?_, ?_, ?_, same.list⟩
    · apply roundTrips_of_found named
      intro disk' res uploaded baseDir' this
      cases this
      obtain ⟨-, path, -, found⟩ := accepted uploaded
      exact found
    · apply roundTrips_of_found named
      intro disk' res uploaded baseDir' this
      cases this
    · exact (uploads_iff same).2 fun path joined writable => (sound path joined writable).2
    · intro r uploaded content
      obtain ⟨storagePath, path, joined, found⟩ := accepted uploaded
      obtain ⟨local_, nfs_⟩ := (same.onDisk r.1).objectPath joined found "Download"
      rw [storagePath, Storage.OnDisk.download_eq_ok, Storage.OnDisk.download_eq_ok, local_, nfs_]
    · intro r uploaded disk''
      obtain ⟨storagePath, path, joined, found⟩ := accepted uploaded
      obtain ⟨local_, nfs_⟩ := (same.onDisk r.1).objectPath joined found "Delete"
      rw [storagePath, Storage.OnDisk.delete_eq_ok, Storage.OnDisk.delete_eq_ok, local_, nfs_]

/-- An upload with room for its temporary file changes the one file that it names. -/
theorem Storage.OnDisk.upload_refines {disk disk' : FileSystem String} {content : String}
    {res : UploadResult}
    (uploaded : upload cfg fits String.utf8ByteSize nanos st disk key content = .ok (disk', res))
    (room : ∀ path, st.uploadPath cfg key = .ok path → Room fits disk (tempPath path nanos)) :
    st.upload cfg (contents disk) key content = .ok (contents disk', res) := by
  obtain ⟨path, placed, made, dirs, committed, rfl⟩ := upload_eq_ok.1 uploaded
  have plain : write fits made path content = .ok disk' := by
    cases st with
    | nfsStorage nfs => exact (writeAtomic_of_room dirs (room path placed)).1 committed
    | localStorage baseDir => exact committed
    | s3Storage => exact committed
  obtain ⟨free, rfl⟩ := write_eq_ok.1 plain
  have after : contents (made.set path (.file content)) =
      Function.update (contents disk) path (some content) := by
    rw [contents_set (ne_nil_of_fileError free), contents_mkdirAll dirs]
  rw [Storage.upload, placed, after]

theorem Storage.OnDisk.download_refines {disk : FileSystem String} {content : String} :
    download cfg st disk key = .ok content ↔
      st.download (cfg.onDisk disk) (contents disk) key = .ok content := by
  rw [download_eq_ok, Storage.download]
  rcases st.objectPath (cfg.onDisk disk) "Download" key with err | path
  · cases err <;> simp
  · simp only [Except.ok.injEq, exists_eq_left', ← contents_eq_some]
    cases contents disk path <;> simp

def backupMount : NFSBackupConfig := ⟨"10.0.0.9", "/data/backups", ""⟩

def bothStorages : BackupConfig := { localOnly with nfs := some backupMount }

/-- A host with an empty directory for the backups. -/
def backupDisk : FileSystem (List UInt8) :=
  [["data"], ["data", "backups"]].foldl addDir OrderedMap.empty

/-- The names that a directory takes. -/
def shortNames (path : List String) : Bool := path.all fun name => name.utf8ByteSize ≤ 255

/-- A cluster with the code `code` has its objects under such keys. -/
def settingsKey (code : String) : String :=
  buildKey code "20260101" "1" "ConfigMap" "settings"

def settingsYAML : List UInt8 := "kind: ConfigMap\n".toUTF8.data.toList

theorem backups_sameBase : SameBase bothStorages "/data/backups" backupMount where
  named := by decide
  configured := by decide
  mounted := rfl
  base := rfl

theorem backupDisk_named : Named backupDisk := by
  have empty : files backupDisk = [] := by decide +kernel
  intro p mem
  rw [empty] at mem
  cases mem

/-- The object of a cluster with the code `/prod` is written below the directory, and looked for at
the root of the host. -/
theorem rooted_key_lost :
    SameBase bothStorages "/data/backups" backupMount ∧ Named backupDisk ∧
      ¬RoundTrips bothStorages shortNames List.length 1767225600 (.localStorage "/data/backups")
        backupDisk (settingsKey "/prod") settingsYAML := by
  refine ⟨backups_sameBase, backupDisk_named, fun trips => ?_⟩
  have run : (Storage.OnDisk.upload bothStorages shortNames List.length 1767225600
      (.localStorage "/data/backups") backupDisk (settingsKey "/prod") settingsYAML).toOption.map
        (fun r => Storage.OnDisk.download bothStorages (.localStorage "/data/backups") r.1
          r.2.storagePath) =
      some (.error
        ("open file /prod/20260101/1_ConfigMap_settings.yaml: open " ++
          "/prod/20260101/1_ConfigMap_settings.yaml: no such file or directory")) := by
    decide +kernel
  cases uploaded : Storage.OnDisk.upload bothStorages shortNames List.length 1767225600
      (.localStorage "/data/backups") backupDisk (settingsKey "/prod") settingsYAML with
  | error err =>
      rw [uploaded] at run
      cases run
  | ok r =>
      rw [uploaded] at run
      have returned := (trips r.1 r.2 uploaded).1
      cases returned.symm.trans (Option.some.inj run)

theorem relative_key_returned :
    RoundTrips bothStorages shortNames List.length 1767225600 (.localStorage "/data/backups")
        backupDisk (settingsKey "prod") settingsYAML ∧
      RoundTrips bothStorages shortNames List.length 1767225600 (.nfsStorage backupMount)
        backupDisk (settingsKey "prod") settingsYAML ∧
      Alike bothStorages shortNames List.length 1767225600 (.localStorage "/data/backups")
        (.nfsStorage backupMount) backupDisk (settingsKey "prod") settingsYAML := by
  apply (round_trip_iff backups_sameBase backupDisk_named shortNames List.length 1767225600
    (settingsKey "prod") settingsYAML).2
  intro path joined _
  have here : safeJoin [] "/data/backups" (settingsKey "prod") =
      .ok ["data", "backups", "prod", "20260101", "1_ConfigMap_settings.yaml"] := by
    decide +kernel
  obtain rfl := Except.ok.inj (here.symm.trans joined)
  refine ⟨fun rooted => absurd rooted (by decide +kernel), ?_, ?_⟩
  · decide +kernel
  · decide +kernel

end K8sPlatform.Backup
