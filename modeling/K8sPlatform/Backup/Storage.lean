import K8sPlatform.Lib.FileSystem
import K8sPlatform.Lib.PathText
import K8sPlatform.Errcode

/-! # The storage plugins -/

namespace K8sPlatform.Backup

open Errcode FilePath FileSystem

/-- The regular files of the host, by location. -/
abbrev Files := List String → Option String

structure NFSBackupConfig where
  server : String
  mountPoint : String
  basePath : String
  deriving DecidableEq, Repr

/-- The configuration of the plugins and the host: the directory that the processes run in, what
`checkMounted` finds wrong, and why a rooted path leads nowhere as it is written. -/
structure BackupConfig where
  defaultStorage : String
  localBaseDir : String
  nfs : Option NFSBackupConfig
  s3 : Bool
  cwd : List String
  unmounted : Option String
  wayError : String → Option PathError

inductive Storage
  | localStorage (baseDir : String)
  | nfsStorage (nfs : NFSBackupConfig)
  | s3Storage
  deriving DecidableEq, Repr

/-- `storageMap`, as `Init` fills it. -/
def BackupConfig.storageMap (cfg : BackupConfig) (typ : String) : Option Storage :=
  if typ = "local" then some (.localStorage cfg.localBaseDir)
  else if typ = "s3" ∧ cfg.s3 = true then some .s3Storage
  else if typ = "nfs" then cfg.nfs.map .nfsStorage
  else none

/-- A default that is not registered falls back to local. -/
def BackupConfig.defaultStorageType (cfg : BackupConfig) : String :=
  if (cfg.storageMap cfg.defaultStorage).isSome then cfg.defaultStorage else "local"

def BackupConfig.getStorage (cfg : BackupConfig) (typ : String) : Except Error Storage :=
  match cfg.storageMap (if typ = "" then cfg.defaultStorageType else typ) with
  | some s => .ok s
  | none =>
      .error (.new .pluginNotLoaded ("backup storage type " ++
        Text.quote (if typ = "" then cfg.defaultStorageType else typ) ++ " not registered"))

/-- Local storage only. -/
def localOnly : BackupConfig where
  defaultStorage := "local"
  localBaseDir := "/data/backups"
  nfs := none
  s3 := false
  cwd := []
  unmounted := none
  wayError _ := none

def NFSBackupConfig.baseDir (cfg : NFSBackupConfig) : String :=
  if cfg.mountPoint = "" then cfg.basePath else cfg.mountPoint

/-- A key below the base directory; a leading slash of the key is dropped. The second half of the
first check, which compares two bytes of the key with `"../"`, never holds. -/
def safeJoin (cwd : List String) (baseDir key : String) : Except String (List String) :=
  let rel := clean key
  if rel = [".."] then
    .error ("storage key " ++ Text.quote key ++ " 非法：不允许 .. 路径穿越")
  else
    let baseAbs := locate cwd baseDir
    let fullAbs := follow baseAbs rel
    if baseAbs.isPrefixOf fullAbs then .ok fullAbs
    else
      .error ("storage key " ++ Text.quote key ++ " 解析后路径 /" ++ "/".intercalate fullAbs ++
        " 越过 base_dir")

/-- Where `Download` and `Delete` of local storage look for a key, a rooted one when the host finds
its way. -/
def localPath (cwd : List String) (baseDir key : String) : List String :=
  if isAbs key then locate cwd key else follow (locate cwd baseDir) (Text.split '/' key)

/-- The text of a location. -/
def slashPath (path : List String) : String := "/" ++ "/".intercalate path

/-- Why a storage has no place for a key: it is refused, or the host does not find its way. -/
inductive ObjectError
  | refused (text : String)
  | stopped (err : PathError)
  deriving DecidableEq, Repr

structure UploadResult where
  sizeBytes : Nat
  storagePath : String
  deriving DecidableEq, Repr

namespace Storage

variable (cfg : BackupConfig)

def notImplemented (op : String) : String :=
  "MVP_TODO: S3Storage." ++ op ++ " not implemented (need minio-go / aws-sdk-go-v2)"

/-- The location that `Upload` writes a key to. -/
def uploadPath : Storage → String → Except String (List String)
  | .localStorage baseDir, key => safeJoin cfg.cwd baseDir key
  | .nfsStorage nfs, key =>
      if nfs.baseDir = "" then .error "nfs storage not configured (empty base_dir)"
      else
        match cfg.unmounted with
        | some err => .error err
        | none => safeJoin cfg.cwd nfs.baseDir key
  | .s3Storage, _ => .error (notImplemented "Upload")

/-- The location that `Download` or `Delete` of a key uses. -/
def objectPath (op : String) : Storage → String → Except ObjectError (List String)
  | .localStorage baseDir, key =>
      -- the host follows a rooted key as it is written, while other paths are cleaned
      match if isAbs key then cfg.wayError key else none with
      | some err => .error (.stopped err)
      | none => .ok (localPath cfg.cwd baseDir key)
  | .nfsStorage nfs, key =>
      if nfs.baseDir = "" then .error (.refused "nfs storage not configured")
      else (safeJoin cfg.cwd nfs.baseDir key).mapError .refused
  | .s3Storage, _ => .error (.refused (notImplemented op))

/-- The path of a key as a storage hands it to the host. -/
def pathText : Storage → String → List String → String
  | .localStorage baseDir, key, _ => if isAbs key then key else joinText baseDir key
  | _, _, path => slashPath path

/-- The text of an error of the host on an object. -/
def hostError (op : String) (st : Storage) (key : String) (path : List String) (err : PathError) :
    String :=
  let fullPath := st.pathText key path
  let label := match st with
    | .nfsStorage _ => " nfs file "
    | _ => " file "
  op ++ label ++ fullPath ++ ": " ++ op ++ " " ++ fullPath ++ ": " ++ err.text

def upload (st : Storage) (files : Files) (key content : String) :
    Except String (Files × UploadResult) :=
  match st.uploadPath cfg key with
  | .error err => .error err
  | .ok path => .ok (Function.update files path (some content), ⟨content.utf8ByteSize, key⟩)

/-- Why no file is found: another one is on the way, or there is none. -/
def missing (files : Files) (path : List String) : PathError :=
  if path.inits.any fun p => (files p).isSome then .notDir else .notExist

def download (st : Storage) (files : Files) (key : String) : Except String String :=
  match st.objectPath cfg "Download" key with
  | .error (.refused err) => .error err
  | .error (.stopped err) => .error (hostError "open" st key [] err)
  | .ok path =>
      match files path with
      | some content => .ok content
      | none => .error (hostError "open" st key path (missing files path))

/-- Deleting a file that is not there is no error. -/
def delete (st : Storage) (files : Files) (key : String) : Except String Files :=
  match st.objectPath cfg "Delete" key with
  | .error (.refused err) => .error err
  | .error (.stopped .notExist) => .ok files
  | .error (.stopped err) => .error (hostError "remove" st key [] err)
  | .ok path => .ok (Function.update files path none)

/-- The key of a file below the base directory. -/
def relKey (base path : List String) : Option String :=
  if base.isPrefixOf path then
    some (if path = base then "." else Text.join '/' (path.drop base.length))
  else none

/-- The keys with a prefix, for the regular files of the host in the order of their times. A walk
from an empty path finds nothing. -/
def list (walk : List (List String)) : Storage → String → Except String (List String)
  | .localStorage baseDir, pre =>
      .ok (if baseDir = "" then []
        else (walk.filterMap (relKey (locate cfg.cwd baseDir))).filter (Text.hasPrefix pre))
  | .nfsStorage nfs, pre =>
      if nfs.baseDir = "" then .error "nfs storage not configured"
      else
        match cfg.unmounted with
        | some err => .error err
        | none =>
            .ok ((walk.filterMap (relKey (locate cfg.cwd nfs.baseDir))).filter
              (Text.hasPrefix pre))
  | .s3Storage, _ => .error (notImplemented "List")

end Storage

def sanitizeName (s : String) : String :=
  let keep (c : Char) : Bool :=
    ('a' ≤ c && c ≤ 'z') || ('A' ≤ c && c ≤ 'Z') || ('0' ≤ c && c ≤ '9') ||
      c == '-' || c == '_' || c == '.'
  -- a character takes as many bytes as its UTF-8 form, each replaced on its own
  let bytes := s.toList.flatMap fun c => if keep c then [c] else List.replicate c.utf8Size '_'
  if bytes.isEmpty then "unnamed" else String.ofList bytes

/-- The last component of a key. -/
def objectName (backupID kind name : String) : String :=
  backupID ++ "_" ++ kind ++ "_" ++ sanitizeName name ++ ".yaml"

def buildKey (clusterCode dateStr backupID kind name : String) : String :=
  clusterCode ++ "/" ++ dateStr ++ "/" ++ objectName backupID kind name

/-! ## Upload and download agree -/

/-- A key that `safeJoin` accepts leads from the base directory to a location below it. -/
theorem safeJoin_eq_ok {cwd : List String} {baseDir key : String} {path : List String} :
    safeJoin cwd baseDir key = .ok path ↔
      clean key ≠ [".."] ∧ locate cwd baseDir <+: path ∧
        path = follow (locate cwd baseDir) (clean key) := by
  unfold safeJoin
  dsimp only
  constructor
  · intro joined
    split at joined
    · cases joined
    · rename_i up
      split at joined
      · rename_i below
        cases joined
        exact ⟨up, List.isPrefixOf_iff_prefix.1 below, rfl⟩
      · cases joined
  · rintro ⟨up, below, rfl⟩
    rw [if_neg up, if_pos (List.isPrefixOf_iff_prefix.2 below)]

theorem safeJoin_of_clean {cwd : List String} {baseDir key : String}
    (h : (clean key).head? ≠ some "..") :
    safeJoin cwd baseDir key = .ok (locate cwd baseDir ++ clean key) := by
  have landed := follow_plain (locate cwd baseDir) (clean_plain h)
  refine safeJoin_eq_ok.2 ⟨?_, List.prefix_append _ _, landed.symm⟩
  intro up
  rw [up] at h
  exact h rfl

/-- A key is read where it was written, unless it is rooted and the base directory is not the
root. -/
theorem localPath_of_safeJoin {cwd : List String} {baseDir key : String} {path : List String}
    (relative : isAbs key = true → locate cwd baseDir = [])
    (h : safeJoin cwd baseDir key = .ok path) : localPath cwd baseDir key = path := by
  obtain ⟨-, -, rfl⟩ := safeJoin_eq_ok.1 h
  cases rooted : isAbs key with
  | false =>
      rw [localPath, rooted, if_neg Bool.false_ne_true]
      exact follow_clean _ rooted
  | true =>
      have plain := clean_plain (head?_clean_of_isAbs rooted)
      rw [relative rooted, follow_plain [] plain]
      simp [localPath, locate, follow, clean, rooted]

theorem Storage.objectPath_local {cfg : BackupConfig} {baseDir op key : String}
    {path : List String} : (Storage.localStorage baseDir).objectPath cfg op key = .ok path ↔
      (isAbs key = true → cfg.wayError key = none) ∧ localPath cfg.cwd baseDir key = path := by
  simp only [objectPath]
  cases isAbs key with
  | false => simp
  | true => cases cfg.wayError key <;> simp

theorem Storage.objectPath_nfs {cfg : BackupConfig} {nfs : NFSBackupConfig} {op key : String}
    {path : List String} : (Storage.nfsStorage nfs).objectPath cfg op key = .ok path ↔
      nfs.baseDir ≠ "" ∧ safeJoin cfg.cwd nfs.baseDir key = .ok path := by
  simp only [objectPath]
  by_cases configured : nfs.baseDir = ""
  · simp [configured]
  · cases safeJoin cfg.cwd nfs.baseDir key <;> simp [configured, Except.mapError]

/-- Local storage finds the keys that are not rooted, and from the root those that the host finds
as they are written. -/
def BackupConfig.Finds (cfg : BackupConfig) (baseDir key : String) : Prop :=
  isAbs key = true → locate cfg.cwd baseDir = [] ∧ cfg.wayError key = none

/-- An uploaded key is read and deleted where it was written, unless local storage takes a
rooted key for a path of the host. -/
theorem Storage.objectPath_of_uploadPath {cfg : BackupConfig} {st : Storage} {key : String}
    {path : List String}
    (found : ∀ baseDir, st = .localStorage baseDir → cfg.Finds baseDir key)
    (h : st.uploadPath cfg key = .ok path) (op : String) : st.objectPath cfg op key = .ok path := by
  cases st with
  | localStorage baseDir =>
      have finds := found baseDir rfl
      exact objectPath_local.2
        ⟨fun rooted => (finds rooted).2, localPath_of_safeJoin (fun rooted => (finds rooted).1) h⟩
  | nfsStorage nfs =>
      simp only [uploadPath] at h
      by_cases missing : nfs.baseDir = ""
      · simp [missing] at h
      · rw [if_neg missing] at h
        cases unmounted : cfg.unmounted with
        | none =>
            rw [unmounted] at h
            exact objectPath_nfs.2 ⟨missing, h⟩
        | some err =>
            rw [unmounted] at h
            cases h
  | s3Storage => cases h

theorem relKey_append (base : List String) {segs : List String} (some_ : segs ≠ []) :
    Storage.relKey base (base ++ segs) = some (Text.join '/' segs) := by
  have below : base.isPrefixOf (base ++ segs) = true :=
    List.isPrefixOf_iff_prefix.2 (List.prefix_append base segs)
  have other : base ++ segs ≠ base := by simpa using some_
  rw [Storage.relKey, if_pos below, if_neg other, List.drop_left]

theorem slash_not_mem_sanitizeName (name : String) : '/' ∉ (sanitizeName name).toList := by
  unfold sanitizeName
  dsimp only
  split
  · decide
  · intro mem
    rw [String.toList_ofList, List.mem_flatMap] at mem
    obtain ⟨c, _, replaced⟩ := mem
    split at replaced
    · rename_i kept
      rw [List.mem_singleton] at replaced
      subst replaced
      revert kept
      decide
    · have underscore := List.eq_of_mem_replicate replaced
      revert underscore
      decide

/-- The id of an object name is what stands before the first underscore. -/
theorem objectName_id {id id' : Nat} {kind kind' name name' : String}
    (h : objectName (toString id) kind name = objectName (toString id') kind' name') :
    id = id' := by
  have before : ∀ (n : Nat) (k nm : String),
      (objectName (toString n) k nm).toList.takeWhile (· ≠ '_') = Nat.toDigits 10 n := by
    intro n k nm
    have digits : (toString n).toList = Nat.toDigits 10 n := Nat.toList_repr
    have plain : ∀ c ∈ Nat.toDigits 10 n, (decide (c ≠ '_')) = true := by
      intro c mem
      rw [decide_eq_true_eq]
      rintro rfl
      exact Nat.underscore_not_in_toDigits mem
    simp only [objectName, String.toList_append, digits, List.append_assoc]
    rw [List.takeWhile_append_of_pos plain]
    simp
  have same := congrArg (fun s => s.toList.takeWhile (· ≠ '_')) h
  simp only [before] at same
  exact Text.digits_inj same

theorem slash_not_mem_digits (n : Nat) : '/' ∉ Nat.toDigits 10 n :=
  Text.not_mem_digits (by decide) n

theorem slash_not_mem_name {backupID kind : String} (h : '/' ∉ backupID.toList)
    (h' : '/' ∉ kind.toList) (name : String) : '/' ∉ (objectName backupID kind name).toList := by
  have name_ := slash_not_mem_sanitizeName name
  simp [objectName, h, h', name_]

theorem slash_not_mem_objectName {kind : String} (h : '/' ∉ kind.toList) (id : Nat)
    (name : String) : '/' ∉ (objectName (toString id) kind name).toList := by
  refine slash_not_mem_name ?_ h name
  simpa using slash_not_mem_digits id

theorem name_plain (backupID kind name : String) : Plain (objectName backupID kind name) := by
  have underscore : '_' ∈ (objectName backupID kind name).toList := by
    simp [objectName]
  refine ⟨?_, ?_, ?_⟩ <;> intro eq <;> rw [eq] at underscore <;> revert underscore <;> decide

theorem objectName_plain (id : Nat) (kind name : String) :
    Plain (objectName (toString id) kind name) :=
  name_plain _ kind name

/-- The object name is the last component of its key. -/
theorem split_buildKey {kind : String} (h : '/' ∉ kind.toList) (code date name : String)
    (id : Nat) :
    Text.split '/' (buildKey code date (toString id) kind name) =
      (Text.split '/' code ++ Text.split '/' date) ++ [objectName (toString id) kind name] := by
  have slash : ("/" : String) = String.singleton '/' := rfl
  rw [buildKey, slash, Text.split_append_sep, Text.split_append_sep,
    Text.split_of_not_mem (slash_not_mem_objectName h id name)]

/-- An uploaded key is found under its object name. -/
theorem Storage.uploadPath_getLast {cfg : BackupConfig} {st : Storage}
    {code date kind name : String} {id : Nat} {path : List String} (h : '/' ∉ kind.toList)
    (up : st.uploadPath cfg (buildKey code date (toString id) kind name) = .ok path) :
    path.getLast? = some (objectName (toString id) kind name) := by
  have joined : ∃ baseDir, safeJoin cfg.cwd baseDir
      (buildKey code date (toString id) kind name) = .ok path := by
    cases st with
    | localStorage baseDir => exact ⟨baseDir, up⟩
    | nfsStorage nfs =>
        simp only [uploadPath] at up
        split at up
        · cases up
        · cases unmounted : cfg.unmounted with
          | none => rw [unmounted] at up; exact ⟨nfs.baseDir, up⟩
          | some err => rw [unmounted] at up; cases up
    | s3Storage => cases up
  obtain ⟨baseDir, joined⟩ := joined
  obtain ⟨-, -, rfl⟩ := safeJoin_eq_ok.1 joined
  exact getLast?_follow_clean _ (split_buildKey h code date name id) (objectName_plain id kind name)

end K8sPlatform.Backup
