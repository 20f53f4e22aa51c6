import K8sPlatform.Backup.Batch
import K8sPlatform.Backup.Uploads

/-! # Deleting the objects of a batch -/

namespace K8sPlatform.Backup

open FilePath

/-- A date as `DateStr` writes it. -/
def IsDate (s : String) : Prop := s ≠ "" ∧ ∀ c ∈ s.toList, c.isDigit = true

/-- The regular files of the host, as a walk finds them. -/
structure OnDisk (files : Files) (walk : List (List String)) : Prop where
  mem : ∀ path, path ∈ walk ↔ files path ≠ none
  names : ∀ path ∈ walk, ∀ seg ∈ path, Plain seg ∧ '/' ∉ seg.toList

/-- What `List` tells the deletion; its error is logged only. -/
def listedBy (cfg : BackupConfig) (walk : List (List String)) (st : Storage) (pre : String) :
    List String :=
  match st.list cfg walk pre with
  | .error _ => []
  | .ok keys => keys

/-- The directory of a storage. -/
def Storage.base (cfg : BackupConfig) : Storage → List String
  | .localStorage baseDir => locate cfg.cwd baseDir
  | .nfsStorage nfs => locate cfg.cwd nfs.baseDir
  | .s3Storage => []

/-- Where the directory of a cluster lies below that of the storage. -/
def Storage.below (cfg : BackupConfig) (st : Storage) (code : String) : List String :=
  (follow (st.base cfg) (clean code)).drop (st.base cfg).length

variable {cfg : BackupConfig} {e : Environment} {task : BackupTask}

theorem IsDate.plain {date : String} (h : IsDate date) : Plain date ∧ '/' ∉ date.toList ∧
    '-' ∉ date.toList ∧ '\\' ∉ date.toList := by
  have digit {c : Char} (mem : c ∈ date.toList) : c.isDigit = true := h.2 c mem
  have dot : '.' ∉ date.toList := fun mem => by simpa using digit mem
  refine ⟨⟨h.1, ?_, ?_⟩, ?_, ?_, ?_⟩
  · rintro rfl
    exact dot (by decide)
  · rintro rfl
    exact dot (by decide)
  · exact fun mem => by simpa using digit mem
  · exact fun mem => by simpa using digit mem
  · exact fun mem => by simpa using digit mem

theorem split_key {code date backupID kind : String} (dated : IsDate date)
    (h : '/' ∉ backupID.toList) (h' : '/' ∉ kind.toList) (name : String) :
    Text.split '/' (buildKey code date backupID kind name) =
      Text.split '/' code ++ [date] ++ [objectName backupID kind name] := by
  have slash : ("/" : String) = String.singleton '/' := rfl
  rw [buildKey, slash, Text.split_append_sep, Text.split_append_sep,
    Text.split_of_not_mem (slash_not_mem_name h h' name), Text.split_of_not_mem dated.plain.2.1]

/-- A cleaned key is the cleaned cluster code with date and name behind it. -/
theorem clean_buildKey {date backupID kind : String} (code : String) (dated : IsDate date)
    (h : '/' ∉ backupID.toList) (h' : '/' ∉ kind.toList) (name : String) :
    clean (buildKey code date backupID kind name) =
      clean code ++ [date, objectName backupID kind name] := by
  have same : (Text.split '/' code).foldl
        (push (isAbs (buildKey code date backupID kind name))) [] =
      (Text.split '/' code).foldl (push (isAbs code)) [] := by
    by_cases empty : code = ""
    · subst empty
      rfl
    · rw [buildKey]
      simp only [String.append_assoc]
      rw [isAbs_append empty]
  rw [clean, split_key dated h h', List.foldl_append, List.foldl_append, same, List.foldl_cons,
    List.foldl_nil, List.foldl_cons, List.foldl_nil, push_plain dated.plain.1,
    push_plain (name_plain backupID kind name), clean]
  simp

theorem Storage.uploadPath_eq {st : Storage} {key : String} {path : List String}
    (placed : st.uploadPath cfg key = .ok path) :
    st.base cfg <+: path ∧ path = follow (st.base cfg) (clean key) := by
  cases st with
  | localStorage baseDir => exact (safeJoin_eq_ok.1 placed).2
  | nfsStorage nfs =>
      simp only [uploadPath] at placed
      split at placed
      · cases placed
      · split at placed
        · cases placed
        · exact (safeJoin_eq_ok.1 placed).2
  | s3Storage => cases placed

/-! ## The prefix of a batch -/

theorem dash_mem_pad (id : Nat) : '-' ∈ (toString id ++ "-").toList := by simp

theorem slash_not_mem_idPrefix (id : Nat) : '/' ∉ (toString id ++ "-").toList := by
  simpa using slash_not_mem_digits id

/-- No character of an object name needs turning. -/
theorem backslash_not_mem_kind {kind : String} {gvr : GVR} (h : resolveGVR kind = .ok gvr) :
    '\\' ∉ kind.toList := by
  have table : ∀ entry ∈ gvrTable, '\\' ∉ entry.1.toList := by decide
  exact table _ (mem_gvrTable h)

theorem backslash_not_mem_sanitizeName (name : String) : '\\' ∉ (sanitizeName name).toList := by
  unfold sanitizeName
  dsimp only
  split
  · decide
  · intro mem
    rw [String.toList_ofList, List.mem_flatMap] at mem
    obtain ⟨c, -, replaced⟩ := mem
    split at replaced
    · rename_i kept
      rw [List.mem_singleton] at replaced
      subst replaced
      revert kept
      decide
    · have underscore := List.eq_of_mem_replicate replaced
      revert underscore
      decide

/-- The prefix of a key: its directories with their backslashes turned, and the id of the task. -/
def keyPrefix (code date : String) (id : Nat) : String :=
  slashed code ++ "/" ++ date ++ "/" ++ (toString id ++ "-")

/-- What stands up to the last slash. -/
theorem dropWhile_slash (xs : List Char) {ys : List Char} (h : '/' ∉ ys) :
    ((xs ++ '/' :: ys).reverse.dropWhile (· ≠ '/')).reverse = xs ++ ['/'] := by
  have none_ : ys.reverse.dropWhile (· ≠ '/') = [] := by
    apply List.dropWhile_eq_nil_iff.2
    intro c mem
    rw [decide_eq_true_eq]
    rintro rfl
    exact h (List.mem_reverse.1 mem)
  rw [List.reverse_append, List.reverse_cons, List.append_assoc, List.dropWhile_append, none_]
  simp

theorem batchObjectPrefix_key {code date backupID kind : String} {gvr : GVR} (id : Nat)
    (dated : IsDate date) (h : '/' ∉ backupID.toList) (h' : '\\' ∉ backupID.toList)
    (kinds : resolveGVR kind = .ok gvr) (name : String) :
    batchObjectPrefix id (buildKey code date backupID kind name) = keyPrefix code date id := by
  have noBackslash : '\\' ∉ (objectName backupID kind name).toList := by
    have kind_ := backslash_not_mem_kind kinds
    have name_ := backslash_not_mem_sanitizeName name
    simp [objectName, h', kind_, name_]
  have turned : ((buildKey code date backupID kind name).toList.map fun c =>
      if c = '\\' then '/' else c) =
      ((slashed code).toList ++ '/' :: date.toList) ++
        '/' :: (objectName backupID kind name).toList := by
    have date_ := slashed_of_not_mem dated.plain.2.2.2
    have name_ := slashed_of_not_mem noBackslash
    have all : slashed (buildKey code date backupID kind name) =
        slashed code ++ "/" ++ date ++ "/" ++ objectName backupID kind name := by
      have slash : slashed "/" = "/" := rfl
      simp only [buildKey, slashed_append, date_, name_, slash]
    have chars := congrArg String.toList all
    rw [slashed, String.toList_ofList] at chars
    rw [chars]
    simp
  have notSuffix : ¬(toString id ++ "-").toList.isSuffixOf
      (((slashed code).toList ++ '/' :: date.toList) ++
        '/' :: (objectName backupID kind name).toList) = true := by
    rw [List.isSuffixOf_iff_suffix]
    rintro ⟨front, eq⟩
    have last : (objectName backupID kind name).toList =
        (backupID ++ "_" ++ kind ++ "_" ++ sanitizeName name ++ ".yam").toList ++ ['l'] := by
      simp [objectName]
    have last' : (toString id ++ "-").toList = (toString id).toList ++ ['-'] := by simp
    rw [last, last', ← List.cons_append, ← List.append_assoc, ← List.append_assoc] at eq
    have chars := (List.append_inj' eq rfl).2
    revert chars
    decide
  unfold batchObjectPrefix
  dsimp only
  rw [turned, if_neg (by simp), if_neg notSuffix,
    dropWhile_slash _ (slash_not_mem_name h (slash_not_mem_kind kinds) name)]
  apply String.toList_inj.1
  simp [keyPrefix]

theorem slashed_slashed (s : String) : slashed (slashed s) = slashed s := by
  apply slashed_of_not_mem
  intro mem
  rw [slashed, String.toList_ofList] at mem
  obtain ⟨c, -, turned⟩ := List.mem_map.1 mem
  split at turned
  · cases turned
  · rename_i other
    exact other turned

theorem batchObjectPrefix_keyPrefix {date : String} (dated : IsDate date) (code : String)
    (id : Nat) : batchObjectPrefix id (keyPrefix code date id) = keyPrefix code date id := by
  have chars : (keyPrefix code date id).toList =
      (slashed code ++ "/" ++ date ++ "/").toList ++ (toString id ++ "-").toList :=
    String.toList_append
  have turned : slashed (keyPrefix code date id) = keyPrefix code date id := by
    have slash : slashed "/" = "/" := rfl
    have ends : slashed (toString id ++ "-") = toString id ++ "-" := by
      apply slashed_of_not_mem
      have digits : '\\' ∉ Nat.toDigits 10 id := Text.not_mem_digits (by decide) id
      simpa using digits
    rw [keyPrefix]
    simp only [slashed_append, slashed_slashed, slash, ends, slashed_of_not_mem dated.plain.2.2.2]
  have turned' := congrArg String.toList turned
  rw [slashed, String.toList_ofList] at turned'
  have suffix : (toString id ++ "-").toList.isSuffixOf (keyPrefix code date id).toList = true := by
    rw [List.isSuffixOf_iff_suffix, chars]
    exact List.suffix_append _ _
  have some_ : (keyPrefix code date id).toList ≠ [] := by
    rw [chars]
    simp
  unfold batchObjectPrefix
  dsimp only
  rw [turned', if_neg some_, if_pos suffix, String.ofList_toList]

theorem split_keyPrefix {date : String} (dated : IsDate date) (code : String) (id : Nat) :
    Text.split '/' (keyPrefix code date id) =
      (Text.split '/' (slashed code) ++ [date]) ++ [toString id ++ "-"] := by
  have slash : ("/" : String) = String.singleton '/' := rfl
  rw [keyPrefix, slash, Text.split_append_sep, Text.split_append_sep,
    Text.split_of_not_mem (slash_not_mem_idPrefix id), Text.split_of_not_mem dated.plain.2.1]

/-- A path without slashes in its components begins with the prefix when its directories do and
the next component begins with the id. -/
theorem hasPrefix_keyPrefix_iff {date : String} (dated : IsDate date) {code : String} {id : Nat}
    {segs : List String} (names : ∀ seg ∈ segs, '/' ∉ seg.toList) :
    Text.hasPrefix (keyPrefix code date id) (Text.join '/' segs) = true ↔
      ∃ seg rest, segs = (Text.split '/' (slashed code) ++ [date]) ++ seg :: rest ∧
        Text.hasPrefix (toString id ++ "-") seg = true := by
  by_cases empty : segs = []
  · subst empty
    apply iff_of_false
    · simp [Text.hasPrefix, keyPrefix, Text.join]
    · rintro ⟨seg, rest, nil, -⟩
      simp at nil
  rw [Text.hasPrefix_iff_split '/', split_keyPrefix dated, Text.split_join_of_not_mem empty names]
  constructor
  · rintro ⟨front, stub, seg, rest, ofPrefix, ofSegs, begins⟩
    obtain ⟨rfl, last⟩ := List.append_inj' ofPrefix rfl
    obtain rfl := List.singleton_inj.1 last
    exact ⟨seg, rest, ofSegs, begins⟩
  · rintro ⟨seg, rest, ofSegs, begins⟩
    exact ⟨_, _, seg, rest, rfl, ofSegs, begins⟩

/-- The digits before a dash are those of one number. -/
theorem id_of_hasPrefix {id id' : Nat} {c : Char} {tail : List Char} (stop : c.isDigit = false)
    (begins : Text.hasPrefix (toString id ++ "-")
      (String.ofList ((toString id').toList ++ c :: tail)) = true) : id = id' := by
  obtain ⟨rest, eq⟩ := Text.hasPrefix_iff.1 begins
  have digits (n : Nat) : (toString n).toList = Nat.toDigits 10 n := Nat.toList_repr
  have before (n : Nat) (c : Char) (cs : List Char) (stop : c.isDigit = false) :
      (Nat.toDigits 10 n ++ c :: cs).takeWhile Char.isDigit = Nat.toDigits 10 n := by
    have all : ∀ d ∈ Nat.toDigits 10 n, d.isDigit = true := fun d mem =>
      Nat.isDigit_of_mem_toDigits (by decide) (by decide) mem
    rw [List.takeWhile_append_of_pos all, List.takeWhile_cons_of_neg (by simp [stop]),
      List.append_nil]
  have chars := congrArg String.toList eq
  have shape : (toString id ++ "-" ++ rest).toList =
      Nat.toDigits 10 id ++ '-' :: rest.toList := by
    rw [← digits]
    simp
  rw [String.toList_ofList, digits, shape] at chars
  have same := congrArg (List.takeWhile Char.isDigit) chars
  rw [before _ _ _ stop, before _ _ _ (by decide)] at same
  exact (Text.digits_inj same).symm

/-- The id of a backup in the name of its object: the task, and for a batch the position. -/
def backupID (id : Nat) : Option Nat → String
  | none => toString id
  | some n => toString id ++ "-" ++ pad5 n

theorem backupID_plain (id : Nat) (n : Option Nat) :
    '/' ∉ (backupID id n).toList ∧ '\\' ∉ (backupID id n).toList := by
  have noBackslash (n : Nat) : '\\' ∉ Nat.toDigits 10 n := Text.not_mem_digits (by decide) n
  cases n with
  | none =>
      have slash := slash_not_mem_digits id
      have back := noBackslash id
      exact ⟨by simpa [backupID] using slash, by simpa [backupID] using back⟩
  | some n =>
      have slash := slash_not_mem_digits id
      have slash' := slash_not_mem_digits n
      have back := noBackslash id
      have back' := noBackslash n
      constructor
      · simpa [backupID, pad5] using ⟨slash, slash'⟩
      · simpa [backupID, pad5] using ⟨back, back'⟩

/-- The name of another task's object does not begin with the id. -/
theorem not_hasPrefix_objectName {id id' : Nat} (other : id' ≠ id) (n : Option Nat)
    (kind name : String) :
    Text.hasPrefix (toString id ++ "-") (objectName (backupID id' n) kind name) = false := by
  rw [Bool.eq_false_iff]
  intro begins
  have shape : ∃ c tail, c.isDigit = false ∧ objectName (backupID id' n) kind name =
      String.ofList ((toString id').toList ++ c :: tail) := by
    cases n with
    | none =>
        refine ⟨'_', (kind ++ "_" ++ sanitizeName name ++ ".yaml").toList, by decide, ?_⟩
        apply String.toList_inj.1
        simp [objectName, backupID]
    | some n =>
        refine ⟨'-', (pad5 n ++ "_" ++ kind ++ "_" ++ sanitizeName name ++ ".yaml").toList,
          by decide, ?_⟩
        apply String.toList_inj.1
        simp [objectName, backupID]
  obtain ⟨c, tail, stop, eq⟩ := shape
  rw [eq] at begins
  exact other (id_of_hasPrefix stop begins).symm

/-- An object of the batch begins with the prefix when its cluster code stays as it is and its
date is that of the prefix. -/
theorem own_hasPrefix_iff {code date date' kind : String} {id n : Nat} (dated : IsDate date)
    (stays : (clean code).head? ≠ some "..") (name : String)
    (names : ∀ seg ∈ clean code ++ [date', objectName (backupID id (some n)) kind name],
      '/' ∉ seg.toList) :
    Text.hasPrefix (keyPrefix code date id) (Text.join '/'
        (clean code ++ [date', objectName (backupID id (some n)) kind name])) = true ↔
      ((∀ seg ∈ Text.split '/' code, Plain seg) ∧ '\\' ∉ code.toList) ∧ date' = date := by
  have begins : Text.hasPrefix (toString id ++ "-")
      (objectName (backupID id (some n)) kind name) = true := by
    refine Text.hasPrefix_iff.2 ⟨pad5 n ++ "_" ++ kind ++ "_" ++ sanitizeName name ++ ".yaml", ?_⟩
    simp only [objectName, backupID, String.append_assoc]
  rw [hasPrefix_keyPrefix_iff dated names, ← clean_eq_split_slashed_iff stays]
  constructor
  · rintro ⟨seg, rest, eq, -⟩
    have shorter := length_clean_le code
    have longer := length_split_slashed code
    have lengths := congrArg List.length eq
    simp only [List.length_append, List.length_cons, List.length_nil] at lengths
    have alone : rest = [] := List.eq_nil_of_length_eq_zero (by omega)
    subst alone
    rw [List.append_assoc] at eq
    obtain ⟨front, last⟩ := List.append_inj' eq (by simp)
    exact ⟨front, (List.cons.inj last).1⟩
  · rintro ⟨same, rfl⟩
    refine ⟨_, [], ?_, begins⟩
    rw [same, List.append_assoc]
    rfl

/-- A key that climbs out of the storage and back is not listed under the prefix. -/
theorem not_hasPrefix_of_climbs {code date : String} {id : Nat} {segs : List String}
    (dated : IsDate date) (climbs : (clean code).head? = some "..")
    (names : ∀ seg ∈ segs, Plain seg ∧ '/' ∉ seg.toList) :
    Text.hasPrefix (keyPrefix code date id) (Text.join '/' segs) = false := by
  rw [Bool.eq_false_iff, ne_eq, hasPrefix_keyPrefix_iff dated fun seg mem => (names seg mem).2]
  rintro ⟨seg, rest, eq, -⟩
  have up : ".." ∈ Text.split '/' (slashed code) :=
    mem_split_slashed (mem_split_of_mem_clean (List.mem_of_head? climbs)) (by decide)
  have mem : ".." ∈ segs := by
    rw [eq, List.append_assoc]
    exact List.mem_append_left _ up
  exact (names ".." mem).1.2.2 rfl

/-- An object of another task begins with the prefix when its directory does. -/
theorem other_hasPrefix_iff {code date date' kind : String} {id id' : Nat} {n : Option Nat}
    {dir : List String} (dated : IsDate date) (dated' : IsDate date') (other : id' ≠ id)
    (name : String) (names : ∀ seg ∈ dir ++ [date', objectName (backupID id' n) kind name],
      '/' ∉ seg.toList) :
    Text.hasPrefix (keyPrefix code date id) (Text.join '/'
        (dir ++ [date', objectName (backupID id' n) kind name])) = true ↔
      Text.hasPrefix (keyPrefix code date id) (Text.join '/' dir) = true := by
  have ofDir : ∀ seg ∈ dir, '/' ∉ seg.toList := fun seg mem =>
    names seg (List.mem_append_left _ mem)
  rw [hasPrefix_keyPrefix_iff dated names, hasPrefix_keyPrefix_iff dated ofDir]
  have ofName := not_hasPrefix_objectName other n kind name
  have ofDate : Text.hasPrefix (toString id ++ "-") date' = false := by
    rw [Bool.eq_false_iff]
    intro begins
    obtain ⟨rest, eq⟩ := Text.hasPrefix_iff.1 begins
    apply dated'.plain.2.2.1
    rw [eq, String.toList_append]
    exact List.mem_append_left _ (dash_mem_pad id)
  constructor
  · rintro ⟨seg, rest, eq, begins⟩
    -- the component with the id is neither the name nor the date
    rw [List.append_cons] at eq
    obtain rfl | ⟨rest, last, rfl⟩ := List.eq_nil_or_concat' rest
    · obtain rfl := List.singleton_inj.1 (List.append_inj' eq rfl).2
      rw [ofName] at begins
      cases begins
    · rw [← List.cons_append, ← List.append_assoc] at eq
      have eq' := (List.append_inj' eq rfl).1
      obtain rfl | ⟨rest, last, rfl⟩ := List.eq_nil_or_concat' rest
      · obtain rfl := List.singleton_inj.1 (List.append_inj' eq' rfl).2
        rw [ofDate] at begins
        cases begins
      · rw [← List.cons_append, ← List.append_assoc] at eq'
        exact ⟨seg, rest, (List.append_inj' eq' rfl).1, begins⟩
  · rintro ⟨seg, rest, eq, begins⟩
    refine ⟨seg, rest ++ [date', objectName (backupID id' n) kind name], ?_, begins⟩
    rw [eq, List.append_assoc, List.cons_append]

/-- The prefix has no less than three components. -/
theorem not_hasPrefix_of_short {code date : String} {id : Nat} {segs : List String}
    (dated : IsDate date) (names : ∀ seg ∈ segs, '/' ∉ seg.toList) (short : segs.length ≤ 2) :
    Text.hasPrefix (keyPrefix code date id) (Text.join '/' segs) = false := by
  rw [Bool.eq_false_iff, ne_eq, hasPrefix_keyPrefix_iff dated names]
  rintro ⟨seg, rest, eq, -⟩
  have some_ := List.length_pos_iff.2 (Text.split_ne_nil '/' (slashed code))
  rw [eq, List.length_append, List.length_append, List.length_cons, List.length_cons] at short
  omega

/-! ## The listing -/

theorem listedBy_eq {st : Storage} {key pre : String} {path : List String}
    {walk : List (List String)} (placed : st.uploadPath cfg key = .ok path)
    (named : st ≠ .localStorage "") :
    listedBy cfg walk st pre =
      (walk.filterMap (Storage.relKey (st.base cfg))).filter (Text.hasPrefix pre) := by
  cases st with
  | localStorage baseDir =>
      have some_ : baseDir ≠ "" := fun eq => named (by rw [eq])
      simp only [listedBy, Storage.list, if_neg some_, Storage.base]
  | nfsStorage nfs =>
      simp only [Storage.uploadPath] at placed
      split at placed
      · cases placed
      · rename_i some_
        cases mount : cfg.unmounted with
        | some err =>
            rw [mount] at placed
            cases placed
        | none => simp only [listedBy, Storage.list, if_neg some_, mount, Storage.base]
  | s3Storage => cases placed

/-- The keys below a prefix are those of the files below the storage that begin with it. -/
theorem mem_listedBy_iff {st : Storage} {key key' code date : String} {path : List String}
    {walk : List (List String)} {id : Nat} (placed : st.uploadPath cfg key = .ok path)
    (named : st ≠ .localStorage "") :
    key' ∈ listedBy cfg walk st (keyPrefix code date id) ↔
      ∃ segs, segs ≠ [] ∧ st.base cfg ++ segs ∈ walk ∧ key' = Text.join '/' segs ∧
        Text.hasPrefix (keyPrefix code date id) key' = true := by
  rw [listedBy_eq placed named, List.mem_filter, List.mem_filterMap]
  constructor
  · rintro ⟨⟨found, mem, rel⟩, begins⟩
    unfold Storage.relKey at rel
    split at rel
    · rename_i below
      obtain ⟨segs, rfl⟩ := List.isPrefixOf_iff_prefix.1 below
      split at rel
      · obtain rfl := Option.some.inj rel
        have slash : '/' ∈ (keyPrefix code date id).toList := by simp [keyPrefix]
        obtain ⟨rest, chars⟩ := Text.hasPrefix_iff.1 begins
        have inDot : '/' ∈ ".".toList := by
          rw [chars, String.toList_append]
          exact List.mem_append_left _ slash
        exact absurd inDot (by decide)
      · rename_i other
        rw [List.drop_left] at rel
        exact ⟨segs, by simpa using other, mem, (Option.some.inj rel).symm, begins⟩
    · cases rel
  · rintro ⟨segs, some_, mem, rfl, begins⟩
    exact ⟨⟨_, mem, relKey_append _ some_⟩, begins⟩

/-- A listed key is deleted where its file was found. -/
theorem Storage.objectPath_join {st : Storage} {key : String} {path segs : List String}
    (placed : st.uploadPath cfg key = .ok path) (op : String) (some_ : segs ≠ [])
    (names : ∀ seg ∈ segs, Plain seg ∧ '/' ∉ seg.toList) :
    st.objectPath cfg op (Text.join '/' segs) = .ok (st.base cfg ++ segs) := by
  have split : Text.split '/' (Text.join '/' segs) = segs :=
    Text.split_join_of_not_mem some_ fun seg mem => (names seg mem).2
  have plain : ∀ seg ∈ Text.split '/' (Text.join '/' segs), Plain seg := by
    rw [split]
    exact fun seg mem => (names seg mem).1
  have cleaned : clean (Text.join '/' segs) = segs := (clean_of_plain plain).trans split
  cases st with
  | localStorage baseDir =>
      have relative : isAbs (Text.join '/' segs) = false := by
        rw [Bool.eq_false_iff]
        intro rooted
        obtain ⟨front, stub, seg, rest, ofSlash, ofKey, begins⟩ :=
          (Text.hasPrefix_iff_split '/').1 rooted
        have slash : Text.split '/' "/" = [""] ++ [""] := by decide
        obtain ⟨rfl, -⟩ := List.append_inj' (slash.symm.trans ofSlash) rfl
        exact (plain "" (by simp [ofKey])).1 rfl
      have landed : follow (locate cfg.cwd baseDir) segs = locate cfg.cwd baseDir ++ segs :=
        follow_plain _ fun seg mem => (names seg mem).1
      refine objectPath_local.2 ⟨fun rooted => absurd (relative.symm.trans rooted) (by decide), ?_⟩
      rw [localPath, relative, if_neg Bool.false_ne_true, split, landed]
      rfl
  | nfsStorage nfs =>
      have stays : (clean (Text.join '/' segs)).head? ≠ some ".." := by
        rw [cleaned]
        intro head
        exact (names ".." (List.mem_of_head? head)).1.2.2 rfl
      simp only [uploadPath] at placed
      split at placed
      · cases placed
      · rename_i configured
        refine objectPath_nfs.2 ⟨configured, ?_⟩
        rw [safeJoin_of_clean stays, cleaned]
        rfl
  | s3Storage => cases placed

/-- Without listed objects the deletion looks for an object that is none. -/
theorem Storage.objectPath_keyPrefix {st : Storage} {op code date : String} {id : Nat}
    {path : List String} (dated : IsDate date)
    (looked : st.objectPath cfg op (keyPrefix code date id) = .ok path) :
    path.getLast? = some (toString id ++ "-") := by
  have split := split_keyPrefix dated code id
  have plain : Plain (toString id ++ "-") := by
    have dash := dash_mem_pad id
    refine ⟨?_, ?_, ?_⟩ <;> intro eq <;> rw [eq] at dash <;> revert dash <;> decide
  have followed (dir : List String) :
      (follow dir (Text.split '/' (keyPrefix code date id))).getLast? =
        some (toString id ++ "-") := by
    rw [follow, split, List.foldl_append, List.foldl_cons, List.foldl_nil, push_plain plain,
      List.reverse_cons, List.getLast?_concat]
  cases st with
  | localStorage baseDir =>
      rw [← (objectPath_local.1 looked).2, localPath]
      split
      · exact followed _
      · exact followed _
  | nfsStorage nfs =>
      obtain ⟨-, -, landed⟩ := safeJoin_eq_ok.1 (objectPath_nfs.1 looked).2
      rw [landed]
      exact getLast?_follow_clean _ split plain
  | s3Storage => cases looked

/-! ## The deletion -/

variable (cfg) in
/-- One step of the loop over what was listed. -/
def removeKey (st : Storage) (acc : Files × Nat) (key : String) : Files × Nat :=
  match st.delete cfg acc.1 key with
  | .error _ => acc
  | .ok files => (files, acc.2 + 1)

/-- The loop empties the places of the listed keys and leaves the others alone. -/
theorem foldl_removeKey {st : Storage} {keys : List String} (acc : Files × Nat)
    (looked : ∀ key ∈ keys, ∃ path, st.objectPath cfg "Delete" key = .ok path) :
    (keys.foldl (removeKey cfg st) acc).2 = acc.2 + keys.length ∧
      ∀ path, ((∃ key ∈ keys, st.objectPath cfg "Delete" key = .ok path) →
          (keys.foldl (removeKey cfg st) acc).1 path = none) ∧
        ((∀ key ∈ keys, st.objectPath cfg "Delete" key ≠ .ok path) →
          (keys.foldl (removeKey cfg st) acc).1 path = acc.1 path) := by
  induction keys using List.reverseRecOn with
  | nil => simp
  | append_singleton keys key ih =>
      obtain ⟨count, each⟩ := ih fun key mem => looked key (List.mem_append_left _ mem)
      obtain ⟨place, last⟩ := looked key (List.mem_append_right _ List.mem_cons_self)
      have once : (keys ++ [key]).foldl (removeKey cfg st) acc =
          (Function.update (keys.foldl (removeKey cfg st) acc).1 place none,
            (keys.foldl (removeKey cfg st) acc).2 + 1) := by
        rw [List.foldl_append, List.foldl_cons, List.foldl_nil]
        unfold removeKey Storage.delete
        rw [last]
      rw [once]
      refine ⟨?_, fun path => ⟨?_, fun spared => ?_⟩⟩
      · rw [List.length_append, List.length_singleton]
        omega
      · rintro ⟨key', mem, there⟩
        by_cases same : path = place
        · rw [same]
          exact Function.update_self _ _ _
        · have old : key' ∈ keys := by
            obtain mem | mem := List.mem_append.1 mem
            · exact mem
            · rw [List.mem_singleton.1 mem, last] at there
              exact absurd (Except.ok.inj there).symm same
          have emptied := (each path).1 ⟨key', old, there⟩
          exact (Function.update_of_ne same _ _).trans emptied
      · have other : path ≠ place := by
          rintro rfl
          exact spared key (List.mem_append_right _ List.mem_cons_self) last
        have kept := (each path).2 fun key mem => spared key (List.mem_append_left _ mem)
        exact (Function.update_of_ne other _ _).trans kept

variable (cfg) in
/-- The file under these components is found by the prefix. -/
def Listed (walk : List (List String)) (st : Storage) (pre : String) (segs : List String) : Prop :=
  st ≠ .localStorage "" ∧ st.base cfg ++ segs ∈ walk ∧
    Text.hasPrefix pre (Text.join '/' segs) = true

/-- The keys that are listed are removed, and the path of the task itself where none was. -/
theorem deleteStorageObjects_eq {st : Storage} {t : BackupTask} {walk : List (List String)}
    {code date : String} {keys : List String} (files : Files)
    (batch : isNamespaceBatch t.backupType = true)
    (storage : cfg.getStorage t.storageType = .ok st) (dated : IsDate date)
    (stored : t.storagePath = keyPrefix code date t.id)
    (listed : listedBy cfg walk st (keyPrefix code date t.id) = keys) :
    deleteStorageObjects cfg (listedBy cfg walk) files t =
      if (keys.foldl (removeKey cfg st) (files, 0)).2 = 0 then
        (removeKey cfg st (keys.foldl (removeKey cfg st) (files, 0))
          (keyPrefix code date t.id)).1
      else (keys.foldl (removeKey cfg st) (files, 0)).1 := by
  have pathed : keyPrefix code date t.id ≠ "" := by simp [keyPrefix]
  subst listed
  unfold deleteStorageObjects
  rw [storage, stored, if_neg pathed]
  simp only [batch, if_true, batchObjectPrefix_keyPrefix dated]
  rfl

/-- A key that is listed leads back to the place that it was listed for. -/
theorem listedBy_found {st : Storage} {files : Files} {walk : List (List String)}
    {code date key key' : String} {id : Nat} {place : List String} (disk : OnDisk files walk)
    (placed : st.uploadPath cfg key = .ok place)
    (mem : key' ∈ listedBy cfg walk st (keyPrefix code date id)) :
    ∃ segs, key' = Text.join '/' segs ∧
      st.objectPath cfg "Delete" key' = .ok (st.base cfg ++ segs) ∧
      Listed cfg walk st (keyPrefix code date id) segs := by
  -- of a storage with an empty path nothing is listed
  by_cases named : st = .localStorage ""
  · subst named
    simp [listedBy, Storage.list] at mem
  · obtain ⟨segs, some_, walked, rfl, begins⟩ := (mem_listedBy_iff placed named).1 mem
    have names := fun seg memSeg => disk.names _ walked seg (List.mem_append_right _ memSeg)
    exact ⟨segs, rfl, Storage.objectPath_join placed "Delete" some_ names, named, walked, begins⟩

/-- The path of the task is not that of an object. -/
theorem removeKey_keyPrefix {st : Storage} {code date : String} {id : Nat} {path : List String}
    (acc : Files × Nat) (dated : IsDate date)
    (object : path.getLast? ≠ some (toString id ++ "-")) :
    (removeKey cfg st acc (keyPrefix code date id)).1 path = acc.1 path := by
  unfold removeKey Storage.delete
  cases last : st.objectPath cfg "Delete" (keyPrefix code date id) with
  | error err =>
      obtain text | err := err
      · rfl
      · cases err <;> rfl
  | ok place =>
      have other : path ≠ place := by
        rintro rfl
        exact object (Storage.objectPath_keyPrefix dated last)
      exact Function.update_of_ne other _ _

/-- The deletion of a batch empties the places that are listed, and no other place of an
object. -/
theorem deleteStorageObjects_batch {st : Storage} {t : BackupTask} {files : Files}
    {walk : List (List String)} {code date key : String} {place segs : List String}
    (disk : OnDisk files walk) (batch : isNamespaceBatch t.backupType = true)
    (storage : cfg.getStorage t.storageType = .ok st) (dated : IsDate date)
    (stored : t.storagePath = keyPrefix code date t.id)
    (placed : st.uploadPath cfg key = .ok place)
    (object : (st.base cfg ++ segs).getLast? ≠ some (toString t.id ++ "-")) :
    (Listed cfg walk st (keyPrefix code date t.id) segs →
        deleteStorageObjects cfg (listedBy cfg walk) files t (st.base cfg ++ segs) = none) ∧
      (¬Listed cfg walk st (keyPrefix code date t.id) segs →
        deleteStorageObjects cfg (listedBy cfg walk) files t (st.base cfg ++ segs) =
          files (st.base cfg ++ segs)) := by
  obtain ⟨keys, keys_eq⟩ : ∃ keys, listedBy cfg walk st (keyPrefix code date t.id) = keys :=
    ⟨_, rfl⟩
  have found : ∀ key' ∈ keys, ∃ segs', key' = Text.join '/' segs' ∧
      st.objectPath cfg "Delete" key' = .ok (st.base cfg ++ segs') ∧
      Listed cfg walk st (keyPrefix code date t.id) segs' := fun key' mem =>
    listedBy_found disk placed (keys_eq ▸ mem)
  have looked : ∀ key' ∈ keys, ∃ path, st.objectPath cfg "Delete" key' = .ok path := by
    intro key' mem
    obtain ⟨segs', -, there, -⟩ := found key' mem
    exact ⟨_, there⟩
  obtain ⟨count, each⟩ := foldl_removeKey (files, 0) looked
  rw [deleteStorageObjects_eq files batch storage dated stored keys_eq]
  constructor
  · rintro ⟨named, walked, begins⟩
    have some_ : segs ≠ [] := by
      rintro rfl
      rw [not_hasPrefix_of_short dated (by simp) (by simp)] at begins
      cases begins
    have mem : Text.join '/' segs ∈ keys :=
      keys_eq ▸ (mem_listedBy_iff placed named).2 ⟨segs, some_, walked, rfl, begins⟩
    have names := fun seg memSeg => disk.names _ walked seg (List.mem_append_right _ memSeg)
    have gone := (each (st.base cfg ++ segs)).1
      ⟨_, mem, Storage.objectPath_join placed "Delete" some_ names⟩
    have positive := List.length_pos_of_mem mem
    rw [if_neg (by omega)]
    exact gone
  · intro spared
    have apart : ∀ key' ∈ keys, st.objectPath cfg "Delete" key' ≠ .ok (st.base cfg ++ segs) := by
      intro key' mem there
      obtain ⟨segs', -, at_, listed⟩ := found key' mem
      rw [at_] at there
      have same : segs' = segs := List.append_cancel_left (Except.ok.inj there)
      exact spared (same ▸ listed)
    have kept := (each (st.base cfg ++ segs)).2 apart
    split
    · exact (removeKey_keyPrefix _ dated object).trans kept
    · exact kept

/-- An object that a task has put into a storage: its only one, or one of a batch. -/
structure TaskObject where
  owner : Nat
  item : Option Nat
  code : String
  date : String
  kind : String
  name : String
  deriving DecidableEq, Repr

def TaskObject.key (o : TaskObject) : String :=
  buildKey o.code o.date (backupID o.owner o.item) o.kind o.name

/-- The object is of a kind that is backed up, of some day, and there. -/
structure TaskObject.Stands (cfg : BackupConfig) (st : Storage) (files : Files) (o : TaskObject) :
    Prop where
  kind : ∃ gvr, resolveGVR o.kind = .ok gvr
  dated : IsDate o.date
  there : ∃ path, st.uploadPath cfg o.key = .ok path ∧ files path ≠ none

/-- Nothing is left of the objects that the run has stored. -/
def BatchGone (cfg : BackupConfig) (st : Storage) (stored : List ((PlanItem × Nat) × Upload))
    (files : Files) : Prop :=
  ∀ put ∈ stored, ∀ path, st.uploadPath cfg put.2.key = .ok path → files path = none

/-- The objects are as they were. -/
def Spared (cfg : BackupConfig) (st : Storage) (others : Set TaskObject) (before after : Files) :
    Prop :=
  ∀ o ∈ others, ∀ path, st.uploadPath cfg o.key = .ok path → after path = before path

/-- The storage has a path, the cluster code is clean and without backslashes, the uploads are of
one day, and the directory of no other object begins with the prefix. -/
def PrefixExact (cfg : BackupConfig) (e : Environment) (task : BackupTask) (st : Storage)
    (stored : List ((PlanItem × Nat) × Upload)) (others : Set TaskObject) : Prop :=
  st ≠ .localStorage "" ∧
    ((∀ seg ∈ Text.split '/' task.clusterCode, Plain seg) ∧ '\\' ∉ task.clusterCode.toList) ∧
    ∃ date, (∀ put ∈ stored, e.date put.1.2 = date) ∧
      ∀ o ∈ others, Text.hasPrefix (keyPrefix task.clusterCode date task.id)
        (Text.join '/' (st.below cfg o.code)) = false

theorem batchPlan_kind {payload : BatchPayload} {item : PlanItem × Nat}
    (mem : item ∈ batchPlan e task payload) : resolveGVR item.1.kind.1 = .ok item.1.kind.2 := by
  have planned := mem_batchItems (List.fst_mem_of_mem_zipIdx mem)
  exact (mem_batchKinds.1 planned.2).2

theorem objectName_ne_idPrefix (backupID kind name : String) (id : Nat) :
    objectName backupID kind name ≠ toString id ++ "-" := by
  intro eq
  have underscore : '_' ∈ (objectName backupID kind name).toList := by simp [objectName]
  rw [eq] at underscore
  have digits : '_' ∉ Nat.toDigits 10 id := Nat.underscore_not_in_toDigits
  simp [digits] at underscore

/-- Where the object of a task lies. -/
theorem placed_at {st : Storage} {code date kind name : String} {id : Nat} {n : Option Nat}
    {gvr : GVR} {path : List String} (dated : IsDate date) (kinds : resolveGVR kind = .ok gvr)
    (placed : st.uploadPath cfg (buildKey code date (backupID id n) kind name) = .ok path) :
    st.base cfg <+: path ∧
      path = follow (st.base cfg) (clean code) ++ [date, objectName (backupID id n) kind name] := by
  obtain ⟨below, at_⟩ := Storage.uploadPath_eq placed
  rw [clean_buildKey code dated (backupID_plain id n).1 (slash_not_mem_kind kinds)] at at_
  refine ⟨below, ?_⟩
  rw [at_, follow_append, follow_plain]
  simpa using ⟨dated.plain.1, name_plain _ kind name⟩

/-- The directory of a cluster is not above that of the storage, but for keys of two components at
most. -/
theorem below_cases {st : Storage} {code : String} {segs rest : List String}
    (lies : st.base cfg ++ rest = follow (st.base cfg) (clean code) ++ segs) :
    rest = st.below cfg code ++ segs ∨ st.below cfg code = [] ∧ rest.length < segs.length := by
  have lengths := congrArg List.length lies
  rw [List.length_append, List.length_append] at lengths
  unfold Storage.below
  by_cases above : (follow (st.base cfg) (clean code)).length < (st.base cfg).length
  · right
    exact ⟨List.drop_eq_nil_of_le above.le, by omega⟩
  · left
    have dropped := congrArg (List.drop (st.base cfg).length) lies
    rwa [List.drop_left, List.drop_append_of_le_length (by omega)] at dropped

/-- The directory of a cluster code that does not climb is the cleaned code. -/
theorem below_of_stays {st : Storage} {code : String} (stays : (clean code).head? ≠ some "..") :
    st.below cfg code = clean code := by
  rw [Storage.below, follow_plain _ (clean_plain stays), List.drop_left]

/-- An object of the batch is listed under the prefix when its cluster code stays as it is and its
date is that of the prefix. -/
theorem own_listed_iff {st : Storage} {code date date' kind name : String} {id n : Nat} {gvr : GVR}
    {rest : List String} (dated : IsDate date) (dated' : IsDate date')
    (kinds : resolveGVR kind = .ok gvr)
    (placed : st.uploadPath cfg (buildKey code date' (backupID id (some n)) kind name) =
      .ok (st.base cfg ++ rest)) (names : ∀ seg ∈ rest, Plain seg ∧ '/' ∉ seg.toList) :
    Text.hasPrefix (keyPrefix code date id) (Text.join '/' rest) = true ↔
      ((∀ seg ∈ Text.split '/' code, Plain seg) ∧ '\\' ∉ code.toList) ∧ date' = date := by
  by_cases climbs : (clean code).head? = some ".."
  · rw [not_hasPrefix_of_climbs dated climbs names]
    apply iff_of_false Bool.false_ne_true
    rintro ⟨⟨plain, -⟩, -⟩
    exact (plain _ (mem_split_of_mem_clean (List.mem_of_head? climbs))).2.2 rfl
  · obtain ⟨-, lies⟩ := placed_at dated' kinds placed
    rw [follow_plain _ (clean_plain climbs), List.append_assoc] at lies
    obtain rfl := List.append_cancel_left lies
    exact own_hasPrefix_iff dated climbs name fun seg mem => (names seg mem).2

/-- An object of another task is listed under the prefix when its directory begins with it. -/
theorem other_listed_iff {st : Storage} {code date code' date' kind name : String} {id id' : Nat}
    {n : Option Nat} {gvr : GVR} {rest : List String} (dated : IsDate date) (dated' : IsDate date')
    (other : id' ≠ id) (kinds : resolveGVR kind = .ok gvr)
    (placed : st.uploadPath cfg (buildKey code' date' (backupID id' n) kind name) =
      .ok (st.base cfg ++ rest)) (names : ∀ seg ∈ rest, Plain seg ∧ '/' ∉ seg.toList) :
    Text.hasPrefix (keyPrefix code date id) (Text.join '/' rest) = true ↔
      Text.hasPrefix (keyPrefix code date id) (Text.join '/' (st.below cfg code')) = true := by
  have plain : ∀ seg ∈ rest, '/' ∉ seg.toList := fun seg mem => (names seg mem).2
  obtain ⟨-, lies⟩ := placed_at dated' kinds placed
  obtain rfl | ⟨above, short⟩ := below_cases lies
  · exact other_hasPrefix_iff dated dated' other name plain
  · simp only [List.length_cons, List.length_nil] at short
    rw [not_hasPrefix_of_short dated plain (by omega), above,
      not_hasPrefix_of_short dated (by simp) (by simp)]

/-- The place of an object is not what the deletion looks for without listed objects. -/
theorem getLast?_placed {st : Storage} {code date kind name : String} {id : Nat} {n : Option Nat}
    {gvr : GVR} {path : List String} (dated : IsDate date) (kinds : resolveGVR kind = .ok gvr)
    (placed : st.uploadPath cfg (buildKey code date (backupID id n) kind name) = .ok path)
    (id' : Nat) : path.getLast? ≠ some (toString id' ++ "-") := by
  obtain ⟨-, rfl⟩ := placed_at dated kinds placed
  have last := objectName_ne_idPrefix (backupID id n) kind name id'
  simpa using last

theorem delete_files {h : Health} {listed : Storage → String → List String} {s : Store} {id : Nat}
    {t : BackupTask} (found : get h s id = .ok t) :
    (delete cfg h listed s id).1.files = deleteStorageObjects cfg listed s.files t := by
  unfold delete
  rw [found]
  dsimp only
  cases h.remove.error with
  | some err => exact Store.remove_files _ _ _
  | none => exact Store.remove_files _ _ _

/-- The row of a batch that has succeeded. -/
theorem batch_row {s : Store} {payload : BatchPayload} {st : Storage}
    (dated : ∀ n, IsDate (e.date n)) (row : s.find task.id = some task)
    (batch : task.backupType = BackupMode.namespaceBatch.text)
    (read : s.payloads task.id = some payload) (storage : cfg.getStorage task.storageType = .ok st)
    (ok : (doBackupNamespaceBatch cfg e s task).result = .ok ()) :
    ∃ last ∈ batchStored cfg e task st (batchPlan e task payload), ∃ t,
      (doBackupNamespaceBatch cfg e s task).store.find task.id = some t ∧ t.id = task.id ∧
      cfg.getStorage t.storageType = .ok st ∧ isNamespaceBatch t.backupType = true ∧
      t.storagePath = keyPrefix task.clusterCode (e.date last.1.2) task.id := by
  obtain ⟨payload', st', last, change, read', storage', lastPut, store, ends⟩ :=
    doBackupNamespaceBatch_ok ok
  obtain rfl := Option.some.inj (read.symm.trans read')
  obtain rfl := Except.ok.inj (storage.symm.trans storage')
  have mem := List.mem_of_getLast? lastPut
  obtain ⟨memPlan, put⟩ := mem_batchStored.1 mem
  have key := (batchUpload_ok put).2.1
  have changed := ends task
  refine ⟨last, mem, change task, ?_, changed.sameId, ?_, ?_, ?_⟩
  · rw [Store.find_change (congrArg Store.tasks store) fun t => (ends t).sameId, row,
      Option.map_some]
  · rw [changed.sameType, storage]
  · rw [changed.sameMode, batch]
    decide
  · rw [changed.storagePath, key]
    exact batchObjectPrefix_key task.id (dated _) (backupID_plain task.id (some _)).1
      (backupID_plain task.id (some _)).2 (batchPlan_kind memPlan) _

/-- The deletion of a batch empties the place of an object that stands there when its key below the
storage begins with the prefix, and leaves it alone otherwise. -/
theorem object_deleted_iff {st : Storage} {t : BackupTask} {files : Files}
    {walk : List (List String)} {code date key : String} {rest : List String}
    (disk : OnDisk files walk) (batch : isNamespaceBatch t.backupType = true)
    (storage : cfg.getStorage t.storageType = .ok st) (dated : IsDate date)
    (stored : t.storagePath = keyPrefix code date t.id)
    (placed : st.uploadPath cfg key = .ok (st.base cfg ++ rest))
    (object : (st.base cfg ++ rest).getLast? ≠ some (toString t.id ++ "-"))
    (there : files (st.base cfg ++ rest) ≠ none) :
    (deleteStorageObjects cfg (listedBy cfg walk) files t (st.base cfg ++ rest) = none ↔
        st ≠ .localStorage "" ∧
          Text.hasPrefix (keyPrefix code date t.id) (Text.join '/' rest) = true) ∧
      (deleteStorageObjects cfg (listedBy cfg walk) files t (st.base cfg ++ rest) =
          files (st.base cfg ++ rest) ↔
        ¬(st ≠ .localStorage "" ∧
          Text.hasPrefix (keyPrefix code date t.id) (Text.join '/' rest) = true)) := by
  have walked := (disk.mem _).2 there
  obtain ⟨gone, kept⟩ := deleteStorageObjects_batch disk batch storage dated stored placed object
  by_cases listed : st ≠ .localStorage "" ∧
      Text.hasPrefix (keyPrefix code date t.id) (Text.join '/' rest) = true
  · have empty := gone ⟨listed.1, walked, listed.2⟩
    refine ⟨iff_of_true empty listed, iff_of_false (fun same => ?_) fun none_ => none_ listed⟩
    exact there (same.symm.trans empty)
  · have same := kept fun ⟨named, _, begins⟩ => listed ⟨named, begins⟩
    exact ⟨iff_of_false (fun empty => there (same.symm.trans empty)) listed,
      iff_of_true same listed⟩

/-- After a batch that has succeeded, the deletion of its task removes exactly the objects of the
run when its prefix is exact. -/
theorem batch_deleted_iff (cfg : BackupConfig) (e : Environment) (h : Health) (s s' : Store)
    (task : BackupTask) (payload : BatchPayload) (st : Storage) (walk : List (List String))
    (others : Set TaskObject) (dated : ∀ n, IsDate (e.date n)) (positive : task.id ≠ 0)
    (row : s.find task.id = some task) (batch : task.backupType = BackupMode.namespaceBatch.text)
    (read : s.payloads task.id = some payload) (storage : cfg.getStorage task.storageType = .ok st)
    (ok : (doBackupNamespaceBatch cfg e s task).result = .ok ())
    (same : s'.find task.id = (doBackupNamespaceBatch cfg e s task).store.find task.id)
    (kept : ∀ put ∈ batchStored cfg e task st (batchPlan e task payload), ∀ path,
      st.uploadPath cfg put.2.key = .ok path → s'.files path ≠ none)
    (stand : ∀ o ∈ others, o.owner ≠ task.id ∧ o.Stands cfg st s'.files)
    (disk : OnDisk s'.files walk) (healthy : h.read = none) :
    (BatchGone cfg st (batchStored cfg e task st (batchPlan e task payload))
        (delete cfg h (listedBy cfg walk) s' task.id).1.files ∧
      Spared cfg st others s'.files (delete cfg h (listedBy cfg walk) s' task.id).1.files) ↔
      PrefixExact cfg e task st (batchStored cfg e task st (batchPlan e task payload)) others := by
  obtain ⟨last, lastMem, t, found, isId, ofType, ofMode, pathed⟩ :=
    batch_row dated row batch read storage ok
  rw [delete_files (get_ok_iff.2 ⟨positive, healthy, same.trans found⟩)]
  have own : ∀ put ∈ batchStored cfg e task st (batchPlan e task payload), ∃ path,
      st.uploadPath cfg put.2.key = .ok path ∧
      (deleteStorageObjects cfg (listedBy cfg walk) s'.files t path = none ↔
        st ≠ .localStorage "" ∧ ((∀ seg ∈ Text.split '/' task.clusterCode, Plain seg) ∧
          '\\' ∉ task.clusterCode.toList) ∧ e.date put.1.2 = e.date last.1.2) := by
    intro put mem
    obtain ⟨planned, uploaded⟩ := mem_batchStored.1 mem
    obtain ⟨-, key, path, placed⟩ := batchUpload_ok uploaded
    have there := kept put mem path placed
    have kinds := batchPlan_kind planned
    have placed' : st.uploadPath cfg (buildKey task.clusterCode (e.date put.1.2)
        (backupID task.id (some (put.1.2 + 1))) put.1.1.kind.1 put.1.1.name) = .ok path :=
      key ▸ placed
    have object := getLast?_placed (dated put.1.2) kinds placed' t.id
    obtain ⟨⟨rest, rfl⟩, -⟩ := placed_at (dated put.1.2) kinds placed'
    have names := fun seg mem => disk.names _ ((disk.mem _).2 there) seg
      (List.mem_append_right _ mem)
    refine ⟨_, placed, ?_⟩
    rw [(object_deleted_iff disk ofMode ofType (dated last.1.2) (by rw [pathed, isId]) placed
      object there).1, isId, own_listed_iff (dated _) (dated _) kinds placed' names]
  have foreign : ∀ o ∈ others, ∀ path, st.uploadPath cfg o.key = .ok path →
      (deleteStorageObjects cfg (listedBy cfg walk) s'.files t path = s'.files path ↔
        ¬(st ≠ .localStorage "" ∧
          Text.hasPrefix (keyPrefix task.clusterCode (e.date last.1.2) task.id)
            (Text.join '/' (st.below cfg o.code)) = true)) := by
    intro o mem path placed
    obtain ⟨other, ⟨gvr, kinds⟩, day, path', placed', there⟩ := stand o mem
    obtain rfl := Except.ok.inj (placed.symm.trans placed')
    have object := getLast?_placed day kinds placed t.id
    obtain ⟨⟨rest, rfl⟩, -⟩ := placed_at day kinds placed
    have names := fun seg mem => disk.names _ ((disk.mem _).2 there) seg
      (List.mem_append_right _ mem)
    rw [(object_deleted_iff disk ofMode ofType (dated last.1.2) (by rw [pathed, isId]) placed
      object there).2, isId, other_listed_iff (dated _) day other kinds placed names]
  constructor
  · rintro ⟨gone, spared⟩
    obtain ⟨path, placed, iff_⟩ := own last lastMem
    obtain ⟨named, code, -⟩ := iff_.1 (gone last lastMem path placed)
    refine ⟨named, code, e.date last.1.2, fun put mem => ?_, fun o mem => ?_⟩
    · obtain ⟨path, placed, iff_⟩ := own put mem
      exact (iff_.1 (gone put mem path placed)).2.2
    · obtain ⟨-, -, -, path, placed, -⟩ := stand o mem
      have clear := (foreign o mem path placed).1 (spared o mem path placed)
      rw [Bool.eq_false_iff]
      exact fun begins => clear ⟨named, begins⟩
  · rintro ⟨named, code, date, ofDay, clear⟩
    obtain rfl := ofDay last lastMem
    refine ⟨fun put mem path placed => ?_, fun o mem path placed => ?_⟩
    · obtain ⟨path', placed', iff_⟩ := own put mem
      obtain rfl := Except.ok.inj (placed.symm.trans placed')
      exact iff_.2 ⟨named, code, ofDay put mem⟩
    · apply (foreign o mem path placed).2
      rintro ⟨_, begins⟩
      rw [clear o mem] at begins
      cases begins

/-- A worker that finds two objects and uploads them on these days. -/
def uploadsOn (first second : String) : Environment :=
  { answering with
    list := fun _ _ => .ok ["a", "b"]
    date := fun n => if n = 0 then first else second }

def configMapBatch : BackupTask := { batchTask "ConfigMap" with status := .running }

def batchStore : Store :=
  { Store.empty with
    tasks := [configMapBatch], lastId := 1
    payloads := fun _ => some ⟨"default", "ConfigMap", "prod", "dev"⟩ }

/-- Where the n-th object of the batch lies, and where that of another task does. -/
def batchPath (date name : String) : List String := ["data", "backups", "prod", date, name]

def batchUploads (first second : String) : List ((PlanItem × Nat) × Upload) :=
  batchStored localOnly (uploadsOn first second) configMapBatch (.localStorage "/data/backups")
    (batchPlan (uploadsOn first second) configMapBatch ⟨"default", "ConfigMap", "prod", "dev"⟩)

def batchDone (first second : String) : BatchRun :=
  doBackupNamespaceBatch localOnly (uploadsOn first second) batchStore configMapBatch

/-- The object of the next task. -/
def nextObject : TaskObject := ⟨2, none, "prod", "20260101", "ConfigMap", "a"⟩

/-- The store after the batch and a single backup. -/
def bothDone (first second : String) : Store :=
  { (batchDone first second).store with
    files := Function.update (batchDone first second).store.files
      (batchPath "20260101" "2_ConfigMap_a.yaml") (some "kind: ConfigMap") }

def bothWalk (first second : String) : List (List String) :=
  [batchPath first "1-00001_ConfigMap_a.yaml", batchPath second "1-00002_ConfigMap_b.yaml",
   batchPath "20260101" "2_ConfigMap_a.yaml"]

theorem onDisk_bothDone (first second : String)
    (files : (batchDone first second).store.files = Function.update (Function.update (fun _ => none)
      (batchPath first "1-00001_ConfigMap_a.yaml") (some "kind: ConfigMap"))
      (batchPath second "1-00002_ConfigMap_b.yaml") (some "kind: ConfigMap"))
    (names : ∀ path ∈ bothWalk first second, ∀ seg ∈ path, Plain seg ∧ '/' ∉ seg.toList) :
    OnDisk (bothDone first second).files (bothWalk first second) := by
  refine ⟨fun path => ?_, names⟩
  simp only [bothDone, files, bothWalk, List.mem_cons, List.not_mem_nil, or_false,
    Function.update_apply]
  split
  · simp_all
  · split
    · simp_all
    · split <;> simp_all

/-- The first object is of the day before; the deletion does not find it. -/
theorem midnight_batch_stays :
    (batchDone "20260101" "20260102").result.isOk = true ∧
      OnDisk (bothDone "20260101" "20260102").files (bothWalk "20260101" "20260102") ∧
      ¬BatchGone localOnly (.localStorage "/data/backups") (batchUploads "20260101" "20260102")
        (delete localOnly healthy (listedBy localOnly (bothWalk "20260101" "20260102"))
          (bothDone "20260101" "20260102") 1).1.files := by
  refine ⟨by decide, onDisk_bothDone _ _ rfl (by unfold Plain; decide), fun gone => ?_⟩
  have emptied := gone
    ((⟨"default", ("ConfigMap", ⟨"", "v1", "configmaps"⟩), "a"⟩, 0),
      ⟨"local", "prod/20260101/1-00001_ConfigMap_a.yaml", "kind: ConfigMap"⟩) (by decide)
    (batchPath "20260101" "1-00001_ConfigMap_a.yaml") (by decide)
  revert emptied
  decide

/-- A batch of one day is gone, and the object of the next task is not. -/
theorem batch_deleted_of_day :
    BatchGone localOnly (.localStorage "/data/backups") (batchUploads "20260101" "20260101")
        (delete localOnly healthy (listedBy localOnly (bothWalk "20260101" "20260101"))
          (bothDone "20260101" "20260101") 1).1.files ∧
      Spared localOnly (.localStorage "/data/backups") {nextObject}
        (bothDone "20260101" "20260101").files
        (delete localOnly healthy (listedBy localOnly (bothWalk "20260101" "20260101"))
          (bothDone "20260101" "20260101") 1).1.files := by
  have stored : batchUploads "20260101" "20260101" =
      [((⟨"default", ("ConfigMap", ⟨"", "v1", "configmaps"⟩), "a"⟩, 0),
        ⟨"local", "prod/20260101/1-00001_ConfigMap_a.yaml", "kind: ConfigMap"⟩),
       ((⟨"default", ("ConfigMap", ⟨"", "v1", "configmaps"⟩), "b"⟩, 1),
        ⟨"local", "prod/20260101/1-00002_ConfigMap_b.yaml", "kind: ConfigMap"⟩)] := by
    decide
  have disk := onDisk_bothDone "20260101" "20260101" rfl (by unfold Plain; decide)
  have day : IsDate "20260101" := ⟨by decide, List.all_eq_true.1 (by decide)⟩
  have first : (Storage.localStorage "/data/backups").uploadPath localOnly
      "prod/20260101/1-00001_ConfigMap_a.yaml" =
        .ok (batchPath "20260101" "1-00001_ConfigMap_a.yaml") := by
    decide
  have second : (Storage.localStorage "/data/backups").uploadPath localOnly
      "prod/20260101/1-00002_ConfigMap_b.yaml" =
        .ok (batchPath "20260101" "1-00002_ConfigMap_b.yaml") := by
    decide
  refine (batch_deleted_iff localOnly (uploadsOn "20260101" "20260101") healthy batchStore
    (bothDone "20260101" "20260101") configMapBatch ⟨"default", "ConfigMap", "prod", "dev"⟩
    (.localStorage "/data/backups") (bothWalk "20260101" "20260101") {nextObject} (fun n => ?_)
    (by decide) rfl rfl rfl rfl rfl rfl (fun put mem path placed => ?_) (fun o mem => ?_) disk
    rfl).2 ⟨by decide, ⟨by unfold Plain; decide, by decide⟩, "20260101", fun put mem => ?_,
      fun o mem => ?_⟩
  · simp only [uploadsOn]
    split <;> exact day
  · change put ∈ batchUploads "20260101" "20260101" at mem
    rw [stored] at mem
    simp only [List.mem_cons, List.not_mem_nil, or_false] at mem
    obtain rfl | rfl := mem
    · obtain rfl := Except.ok.inj (first.symm.trans placed)
      decide
    · obtain rfl := Except.ok.inj (second.symm.trans placed)
      decide
  · obtain rfl := mem
    exact ⟨by decide, ⟨_, rfl⟩, day, batchPath "20260101" "2_ConfigMap_a.yaml", by decide,
      by decide⟩
  · simp only [uploadsOn]
    split <;> rfl
  · obtain rfl := mem
    decide

end K8sPlatform.Backup
