import K8sPlatform.Lib.PathText
import K8sPlatform.Backup.Storage

/-! # Keys do not leave the base directory

`safeJoin` as it works on texts, where the base directory is found by comparing the beginning of
the path with it. -/

namespace K8sPlatform.Backup

open FilePath

/-- A cleaned key as `safeJoin` takes it below the base directory. -/
def relKeyText (key : String) : String :=
  if isAbs (cleanText key) then relRoot (cleanText key) else cleanText key

def safeJoinText (cwd : List String) (baseDir key : String) : Except String String :=
  let rel := relKeyText key
  -- two bytes of the key are compared with three
  if rel = ".." ∨ (2 ≤ rel.utf8ByteSize ∧ rel.toList.take 2 = "../".toList) then
    .error ("storage key " ++ Text.quote key ++ " 非法：不允许 .. 路径穿越")
  else
    let full := joinText baseDir rel
    let baseAbs := absText cwd baseDir
    let fullAbs := absText cwd full
    let pre := if baseAbs.toList.getLast? ≠ some '/' then baseAbs ++ "/" else baseAbs
    if fullAbs ≠ baseAbs ∧
        ¬(pre.utf8ByteSize < fullAbs.utf8ByteSize ∧ Text.hasPrefix pre fullAbs = true) then
      .error ("storage key " ++ Text.quote key ++ " 解析后路径 " ++ fullAbs ++ " 越过 base_dir")
    else .ok fullAbs

theorem relKeyText_eq (key : String) :
    relKeyText key = if clean key = [] then "." else Text.join '/' (clean key) := by
  unfold relKeyText
  cases rooted : isAbs key with
  | true =>
      rw [cleanText, if_pos rooted, if_pos (isAbs_rootText _), relRoot]
      by_cases empty : clean key = []
      · rw [empty]
        rfl
      · have pieces := split_rootText empty slash_not_mem_clean
        have other : rootText (clean key) ≠ "/" := by
          intro root
          have slash : Text.split '/' "/" = ["", ""] := by decide
          rw [root, slash] at pieces
          have last := (List.cons.inj pieces).2
          exact (clean_named "" (last ▸ List.mem_singleton_self "")).1 rfl
        rw [if_neg other, if_neg empty]
        apply String.toList_inj.1
        simp [rootText]
  | false =>
      have relative : isAbs (cleanText key) = false := by
        rw [cleanText, rooted, if_neg Bool.false_ne_true]
        split
        · decide
        · exact isAbs_join_clean key
      rw [relative, if_neg Bool.false_ne_true, cleanText, rooted, if_neg Bool.false_ne_true]

/-- The key climbs out when its first component does. -/
theorem climbsOut_relKeyText (key : String) :
    climbsOut (relKeyText key) = true ↔ (clean key).head? = some ".." := by
  rw [relKeyText_eq]
  split
  · rename_i empty
    rw [empty]
    decide
  · exact climbsOut_join slash_not_mem_clean

theorem relKeyText_ne_empty (key : String) : relKeyText key ≠ "" := by
  rw [relKeyText_eq]
  split
  · decide
  · rename_i some_
    exact join_ne_empty some_ fun seg mem =>
      ⟨(clean_named seg mem).1, slash_not_mem_clean seg mem⟩

theorem isAbs_relKeyText (key : String) : isAbs (relKeyText key) = false := by
  rw [relKeyText_eq]
  split
  · decide
  · exact isAbs_join_clean key

theorem follow_relKeyText (dir : List String) (key : String) :
    follow dir (Text.split '/' (relKeyText key)) = follow dir (clean key) := by
  rw [relKeyText_eq]
  split
  · rename_i empty
    have pieces : Text.split '/' "." = ["."] := by decide
    rw [pieces, empty]
    simp [follow, push]
  · rename_i some_
    rw [Text.split_join_of_not_mem some_ slash_not_mem_clean]

/-- The first check only finds the key that climbs one step. -/
theorem rejected_iff (key : String) :
    relKeyText key = ".." ∨ (2 ≤ (relKeyText key).utf8ByteSize ∧
        (relKeyText key).toList.take 2 = "../".toList) ↔ clean key = [".."] := by
  have never : ¬(relKeyText key).toList.take 2 = "../".toList := by
    intro eq
    have lengths := congrArg List.length eq
    rw [List.length_take] at lengths
    have three : "../".toList.length = 3 := by decide
    omega
  rw [or_iff_left fun both => never both.2, relKeyText_eq]
  constructor
  · intro up
    split at up
    · exact absurd up (by decide)
    · rename_i some_
      have pieces := Text.split_join_of_not_mem some_ slash_not_mem_clean
      have single : Text.split '/' ".." = [".."] := by decide
      rw [up, single] at pieces
      exact pieces.symm
  · intro up
    rw [up]
    rfl

/-- The comparison of texts finds what lies below the base directory. -/
theorem below_iff {dir path : List String} (ofDir : Names dir) (ofPath : Names path) :
    (rootText path ≠ rootText dir ∧
        ¬((if (rootText dir).toList.getLast? ≠ some '/' then rootText dir ++ "/"
            else rootText dir).utf8ByteSize < (rootText path).utf8ByteSize ∧
          Text.hasPrefix (if (rootText dir).toList.getLast? ≠ some '/' then rootText dir ++ "/"
            else rootText dir) (rootText path) = true)) ↔ ¬dir <+: path := by
  rw [← not_iff_not, not_and_or, not_not, not_not, not_not]
  have longer (pre rest : String) (some_ : rest ≠ "") :
      pre.utf8ByteSize < (pre ++ rest).utf8ByteSize := by
    have positive : rest.utf8ByteSize ≠ 0 := fun zero =>
      some_ (String.utf8ByteSize_eq_zero_iff.1 zero)
    rw [String.utf8ByteSize_append]
    omega
  have ends := rootText_ends ofDir
  by_cases root : dir = []
  · subst root
    rw [if_neg (not_not.2 (ends.2 rfl))]
    apply iff_of_true _ List.nil_prefix
    by_cases same : path = []
    · exact .inl (congrArg rootText same)
    · refine .inr ⟨?_, Text.hasPrefix_iff.2 ⟨Text.join '/' path, rfl⟩⟩
      exact longer _ _ (join_ne_empty same fun seg mem => (ofPath seg mem).imp_left And.left)
  · rw [if_pos fun slash => root (ends.1 slash)]
    constructor
    · rintro (same | ⟨-, begins⟩)
      · have eq := congrArg clean same
        rw [clean_rootText ofPath, clean_rootText ofDir] at eq
        exact eq ▸ List.prefix_refl dir
      · obtain ⟨seg, rest, rfl⟩ := (hasPrefix_rootText_iff ofDir ofPath root).1 begins
        exact List.prefix_append _ _
    · rintro ⟨below, rfl⟩
      cases below with
      | nil => exact .inl (by rw [List.append_nil])
      | cons seg rest =>
          have begins := (hasPrefix_rootText_iff ofDir ofPath root).2 ⟨seg, rest, rfl⟩
          refine .inr ⟨?_, begins⟩
          obtain ⟨tail, eq⟩ := Text.hasPrefix_iff.1 begins
          rw [eq]
          apply longer
          rintro rfl
          rw [String.append_empty] at eq
          have last := rootText_ends ofPath
          rw [eq] at last
          simp at last

theorem intercalate_eq_join (segs : List String) : "/".intercalate segs = Text.join '/' segs := by
  induction segs with
  | nil => rfl
  | cons seg rest ih =>
      cases rest with
      | nil => rfl
      | cons next rest =>
          rw [String.intercalate_cons_cons, ih]
          rfl

/-- On texts `safeJoin` gives the location that it gives on components. -/
theorem safeJoinText_eq {cwd : List String} {baseDir : String}
    (names : isAbs baseDir = true ∨ Names cwd) (key : String) :
    safeJoinText cwd baseDir key = (safeJoin cwd baseDir key).map rootText := by
  have ofBase := names_locate names
  have ofFull : Names (follow (locate cwd baseDir) (clean key)) :=
    names_follow ofBase slash_not_mem_clean
  have full : absText cwd (joinText baseDir (relKeyText key)) =
      rootText (follow (locate cwd baseDir) (clean key)) := by
    rw [absText_eq (names.imp_left fun rooted => isAbs_joinText rooted _),
      locate_joinText (relKeyText_ne_empty key) (isAbs_relKeyText key), follow_relKeyText]
  unfold safeJoinText safeJoin
  dsimp only
  rw [absText_eq names, full]
  simp only [rejected_iff, below_iff ofBase ofFull]
  split
  · rfl
  · by_cases below : locate cwd baseDir <+: follow (locate cwd baseDir) (clean key)
    · rw [if_neg (not_not.2 below), if_pos (List.isPrefixOf_iff_prefix.2 below)]
      rfl
    · rw [if_pos below, if_neg fun prefixed => below (List.isPrefixOf_iff_prefix.1 prefixed),
        intercalate_eq_join]
      simp only [Except.map, rootText, String.append_assoc]
      rfl

/-- Below an absolute base directory `safeJoin` fails or gives a clean path of the directory or of
something under it, and it takes every key that does not climb out. -/
theorem safeJoin_contained (cwd : List String) (baseDir key : String)
    (absolute : isAbs baseDir = true) :
    (∀ path, safeJoinText cwd baseDir key = .ok path →
        isAbs path = true ∧ cleanText path = path ∧ clean baseDir <+: clean path) ∧
      (climbsOut (relKeyText key) = false → ∃ path, safeJoinText cwd baseDir key = .ok path) := by
  rw [safeJoinText_eq (.inl absolute)]
  constructor
  · intro path joined
    cases located : safeJoin cwd baseDir key with
    | error err =>
        rw [located] at joined
        cases joined
    | ok segs =>
        rw [located] at joined
        obtain rfl := Except.ok.inj joined
        obtain ⟨-, below, landed⟩ := safeJoin_eq_ok.1 located
        have names : Names segs := by
          rw [landed]
          exact names_follow (names_locate (.inl absolute)) slash_not_mem_clean
        rw [locate_of_isAbs absolute] at below
        refine ⟨isAbs_rootText segs, cleanText_rootText names, ?_⟩
        rwa [clean_rootText names]
  · intro stays
    have head : (clean key).head? ≠ some ".." := fun up => by
      rw [(climbsOut_relKeyText key).2 up] at stays
      cases stays
    exact ⟨_, by rw [safeJoin_of_clean head]; rfl⟩

theorem safeJoin_contained_prod :
    ∃ path, safeJoinText [] "/data/backups/" "/prod//../prod/1.yaml" = .ok path ∧
      isAbs path = true ∧ cleanText path = path ∧ clean "/data/backups/" <+: clean path := by
  obtain ⟨sound, accepts⟩ :=
    safeJoin_contained [] "/data/backups/" "/prod//../prod/1.yaml" (by decide)
  obtain ⟨path, joined⟩ := accepts (by decide +kernel)
  exact ⟨path, joined, sound path joined⟩

end K8sPlatform.Backup
