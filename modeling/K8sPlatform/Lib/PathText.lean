import K8sPlatform.Lib.FilePath

/-! # Paths as texts

What cleaning, joining and resolving give as texts, and which components these stand for. The
separator and the dot are the only characters looked at, so that a character may stand for a byte
as well. -/

namespace FilePath

/-- Components that name entries, as they stand between the slashes of a path. -/
def Names (segs : List String) : Prop := ∀ seg ∈ segs, Plain seg ∧ '/' ∉ seg.toList

/-- The rooted path with these components. -/
def rootText (segs : List String) : String := "/" ++ Text.join '/' segs

def cleanText (p : String) : String :=
  if isAbs p then rootText (clean p)
  else if clean p = [] then "." else Text.join '/' (clean p)

/-- Two paths one after the other; an empty one in front is left out. -/
def joinText (p q : String) : String :=
  if p ≠ "" then cleanText (p ++ "/" ++ q)
  else if q ≠ "" then cleanText q else ""

/-- The path as a process that works in `cwd` resolves it. -/
def absText (cwd : List String) (p : String) : String :=
  if isAbs p then cleanText p else joinText (rootText cwd) p

/-- A cleaned rooted path, relative to the root. -/
def relRoot (p : String) : String :=
  if p = "/" then "." else String.ofList (p.toList.drop 1)

/-- The path leaves the directory that it starts in. -/
def climbsOut (p : String) : Bool := p == ".." || Text.hasPrefix "../" p

theorem split_slash (p q : String) :
    Text.split '/' (p ++ "/" ++ q) = Text.split '/' p ++ Text.split '/' q :=
  Text.split_append_sep '/' p q

theorem split_rootText {segs : List String} (some_ : segs ≠ [])
    (noSlash : ∀ seg ∈ segs, '/' ∉ seg.toList) : Text.split '/' (rootText segs) = "" :: segs := by
  have empty : Text.split '/' "" = [""] := by decide
  have front := split_slash "" (Text.join '/' segs)
  rw [String.empty_append, empty, Text.split_join_of_not_mem some_ noSlash] at front
  exact front

theorem isAbs_slash (p : String) : isAbs ("/" ++ p) = true :=
  Text.hasPrefix_iff.2 ⟨p, rfl⟩

theorem isAbs_rootText (segs : List String) : isAbs (rootText segs) = true := isAbs_slash _

theorem foldl_push_rootText {segs : List String} (names : Names segs) (stack : List String) :
    (Text.split '/' (rootText segs)).foldl (push true) stack = segs.reverse ++ stack := by
  by_cases empty : segs = []
  · subst empty
    have pieces : Text.split '/' (rootText []) = ["", ""] := by decide
    simp [pieces, push]
  · rw [split_rootText empty fun seg mem => (names seg mem).2, List.foldl_cons]
    have same : push true stack "" = stack := by simp [push]
    rw [same, foldl_push_plain fun seg mem => (names seg mem).1]

theorem clean_rootText {segs : List String} (names : Names segs) :
    clean (rootText segs) = segs := by
  rw [clean, isAbs_rootText, foldl_push_rootText names, List.append_nil, List.reverse_reverse]

theorem cleanText_rootText {segs : List String} (names : Names segs) :
    cleanText (rootText segs) = rootText segs := by
  rw [cleanText, if_pos (isAbs_rootText segs), clean_rootText names]

theorem names_push {stack : List String} {seg : String} (names : Names stack)
    (noSlash : '/' ∉ seg.toList) : Names (push true stack seg) := by
  have noUp : ".." ∉ push true stack seg := up_not_mem_push fun mem => (names ".." mem).1.2.2 rfl
  intro s mem
  obtain old | rfl := mem_of_mem_push mem
  · exact names s old
  · refine ⟨⟨?_, ?_, fun up => noUp (up ▸ mem)⟩, noSlash⟩
    · rintro rfl
      exact (names "" (by simpa [push] using mem)).1.1 rfl
    · rintro rfl
      exact (names "." (by simpa [push] using mem)).1.2.1 rfl

theorem names_follow {dir segs : List String} (names : Names dir)
    (noSlash : ∀ seg ∈ segs, '/' ∉ seg.toList) : Names (follow dir segs) := by
  have folded (stack : List String) (names : Names stack) :
      Names (segs.foldl (push true) stack) := by
    induction segs generalizing stack with
    | nil => exact names
    | cons seg segs ih =>
        exact ih (fun s mem => noSlash s (List.mem_cons_of_mem _ mem)) _
          (names_push names (noSlash seg List.mem_cons_self))
  intro seg mem
  exact folded _ (fun s mem => names s (List.mem_reverse.1 mem)) seg (List.mem_reverse.1 mem)

theorem names_locate {cwd : List String} {p : String} (names : isAbs p = true ∨ Names cwd) :
    Names (locate cwd p) := by
  refine names_follow ?_ fun seg mem => Text.not_mem_of_mem_split mem
  obtain rooted | names := names
  · rw [if_pos rooted]
    exact fun seg mem => absurd mem List.not_mem_nil
  · split
    · exact fun seg mem => absurd mem List.not_mem_nil
    · exact names

theorem locate_of_isAbs {p : String} (rooted : isAbs p = true) (cwd : List String) :
    locate cwd p = clean p := by
  rw [locate, if_pos rooted, follow, clean, rooted]
  rfl

/-! ## The operations -/

theorem isAbs_join {segs : List String} (named : segs.head? ≠ some "")
    (noSlash : ∀ seg ∈ segs, '/' ∉ seg.toList) : isAbs (Text.join '/' segs) = false := by
  by_cases empty : segs = []
  · subst empty
    decide
  rw [Bool.eq_false_iff]
  intro rooted
  obtain ⟨front, stub, seg, rest, ofSlash, ofJoin, -⟩ := (Text.hasPrefix_iff_split '/').1 rooted
  have slash : Text.split '/' "/" = [""] ++ [""] := by decide
  obtain ⟨rfl, -⟩ := List.append_inj' (slash.symm.trans ofSlash) rfl
  rw [Text.split_join_of_not_mem empty noSlash] at ofJoin
  exact named (by rw [ofJoin]; rfl)

theorem isAbs_join_clean (p : String) : isAbs (Text.join '/' (clean p)) = false :=
  isAbs_join (fun head => (clean_named "" (List.mem_of_head? head)).1 rfl) slash_not_mem_clean

theorem join_ne_empty {segs : List String} (some_ : segs ≠ [])
    (named : ∀ seg ∈ segs, seg ≠ "" ∧ '/' ∉ seg.toList) : Text.join '/' segs ≠ "" := by
  intro empty
  have pieces := Text.split_join_of_not_mem some_ fun seg mem => (named seg mem).2
  have none_ : Text.split '/' "" = [""] := by decide
  rw [empty, none_] at pieces
  exact (named "" (pieces ▸ List.mem_singleton_self "")).1 rfl

/-- A cleaned path leads where the path does. -/
theorem locate_cleanText {cwd : List String} (p : String) :
    locate cwd (cleanText p) = locate cwd p := by
  cases rooted : isAbs p with
  | true =>
      have names : Names (clean p) := fun seg mem =>
        ⟨clean_plain (head?_clean_of_isAbs rooted) seg mem, slash_not_mem_clean seg mem⟩
      rw [locate_of_isAbs rooted, cleanText, if_pos rooted, locate_of_isAbs (isAbs_rootText _),
        clean_rootText names]
  | false =>
      have landed : locate cwd p = follow cwd (clean p) := by
        rw [locate, rooted, if_neg Bool.false_ne_true, follow_clean cwd rooted]
      rw [landed, cleanText, if_neg (by simp [rooted])]
      split
      · rename_i empty
        have pieces : Text.split '/' "." = ["."] := by decide
        have dot : isAbs "." = false := by decide
        rw [locate, dot, if_neg Bool.false_ne_true, pieces, empty]
        simp [follow, push]
      · rename_i some_
        rw [locate, isAbs_join_clean, if_neg Bool.false_ne_true,
          Text.split_join_of_not_mem some_ slash_not_mem_clean]

theorem locate_joinText {cwd : List String} {p q : String} (some_ : q ≠ "")
    (relative : isAbs q = false) :
    locate cwd (joinText p q) = follow (locate cwd p) (Text.split '/' q) := by
  unfold joinText
  by_cases empty : p = ""
  · subst empty
    have nowhere : locate cwd "" = cwd := by
      have pieces : Text.split '/' "" = [""] := by decide
      have relative : isAbs "" = false := by decide
      simp [locate, relative, pieces, follow, push]
    rw [if_neg (by simp), if_pos some_, locate_cleanText, nowhere, locate, relative,
      if_neg Bool.false_ne_true]
  · have same : isAbs (p ++ "/" ++ q) = isAbs p := by
      rw [String.append_assoc, isAbs_append empty]
    rw [if_pos empty, locate_cleanText, locate, split_slash, follow_append, same, locate]

theorem absText_eq {cwd : List String} {p : String} (names : isAbs p = true ∨ Names cwd) :
    absText cwd p = rootText (locate cwd p) := by
  unfold absText
  cases rooted : isAbs p with
  | true => rw [if_pos rfl, cleanText, if_pos rooted, locate_of_isAbs rooted]
  | false =>
      have names := names.resolve_left (by simp [rooted])
      have some_ : rootText cwd ≠ "" := by simp [rootText]
      have absolute : isAbs (rootText cwd ++ "/" ++ p) = true := by
        rw [rootText, String.append_assoc, String.append_assoc]
        exact isAbs_slash _
      rw [if_neg Bool.false_ne_true, joinText, if_pos some_, cleanText, if_pos absolute, clean,
        absolute, split_slash, List.foldl_append, foldl_push_rootText names, List.append_nil,
        locate, rooted, if_neg Bool.false_ne_true, follow]

theorem isAbs_joinText {p : String} (rooted : isAbs p = true) (q : String) :
    isAbs (joinText p q) = true := by
  have some_ : p ≠ "" := by
    rintro rfl
    exact absurd rooted (by decide)
  have absolute : isAbs (p ++ "/" ++ q) = true := by
    rw [String.append_assoc, isAbs_append some_, rooted]
  rw [joinText, if_pos some_, cleanText, if_pos absolute]
  exact isAbs_rootText _

theorem climbsOut_join {segs : List String} (noSlash : ∀ seg ∈ segs, '/' ∉ seg.toList) :
    climbsOut (Text.join '/' segs) = true ↔ segs.head? = some ".." := by
  by_cases empty : segs = []
  · subst empty
    decide
  have pieces := Text.split_join_of_not_mem empty noSlash
  have up : Text.split '/' "../" = [".."] ++ [""] := by decide
  rw [climbsOut, Bool.or_eq_true, beq_iff_eq, Text.hasPrefix_iff_split '/', pieces]
  constructor
  · rintro (alone | ⟨front, stub, seg, rest, ofUp, rfl, -⟩)
    · have single : Text.split '/' ".." = [".."] := by decide
      rw [alone, single] at pieces
      rw [← pieces]
      rfl
    · obtain ⟨rfl, -⟩ := List.append_inj' (up.symm.trans ofUp) rfl
      rfl
  · intro head
    obtain ⟨rest, rfl⟩ := List.head?_eq_some_iff.1 head
    cases rest with
    | nil => exact .inl rfl
    | cons seg rest => exact .inr ⟨[".."], "", seg, rest, up, rfl, rfl⟩

/-- Only the root ends in a slash. -/
theorem rootText_ends {segs : List String} (names : Names segs) :
    (rootText segs).toList.getLast? = some '/' ↔ segs = [] := by
  constructor
  · intro last
    by_contra some_
    obtain ⟨cs, chars⟩ := List.getLast?_eq_some_iff.1 last
    have shape : rootText segs = String.ofList cs ++ "/" ++ "" :=
      String.toList_inj.1 (by simp [chars])
    have empty : Text.split '/' "" = [""] := by decide
    have pieces := split_rootText some_ fun seg mem => (names seg mem).2
    rw [shape, split_slash, empty] at pieces
    have lastPiece := congrArg List.getLast? pieces
    rw [List.getLast?_concat, List.getLast?_cons_of_ne_nil some_] at lastPiece
    exact (names "" (List.mem_of_getLast? lastPiece.symm)).1.1 rfl
  · rintro rfl
    rfl

/-- A text below a directory begins with the directory and a slash. -/
theorem hasPrefix_rootText_iff {dir segs : List String} (ofDir : Names dir) (ofSegs : Names segs)
    (some_ : dir ≠ []) :
    Text.hasPrefix (rootText dir ++ "/") (rootText segs) = true ↔
      ∃ seg rest, segs = dir ++ seg :: rest := by
  have empty : Text.split '/' "" = [""] := by decide
  have ofPrefix : Text.split '/' (rootText dir ++ "/") = ("" :: dir) ++ [""] := by
    have pieces := split_slash (rootText dir) ""
    rwa [String.append_empty, split_rootText some_ fun seg mem => (ofDir seg mem).2, empty]
      at pieces
  rw [Text.hasPrefix_iff_split '/']
  by_cases root : segs = []
  · subst root
    have pieces : Text.split '/' (rootText []) = ["", ""] := by decide
    rw [pieces]
    apply iff_of_false
    · rintro ⟨front, stub, seg, rest, ofPrefix', eq, -⟩
      obtain ⟨rfl, -⟩ := List.append_inj' (ofPrefix.symm.trans ofPrefix') rfl
      rw [List.cons_append, List.cons.injEq] at eq
      obtain ⟨first, above, rfl⟩ := List.exists_cons_of_ne_nil some_
      have named := (ofDir first List.mem_cons_self).1.1
      exact named (List.cons.inj eq.2).1.symm
    · rintro ⟨seg, rest, eq⟩
      simp at eq
  · rw [split_rootText root fun seg mem => (ofSegs seg mem).2]
    constructor
    · rintro ⟨front, stub, seg, rest, ofPrefix', eq, -⟩
      obtain ⟨rfl, -⟩ := List.append_inj' (ofPrefix.symm.trans ofPrefix') rfl
      exact ⟨seg, rest, (List.cons.inj eq).2⟩
    · rintro ⟨seg, rest, rfl⟩
      exact ⟨"" :: dir, "", seg, rest, ofPrefix, rfl, rfl⟩

end FilePath
