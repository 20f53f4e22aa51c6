import Mathlib.Data.List.DropRight
import Mathlib.Data.String.Basic

/-! # Splitting, joining and prefixes of strings, by way of their characters -/

namespace Text

def hasPrefix (pre s : String) : Bool :=
  pre.toList.isPrefixOf s.toList

theorem hasPrefix_iff {pre s : String} :
    hasPrefix pre s = true ↔ ∃ rest, s = pre ++ rest := by
  simp only [hasPrefix, List.isPrefixOf_iff_prefix]
  constructor
  · rintro ⟨tail, h⟩
    exact ⟨String.ofList tail, String.toList_inj.1 (by simp [h])⟩
  · rintro ⟨rest, rfl⟩
    exact ⟨rest.toList, by simp⟩

def hasInfix (inner s : String) : Bool := s.toList.tails.any fun t => inner.toList.isPrefixOf t

/-- Splits at every occurrence of `sep`; the empty string gives one empty piece. -/
def split (sep : Char) (s : String) : List String :=
  (s.toList.splitOn sep).map String.ofList

def join (sep : Char) : List String → String
  | [] => ""
  | [x] => x
  | x :: y :: rest => x ++ String.singleton sep ++ join sep (y :: rest)

theorem split_ne_nil (sep : Char) (s : String) : split sep s ≠ [] := by
  simp [split]

theorem split_append_sep (sep : Char) (s t : String) :
    split sep (s ++ String.singleton sep ++ t) = split sep s ++ split sep t := by
  simp [split, List.splitOn_append_cons_self]

/-- Splitting what was joined gives the pieces of the elements, in order. -/
theorem split_join (sep : Char) {xs : List String} (h : xs ≠ []) :
    split sep (join sep xs) = xs.flatMap (split sep) := by
  induction xs with
  | nil => exact absurd rfl h
  | cons x rest ih =>
      cases rest with
      | nil => simp [join]
      | cons y rest => simp only [join, split_append_sep, ih (by simp), List.flatMap_cons]

theorem split_of_not_mem {sep : Char} {s : String} (h : sep ∉ s.toList) :
    split sep s = [s] := by
  simp [split, List.splitOn_eq_singleton h]

theorem map_toList_split (sep : Char) (s : String) :
    (split sep s).map String.toList = s.toList.splitOn sep := by
  rw [split, List.map_map]
  exact List.map_id'' (fun cs => String.toList_ofList) _

theorem toList_join (sep : Char) (xs : List String) :
    (join sep xs).toList = [sep].intercalate (xs.map String.toList) := by
  induction xs with
  | nil => rfl
  | cons x rest ih =>
      cases rest with
      | nil => simp [join]
      | cons y rest => simp [join, ih]

/-- The pieces of a string join to it again. -/
theorem join_split (sep : Char) (s : String) : join sep (split sep s) = s := by
  apply String.toList_inj.1
  rw [toList_join, map_toList_split, List.intercalate_splitOn]

theorem eq_of_split_eq {sep : Char} {s piece : String} (h : split sep s = [piece]) :
    s = piece := by
  have joined : [sep].intercalate (s.toList.splitOn sep) = s.toList :=
    List.intercalate_splitOn ..
  rw [← map_toList_split, h] at joined
  exact String.toList_inj.1 (by simpa using joined.symm)

/-- Pieces without a separator come back from their join. -/
theorem split_join_of_not_mem {sep : Char} {xs : List String} (h : xs ≠ [])
    (plain : ∀ x ∈ xs, sep ∉ x.toList) : split sep (join sep xs) = xs := by
  have each : xs.flatMap (split sep) = xs.flatMap fun x => [x] :=
    List.flatMap_congr fun x mem => split_of_not_mem (plain x mem)
  rw [split_join sep h, each, List.flatMap_singleton']

theorem not_mem_of_mem_splitOn {sep : Char} {cs piece : List Char}
    (mem : piece ∈ cs.splitOn sep) : sep ∉ piece := by
  induction cs generalizing piece with
  | nil =>
      obtain rfl := List.mem_singleton.1 mem
      exact List.not_mem_nil
  | cons c cs ih =>
      rw [List.splitOn_cons_eq_if_modifyHead] at mem
      split at mem
      · obtain rfl | old := List.mem_cons.1 mem
        · exact List.not_mem_nil
        · exact ih old
      · rename_i other
        cases pieces : cs.splitOn sep with
        | nil => exact absurd pieces (List.splitOn_ne_nil sep cs)
        | cons first rest =>
            rw [pieces, List.modifyHead_cons] at mem
            obtain rfl | old := List.mem_cons.1 mem
            · have plain : sep ∉ first := ih (pieces ▸ List.mem_cons_self)
              simp only [List.mem_cons, not_or]
              exact ⟨fun eq => other (by simp [eq]), plain⟩
            · exact ih (pieces ▸ List.mem_cons_of_mem _ old)

theorem not_mem_of_mem_split {sep : Char} {s piece : String} (mem : piece ∈ split sep s) :
    sep ∉ piece.toList := by
  obtain ⟨chars, memChars, rfl⟩ := List.mem_map.1 mem
  rw [String.toList_ofList]
  exact not_mem_of_mem_splitOn memChars

theorem length_split (sep : Char) (s : String) :
    (split sep s).length = s.toList.count sep + 1 := by
  rw [split, List.length_map]
  induction s.toList with
  | nil => rfl
  | cons c cs ih =>
      rw [List.splitOn_cons_eq_if_modifyHead, List.count_cons]
      split
      · rw [List.length_cons, ih]
      · rw [List.length_modifyHead, ih, Nat.add_zero]

/-- A list begins with another when its pieces begin with the pieces of the other, the last of
which may be the beginning of a piece. -/
theorem prefix_iff_splitOn (sep : Char) {p r : List Char} :
    p <+: r ↔ ∃ front stub seg rest, p.splitOn sep = front ++ [stub] ∧
      r.splitOn sep = front ++ seg :: rest ∧ stub <+: seg := by
  constructor
  · intro h
    induction p generalizing r with
    | nil =>
        cases pieces : r.splitOn sep with
        | nil => exact absurd pieces (List.splitOn_ne_nil sep r)
        | cons seg rest => exact ⟨[], [], seg, rest, rfl, rfl, List.nil_prefix⟩
    | cons c p ih =>
        obtain ⟨r, rfl, tail⟩ := List.cons_prefix_iff.1 h
        obtain ⟨front, stub, seg, rest, ofP, ofR, begins⟩ := ih tail
        rw [List.splitOn_cons_eq_if_modifyHead, List.splitOn_cons_eq_if_modifyHead, ofP, ofR]
        by_cases same : (c == sep) = true
        · rw [if_pos same, if_pos same]
          exact ⟨[] :: front, stub, seg, rest, rfl, rfl, begins⟩
        · rw [if_neg same, if_neg same]
          cases front with
          | nil =>
              have begins' : c :: stub <+: c :: seg := List.cons_prefix_cons.2 ⟨rfl, begins⟩
              exact ⟨[], c :: stub, c :: seg, rest, rfl, rfl, begins'⟩
          | cons first front => exact ⟨(c :: first) :: front, stub, seg, rest, rfl, rfl, begins⟩
  · rintro ⟨front, stub, seg, rest, ofP, ofR, begins⟩
    have joined : [sep].intercalate (front ++ [stub]) <+:
        [sep].intercalate (front ++ seg :: rest) := by
      clear ofP ofR
      induction front with
      | nil =>
          rw [List.nil_append, List.nil_append, List.intercalate_singleton]
          cases rest with
          | nil => exact List.intercalate_singleton ▸ begins
          | cons next rest =>
              rw [List.intercalate_cons_cons, List.append_assoc]
              exact begins.trans (List.prefix_append _ _)
      | cons first front ih =>
          rw [List.cons_append, List.cons_append, List.intercalate_cons_of_ne_nil (by simp),
            List.intercalate_cons_of_ne_nil (by simp)]
          exact (List.prefix_append_right_inj _).2 ih
    rwa [← ofP, ← ofR, List.intercalate_splitOn, List.intercalate_splitOn] at joined

theorem hasPrefix_iff_split (sep : Char) {pre s : String} :
    hasPrefix pre s = true ↔ ∃ front stub seg rest, split sep pre = front ++ [stub] ∧
      split sep s = front ++ seg :: rest ∧ hasPrefix stub seg = true := by
  rw [hasPrefix, List.isPrefixOf_iff_prefix, prefix_iff_splitOn sep]
  constructor
  · rintro ⟨front, stub, seg, rest, ofPre, ofS, begins⟩
    refine ⟨front.map String.ofList, String.ofList stub, String.ofList seg,
      rest.map String.ofList, ?_, ?_, ?_⟩
    · rw [split, ofPre, List.map_append, List.map_singleton]
    · rw [split, ofS, List.map_append, List.map_cons]
    · rwa [hasPrefix, String.toList_ofList, String.toList_ofList, List.isPrefixOf_iff_prefix]
  · rintro ⟨front, stub, seg, rest, ofPre, ofS, begins⟩
    refine ⟨front.map String.toList, stub.toList, seg.toList, rest.map String.toList, ?_, ?_, ?_⟩
    · rw [← map_toList_split, ofPre, List.map_append, List.map_singleton]
    · rw [← map_toList_split, ofS, List.map_append, List.map_cons]
    · rwa [hasPrefix, List.isPrefixOf_iff_prefix] at begins

theorem join_concat_append (sep : Char) (front : List String) (last t : String) :
    join sep (front ++ [last ++ t]) = join sep (front ++ [last]) ++ t := by
  induction front with
  | nil => rfl
  | cons x front ih =>
      cases front with
      | nil =>
          change x ++ String.singleton sep ++ (last ++ t) = x ++ String.singleton sep ++ last ++ t
          simp only [String.append_assoc]
      | cons y front =>
          change x ++ String.singleton sep ++ join sep (y :: front ++ [last ++ t]) =
            x ++ String.singleton sep ++ join sep (y :: front ++ [last]) ++ t
          rw [ih]
          simp only [String.append_assoc]

theorem join_concat (sep : Char) (front : List String) (last : String) :
    ∃ s, join sep (front ++ [last]) = s ++ last := by
  refine ⟨join sep (front ++ [""]), ?_⟩
  rw [← join_concat_append, String.empty_append]

/-- What has no separator in it goes behind the last piece. -/
theorem split_append_last {sep : Char} {s t stub : String} {front : List String}
    (pieces : split sep s = front ++ [stub]) (plain : sep ∉ t.toList) :
    split sep (s ++ t) = front ++ [stub ++ t] := by
  have joined : s ++ t = join sep (front ++ [stub ++ t]) := by
    rw [join_concat_append, ← pieces, join_split]
  have ofPieces {piece : String} (mem : piece ∈ front ++ [stub]) : sep ∉ piece.toList :=
    not_mem_of_mem_split (pieces ▸ mem)
  rw [joined]
  apply split_join_of_not_mem (by simp)
  intro piece mem
  obtain old | new := List.mem_append.1 mem
  · exact ofPieces (List.mem_append_left _ old)
  · rw [List.mem_singleton.1 new, String.toList_append, List.mem_append, not_or]
    exact ⟨ofPieces (List.mem_append_right _ (List.mem_singleton_self stub)), plain⟩

theorem split_append_of_not_mem {sep : Char} (s : String) {t : String} (plain : sep ∉ t.toList) :
    ∃ front stub, split sep (s ++ t) = front ++ [stub ++ t] := by
  obtain none_ | ⟨front, stub, pieces⟩ := List.eq_nil_or_concat' (split sep s)
  · exact absurd none_ (split_ne_nil sep s)
  · exact ⟨front, stub, split_append_last pieces plain⟩

theorem digits_inj {m n : Nat} (h : Nat.toDigits 10 m = Nat.toDigits 10 n) : m = n := by
  have values := congrArg (fun cs => Nat.ofDigitChars 10 cs 0) h
  simpa only [Nat.ofDigitChars_ten_toDigits] using values

/-- A decimal number has no other characters than digits. -/
theorem not_mem_digits {c : Char} (other : c.isDigit = false) (n : Nat) :
    c ∉ Nat.toDigits 10 n := by
  intro mem
  rw [Nat.isDigit_of_mem_toDigits (by decide) (by decide) mem] at other
  cases other

/-- Unicode white space. -/
def isSpace (c : Char) : Bool :=
  let n := c.toNat
  (9 ≤ n && n ≤ 13) || n == 0x20 || n == 0x85 || n == 0xA0 || n == 0x1680 ||
    (0x2000 ≤ n && n ≤ 0x200A) || n == 0x2028 || n == 0x2029 || n == 0x202F || n == 0x205F ||
    n == 0x3000

def trimSpace (s : String) : String :=
  String.ofList ((s.toList.dropWhile isSpace).rdropWhile isSpace)

/-- The text before and after the first `sep`. -/
def cut (sep : Char) (s : String) : Option (String × String) :=
  if sep ∈ s.toList then
    some (String.ofList (s.toList.takeWhile (· ≠ sep)),
      String.ofList ((s.toList.dropWhile (· ≠ sep)).drop 1))
  else none

def cutPrefix (pre s : String) : Option String :=
  if hasPrefix pre s then some (String.ofList (s.toList.drop pre.toList.length)) else none

/-- The longest text that `n` bytes of UTF-8 hold; `none` when they end inside a character. -/
def truncateBytes : Nat → List Char → Option (List Char)
  | _, [] => some []
  | n, c :: cs =>
      if n = 0 then some []
      else if c.utf8Size ≤ n then (truncateBytes (n - c.utf8Size) cs).map (c :: ·)
      else none

def utf8 (cs : List Char) : List UInt8 := cs.flatMap String.utf8EncodeChar

def hexDigit (n : Nat) : Char := "0123456789abcdef".toList.getD n '0'

/-- A quoted string, `%q`; what is not ASCII is taken to be printable. -/
def quote (s : String) : String :=
  let escape (c : Char) : List Char :=
    match c with
    | '"' => ['\\', '"']
    | '\\' => ['\\', '\\']
    | '\n' => ['\\', 'n']
    | '\r' => ['\\', 'r']
    | '\t' => ['\\', 't']
    | c =>
        if c.toNat = 7 then ['\\', 'a'] else if c.toNat = 8 then ['\\', 'b']
        else if c.toNat = 11 then ['\\', 'v'] else if c.toNat = 12 then ['\\', 'f']
        else if c.toNat < 0x20 ∨ c.toNat = 0x7F then
          ['\\', 'x', hexDigit (c.toNat / 16), hexDigit (c.toNat % 16)]
        else [c]
  String.ofList ('"' :: s.toList.flatMap escape ++ ['"'])

/-- Lower case, as far as comparison with an ASCII word can see: besides A to Z, only the
Kelvin sign and the dotted capital I have an ASCII letter below them. -/
def toLower (s : String) : String :=
  String.ofList (s.toList.map fun c =>
    if c.toNat = 0x212A then 'k' else if c.toNat = 0x130 then 'i' else c.toLower)

/-- The text under simple case folding, as far as comparison with an ASCII text can see: the Kelvin
sign folds to k and the long s to s. -/
def foldCase (s : String) : List Char :=
  s.toList.map fun c =>
    if c.toNat = 0x212A then 'k' else if c.toNat = 0x17F then 's' else c.toLower

/-- The text without the given characters at its end. -/
def trimRight (cutset : List Char) (s : String) : String :=
  String.ofList (s.toList.rdropWhile (· ∈ cutset))

end Text
