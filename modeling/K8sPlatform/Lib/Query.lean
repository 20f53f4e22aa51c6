import K8sPlatform.Lib.OrderedMap
import Mathlib.Data.List.DropRight
import Mathlib.Data.List.Sort

/-! # Query strings: names and values with percent escapes, between ampersands -/

namespace Query

abbrev Bytes := List UInt8

/-- The value of a hexadecimal digit. -/
def unhex (b : UInt8) : Option UInt8 :=
  if '0'.toUInt8 ≤ b ∧ b ≤ '9'.toUInt8 then some (b - '0'.toUInt8)
  else if 'a'.toUInt8 ≤ b ∧ b ≤ 'f'.toUInt8 then some (b - 'a'.toUInt8 + 10)
  else if 'A'.toUInt8 ≤ b ∧ b ≤ 'F'.toUInt8 then some (b - 'A'.toUInt8 + 10)
  else none

/-- `none` at a percent sign that has no two digits behind it. -/
def unescape : Bytes → Option Bytes
  | [] => some []
  | b :: rest =>
      if b = '%'.toUInt8 then
        match rest with
        | high :: low :: rest =>
            match unhex high, unhex low with
            | some h, some l => (unescape rest).map ((h * 16 + l) :: ·)
            | _, _ => none
        | _ => none
      else (unescape rest).map ((if b = '+'.toUInt8 then ' '.toUInt8 else b) :: ·)

def isUnreserved (b : UInt8) : Bool :=
  ('a'.toUInt8 ≤ b && b ≤ 'z'.toUInt8) || ('A'.toUInt8 ≤ b && b ≤ 'Z'.toUInt8) ||
    ('0'.toUInt8 ≤ b && b ≤ '9'.toUInt8) || b == '-'.toUInt8 || b == '_'.toUInt8 ||
    b == '.'.toUInt8 || b == '~'.toUInt8

def upperHex (n : UInt8) : UInt8 :=
  if n < 10 then '0'.toUInt8 + n else 'A'.toUInt8 + (n - 10)

def escapeByte (b : UInt8) : Bytes :=
  if isUnreserved b then [b]
  else if b = ' '.toUInt8 then ['+'.toUInt8]
  else ['%'.toUInt8, upperHex (b / 16), upperHex (b % 16)]

def escape (s : Bytes) : Bytes := s.flatMap escapeByte

theorem unhex_upperHex {n : UInt8} (digit : n < 16) : unhex (upperHex n) = some n := by
  have all : ∀ m < 16, unhex (upperHex (UInt8.ofNat m)) = some (UInt8.ofNat m) := by decide
  have found := all n.toNat (UInt8.lt_iff_toNat_lt.1 digit)
  rwa [UInt8.ofNat_toNat] at found

theorem byte_of_digits (b : UInt8) : b / 16 * 16 + b % 16 = b := by
  have small : b.toNat < 256 := b.toNat_lt
  apply UInt8.toNat.inj
  simp only [UInt8.toNat_add, UInt8.toNat_mul, UInt8.toNat_div, UInt8.toNat_mod,
    UInt8.reduceToNat]
  omega

theorem unescape_cons {b : UInt8} (plain : b ≠ '%'.toUInt8) (rest : Bytes) :
    unescape (b :: rest) =
      (unescape rest).map ((if b = '+'.toUInt8 then ' '.toUInt8 else b) :: ·) := by
  rcases rest with - | ⟨high, - | ⟨low, rest⟩⟩ <;> simp only [unescape, if_neg plain]

theorem unescape_escapeByte (b : UInt8) (rest : Bytes) :
    unescape (escapeByte b ++ rest) = (unescape rest).map (b :: ·) := by
  unfold escapeByte
  split_ifs with kept space
  · have notPercent : b ≠ '%'.toUInt8 := by
      rintro rfl
      revert kept
      decide
    have notPlus : b ≠ '+'.toUInt8 := by
      rintro rfl
      revert kept
      decide
    rw [List.singleton_append, unescape_cons notPercent, if_neg notPlus]
  · rw [List.singleton_append, unescape_cons (by decide), if_pos rfl, space]
  · have high : b / 16 < 16 := by
      rw [UInt8.lt_iff_toNat_lt, UInt8.toNat_div]
      have small : b.toNat < 256 := b.toNat_lt
      simp only [UInt8.reduceToNat]
      omega
    have low : b % 16 < 16 := by
      rw [UInt8.lt_iff_toNat_lt, UInt8.toNat_mod]
      exact Nat.mod_lt _ (by decide)
    simp only [List.cons_append, List.nil_append, unescape, if_true, unhex_upperHex high,
      unhex_upperHex low, byte_of_digits]

theorem unescape_escape (s : Bytes) : unescape (escape s) = some s := by
  induction s with
  | nil => rfl
  | cons b s ih =>
      have first : escape (b :: s) = escapeByte b ++ escape s := List.flatMap_cons
      rw [first, unescape_escapeByte, ih, Option.map_some]

/-- What is written is unreserved, a percent sign or a plus sign. -/
theorem mem_escape {c : UInt8} {s : Bytes} (mem : c ∈ escape s) :
    isUnreserved c ∨ c = '%'.toUInt8 ∨ c = '+'.toUInt8 := by
  obtain ⟨b, -, written⟩ := List.mem_flatMap.1 mem
  have digits : ∀ m < 16, isUnreserved (upperHex (UInt8.ofNat m)) = true := by decide
  have digit (n : UInt8) (small : n.toNat < 16) : isUnreserved (upperHex n) = true := by
    have found := digits n.toNat small
    rwa [UInt8.ofNat_toNat] at found
  unfold escapeByte at written
  split_ifs at written with kept space
  · rw [List.mem_singleton.1 written]
    exact .inl kept
  · exact .inr (.inr (List.mem_singleton.1 written))
  · rcases List.mem_cons.1 written with rfl | more
    · exact .inr (.inl rfl)
    · refine .inl ?_
      rcases List.mem_cons.1 more with rfl | last
      · apply digit _
        have small : b.toNat < 256 := b.toNat_lt
        rw [UInt8.toNat_div]
        simp only [UInt8.reduceToNat]
        omega
      · rw [List.mem_singleton.1 last]
        exact digit _ (by rw [UInt8.toNat_mod]; exact Nat.mod_lt _ (by decide))

theorem not_mem_escape {c : UInt8} (other : isUnreserved c = false) (percent : c ≠ '%'.toUInt8)
    (plus : c ≠ '+'.toUInt8) (s : Bytes) : c ∉ escape s := by
  intro mem
  rcases mem_escape mem with kept | rfl | rfl
  · rw [kept] at other
    cases other
  · exact percent rfl
  · exact plus rfl

/-! ## Reading -/

def pieces (raw : Bytes) : List Bytes := (raw.splitOn '&'.toUInt8).filter (· ≠ [])

/-- The name and the value of a piece; `none` when it is malformed. -/
def pair (piece : Bytes) : Option (Bytes × Bytes) :=
  if ';'.toUInt8 ∈ piece then none
  else do
    let name ← unescape (piece.takeWhile (· ≠ '='.toUInt8))
    let value ← unescape ((piece.dropWhile (· ≠ '='.toUInt8)).drop 1)
    return (name, value)

def pairs (raw : Bytes) : List (Bytes × Bytes) := (pieces raw).filterMap pair

/-- No piece is malformed. -/
def WellFormed (raw : Bytes) : Prop := ∀ piece ∈ pieces raw, (pair piece).isSome

instance (raw : Bytes) : Decidable (WellFormed raw) :=
  inferInstanceAs (Decidable (∀ piece ∈ pieces raw, _))

abbrev Values := OrderedMap Bytes (List Bytes)

def Values.list (m : Values) (name : Bytes) : List Bytes := (m.get? name).getD []

def Values.add (m : Values) (name value : Bytes) : Values := m.set name (m.list name ++ [value])

def parseStep (acc : Values × Bool) (piece : Bytes) : Values × Bool :=
  match pair piece with
  | some (name, value) => (acc.1.add name value, acc.2)
  | none => (acc.1, false)

/-- The values by name, without those of malformed pieces, and whether there was none of
these. -/
def parse (raw : Bytes) : Values × Bool := (pieces raw).foldl parseStep (.empty, true)

def named (name : Bytes) (p : Bytes × Bytes) : Option Bytes :=
  if p.1 = name then some p.2 else none

theorem Values.list_add (m : Values) (name value other : Bytes) :
    (m.add name value).list other = m.list other ++ (named other (name, value)).toList := by
  unfold Values.add Values.list named
  rw [OrderedMap.get?_set]
  by_cases same : other = name
  · subst same
    rw [if_pos rfl, if_pos rfl]
    rfl
  · rw [if_neg same, if_neg (Ne.symm same), Option.toList_none, List.append_nil]

theorem list_foldl (ps : List Bytes) (acc : Values × Bool) (name : Bytes) :
    (ps.foldl parseStep acc).1.list name =
      acc.1.list name ++ (ps.filterMap pair).filterMap (named name) := by
  induction ps generalizing acc with
  | nil => exact (List.append_nil _).symm
  | cons piece ps ih =>
      rw [List.foldl_cons, ih, parseStep]
      cases read : pair piece with
      | none => rw [List.filterMap_cons_none read]
      | some p =>
          rw [List.filterMap_cons_some read, Values.list_add, List.append_assoc]
          congr 1
          cases kept : named name p with
          | none => rw [List.filterMap_cons_none kept, Option.toList_none, List.nil_append]
          | some value => rw [List.filterMap_cons_some kept]; rfl

theorem list_parse (raw name : Bytes) :
    (parse raw).1.list name = (pairs raw).filterMap (named name) :=
  list_foldl (pieces raw) (.empty, true) name

theorem wellFormed_foldl (ps : List Bytes) (acc : Values × Bool) :
    (ps.foldl parseStep acc).2 = true ↔ acc.2 = true ∧ ∀ piece ∈ ps, (pair piece).isSome := by
  induction ps generalizing acc with
  | nil => simp
  | cons piece ps ih =>
      rw [List.foldl_cons, ih, List.forall_mem_cons, parseStep]
      cases read : pair piece with
      | none => simp
      | some p => simp

theorem wellFormed_iff {raw : Bytes} : (parse raw).2 = true ↔ WellFormed raw := by
  rw [parse, wellFormed_foldl]
  exact and_iff_right rfl

theorem mem_list_parse {raw name value : Bytes} :
    value ∈ (parse raw).1.list name ↔ (name, value) ∈ pairs raw := by
  rw [list_parse, List.mem_filterMap]
  constructor
  · rintro ⟨⟨name', value'⟩, mem, kept⟩
    unfold named at kept
    split_ifs at kept with same
    cases kept
    subst same
    exact mem
  · intro mem
    exact ⟨_, mem, if_pos rfl⟩

def before (a b : Bytes) : Bool := a.lex b fun x y => decide (x < y)

/-- The pairs in the order of their names. -/
def Values.pairs (m : Values) : List (Bytes × Bytes) :=
  ((m.entries.map Prod.fst).insertionSort (before · ·)).flatMap fun name =>
    (m.list name).map (Prod.mk name)

def encodePair (p : Bytes × Bytes) : Bytes := escape p.1 ++ '='.toUInt8 :: escape p.2

def encode (m : Values) : Bytes := ['&'.toUInt8].intercalate (m.pairs.map encodePair)

theorem pair_encodePair (p : Bytes × Bytes) : pair (encodePair p) = some p := by
  have noEquals : '='.toUInt8 ∉ escape p.1 :=
    not_mem_escape (by decide) (by decide) (by decide) p.1
  have noSemicolon (s : Bytes) : ';'.toUInt8 ∉ escape s :=
    not_mem_escape (by decide) (by decide) (by decide) s
  have plain : ';'.toUInt8 ∉ encodePair p := by
    rw [encodePair, List.mem_append, List.mem_cons]
    rintro (inName | sign | inValue)
    · exact noSemicolon p.1 inName
    · revert sign
      decide
    · exact noSemicolon p.2 inValue
  have front (b : UInt8) (mem : b ∈ escape p.1) : b ≠ '='.toUInt8 := by
    rintro rfl
    exact noEquals mem
  have name : (encodePair p).takeWhile (· ≠ '='.toUInt8) = escape p.1 := by
    rw [encodePair, List.takeWhile_append_of_pos (by simpa using front),
      List.takeWhile_cons_of_neg (by simp), List.append_nil]
  have value : (encodePair p).dropWhile (· ≠ '='.toUInt8) = '='.toUInt8 :: escape p.2 := by
    rw [encodePair, List.dropWhile_append_of_pos (by simpa using front),
      List.dropWhile_cons_of_neg (by simp)]
  rw [pair, if_neg plain, name, value, unescape_escape, List.drop_one, List.tail_cons,
    unescape_escape]
  rfl

theorem pieces_encode (m : Values) : pieces (encode m) = m.pairs.map encodePair := by
  have notEmpty (piece : Bytes) (mem : piece ∈ m.pairs.map encodePair) : piece ≠ [] := by
    obtain ⟨p, -, rfl⟩ := List.mem_map.1 mem
    exact List.append_ne_nil_of_right_ne_nil _ (List.cons_ne_nil _ _)
  have plain (piece : Bytes) (mem : piece ∈ m.pairs.map encodePair) : '&'.toUInt8 ∉ piece := by
    obtain ⟨p, -, rfl⟩ := List.mem_map.1 mem
    have noSign (s : Bytes) : '&'.toUInt8 ∉ escape s :=
      not_mem_escape (by decide) (by decide) (by decide) s
    rw [encodePair, List.mem_append, List.mem_cons]
    rintro (inName | sign | inValue)
    · exact noSign p.1 inName
    · revert sign
      decide
    · exact noSign p.2 inValue
  rw [pieces, encode]
  by_cases empty : m.pairs.map encodePair = []
  · rw [empty]
    rfl
  · rw [List.splitOn_intercalate _ plain empty]
    exact List.filter_eq_self.2 fun piece mem => by simpa using notEmpty piece mem

/-- What was written is read again. -/
theorem pairs_encode (m : Values) : pairs (encode m) = m.pairs := by
  rw [pairs, pieces_encode, List.filterMap_map]
  have same : pair ∘ encodePair = some := funext pair_encodePair
  rw [same, List.filterMap_some]

theorem mem_pairs {m : Values} {name value : Bytes} :
    (name, value) ∈ m.pairs ↔ value ∈ m.list name := by
  unfold Values.pairs
  simp only [List.mem_flatMap, List.mem_insertionSort, List.mem_map, Prod.mk.injEq]
  constructor
  · rintro ⟨name', -, value', mem, rfl, rfl⟩
    exact mem
  · intro mem
    refine ⟨name, ?_, value, mem, rfl, rfl⟩
    cases found : m.get? name with
    | none =>
        rw [Values.list, found] at mem
        cases mem
    | some vs => exact ⟨(name, vs), OrderedMap.get?_eq_some.1 found, rfl⟩

theorem mem_list_parse_encode {m : Values} {name value : Bytes} :
    value ∈ (parse (encode m)).1.list name ↔ value ∈ m.list name := by
  rw [mem_list_parse, pairs_encode, mem_pairs]

end Query
