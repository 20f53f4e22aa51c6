import Mathlib.Algebra.GroupWithZero.Nat
import K8sPlatform.Lib.Query
import K8sPlatform.Lib.Text

/-! # Paths of URLs: segments with percent escapes, between slashes -/

namespace UrlPath

open Query

/-- A byte that is not kept is written as an escape. -/
def encodeByte (keep : UInt8 → Bool) (b : UInt8) : Bytes :=
  if keep b then [b] else ['%'.toUInt8, upperHex (b / 16), upperHex (b % 16)]

def encode (keep : UInt8 → Bool) (s : Bytes) : Bytes := s.flatMap (encodeByte keep)

/-- As `Query.unescape`, but a plus sign stays a plus sign. -/
def decode : Bytes → Option Bytes
  | [] => some []
  | b :: rest =>
      if b = '%'.toUInt8 then
        match rest with
        | high :: low :: rest =>
            match unhex high, unhex low with
            | some h, some l => (decode rest).map ((h * 16 + l) :: ·)
            | _, _ => none
        | _ => none
      else (decode rest).map (b :: ·)

theorem decode_cons {b : UInt8} (plain : b ≠ '%'.toUInt8) (rest : Bytes) :
    decode (b :: rest) = (decode rest).map (b :: ·) := by
  rcases rest with - | ⟨high, - | ⟨low, rest⟩⟩ <;> simp only [decode, if_neg plain]

theorem high_lt (b : UInt8) : b / 16 < 16 := by
  have small : b.toNat < 256 := b.toNat_lt
  rw [UInt8.lt_iff_toNat_lt, UInt8.toNat_div]
  simp only [UInt8.reduceToNat]
  omega

theorem low_lt (b : UInt8) : b % 16 < 16 := by
  rw [UInt8.lt_iff_toNat_lt, UInt8.toNat_mod]
  exact Nat.mod_lt _ (by decide)

section

variable {keep : UInt8 → Bool}

theorem decode_encodeByte (percent : keep '%'.toUInt8 = false) (b : UInt8) (rest : Bytes) :
    decode (encodeByte keep b ++ rest) = (decode rest).map (b :: ·) := by
  unfold encodeByte
  split_ifs with kept
  · have plain : b ≠ '%'.toUInt8 := by
      rintro rfl
      rw [percent] at kept
      cases kept
    rw [List.singleton_append, decode_cons plain]
  · simp only [List.cons_append, List.nil_append, decode, if_true, unhex_upperHex (high_lt b),
      unhex_upperHex (low_lt b), byte_of_digits]

theorem decode_encode_append (percent : keep '%'.toUInt8 = false) (s rest : Bytes) :
    decode (encode keep s ++ rest) = (decode rest).map (s ++ ·) := by
  induction s with
  | nil =>
      cases decoded : decode rest with
      | none => exact decoded
      | some bytes => exact decoded
  | cons b s ih =>
      rw [encode, List.flatMap_cons, List.append_assoc, decode_encodeByte percent]
      rw [encode] at ih
      rw [ih, Option.map_map]
      rfl

theorem decode_encode (percent : keep '%'.toUInt8 = false) (s : Bytes) :
    decode (encode keep s) = some s := by
  have whole := decode_encode_append percent s []
  rwa [List.append_nil, decode, Option.map_some, List.append_nil] at whole

theorem unescape_encodeByte (percent : keep '%'.toUInt8 = false) (plus : keep '+'.toUInt8 = false)
    (b : UInt8) (rest : Bytes) :
    unescape (encodeByte keep b ++ rest) = (unescape rest).map (b :: ·) := by
  unfold encodeByte
  split_ifs with kept
  · have notPercent : b ≠ '%'.toUInt8 := by
      rintro rfl
      rw [percent] at kept
      cases kept
    have notPlus : b ≠ '+'.toUInt8 := by
      rintro rfl
      rw [plus] at kept
      cases kept
    rw [List.singleton_append, unescape_cons notPercent, if_neg notPlus]
  · simp only [List.cons_append, List.nil_append, unescape, if_true, unhex_upperHex (high_lt b),
      unhex_upperHex (low_lt b), byte_of_digits]

/-- Where plus signs are escaped, too, a query's reading of the escapes gives the same. -/
theorem unescape_encode (percent : keep '%'.toUInt8 = false) (plus : keep '+'.toUInt8 = false)
    (s : Bytes) : unescape (encode keep s) = some s := by
  induction s with
  | nil => rfl
  | cons b s ih =>
      rw [encode, List.flatMap_cons, unescape_encodeByte percent plus]
      rw [encode] at ih
      rw [ih, Option.map_some]

/-- A byte that is escaped is not written, unless it is the percent sign or a digit. -/
theorem not_mem_encode {c : UInt8} (escaped : keep c = false) (percent : c ≠ '%'.toUInt8)
    (other : isUnreserved c = false) (s : Bytes) : c ∉ encode keep s := by
  intro mem
  obtain ⟨b, -, written⟩ := List.mem_flatMap.1 mem
  have digits : ∀ m < 16, isUnreserved (upperHex (UInt8.ofNat m)) = true := by decide
  have digit {n : UInt8} (small : n < 16) : isUnreserved (upperHex n) = true := by
    have found := digits n.toNat (UInt8.lt_iff_toNat_lt.1 small)
    rwa [UInt8.ofNat_toNat] at found
  unfold encodeByte at written
  split_ifs at written with kept
  · rw [List.mem_singleton.1 written, kept] at escaped
    cases escaped
  · rcases List.mem_cons.1 written with rfl | more
    · exact percent rfl
    · rcases List.mem_cons.1 more with rfl | last
      · rw [digit (high_lt b)] at other
        cases other
      · rw [List.mem_singleton.1 last, digit (low_lt b)] at other
        cases other

theorem encode_of_kept {s : Bytes} (kept : ∀ b ∈ s, keep b = true) : encode keep s = s := by
  induction s with
  | nil => rfl
  | cons b s ih =>
      rw [encode, List.flatMap_cons, encodeByte, if_pos (kept b List.mem_cons_self)]
      rw [encode] at ih
      rw [ih fun c mem => kept c (List.mem_cons_of_mem _ mem)]
      rfl

end

/-! ## Segments -/

/-- The text of a path of these segments. -/
def text (segments : List Bytes) : Bytes := segments.flatMap fun s => '/'.toUInt8 :: s

/-- The segments of a path, behind its first slash. -/
def segments (path : Bytes) : List Bytes := (path.splitOn '/'.toUInt8).drop 1

theorem splitOn_append_text {first : Bytes} {segs : List Bytes}
    (plain : ∀ s ∈ first :: segs, '/'.toUInt8 ∉ s) :
    (first ++ text segs).splitOn '/'.toUInt8 = first :: segs := by
  induction segs generalizing first with
  | nil =>
      rw [text, List.flatMap_nil, List.append_nil]
      exact List.splitOn_eq_singleton (plain first List.mem_cons_self)
  | cons s segs ih =>
      have rest : text (s :: segs) = '/'.toUInt8 :: (s ++ text segs) := rfl
      rw [rest, List.splitOn_append_cons_self,
        List.splitOn_eq_singleton (plain first List.mem_cons_self),
        ih fun t mem => plain t (List.mem_cons_of_mem _ mem)]
      rfl

theorem segments_text {segs : List Bytes} (plain : ∀ s ∈ segs, '/'.toUInt8 ∉ s) :
    segments (text segs) = segs := by
  have whole : ([] ++ text segs).splitOn '/'.toUInt8 = [] :: segs :=
    splitOn_append_text (List.forall_mem_cons.2 ⟨List.not_mem_nil, plain⟩)
  rw [List.nil_append] at whole
  rw [segments, whole]
  rfl

theorem count_text (segs : List Bytes) :
    (text segs).count '/'.toUInt8 = segs.length + (segs.map (·.count '/'.toUInt8)).sum := by
  induction segs with
  | nil => rfl
  | cons s segs ih =>
      have parts : text (s :: segs) = '/'.toUInt8 :: s ++ text segs := rfl
      rw [parts, List.count_append, List.count_cons_self, ih, List.map_cons, List.sum_cons,
        List.length_cons]
      omega

theorem decode_text {keep : UInt8 → Bool} (percent : keep '%'.toUInt8 = false)
    (segs : List Bytes) : decode (text (segs.map (encode keep))) = some (text segs) := by
  induction segs with
  | nil => rfl
  | cons s segs ih =>
      have parts : text ((s :: segs).map (encode keep)) =
          '/'.toUInt8 :: (encode keep s ++ text (segs.map (encode keep))) := rfl
      rw [parts, decode_cons (by decide), decode_encode_append percent, ih]
      rfl

/-! ## Dot segments -/

def singleDots : List Bytes := [".", "%2e", "%2E"].map fun dot => Text.utf8 dot.toList

def doubleDots : List Bytes :=
  ["..", ".%2e", ".%2E", "%2e.", "%2E.", "%2e%2e", "%2e%2E", "%2E%2e", "%2E%2E"].map fun dots =>
    Text.utf8 dots.toList

def isDot (s : Bytes) : Bool := singleDots.contains s

def isDoubleDot (s : Bytes) : Bool := doubleDots.contains s

/-- The segments of a URL after a browser has parsed it; `before` are those read, the last first. -/
def normalizeFrom (before : List Bytes) : List Bytes → List Bytes
  | [] => before.reverse
  | [s] =>
      if isDoubleDot s then (before.drop 1).reverse ++ [[]]
      else if isDot s then before.reverse ++ [[]]
      else before.reverse ++ [s]
  | s :: t :: rest =>
      if isDoubleDot s then normalizeFrom (before.drop 1) (t :: rest)
      else if isDot s then normalizeFrom before (t :: rest)
      else normalizeFrom (s :: before) (t :: rest)

def normalize (segs : List Bytes) : List Bytes := normalizeFrom [] segs

theorem normalizeFrom_plain {segs : List Bytes} (before : List Bytes)
    (plain : ∀ s ∈ segs, isDot s = false ∧ isDoubleDot s = false) :
    normalizeFrom before segs = before.reverse ++ segs := by
  induction segs generalizing before with
  | nil => exact (List.append_nil _).symm
  | cons s segs ih =>
      obtain ⟨single, double⟩ := plain s List.mem_cons_self
      cases segs with
      | nil => rw [normalizeFrom, double, single, if_neg Bool.false_ne_true,
          if_neg Bool.false_ne_true]
      | cons t segs =>
          rw [normalizeFrom, double, single, if_neg Bool.false_ne_true,
            if_neg Bool.false_ne_true, ih (s :: before) fun t mem =>
              plain t (List.mem_cons_of_mem _ mem), List.reverse_cons, List.append_assoc]
          rfl

theorem normalize_plain {segs : List Bytes}
    (plain : ∀ s ∈ segs, isDot s = false ∧ isDoubleDot s = false) : normalize segs = segs :=
  normalizeFrom_plain [] plain

/-- A dot segment stands for one or two dots, however they are written. -/
theorem decode_of_isDot {s : Bytes} (dots : isDot s = true ∨ isDoubleDot s = true) :
    decode s = some ['.'.toUInt8] ∨ decode s = some ['.'.toUInt8, '.'.toUInt8] := by
  have single : ∀ d ∈ singleDots, decode d = some ['.'.toUInt8] := by decide
  have double : ∀ d ∈ doubleDots, decode d = some ['.'.toUInt8, '.'.toUInt8] := by decide
  rcases dots with one | two
  · exact .inl (single s (List.contains_iff_mem.1 one))
  · exact .inr (double s (List.contains_iff_mem.1 two))

/-- The escapes of a text that is no dots are no dot segment. -/
theorem encode_not_dot {keep : UInt8 → Bool} (percent : keep '%'.toUInt8 = false) {s : Bytes}
    (one : s ≠ ['.'.toUInt8]) (two : s ≠ ['.'.toUInt8, '.'.toUInt8]) :
    isDot (encode keep s) = false ∧ isDoubleDot (encode keep s) = false := by
  have none_ : ¬(isDot (encode keep s) = true ∨ isDoubleDot (encode keep s) = true) := by
    intro dots
    rcases decode_of_isDot dots with eq | eq
    · rw [decode_encode percent] at eq
      exact one (Option.some.inj eq)
    · rw [decode_encode percent] at eq
      exact two (Option.some.inj eq)
  rw [not_or, Bool.not_eq_true, Bool.not_eq_true] at none_
  exact none_

end UrlPath
