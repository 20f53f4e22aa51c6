import K8sPlatform.Lib.Double

/-! # Numerals at the beginning of a text, and the numbers that are read there -/

namespace Numerals

open Double (Number ofRat)

def natOf (digits : List Char) : ℕ := Nat.ofDigitChars 10 digits 0

def signed (negative : Bool) (x : ℚ) : ℚ := if negative then -x else x

/-- White space and line ends. -/
def isBlank (c : Char) : Bool :=
  let n := c.toNat
  (9 ≤ n && n ≤ 13) || n == 0x20 || n == 0xA0 || n == 0x1680 || (0x2000 ≤ n && n ≤ 0x200A) ||
    n == 0x2028 || n == 0x2029 || n == 0x202F || n == 0x205F || n == 0x3000 || n == 0xFEFF

/-- Whether there is a minus sign, and what stands behind the sign. -/
def afterSign : List Char → Bool × List Char
  | '-' :: rest => (true, rest)
  | '+' :: rest => (false, rest)
  | rest => (false, rest)

/-- `parseInt` to base ten. -/
def parseInt (s : List Char) : Number :=
  let digits := (afterSign (s.dropWhile isBlank)).2.takeWhile Char.isDigit
  if digits = [] then .nan
  else ofRat (signed (afterSign (s.dropWhile isBlank)).1 (natOf digits))

/-- The exponent at the beginning of a text, zero when none is there. -/
def exponent : List Char → ℤ
  | c :: rest =>
      if c = 'e' ∨ c = 'E' then
        let size : ℤ := natOf ((afterSign rest).2.takeWhile Char.isDigit)
        if (afterSign rest).1 then -size else size
      else 0
  | [] => 0

/-- The digits behind a point, and what stands behind them. -/
def afterPoint : List Char → List Char × List Char
  | '.' :: rest => (rest.takeWhile Char.isDigit, rest.dropWhile Char.isDigit)
  | rest => ([], rest)

def decimal (whole fraction : List Char) : ℚ :=
  natOf (whole ++ fraction) / 10 ^ fraction.length

def infinity : List Char := ['I', 'n', 'f', 'i', 'n', 'i', 't', 'y']

def parseFloat (s : List Char) : Number :=
  let (negative, rest) := afterSign (s.dropWhile isBlank)
  if infinity.isPrefixOf rest then .inf negative
  else
    let whole := rest.takeWhile Char.isDigit
    let (fraction, behind) := afterPoint (rest.dropWhile Char.isDigit)
    if whole = [] ∧ fraction = [] then .nan
    else ofRat (signed negative (decimal whole fraction * 10 ^ exponent behind))

/-! ## Numerals -/

/-- Digits with a sign and a point that may be left out. -/
structure Numeral where
  sign : Option Bool
  whole : List Char
  fraction : Option (List Char)
  whole_digits : ∀ c ∈ whole, c.isDigit = true
  fraction_digits : ∀ c ∈ fraction.getD [], c.isDigit = true
  not_empty : whole ≠ [] ∨ fraction.getD [] ≠ []

namespace Numeral

def signText : Option Bool → List Char
  | none => []
  | some true => ['-']
  | some false => ['+']

def pointText : Option (List Char) → List Char
  | none => []
  | some digits => '.' :: digits

def text (n : Numeral) : List Char := signText n.sign ++ n.whole ++ pointText n.fraction

def negative (n : Numeral) : Bool := n.sign == some true

def value (n : Numeral) : ℚ := signed n.negative (decimal n.whole (n.fraction.getD []))

end Numeral

/-- The text does not go on with a digit. -/
def Stops (rest : List Char) : Prop := ∀ c ∈ rest.head?, c.isDigit = false

theorem takeWhile_digits {digits rest : List Char} (all : ∀ c ∈ digits, c.isDigit = true)
    (stops : Stops rest) : (digits ++ rest).takeWhile Char.isDigit = digits := by
  rw [List.takeWhile_append_of_pos all]
  cases rest with
  | nil => simp
  | cons c rest =>
      rw [List.takeWhile_cons_of_neg (by simp [stops c rfl]), List.append_nil]

theorem dropWhile_digits {digits rest : List Char} (all : ∀ c ∈ digits, c.isDigit = true)
    (stops : Stops rest) : (digits ++ rest).dropWhile Char.isDigit = rest := by
  rw [List.dropWhile_append_of_pos all]
  cases rest with
  | nil => rfl
  | cons c rest => exact List.dropWhile_cons_of_neg (by simp [stops c rfl])

theorem signed_mul (negative : Bool) (x y : ℚ) :
    signed negative x * y = signed negative (x * y) := by
  cases negative with
  | false => rfl
  | true => exact neg_mul x y

theorem plain_of_start {c : Char} (start : c.isDigit = true ∨ c = '.') :
    isBlank c = false ∧ c ≠ '-' ∧ c ≠ '+' := by
  obtain digit | rfl := start
  · have bounds : 48 ≤ c.toNat ∧ c.toNat ≤ 57 := by
      simp only [Char.isDigit, Bool.and_eq_true, decide_eq_true_eq] at digit
      exact ⟨UInt32.le_iff_toNat_le.1 digit.1, UInt32.le_iff_toNat_le.1 digit.2⟩
    refine ⟨?_, ?_, ?_⟩
    · simp [isBlank]
      omega
    · rintro rfl
      cases digit
    · rintro rfl
      cases digit
  · decide

theorem afterSign_of_plain {c : Char} (notMinus : c ≠ '-') (notPlus : c ≠ '+')
    (rest : List Char) : afterSign (c :: rest) = (false, c :: rest) := by
  unfold afterSign
  split
  · rename_i eq
    exact absurd (List.cons.inj eq).1 notMinus
  · rename_i eq
    exact absurd (List.cons.inj eq).1 notPlus
  · rfl

theorem afterPoint_of_none {rest : List Char} (none_ : rest.head? ≠ some '.') :
    afterPoint rest = ([], rest) := by
  unfold afterPoint
  split
  · exact absurd rfl none_
  · rfl

theorem isPrefixOf_of_ne {c d : Char} {cs ds : List Char} (ne : c ≠ d) :
    (c :: cs).isPrefixOf (d :: ds) = false := by
  rw [List.isPrefixOf, beq_false_of_ne ne, Bool.false_and]

namespace Numeral

variable (n : Numeral)

/-- Behind the sign there is a digit or a point. -/
theorem head_unsigned (behind : List Char) :
    ∃ c rest, n.whole ++ pointText n.fraction ++ behind = c :: rest ∧
      (c.isDigit = true ∨ c = '.') := by
  cases whole : n.whole with
  | cons c rest =>
      exact ⟨c, rest ++ pointText n.fraction ++ behind, rfl,
        .inl (n.whole_digits c (whole ▸ List.mem_cons_self))⟩
  | nil =>
      cases fraction : n.fraction with
      | none =>
          have digits := n.not_empty
          rw [whole, fraction] at digits
          exact absurd digits (by simp)
      | some digits => exact ⟨'.', digits ++ behind, rfl, .inr rfl⟩

theorem afterSign_text (behind : List Char) :
    afterSign ((n.text ++ behind).dropWhile isBlank) =
      (n.negative, n.whole ++ (pointText n.fraction ++ behind)) := by
  obtain ⟨c, rest, eq, start⟩ := n.head_unsigned behind
  rw [List.append_assoc] at eq
  have unsigned : afterSign ((c :: rest).dropWhile isBlank) = (false, c :: rest) := by
    obtain ⟨notBlank, notMinus, notPlus⟩ := plain_of_start start
    rw [List.dropWhile_cons_of_neg (by simp [notBlank])]
    exact afterSign_of_plain notMinus notPlus rest
  unfold text negative
  rw [List.append_assoc, List.append_assoc]
  cases n.sign with
  | none =>
      rw [signText, List.nil_append, eq, unsigned]
      rfl
  | some minus => cases minus <;> rfl

theorem not_mem_text {c : Char} (other : c.isDigit = false) (point : c ≠ '.') (minus : c ≠ '-')
    (plus : c ≠ '+') : c ∉ n.text := by
  have noDigit {ds : List Char} (all : ∀ d ∈ ds, d.isDigit = true) : c ∉ ds := fun mem => by
    rw [all c mem] at other
    cases other
  have noSign : c ∉ signText n.sign := by
    cases n.sign with
    | none => exact List.not_mem_nil
    | some negative => cases negative <;> simpa [signText]
  have noPoint : c ∉ pointText n.fraction := by
    have digits := n.fraction_digits
    cases fraction : n.fraction with
    | none => exact List.not_mem_nil
    | some ds =>
        rw [fraction, Option.getD_some] at digits
        rw [pointText, List.mem_cons]
        exact fun mem => mem.elim point (noDigit digits)
  rw [text, List.mem_append, List.mem_append]
  exact fun mem => mem.elim (fun mem => mem.elim noSign (noDigit n.whole_digits)) noPoint

theorem parseInt_text (digits : n.whole ≠ []) :
    parseInt n.text = ofRat (signed n.negative (natOf n.whole)) := by
  have unsigned := n.afterSign_text []
  have stops : Stops (pointText n.fraction) := by
    cases n.fraction with
    | none => exact fun _ none_ => nomatch none_
    | some digits =>
        intro c point
        obtain rfl := Option.some.inj point
        rfl
  rw [List.append_nil, List.append_nil] at unsigned
  rw [parseInt, unsigned, takeWhile_digits n.whole_digits stops, if_neg digits]

/-- A numeral that begins with its point is no integer. -/
theorem parseInt_nan (empty : n.whole = []) : parseInt n.text = .nan := by
  have unsigned := n.afterSign_text []
  rw [List.append_nil, List.append_nil, empty, List.nil_append] at unsigned
  have none_ : (pointText n.fraction).takeWhile Char.isDigit = [] := by
    cases n.fraction <;> rfl
  rw [parseInt, unsigned, none_, if_pos rfl]

theorem parseFloat_text {behind : List Char} (stops : Stops behind)
    (noPoint : behind.head? ≠ some '.') :
    parseFloat (n.text ++ behind) = ofRat (n.value * 10 ^ exponent behind) := by
  have stopsPoint : Stops (pointText n.fraction ++ behind) := by
    cases n.fraction with
    | none => exact stops
    | some digits =>
        intro c point
        obtain rfl := Option.some.inj point
        rfl
  have fraction : afterPoint (pointText n.fraction ++ behind) = (n.fraction.getD [], behind) := by
    have digits := n.fraction_digits
    cases point : n.fraction with
    | none => exact afterPoint_of_none noPoint
    | some ds =>
        rw [point, Option.getD_some] at digits
        rw [pointText, List.cons_append, afterPoint, takeWhile_digits digits stops,
          dropWhile_digits digits stops]
        rfl
  have finite : infinity.isPrefixOf (n.whole ++ (pointText n.fraction ++ behind)) = false := by
    obtain ⟨c, rest, eq, start⟩ := n.head_unsigned behind
    rw [← List.append_assoc, eq]
    obtain digit | rfl := start
    · apply isPrefixOf_of_ne
      rintro rfl
      cases digit
    · rfl
  have some_ : ¬(n.whole = [] ∧ n.fraction.getD [] = []) := by
    rintro ⟨whole, point⟩
    exact n.not_empty.elim (fun h => h whole) fun h => h point
  unfold parseFloat
  rw [n.afterSign_text behind]
  dsimp only
  rw [finite, takeWhile_digits n.whole_digits stopsPoint,
    dropWhile_digits n.whole_digits stopsPoint, fraction, if_neg Bool.false_ne_true, if_neg some_]
  rw [value, signed_mul]

end Numeral

end Numerals
