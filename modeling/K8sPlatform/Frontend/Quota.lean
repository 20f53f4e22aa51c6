import K8sPlatform.Lib.Numerals

/-! # The usage of a resource quota in percent -/

namespace K8sPlatform.Frontend

open Double Numerals

inductive Suffix
  | nano | micro | milli | one | kilo | mega | giga | tera | peta | exa
  | kibi | mebi | gibi | tebi | pebi | exbi
  | power (upper : Bool) (sign : Option Bool) (digits : List Char)
      (all : ∀ c ∈ digits, c.isDigit = true) (notEmpty : digits ≠ [])

namespace Suffix

def text : Suffix → List Char
  | nano => ['n']
  | micro => ['u']
  | milli => ['m']
  | one => []
  | kilo => ['k']
  | mega => ['M']
  | giga => ['G']
  | tera => ['T']
  | peta => ['P']
  | exa => ['E']
  | kibi => ['K', 'i']
  | mebi => ['M', 'i']
  | gibi => ['G', 'i']
  | tebi => ['T', 'i']
  | pebi => ['P', 'i']
  | exbi => ['E', 'i']
  | power upper sign digits _ _ =>
      (if upper then 'E' else 'e') :: (Numeral.signText sign ++ digits)

def tenTo : Suffix → ℤ
  | power _ sign digits _ _ => if sign = some true then -natOf digits else natOf digits
  | _ => 0

def factor : Suffix → ℚ
  | nano => 1 / 10 ^ 9
  | micro => 1 / 10 ^ 6
  | milli => 1 / 10 ^ 3
  | one => 1
  | kilo => 10 ^ 3
  | mega => 10 ^ 6
  | giga => 10 ^ 9
  | tera => 10 ^ 12
  | peta => 10 ^ 15
  | exa => 10 ^ 18
  | kibi => 2 ^ 10
  | mebi => 2 ^ 20
  | gibi => 2 ^ 30
  | tebi => 2 ^ 40
  | pebi => 2 ^ 50
  | exbi => 2 ^ 60
  | s@(power ..) => 10 ^ s.tenTo

end Suffix

structure Quantity where
  numeral : Numeral
  suffix : Suffix

def Quantity.text (q : Quantity) : String := String.ofList (q.numeral.text ++ q.suffix.text)

def Quantity.value (q : Quantity) : ℚ := q.numeral.value * q.suffix.factor

def parseQuantity (v : String) : Number :=
  if v = "" then .fin 0
  else if v.toList.getLast? = some 'm' then parseInt v.toList.dropLast
  else (parseFloat v.toList).mul (.fin 1000)

def calcPercent (used hard : String) : Number :=
  let u := parseQuantity used
  let h := parseQuantity hard
  if h = .fin 0 then .fin 0 else (((u.div h).mul (.fin 100)).round).min 100

/-! ## What is kept of a quantity -/

/-- The number that the page keeps: the suffix, if it is no exponent, is taken for the base unit,
and of thousandths only whole ones count. -/
def Quantity.number (q : Quantity) : Option ℚ :=
  match q.suffix with
  | .milli =>
      if q.numeral.whole = [] then none
      else some (signed q.numeral.negative (natOf q.numeral.whole) / 1000)
  | s => some (q.numeral.value * 10 ^ s.tenTo)

/-- The format has the digits of the number, and room for its thousandths. -/
def Sized (x : ℚ) : Prop := x = 0 ∨ minNormal ≤ |x| ∧ 1000 * |x| ≤ maxFinite

theorem Suffix.stops_text (s : Suffix) : Stops s.text ∧ s.text.head? ≠ some '.' := by
  cases s with
  | one => exact ⟨fun _ none_ => (by cases none_), by decide⟩
  | power upper sign digits =>
      constructor
      · intro c first
        obtain rfl := Option.some.inj first
        cases upper <;> rfl
      · cases upper <;> simp [text]
  | _ => exact ⟨fun c first => by obtain rfl := Option.some.inj first; rfl, by decide⟩

theorem Suffix.exponent_text (s : Suffix) : exponent s.text = s.tenTo := by
  cases s with
  | power upper sign digits all notEmpty =>
      have unsigned :
          afterSign (Numeral.signText sign ++ digits) = (sign == some true, digits) := by
        cases sign with
        | some negative => cases negative <;> rfl
        | none =>
            obtain ⟨c, rest, rfl⟩ := List.exists_cons_of_ne_nil notEmpty
            obtain ⟨-, notMinus, notPlus⟩ := plain_of_start (.inl (all c List.mem_cons_self))
            exact afterSign_of_plain notMinus notPlus rest
      have scanned : (digits ++ []).takeWhile Char.isDigit = digits :=
        takeWhile_digits all fun _ none_ => by cases none_
      have letter : (if upper then 'E' else 'e') = 'e' ∨ (if upper then 'E' else 'e') = 'E' := by
        cases upper <;> decide
      rw [List.append_nil] at scanned
      rw [text, exponent, if_pos letter, unsigned]
      dsimp only
      rw [scanned, tenTo]
      simp only [beq_iff_eq]
  | _ => rfl

/-- Only thousandths end with an m. -/
theorem not_mem_suffix {s : Suffix} (other : s ≠ .milli) : 'm' ∉ s.text := by
  cases s with
  | milli => exact absurd rfl other
  | power upper sign digits all =>
      have inDigits : 'm' ∉ digits := fun mem => by cases all 'm' mem
      have inSign : 'm' ∉ Numeral.signText sign := by
        cases sign with
        | none => exact List.not_mem_nil
        | some negative => cases negative <;> decide
      rw [Suffix.text, List.mem_cons, List.mem_append]
      rintro (first | mem | mem)
      · revert first
        cases upper <;> decide
      · exact inSign mem
      · exact inDigits mem
  | _ => decide

namespace Quantity

variable {q : Quantity}

theorem toList_text (q : Quantity) : q.text.toList = q.numeral.text ++ q.suffix.text :=
  String.toList_ofList

theorem text_ne_empty (q : Quantity) : q.text ≠ "" := by
  intro empty
  obtain ⟨c, rest, eq, -⟩ := q.numeral.head_unsigned q.suffix.text
  have chars := congrArg String.toList empty
  rw [toList_text, Numeral.text, List.append_assoc, List.append_assoc, ← List.append_assoc _ _
    q.suffix.text, eq] at chars
  exact List.append_ne_nil_of_right_ne_nil _ (List.cons_ne_nil c rest) chars

theorem parse_milli (milli : q.suffix = .milli) :
    parseQuantity q.text = parseInt q.numeral.text := by
  have parts : q.text.toList = q.numeral.text ++ ['m'] := by
    rw [toList_text, milli]
    rfl
  rw [parseQuantity, if_neg q.text_ne_empty, parts, if_pos List.getLast?_concat,
    List.dropLast_concat]

theorem parse_other (other : q.suffix ≠ .milli) :
    parseQuantity q.text =
      (ofRat (q.numeral.value * 10 ^ q.suffix.tenTo)).mul (.fin 1000) := by
  have notLast : q.text.toList.getLast? ≠ some 'm' := by
    intro last
    have mem := List.mem_of_getLast? last
    rw [toList_text, List.mem_append] at mem
    obtain mem | mem := mem
    · exact q.numeral.not_mem_text rfl (by decide) (by decide) (by decide) mem
    · exact not_mem_suffix other mem
  rw [parseQuantity, if_neg q.text_ne_empty, if_neg notLast, toList_text,
    q.numeral.parseFloat_text q.suffix.stops_text.1 q.suffix.stops_text.2,
    q.suffix.exponent_text]

theorem number_other (other : q.suffix ≠ .milli) :
    q.number = some (q.numeral.value * 10 ^ q.suffix.tenTo) := by
  unfold number
  split
  · contradiction
  · rfl

theorem parse_nan (none_ : q.number = none) : parseQuantity q.text = .nan := by
  by_cases milli : q.suffix = .milli
  · rw [number, milli] at none_
    dsimp only at none_
    split_ifs at none_ with empty
    rw [parse_milli milli, q.numeral.parseInt_nan empty]
  · rw [number_other milli] at none_
    cases none_

/-- A number is read in thousandths. -/
theorem parse_number {x : ℚ} (kept : q.number = some x) :
    parseQuantity q.text = ofRat (1000 * x) ∨
      parseQuantity q.text = (ofRat x).mul (.fin 1000) := by
  by_cases milli : q.suffix = .milli
  · rw [number, milli] at kept
    dsimp only at kept
    split_ifs at kept with empty
    rw [parse_milli milli, q.numeral.parseInt_text empty, ← Option.some.inj kept,
      mul_div_cancel₀ _ (by norm_num)]
    exact .inl rfl
  · rw [number_other milli] at kept
    rw [parse_other milli, Option.some.inj kept]
    exact .inr rfl

/-- What is read is rounded twice at most. -/
theorem exists_parse {x : ℚ} (kept : q.number = some x) (sized : Sized x) :
    ∃ s, Near 3 s ∧ parseQuantity q.text = .fin (1000 * x * s) := by
  obtain rfl | ⟨normal, finite⟩ := sized
  · refine ⟨1, near_one 3, ?_⟩
    obtain once | twice := parse_number kept
    · simpa using once
    · simpa [Number.mul] using twice
  have pos := minNormal_pos.trans_le normal
  have thousand (y : ℚ) : |1000 * y| = 1000 * |y| := by
    rw [abs_mul, abs_of_pos (by norm_num : (0 : ℚ) < 1000)]
  obtain once | twice := parse_number kept
  · obtain ⟨s, near, rounded, -⟩ := exists_ofRat (x := 1000 * x)
      (by rw [thousand]; linarith) (by rw [thousand]; exact finite)
    exact ⟨s, near.mono (by decide), once.trans rounded⟩
  · obtain ⟨s, near, rounded, size⟩ := exists_ofRat normal (by linarith)
    have least : |x| * (1 / 2) ≤ |x * s| := by
      have half := near.pos (by decide)
      rw [abs_mul, abs_of_pos (a := s) (by linarith)]
      exact mul_le_mul_of_nonneg_left half.le pos.le
    have most := thousand_roundAbs_le normal finite
    rw [← size] at most
    obtain ⟨t, near', rounded', -⟩ := exists_ofRat (x := x * s * 1000)
      (by rw [mul_comm, thousand]; linarith) (by rw [mul_comm, thousand]; exact most)
    refine ⟨s * t, (near.mul near' (by decide) (by decide)).mono (by decide), ?_⟩
    rw [twice, rounded, Number.mul, rounded']
    ring_nf

end Quantity

/-! ## The percentage -/

/-- A nearest integer to the percentage, or a hundred when that is more. -/
def IsPercent (ratio : ℚ) (p : ℤ) : Prop := ∃ n : ℤ, |100 * ratio - n| ≤ 1 / 2 ∧ p = min 100 n

theorem isPercent_floor (ratio : ℚ) : IsPercent ratio (min 100 ⌊100 * ratio + 1 / 2⌋) := by
  have lower := Int.floor_le (100 * ratio + 1 / 2)
  have upper := Int.lt_floor_add_one (100 * ratio + 1 / 2)
  refine ⟨⌊100 * ratio + 1 / 2⌋, ?_, rfl⟩
  rw [abs_le]
  constructor <;> linarith

theorem isPercent_hundred {ratio : ℚ} : IsPercent ratio 100 ↔ 199 / 200 ≤ ratio := by
  constructor
  · rintro ⟨n, near, eq⟩
    have past : (100 : ℚ) ≤ n := by exact_mod_cast (by omega : 100 ≤ n)
    linarith [(abs_le.1 near).1]
  · intro full
    have floor : 100 ≤ ⌊100 * ratio + 1 / 2⌋ := by
      rw [Int.le_floor]
      push_cast
      linarith
    simpa only [min_eq_left floor] using isPercent_floor ratio

/-- The page shows the percentage of the quantities. -/
def Holds (used hard : Quantity) : Prop :=
  ∃ p : ℤ, calcPercent used.text hard.text = .fin p ∧ IsPercent (used.value / hard.value) p

/-- The ratio of the numbers that are kept; of no quantity when that of the hard limit is zero. -/
def keptRatio (used hard : Quantity) : Option ℚ :=
  hard.number.bind fun y => if y = 0 then some 0 else used.number.map (· / y)

/-- The factor of a suffix that the page does not count. -/
def Suffix.dropped : Suffix → ℚ
  | .milli => 1
  | s => s.factor / 10 ^ s.tenTo

/-- Thousandths without a digit after the point. -/
def Quantity.Whole (q : Quantity) : Prop := q.suffix = .milli → q.numeral.fraction.getD [] = []

/-- What is dropped of both quantities is the same factor. -/
def SameUnit (used hard : Quantity) : Prop :=
  used.Whole ∧ hard.Whole ∧ used.suffix.dropped = hard.suffix.dropped

/-- The quantities have one unit. If they have not, the ratio of the numbers that are kept and
that of the quantities both come to a hundred percent, or are nearest to the same one. -/
inductive Agrees (used hard : Quantity) : Prop
  | units : SameUnit used hard → Agrees used hard
  | full {ratio : ℚ} : keptRatio used hard = some ratio → 199 / 200 ≤ ratio →
      199 / 200 ≤ used.value / hard.value → Agrees used hard
  | share {ratio : ℚ} (n : ℤ) : keptRatio used hard = some ratio → |100 * ratio - n| ≤ 1 / 2 →
      |100 * (used.value / hard.value) - n| ≤ 1 / 2 → Agrees used hard

/-- How far the roundings can move the percentage of a ratio. -/
def drift (ratio : ℚ) : ℚ := 16 * ulp * |100 * ratio|

/-- The format has room for the numbers that are kept, and where the roundings can move their
ratio past a half percent, the percentages on both sides are right or both are wrong. -/
structure Settled (used hard : Quantity) : Prop where
  used_size : ∀ x, used.number = some x → Sized x
  hard_size : ∀ y, hard.number = some y → Sized y
  clear : ∀ ratio, keptRatio used hard = some ratio → ∀ k : ℤ, k < 100 →
    |100 * ratio - (k + 1 / 2)| ≤ drift ratio →
      (IsPercent (used.value / hard.value) k ↔ IsPercent (used.value / hard.value) (k + 1))

/-- Between two percentages that are right alike in every step, they are right alike. -/
theorem isPercent_alike {ratio : ℚ} {a b : ℤ} (le : a ≤ b)
    (alike : ∀ k, a ≤ k → k < b → (IsPercent ratio k ↔ IsPercent ratio (k + 1))) :
    IsPercent ratio a ↔ IsPercent ratio b := by
  induction b, le using Int.leInduction with
  | base => exact Iff.rfl
  | succ b le ih =>
      have before := ih fun k low high => alike k low (by omega)
      exact before.trans (alike b le (by omega))

/-- Of two percentages of a ratio, at most a hundred, none is two more than the other. -/
theorem isPercent_close {ratio : ℚ} {p : ℤ} (h : IsPercent ratio p)
    (h' : IsPercent ratio (p + 2)) : 98 < p := by
  obtain ⟨n, near, rfl⟩ := h
  obtain ⟨m, near', eq⟩ := h'
  obtain ⟨low, high⟩ := abs_le.1 near
  obtain ⟨low', high'⟩ := abs_le.1 near'
  by_contra far
  have more : n + 2 ≤ m := by omega
  have more' : (n : ℚ) + 2 ≤ m := by exact_mod_cast more
  linarith

/-- What is rounded to show the percentage of a ratio: a small number for a small one, else the
percentage as the roundings have moved it, unless it is so great that it overflows. -/
inductive Rounded (ratio : ℚ) : Number → Prop
  | small {w : ℚ} : |100 * ratio| < 1 / 2 → |w| < 1 / 2 → Rounded ratio (.fin w)
  | moved {s : ℚ} : Near 16 s → Rounded ratio (.fin (100 * ratio * s))
  | great : 2 ^ 100 ≤ |100 * ratio| → Rounded ratio (.inf (ratio < 0))

theorem isPercent_of_small {ratio : ℚ} {p : ℤ} (small : |100 * ratio| < 1 / 2) :
    IsPercent ratio p ↔ p = 0 := by
  obtain ⟨low, high⟩ := abs_lt.1 small
  constructor
  · rintro ⟨n, near, rfl⟩
    obtain ⟨low', high'⟩ := abs_le.1 near
    have less : n < 1 := by exact_mod_cast (by linarith : (n : ℚ) < 1)
    have more : -1 < n := by exact_mod_cast (by linarith : (-1 : ℚ) < n)
    omega
  · rintro rfl
    exact ⟨0, by simpa using small.le, rfl⟩

theorem isPercent_of_full {ratio : ℚ} {p : ℤ} (full : 100 ≤ 100 * ratio) :
    IsPercent ratio p ↔ p = 100 := by
  constructor
  · rintro ⟨n, near, rfl⟩
    obtain ⟨low, high⟩ := abs_le.1 near
    have less : 99 < n := by exact_mod_cast (by linarith : (99 : ℚ) < n)
    omega
  · rintro rfl
    exact isPercent_hundred.2 (by linarith)

/-- The percentage that is shown is right just when the one of the ratio is: each half percent
between the two is in reach of the roundings. -/
theorem isPercent_moved {ratio value s : ℚ} (near : Near 16 s)
    (clear : ∀ k : ℤ, k < 100 → |100 * ratio - (k + 1 / 2)| ≤ drift ratio →
      (IsPercent value k ↔ IsPercent value (k + 1)))
    {p : ℤ} (percent : IsPercent ratio p) :
    IsPercent value (min 100 ⌊100 * ratio * s + 1 / 2⌋) ↔ IsPercent value p := by
  have moved : |100 * ratio * s - 100 * ratio| ≤ drift ratio := by
    have apart : 100 * ratio * s - 100 * ratio = (s - 1) * (100 * ratio) := by ring
    rw [apart, abs_mul, drift]
    exact mul_le_mul_of_nonneg_right near (abs_nonneg _)
  obtain ⟨down, up⟩ := abs_le.1 moved
  obtain ⟨n, close, rfl⟩ := percent
  obtain ⟨low, high⟩ := abs_le.1 close
  have lower := Int.floor_le (100 * ratio * s + 1 / 2)
  have upper := Int.lt_floor_add_one (100 * ratio * s + 1 / 2)
  generalize ⌊100 * ratio * s + 1 / 2⌋ = shown at lower upper ⊢
  rcases le_total (min 100 shown) (min 100 n) with le | le
  · refine isPercent_alike le fun k first last => clear k (by omega) ?_
    have past : (shown : ℚ) ≤ k := by exact_mod_cast (by omega : shown ≤ k)
    have below : (k : ℚ) + 1 ≤ n := by exact_mod_cast (by omega : k + 1 ≤ n)
    rw [abs_le]
    constructor <;> linarith
  · refine (isPercent_alike le fun k first last => clear k (by omega) ?_).symm
    have past : (n : ℚ) ≤ k := by exact_mod_cast (by omega : n ≤ k)
    have below : (k : ℚ) + 1 ≤ shown := by exact_mod_cast (by omega : k + 1 ≤ shown)
    rw [abs_le]
    constructor <;> linarith

/-- Far below zero the roundings are in reach of several percentages. -/
theorem not_isPercent_of_far {ratio value : ℚ} (far : 100 * ratio ≤ -2 ^ 100)
    (clear : ∀ k : ℤ, k < 100 → |100 * ratio - (k + 1 / 2)| ≤ drift ratio →
      (IsPercent value k ↔ IsPercent value (k + 1)))
    {p : ℤ} (percent : IsPercent ratio p) : ¬IsPercent value p := by
  intro right
  obtain ⟨n, close, rfl⟩ := percent
  obtain ⟨low, high⟩ := abs_le.1 close
  have wide : 4 ≤ drift ratio := by
    rw [drift, abs_of_neg (by linarith), ulp]
    linarith
  have negative : (n : ℚ) < 0 := by linarith
  have negative' : n < 0 := by exact_mod_cast negative
  rw [min_eq_right (by omega)] at right
  have alike : IsPercent value n ↔ IsPercent value (n + 2) := by
    refine isPercent_alike (by omega) fun k first last => clear k (by omega) (le_trans ?_ wide)
    have first' : (n : ℚ) ≤ k := by exact_mod_cast first
    have last' : (k : ℚ) < n + 2 := by exact_mod_cast last
    rw [abs_le]
    constructor <;> linarith
  have many := isPercent_close right (alike.1 right)
  omega

/-- Of one integer it is asked whether it is right. -/
theorem exists_shown_iff {v : Number} {n : ℤ} {right : ℤ → Prop} (shown : v = .fin n) :
    (∃ p : ℤ, v = .fin p ∧ right p) ↔ right n := by
  constructor
  · rintro ⟨p, eq, holds⟩
    have same : n = p := by exact_mod_cast Number.fin.inj (shown.symm.trans eq)
    exact same ▸ holds
  · exact fun holds => ⟨n, shown, holds⟩

/-- The page is right just when the ratio has a right percentage. -/
theorem rounded_isPercent_iff {ratio value : ℚ} {v : Number} (rounded : Rounded ratio v)
    (clear : ∀ k : ℤ, k < 100 → |100 * ratio - (k + 1 / 2)| ≤ drift ratio →
      (IsPercent value k ↔ IsPercent value (k + 1))) :
    (∃ p : ℤ, v.round.min 100 = .fin p ∧ IsPercent value p) ↔
      ∃ p, IsPercent ratio p ∧ IsPercent value p := by
  cases rounded with
  | @small w small small' =>
      obtain ⟨low, high⟩ := abs_lt.1 small'
      have zero : ⌊w + 1 / 2⌋ = 0 := by
        rw [Int.floor_eq_iff]
        constructor <;> push_cast <;> linarith
      have shown : Number.min 100 (.round (.fin w)) = .fin (0 : ℤ) := by
        rw [Number.round, zero, Number.min]
        norm_num
      simp only [exists_shown_iff shown, isPercent_of_small small, exists_eq_left]
  | @moved s near =>
      have shown : Number.min 100 (.round (.fin (100 * ratio * s))) =
          .fin (min 100 ⌊100 * ratio * s + 1 / 2⌋ : ℤ) := by
        rw [Number.round, Number.min]
        push_cast
        rfl
      rw [exists_shown_iff shown]
      constructor
      · intro percent
        have ofRatio := isPercent_floor ratio
        exact ⟨_, ofRatio, (isPercent_moved near clear ofRatio).1 percent⟩
      · rintro ⟨p, ofRatio, percent⟩
        exact (isPercent_moved near clear ofRatio).2 percent
  | great far =>
      rcases le_or_gt 0 ratio with nonneg | negative
      · rw [abs_of_nonneg (by linarith)] at far
        have full : 100 ≤ 100 * ratio := by linarith
        have shown : Number.min 100 (.round (.inf (decide (ratio < 0)))) = .fin (100 : ℤ) := by
          rw [decide_eq_false (not_lt.2 nonneg)]
          rfl
        simp only [exists_shown_iff shown, isPercent_of_full full, exists_eq_left]
      · rw [abs_of_neg (by linarith)] at far
        have shown : Number.min 100 (.round (.inf (decide (ratio < 0)))) = .inf true := by
          rw [decide_eq_true negative]
          rfl
        rw [shown]
        constructor
        · rintro ⟨p, eq, -⟩
          cases eq
        · rintro ⟨p, ofRatio, percent⟩
          exact absurd percent (not_isPercent_of_far (by linarith) clear ofRatio)

/-- What overflows after a few roundings was great before. -/
theorem great_of_over {x s : ℚ} {n : ℕ} (near : Near n s) (few : n ≤ 100)
    (beyond : 2 ^ 1023 ≤ |x * s|) : 2 ^ 100 ≤ |x| := by
  have low := near.pos few
  have high := near.lt_two few
  have least : (2 : ℚ) ^ 101 ≤ 2 ^ 1023 := pow_le_pow_right₀ one_le_two (by decide)
  rw [abs_mul, abs_of_pos (a := s) (by linarith)] at beyond
  have double : |x| * s ≤ |x| * 2 := mul_le_mul_of_nonneg_left high.le (abs_nonneg x)
  refine le_of_mul_le_mul_right ?_ two_pos
  rw [← pow_succ]
  exact least.trans (beyond.trans double)

/-- The quotient is rounded, and then its percentage. -/
theorem rounded_quotient {ratio s : ℚ} (near : Near 10 s) :
    Rounded ratio ((ofRat (ratio * s)).mul (.fin 100)) := by
  have low := near.pos (by decide)
  have percent (x : ℚ) : |x * 100| = |x| * 100 := by
    rw [abs_mul, abs_of_pos (by norm_num : (0 : ℚ) < 100)]
  have sign {t : ℚ} (pos : 0 < t) : decide (ratio * t < 0) = decide (ratio < 0) := by
    refine decide_eq_decide.2 ⟨fun less => ?_, fun less => mul_neg_of_neg_of_pos less pos⟩
    by_contra nonneg
    exact not_le.2 less (mul_nonneg (not_lt.1 nonneg) pos.le)
  by_cases tiny : |ratio * s| < minNormal
  · -- below the normal numbers the quotient may have lost its digits, but zero is shown
    obtain ⟨v, divided, least⟩ := ofRat_tiny tiny
    have bound := minNormal_lt
    obtain ⟨w, scaled, small⟩ := ofRat_small (x := v * 100) (by rw [percent]; linarith)
    rw [divided, Number.mul, scaled]
    refine .small ?_ small
    rw [abs_mul, abs_of_pos (a := s) (by linarith)] at tiny
    rw [mul_comm, percent]
    nlinarith [abs_nonneg ratio]
  rw [not_lt] at tiny
  obtain ⟨a, nearA, divided⟩ | ⟨divided, beyond⟩ := ofRat_normal tiny
  · have lowA := nearA.pos (by decide)
    have sizeA : minNormal ≤ |ratio * s * a * 100| := by
      rw [percent, abs_mul (ratio * s), abs_of_pos (a := a) (by linarith)]
      nlinarith [minNormal_pos]
    have product := near.mul nearA (by decide) (by decide)
    have first : ratio * s * a * 100 = 100 * ratio * (s * a) := by ring
    rw [divided, Number.mul]
    obtain ⟨b, nearB, scaled⟩ | ⟨scaled, beyond⟩ := ofRat_normal sizeA
    · have factors := product.mul nearB (by decide) (by decide)
      have second : ratio * s * a * 100 * b = 100 * ratio * (s * a * b) := by ring
      rw [scaled, second]
      exact .moved (factors.mono (by decide))
    · have negative : decide (ratio * s * a * 100 < 0) = decide (ratio < 0) := by
        have factors : ratio * s * a * 100 = ratio * (s * a * 100) := by ring
        rw [factors]
        exact sign (by nlinarith)
      rw [scaled, negative]
      rw [first] at beyond
      exact .great (great_of_over product (by decide) beyond)
  · have great := great_of_over near (by decide) beyond
    have shown : Number.mul (.inf (decide (ratio * s < 0))) (.fin 100) =
        .inf (decide (ratio < 0)) := by
      have positive : decide ((100 : ℚ) < 0) = false := by decide
      rw [sign (by linarith), Number.mul, if_neg (by norm_num), positive, Bool.bne_false]
    rw [divided, shown]
    refine .great ?_
    rw [mul_comm, percent]
    linarith [abs_nonneg ratio]

/-! ## What the page shows -/

/-- What is shown is the percentage of the ratio that is kept, after it was rounded. -/
theorem exists_calcPercent {used hard : Quantity} {ratio : ℚ} (settled : Settled used hard)
    (kept : keptRatio used hard = some ratio) :
    ∃ v, Rounded ratio v ∧ calcPercent used.text hard.text = v.round.min 100 := by
  obtain ⟨y, ofHard, rest⟩ := Option.bind_eq_some_iff.1 kept
  obtain ⟨t, nearT, parsedH⟩ := Quantity.exists_parse ofHard (settled.hard_size y ofHard)
  split_ifs at rest with zero
  · obtain rfl := Option.some.inj rest
    refine ⟨.fin 0, .small (by norm_num) (by norm_num), ?_⟩
    have shown : Number.min 100 (.round (.fin 0)) = .fin 0 := by decide +kernel
    rw [calcPercent, parsedH, zero, mul_zero, zero_mul, shown]
    exact if_pos rfl
  · obtain ⟨x, ofUsed, rfl⟩ := Option.map_eq_some_iff.1 rest
    obtain ⟨s, nearS, parsedU⟩ := Quantity.exists_parse ofUsed (settled.used_size x ofUsed)
    have positive := nearT.pos (by decide)
    have nonzero : 1000 * y * t ≠ 0 :=
      mul_ne_zero (mul_ne_zero (by norm_num) zero) (by linarith)
    have quotient : 1000 * x * s / (1000 * y * t) = x / y * (s * t⁻¹) := by
      field_simp
    have factors := nearS.mul (nearT.inv (by decide)) (by decide) (by decide)
    refine ⟨_, rounded_quotient factors, ?_⟩
    unfold calcPercent
    rw [parsedU, parsedH]
    dsimp only
    rw [if_neg (by simpa using nonzero), Number.div, if_neg nonzero, quotient]

/-- What cannot be read gives no number. -/
theorem calcPercent_nan {used hard : Quantity} (settled : Settled used hard)
    (none_ : keptRatio used hard = none) : calcPercent used.text hard.text = .nan := by
  unfold calcPercent
  cases ofHard : hard.number with
  | none =>
      rw [Quantity.parse_nan ofHard]
      cases parseQuantity used.text <;> rfl
  | some y =>
      rw [keptRatio, ofHard, Option.bind_some] at none_
      split_ifs at none_ with zero
      obtain ⟨t, near, parsed⟩ := Quantity.exists_parse ofHard (settled.hard_size y ofHard)
      have positive := near.pos (by decide)
      have nonzero : 1000 * y * t ≠ 0 :=
        mul_ne_zero (mul_ne_zero (by norm_num) zero) (by linarith)
      rw [Quantity.parse_nan (Option.map_eq_none_iff.1 none_), parsed]
      dsimp only
      rw [if_neg (by simpa using nonzero)]
      rfl

theorem Suffix.factor_pos (s : Suffix) : 0 < s.factor := by
  cases s with
  | power upper sign digits => exact zpow_pos (by norm_num) _
  | _ => norm_num [factor]

theorem Suffix.dropped_pos (s : Suffix) : 0 < s.dropped := by
  unfold dropped
  split
  · exact one_pos
  · exact div_pos s.factor_pos (zpow_pos (by norm_num) _)

/-- Of what is kept, the dropped factor is what is missing. -/
theorem number_of_whole {q : Quantity} (whole : q.Whole) :
    q.number = some (q.value / q.suffix.dropped) := by
  by_cases milli : q.suffix = .milli
  · have digits := q.numeral.not_empty.resolve_right (fun h => h (whole milli))
    rw [Quantity.number, Quantity.value, Numeral.value, milli, whole milli, decimal,
      List.append_nil, signed_mul]
    dsimp only
    rw [if_neg digits, Suffix.factor, Suffix.dropped]
    norm_num [div_eq_mul_inv, signed_mul]
  · have dropped : q.suffix.dropped = q.suffix.factor / 10 ^ q.suffix.tenTo := by
      unfold Suffix.dropped
      split
      · contradiction
      · rfl
    have nonzero := q.suffix.factor_pos.ne'
    rw [Quantity.number_other milli, Quantity.value, dropped]
    congr 1
    field_simp

theorem keptRatio_of_sameUnit {used hard : Quantity} (same : SameUnit used hard) :
    keptRatio used hard = some (used.value / hard.value) := by
  obtain ⟨whole, whole', eq⟩ := same
  have nonzero := hard.suffix.dropped_pos.ne'
  rw [keptRatio, number_of_whole whole', Option.bind_some, number_of_whole whole, eq]
  split_ifs with zero
  · have limit : hard.value = 0 := (div_eq_zero_iff.1 zero).resolve_right nonzero
    rw [limit, div_zero]
  · rw [Option.map_some, div_div_div_cancel_right₀ nonzero]

theorem agrees_iff {used hard : Quantity} :
    Agrees used hard ↔ ∃ ratio, keptRatio used hard = some ratio ∧
      ∃ p, IsPercent ratio p ∧ IsPercent (used.value / hard.value) p := by
  constructor
  · rintro (same | ⟨kept, full, full'⟩ | ⟨n, kept, near, near'⟩)
    · exact ⟨_, keptRatio_of_sameUnit same, _, isPercent_floor _, isPercent_floor _⟩
    · exact ⟨_, kept, 100, isPercent_hundred.2 full, isPercent_hundred.2 full'⟩
    · exact ⟨_, kept, min 100 n, ⟨n, near, rfl⟩, ⟨n, near', rfl⟩⟩
  · rintro ⟨ratio, kept, p, percent, percent'⟩
    by_cases hundred : p = 100
    · subst hundred
      exact .full kept (isPercent_hundred.1 percent) (isPercent_hundred.1 percent')
    · obtain ⟨n, near, rfl⟩ := percent
      obtain ⟨m, near', eq⟩ := percent'
      obtain rfl : n = m := by omega
      exact .share n kept near near'

/-- The percentage is right just when the numbers that are kept make it. -/
theorem calcPercent_holds_iff (used hard : Quantity) (settled : Settled used hard) :
    Holds used hard ↔ Agrees used hard := by
  rw [agrees_iff]
  cases kept : keptRatio used hard with
  | none =>
      constructor
      · rintro ⟨p, shown, -⟩
        rw [calcPercent_nan settled kept] at shown
        cases shown
      · rintro ⟨ratio, none_, -⟩
        cases none_
  | some ratio =>
      obtain ⟨v, rounded, shown⟩ := exists_calcPercent settled kept
      rw [Holds, shown, rounded_isPercent_iff rounded (settled.clear ratio kept)]
      simp only [Option.some.injEq, exists_eq_left']

/-- A natural number with a suffix. -/
def quantity (n : ℕ) (suffix : Suffix) : Quantity where
  numeral :=
    { sign := none
      whole := Nat.toDigits 10 n
      fraction := none
      whole_digits := fun _ mem => Nat.isDigit_of_mem_toDigits (by decide) (by decide) mem
      fraction_digits := fun _ mem => by cases mem
      not_empty := .inl Nat.toDigits_ne_nil }
  suffix := suffix

theorem quantity_value (n : ℕ) (suffix : Suffix) :
    (quantity n suffix).value = n * suffix.factor := by
  have digits : natOf (Nat.toDigits 10 n) = n := Nat.ofDigitChars_ten_toDigits
  have value : (quantity n suffix).numeral.value = n := by
    change (natOf (Nat.toDigits 10 n ++ []) : ℚ) / 10 ^ 0 = n
    rw [List.append_nil, digits, pow_zero, div_one]
  rw [Quantity.value, value]
  rfl

theorem quarter_sameUnit : SameUnit (quantity 250 .milli) (quantity 1 .one) := by
  refine ⟨fun _ => rfl, fun _ => rfl, ?_⟩
  norm_num [quantity, Suffix.dropped, Suffix.factor, Suffix.tenTo]

theorem quarter_number : (quantity 250 .milli).number = some (1 / 4) := by
  rw [number_of_whole quarter_sameUnit.1, quantity_value]
  norm_num [quantity, Suffix.factor, Suffix.dropped]

theorem core_number : (quantity 1 .one).number = some 1 := by
  rw [number_of_whole quarter_sameUnit.2.1, quantity_value]
  norm_num [quantity, Suffix.factor, Suffix.dropped, Suffix.tenTo]

theorem quarter_settled : Settled (quantity 250 .milli) (quantity 1 .one) where
  used_size x kept := by
    rw [quarter_number] at kept
    rw [← Option.some.inj kept]
    exact .inr (by decide +kernel)
  hard_size y kept := by
    rw [core_number] at kept
    rw [← Option.some.inj kept]
    exact .inr (by decide +kernel)
  clear ratio kept k _ reached := by
    rw [keptRatio, core_number, Option.bind_some, quarter_number] at kept
    norm_num at kept
    rw [← kept] at reached
    have small : drift (1 / 4) < 1 / 4 := by norm_num [drift, ulp]
    have half : 1 / 2 ≤ |100 * (1 / 4) - ((k : ℚ) + 1 / 2)| := by
      rw [le_abs]
      rcases le_or_gt k 24 with less | more
      · have bound : (k : ℚ) ≤ 24 := by exact_mod_cast less
        exact .inl (by linarith)
      · have bound : (25 : ℚ) ≤ k := by exact_mod_cast more
        exact .inr (by linarith)
    linarith

theorem quarter_holds : Holds (quantity 250 .milli) (quantity 1 .one) :=
  (calcPercent_holds_iff _ _ quarter_settled).2 (.units quarter_sameUnit)

/-- Half of the memory is shown as all of it. -/
theorem half_gibibyte_full :
    (quantity 512 .mebi).text = "512Mi" ∧ (quantity 1 .gibi).text = "1Gi" ∧
      calcPercent "512Mi" "1Gi" = .fin 100 ∧
      (quantity 512 .mebi).value / (quantity 1 .gibi).value = 1 / 2 ∧
      ¬Holds (quantity 512 .mebi) (quantity 1 .gibi) := by
  have used : (quantity 512 .mebi).text = "512Mi" := by decide +kernel
  have hard : (quantity 1 .gibi).text = "1Gi" := by decide +kernel
  have full : calcPercent "512Mi" "1Gi" = .fin 100 := by decide +kernel
  have half : (quantity 512 .mebi).value / (quantity 1 .gibi).value = 1 / 2 := by
    rw [quantity_value, quantity_value, Suffix.factor, Suffix.factor]
    norm_num
  refine ⟨used, hard, full, half, ?_⟩
  rintro ⟨p, shown, n, near, rfl⟩
  rw [used, hard, full] at shown
  have hundred : 100 = min 100 n := by exact_mod_cast Number.fin.inj shown
  have past : (100 : ℚ) ≤ n := by exact_mod_cast min_eq_left_iff.1 hundred.symm
  rw [half] at near
  linarith [(abs_le.1 near).1]

end K8sPlatform.Frontend
