import K8sPlatform.Lib.JsonTree
import K8sPlatform.Lib.Text
import Mathlib.Data.List.Sort

/-! # The grammar of JSON texts, and writing them -/

namespace JsonText

universe u

def isSpace (c : Char) : Bool := c == ' ' || c == '\n' || c == '\r' || c == '\t'

def Digits (t : List Char) : Prop := t ≠ [] ∧ ∀ c ∈ t, c.isDigit = true

/-- A natural number without leading zeros. -/
def Whole (t : List Char) : Prop := Digits t ∧ (t = ['0'] ∨ ∀ rest, t ≠ '0' :: rest)

def Fraction (t : List Char) : Prop := t = [] ∨ ∃ digits, Digits digits ∧ t = '.' :: digits

def Exponent (t : List Char) : Prop :=
  t = [] ∨ ∃ e sign digits, (e = 'e' ∨ e = 'E') ∧ (sign = [] ∨ sign = ['+'] ∨ sign = ['-']) ∧
    Digits digits ∧ t = e :: sign ++ digits

def Number (t : List Char) : Prop :=
  ∃ minus whole fraction exponent, (minus = [] ∨ minus = ['-']) ∧ Whole whole ∧
    Fraction fraction ∧ Exponent exponent ∧ t = minus ++ whole ++ fraction ++ exponent

def isHex (c : Char) : Bool :=
  c.isDigit || ('a' ≤ c && c ≤ 'f') || ('A' ≤ c && c ≤ 'F')

/-- What stands between the quotation marks of a string. -/
inductive Chars : List Char → Prop
  | nil : Chars []
  | plain {c : Char} {rest : List Char} (printable : 0x20 ≤ c.toNat) (quotation : c ≠ '"')
      (backslash : c ≠ '\\') : Chars rest → Chars (c :: rest)
  | escape {c : Char} {rest : List Char}
      (letter : c ∈ ['"', '\\', '/', 'b', 'f', 'n', 'r', 't']) :
      Chars rest → Chars ('\\' :: c :: rest)
  | unicode {a b c d : Char} {rest : List Char} (hex : ∀ x ∈ [a, b, c, d], isHex x = true) :
      Chars rest → Chars ('\\' :: 'u' :: a :: b :: c :: d :: rest)

inductive Symbol
  | value | element | elements | member | members

/-- What the grammar derives. An element is a value with space around it. -/
inductive Derives : Symbol → List Char → Prop
  | null : Derives .value ['n', 'u', 'l', 'l']
  | true : Derives .value ['t', 'r', 'u', 'e']
  | false : Derives .value ['f', 'a', 'l', 's', 'e']
  | number {t : List Char} : Number t → Derives .value t
  | string {cs : List Char} : Chars cs → Derives .value ('"' :: cs ++ ['"'])
  | emptyArray {s : List Char} : (∀ c ∈ s, isSpace c = true) → Derives .value ('[' :: s ++ [']'])
  | array {es : List Char} : Derives .elements es → Derives .value ('[' :: es ++ [']'])
  | emptyObject {s : List Char} : (∀ c ∈ s, isSpace c = true) →
      Derives .value ('{' :: s ++ ['}'])
  | object {ms : List Char} : Derives .members ms → Derives .value ('{' :: ms ++ ['}'])
  | element {s v s' : List Char} : (∀ c ∈ s, isSpace c = true) → Derives .value v →
      (∀ c ∈ s', isSpace c = true) → Derives .element (s ++ v ++ s')
  | lastElement {e : List Char} : Derives .element e → Derives .elements e
  | moreElements {e es : List Char} : Derives .element e → Derives .elements es →
      Derives .elements (e ++ ',' :: es)
  | member {s cs s' e : List Char} : (∀ c ∈ s, isSpace c = true) → Chars cs →
      (∀ c ∈ s', isSpace c = true) → Derives .element e →
      Derives .member (s ++ '"' :: cs ++ '"' :: s' ++ ':' :: e)
  | lastMember {m : List Char} : Derives .member m → Derives .members m
  | moreMembers {m ms : List Char} : Derives .member m → Derives .members ms →
      Derives .members (m ++ ',' :: ms)

/-- The bytes are a document. -/
def Valid (bytes : List UInt8) : Prop := ∃ t, Derives .element t ∧ bytes = Text.utf8 t

theorem Derives.alone {v : List Char} (h : Derives .value v) : Derives .element v := by
  have bare : Derives .element ([] ++ v ++ []) :=
    .element (fun _ mem => nomatch mem) h (fun _ mem => nomatch mem)
  rwa [List.nil_append, List.append_nil] at bare

/-- The characters at which a document can end. -/
def closes (c : Char) : Bool :=
  isSpace c || c.isDigit || c == 'l' || c == 'e' || c == '"' || c == ']' || c == '}'

def Ends (t : List Char) : Prop := ∃ front c, t = front ++ [c] ∧ closes c = true

theorem ends_concat {front : List Char} {c : Char} (h : closes c = true) : Ends (front ++ [c]) :=
  ⟨front, c, rfl, h⟩

theorem Ends.append {t : List Char} (h : Ends t) (front : List Char) : Ends (front ++ t) := by
  obtain ⟨inner, c, rfl, close⟩ := h
  exact ⟨front ++ inner, c, (List.append_assoc ..).symm, close⟩

theorem Digits.ends {t : List Char} (h : Digits t) : Ends t := by
  obtain ⟨notEmpty, digits⟩ := h
  refine ⟨t.dropLast, t.getLast notEmpty, (List.dropLast_append_getLast notEmpty).symm, ?_⟩
  have last := digits _ (List.getLast_mem notEmpty)
  simp only [closes, last, Bool.or_true, Bool.true_or]

theorem Number.ends {t : List Char} (h : Number t) : Ends t := by
  obtain ⟨minus, whole, fraction, exponent, -, ofWhole, ofFraction, ofExponent, rfl⟩ := h
  obtain rfl | ⟨e, sign, digits, -, -, ofDigits, rfl⟩ := ofExponent
  · obtain rfl | ⟨digits, ofDigits, rfl⟩ := ofFraction
    · rw [List.append_nil, List.append_nil]
      exact ofWhole.1.ends.append minus
    · rw [List.append_nil]
      exact (ofDigits.ends.append ['.']).append (minus ++ whole)
  · exact (ofDigits.ends.append (e :: sign)).append (minus ++ whole ++ fraction)

theorem Derives.value_ends {t : List Char} (h : Derives .value t) : Ends t := by
  cases h with
  | null => exact ⟨['n', 'u', 'l'], 'l', rfl, rfl⟩
  | true => exact ⟨['t', 'r', 'u'], 'e', rfl, rfl⟩
  | false => exact ⟨['f', 'a', 'l', 's'], 'e', rfl, rfl⟩
  | number h => exact h.ends
  | string | emptyArray | array | emptyObject | object => exact ends_concat rfl

theorem Derives.element_ends {t : List Char} (h : Derives .element t) : Ends t := by
  cases h with
  | @element s v s' _ ofValue after =>
      by_cases empty : s' = []
      · rw [empty, List.append_nil]
        exact ofValue.value_ends.append s
      · refine Ends.append ?_ (s ++ v)
        refine ⟨s'.dropLast, s'.getLast empty, (List.dropLast_append_getLast empty).symm, ?_⟩
        have last := after _ (List.getLast_mem empty)
        simp only [closes, last, Bool.true_or]

theorem utf8_append (s t : List Char) : Text.utf8 (s ++ t) = Text.utf8 s ++ Text.utf8 t :=
  List.flatMap_append

theorem closes_ascii {c : Char} (h : closes c = true) : c.toNat < 128 := by
  simp only [closes, isSpace, Char.isDigit, Bool.or_eq_true, Bool.and_eq_true, beq_iff_eq,
    decide_eq_true_eq, or_assoc] at h
  obtain rfl | rfl | rfl | rfl | ⟨-, digit⟩ | rfl | rfl | rfl | rfl | rfl := h
  case inr.inr.inr.inr.inl =>
    have small : c.toNat ≤ 57 := UInt32.le_iff_toNat_le.1 digit
    omega
  all_goals decide

theorem utf8EncodeChar_ascii {c : Char} (h : c.toNat < 128) :
    String.utf8EncodeChar c = [UInt8.ofNat c.toNat] := by
  have small : c.val ≤ 127 := UInt32.le_iff_toNat_le.2 (Nat.lt_succ_iff.1 h)
  rw [String.utf8EncodeChar_eq_singleton (Char.utf8Size_eq_one_iff.2 small)]
  rfl

/-- A text is no document when its last byte is none at which documents can end. -/
theorem not_valid_of_last {c : Char} (ascii : c.toNat < 128) (inner : closes c = false)
    (front : List UInt8) : ¬Valid (front ++ [UInt8.ofNat c.toNat]) := by
  rintro ⟨t, derived, eq⟩
  obtain ⟨before, d, rfl, close⟩ := derived.element_ends
  have small : d.toNat < 128 := closes_ascii close
  rw [utf8_append, Text.utf8, Text.utf8, List.flatMap_singleton, utf8EncodeChar_ascii small] at eq
  have codes : c.toNat = d.toNat := by
    have bytes := congrArg UInt8.toNat (List.singleton_inj.1 (List.append_inj_right' eq rfl))
    rw [UInt8.toNat_ofNat', UInt8.toNat_ofNat'] at bytes
    omega
  rw [Char.toNat_inj.1 codes, close] at inner
  cases inner

/-! ## Writing -/

def hexEscape (n : Nat) : List Char :=
  ['\\', 'u', Text.hexDigit (n / 4096 % 16), Text.hexDigit (n / 256 % 16),
    Text.hexDigit (n / 16 % 16), Text.hexDigit (n % 16)]

/-- A character inside a string; what HTML or JavaScript would take for its own is escaped too. -/
def escapeChar (c : Char) : List Char :=
  if c = '"' ∨ c = '\\' then ['\\', c]
  else if c.toNat = 8 then ['\\', 'b']
  else if c.toNat = 12 then ['\\', 'f']
  else if c = '\n' then ['\\', 'n']
  else if c = '\r' then ['\\', 'r']
  else if c = '\t' then ['\\', 't']
  else if c.toNat < 0x20 ∨ c ∈ ['<', '>', '&'] ∨ c.toNat = 0x2028 ∨ c.toNat = 0x2029 then
    hexEscape c.toNat
  else [c]

def quote (s : String) : List Char := '"' :: s.toList.flatMap escapeChar ++ ['"']

def member (f : String × List Char) : List Char := quote f.1 ++ ':' :: f.2

def before (f g : String × List Char) : Bool :=
  f.1.toList.lex g.1.toList fun c d => decide (c.toNat < d.toNat)

variable {F : Type u} (format : F → Option (List Char))

mutual

/-- The text of a value, without spaces and with the fields in the order of their keys; `none`
when a number cannot be written. -/
def marshal : JsonTree F → Option (List Char)
  | .null => some ['n', 'u', 'l', 'l']
  | .bool b => some (if b then ['t', 'r', 'u', 'e'] else ['f', 'a', 'l', 's', 'e'])
  | .num x => format x
  | .str s => some (quote s)
  | .arr items => (marshalItems items).map fun ts => '[' :: [','].intercalate ts ++ [']']
  | .obj fields => (marshalFields fields).map fun fs =>
      '{' :: [','].intercalate ((fs.insertionSort (before · ·)).map member) ++ ['}']

def marshalItems : List (JsonTree F) → Option (List (List Char))
  | [] => some []
  | v :: rest => do
      let t ← marshal v
      let ts ← marshalItems rest
      return t :: ts

def marshalFields : List (String × JsonTree F) → Option (List (String × List Char))
  | [] => some []
  | (key, v) :: rest => do
      let t ← marshal v
      let fs ← marshalFields rest
      return (key, t) :: fs

end

theorem isHex_hexDigit {n : Nat} (small : n < 16) : isHex (Text.hexDigit n) = true := by
  have all : ∀ m < 16, isHex (Text.hexDigit m) = true := by decide +kernel
  exact all n small

theorem chars_escapeChar (c : Char) {rest : List Char} (h : Chars rest) :
    Chars (escapeChar c ++ rest) := by
  unfold escapeChar
  split_ifs with quotation
  · obtain rfl | rfl := quotation <;> exact .escape (by decide) h
  · exact .escape (by decide) h
  · exact .escape (by decide) h
  · exact .escape (by decide) h
  · exact .escape (by decide) h
  · exact .escape (by decide) h
  · refine .unicode (fun x mem => ?_) h
    simp only [List.mem_cons, List.not_mem_nil, or_false] at mem
    obtain rfl | rfl | rfl | rfl := mem <;> exact isHex_hexDigit (Nat.mod_lt _ (by decide))
  · rename_i printable
    obtain ⟨noQuotation, noBackslash⟩ := not_or.1 quotation
    exact .plain (by omega) noQuotation noBackslash h

theorem chars_flatMap (cs : List Char) : Chars (cs.flatMap escapeChar) := by
  induction cs with
  | nil => exact .nil
  | cons c cs ih =>
      rw [List.flatMap_cons]
      exact chars_escapeChar c ih

theorem derives_elements {ts : List (List Char)} (notEmpty : ts ≠ [])
    (each : ∀ t ∈ ts, Derives .value t) : Derives .elements ([','].intercalate ts) := by
  induction ts with
  | nil => exact absurd rfl notEmpty
  | cons t ts ih =>
      obtain ⟨first, rest⟩ := List.forall_mem_cons.1 each
      cases ts with
      | nil =>
          rw [List.intercalate_singleton]
          exact .lastElement first.alone
      | cons next ts =>
          rw [List.intercalate_cons_cons, List.append_assoc]
          exact .moreElements first.alone (ih (List.cons_ne_nil next ts) rest)

theorem derives_member {f : String × List Char} (h : Derives .value f.2) :
    Derives .member (member f) := by
  have bare : Derives .member
      ([] ++ '"' :: f.1.toList.flatMap escapeChar ++ '"' :: [] ++ ':' :: f.2) :=
    .member (fun _ mem => nomatch mem) (chars_flatMap _) (fun _ mem => nomatch mem) h.alone
  exact bare

theorem derives_members {fs : List (String × List Char)} (notEmpty : fs ≠ [])
    (each : ∀ f ∈ fs, Derives .value f.2) :
    Derives .members ([','].intercalate (fs.map member)) := by
  induction fs with
  | nil => exact absurd rfl notEmpty
  | cons f fs ih =>
      obtain ⟨first, rest⟩ := List.forall_mem_cons.1 each
      cases fs with
      | nil =>
          rw [List.map_singleton, List.intercalate_singleton]
          exact .lastMember (derives_member first)
      | cons next fs =>
          rw [List.map_cons, List.map_cons, List.intercalate_cons_cons, List.append_assoc]
          exact .moreMembers (derives_member first) (ih (List.cons_ne_nil next fs) rest)

/-- What is written for a number is one. -/
def WritesNumbers : Prop := ∀ x t, format x = some t → Number t

variable {format}

mutual

/-- What is written is derived by the grammar, if numbers are. -/
theorem derives_marshal (numbers : WritesNumbers format) : ∀ (v : JsonTree F) {t : List Char},
    marshal format v = some t → Derives .value t
  | .null, t, written => by
      obtain rfl := Option.some.inj written
      exact .null
  | .bool b, t, written => by
      obtain rfl := Option.some.inj written
      cases b with
      | false => exact .false
      | true => exact .true
  | .num x, t, written => .number (numbers x t written)
  | .str s, t, written => by
      obtain rfl := Option.some.inj written
      exact .string (chars_flatMap s.toList)
  | .arr items, t, written => by
      obtain ⟨ts, each, rfl⟩ := Option.map_eq_some_iff.1 written
      by_cases empty : ts = []
      · rw [empty]
        exact .emptyArray (fun _ mem => nomatch mem)
      · exact .array (derives_elements empty (derives_marshalItems numbers items each))
  | .obj fields, t, written => by
      obtain ⟨fs, each, rfl⟩ := Option.map_eq_some_iff.1 written
      by_cases empty : fs = []
      · rw [empty]
        exact .emptyObject (fun _ mem => nomatch mem)
      · have derived := derives_marshalFields numbers fields each
        refine .object (derives_members (fun none_ => empty ?_) fun f mem => ?_)
        · rw [← List.length_eq_zero_iff, ← List.length_insertionSort (before · ·), none_]
          rfl
        · exact derived f ((List.mem_insertionSort _).1 mem)

theorem derives_marshalItems (numbers : WritesNumbers format) :
    ∀ (items : List (JsonTree F)) {ts : List (List Char)},
      marshalItems format items = some ts → ∀ t ∈ ts, Derives .value t
  | [], ts, written => by
      obtain rfl := Option.some.inj written
      exact fun _ mem => nomatch mem
  | v :: rest, ts, written => by
      simp only [marshalItems, Option.bind_eq_bind, Option.bind_eq_some_iff, Option.pure_def,
        Option.some.injEq] at written
      obtain ⟨t, first, more, others, rfl⟩ := written
      exact List.forall_mem_cons.2
        ⟨derives_marshal numbers v first, derives_marshalItems numbers rest others⟩

theorem derives_marshalFields (numbers : WritesNumbers format) :
    ∀ (fields : List (String × JsonTree F)) {fs : List (String × List Char)},
      marshalFields format fields = some fs → ∀ f ∈ fs, Derives .value f.2
  | [], fs, written => by
      obtain rfl := Option.some.inj written
      exact fun _ mem => nomatch mem
  | (key, v) :: rest, fs, written => by
      simp only [marshalFields, Option.bind_eq_bind, Option.bind_eq_some_iff, Option.pure_def,
        Option.some.injEq] at written
      obtain ⟨t, first, more, others, rfl⟩ := written
      exact List.forall_mem_cons.2
        ⟨derives_marshal numbers v first, derives_marshalFields numbers rest others⟩

end

theorem valid_marshal (numbers : WritesNumbers format) {v : JsonTree F} {t : List Char}
    (written : marshal format v = some t) : Valid (Text.utf8 t) :=
  ⟨t, (derives_marshal numbers v written).alone, rfl⟩

end JsonText
