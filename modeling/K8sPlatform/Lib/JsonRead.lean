import K8sPlatform.Lib.JsonText

/-! # Reading JSON texts -/

namespace JsonText

universe u

def hexValue (c : Char) : Option Nat :=
  if c.isDigit then some (c.toNat - 48)
  else if 'a' ≤ c ∧ c ≤ 'f' then some (c.toNat - 87)
  else if 'A' ≤ c ∧ c ≤ 'F' then some (c.toNat - 55)
  else none

/-- The code unit of four hexadecimal digits. -/
def codeUnit (a b c d : Char) : Option Nat :=
  match hexValue a, hexValue b, hexValue c, hexValue d with
  | some a, some b, some c, some d => some (4096 * a + 256 * b + 16 * c + d)
  | _, _, _, _ => none

def isSurrogate (n : Nat) : Bool := 0xD800 ≤ n && n < 0xE000

/-- The character of a pair of surrogates. -/
def pairChar (high low : Nat) : Option Char :=
  if 0xD800 ≤ high ∧ high < 0xDC00 ∧ 0xDC00 ≤ low ∧ low < 0xE000 then
    some (Char.ofNat ((high - 0xD800) * 1024 + (low - 0xDC00) + 0x10000))
  else none

def unescape (c : Char) : Option Char :=
  if c = '"' ∨ c = '\\' ∨ c = '/' then some c
  else if c = 'b' then some (Char.ofNat 8)
  else if c = 'f' then some (Char.ofNat 12)
  else if c = 'n' then some '\n'
  else if c = 'r' then some '\r'
  else if c = 't' then some '\t'
  else none

def push (c : Char) (p : List Char × List Char) : List Char × List Char := (c :: p.1, p.2)

/-- The rest of a string after its first quotation mark, and the text after its last one. A
surrogate that is in no pair becomes the replacement character. -/
def readChars : List Char → Option (List Char × List Char)
  | [] => none
  | '"' :: t => some ([], t)
  | '\\' :: 'u' :: a :: b :: c :: d :: t =>
      match codeUnit a b c d with
      | none => none
      | some n =>
          if isSurrogate n then
            match t with
            | '\\' :: 'u' :: a' :: b' :: c' :: d' :: t' =>
                match (codeUnit a' b' c' d').bind (pairChar n) with
                | some x => (readChars t').map (push x)
                | none => (readChars ('\\' :: 'u' :: a' :: b' :: c' :: d' :: t')).map
                    (push (Char.ofNat 0xFFFD))
            | t => (readChars t).map (push (Char.ofNat 0xFFFD))
          else (readChars t).map (push (Char.ofNat n))
  | '\\' :: e :: t =>
      match unescape e with
      | some x => (readChars t).map (push x)
      | none => none
  | c :: t => if c.toNat < 0x20 then none else (readChars t).map (push c)

variable {F : Type u}

/-- A value that is one word. -/
def literal (word : List Char) (v : JsonTree F) (t : List Char) :
    Option (JsonTree F × List Char) :=
  if word.isPrefixOf t then some (v, t.drop word.length) else none

def isNumeric (c : Char) : Bool :=
  c.isDigit || c == '-' || c == '+' || c == '.' || c == 'e' || c == 'E'

def skipSpace (t : List Char) : List Char := t.dropWhile isSpace

section

variable (readNumber : List Char → Option F)

mutual

/-- A value and the text after it, with fuel for its depth and its length. -/
def readValue : Nat → List Char → Option (JsonTree F × List Char)
  | 0, _ => none
  | n + 1, t =>
      match skipSpace t with
      | [] => none
      | c :: rest =>
          if c = 'n' then literal ['u', 'l', 'l'] .null rest
          else if c = 't' then literal ['r', 'u', 'e'] (.bool true) rest
          else if c = 'f' then literal ['a', 'l', 's', 'e'] (.bool false) rest
          else if c = '"' then
            (readChars rest).map fun p => (.str (String.ofList p.1), p.2)
          else if c = '[' then
            match skipSpace rest with
            | ']' :: rest => some (.arr [], rest)
            | rest => (readItems n rest).map fun p => (.arr p.1, p.2)
          else if c = '{' then
            match skipSpace rest with
            | '}' :: rest => some (.obj [], rest)
            | rest => (readFields n rest).map fun p => (.obj p.1, p.2)
          else
            (readNumber ((c :: rest).takeWhile isNumeric)).map fun x =>
              (.num x, (c :: rest).dropWhile isNumeric)

/-- The items of an array up to its bracket; there is one at least. -/
def readItems : Nat → List Char → Option (List (JsonTree F) × List Char)
  | 0, _ => none
  | n + 1, t =>
      match readValue n t with
      | none => none
      | some (v, rest) =>
          match skipSpace rest with
          | ',' :: rest => (readItems n rest).map fun p => (v :: p.1, p.2)
          | ']' :: rest => some ([v], rest)
          | _ => none

/-- The fields of an object up to its brace; there is one at least. -/
def readFields : Nat → List Char → Option (List (String × JsonTree F) × List Char)
  | 0, _ => none
  | n + 1, t =>
      match skipSpace t with
      | '"' :: t =>
          match readChars t with
          | none => none
          | some (key, rest) =>
              match skipSpace rest with
              | ':' :: rest =>
                  match readValue n rest with
                  | none => none
                  | some (v, rest) =>
                      match skipSpace rest with
                      | ',' :: rest =>
                          (readFields n rest).map fun p => ((String.ofList key, v) :: p.1, p.2)
                      | '}' :: rest => some ([(String.ofList key, v)], rest)
                      | _ => none
              | _ => none
      | _ => none

end

/-- The value of a whole text. -/
def read (t : List Char) : Option (JsonTree F) :=
  match readValue readNumber (t.length + 1) t with
  | some (v, rest) => if skipSpace rest = [] then some v else none
  | none => none

end

section

variable (format : F → List Char)

mutual

/-- The text of a value, without spaces and with the fields in their order. -/
def write : JsonTree F → List Char
  | .null => ['n', 'u', 'l', 'l']
  | .bool b => if b then ['t', 'r', 'u', 'e'] else ['f', 'a', 'l', 's', 'e']
  | .num x => format x
  | .str s => quote s
  | .arr items => '[' :: [','].intercalate (writeItems items) ++ [']']
  | .obj fields => '{' :: [','].intercalate (writeFields fields) ++ ['}']

def writeItems : List (JsonTree F) → List (List Char)
  | [] => []
  | v :: rest => write v :: writeItems rest

def writeFields : List (String × JsonTree F) → List (List Char)
  | [] => []
  | (key, v) :: rest => member (key, write v) :: writeFields rest

end

end

/-! ## What is written is read -/

theorem hexValue_hexDigit {n : Nat} (small : n < 16) : hexValue (Text.hexDigit n) = some n := by
  have all : ∀ m < 16, hexValue (Text.hexDigit m) = some m := by decide +kernel
  exact all n small

theorem codeUnit_hexEscape {n : Nat} (small : n < 65536) :
    codeUnit (Text.hexDigit (n / 4096 % 16)) (Text.hexDigit (n / 256 % 16))
      (Text.hexDigit (n / 16 % 16)) (Text.hexDigit (n % 16)) = some n := by
  unfold codeUnit
  rw [hexValue_hexDigit (by omega), hexValue_hexDigit (by omega), hexValue_hexDigit (by omega),
    hexValue_hexDigit (by omega)]
  simp only [Option.some.injEq]
  omega

theorem readChars_hexEscape {c : Char} (small : c.toNat < 0xD800) (t : List Char) :
    readChars (hexEscape c.toNat ++ t) = (readChars t).map (push c) := by
  have whole : isSurrogate c.toNat = false := by
    simp only [isSurrogate, Bool.and_eq_false_iff, decide_eq_false_iff_not]
    omega
  simp only [hexEscape, List.cons_append, List.nil_append]
  rw [readChars, codeUnit_hexEscape (by omega)]
  simp only [whole, Bool.false_eq_true, if_false, Char.ofNat_toNat]

theorem readChars_escape {e x : Char} (notUnicode : e ≠ 'u') (h : unescape e = some x)
    (t : List Char) : readChars ('\\' :: e :: t) = (readChars t).map (push x) := by
  rw [readChars]
  · rw [h]
  · intro _ _ _ _ _ eq
    exact absurd eq notUnicode

theorem readChars_plain {c : Char} (quotation : c ≠ '"') (backslash : c ≠ '\\')
    (printable : 0x20 ≤ c.toNat) (t : List Char) :
    readChars (c :: t) = (readChars t).map (push c) := by
  rw [readChars]
  · rw [if_neg (Nat.not_lt.2 printable)]
  · exact quotation
  · intro _ _ _ _ _ eq
    exact absurd eq backslash
  · intro _ _ eq
    exact absurd eq backslash

theorem readChars_escapeChar (c : Char) (t : List Char) :
    readChars (escapeChar c ++ t) = (readChars t).map (push c) := by
  unfold escapeChar
  have named {n : Nat} (eq : c.toNat = n) : Char.ofNat n = c := by rw [← eq, Char.ofNat_toNat]
  split_ifs with own backspace feed newline return_ tab others
  · obtain rfl | rfl := own
    · exact readChars_escape (by decide) rfl t
    · exact readChars_escape (by decide) rfl t
  · exact readChars_escape (e := 'b') (by decide) (congrArg some (named backspace)) t
  · exact readChars_escape (e := 'f') (by decide) (congrArg some (named feed)) t
  · exact readChars_escape (e := 'n') (by decide) (congrArg some newline.symm) t
  · exact readChars_escape (e := 'r') (by decide) (congrArg some return_.symm) t
  · exact readChars_escape (e := 't') (by decide) (congrArg some tab.symm) t
  · apply readChars_hexEscape
    obtain control | html | separator | separator := others
    · omega
    · simp only [List.mem_cons, List.not_mem_nil, or_false] at html
      obtain rfl | rfl | rfl := html <;> decide
    · omega
    · omega
  · rw [List.singleton_append]
    apply readChars_plain
    · exact fun eq => own (.inl eq)
    · exact fun eq => own (.inr eq)
    · by_contra control
      exact others (.inl (Nat.lt_of_not_le control))

theorem readChars_quoted (s : String) (t : List Char) :
    readChars (s.toList.flatMap escapeChar ++ '"' :: t) = some (s.toList, t) := by
  induction s.toList with
  | nil => rfl
  | cons c cs ih =>
      rw [List.flatMap_cons, List.append_assoc, readChars_escapeChar, ih]
      rfl

/-- What comes after a number does not go on with it. -/
def Stops (t : List Char) : Prop := ∀ c ∈ t.head?, isNumeric c = false

/-- A number is written as a text of its own characters, and read again. -/
structure Numbers (format : F → List Char) (readNumber : List Char → Option F) : Prop where
  own : ∀ x, format x ≠ [] ∧ ∀ c ∈ format x, isNumeric c = true
  first : ∀ x c rest, format x = c :: rest → c.isDigit = true ∨ c = '-'
  reads : ∀ x, readNumber (format x) = some x

variable {format : F → List Char} {readNumber : List Char → Option F}

theorem skipSpace_cons {c : Char} (solid : isSpace c = false) (t : List Char) :
    skipSpace (c :: t) = c :: t := by
  simp [skipSpace, solid]

theorem readValue_num (numbers : Numbers format readNumber) (n : Nat) (x : F) {t : List Char}
    (stops : Stops t) : readValue readNumber (n + 1) (format x ++ t) = some (.num x, t) := by
  obtain ⟨some, own⟩ := numbers.own x
  have taken : (format x ++ t).takeWhile isNumeric = format x := by
    rw [List.takeWhile_append_of_pos own]
    cases t with
    | nil => simp
    | cons c rest => simp [stops c (by simp)]
  have dropped : (format x ++ t).dropWhile isNumeric = t := by
    rw [List.dropWhile_append_of_pos own]
    cases t with
    | nil => rfl
    | cons c rest => simp [stops c (by simp)]
  obtain ⟨c, rest, eq⟩ := List.exists_cons_of_ne_nil some
  have head := numbers.first x c rest eq
  have others : isSpace c = false ∧ c ≠ 'n' ∧ c ≠ 't' ∧ c ≠ 'f' ∧ c ≠ '"' ∧ c ≠ '[' ∧ c ≠ '{' := by
    obtain digit | rfl := head
    · refine ⟨?_, ?_, ?_, ?_, ?_, ?_, ?_⟩
      · by_contra space
        simp only [isSpace, Bool.not_eq_false, Bool.or_eq_true, beq_iff_eq] at space
        obtain ((rfl | rfl) | rfl) | rfl := space <;> cases digit
      all_goals
        rintro rfl
        cases digit
    · decide
  rw [eq, List.cons_append] at taken dropped ⊢
  obtain ⟨solid, null, true_, false_, quotation, bracket, brace⟩ := others
  rw [readValue, skipSpace_cons solid]
  simp only [null, true_, false_, quotation, bracket, brace, if_false, taken, dropped]
  rw [← eq, numbers.reads]
  rfl

theorem stops_cons {c : Char} (other : isNumeric c = false) (t : List Char) : Stops (c :: t) := by
  intro d mem
  obtain rfl : c = d := by simpa using mem
  exact other

/-- The first character of a value says what it is, and is no space. -/
theorem write_ne_nil (numbers : Numbers format readNumber) (v : JsonTree F) :
    write format v ≠ [] := by
  cases v with
  | num x => exact (numbers.own x).1
  | bool b => cases b <;> exact List.cons_ne_nil _ _
  | null | str | arr | obj => exact List.cons_ne_nil _ _

theorem solid_write (numbers : Numbers format readNumber) {v : JsonTree F} {c : Char}
    {rest : List Char} (eq : write format v = c :: rest) :
    isSpace c = false ∧ c ≠ ']' ∧ c ≠ '}' := by
  cases v with
  | num x =>
      obtain digit | rfl := numbers.first x c rest eq
      · refine ⟨?_, ?_, ?_⟩
        · by_contra space
          simp only [isSpace, Bool.not_eq_false, Bool.or_eq_true, beq_iff_eq] at space
          obtain ((rfl | rfl) | rfl) | rfl := space <;> cases digit
        all_goals
          rintro rfl
          cases digit
      · decide
  | bool b => cases b <;> (cases eq; decide)
  | null | str | arr | obj => cases eq; decide

theorem readItems_last {n : Nat} {t rest : List Char} {v : JsonTree F}
    (h : readValue readNumber n t = some (v, ']' :: rest)) :
    readItems readNumber (n + 1) t = some ([v], rest) := by
  rw [readItems, h]
  rfl

theorem readItems_more {n : Nat} {t t' rest : List Char} {v : JsonTree F} {vs : List (JsonTree F)}
    (h : readValue readNumber n t = some (v, ',' :: t'))
    (more : readItems readNumber n t' = some (vs, rest)) :
    readItems readNumber (n + 1) t = some (v :: vs, rest) := by
  have comma : skipSpace (',' :: t') = ',' :: t' := skipSpace_cons (by decide) t'
  rw [readItems, h]
  simp only [comma, more, Option.map_some]

theorem member_append (key : String) (v t : List Char) :
    member (key, v) ++ t = '"' :: (key.toList.flatMap escapeChar ++ '"' :: ':' :: (v ++ t)) := by
  simp [member, quote]

theorem length_member (key : String) (v : List Char) :
    (member (key, v)).length = (key.toList.flatMap escapeChar).length + v.length + 3 := by
  simp [member, quote]
  omega

/-- A list with separators begins as its first part does. -/
theorem intercalate_head {c : Char} {first : List Char} {parts : List (List Char)}
    (sep t : List Char) : ∃ more, sep.intercalate ((c :: first) :: parts) ++ t = c :: more := by
  cases parts with
  | nil => exact ⟨_, by rw [List.intercalate_singleton, List.cons_append]⟩
  | cons part parts =>
      exact ⟨_, by rw [List.intercalate_cons_cons, List.append_assoc, List.append_assoc,
        List.cons_append]⟩

theorem readFields_last {n : Nat} {v t rest : List Char} {x : JsonTree F} (key : String)
    (h : readValue readNumber n (v ++ t) = some (x, '}' :: rest)) :
    readFields readNumber (n + 1) (member (key, v) ++ t) = some ([(key, x)], rest) := by
  have colon : skipSpace (':' :: (v ++ t)) = ':' :: (v ++ t) := skipSpace_cons (by decide) _
  have brace : skipSpace ('}' :: rest) = '}' :: rest := skipSpace_cons (by decide) rest
  rw [member_append, readFields, skipSpace_cons (by decide)]
  simp only [readChars_quoted, colon, h, brace, String.ofList_toList]

theorem readFields_more {n : Nat} {v t t' rest : List Char} {x : JsonTree F}
    {fs : List (String × JsonTree F)} (key : String)
    (h : readValue readNumber n (v ++ t) = some (x, ',' :: t'))
    (more : readFields readNumber n t' = some (fs, rest)) :
    readFields readNumber (n + 1) (member (key, v) ++ t) = some ((key, x) :: fs, rest) := by
  have colon : skipSpace (':' :: (v ++ t)) = ':' :: (v ++ t) := skipSpace_cons (by decide) _
  have comma : skipSpace (',' :: t') = ',' :: t' := skipSpace_cons (by decide) t'
  rw [member_append, readFields, skipSpace_cons (by decide)]
  simp only [readChars_quoted, colon, h, comma, more, Option.map_some, String.ofList_toList]

theorem readValue_arr {n : Nat} {c : Char} {t rest : List Char} {vs : List (JsonTree F)}
    (solid : isSpace c = false) (some_ : c ≠ ']')
    (h : readItems readNumber n (c :: t) = some (vs, rest)) :
    readValue readNumber (n + 1) ('[' :: c :: t) = some (.arr vs, rest) := by
  rw [readValue, skipSpace_cons (by decide)]
  simp only [skipSpace_cons solid, Char.reduceEq, if_false, if_true]
  split
  · rename_i eq
    cases eq
    exact absurd rfl some_
  · rw [h]
    rfl

theorem readValue_obj {n : Nat} {t rest : List Char} {fs : List (String × JsonTree F)}
    (h : readFields readNumber n ('"' :: t) = some (fs, rest)) :
    readValue readNumber (n + 1) ('{' :: '"' :: t) = some (.obj fs, rest) := by
  rw [readValue, skipSpace_cons (by decide)]
  simp only [skipSpace_cons (show isSpace '"' = false by decide), Char.reduceEq, if_false, if_true]
  exact congrArg (Option.map _) h

mutual

/-- What was written is read again, if the fuel exceeds its length. -/
theorem readValue_write (numbers : Numbers format readNumber) : ∀ (v : JsonTree F) {n : Nat},
    (write format v).length ≤ n → ∀ {t : List Char}, Stops t →
      readValue readNumber (n + 1) (write format v ++ t) = some (v, t)
  | .null, n, _, t, _ => rfl
  | .bool true, n, _, t, _ => rfl
  | .bool false, n, _, t, _ => rfl
  | .num x, n, _, t, stops => readValue_num numbers n x stops
  | .str s, n, _, t, _ => by
      have text : write format (.str s) ++ t =
          '"' :: (s.toList.flatMap escapeChar ++ '"' :: t) := by
        simp [write, quote]
      rw [text, readValue, skipSpace_cons (by decide)]
      simp only [Char.reduceEq, if_false, if_true, readChars_quoted, Option.map_some,
        String.ofList_toList]
  | .arr [], n, _, t, _ => rfl
  | .arr (v :: items), n, fuel, t, _ => by
      have length : (write format (.arr (v :: items))).length =
          ([','].intercalate (writeItems format (v :: items))).length + 2 := by
        simp [write]
      obtain ⟨m, rfl⟩ : ∃ m, n = m + 2 := ⟨n - 2, by omega⟩
      have inner := readItems_write numbers v items (n := m) (by omega) (t := t)
      obtain ⟨c, rest, eq⟩ := List.exists_cons_of_ne_nil (write_ne_nil numbers v)
      obtain ⟨solid, bracket, -⟩ := solid_write numbers eq
      obtain ⟨more, head⟩ : ∃ more, [','].intercalate (writeItems format (v :: items)) ++ ']' :: t =
          c :: more := by
        rw [writeItems, eq]
        exact intercalate_head _ _
      rw [head] at inner
      have text : write format (.arr (v :: items)) ++ t = '[' :: c :: more := by
        rw [← head]
        simp [write]
      rw [text]
      exact readValue_arr solid bracket inner
  | .obj [], n, _, t, _ => rfl
  | .obj ((key, v) :: fields), n, fuel, t, _ => by
      have length : (write format (.obj ((key, v) :: fields))).length =
          ([','].intercalate (writeFields format ((key, v) :: fields))).length + 2 := by
        simp [write]
      obtain ⟨m, rfl⟩ : ∃ m, n = m + 2 := ⟨n - 2, by omega⟩
      have inner := readFields_write numbers key v fields (n := m) (by omega) (t := t)
      obtain ⟨more, head⟩ : ∃ more,
          [','].intercalate (writeFields format ((key, v) :: fields)) ++ '}' :: t =
            '"' :: more := by
        rw [writeFields, member, quote, List.cons_append, List.cons_append]
        exact intercalate_head _ _
      rw [head] at inner
      have text : write format (.obj ((key, v) :: fields)) ++ t = '{' :: '"' :: more := by
        rw [← head]
        simp [write]
      rw [text]
      exact readValue_obj inner
termination_by v => sizeOf v

theorem readItems_write (numbers : Numbers format readNumber) :
    ∀ (v : JsonTree F) (items : List (JsonTree F)) {n : Nat},
      ([','].intercalate (writeItems format (v :: items))).length ≤ n → ∀ {t : List Char},
        readItems readNumber (n + 2)
            ([','].intercalate (writeItems format (v :: items)) ++ ']' :: t) =
          some (v :: items, t)
  | v, [], n, fuel, t => by
      simp only [writeItems, List.intercalate_singleton] at fuel ⊢
      exact readItems_last (readValue_write numbers v fuel (stops_cons (by decide) t))
  | v, w :: items, n, fuel, t => by
      have joined : [','].intercalate (writeItems format (v :: w :: items)) =
          write format v ++ ',' :: [','].intercalate (writeItems format (w :: items)) := by
        simp only [writeItems, List.intercalate_cons_cons, List.append_assoc,
          List.singleton_append]
      rw [joined, List.length_append, List.length_cons] at fuel
      obtain ⟨m, rfl⟩ : ∃ m, n = m + 1 := ⟨n - 1, by omega⟩
      rw [joined, List.append_assoc, List.cons_append]
      apply readItems_more
      · exact readValue_write numbers v (by omega) (stops_cons (by decide) _)
      · exact readItems_write numbers w items (by omega)
termination_by v items => sizeOf v + sizeOf items + 1

theorem readFields_write (numbers : Numbers format readNumber) :
    ∀ (key : String) (v : JsonTree F) (fields : List (String × JsonTree F)) {n : Nat},
      ([','].intercalate (writeFields format ((key, v) :: fields))).length ≤ n →
        ∀ {t : List Char},
          readFields readNumber (n + 2)
              ([','].intercalate (writeFields format ((key, v) :: fields)) ++ '}' :: t) =
            some ((key, v) :: fields, t)
  | key, v, [], n, fuel, t => by
      simp only [writeFields, List.intercalate_singleton, length_member] at fuel ⊢
      apply readFields_last
      exact readValue_write numbers v (by omega) (stops_cons (by decide) t)
  | key, v, (key', w) :: fields, n, fuel, t => by
      have joined : [','].intercalate (writeFields format ((key, v) :: (key', w) :: fields)) =
          member (key, write format v) ++
            ',' :: [','].intercalate (writeFields format ((key', w) :: fields)) := by
        simp only [writeFields, List.intercalate_cons_cons, List.append_assoc,
          List.singleton_append]
      rw [joined, List.length_append, List.length_cons, length_member] at fuel
      obtain ⟨m, rfl⟩ : ∃ m, n = m + 1 := ⟨n - 1, by omega⟩
      rw [joined, List.append_assoc, List.cons_append]
      apply readFields_more
      · exact readValue_write numbers v (by omega) (stops_cons (by decide) _)
      · exact readFields_write numbers key' w fields (by omega)
termination_by _ v fields => sizeOf v + sizeOf fields + 1

end

/-- The round trip of a text. -/
theorem read_write (numbers : Numbers format readNumber) (v : JsonTree F) :
    read readNumber (write format v) = some v := by
  have whole := readValue_write numbers v (Nat.le_refl _) (t := []) (fun c mem => nomatch mem)
  rw [List.append_nil] at whole
  rw [read, whole]
  rfl

end JsonText
