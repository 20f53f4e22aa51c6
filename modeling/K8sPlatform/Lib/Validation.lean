import Mathlib.Algebra.Group.Nat.Defs
import Mathlib.Algebra.Ring.Int.Defs
import Mathlib.Data.List.Basic

/-! # Struct validation by tags, and decimal path parameters -/

namespace Validation

/-- A field with the tags it is checked against, in order, and whether each holds. -/
structure Field where
  name : String
  checks : List (String × Bool)

/-- The first tag of the field that fails. -/
def Field.failed (f : Field) : Option String :=
  (f.checks.find? (!·.2)).map (·.1)

def fieldError (struct_ : String) (f : Field) : Option String :=
  f.failed.map fun tag =>
    "Key: '" ++ struct_ ++ "." ++ f.name ++ "' Error:Field validation for '" ++ f.name ++
      "' failed on the '" ++ tag ++ "' tag"

/-- The messages of all fields that fail, one a line; `none` when every field passes. -/
def check (struct_ : String) (fields : List Field) : Option String :=
  match fields.filterMap (fieldError struct_) with
  | [] => none
  | errs => some ("\n".intercalate errs)

def digitsValue (cs : List Char) : Nat :=
  cs.foldl (fun n c => 10 * n + (c.toNat - '0'.toNat)) 0

/-- `strconv.ParseUint(s, 10, 64)`. -/
def parseUint64 (s : String) : Option Nat :=
  if s.toList ≠ [] ∧ s.toList.all Char.isDigit ∧ digitsValue s.toList < 2 ^ 64 then
    some (digitsValue s.toList)
  else none

/-- `strconv.Atoi` with 64-bit integers. -/
def atoi (s : String) : Option Int :=
  let (neg, digits) := match s.toList with
    | '-' :: cs => (true, cs)
    | '+' :: cs => (false, cs)
    | cs => (false, cs)
  if digits ≠ [] ∧ digits.all Char.isDigit then
    let n : Int := if neg then -(digitsValue digits : Int) else digitsValue digits
    if -2 ^ 63 ≤ n ∧ n < 2 ^ 63 then some n else none
  else none

/-- The value that `strconv.Atoi` gives beside its error: zero for what is no number, and the
nearest bound for one out of range. -/
def atoiValue (s : String) : Int :=
  match atoi s with
  | some n => n
  | none =>
    let digits := s.toList.dropWhile fun c => c == '-' || c == '+'
    if s.toList.length ≤ digits.length + 1 ∧ digits ≠ [] ∧ digits.all Char.isDigit then
      if s.toList.head? = some '-' then -2 ^ 63 else 2 ^ 63 - 1
    else 0

end Validation
