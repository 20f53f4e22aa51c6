/-! # JSON values and the places in them -/

universe u

/-- A value over the numbers `F`. -/
inductive JsonTree (F : Type u)
  | null
  | bool (b : Bool)
  | num (x : F)
  | str (s : String)
  | arr (items : List (JsonTree F))
  | obj (fields : List (String × JsonTree F))

namespace JsonTree

variable {F : Type u}

/-- A step down: to the field of a key, which stands in some place, or to an item. -/
inductive Step
  | field (place : Nat) (key : String)
  | item (place : Nat)
  deriving DecidableEq

def fieldAt (fields : List (String × JsonTree F)) (place : Nat) (key : String) :
    Option (JsonTree F) :=
  match fields[place]? with
  | some (k, v) => if k = key then some v else none
  | none => none

def child : Step → JsonTree F → Option (JsonTree F)
  | .field place key, .obj fields => fieldAt fields place key
  | .item place, .arr items => items[place]?
  | _, _ => none

/-- The value at a path. -/
def get? : List Step → JsonTree F → Option (JsonTree F)
  | [], v => some v
  | s :: path, v => (child s v).bind (get? path)

/-- What a value is, apart from the values below it. -/
inductive Head (F : Type u)
  | null
  | bool (b : Bool)
  | num (x : F)
  | str (s : String)
  | arr (length : Nat)
  | obj (keys : List String)
  deriving DecidableEq

def head : JsonTree F → Head F
  | .null => .null
  | .bool b => .bool b
  | .num x => .num x
  | .str s => .str s
  | .arr items => .arr items.length
  | .obj fields => .obj (fields.map Prod.fst)

theorem get?_concat (path : List Step) (s : Step) (v : JsonTree F) :
    get? (path ++ [s]) v = (get? path v).bind (child s) := by
  induction path generalizing v with
  | nil => cases found : child s v <;> simp [get?, found]
  | cons first path ih =>
      rw [List.cons_append, get?, get?]
      cases child first v with
      | none => rfl
      | some w => exact ih w

/-- Nothing is below a string. -/
theorem get?_str {path : List Step} {s : String} {v : JsonTree F}
    (found : get? path (.str s) = some v) : path = [] ∧ v = .str s := by
  cases path with
  | nil => exact ⟨rfl, (Option.some.inj found).symm⟩
  | cons first path => cases first <;> cases found

end JsonTree
