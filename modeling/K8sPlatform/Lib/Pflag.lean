import K8sPlatform.Lib.Text

/-! # Command lines read by the pflag rules -/

namespace Pflag

/-- A flag and the value it takes when none is written; the empty string when it needs one. -/
structure Flag where
  name : String
  noOptDefVal : String
  deriving DecidableEq, Repr

/-- The flags of a command, by name and by shorthand, and the values that each accepts. -/
structure FlagSet where
  long : String → Option Flag
  short : Char → Option Flag
  accepts : String → String → Bool

/-- The flags that a command line set, in order, with their values. -/
abbrev Assignments := List (String × String)

/-- What one token does where a flag may stand: it is an argument, it ends the flags, it sets
flags, it sets flags and leaves one waiting for the next token, or it is refused. -/
inductive Reading
  | positional
  | stop
  | sets (as : Assignments)
  | wants (as : Assignments) (flag : String)
  | bad
  deriving DecidableEq, Repr

variable (fs : FlagSet)

/-- The token `--body`. -/
def readLong (body : List Char) : Reading :=
  if body.head? = some '-' ∨ body.head? = some '=' then .bad
  else
    match fs.long (String.ofList (body.takeWhile (· ≠ '='))) with
    | none => .bad
    | some flag =>
        if '=' ∈ body then
          .sets [(flag.name, String.ofList ((body.dropWhile (· ≠ '=')).drop 1))]
        else if flag.noOptDefVal ≠ "" then .sets [(flag.name, flag.noOptDefVal)]
        else .wants [] flag.name

/-- The flags set before a reading. -/
def Reading.after (as : Assignments) : Reading → Reading
  | .sets bs => .sets (as ++ bs)
  | .wants bs flag => .wants (as ++ bs) flag
  | r => r

/-- The token `-cluster`: shorthands in a row, of which the first that needs a value takes the
rest. -/
def readShort : List Char → Reading
  | [] => .sets []
  | c :: rest =>
      match fs.short c with
      | none => .bad
      | some flag =>
          match rest with
          | '=' :: v :: vs => .sets [(flag.name, String.ofList (v :: vs))]
          | rest =>
              if flag.noOptDefVal ≠ "" then
                (readShort rest).after [(flag.name, flag.noOptDefVal)]
              else if rest = [] then .wants [] flag.name
              else .sets [(flag.name, String.ofList rest)]

def read (token : String) : Reading :=
  match token.toList with
  | '-' :: '-' :: [] => .stop
  | '-' :: '-' :: body => readLong fs body
  | '-' :: c :: rest => readShort fs (c :: rest)
  | _ => .positional

def acceptsAll (as : Assignments) : Bool := as.all fun a => fs.accepts a.1 a.2

/-- The assignments and the positional arguments of a command line; `none` when it is
refused. -/
def parse : List String → Option (Assignments × List String)
  | [] => some ([], [])
  | token :: rest =>
      match read fs token with
      | .positional => (parse rest).map fun r => (r.1, token :: r.2)
      | .stop => some ([], rest)
      | .sets as => if acceptsAll fs as then (parse rest).map fun r => (as ++ r.1, r.2) else none
      | .wants as flag =>
          match rest with
          | [] => none
          | value :: rest =>
              if acceptsAll fs (as ++ [(flag, value)]) then
                (parse rest).map fun r => (as ++ [(flag, value)] ++ r.1, r.2)
              else none
      | .bad => none

/-- The value of a flag: the last one that was set. -/
def value (as : Assignments) (name : String) : Option String :=
  ((as.filter (·.1 == name)).getLast?).map (·.2)

/-- The first positional token of a command line, and the other tokens. -/
def command : List String → Option (String × List String)
  | [] => none
  | token :: rest =>
      match read fs token with
      | .positional => some (token, rest)
      | .stop => none
      | .sets _ => (command rest).map fun r => (r.1, token :: r.2)
      | .wants _ _ =>
          match rest with
          | [] => none
          | value :: rest => (command rest).map fun r => (r.1, token :: value :: r.2)
      | .bad => none

theorem value_append (as bs : Assignments) (name : String) :
    value (as ++ bs) name = (value bs name).or (value as name) := by
  simp only [value, List.filter_append, List.getLast?_append]
  cases (bs.filter (·.1 == name)).getLast? <;> simp

@[simp] theorem value_singleton (name v : String) : value [(name, v)] name = some v := by
  simp [value]

theorem value_cons {name : String} {as : Assignments} {v : String} :
    value ((name, v) :: as) name = some ((value as name).getD v) := by
  have split := value_append [(name, v)] as name
  rw [List.singleton_append] at split
  rw [split, value_singleton]
  cases value as name <;> rfl

theorem value_cons_ne {name other : String} {as : Assignments} {v : String} (h : other ≠ name) :
    value ((other, v) :: as) name = value as name := by
  simp [value, h]

/-- A flag that was not set has no value. -/
theorem value_eq_none {as : Assignments} {name : String} (h : ∀ a ∈ as, a.1 ≠ name) :
    value as name = none := by
  have none_ : as.filter (·.1 == name) = [] := by
    simpa [List.filter_eq_nil_iff] using h
  simp [value, none_]

variable {fs}

/-- A flag with its value as the next token. -/
theorem parse_wants {token v flag : String} {rest : List String}
    (reads : read fs token = .wants [] flag) (accepts : fs.accepts flag v = true) :
    parse fs (token :: v :: rest) = (parse fs rest).map fun r => ((flag, v) :: r.1, r.2) := by
  rw [parse, reads]
  simp [acceptsAll, accepts]

theorem parse_sets {token : String} {as : Assignments} {rest : List String}
    (reads : read fs token = .sets as) (accepts : acceptsAll fs as = true) :
    parse fs (token :: rest) = (parse fs rest).map fun r => (as ++ r.1, r.2) := by
  rw [parse, reads]
  simp [accepts]

theorem parse_positional {token : String} {rest : List String}
    (reads : read fs token = .positional) :
    parse fs (token :: rest) = (parse fs rest).map fun r => (r.1, token :: r.2) := by
  rw [parse, reads]

theorem command_wants {token v flag : String} {rest : List String}
    (reads : read fs token = .wants [] flag) :
    command fs (token :: v :: rest) =
      (command fs rest).map fun r => (r.1, token :: v :: r.2) := by
  rw [command, reads]

theorem command_positional {token : String} {rest : List String}
    (reads : read fs token = .positional) :
    command fs (token :: rest) = some (token, rest) := by
  unfold command
  rw [reads]

/-- However a command line parses, it does not set these flags. -/
def Untouched (fs : FlagSet) (names : List String) (tokens : List String) : Prop :=
  ∀ r, parse fs tokens = some r → ∀ a ∈ r.1, a.1 ∉ names

section Untouched

variable {names : List String} {token : String} {rest : List String}

theorem untouched_nil : Untouched fs names [] := by
  intro r parsed a mem
  simp only [parse, Option.some.injEq] at parsed
  rw [← parsed] at mem
  cases mem

theorem untouched_positional (reads : read fs token = .positional)
    (h : Untouched fs names rest) : Untouched fs names (token :: rest) := by
  intro r parsed a mem
  rw [parse_positional reads] at parsed
  obtain ⟨r', parsed', rfl⟩ := Option.map_eq_some_iff.1 parsed
  exact h r' parsed' a mem

theorem untouched_wants {v flag : String} (reads : read fs token = .wants [] flag)
    (other : flag ∉ names) (h : Untouched fs names rest) :
    Untouched fs names (token :: v :: rest) := by
  intro r parsed a mem
  cases accepts : fs.accepts flag v with
  | false =>
      rw [parse, reads] at parsed
      simp [acceptsAll, accepts] at parsed
  | true =>
      rw [parse_wants reads accepts] at parsed
      obtain ⟨r', parsed', rfl⟩ := Option.map_eq_some_iff.1 parsed
      obtain rfl | mem := List.mem_cons.1 mem
      · exact other
      · exact h r' parsed' a mem

theorem untouched_sets {v flag : String} (reads : read fs token = .sets [(flag, v)])
    (other : flag ∉ names) (h : Untouched fs names rest) :
    Untouched fs names (token :: rest) := by
  intro r parsed a mem
  cases accepts : acceptsAll fs [(flag, v)] with
  | false =>
      rw [parse, reads] at parsed
      simp [accepts] at parsed
  | true =>
      rw [parse_sets reads accepts] at parsed
      obtain ⟨r', parsed', rfl⟩ := Option.map_eq_some_iff.1 parsed
      obtain rfl | mem := List.mem_cons.1 mem
      · exact other
      · exact h r' parsed' a mem

/-- Tokens that may stand in front of any others without setting these flags. -/
def Inert (fs : FlagSet) (names tokens : List String) : Prop :=
  ∀ rest, Untouched fs names rest → Untouched fs names (tokens ++ rest)

theorem inert_nil : Inert fs names [] := fun _ h => h

theorem inert_append {first second : List String} (h : Inert fs names first)
    (h' : Inert fs names second) : Inert fs names (first ++ second) := by
  intro rest untouched
  rw [List.append_assoc]
  exact h _ (h' _ untouched)

theorem inert_ite {c : Prop} [Decidable c] {first second : List String}
    (h : Inert fs names first) (h' : Inert fs names second) :
    Inert fs names (if c then first else second) := by
  split
  · exact h
  · exact h'

theorem inert_wants {v flag : String} (reads : read fs token = .wants [] flag)
    (other : flag ∉ names) : Inert fs names [token, v] :=
  fun _ h => untouched_wants reads other h

theorem inert_sets {v flag : String} (reads : read fs token = .sets [(flag, v)])
    (other : flag ∉ names) : Inert fs names [token] :=
  fun _ h => untouched_sets reads other h

end Untouched

/-- A token that does not start with a dash is an argument. -/
theorem read_of_not_dash {token : String} (h : token.toList.head? ≠ some '-') :
    read fs token = .positional := by
  unfold read
  split <;> simp_all

theorem readLong_ne_positional (body : List Char) : readLong fs body ≠ .positional := by
  unfold readLong
  split
  · exact Reading.noConfusion
  · split
    · exact Reading.noConfusion
    · split
      · exact Reading.noConfusion
      · split <;> exact Reading.noConfusion

theorem readShort_ne_positional (cluster : List Char) : readShort fs cluster ≠ .positional := by
  induction cluster with
  | nil => exact Reading.noConfusion
  | cons c rest ih =>
      unfold readShort
      split
      · exact Reading.noConfusion
      · split
        · exact Reading.noConfusion
        · split
          · intro same
            cases reads : readShort fs rest with
            | positional => exact ih reads
            | _ => simp [reads, Reading.after] at same
          · split <;> exact Reading.noConfusion

variable (fs) in
/-- The arguments are the tokens without a dash in front, and the dash alone. -/
theorem read_positional_iff {token : String} :
    read fs token = .positional ↔ (token.toList.head? = some '-' → token = "-") := by
  constructor
  · intro reads dash
    cases chars : token.toList with
    | nil => simp [chars] at dash
    | cons c rest =>
        obtain rfl : c = '-' := by simpa [chars] using dash
        cases rest with
        | nil => exact String.toList_injective (by rw [chars]; rfl)
        | cons d rest =>
            by_cases long : d = '-'
            · subst long
              cases rest with
              | nil => simp [read, chars] at reads
              | cons e rest =>
                  simp only [read, chars] at reads
                  exact absurd reads (readLong_ne_positional _)
            · have short : read fs token = readShort fs (d :: rest) := by
                unfold read
                rw [chars]
                split <;> simp_all
              exact absurd (short.symm.trans reads) (readShort_ne_positional _)
  · intro plain
    by_cases dash : token.toList.head? = some '-'
    · rw [plain dash]
      rfl
    · exact read_of_not_dash dash

end Pflag
