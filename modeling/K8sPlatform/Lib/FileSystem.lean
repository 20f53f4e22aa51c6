import Mathlib.Data.List.Infix
import Mathlib.Data.List.Lattice
import K8sPlatform.Lib.FilePath
import K8sPlatform.Lib.OrderedMap

/-! # File systems: directories, regular files, and the calls on them

A location is the list of its components from the root. -/

universe u

inductive Node (α : Type u)
  | dir
  | file (content : α)
  deriving DecidableEq, Repr

/-- The entries below the root. -/
abbrev FileSystem (α : Type u) := OrderedMap (List String) (Node α)

namespace FileSystem

variable {α : Type u}

inductive PathError
  | notExist | notDir | isDir | tooLong | notEmpty | busy
  deriving DecidableEq, Repr

def PathError.text : PathError → String
  | .notExist => "no such file or directory"
  | .notDir => "not a directory"
  | .isDir => "is a directory"
  | .tooLong => "file name too long"
  | .notEmpty => "directory not empty"
  | .busy => "device or resource busy"

def node (fs : FileSystem α) (p : List String) : Option (Node α) :=
  if p = [] then some .dir else fs.get? p

def isDir (fs : FileSystem α) (p : List String) : Bool :=
  match node fs p with
  | some .dir => true
  | _ => false

def isFile (fs : FileSystem α) (p : List String) : Bool :=
  match node fs p with
  | some (.file _) => true
  | _ => false

/-- Why nothing is found: a file is on the way, or a name is missing. -/
def missing (fs : FileSystem α) (p : List String) : PathError :=
  if p.inits.any (isFile fs) then .notDir else .notExist

def readFile (fs : FileSystem α) (p : List String) : Except PathError α :=
  match node fs p with
  | some (.file a) => .ok a
  | some .dir => .error .isDir
  | none => .error (missing fs p)

/-- What the regular files hold. -/
def contents (fs : FileSystem α) (p : List String) : Option α :=
  match node fs p with
  | some (.file a) => some a
  | _ => none

/-- The regular files, by location. -/
def files (fs : FileSystem α) : List (List String) := (fs.entries.map Prod.fst).filter (isFile fs)

/-- Why a rooted path, as it is written, leads nowhere: each of its components is looked up in a
directory. -/
def wayError (fs : FileSystem α) (path : String) : Option PathError :=
  (FilePath.stop (isDir fs) [] (Text.split '/' path)).map fun at_ =>
    if isFile fs at_ then .notDir else .notExist

/-- A file, or a directory with nothing in it. -/
def remove (fs : FileSystem α) (p : List String) : Except PathError (FileSystem α) :=
  match node fs p with
  | none => .error (missing fs p)
  | some (.file _) => .ok (fs.delete p)
  | some .dir =>
      if p = [] then .error .busy
      else if ∃ e ∈ fs.entries, p <+: e.1 ∧ e.1 ≠ p then .error .notEmpty
      else .ok (fs.delete p)

/-! ## Calls that create an entry

`fits` tells which locations the host takes. -/

section Create

variable (fits : List String → Bool)

/-- What stops a location from being a directory. -/
def dirError (fs : FileSystem α) (p : List String) : Option PathError :=
  match node fs p with
  | some .dir => none
  | some (.file _) => some .notDir
  | none => if fits p then none else some .tooLong

def addDir (fs : FileSystem α) (p : List String) : FileSystem α :=
  if (node fs p).isNone then fs.set p .dir else fs

/-- Every missing directory on the way, from the root on; an error tells where it stopped. -/
def mkdirAll (fs : FileSystem α) (p : List String) :
    Except (List String × PathError) (FileSystem α) :=
  match p.inits.findSome? fun q => (dirError fits fs q).map (Prod.mk q) with
  | some err => .error err
  | none => .ok (p.inits.foldl addDir fs)

/-- What stops a location from being a regular file, as far as its directory and itself go. -/
def fileError (fs : FileSystem α) (p : List String) : Option PathError :=
  match node fs p with
  | some .dir => some .isDir
  | some (.file _) => none
  | none =>
      match node fs p.dropLast with
      | some .dir => if fits p then none else some .tooLong
      | some (.file _) => some .notDir
      | none => some (missing fs p.dropLast)

def writeFile (fs : FileSystem α) (p : List String) (content : α) :
    Except PathError (FileSystem α) :=
  match fileError fits fs p with
  | some err => .error err
  | none => .ok (fs.set p (.file content))

/-- A regular file takes the place of another one, or a free one. -/
def rename (fs : FileSystem α) (src dst : List String) : Except PathError (FileSystem α) :=
  match readFile fs src with
  | .error err => .error err
  | .ok content =>
    match fileError fits fs dst with
    | some err => .error err
    | none => .ok ((fs.delete src).set dst (.file content))

end Create

variable {fits : List String → Bool} {fs fs' : FileSystem α} {p q : List String} {a : α}

theorem node_of_ne_nil (named : p ≠ []) : node fs p = fs.get? p := if_neg named

theorem node_set (named : p ≠ []) {n : Node α} :
    node (fs.set p n) q = if q = p then some n else node fs q := by
  unfold node
  by_cases root : q = []
  · rw [if_pos root, if_pos root, if_neg]
    exact fun same => named (same.symm.trans root)
  · rw [if_neg root, if_neg root, OrderedMap.get?_set]

theorem node_delete (named : p ≠ []) :
    node (OrderedMap.delete fs p) q = if q = p then none else node fs q := by
  unfold node
  by_cases root : q = []
  · rw [if_pos root, if_pos root, if_neg]
    exact fun same => named (same.symm.trans root)
  · rw [if_neg root, if_neg root, OrderedMap.get?_delete]

theorem node_addDir : node (addDir fs p) q = if q = p then (node fs p).or (some .dir)
    else node fs q := by
  unfold addDir
  cases here : node fs p with
  | none =>
      have named : p ≠ [] := by
        rintro rfl
        cases here
      simp only [Option.isNone_none, if_true, node_set named, Option.none_or]
  | some n =>
      simp only [Option.isNone_some, Bool.false_eq_true, if_false, Option.some_or]
      split
      case isTrue same => rw [same, here]
      case isFalse => rfl

theorem node_foldl_addDir (ps : List (List String)) :
    node (ps.foldl addDir fs) q = if q ∈ ps then (node fs q).or (some .dir) else node fs q := by
  induction ps generalizing fs with
  | nil => simp
  | cons p ps ih =>
      rw [List.foldl_cons, ih, node_addDir]
      by_cases same : q = p
      · subst same
        cases node fs q <;> simp
      · simp [same]

/-- No file was on the way. -/
theorem dirError_of_mkdirAll (made : mkdirAll fits fs p = .ok fs') (above : q <+: p) :
    dirError fits fs q = none := by
  unfold mkdirAll at made
  split at made
  · cases made
  rename_i free
  have none_ := List.findSome?_eq_none_iff.1 free q ((List.mem_inits q p).2 above)
  exact Option.map_eq_none_iff.1 none_

/-- The directories on the way are there, and all else is as it was. -/
theorem node_mkdirAll (made : mkdirAll fits fs p = .ok fs') :
    node fs' q = if q <+: p then some .dir else node fs q := by
  have free (above : q <+: p) := dirError_of_mkdirAll made above
  unfold mkdirAll at made
  split at made
  · cases made
  obtain rfl := Except.ok.inj made
  simp only [node_foldl_addDir, List.mem_inits]
  split
  case isFalse => rfl
  case isTrue above =>
    have passes := free above
    unfold dirError at passes
    cases here : node fs q with
    | none => rfl
    | some n =>
        cases n with
        | dir => rfl
        | file content =>
            rw [here] at passes
            cases passes

theorem readFile_eq_ok : readFile fs p = .ok a ↔ node fs p = some (.file a) := by
  unfold readFile
  cases node fs p with
  | none => simp
  | some n => cases n <;> simp

theorem isDir_iff : isDir fs p = true ↔ node fs p = some .dir := by
  unfold isDir
  cases node fs p with
  | none => simp
  | some n => cases n <;> simp

theorem wayError_eq_none {path : String} : wayError fs path = none ↔
    ∀ before seg after, Text.split '/' path = before ++ seg :: after →
      node fs (FilePath.follow [] before) = some .dir := by
  simp only [wayError, Option.map_eq_none_iff, FilePath.stop_eq_none_iff, isDir_iff]

theorem isFile_iff : isFile fs p = true ↔ ∃ a, node fs p = some (.file a) := by
  unfold isFile
  cases node fs p with
  | none => simp
  | some n => cases n <;> simp

theorem mem_files : p ∈ files fs ↔ ∃ a, node fs p = some (.file a) := by
  rw [files, List.mem_filter, isFile_iff]
  constructor
  · exact fun there => there.2
  · rintro ⟨a, found⟩
    refine ⟨?_, a, found⟩
    have named : p ≠ [] := by
      rintro rfl
      cases found
    rw [node_of_ne_nil named] at found
    exact List.mem_map_of_mem (OrderedMap.get?_eq_some.1 found)

theorem remove_file (there : node fs p = some (.file a)) : remove fs p = .ok (fs.delete p) := by
  rw [remove, there]

/-- Removing an entry leaves the others. -/
theorem node_remove (removed : remove fs p = .ok fs') (other : q ≠ p) : node fs' q = node fs q := by
  unfold remove at removed
  cases here : node fs p with
  | none =>
      rw [here] at removed
      cases removed
  | some n =>
      have gone (named : p ≠ []) : node (OrderedMap.delete fs p) q = node fs q := by
        rw [node_delete named, if_neg other]
      rw [here] at removed
      cases n with
      | file a =>
          obtain rfl := Except.ok.inj removed
          apply gone
          rintro rfl
          cases here
      | dir =>
          dsimp only at removed
          split at removed
          · cases removed
          · rename_i named
            split at removed
            · cases removed
            · obtain rfl := Except.ok.inj removed
              exact gone named

theorem fileError_eq_none : fileError fits fs p = none ↔
    isFile fs p = true ∨ node fs p = none ∧ node fs p.dropLast = some .dir ∧ fits p = true := by
  unfold fileError isFile
  cases node fs p with
  | some n => cases n <;> simp
  | none =>
      cases node fs p.dropLast with
      | none => simp
      | some n => cases n <;> simp

/-- A file is not the root. -/
theorem ne_nil_of_fileError (free : fileError fits fs p = none) : p ≠ [] := by
  rintro rfl
  cases free

theorem writeFile_eq_ok : writeFile fits fs p a = .ok fs' ↔
    fileError fits fs p = none ∧ fs' = fs.set p (.file a) := by
  unfold writeFile
  cases fileError fits fs p with
  | some err => simp
  | none => simp [eq_comm]

theorem rename_eq_ok {src : List String} (there : node fs src = some (.file a)) :
    rename fits fs src p = .ok fs' ↔
      fileError fits fs p = none ∧ fs' = (fs.delete src).set p (.file a) := by
  unfold rename
  rw [readFile_eq_ok.2 there]
  cases fileError fits fs p with
  | some err => simp
  | none => simp [eq_comm]

theorem contents_eq_some : contents fs p = some a ↔ node fs p = some (.file a) := by
  unfold contents
  cases node fs p with
  | none => simp
  | some n => cases n <;> simp

theorem contents_set (named : p ≠ []) :
    contents (fs.set p (.file a)) = Function.update (contents fs) p (some a) := by
  funext q
  by_cases same : q = p
  · rw [same, Function.update_self, contents_eq_some, node_set named, if_pos rfl]
  · rw [Function.update_of_ne same, contents, contents, node_set named, if_neg same]

theorem contents_mkdirAll (made : mkdirAll fits fs p = .ok fs') : contents fs' = contents fs := by
  funext q
  apply Option.ext
  intro a
  rw [contents_eq_some, contents_eq_some, node_mkdirAll made]
  split
  case isFalse => rfl
  case isTrue above =>
    apply iff_of_false (fun dir => by cases dir)
    intro file
    have free := dirError_of_mkdirAll made above
    rw [dirError, file] at free
    cases free

end FileSystem
