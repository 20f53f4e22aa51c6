import K8sPlatform.Lib.Text

/-! # Slash-separated paths, cleaned by their components

A path is the list of its components; a stack of components has its top at the head. -/

namespace FilePath

/-- One component on the stack. Above the root of an absolute path `..` stays at the root, and
above the start of a relative one it is kept. -/
def push (rooted : Bool) (stack : List String) (seg : String) : List String :=
  if seg = "" ∨ seg = "." then stack
  else if seg = ".." then
    match stack with
    | [] => if rooted then [] else [".."]
    | top :: rest => if top = ".." then ".." :: top :: rest else rest
  else seg :: stack

def isAbs (p : String) : Bool := Text.hasPrefix "/" p

theorem isAbs_append {p q : String} (some_ : p ≠ "") : isAbs (p ++ q) = isAbs p := by
  have chars : p.toList ≠ [] := fun nil => some_ (String.toList_inj.1 (by simpa using nil))
  unfold isAbs Text.hasPrefix
  cases first : p.toList with
  | nil => exact absurd first chars
  | cons c cs => simp [first, List.isPrefixOf]

/-- The components of the cleaned path; whether it starts with a slash is left to `isAbs`. -/
def clean (p : String) : List String :=
  ((Text.split '/' p).foldl (push (isAbs p)) []).reverse

/-- The components followed from a directory, given from the root. -/
def follow (dir segs : List String) : List String :=
  (segs.foldl (push true) dir.reverse).reverse

/-- The location that a path names for a process working in `cwd`. -/
def locate (cwd : List String) (p : String) : List String :=
  follow (if isAbs p then [] else cwd) (Text.split '/' p)

/-- The first location on the way that is no directory, though a component is looked up in it. -/
def stop (isDir : List String → Bool) (dir : List String) : List String → Option (List String)
  | [] => none
  | seg :: segs => if isDir dir then stop isDir (follow dir [seg]) segs else some dir

/-- A component that names an entry of its directory. -/
def Plain (seg : String) : Prop := seg ≠ "" ∧ seg ≠ "." ∧ seg ≠ ".."

theorem push_plain {rooted : Bool} {stack : List String} {seg : String} (h : Plain seg) :
    push rooted stack seg = seg :: stack := by
  obtain ⟨named, dot, up⟩ := h
  simp [push, named, dot, up]

theorem foldl_push_plain {rooted : Bool} {stack segs : List String}
    (h : ∀ seg ∈ segs, Plain seg) : segs.foldl (push rooted) stack = segs.reverse ++ stack := by
  induction segs generalizing stack with
  | nil => rfl
  | cons seg segs ih =>
      rw [List.foldl_cons, push_plain (h seg (by simp)), ih fun s mem => h s (by simp [mem])]
      simp

/-- What a stack can hold besides plain names: `..` in a row at the bottom of a relative path. -/
def Climbs (stack : List String) : Prop :=
  (∀ seg ∈ stack, seg ≠ "" ∧ seg ≠ ".") ∧ (".." ∈ stack → stack.getLast? = some "..")

theorem push_climbs {rooted : Bool} {stack : List String} (seg : String) (h : Climbs stack) :
    Climbs (push rooted stack seg) := by
  obtain ⟨named, bottom⟩ := h
  unfold push
  split
  · exact ⟨named, bottom⟩
  · rename_i plain
    rw [not_or] at plain
    split
    · cases stack with
      | nil => cases rooted <;> simp [Climbs]
      | cons top rest =>
          by_cases up : top = ".."
          · have last := bottom (by simp [up])
            refine ⟨?_, fun _ => ?_⟩
            · intro s mem
              simp only [up, if_true, List.mem_cons] at mem
              obtain rfl | rfl | mem := mem
              · decide
              · decide
              · exact named s (by simp [mem])
            · simpa [up] using last
          · refine ⟨fun s mem => named s (by simp_all), fun mem => ?_⟩
            simp only [up, if_false] at mem ⊢
            have last := bottom (by simp [mem])
            cases rest with
            | nil => simp at mem
            | cons next rest => simpa using last
    · rename_i name
      refine ⟨?_, fun mem => ?_⟩
      · intro s mem
        obtain rfl | mem := List.mem_cons.1 mem
        · exact plain
        · exact named s mem
      · have below : ".." ∈ stack := by
          obtain eq | mem := List.mem_cons.1 mem
          · exact absurd eq.symm name
          · exact mem
        have last := bottom below
        cases stack with
        | nil => simp at below
        | cons next rest => simpa using last

theorem foldl_push_climbs {rooted : Bool} {stack : List String} (segs : List String)
    (h : Climbs stack) : Climbs (segs.foldl (push rooted) stack) := by
  induction segs generalizing stack with
  | nil => exact h
  | cons seg segs ih => exact ih (push_climbs seg h)

theorem clean_named {p : String} : ∀ seg ∈ clean p, seg ≠ "" ∧ seg ≠ "." := by
  have climbs : Climbs ((Text.split '/' p).foldl (push (isAbs p)) []) :=
    foldl_push_climbs _ ⟨by simp, by simp⟩
  exact fun seg mem => climbs.1 seg (List.mem_reverse.1 mem)

/-- A cleaned path that does not begin with `..` is a list of names. -/
theorem clean_plain {p : String} (h : (clean p).head? ≠ some "..") :
    ∀ seg ∈ clean p, Plain seg := by
  have climbs : Climbs ((Text.split '/' p).foldl (push (isAbs p)) []) :=
    foldl_push_climbs _ ⟨by simp, by simp⟩
  intro seg mem
  have onStack := List.mem_reverse.1 mem
  refine ⟨(climbs.1 seg onStack).1, (climbs.1 seg onStack).2, ?_⟩
  rintro rfl
  apply h
  rw [clean, List.head?_reverse]
  exact climbs.2 onStack

theorem follow_append (dir segs segs' : List String) :
    follow dir (segs ++ segs') = follow (follow dir segs) segs' := by
  simp [follow]

theorem follow_plain {segs : List String} (dir : List String) (h : ∀ seg ∈ segs, Plain seg) :
    follow dir segs = dir ++ segs := by
  simp [follow, foldl_push_plain h]

/-- The way is found when every component is looked up in a directory. -/
theorem stop_eq_none_iff {isDir : List String → Bool} {dir segs : List String} :
    stop isDir dir segs = none ↔
      ∀ before seg after, segs = before ++ seg :: after → isDir (follow dir before) = true := by
  induction segs generalizing dir with
  | nil => simp [stop]
  | cons first segs ih =>
      have start : follow dir [] = dir := by simp [follow]
      unfold stop
      constructor
      · intro found before seg after eq
        split at found
        · rename_i here
          cases before with
          | nil => rwa [start]
          | cons b before =>
              obtain ⟨rfl, rest⟩ := List.cons.inj eq
              have later := ih.1 found before seg after rest
              rwa [← follow_append] at later
        · cases found
      · intro all
        have here := all [] first segs rfl
        rw [start] at here
        rw [if_pos here, ih]
        rintro before seg after rfl
        rw [← follow_append]
        exact all (first :: before) seg after rfl

/-- Following a relative path is following its cleaned form. -/
theorem foldl_push_clean (segs dir : List String) :
    (segs.foldl (push false) []).reverse.foldl (push true) dir = segs.foldl (push true) dir := by
  induction segs using List.reverseRecOn with
  | nil => rfl
  | append_singleton segs seg ih =>
      rw [List.foldl_append, List.foldl_append, List.foldl_cons, List.foldl_nil, List.foldl_cons,
        List.foldl_nil, ← ih]
      have climbs : Climbs (segs.foldl (push false) []) :=
        foldl_push_climbs segs ⟨by simp, by simp⟩
      generalize segs.foldl (push false) [] = stack at climbs
      by_cases stays : seg = "" ∨ seg = "."
      · simp [push, stays]
      by_cases up : seg = ".."
      · subst up
        cases stack with
        | nil => simp [push]
        | cons top rest =>
            by_cases climbing : top = ".."
            · simp [push, climbing]
            · have named := climbs.1 top List.mem_cons_self
              have plain : Plain top := ⟨named.1, named.2, climbing⟩
              have pop : push false (top :: rest) ".." = rest := by simp [push, climbing]
              rw [pop, List.reverse_cons, List.foldl_append, List.foldl_cons, List.foldl_nil,
                push_plain plain]
              simp [push, climbing]
      · have plain : Plain seg := ⟨fun eq => stays (.inl eq), fun eq => stays (.inr eq), up⟩
        rw [push_plain plain, List.reverse_cons, List.foldl_append, List.foldl_cons,
          List.foldl_nil]

theorem follow_clean {p : String} (dir : List String) (relative : isAbs p = false) :
    follow dir (Text.split '/' p) = follow dir (clean p) := by
  rw [follow, follow, clean, relative, foldl_push_clean]

theorem up_not_mem_push {stack : List String} {seg : String} (h : ".." ∉ stack) :
    ".." ∉ push true stack seg := by
  unfold push
  split
  · exact h
  · split
    · cases stack with
      | nil => simp
      | cons top rest =>
          have other : top ≠ ".." := fun eq => h (by simp [eq])
          dsimp only
          rw [if_neg other]
          exact fun mem => h (List.mem_cons_of_mem _ mem)
    · rename_i name
      exact fun mem => (List.mem_cons.1 mem).elim (fun eq => name eq.symm) h

/-- A rooted path does not climb. -/
theorem head?_clean_of_isAbs {p : String} (rooted : isAbs p = true) :
    (clean p).head? ≠ some ".." := by
  have folded (segs stack : List String) (h : ".." ∉ stack) :
      ".." ∉ segs.foldl (push true) stack := by
    induction segs generalizing stack with
    | nil => exact h
    | cons seg segs ih => exact ih _ (up_not_mem_push h)
  intro head
  have mem := List.mem_of_head? head
  rw [clean, rooted, List.mem_reverse] at mem
  exact folded _ [] (by simp) mem

/-- A final name stays the last component. -/
theorem clean_getLast {p last : String} {front : List String}
    (h : Text.split '/' p = front ++ [last]) (plain : Plain last) :
    (clean p).getLast? = some last := by
  simp [clean, h, push_plain plain]

theorem getLast?_follow_clean {p last : String} {front : List String} (dir : List String)
    (h : Text.split '/' p = front ++ [last]) (plain : Plain last) :
    (follow dir (clean p)).getLast? = some last := by
  obtain ⟨names, eq⟩ : ∃ names, clean p = names ++ [last] := by
    refine ⟨(front.foldl (push (isAbs p)) []).reverse, ?_⟩
    rw [clean, h, List.foldl_append, List.foldl_cons, List.foldl_nil, push_plain plain,
      List.reverse_cons]
  rw [follow, eq, List.foldl_append, List.foldl_cons, List.foldl_nil, push_plain plain,
    List.reverse_cons, List.getLast?_concat]

theorem clean_of_plain {p : String} (h : ∀ seg ∈ Text.split '/' p, Plain seg) :
    clean p = Text.split '/' p := by
  rw [clean, foldl_push_plain h, List.append_nil, List.reverse_reverse]

theorem length_push_le (rooted : Bool) (stack : List String) (seg : String) :
    (push rooted stack seg).length ≤ stack.length + 1 := by
  unfold push
  split
  · omega
  · split
    · cases stack with
      | nil => cases rooted <;> simp
      | cons top rest =>
          dsimp only
          split
          · simp
          · simp only [List.length_cons]
            omega
    · simp

/-- Cleaning only takes components away. -/
theorem length_clean_le (p : String) : (clean p).length ≤ (Text.split '/' p).length := by
  have folded (segs stack : List String) :
      (segs.foldl (push (isAbs p)) stack).length ≤ stack.length + segs.length := by
    induction segs generalizing stack with
    | nil => simp
    | cons seg segs ih =>
        have once := length_push_le (isAbs p) stack seg
        have rest := ih (push (isAbs p) stack seg)
        rw [List.foldl_cons, List.length_cons]
        omega
  have all := folded (Text.split '/' p) []
  rw [List.length_nil, Nat.zero_add] at all
  rwa [clean, List.length_reverse]

theorem slash_not_mem_push {rooted : Bool} {stack : List String} {seg : String}
    (h : ∀ s ∈ stack, '/' ∉ s.toList) (plain : '/' ∉ seg.toList) :
    ∀ s ∈ push rooted stack seg, '/' ∉ s.toList := by
  have dots : '/' ∉ "..".toList := by decide
  unfold push
  split
  · exact h
  · split
    · cases stack with
      | nil => cases rooted <;> simp
      | cons top rest =>
          dsimp only
          split
          · intro s mem
            obtain rfl | mem := List.mem_cons.1 mem
            · exact dots
            · exact h s mem
          · exact fun s mem => h s (List.mem_cons_of_mem _ mem)
    · intro s mem
      obtain rfl | mem := List.mem_cons.1 mem
      · exact plain
      · exact h s mem

theorem slash_not_mem_clean {p : String} : ∀ seg ∈ clean p, '/' ∉ seg.toList := by
  have folded (segs stack : List String) (h : ∀ s ∈ stack, '/' ∉ s.toList)
      (h' : ∀ s ∈ segs, '/' ∉ s.toList) :
      ∀ s ∈ segs.foldl (push (isAbs p)) stack, '/' ∉ s.toList := by
    induction segs generalizing stack with
    | nil => exact h
    | cons seg segs ih =>
        exact ih _ (slash_not_mem_push h (h' seg List.mem_cons_self))
          fun s mem => h' s (List.mem_cons_of_mem _ mem)
  intro seg mem
  exact folded _ [] (by simp) (fun s mem => Text.not_mem_of_mem_split mem) seg
    (List.mem_reverse.1 mem)

/-- The path with its backslashes turned. -/
def slashed (p : String) : String :=
  String.ofList (p.toList.map fun c => if c = '\\' then '/' else c)

theorem slashed_of_not_mem {p : String} (h : '\\' ∉ p.toList) : slashed p = p := by
  have same : (p.toList.map fun c => if c = '\\' then '/' else c) = p.toList := by
    refine (List.map_congr_left fun c mem => ?_).trans (List.map_id' _)
    rw [if_neg]
    rintro rfl
    exact h mem
  rw [slashed, same, String.ofList_toList]

theorem slashed_append (s t : String) : slashed (s ++ t) = slashed s ++ slashed t := by
  apply String.toList_inj.1
  simp [slashed]

/-- A component without backslashes stays one. -/
theorem mem_split_slashed {p seg : String} (mem : seg ∈ Text.split '/' p)
    (noBackslash : '\\' ∉ seg.toList) : seg ∈ Text.split '/' (slashed p) := by
  have joined (segs : List String) (some_ : segs ≠ []) :
      Text.split '/' (slashed (Text.join '/' segs)) =
        segs.flatMap fun x => Text.split '/' (slashed x) := by
    induction segs with
    | nil => exact absurd rfl some_
    | cons x rest ih =>
        cases rest with
        | nil => simp [Text.join]
        | cons y rest =>
            have slash : slashed (String.singleton '/') = String.singleton '/' := by decide
            rw [Text.join, slashed_append, slashed_append, slash, Text.split_append_sep,
              ih (by simp)]
            rfl
  have whole : Text.join '/' (Text.split '/' p) = p := Text.join_split '/' p
  rw [← whole, joined _ (Text.split_ne_nil '/' p), List.mem_flatMap]
  refine ⟨seg, mem, ?_⟩
  rw [slashed_of_not_mem noBackslash, Text.split_of_not_mem (Text.not_mem_of_mem_split mem)]
  exact List.mem_singleton_self seg

theorem mem_of_mem_push {rooted : Bool} {stack : List String} {seg s : String}
    (mem : s ∈ push rooted stack seg) : s ∈ stack ∨ s = seg := by
  unfold push at mem
  split at mem
  · exact .inl mem
  · split at mem
    · rename_i up
      cases stack with
      | nil =>
          cases rooted with
          | true => exact absurd mem (by simp)
          | false => exact .inr ((List.mem_singleton.1 mem).trans up.symm)
      | cons top rest =>
          dsimp only at mem
          split at mem
          · obtain eq | old := List.mem_cons.1 mem
            · exact .inr (eq.trans up.symm)
            · exact .inl old
          · exact .inl (List.mem_cons_of_mem _ mem)
    · obtain eq | old := List.mem_cons.1 mem
      · exact .inr eq
      · exact .inl old

/-- Cleaning makes no new components. -/
theorem mem_split_of_mem_clean {p seg : String} (mem : seg ∈ clean p) :
    seg ∈ Text.split '/' p := by
  have folded (segs stack : List String) (h : seg ∈ segs.foldl (push (isAbs p)) stack) :
      seg ∈ stack ∨ seg ∈ segs := by
    induction segs generalizing stack with
    | nil => exact .inl h
    | cons s segs ih =>
        obtain old | new := ih _ h
        · obtain old | rfl := mem_of_mem_push old
          · exact .inl old
          · exact .inr List.mem_cons_self
        · exact .inr (List.mem_cons_of_mem _ new)
  rw [clean, List.mem_reverse] at mem
  exact (folded _ [] mem).resolve_left List.not_mem_nil

/-- Each backslash that turns makes one component more. -/
theorem length_split_slashed (p : String) :
    (Text.split '/' (slashed p)).length = (Text.split '/' p).length + p.toList.count '\\' := by
  have turned (cs : List Char) : (cs.map fun c => if c = '\\' then '/' else c).count '/' =
      cs.count '/' + cs.count '\\' := by
    induction cs with
    | nil => rfl
    | cons c cs ih =>
        rw [List.map_cons, List.count_cons, List.count_cons, List.count_cons, ih]
        by_cases back : c = '\\'
        · subst back
          simp
          omega
        · simp [back]
          omega
  rw [Text.length_split, Text.length_split, slashed, String.toList_ofList, turned]
  omega

/-- A path is the same cleaned as with its backslashes turned when it is clean already and has
no backslash. -/
theorem clean_eq_split_slashed_iff {p : String} (stays : (clean p).head? ≠ some "..") :
    clean p = Text.split '/' (slashed p) ↔
      (∀ seg ∈ Text.split '/' p, Plain seg) ∧ '\\' ∉ p.toList := by
  constructor
  · intro same
    have shorter := length_clean_le p
    have longer := length_split_slashed p
    rw [same] at shorter
    have none_ : p.toList.count '\\' = 0 := by omega
    have noBackslash : '\\' ∉ p.toList := List.count_eq_zero.1 none_
    refine ⟨?_, noBackslash⟩
    rw [slashed_of_not_mem noBackslash] at same
    rw [← same]
    exact clean_plain stays
  · rintro ⟨plain, noBackslash⟩
    rw [slashed_of_not_mem noBackslash, clean_of_plain plain]

end FilePath
