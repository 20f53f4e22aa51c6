import K8sPlatform.Lib.DnsName
import K8sPlatform.Backup.BatchDelete
import K8sPlatform.Backup.Restore

/-! # The name of an object that is restored beside the one that exists -/

namespace K8sPlatform.Backup

open DnsName
open Resource (Json)

def restoredBase (original yyyymmdd : String) : String := original ++ "-restored-" ++ yyyymmdd

/-- A later candidate: the base with a number behind it. -/
def numbered (base : String) (n : Nat) : String := base ++ "-" ++ toString n

/-- Some candidate that is looked up is free, or else the one with the time is, and the first free
one is not too long. -/
inductive HasRoom (existing : String → Bool) (base : String) (unix : Nat) : Prop
  | base (free : existing base = false) (fits : base.length ≤ maxLength)
  | oneDigit (taken : existing base = true) (n : Nat) (least : 2 ≤ n) (most : n < 10)
      (free : existing (numbered base n) = false) (fits : base.length + 2 ≤ maxLength)
  | twoDigits (taken : existing base = true)
      (numbers : ∀ n, 2 ≤ n → n < 10 → existing (numbered base n) = true) (n : Nat)
      (least : 10 ≤ n) (most : n < 100) (free : existing (numbered base n) = false)
      (fits : base.length + 3 ≤ maxLength)
  | time (taken : existing base = true)
      (numbers : ∀ n, 2 ≤ n → n < 100 → existing (numbered base n) = true)
      (free : existing (numbered base unix) = false)
      (fits : (numbered base unix).length ≤ maxLength)

variable {original yyyymmdd : String} {existing : String → Bool} {unix : Nat}

/-- The name is the first candidate that is free, or the one with the time. -/
inductive Chosen (existing : String → Bool) (base : String) (unix : Nat) : String → Prop
  | base (free : existing base = false) : Chosen existing base unix base
  | number (taken : existing base = true) (n : Nat) (least : 2 ≤ n) (most : n < 100)
      (before : ∀ k, 2 ≤ k → k < n → existing (numbered base k) = true)
      (free : existing (numbered base n) = false) : Chosen existing base unix (numbered base n)
  | time (taken : existing base = true)
      (numbers : ∀ n, 2 ≤ n → n < 100 → existing (numbered base n) = true) :
      Chosen existing base unix (numbered base unix)

theorem uniqueRestoredName_chosen (original yyyymmdd : String) (unix : Nat)
    (existing : String → Bool) :
    Chosen existing (restoredBase original yyyymmdd) unix
      (uniqueRestoredName original yyyymmdd unix fun _ n => existing n) := by
  unfold uniqueRestoredName
  change Chosen _ _ _ (if !existing (restoredBase original yyyymmdd) then _ else _)
  cases free : existing (restoredBase original yyyymmdd) with
  | false => exact .base free
  | true =>
      rw [Bool.not_true, if_neg Bool.false_ne_true]
      split
      case h_1 n found =>
        obtain ⟨free', mem, before⟩ := List.find?_range'_eq_some.1 found
        obtain ⟨least, most⟩ := List.mem_range'_1.1 mem
        refine .number free n least most (fun k two lt => ?_) ((Bool.not_eq_true' _).mp free')
        have seen : (!!existing (numbered (restoredBase original yyyymmdd) k)) = true :=
          before k two lt
        rwa [Bool.not_not] at seen
      case h_2 none_ =>
        refine .time free fun n least most => ?_
        have seen : (!!existing (numbered (restoredBase original yyyymmdd) n)) = true :=
          List.find?_range'_eq_none.1 none_ n least most
        rwa [Bool.not_not] at seen

/-! ## The length of the name -/

theorem length_numbered (base : String) (n : Nat) :
    (numbered base n).length = base.length + 1 + (toString n).length := by
  have dash : ("-" : String).length = 1 := by decide
  rw [numbered, String.length_append, String.length_append, dash]

theorem Chosen.length_le {base name : String} (chosen : Chosen existing base unix name) :
    base.length ≤ name.length := by
  cases chosen with
  | base => exact le_refl _
  | number | time =>
      rw [length_numbered]
      omega

theorem Chosen.ne_empty {name : String}
    (chosen : Chosen existing (restoredBase original yyyymmdd) unix name) : name ≠ "" := by
  rintro rfl
  have longer := chosen.length_le
  have suffix : ("-restored-" : String).length = 10 := by decide
  rw [restoredBase, String.length_append, String.length_append, suffix,
    String.length_empty] at longer
  omega

theorem length_toString_of_lt : ∀ n < 100, (toString n).length = if n < 10 then 1 else 2 := by
  decide +kernel

theorem isTail_toString (n : Nat) : IsTail (toString n) := by
  have chars : (toString n).toList = Nat.toDigits 10 n := Nat.toList_repr
  refine isTail_of_digits (fun empty => ?_) fun c mem => ?_
  · rw [empty] at chars
    exact Nat.toDigits_ne_nil chars.symm
  · rw [chars] at mem
    exact Nat.isDigit_of_mem_toDigits (by decide) (by decide) mem

theorem isTail_date {date : String} (dated : IsDate date) : IsTail ("-restored-" ++ date) :=
  .append (by decide) (isTail_of_digits dated.1 dated.2)

/-- The candidates are valid as long as they are short enough. -/
theorem Chosen.isSubdomain_iff {name : String} (valid : IsSubdomain original)
    (dated : IsDate yyyymmdd)
    (chosen : Chosen existing (restoredBase original yyyymmdd) unix name) :
    IsSubdomain name ↔ name.length ≤ maxLength := by
  have ofNumber (n : Nat) : IsSubdomain (numbered (restoredBase original yyyymmdd) n) ↔
      (numbered (restoredBase original yyyymmdd) n).length ≤ maxLength := by
    have tail : IsTail ("-restored-" ++ yyyymmdd ++ ("-" ++ toString n)) :=
      .append (isTail_date dated).1 (.append (by decide) (isTail_toString n))
    have whole : numbered (restoredBase original yyyymmdd) n =
        original ++ ("-restored-" ++ yyyymmdd ++ ("-" ++ toString n)) := by
      simp only [numbered, restoredBase, String.append_assoc]
    rw [whole]
    exact isSubdomain_append_iff valid tail
  cases chosen with
  | base =>
      rw [restoredBase, String.append_assoc]
      exact isSubdomain_append_iff valid (isTail_date dated)
  | number taken n => exact ofNumber n
  | time => exact ofNumber unix

/-- What is chosen is free and short enough just when there is room for it. -/
theorem Chosen.room_iff {base name : String} (chosen : Chosen existing base unix name) :
    (existing name = false ∧ name.length ≤ maxLength) ↔ HasRoom existing base unix := by
  cases chosen with
  | base free =>
      constructor
      · exact fun ok => .base free ok.2
      · intro room
        cases room with
        | base _ fits => exact ⟨free, fits⟩
        | oneDigit taken | twoDigits taken | time taken => simp [free] at taken
  | number taken n least most before free =>
      have length := length_toString_of_lt n most
      rw [length_numbered, length]
      constructor
      · rintro ⟨-, fits⟩
        by_cases small : n < 10
        · rw [if_pos small] at fits
          exact .oneDigit taken n least small free fits
        · rw [if_neg small] at fits
          exact .twoDigits taken (fun k two lt => before k two (by omega)) n (by omega) most free
            (by omega)
      · intro room
        refine ⟨free, ?_⟩
        cases room with
        | base open_ => simp [taken] at open_
        | oneDigit _ k least' most' open_ fits =>
            have first : n ≤ k := by
              by_contra later
              simp [before k least' (by omega)] at open_
            rw [if_pos (by omega)]
            omega
        | twoDigits _ numbers k least' most' open_ fits =>
            have large : ¬n < 10 := fun small => by simp [numbers n least small] at free
            rw [if_neg large]
            omega
        | time _ numbers => simp [numbers n least most] at free
  | time taken numbers =>
      constructor
      · exact fun ok => .time taken numbers ok.1 ok.2
      · intro room
        cases room with
        | base open_ => simp [taken] at open_
        | oneDigit _ n least most open_ => simp [numbers n least (by omega)] at open_
        | twoDigits _ _ n least most open_ => simp [numbers n (by omega) most] at open_
        | time _ _ open_ fits => exact ⟨open_, fits⟩

/-- The name that is chosen is free and valid just when there is room for one of the candidates. -/
theorem uniqueRestoredName_free_iff (valid : IsSubdomain original) (dated : IsDate yyyymmdd)
    (unix : Nat) (existing : String → Bool) :
    (existing (uniqueRestoredName original yyyymmdd unix fun _ n => existing n) = false ∧
        IsSubdomain (uniqueRestoredName original yyyymmdd unix fun _ n => existing n)) ↔
      HasRoom existing (restoredBase original yyyymmdd) unix := by
  have chosen := uniqueRestoredName_chosen original yyyymmdd unix existing
  rw [chosen.isSubdomain_iff valid dated]
  exact chosen.room_iff

/-- `web` was restored that day before. -/
theorem uniqueRestoredName_free_web :
    (fun n => n == "web-restored-20260830") (uniqueRestoredName "web" "20260830" 1788048000
        fun _ n => n == "web-restored-20260830") = false ∧
      IsSubdomain (uniqueRestoredName "web" "20260830" 1788048000
        fun _ n => n == "web-restored-20260830") := by
  have day : IsDate "20260830" := ⟨by decide, List.all_eq_true.1 (by decide)⟩
  refine (uniqueRestoredName_free_iff (by decide +kernel) day 1788048000
    fun n => n == "web-restored-20260830").2 ?_
  exact .oneDigit (by decide +kernel) 2 (by decide) (by decide) (by decide +kernel)
    (by decide +kernel)

/-- `Get` finds what is there, and nothing else. -/
def ApiServer.Answers (api : ApiServer) (s : Objects) (gvr : GVR) (ns : String) : Prop :=
  ∀ n name, found (api.get n ⟨gvr, ns, name⟩) = s.get? ⟨gvr, ns, name⟩

/-- The server creates no object whose name is not valid. -/
def ApiServer.ChecksNames (api : ApiServer) : Prop :=
  ∀ obj, ¬IsSubdomain obj.name → ∃ err, api.process (.create obj) none = .error err

variable {api : ApiServer} {s : Objects} {gvr : GVR} {ns : String} {obj : Json}

def existingNames (s : Objects) (gvr : GVR) (ns : String) : String → Bool :=
  fun name => (s.get? ⟨gvr, ns, name⟩).isSome

/-- An object that exists is created under the name that is chosen. -/
theorem restoreRequest_renamed (yyyymmdd : String) (unix : Nat) (answers : api.Answers s gvr ns)
    (valid : IsSubdomain obj.name) (there : existingNames s gvr ns obj.name = true) :
    ∃ o, restoreRequest api yyyymmdd unix gvr ns obj restoreModeCreateNew = .create o ∧
      o.resourceVersion = "" ∧
      o.name = uniqueRestoredName obj.name yyyymmdd unix fun _ n => existingNames s gvr ns n := by
  have looked : (fun n name => (found (api.get n ⟨gvr, ns, name⟩)).isSome) =
      fun _ n => existingNames s gvr ns n := by
    funext n name
    rw [answers, existingNames]
  have first : (found (api.get 0 ⟨gvr, ns, obj.name⟩)).isSome = true := by
    rwa [answers]
  refine ⟨_, by rw [restoreRequest, if_pos rfl], ?_, ?_⟩
  · rw [Json.resourceVersion, nestedString_stripForCreate, if_pos (by decide)]
  · dsimp only
    rw [if_pos first, looked, name_stripForCreate, Json.setName, Json.name,
      Json.nestedString_setMetadata (Json.hasMetadata_of_nestedString valid.ne_empty), if_pos rfl]

theorem write_create {o : Json} (unversioned : o.resourceVersion = "") (named : o.name ≠ "") :
    write api s gvr ns (.create o) =
      if existingNames s gvr ns o.name then (s, .error (o.name ++ " already exists"))
      else
        match api.process (.create o) none with
        | .error err => (s, .error err)
        | .ok stored => (s.set ⟨gvr, ns, o.name⟩ stored, .ok ()) := by
  have place : nameOfNew api o = o.name := if_neg named
  unfold write existingNames
  dsimp only
  rw [place, if_neg (not_not.2 unversioned), if_neg named]
  cases s.get? ⟨gvr, ns, o.name⟩ <;> rfl

/-- Where there is room the creation goes to the server with a name that is free and valid. -/
theorem createNew_processed (answers : api.Answers s gvr ns) (valid : IsSubdomain obj.name)
    (dated : IsDate yyyymmdd) (there : existingNames s gvr ns obj.name = true)
    (room : HasRoom (existingNames s gvr ns) (restoredBase obj.name yyyymmdd) unix) :
    ∃ o, IsSubdomain o.name ∧ existingNames s gvr ns o.name = false ∧
      applyRestoredObject api yyyymmdd unix s gvr ns obj restoreModeCreateNew =
        match api.process (.create o) none with
        | .error err => (s, .error err)
        | .ok stored => (s.set ⟨gvr, ns, o.name⟩ stored, .ok ()) := by
  obtain ⟨o, creates, unversioned, name⟩ := restoreRequest_renamed yyyymmdd unix answers valid there
  have chosen := uniqueRestoredName_chosen obj.name yyyymmdd unix (existingNames s gvr ns)
  rw [← name] at chosen
  obtain ⟨free, fits⟩ := chosen.room_iff.2 room
  refine ⟨o, (chosen.isSubdomain_iff valid dated).2 fits, free, ?_⟩
  rw [applyRestoredObject, creates, write_create unversioned chosen.ne_empty, free,
    if_neg Bool.false_ne_true]

/-- Where there is none the restore fails. -/
theorem createNew_refused (answers : api.Answers s gvr ns) (checks : api.ChecksNames)
    (valid : IsSubdomain obj.name) (dated : IsDate yyyymmdd)
    (there : existingNames s gvr ns obj.name = true)
    (noRoom : ¬HasRoom (existingNames s gvr ns) (restoredBase obj.name yyyymmdd) unix) :
    ∃ err, applyRestoredObject api yyyymmdd unix s gvr ns obj restoreModeCreateNew =
      (s, .error err) := by
  obtain ⟨o, creates, unversioned, name⟩ := restoreRequest_renamed yyyymmdd unix answers valid there
  have chosen := uniqueRestoredName_chosen obj.name yyyymmdd unix (existingNames s gvr ns)
  rw [← name] at chosen
  rw [← chosen.room_iff, ← chosen.isSubdomain_iff valid dated, not_and] at noRoom
  rw [applyRestoredObject, creates, write_create unversioned chosen.ne_empty]
  cases taken : existingNames s gvr ns o.name with
  | true => exact ⟨_, if_pos rfl⟩
  | false =>
      obtain ⟨err, refused⟩ := checks o (noRoom taken)
      rw [if_neg Bool.false_ne_true, refused]
      exact ⟨err, rfl⟩

/-- A name of nothing but letters. -/
def letters (n : Nat) : String := String.ofList (List.replicate n 'a')

theorem length_letters (n : Nat) : (letters n).length = n := by
  rw [letters, String.length_ofList, List.length_replicate]

theorem letters_valid {n : Nat} (some_ : n ≠ 0) (short : n ≤ maxLength) :
    IsSubdomain (letters n) := by
  have chars : (letters n).toList = List.replicate n 'a' := String.toList_ofList
  have letter {c : Char} (mem : c ∈ (letters n).toList) : c = 'a' := by
    rw [chars] at mem
    exact List.eq_of_mem_replicate mem
  have plain : '.' ∉ (letters n).toList := fun mem => absurd (letter mem) (by decide)
  constructor
  · intro label mem
    rw [Text.split_of_not_mem plain, List.mem_singleton] at mem
    subst mem
    refine ⟨List.all_eq_true.2 fun c mem => letter mem ▸ by decide, ?_, ?_⟩
    · rw [chars, List.head?_replicate, if_neg some_]
      decide
    · rw [chars, List.getLast?_replicate, if_neg some_]
      decide
  · rwa [length_letters]

/-- The candidates for an object: those that are looked up, and the one with the time. -/
def candidates (base : String) (unix : Nat) : List String :=
  base :: numbered base unix :: (List.range' 2 98).map (numbered base)

theorem Chosen.mem_candidates {base name : String} (chosen : Chosen existing base unix name) :
    name ∈ candidates base unix := by
  unfold candidates
  cases chosen with
  | base => exact List.mem_cons_self
  | number taken n least most =>
      refine List.mem_cons_of_mem _ (List.mem_cons_of_mem _ (List.mem_map_of_mem ?_))
      exact List.mem_range'_1.2 ⟨least, most⟩
  | time => exact List.mem_cons_of_mem _ List.mem_cons_self

/-- A valid name of 236 characters is too long with the suffix; and where all candidates exist, one
that exists is chosen. -/
theorem restored_name_refused :
    (IsSubdomain (letters 236) ∧
      ¬IsSubdomain (uniqueRestoredName (letters 236) "20260830" 1788048000
        fun _ n => n == letters 236)) ∧
      decide (uniqueRestoredName "web" "20260830" 1788048000 (fun _ n =>
        decide (n ∈ candidates (restoredBase "web" "20260830") 1788048000)) ∈
          candidates (restoredBase "web" "20260830") 1788048000) = true := by
  refine ⟨⟨letters_valid (by decide) (by decide), fun valid => ?_⟩, ?_⟩
  · have chosen := uniqueRestoredName_chosen (letters 236) "20260830" 1788048000
      fun n => n == letters 236
    have short := chosen.length_le.trans valid.2
    have long : (restoredBase (letters 236) "20260830").length = 236 + 10 + 8 := by
      rw [restoredBase, String.length_append, String.length_append, length_letters]
      rfl
    rw [long] at short
    exact absurd short (by decide)
  · rw [decide_eq_true_eq]
    exact (uniqueRestoredName_chosen "web" "20260830" 1788048000 fun n =>
      decide (n ∈ candidates (restoredBase "web" "20260830") 1788048000)).mem_candidates

end K8sPlatform.Backup
