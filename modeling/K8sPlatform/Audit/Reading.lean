import K8sPlatform.Audit.Log
import K8sPlatform.Errcode
import K8sPlatform.Lib.Paging
import K8sPlatform.Lib.Transition
import Mathlib.Data.List.Sort

/-! # Reading the audit log while it is written -/

namespace K8sPlatform.Audit

open Errcode Paging Transition

/-- A row of `audit_log`. -/
structure StoredLog where
  id : Nat
  createdAt : Int
  entry : AuditLog

/-- Times are texts that the database reads. -/
structure AuditListQuery where
  page : Int
  pageSize : Int
  username : String
  moduleName : String
  action : String
  status : String
  clusterCode : String
  ns : String
  targetType : String
  targetID : String
  traceID : String
  startTime : String
  endTime : String

namespace AuditListQuery

def pageNumber (q : AuditListQuery) : Int := if q.page < 1 then 1 else q.page

def size (q : AuditListQuery) : Int := if q.pageSize < 1 ∨ q.pageSize > 200 then 20 else q.pageSize

/-- `OFFSET` and `LIMIT`, in 64-bit arithmetic; a negative offset is left out. -/
def window (q : AuditListQuery) : Nat × Nat :=
  ((Int.bmod ((q.pageNumber - 1) * q.size) (2 ^ 64)).toNat, q.size.toNat)

def equals (q column : String) : Bool := q == "" || column == q

def selects (q : AuditListQuery) (since until_ : Option Int) (row : StoredLog) : Bool :=
  equals q.username row.entry.username && equals q.moduleName row.entry.moduleName &&
    equals q.action row.entry.action && equals q.status row.entry.status &&
    equals q.clusterCode row.entry.clusterCode && equals q.ns row.entry.ns &&
    equals q.targetType row.entry.targetType && equals q.targetID row.entry.targetID &&
    equals q.traceID row.entry.traceID && since.all (· ≤ row.createdAt) &&
    until_.all (row.createdAt ≤ ·)

end AuditListQuery

/-- The bound of a time that is given. -/
def readBound (readTime : String → Except String Int) (text : String) :
    Except String (Option Int) :=
  if text = "" then .ok none else (readTime text).map some

def newestFirst (rows : List StoredLog) : List StoredLog :=
  rows.insertionSort fun x y => y.id ≤ x.id

/-- The total, and the rows of the page; `failure` is what the database says to the query. -/
def listAuditLogs (readTime : String → Except String Int) (failure : Option String)
    (rows : List StoredLog) (q : AuditListQuery) : Except Error (Nat × List StoredLog) :=
  match failure with
  | some err => .error (.wrap .databaseError err)
  | none =>
      match readBound readTime q.startTime with
      | .error err => .error (.wrap .databaseError err)
      | .ok since =>
          match readBound readTime q.endTime with
          | .error err => .error (.wrap .databaseError err)
          | .ok until_ =>
              let found := rows.filter (q.selects since until_)
              let (offset, limit) := q.window
              .ok (found.length, ((newestFirst found).drop offset).take limit)

/-- The times of the query are read, and its filters let the row through. -/
def AuditListQuery.Selects (readTime : String → Except String Int) (q : AuditListQuery)
    (row : StoredLog) : Prop :=
  ∃ since until_, readBound readTime q.startTime = .ok since ∧
    readBound readTime q.endTime = .ok until_ ∧ q.selects since until_ row = true

theorem listAuditLogs_eq_ok {readTime : String → Except String Int} {failure : Option String}
    {rows logs : List StoredLog} {q : AuditListQuery} {total : Nat}
    (answered : listAuditLogs readTime failure rows q = .ok (total, logs)) :
    ∃ since until_, readBound readTime q.startTime = .ok since ∧
      readBound readTime q.endTime = .ok until_ ∧
        logs = ((newestFirst (rows.filter (q.selects since until_))).drop q.window.1).take
          q.window.2 := by
  unfold listAuditLogs at answered
  cases failure with
  | some err => cases answered
  | none =>
      cases since : readBound readTime q.startTime with
      | error err =>
          rw [since] at answered
          cases answered
      | ok a =>
          cases until_ : readBound readTime q.endTime with
          | error err =>
              rw [since, until_] at answered
              cases answered
          | ok b =>
              rw [since, until_] at answered
              refine ⟨a, b, rfl, rfl, ?_⟩
              exact (congrArg Prod.snd (Except.ok.inj answered)).symm

theorem AuditListQuery.size_pos (q : AuditListQuery) : 0 < q.size.toNat := by
  unfold size
  split <;> omega

theorem AuditListQuery.size_le (q : AuditListQuery) : q.size.toNat ≤ 200 := by
  unfold size
  split <;> omega

theorem AuditListQuery.window_eq (q : AuditListQuery) {n : Nat}
    (small : n * q.size.toNat < 2 ^ 63) :
    ({ q with page := n + 1 } : AuditListQuery).window = (n * q.size.toNat, q.size.toNat) := by
  have pos := q.size_pos
  have same : ({ q with page := n + 1 } : AuditListQuery).size = q.size := rfl
  have number : ({ q with page := n + 1 } : AuditListQuery).pageNumber = n + 1 := by
    unfold pageNumber
    dsimp only
    split <;> omega
  have offset : ((n : Int) + 1 - 1) * q.size = (n * q.size.toNat : Nat) := by
    rw [Int.add_sub_cancel, Int.natCast_mul, Int.toNat_of_nonneg (by omega)]
  rw [window, same, number, offset, Int.bmod_eq_of_le (by omega) (by omega), Int.toNat_natCast]

theorem newestFirst_perm (rows : List StoredLog) : (newestFirst rows).Perm rows :=
  List.perm_insertionSort _ rows

theorem newestFirst_pairwise {rows : List StoredLog} (distinct : (rows.map (·.id)).Nodup) :
    (newestFirst rows).Pairwise fun x y => y.id < x.id := by
  have total : Std.Total fun x y : StoredLog => y.id ≤ x.id := ⟨fun x y => le_total y.id x.id⟩
  have trans : IsTrans StoredLog fun x y => y.id ≤ x.id :=
    ⟨fun x y z first second => le_trans second first⟩
  have sorted : (newestFirst rows).Pairwise fun x y => y.id ≤ x.id :=
    List.pairwise_insertionSort _ rows
  have apart : (newestFirst rows).Pairwise fun x y => x.id ≠ y.id :=
    List.pairwise_map.1 (((newestFirst_perm rows).map _).nodup_iff.2 distinct)
  refine (sorted.and apart).imp fun both => ?_
  exact lt_of_le_of_ne both.1 both.2.symm

/-- More rows stand between the rows that were there, which keep their order. -/
theorem newestFirst_sublist {rows more : List StoredLog} (sub : rows.Sublist more)
    (distinct : (more.map (·.id)).Nodup) : (newestFirst rows).Sublist (newestFirst more) := by
  have antisymm : Std.Antisymm fun x y : StoredLog => y.id < x.id := by
    constructor
    intro x y first second
    omega
  refine List.sublist_of_subperm_of_pairwise (r := fun x y => y.id < x.id) ?_
    (newestFirst_pairwise (distinct.sublist (sub.map _))) (newestFirst_pairwise distinct)
  exact ((newestFirst_perm rows).subperm.trans sub.subperm).trans
    (newestFirst_perm more).symm.subperm

/-! ## A reader beside the writers -/

/-- What a reader has been shown, page after page. -/
structure AuditReader where
  rows : List StoredLog
  answers : List (List StoredLog)

inductive AuditStep where
  /-- A row is committed; ids come from a sequence, but not always in their order. -/
  | commit (row : StoredLog)
  /-- The next page is asked for. -/
  | read (failure : Option String)

namespace AuditReader

def next (readTime : String → Except String Int) (q : AuditListQuery) (s : AuditReader) :
    AuditStep → AuditReader
  | .commit row =>
      if s.rows.any (·.id == row.id) then s else { s with rows := s.rows ++ [row] }
  | .read failure =>
      match listAuditLogs readTime failure s.rows { q with page := s.answers.length + 1 } with
      | .ok (_, logs) => { s with answers := s.answers ++ [logs] }
      | .error _ => s

variable {readTime : String → Except String Int} {q : AuditListQuery} {rows : List StoredLog}

/-- Ids are a primary key, and what was shown is in the log and was asked for. -/
structure Sound (readTime : String → Except String Int) (q : AuditListQuery) (s : AuditReader) :
    Prop where
  distinct : (s.rows.map (·.id)).Nodup
  shown : ∀ answer ∈ s.answers, ∀ row ∈ answer, row ∈ s.rows ∧ q.Selects readTime row

/-- A row is shown, or stands on a page that is not read, with all pages full up to there. -/
def Ahead (readTime : String → Except String Int) (q : AuditListQuery) (s : AuditReader)
    (row : StoredLog) : Prop :=
  (∃ answer ∈ s.answers, row ∈ answer) ∨
    ((∀ answer ∈ s.answers, answer.length = q.size.toNat) ∧
      ∃ since until_, readBound readTime q.startTime = .ok since ∧
        readBound readTime q.endTime = .ok until_ ∧
          row ∈ (newestFirst (s.rows.filter (q.selects since until_))).drop
            (s.answers.length * q.size.toNat))

variable (readTime) in
theorem next_read_cases (s : AuditReader) (failure : Option String)
    (small : s.answers.length * q.size.toNat < 2 ^ 63) :
    next readTime q s (.read failure) = s ∨
      ∃ since until_, readBound readTime q.startTime = .ok since ∧
        readBound readTime q.endTime = .ok until_ ∧
          next readTime q s (.read failure) = { s with
            answers := s.answers ++
              [page (newestFirst (s.rows.filter (q.selects since until_))) q.size.toNat
                (s.answers.length + 1)] } := by
  rw [next]
  cases answered : listAuditLogs readTime failure s.rows
      { q with page := s.answers.length + 1 } with
  | error err => exact .inl rfl
  | ok answer =>
      obtain ⟨total, logs⟩ := answer
      obtain ⟨since, until_, lower, upper, eq⟩ := listAuditLogs_eq_ok answered
      rw [q.window_eq small] at eq
      refine .inr ⟨since, until_, lower, upper, ?_⟩
      rw [page, Nat.add_sub_cancel]
      exact congrArg (fun logs => { s with answers := s.answers ++ [logs] }) eq

theorem Sound.next {s : AuditReader} (sound : Sound readTime q s)
    (small : s.answers.length * q.size.toNat < 2 ^ 63) (step : AuditStep) :
    Sound readTime q (next readTime q s step) := by
  cases step with
  | commit row =>
      rw [AuditReader.next]
      split
      · exact sound
      · next fresh =>
          constructor
          · rw [List.map_append, List.nodup_append]
            refine ⟨sound.distinct, List.nodup_singleton _, ?_⟩
            intro id old id' new eq
            obtain ⟨row', mem, rfl⟩ := List.mem_map.1 old
            obtain rfl := List.mem_singleton.1 new
            exact fresh (List.any_eq_true.2 ⟨row', mem, beq_iff_eq.2 eq⟩)
          · intro answer mem row' inside
            obtain ⟨there, selected⟩ := sound.shown answer mem row' inside
            exact ⟨List.mem_append_left _ there, selected⟩
  | read failure =>
      obtain same | ⟨since, until_, lower, upper, eq⟩ := next_read_cases readTime s
        failure small
      · rwa [same]
      · rw [eq]
        refine ⟨sound.distinct, ?_⟩
        intro answer mem row inside
        rcases List.mem_append.1 mem with old | new
        · exact sound.shown answer old row inside
        · obtain rfl := List.mem_singleton.1 new
          have found := (newestFirst_perm _).mem_iff.1
            (List.mem_of_mem_drop (List.mem_of_mem_take inside))
          obtain ⟨there, selected⟩ := List.mem_filter.1 found
          exact ⟨there, since, until_, lower, upper, selected⟩

theorem Ahead.next {s : AuditReader} {row : StoredLog} (ahead : Ahead readTime q s row)
    (sound : Sound readTime q s) (small : s.answers.length * q.size.toNat < 2 ^ 63)
    (step : AuditStep) : Ahead readTime q (next readTime q s step) row := by
  have after := sound.next small step
  cases step with
  | commit new =>
      rw [AuditReader.next] at after ⊢
      split at after
      · rwa [if_pos ‹_›]
      · rw [if_neg ‹_›]
        rcases ahead with shown | ⟨full, since, until_, lower, upper, mem⟩
        · exact .inl shown
        · refine .inr ⟨full, since, until_, lower, upper, ?_⟩
          have sub : (s.rows.filter (q.selects since until_)).Sublist
              ((s.rows ++ [new]).filter (q.selects since until_)) :=
            (List.sublist_append_left _ _).filter _
          have distinct := after.distinct.sublist
            ((List.filter_sublist (p := q.selects since until_)).map StoredLog.id)
          exact ((newestFirst_sublist sub distinct).drop _).subset mem
  | read failure =>
      obtain same | ⟨since, until_, lower, upper, eq⟩ := next_read_cases readTime s
        failure small
      · rwa [same]
      · rw [eq]
        rcases ahead with ⟨answer, mem, inside⟩ | ⟨full, since', until', lower', upper', mem⟩
        · exact .inl ⟨answer, List.mem_append_left _ mem, inside⟩
        · rw [lower] at lower'
          rw [upper] at upper'
          cases lower'
          cases upper'
          rcases page_or_later mem with here | ⟨later, whole⟩
          · exact .inl ⟨_, List.mem_append_right _ (List.mem_singleton_self _), here⟩
          · refine .inr ⟨?_, since, until_, lower, upper, ?_⟩
            · intro answer mem'
              rcases List.mem_append.1 mem' with old | new
              · exact full answer old
              · rw [List.mem_singleton.1 new]
                exact whole
            · rw [List.length_append, List.length_singleton]
              exact later

variable (readTime q) in
theorem length_answers_next_le (s : AuditReader) (step : AuditStep) :
    (next readTime q s step).answers.length ≤ s.answers.length + 1 := by
  cases step with
  | commit row =>
      rw [next]
      split <;> simp
  | read failure =>
      rw [next]
      split <;> simp

theorem exec_sound {s : AuditReader} (sound : Sound readTime q s) (steps : List AuditStep)
    (small : (s.answers.length + steps.length) * 200 < 2 ^ 63) :
    Sound readTime q (exec (next readTime q) s steps) ∧
      ∀ row, Ahead readTime q s row → Ahead readTime q (exec (next readTime q) s steps) row := by
  induction steps generalizing s with
  | nil => exact ⟨sound, fun _ ahead => ahead⟩
  | cons step steps ih =>
      rw [List.length_cons] at small
      have most := length_answers_next_le readTime q s step
      have fits : s.answers.length * q.size.toNat < 2 ^ 63 := by
        apply lt_of_le_of_lt (Nat.mul_le_mul_left _ q.size_le)
        omega
      obtain ⟨sound', ahead'⟩ := ih (sound.next fits step) (by omega)
      exact ⟨sound', fun row ahead => ahead' row (ahead.next sound fits step)⟩

/-- A reader who asks for page after page until one is not full has been shown every row that was
there when he began and that he asked for, whatever is committed between his pages, and in any
order of ids; and nothing that he did not ask for. -/
theorem readers_miss_none (readTime : String → Except String Int) (q : AuditListQuery)
    (rows : List StoredLog) (steps : List AuditStep) (distinct : (rows.map (·.id)).Nodup)
    (small : steps.length * 200 < 2 ^ 63)
    (ended : ∃ answer ∈ (exec (next readTime q) ⟨rows, []⟩ steps).answers,
      answer.length < q.size.toNat) (row : StoredLog) (mem : row ∈ rows) :
    q.Selects readTime row ↔
      ∃ answer ∈ (exec (next readTime q) ⟨rows, []⟩ steps).answers, row ∈ answer := by
  have sound : Sound readTime q ⟨rows, []⟩ := ⟨distinct, fun answer none_ => nomatch none_⟩
  obtain ⟨sound', ahead'⟩ := exec_sound sound steps (by simpa using small)
  constructor
  · rintro ⟨since, until_, lower, upper, selected⟩
    have ahead : Ahead readTime q ⟨rows, []⟩ row := by
      refine .inr ⟨fun answer none_ => (nomatch none_), since, until_, lower, upper, ?_⟩
      rw [List.length_nil, Nat.zero_mul, List.drop_zero]
      exact (newestFirst_perm _).mem_iff.2 (List.mem_filter.2 ⟨mem, selected⟩)
    rcases ahead' row ahead with shown | ⟨full, _⟩
    · exact shown
    · obtain ⟨answer, last, short⟩ := ended
      exact absurd (full answer last) short.ne
  · rintro ⟨answer, there, inside⟩
    exact (sound'.shown answer there row inside).2

/-- The row of a request, as the table stores it. -/
def loginRow (id : Nat) : StoredLog where
  id := id
  createdAt := id
  entry :=
    { traceID := "", userID := 1, username := "admin", clientIP := "10.0.0.7", userAgent := ""
      moduleName := "cluster", action := "create", targetType := "clusters", targetID := "dev"
      clusterCode := "dev", ns := "", status := "success", requestMethod := "POST"
      requestURI := "/api/v1/clusters", requestBody := [], responseCode := 200, costMs := 5 }

def onePerPage : AuditListQuery where
  page := 1
  pageSize := 1
  username := "admin"
  moduleName := ""
  action := ""
  status := ""
  clusterCode := ""
  ns := ""
  targetType := ""
  targetID := ""
  traceID := ""
  startTime := ""
  endTime := ""

def noTimes (text : String) : Except String Int := .error text

/-- A row is committed after the first page, which moves the row of that page to the second. -/
def committedBetween : List AuditStep :=
  [.read none, .commit (loginRow 2), .read none, .read none]

theorem committedBetween_answers :
    (exec (next noTimes onePerPage) ⟨[loginRow 1], []⟩ committedBetween).answers =
      [[loginRow 1], [loginRow 1], []] := by
  rfl

theorem committedBetween_misses_none : onePerPage.Selects noTimes (loginRow 1) ↔
    ∃ answer ∈ (exec (next noTimes onePerPage) ⟨[loginRow 1], []⟩ committedBetween).answers,
      loginRow 1 ∈ answer :=
  readers_miss_none noTimes onePerPage [loginRow 1] committedBetween (List.nodup_singleton _)
    (by decide) ⟨[], by rw [committedBetween_answers]; simp, by decide⟩ (loginRow 1)
    (List.mem_singleton_self _)

end AuditReader

end K8sPlatform.Audit
