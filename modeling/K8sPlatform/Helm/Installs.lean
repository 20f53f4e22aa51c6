import K8sPlatform.Lib.FilePath
import K8sPlatform.Lib.Transition
import K8sPlatform.Helm.Manager

/-! # Installs side by side, and the values that their helm processes read -/

namespace K8sPlatform.Helm

open Errcode

/-- The kubeconfig file of a call, in the directory that all calls share. `nanos` is the clock. -/
def kubeconfigPath (tempDir clusterCode : String) (nanos : Nat) : String :=
  "/" ++ Text.join '/' (FilePath.clean
    (tempDir ++ "/k8s-platform-helm/" ++ clusterCode ++ "-" ++ toString nanos ++ ".yaml"))

/-- The name of a kubeconfig file ends in a number, so none is a values file. -/
theorem kubeconfigPath_ne_valuesPath (tempDir code : String) (nanos : Nat) (path : String) :
    kubeconfigPath tempDir code nanos ≠ valuesPath path := by
  intro same
  obtain ⟨digits, digit, number⟩ : ∃ digits digit, Nat.toDigits 10 nanos = digits ++ [digit] :=
    ⟨_, _, (List.dropLast_concat_getLast Nat.toDigits_ne_nil).symm⟩
  have isDigit : digit.isDigit = true :=
    Nat.isDigit_of_mem_toDigits (by decide) (by decide) (number ▸ List.mem_concat_self)
  obtain ⟨name, name_eq⟩ : ∃ name, name = "-" ++ toString nanos ++ ".yaml" := ⟨_, rfl⟩
  have chars : name.toList = '-' :: digits ++ digit :: ".yaml".toList := by
    simp [name_eq, number]
  have plain : '/' ∉ name.toList := by
    have other := Text.not_mem_digits (c := '/') (by decide) nanos
    rw [number] at other
    simpa [chars] using other
  obtain ⟨front, stub, pieces⟩ :=
    Text.split_append_of_not_mem (tempDir ++ "/k8s-platform-helm/" ++ code) plain
  have last (s : String) : (s ++ name).toList.getLast? = some 'l' := by
    refine List.getLast?_eq_some_iff.2 ⟨s.toList ++ '-' :: digits ++ digit :: ".yam".toList, ?_⟩
    simp [chars]
  have named : FilePath.Plain (stub ++ name) := by
    refine ⟨?_, ?_, ?_⟩ <;>
    · intro short
      have := last stub
      rw [short] at this
      revert this
      decide
  obtain ⟨above, cleaned⟩ := List.getLast?_eq_some_iff.1 (FilePath.clean_getLast pieces named)
  obtain ⟨start, joined⟩ := Text.join_concat '/' above (stub ++ name)
  have ends : kubeconfigPath tempDir code nanos = "/" ++ (start ++ (stub ++ name)) := by
    rw [← joined, ← cleaned, name_eq, kubeconfigPath]
    simp only [String.append_assoc]
  -- before `.yaml` the one has a digit, and the other the end of `values`
  have both : "/".toList ++ start.toList ++ stub.toList ++ '-' :: digits ++ [digit] =
      ((path.toList.reverse.dropWhile (· ≠ '/')).reverse ++ "value".toList) ++ ['s'] := by
    have whole := congrArg String.toList (ends.symm.trans same)
    apply @List.append_cancel_right _ _ ".yaml".toList _
    simpa [valuesPath, chars] using whole
  obtain rfl : digit = 's' := (List.append_singleton_inj.1 both).2
  revert isDigit
  decide

/-- What a step of a call meets: the error of getting the kubeconfig and writing its file, the
clock, the error of writing the values, and the outcome of a helm process. -/
structure Env where
  kubeconfig : String → Except Failure Unit
  nanos : Nat
  writeValues : Option String
  parseURL : String → Option (String × String)
  exec : List String → Except String String

def Env.host (env : Env) (tempDir : String) : Host where
  writeKubeconfig code := (env.kubeconfig code).map fun _ => kubeconfigPath tempDir code env.nanos
  writeValues := env.writeValues
  parseURL := env.parseURL
  exec := env.exec

/-- Where a call is. `read` is what its helm process has read behind `-f`, once there is one. -/
inductive Phase
  | entered
  | checking (path : String)
  | preparing (path : String) (released : Bool)
  | starting (path : String) (released : Bool)
  | opening (path : String) (inv : Invocation)
  | working (inv : Invocation) (read : Option String)
  | returned (read : Option (Option String)) (result : Except Failure String)

structure Call where
  inp : InstallInput
  phase : Phase

/-- The values of the call, if it has any. -/
def InstallInput.given (inp : InstallInput) : Option String :=
  if inp.values = "" then none else some inp.values

/-- What the helm process of the call has read, once it has. -/
def Call.read (c : Call) : Option (Option String) :=
  match c.phase with
  | .working _ read => some read
  | .returned read _ => read
  | _ => none

/-- The values files by path; `writer` is the call that wrote a file last. -/
structure Installs where
  files : String → Option String
  writer : String → Option Nat
  calls : Nat → Option Call

inductive InstallStep
  | call (call : Nat) (inp : InstallInput)
  | advance (call : Nat) (env : Env)

namespace Installs

def start : Installs := ⟨fun _ => none, fun _ => none, fun _ => none⟩

def setPhase (s : Installs) (call : Nat) (c : Call) (phase : Phase) : Installs :=
  { s with calls := Function.update s.calls call (some { c with phase }) }

/-- `os.WriteFile`. -/
def writeFile (s : Installs) (call : Nat) (path content : String) : Installs :=
  { s with
    files := Function.update s.files path (some content)
    writer := Function.update s.writer path (some call) }

/-- The process of an install or upgrade. -/
def invocation (inp : InstallInput) (path : String) (released : Bool) : Invocation :=
  ⟨path, inp.ns, if released then "upgrade" else "install",
    inp.releaseName :: inp.chartRef :: inp.options path⟩

variable (tempDir : String)

/-- The next step of a call: a file is written, a process started, a file read by the process, or
the process has ended. -/
def advance (s : Installs) (call : Nat) (c : Call) (env : Env) : Installs :=
  let host := env.host tempDir
  match c.phase with
  | .entered =>
      match host.writeKubeconfig c.inp.clusterCode with
      | .error err => s.setPhase call c (.returned none (.error err))
      | .ok path => s.setPhase call c (.checking path)
  | .checking path => s.setPhase call c (.preparing path (checkReleaseExists host path c.inp))
  | .preparing path released =>
      match c.inp.blocked host with
      | some err => s.setPhase call c (.returned none (.error err))
      | none =>
          match c.inp.given with
          | none => s.setPhase call c (.starting path released)
          | some values =>
              (s.writeFile call (valuesPath path) values).setPhase call c (.starting path released)
  | .starting path released =>
      s.setPhase call c (.opening path (invocation c.inp path released))
  | .opening path inv =>
      match c.inp.given with
      | none => s.setPhase call c (.working inv none)
      | some _ => s.setPhase call c (.working inv (s.files (valuesPath path)))
  | .working inv read =>
      s.setPhase call c
        (.returned (some read) (Helm.start host inv [] "helm install/upgrade").result)
  | .returned .. => s

def next (s : Installs) : InstallStep → Installs
  | .call call inp =>
      match s.calls call with
      | some _ => s
      | none => { s with calls := Function.update s.calls call (some ⟨inp, .entered⟩) }
  | .advance call env =>
      match s.calls call with
      | none => s
      | some c => s.advance tempDir call c env

/-- No helm process has read anything but the values given in its call. -/
def Unmixed (s : Installs) : Prop :=
  ∀ call c, s.calls call = some c → ∀ read, c.read = some read → read = c.inp.given

/-- A helm process that opens a values file finds there what a call with the same values wrote
last. -/
def OpensOwn (s : Installs) : InstallStep → Prop
  | .call .. => True
  | .advance call _ =>
      ∀ c path inv, s.calls call = some c → c.phase = .opening path inv → c.inp.values ≠ "" →
        ∃ other c', s.writer (valuesPath path) = some other ∧ s.calls other = some c' ∧
          c'.inp.values = c.inp.values

/-! ## What a step does -/

/-- A step: a call begins, moves on, writes its values, or has its process open a file. -/
inductive Steps (s : Installs) (e : InstallStep) : Installs → Prop
  | idle (opens : s.OpensOwn e) : Steps s e s
  | begins (call : Nat) (inp : InstallInput) (absent : s.calls call = none) (opens : s.OpensOwn e) :
      Steps s e { s with calls := Function.update s.calls call (some ⟨inp, .entered⟩) }
  | moves (call : Nat) (c : Call) (found : s.calls call = some c) (phase : Phase)
      (same : Call.read { c with phase } = c.read) (opens : s.OpensOwn e) :
      Steps s e (s.setPhase call c phase)
  | writes (call : Nat) (c : Call) (found : s.calls call = some c) (path : String) (phase : Phase)
      (same : Call.read { c with phase } = c.read) (opens : s.OpensOwn e) :
      Steps s e ((s.writeFile call path c.inp.values).setPhase call c phase)
  | opensNone (call : Nat) (c : Call) (found : s.calls call = some c) (inv : Invocation)
      (none_ : c.inp.given = none) (opens : s.OpensOwn e) :
      Steps s e (s.setPhase call c (.working inv none))
  | opensFile (call : Nat) (c : Call) (found : s.calls call = some c) (path : String)
      (inv : Invocation) (values : c.inp.given = some c.inp.values)
      (opens : s.OpensOwn e ↔ ∃ other c', s.writer (valuesPath path) = some other ∧
        s.calls other = some c' ∧ c'.inp.values = c.inp.values) :
      Steps s e (s.setPhase call c (.working inv (s.files (valuesPath path))))

theorem given_cases (inp : InstallInput) :
    (inp.given = none ∧ inp.values = "") ∨ (inp.given = some inp.values ∧ inp.values ≠ "") := by
  unfold InstallInput.given
  split_ifs with empty
  · exact .inl ⟨rfl, empty⟩
  · exact .inr ⟨rfl, empty⟩

variable {tempDir} {s s' : Installs} {e : InstallStep}

theorem advance_steps (tempDir : String) {call : Nat} {c : Call} (found : s.calls call = some c)
    (env : Env) : s.Steps (.advance call env) (s.advance tempDir call c env) := by
  have elsewhere (other : ∀ path inv, c.phase ≠ .opening path inv) :
      s.OpensOwn (.advance call env) := by
    intro c' path inv found' phase
    obtain rfl : c = c' := Option.some.inj (found.symm.trans found')
    exact absurd phase (other path inv)
  have moves (after : Phase) (same : Call.read { c with phase := after } = c.read)
      (other : ∀ path inv, c.phase ≠ .opening path inv) :
      s.Steps (.advance call env) (s.setPhase call c after) :=
    .moves call c found after same (elsewhere other)
  unfold advance
  cases phase : c.phase with
  | entered =>
      dsimp only
      split
      · exact moves _ (by simp [Call.read, phase]) (by simp [phase])
      · exact moves _ (by simp [Call.read, phase]) (by simp [phase])
  | checking path => exact moves _ (by simp [Call.read, phase]) (by simp [phase])
  | preparing path released =>
      dsimp only
      cases c.inp.blocked (env.host tempDir) with
      | some err => exact moves _ (by simp [Call.read, phase]) (by simp [phase])
      | none =>
          rcases given_cases c.inp with ⟨none_, -⟩ | ⟨some_, -⟩
          · rw [none_]
            exact moves _ (by simp [Call.read, phase]) (by simp [phase])
          · rw [some_]
            have same : Call.read { c with phase := .starting path released } = c.read := by
              simp [Call.read, phase]
            exact .writes call c found _ _ same (elsewhere (by simp [phase]))
  | starting path released =>
      exact moves _ (by simp [Call.read, phase]) (by simp [phase])
  | opening path inv =>
      dsimp only
      rcases given_cases c.inp with ⟨none_, empty⟩ | ⟨some_, nonempty⟩
      · rw [none_]
        refine .opensNone call c found inv none_ ?_
        intro c' path inv found' _ given
        obtain rfl : c = c' := Option.some.inj (found.symm.trans found')
        exact absurd empty given
      · rw [some_]
        refine .opensFile call c found path inv some_ ?_
        constructor
        · intro opens
          exact opens c path inv found phase nonempty
        · intro own c' path' inv' found' phase' _
          obtain rfl : c = c' := Option.some.inj (found.symm.trans found')
          obtain ⟨rfl, rfl⟩ : path = path' ∧ inv = inv' := by simpa [phase] using phase'
          exact own
  | working inv read => exact moves _ (by simp [Call.read, phase]) (by simp [phase])
  | returned read result => exact .idle (elsewhere (by simp [phase]))

theorem next_steps (tempDir : String) (s : Installs) (e : InstallStep) :
    s.Steps e (s.next tempDir e) := by
  unfold next
  cases e with
  | call call inp =>
      dsimp only
      cases absent : s.calls call with
      | some c => exact .idle trivial
      | none => exact .begins call inp absent trivial
  | advance call env =>
      dsimp only
      cases found : s.calls call with
      | some c => exact advance_steps tempDir found env
      | none =>
          refine .idle fun c path inv found' => ?_
          simp [found] at found'

theorem calls_setPhase {call i : Nat} {c c' : Call} {phase : Phase}
    (found : (s.setPhase call c phase).calls i = some c') :
    (i = call ∧ c' = { c with phase }) ∨ (i ≠ call ∧ s.calls i = some c') := by
  by_cases same : i = call
  · subst same
    exact .inl ⟨rfl, by simpa [setPhase, eq_comm] using found⟩
  · exact .inr ⟨same, by simpa [setPhase, same] using found⟩

/-- A file holds the values of the call that wrote it last. -/
structure Kept (s : Installs) : Prop where
  unwritten : ∀ path, s.writer path = none → s.files path = none
  written : ∀ path other, s.writer path = some other →
    ∃ c, s.calls other = some c ∧ s.files path = some c.inp.values

theorem Kept.start : start.Kept := ⟨fun _ _ => rfl, fun _ _ written => by cases written⟩

/-- The inputs of the calls do not change. -/
theorem Kept.setPhase (kept : s.Kept) {call : Nat} {c : Call} (found : s.calls call = some c)
    (phase : Phase) : (s.setPhase call c phase).Kept := by
  refine ⟨kept.unwritten, fun path other written => ?_⟩
  obtain ⟨c', found', content⟩ := kept.written path other written
  by_cases same : other = call
  · subst same
    obtain rfl : c = c' := Option.some.inj (found.symm.trans found')
    exact ⟨{ c with phase }, by simp [Installs.setPhase], content⟩
  · exact ⟨c', by simpa [Installs.setPhase, same] using found', content⟩

theorem Kept.writeFile (kept : s.Kept) {call : Nat} {c : Call} (found : s.calls call = some c)
    (path : String) : (s.writeFile call path c.inp.values).Kept := by
  constructor
  · intro path' unwritten
    by_cases same : path' = path
    · simp [Installs.writeFile, same] at unwritten
    · simp only [Installs.writeFile, Function.update_of_ne same] at unwritten ⊢
      exact kept.unwritten path' unwritten
  · intro path' other written
    by_cases same : path' = path
    · subst same
      obtain rfl : call = other := by simpa [Installs.writeFile] using written
      exact ⟨c, found, by simp [Installs.writeFile]⟩
    · simp only [Installs.writeFile, Function.update_of_ne same] at written ⊢
      exact kept.written path' other written

theorem Kept.call (kept : s.Kept) {call : Nat} (absent : s.calls call = none)
    (inp : InstallInput) :
    ({ s with calls := Function.update s.calls call (some ⟨inp, .entered⟩) } : Installs).Kept := by
  refine ⟨kept.unwritten, fun path other written => ?_⟩
  obtain ⟨c, found, content⟩ := kept.written path other written
  have different : other ≠ call := by
    rintro rfl
    simp [absent] at found
  exact ⟨c, by simpa [different] using found, content⟩

theorem Kept.step (kept : s.Kept) (steps : s.Steps e s') : s'.Kept := by
  cases steps with
  | idle => exact kept
  | begins call inp absent => exact kept.call absent inp
  | moves call c found | opensNone call c found | opensFile call c found =>
      exact kept.setPhase found _
  | writes call c found path => exact (kept.writeFile found path).setPhase found _

/-- A file holds some values just when a call with these values wrote it last. -/
theorem Kept.files_iff (kept : s.Kept) (path values : String) :
    s.files path = some values ↔ ∃ other c, s.writer path = some other ∧
      s.calls other = some c ∧ c.inp.values = values := by
  cases written : s.writer path with
  | none => simp [kept.unwritten path written]
  | some other =>
      obtain ⟨c, found, content⟩ := kept.written path other written
      rw [content]
      constructor
      · intro same
        exact ⟨other, c, rfl, found, Option.some.inj same⟩
      · rintro ⟨other', c', same, found', rfl⟩
        obtain rfl := Option.some.inj same
        obtain rfl : c = c' := Option.some.inj (found.symm.trans found')
        rfl

/-- A step of a call that reads nothing new mixes nothing. -/
theorem Unmixed.setPhase_iff (unmixed : s.Unmixed) {call : Nat} {c : Call} {phase : Phase} :
    (s.setPhase call c phase).Unmixed ↔
      ∀ read, Call.read { c with phase } = some read → read = c.inp.given := by
  constructor
  · intro after
    exact after call { c with phase } (by simp [setPhase])
  · intro own i c' found' read has
    rcases calls_setPhase found' with ⟨rfl, rfl⟩ | ⟨-, old⟩
    · exact own read has
    · exact unmixed i c' old read has

theorem Unmixed.step_iff (kept : s.Kept) (unmixed : s.Unmixed) (steps : s.Steps e s') :
    s'.Unmixed ↔ s.OpensOwn e := by
  cases steps with
  | idle opens => exact iff_of_true unmixed opens
  | begins call inp absent opens =>
      refine iff_of_true ?_ opens
      intro i c found read has
      by_cases same : i = call
      · obtain rfl : ⟨inp, .entered⟩ = c := by simpa [same] using found
        cases has
      · exact unmixed i c (by simpa [same] using found) read has
  | moves call c found phase same opens =>
      refine iff_of_true (unmixed.setPhase_iff.2 ?_) opens
      rw [same]
      exact unmixed call c found
  | writes call c found path phase same opens =>
      have written : (s.writeFile call path c.inp.values).Unmixed := unmixed
      refine iff_of_true (written.setPhase_iff.2 ?_) opens
      rw [same]
      exact unmixed call c found
  | opensNone call c found inv none_ opens =>
      refine iff_of_true (unmixed.setPhase_iff.2 ?_) opens
      intro read has
      exact (Option.some.inj has).symm.trans none_.symm
  | opensFile call c found path inv values opens =>
      rw [opens, unmixed.setPhase_iff, values, ← kept.files_iff]
      constructor
      · intro after
        exact after _ rfl
      · intro content read has
        exact (Option.some.inj has).symm.trans content

theorem next_call {call : Nat} (absent : s.calls call = none) (inp : InstallInput) :
    (s.next tempDir (.call call inp)).calls call = some ⟨inp, .entered⟩ := by
  simp [next, absent]

theorem next_advance {call : Nat} {c : Call} (found : s.calls call = some c) (env : Env) :
    s.next tempDir (.advance call env) = s.advance tempDir call c env := by
  simp [next, found]

@[simp] theorem setPhase_calls (call : Nat) (c : Call) (phase : Phase) :
    (s.setPhase call c phase).calls call = some { c with phase } := by
  simp [setPhase]

/-- A call that has returned stays so. -/
theorem exec_returned {call : Nat} {inp : InstallInput} {read : Option (Option String)}
    {result : Except Failure String} (env : Env) (n : Nat)
    (found : s.calls call = some ⟨inp, .returned read result⟩) :
    (Transition.exec (next tempDir) s (List.replicate n (.advance call env))).calls call =
      some ⟨inp, .returned read result⟩ := by
  induction n generalizing s with
  | zero => exact found
  | succ n ih =>
      rw [List.replicate_succ, Transition.exec_cons, next_advance found]
      exact ih found

/-- A call that nothing comes between gives the result of `install`. -/
theorem install_alone (tempDir : String) (s : Installs) {call : Nat} (absent : s.calls call = none)
    (inp : InstallInput) (env : Env) :
    ∃ read, (Transition.exec (next tempDir) s
      (.call call inp :: List.replicate 6 (.advance call env))).calls call =
        some ⟨inp, .returned read (install (env.host tempDir) inp).result⟩ := by
  have entered : (s.next tempDir (.call call inp)).calls call = some ⟨inp, .entered⟩ :=
    next_call absent inp
  rw [Transition.exec_cons]
  generalize s.next tempDir (.call call inp) = s₀ at entered ⊢
  rw [List.replicate_succ, Transition.exec_cons, next_advance entered]
  unfold install
  cases written : (env.host tempDir).writeKubeconfig inp.clusterCode with
  | error err =>
      refine ⟨none, exec_returned env 5 ?_⟩
      simp [advance, written]
  | ok path =>
  have checking : (s₀.advance tempDir call ⟨inp, .entered⟩ env).calls call =
      some ⟨inp, .checking path⟩ := by simp [advance, written]
  generalize s₀.advance tempDir call ⟨inp, .entered⟩ env = s₁ at checking ⊢
  rw [List.replicate_succ, Transition.exec_cons, next_advance checking]
  have preparing : (s₁.advance tempDir call ⟨inp, .checking path⟩ env).calls call =
      some ⟨inp, .preparing path (checkReleaseExists (env.host tempDir) path inp)⟩ := by
    simp [advance]
  generalize s₁.advance tempDir call ⟨inp, .checking path⟩ env = s₂ at preparing ⊢
  generalize exists_ : checkReleaseExists (env.host tempDir) path inp = released at preparing
  rw [List.replicate_succ, Transition.exec_cons, next_advance preparing]
  cases blocked : inp.blocked (env.host tempDir) with
  | some err =>
      refine ⟨none, exec_returned env 3 ?_⟩
      simp [advance, blocked]
  | none =>
  have starting : (s₂.advance tempDir call ⟨inp, .preparing path released⟩ env).calls call =
      some ⟨inp, .starting path released⟩ := by
    cases given : inp.given <;> simp [advance, blocked, given]
  generalize s₂.advance tempDir call ⟨inp, .preparing path released⟩ env = s₃ at starting ⊢
  rw [List.replicate_succ, Transition.exec_cons, next_advance starting]
  have opening : (s₃.advance tempDir call ⟨inp, .starting path released⟩ env).calls call =
      some ⟨inp, .opening path (invocation inp path released)⟩ := by simp [advance]
  generalize s₃.advance tempDir call ⟨inp, .starting path released⟩ env = s₄ at opening ⊢
  rw [List.replicate_succ, Transition.exec_cons, next_advance opening]
  obtain ⟨read, working⟩ : ∃ read,
      (s₄.advance tempDir call ⟨inp, .opening path (invocation inp path released)⟩ env).calls call =
        some ⟨inp, .working (invocation inp path released) read⟩ := by
    cases given : inp.given with
    | none => exact ⟨none, by simp [advance, given]⟩
    | some values => exact ⟨s₄.files (valuesPath path), by simp [advance, given]⟩
  generalize s₄.advance tempDir call ⟨inp, .opening path (invocation inp path released)⟩ env = s₅
    at working ⊢
  rw [List.replicate_succ, Transition.exec_cons, next_advance working]
  exact ⟨some read, by simp [advance, Helm.start, invocation, exists_]⟩

/-- In every state of a run the helm processes have read the values of their own calls, exactly
when each finds in the file that it opens what a call with the same values wrote last. -/
theorem unmixed_iff (tempDir : String) (es : List InstallStep) :
    (∀ n, (Transition.exec (next tempDir) start (es.take n)).Unmixed) ↔
      Transition.Along OpensOwn (next tempDir) start es := by
  apply Transition.always_iff_along (I := Kept)
  · intro s e kept
    exact kept.step (next_steps tempDir s e)
  · intro s e kept unmixed
    exact unmixed.step_iff kept (next_steps tempDir s e)
  · exact .start
  · intro call c found
    cases found

def demoEnv : Env := ⟨fun _ => .ok (), 0, none, fun _ => none, fun _ => .error "not found"⟩

def shopInput (values : String) : InstallInput where
  clusterCode := "prod"
  releaseName := "shop"
  ns := "team-a"
  chartRef := "charts/shop"
  repoURL := ""
  values := values
  version := ""
  wait := false
  dryRun := false

/-- Two installs write their values, and then the helm process of the first one opens the file. -/
def twoInstalls : List InstallStep :=
  [.call 0 (shopInput "replicas: 1"), .call 1 (shopInput "replicas: 3")] ++
    List.replicate 3 (.advance 0 demoEnv) ++ List.replicate 3 (.advance 1 demoEnv) ++
    List.replicate 2 (.advance 0 demoEnv)

theorem values_mixed : ¬(Transition.exec (next "/tmp") start twoInstalls).Unmixed := by
  have reads : ((Transition.exec (next "/tmp") start twoInstalls).calls 0).any (fun c =>
      c.inp.values == "replicas: 1" && c.read == some (some "replicas: 3")) = true := by
    decide +kernel
  intro unmixed
  cases found : (Transition.exec (next "/tmp") start twoInstalls).calls 0 with
  | none => simp [found] at reads
  | some c =>
      rw [found] at reads
      obtain ⟨values, read⟩ :
          c.inp.values = "replicas: 1" ∧ c.read = some (some "replicas: 3") := by
        simpa using reads
      have own := unmixed 0 c found _ read
      simp [InstallInput.given, values] at own

end Installs

end K8sPlatform.Helm
