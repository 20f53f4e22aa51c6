import K8sPlatform.Helm.Manager
import K8sPlatform.Lib.Pflag

/-! # The namespace and the kubeconfig that a helm process works with -/

namespace K8sPlatform.Helm

open Errcode Auth Pflag

/-- The helm binary: the flags of its root, and those of each command. -/
structure Binary where
  flags : Option String → FlagSet

/-- What is relied on: the flags for the namespace and the kubeconfig take any value
everywhere, and the options that the manager writes have the shape it writes them in. -/
structure Binary.Standard (b : Binary) : Prop where
  ns : ∀ c, (b.flags c).long "namespace" = some ⟨"namespace", ""⟩
  kubeconfig : ∀ c, (b.flags c).long "kubeconfig" = some ⟨"kubeconfig", ""⟩
  nsAccepts : ∀ c v, (b.flags c).accepts "namespace" v = true
  kubeconfigAccepts : ∀ c v, (b.flags c).accepts "kubeconfig" v = true
  output : (b.flags (some "status")).short 'o' = some ⟨"output", ""⟩
  version : ∀ c ∈ ["install", "upgrade"],
    (b.flags (some c)).long "version" = some ⟨"version", ""⟩
  wait : ∀ c ∈ ["install", "upgrade"], (b.flags (some c)).long "wait" = some ⟨"wait", "true"⟩
  dryRun : ∀ c ∈ ["install", "upgrade"], ∃ v ≠ "",
    (b.flags (some c)).long "dry-run" = some ⟨"dry-run", v⟩
  repo : ∀ c ∈ ["install", "upgrade"], (b.flags (some c)).long "repo" = some ⟨"repo", ""⟩
  values : ∀ c ∈ ["install", "upgrade"], (b.flags (some c)).short 'f' = some ⟨"values", ""⟩

/-- The command of an argument vector and what its flags are set to; `none` when helm refuses
the arguments. -/
def Binary.read (b : Binary) (args : List String) : Option (String × Assignments) :=
  match command (b.flags none) args with
  | none => none
  | some (cmd, rest) => (parse (b.flags (some cmd)) rest).map fun r => (cmd, r.1)

/-- A process that helm does not refuse works in the namespace, with the kubeconfig. -/
def Binary.Confines (b : Binary) (args : List String) (ns kubeconfig : String) : Prop :=
  ∀ cmd as, b.read args = some (cmd, as) →
    value as "namespace" = some ns ∧ value as "kubeconfig" = some kubeconfig

/-- The words behind a command set the two flags, if at all, to what they are already. -/
def Binary.Keeps (b : Binary) (cmd : String) (words : List String) (ns kubeconfig : String) :
    Prop :=
  ∀ r, parse (b.flags (some cmd)) words = some r →
    (∀ v, value r.1 "namespace" = some v → v = ns) ∧
      ∀ v, value r.1 "kubeconfig" = some v → v = kubeconfig

/-- The condition on the words of an operation, command by command. -/
def Operation.Kept (b : Binary) (host : Host) (path : String) : Operation → Prop
  | .install inp =>
      b.Keeps "status" [inp.releaseName, "-o", "json"] inp.ns path ∧
        (inp.blocked host = none →
          b.Keeps (if checkReleaseExists host path inp then "upgrade" else "install")
            (inp.releaseName :: inp.chartRef :: inp.options path) inp.ns path)
  | .uninstall _ ns name => b.Keeps "uninstall" [name] ns path
  | .rollback _ ns name revision => b.Keeps "rollback" (name :: revisionWords revision) ns path

/-- Names that cannot be taken for flags. -/
def Operation.PlainNames : Operation → Prop
  | .install inp =>
      inp.releaseName.toList.head? ≠ some '-' ∧ inp.chartRef.toList.head? ≠ some '-'
  | .uninstall _ _ name | .rollback _ _ name _ => name.toList.head? ≠ some '-'

section Reading

variable {b : Binary}

theorem read_kubeconfig (standard : b.Standard) (c : Option String) :
    Pflag.read (b.flags c) "--kubeconfig" = .wants [] "kubeconfig" := by
  have long := standard.kubeconfig c
  simp [Pflag.read, readLong, long]

theorem read_ns (standard : b.Standard) (c : Option String) :
    Pflag.read (b.flags c) "--namespace" = .wants [] "namespace" := by
  have long := standard.ns c
  simp [Pflag.read, readLong, long]

/-- The fixed flags are read first, and the command is the word behind them. -/
theorem read_args (standard : b.Standard) {inv : Invocation}
    (word : inv.command.toList.head? ≠ some '-') :
    b.read inv.args = (parse (b.flags (some inv.command)) inv.words).map fun r =>
      (inv.command, ("kubeconfig", inv.kubeconfig) :: ("namespace", inv.ns) :: r.1) := by
  have found : command (b.flags none) inv.args =
      some (inv.command,
        "--kubeconfig" :: inv.kubeconfig :: "--namespace" :: inv.ns :: inv.words) := by
    simp only [Invocation.args, List.cons_append, List.nil_append]
    rw [command_wants (read_kubeconfig standard _), command_wants (read_ns standard _),
      command_positional (read_of_not_dash word)]
    rfl
  unfold Binary.read
  rw [found]
  dsimp only
  rw [parse_wants (read_kubeconfig standard _) (standard.kubeconfigAccepts _ _),
    parse_wants (read_ns standard _) (standard.nsAccepts _ _)]
  cases parse (b.flags (some inv.command)) inv.words <;> rfl

/-- A process is confined exactly when its words keep the two flags as they are. -/
theorem confines_iff (standard : b.Standard) {inv : Invocation}
    (word : inv.command.toList.head? ≠ some '-') :
    b.Confines inv.args inv.ns inv.kubeconfig ↔
      b.Keeps inv.command inv.words inv.ns inv.kubeconfig := by
  unfold Binary.Confines Binary.Keeps
  rw [read_args standard word]
  cases parsed : parse (b.flags (some inv.command)) inv.words with
  | none => simp
  | some r =>
      have kubeconfig : value (("kubeconfig", inv.kubeconfig) :: ("namespace", inv.ns) :: r.1)
          "kubeconfig" = some ((value r.1 "kubeconfig").getD inv.kubeconfig) := by
        rw [value_cons, value_cons_ne (by decide)]
      have ns : value (("kubeconfig", inv.kubeconfig) :: ("namespace", inv.ns) :: r.1)
          "namespace" = some ((value r.1 "namespace").getD inv.ns) := by
        rw [value_cons_ne (by decide), value_cons]
      constructor
      · intro confined r' eq
        obtain rfl := Option.some.inj eq
        obtain ⟨inNs, withConfig⟩ := confined _ _ rfl
        rw [ns, Option.some.injEq] at inNs
        rw [kubeconfig, Option.some.injEq] at withConfig
        constructor
        · intro v set
          rwa [set] at inNs
        · intro v set
          rwa [set] at withConfig
      · intro kept cmd as eq
        obtain ⟨keepNs, keepConfig⟩ := kept r rfl
        obtain ⟨-, rfl⟩ := Prod.mk.inj (Option.some.inj eq)
        rw [ns, kubeconfig, Option.some.injEq, Option.some.injEq]
        constructor
        · cases set : value r.1 "namespace" with
          | none => rfl
          | some v => exact keepNs v set
        · cases set : value r.1 "kubeconfig" with
          | none => rfl
          | some v => exact keepConfig v set

theorem keeps_of_untouched {cmd : String} {words : List String} {ns kubeconfig : String}
    (h : Untouched (b.flags (some cmd)) ["namespace", "kubeconfig"] words) :
    b.Keeps cmd words ns kubeconfig := by
  intro r parsed
  have others := h r parsed
  have noNs : value r.1 "namespace" = none :=
    value_eq_none fun a mem eq => others a mem (by simp [eq])
  have noConfig : value r.1 "kubeconfig" = none :=
    value_eq_none fun a mem eq => others a mem (by simp [eq])
  simp [noNs, noConfig]

/-- The options of an install set flags of their own, whatever strings they carry. -/
theorem options_untouched (standard : b.Standard) {cmd : String}
    (mem : cmd ∈ ["install", "upgrade"]) (inp : InstallInput) (path : String) :
    Untouched (b.flags (some cmd)) ["namespace", "kubeconfig"] (inp.options path) := by
  have version : Pflag.read (b.flags (some cmd)) "--version" = .wants [] "version" := by
    simp [Pflag.read, readLong, standard.version cmd mem]
  have wait : Pflag.read (b.flags (some cmd)) "--wait" = .sets [("wait", "true")] := by
    simp [Pflag.read, readLong, standard.wait cmd mem]
  obtain ⟨preset, given, flag⟩ := standard.dryRun cmd mem
  have dryRun : Pflag.read (b.flags (some cmd)) "--dry-run" = .sets [("dry-run", preset)] := by
    simp [Pflag.read, readLong, flag, given]
  have repo : Pflag.read (b.flags (some cmd)) "--repo" = .wants [] "repo" := by
    simp [Pflag.read, readLong, standard.repo cmd mem]
  have values : Pflag.read (b.flags (some cmd)) "-f" = .wants [] "values" := by
    simp [Pflag.read, readShort, standard.values cmd mem]
  have inert : Inert (b.flags (some cmd)) ["namespace", "kubeconfig"] (inp.options path) := by
    unfold InstallInput.options
    refine inert_append (inert_append (inert_append (inert_append ?_ ?_) ?_) ?_) ?_
    · exact inert_ite inert_nil (inert_wants version (by decide))
    · exact inert_ite (inert_sets wait (by decide)) inert_nil
    · exact inert_ite (inert_sets dryRun (by decide)) inert_nil
    · exact inert_ite inert_nil (inert_wants repo (by decide))
    · exact inert_ite inert_nil (inert_wants values (by decide))
  simpa using inert [] untouched_nil

theorem revision_not_dash {revision : Int} (positive : 0 < revision) :
    (toString revision).toList.head? ≠ some '-' := by
  obtain ⟨n, rfl⟩ := Int.eq_ofNat_of_zero_le positive.le
  intro dash
  have mem : '-' ∈ (toString (n : Int)).toList := List.mem_of_mem_head? dash
  have digits : (toString (n : Int)).toList = Nat.toDigits 10 n := Nat.toList_repr
  rw [digits] at mem
  have digit := Nat.isDigit_of_mem_toDigits (by decide) (by decide) mem
  revert digit
  decide

theorem kept_of_plainNames (standard : b.Standard) {host : Host} {path : String} {op : Operation}
    (plain : op.PlainNames) : op.Kept b host path := by
  cases op with
  | install inp =>
      obtain ⟨release, chart⟩ := plain
      have output : Pflag.read (b.flags (some "status")) "-o" = .wants [] "output" := by
        simp [Pflag.read, readShort, standard.output]
      constructor
      · exact keeps_of_untouched (untouched_positional (read_of_not_dash release)
          (untouched_wants output (by decide) untouched_nil))
      · intro _
        have mem : (if checkReleaseExists host path inp then "upgrade" else "install") ∈
            ["install", "upgrade"] := by split <;> simp
        exact keeps_of_untouched (untouched_positional (read_of_not_dash release)
          (untouched_positional (read_of_not_dash chart) (options_untouched standard mem inp path)))
  | uninstall code ns name =>
      exact keeps_of_untouched (untouched_positional (read_of_not_dash plain) untouched_nil)
  | rollback code ns name revision =>
      refine keeps_of_untouched (untouched_positional (read_of_not_dash plain) ?_)
      unfold revisionWords
      split
      · rename_i positive
        exact untouched_positional (read_of_not_dash (revision_not_dash positive)) untouched_nil
      · exact untouched_nil

end Reading

/-! ## The operations -/

theorem admit_operation {tree : Option PermissionTree} {code : String} {req : Request}
    {op : Operation} (admitted : req.operation tree code = .ok op) :
    op.clusterCode = code ∧ requireNamespaceScope tree code op.ns = .ok () := by
  cases req with
  | install body =>
      cases body with
      | error err => simp only [Request.operation] at admitted; split at admitted <;> cases admitted
      | ok inp =>
          simp only [Request.operation] at admitted
          split at admitted
          · cases admitted
          · split at admitted
            · cases admitted
            · split at admitted
              · cases admitted
              · rename_i scope
                cases admitted
                exact ⟨rfl, scope⟩
  | uninstall ns name =>
      simp only [Request.operation] at admitted
      split at admitted
      · cases admitted
      · split at admitted
        · cases admitted
        · rename_i scope
          cases admitted
          exact ⟨rfl, scope⟩
  | rollback ns name revision =>
      simp only [Request.operation] at admitted
      split at admitted
      · cases admitted
      · split at admitted
        · cases admitted
        · rename_i scope
          cases admitted
          exact ⟨rfl, scope⟩

/-- Every process that an operation starts has its namespace, the kubeconfig of its cluster and
a command word; the processes keep both flags exactly when the operation is `Kept`. -/
theorem run_started {b : Binary} {host : Host} {op : Operation} {path : String}
    (written : host.writeKubeconfig op.clusterCode = .ok path) :
    (∀ inv ∈ (op.run host).started, inv.ns = op.ns ∧ inv.kubeconfig = path ∧
        inv.command.toList.head? ≠ some '-') ∧
      ((∀ inv ∈ (op.run host).started, b.Keeps inv.command inv.words inv.ns inv.kubeconfig) ↔
        op.Kept b host path) := by
  cases op with
  | install inp =>
      simp only [Operation.clusterCode] at written
      simp only [Operation.run, Helm.install, written, Operation.Kept, Operation.ns]
      cases blocked : inp.blocked host with
      | some err => simp [statusOf]
      | none =>
          have word : (if checkReleaseExists host path inp then "upgrade" else
              "install").toList.head? ≠ some '-' := by split <;> simp
          simp [start, statusOf, word]
  | uninstall code ns name =>
      simp only [Operation.clusterCode] at written
      simp [Operation.run, Helm.uninstall, written, Operation.Kept, Operation.ns, start]
  | rollback code ns name revision =>
      simp only [Operation.clusterCode] at written
      simp [Operation.run, Helm.rollback, written, Operation.Kept, Operation.ns, start]

/-- For every admitted request and every helm binary that reads its flags in the documented
way: all processes it starts work in the namespace it was admitted for, with the kubeconfig of
its cluster, exactly when its words keep the two flags; names without a leading dash do. -/
theorem helm_confined_iff (b : Binary) (standard : b.Standard) (host : Host)
    (tree : Option PermissionTree) (code path : String) (req : Request) (op : Operation)
    (admitted : req.operation tree code = .ok op) (written : host.writeKubeconfig code = .ok path) :
    ((∀ inv ∈ (op.run host).started, b.Confines inv.args op.ns path) ↔ op.Kept b host path) ∧
      (op.PlainNames → op.Kept b host path) := by
  obtain ⟨cluster, _⟩ := admit_operation admitted
  obtain ⟨shape, kept⟩ := run_started (b := b) (cluster ▸ written)
  refine ⟨?_, kept_of_plainNames standard⟩
  rw [← kept]
  refine forall_congr' fun inv => forall_congr' fun mem => ?_
  obtain ⟨ns, kubeconfig, word⟩ := shape inv mem
  rw [← ns, ← kubeconfig]
  exact confines_iff standard word

/-- Flags of helm, with their shorthands. -/
def helmFlagTable : Option String → List (Flag × Option Char)
  | none => [(⟨"namespace", ""⟩, some 'n'), (⟨"kubeconfig", ""⟩, none)]
  | some "install" =>
      [(⟨"namespace", ""⟩, some 'n'), (⟨"kubeconfig", ""⟩, none), (⟨"version", ""⟩, none),
       (⟨"wait", "true"⟩, none), (⟨"dry-run", "client"⟩, none), (⟨"repo", ""⟩, none),
       (⟨"values", ""⟩, some 'f'), (⟨"generate-name", "true"⟩, some 'g')]
  | some "upgrade" =>
      [(⟨"namespace", ""⟩, some 'n'), (⟨"kubeconfig", ""⟩, none), (⟨"version", ""⟩, none),
       (⟨"wait", "true"⟩, none), (⟨"dry-run", "client"⟩, none), (⟨"repo", ""⟩, none),
       (⟨"values", ""⟩, some 'f'), (⟨"install", "true"⟩, some 'i')]
  | some "status" =>
      [(⟨"namespace", ""⟩, some 'n'), (⟨"kubeconfig", ""⟩, none), (⟨"output", ""⟩, some 'o')]
  | some _ => [(⟨"namespace", ""⟩, some 'n'), (⟨"kubeconfig", ""⟩, none)]

def helm : Binary where
  flags := fun c =>
    { long := fun name => ((helmFlagTable c).find? (·.1.name == name)).map (·.1)
      short := fun ch => ((helmFlagTable c).find? (·.2 == some ch)).map (·.1)
      accepts := fun _ _ => true }

theorem helm_standard : helm.Standard where
  ns := by
    intro c
    simp only [helm, helmFlagTable]
    split <;> decide
  kubeconfig := by
    intro c
    simp only [helm, helmFlagTable]
    split <;> decide
  nsAccepts := fun _ _ => rfl
  kubeconfigAccepts := fun _ _ => rfl
  output := by decide
  version := by decide
  wait := by decide
  dryRun := by
    intro c mem
    refine ⟨"client", by decide, ?_⟩
    revert c
    decide
  repo := by decide
  values := by decide

/-- A host on which no release exists yet. -/
def emptyHost : Host where
  writeKubeconfig := fun _ => .ok "/tmp/k8s-platform-helm/prod-1.yaml"
  writeValues := none
  parseURL := fun _ => none
  exec := fun args => if "status" ∈ args then .error "release: not found" else .ok ""

/-- A caller with one namespace of one cluster. -/
def oneNamespace : PermissionTree := ⟨∅, [⟨scopeNamespace, "prod", "default"⟩], false⟩

def flaggedInstall : InstallInput :=
  ⟨"prod", "-gnkube-system", "default", "bitnami/nginx", "", "", "", false, false⟩

/-- Release names that are flags: a rollback of release `3` and an install under a generated
name, both in another namespace. -/
theorem release_name_sets_namespace :
    (Request.rollback "default" "-nkube-system" "3").operation (some oneNamespace) "prod" =
        .ok (.rollback "prod" "default" "-nkube-system" 3) ∧
      (((Operation.rollback "prod" "default" "-nkube-system" 3).run emptyHost).started.map
        fun inv => (helm.read inv.args).map fun r => (r.1, value r.2 "namespace")) =
        [some ("rollback", some "kube-system")] ∧
      (Request.install (.ok flaggedInstall)).operation (some oneNamespace) "prod" =
        .ok (.install flaggedInstall) ∧
      (((Operation.install flaggedInstall).run emptyHost).started.map
        fun inv => (helm.read inv.args).map fun r => (r.1, value r.2 "namespace")) =
        [none, some ("install", some "kube-system")] := by
  decide

/-- A release name without a dash is rolled back where it was asked for. -/
theorem rollback_confined :
    helm.Confines ["--kubeconfig", "/tmp/k8s-platform-helm/prod-1.yaml", "--namespace", "default",
      "rollback", "web", "3"] "default" "/tmp/k8s-platform-helm/prod-1.yaml" :=
  let confined := helm_confined_iff helm helm_standard emptyHost (some oneNamespace) "prod"
    "/tmp/k8s-platform-helm/prod-1.yaml" (.rollback "default" "web" "3")
    (.rollback "prod" "default" "web" 3) (by decide) (by decide)
  confined.1.2 (confined.2 (by simp [Operation.PlainNames]))
    ⟨_, "default", "rollback", ["web", "3"]⟩
    (by decide)

end K8sPlatform.Helm
