import K8sPlatform.Helm.Namespace

/-! # The chart repositories that helm keeps -/

namespace K8sPlatform.Helm

open Errcode Pflag

structure HelmRepo where
  name : String
  url : String
  deriving DecidableEq, Repr

structure AddRepoInput where
  name : String
  url : String
  username : String
  password : String
  deriving DecidableEq, Repr

structure HelmChart where
  name : String
  version : String
  appVersion : String
  description : String
  deriving DecidableEq, Repr

def repoNameChar (c : Char) : Bool := c.isAlphanum || c == '.' || c == '_' || c == '-'

/-- `repoNameRe` matches. -/
def isRepoName (name : String) : Bool :=
  match name.toList with
  | [] => false
  | c :: rest => c.isAlphanum && rest.all repoNameChar && decide (rest.length ≤ 63)

def validateRepoName (name : String) : Except Error Unit :=
  let name := Text.trimSpace name
  if name = "" then .error (.new .invalidArgument "仓库名称不能为空")
  else if isRepoName name = false then
    .error (.new .invalidArgument
      "仓库名称仅允许字母、数字、点、下划线和短横线，且需以字母或数字开头")
  else .ok ()

inductive RepoRequest
  | listRepos
  | addRepo (inp : AddRepoInput)
  | removeRepo (name : String)
  | updateRepos (name : String)
  | searchCharts (repo keyword : String)
  deriving DecidableEq, Repr

def AddRepoInput.validate (host : Host) (inp : AddRepoInput) : Except Error Unit :=
  match validateRepoName inp.name with
  | .error err => .error err
  | .ok () => validateRepoURL host inp.url

/-- The options of an added repository. A user name of spaces is none, any other goes as it is. -/
def AddRepoInput.options (inp : AddRepoInput) : Assignments :=
  (if Text.trimSpace inp.username = "" then [] else [("username", inp.username)]) ++
    if inp.password = "" then [] else [("password", inp.password)]

/-- What is searched for: within a repository a keyword without a slash is put behind its name. -/
def searchQuery (repo keyword : String) : String :=
  let query := Text.trimSpace keyword
  let repo := Text.trimSpace repo
  if repo = "" then query
  else if query = "" then repo ++ "/"
  else if '/' ∈ query.toList then query
  else repo ++ "/" ++ query

/-- The check of a request, before helm is started. -/
def RepoRequest.validate (host : Host) : RepoRequest → Except Error Unit
  | listRepos => .ok ()
  | addRepo inp => inp.validate host
  | removeRepo name => validateRepoName name
  | updateRepos name => if Text.trimSpace name = "" then .ok () else validateRepoName name
  | searchCharts repo _ => if Text.trimSpace repo = "" then .ok () else validateRepoName repo

/-- The command, in two words. -/
def RepoRequest.command : RepoRequest → String × String
  | listRepos => ("repo", "list")
  | addRepo _ => ("repo", "add")
  | removeRepo _ => ("repo", "remove")
  | updateRepos _ => ("repo", "update")
  | searchCharts _ _ => ("search", "repo")

/-- The words behind the command. -/
def RepoRequest.words : RepoRequest → List String
  | listRepos => ["-o", "json"]
  | addRepo inp =>
      [Text.trimSpace inp.name, Text.trimSpace inp.url] ++
        (if Text.trimSpace inp.username = "" then [] else ["--username", inp.username]) ++
        if inp.password = "" then [] else ["--password", inp.password]
  | removeRepo name => [Text.trimSpace name]
  | updateRepos name => if Text.trimSpace name = "" then [] else [Text.trimSpace name]
  | searchCharts repo keyword =>
      ["-o", "json"] ++
        if searchQuery repo keyword = "" then [] else [searchQuery repo keyword]

def RepoRequest.args (req : RepoRequest) : List String :=
  req.command.1 :: req.command.2 :: req.words

/-- `json.Unmarshal` of what helm writes. -/
structure RepoJson where
  repos : String → Except String (List HelmRepo)
  charts : String → Except String (List HelmChart)

inductive RepoAnswer
  | repos (rs : List HelmRepo)
  | charts (cs : List HelmChart)
  | done
  deriving DecidableEq, Repr

/-- The failed helm process, by command. -/
def RepoRequest.failed (err : String) : RepoRequest → Except Error RepoAnswer
  | listRepos =>
      if Text.hasInfix "no repositories" (Text.toLower err) then .ok (.repos [])
      else .error (.wrapMsg .internal err "helm repo list 失败")
  | addRepo _ => .error (.wrapMsg .internal err "helm repo add 失败")
  | removeRepo _ => .error (.wrapMsg .internal err "helm repo remove 失败")
  | updateRepos _ => .error (.wrapMsg .internal err "helm repo update 失败")
  | searchCharts _ _ => .error (.wrapMsg .internal err "helm search repo 失败")

/-- Of a search in a repository, only its charts are shown. -/
def inRepo (repo : String) (c : HelmChart) : Bool :=
  Text.trimSpace repo == "" || Text.hasPrefix (Text.trimSpace repo ++ "/") c.name

def RepoRequest.finished (json : RepoJson) (out : String) : RepoRequest → Except Error RepoAnswer
  | listRepos =>
      if Text.trimSpace out = "" ∨ Text.trimSpace out = "null" then .ok (.repos [])
      else
        match json.repos (Text.trimSpace out) with
        | .error err => .error (.wrapMsg .internal err "解析 helm repo list 失败")
        | .ok rs => .ok (.repos rs)
  | searchCharts repo _ =>
      if Text.trimSpace out = "" ∨ Text.trimSpace out = "null" then .ok (.charts [])
      else
        match json.charts (Text.trimSpace out) with
        | .error err => .error (.wrapMsg .internal err "解析 helm search 结果失败")
        | .ok rows => .ok (.charts (rows.filter (inRepo repo)))
  | addRepo _ | removeRepo _ | updateRepos _ => .ok .done

/-- The command lines that a request starts, and its answer. -/
def RepoRequest.run (host : Host) (json : RepoJson) (req : RepoRequest) :
    List (List String) × Except Error RepoAnswer :=
  match req.validate host with
  | .error err => ([], .error err)
  | .ok () =>
    match host.exec req.args with
    | .error err => ([req.args], req.failed err)
    | .ok out => ([req.args], req.finished json out)

/-! ## What helm reads -/

/-- The helm binary: the flags of each command of two words. -/
structure RepoBinary where
  flags : String × String → FlagSet

/-- The options that the manager writes have the shape it writes them in. -/
structure RepoBinary.Standard (b : RepoBinary) : Prop where
  output : ∀ c ∈ [("repo", "list"), ("search", "repo")],
    (b.flags c).short 'o' = some ⟨"output", ""⟩ ∧ (b.flags c).accepts "output" "json" = true
  username : (b.flags ("repo", "add")).long "username" = some ⟨"username", ""⟩
  password : (b.flags ("repo", "add")).long "password" = some ⟨"password", ""⟩
  accepts : ∀ v, (b.flags ("repo", "add")).accepts "username" v = true ∧
    (b.flags ("repo", "add")).accepts "password" v = true

def RepoBinary.read (b : RepoBinary) : List String → Option (Assignments × List String)
  | group :: command :: words => parse (b.flags (group, command)) words
  | _ => none

/-- A URL that is parsed with a scheme begins with a letter, that of the scheme. -/
def Host.SchemesFirst (host : Host) : Prop :=
  ∀ raw scheme name, host.parseURL raw = some (scheme, name) → scheme ≠ "" →
    ∃ c, raw.toList.head? = some c ∧ c.isAlpha = true

/-- The flags that a request is meant to set. -/
def RepoRequest.options : RepoRequest → Assignments
  | listRepos | searchCharts _ _ => [("output", "json")]
  | addRepo inp => inp.options
  | removeRepo _ | updateRepos _ => []

/-- The arguments that a request is meant to give. -/
def RepoRequest.arguments : RepoRequest → List String
  | listRepos => []
  | addRepo inp => [Text.trimSpace inp.name, Text.trimSpace inp.url]
  | removeRepo name => [Text.trimSpace name]
  | updateRepos name => if Text.trimSpace name = "" then [] else [Text.trimSpace name]
  | searchCharts repo keyword =>
      if searchQuery repo keyword = "" then [] else [searchQuery repo keyword]

/-- The keyword of a search that stands at the start of the query and looks like a flag. -/
def RepoRequest.Dashed : RepoRequest → Prop
  | searchCharts repo keyword =>
      (Text.trimSpace keyword).toList.head? = some '-' ∧ Text.trimSpace keyword ≠ "-" ∧
        (Text.trimSpace repo = "" ∨ '/' ∈ (Text.trimSpace keyword).toList)
  | _ => False

section Reading

variable {b : RepoBinary} {host : Host}

theorem repoName_not_dash {name : String} (valid : validateRepoName name = .ok ()) :
    (Text.trimSpace name).toList.head? ≠ some '-' := by
  unfold validateRepoName at valid
  dsimp only at valid
  split at valid
  · cases valid
  · split at valid
    · cases valid
    · rename_i matches_
      intro dash
      apply matches_
      rw [isRepoName]
      cases chars : (Text.trimSpace name).toList with
      | nil => rfl
      | cons c rest =>
          obtain rfl : c = '-' := by simpa [chars] using dash
          rfl

theorem repoURL_not_dash (letters : host.SchemesFirst) {raw : String}
    (valid : validateRepoURL host raw = .ok ()) :
    (Text.trimSpace raw).toList.head? ≠ some '-' := by
  unfold validateRepoURL at valid
  dsimp only at valid
  split at valid
  · cases valid
  · split at valid
    · cases valid
    · rename_i scheme name parsed
      split at valid
      · cases valid
      · rename_i known
        have some_ : scheme ≠ "" := by
          rintro rfl
          exact known ⟨by decide, by decide⟩
        obtain ⟨c, first, letter⟩ := letters _ _ _ parsed some_
        rw [first]
        intro dash
        obtain rfl := Option.some.inj dash
        exact absurd letter (by decide)

/-- One word is the argument of a command that sets nothing, or it is read as a flag. -/
theorem parse_word_iff (fs : FlagSet) {w : String} :
    parse fs [w] = some ([], [w]) ↔ (w.toList.head? = some '-' → w = "-") := by
  rw [← read_positional_iff fs]
  constructor
  · intro parsed
    rw [parse] at parsed
    cases reads : read fs w with
    | positional => rfl
    | stop => simp [reads] at parsed
    | sets as => simp [reads, parse] at parsed
    | wants as flag => simp [reads] at parsed
    | bad => simp [reads] at parsed
  · intro reads
    rw [parse_positional reads]
    rfl

theorem parse_word {fs : FlagSet} {w : String} (plain : w.toList.head? ≠ some '-') :
    parse fs [w] = some ([], [w]) :=
  (parse_word_iff fs).2 fun dash => absurd dash plain

theorem head_append {s t : String} (plain : s.toList.head? ≠ some '-') (some_ : s ≠ "") :
    (s ++ t).toList.head? ≠ some '-' := by
  rw [String.toList_append]
  cases chars : s.toList with
  | nil => exact absurd (String.toList_injective (chars.trans rfl)) some_
  | cons c rest => rwa [chars] at plain

/-- The query of a search is an argument, unless the keyword stands in front like a flag. -/
theorem query_plain_iff {repo keyword : String}
    (valid : (RepoRequest.searchCharts repo keyword).validate host = .ok ()) :
    ((searchQuery repo keyword).toList.head? = some '-' → searchQuery repo keyword = "-") ↔
      ¬(RepoRequest.searchCharts repo keyword).Dashed := by
  rw [RepoRequest.validate] at valid
  unfold searchQuery RepoRequest.Dashed
  dsimp only
  by_cases none_ : Text.trimSpace repo = ""
  · simp only [none_, if_true, true_or, and_true]
    exact not_and_not_right.symm
  · rw [if_neg none_] at valid
    have behind (t : String) := head_append (t := t) (repoName_not_dash valid) none_
    simp only [none_, if_false, false_or]
    by_cases empty : Text.trimSpace keyword = ""
    · rw [if_pos empty, empty]
      exact iff_of_true (fun dash => absurd dash (behind _)) (by simp)
    · rw [if_neg empty]
      by_cases slash : '/' ∈ (Text.trimSpace keyword).toList
      · simp only [slash, if_true, and_true]
        exact not_and_not_right.symm
      · rw [if_neg slash, String.append_assoc]
        exact iff_of_true (fun dash => absurd dash (behind _)) (fun dashed => slash dashed.2.2)

theorem parse_output {fs : FlagSet} (short : fs.short 'o' = some ⟨"output", ""⟩)
    (accepts : fs.accepts "output" "json" = true) (words : List String) :
    parse fs ("-o" :: "json" :: words) =
      (parse fs words).map fun r => (("output", "json") :: r.1, r.2) := by
  apply parse_wants _ accepts
  simp [Pflag.read, readShort, short]

/-- The name and the URL are the arguments of an addition, and the options carry what they are
given. -/
theorem read_addRepo (standard : b.Standard) {inp : AddRepoInput}
    (name : (Text.trimSpace inp.name).toList.head? ≠ some '-')
    (url : (Text.trimSpace inp.url).toList.head? ≠ some '-') :
    parse (b.flags ("repo", "add")) (RepoRequest.addRepo inp).words =
      some (inp.options, (RepoRequest.addRepo inp).arguments) := by
  have username : Pflag.read (b.flags ("repo", "add")) "--username" = .wants [] "username" := by
    simp [Pflag.read, readLong, standard.username]
  have password : Pflag.read (b.flags ("repo", "add")) "--password" = .wants [] "password" := by
    simp [Pflag.read, readLong, standard.password]
  have given : parse (b.flags ("repo", "add"))
      ((if Text.trimSpace inp.username = "" then [] else ["--username", inp.username]) ++
        if inp.password = "" then [] else ["--password", inp.password]) =
      some (inp.options, []) := by
    have last : parse (b.flags ("repo", "add"))
        (if inp.password = "" then [] else ["--password", inp.password]) =
        some (if inp.password = "" then [] else [("password", inp.password)], []) := by
      split
      · rfl
      · rw [parse_wants password (standard.accepts _).2]
        rfl
    rw [AddRepoInput.options]
    split
    · exact last
    · rw [List.cons_append, List.cons_append, List.nil_append,
        parse_wants username (standard.accepts _).1, last]
      rfl
  rw [RepoRequest.words, List.append_assoc, List.cons_append, List.cons_append, List.nil_append,
    parse_positional (read_of_not_dash name), parse_positional (read_of_not_dash url), given]
  rfl

/-- Helm reads the flags and the arguments of a valid request as they were meant, unless the keyword
of a search passes for a flag. -/
theorem read_args_iff (standard : b.Standard) (letters : host.SchemesFirst) {req : RepoRequest}
    (valid : req.validate host = .ok ()) :
    b.read req.args = some (req.options, req.arguments) ↔ ¬req.Dashed := by
  rw [RepoRequest.args, RepoBinary.read]
  cases req with
  | listRepos =>
      obtain ⟨short, accepts⟩ := standard.output ("repo", "list") (by simp)
      apply iff_of_true _ id
      exact parse_output short accepts []
  | addRepo inp =>
      have both : inp.validate host = .ok () := valid
      unfold AddRepoInput.validate at both
      split at both
      · cases both
      · rename_i name
        apply iff_of_true _ id
        exact read_addRepo standard (repoName_not_dash name) (repoURL_not_dash letters both)
  | removeRepo name =>
      apply iff_of_true _ id
      exact parse_word (repoName_not_dash valid)
  | updateRepos name =>
      apply iff_of_true _ id
      rw [RepoRequest.validate] at valid
      rw [RepoRequest.words, RepoRequest.arguments]
      split
      · rfl
      · rename_i some_
        rw [if_neg some_] at valid
        exact parse_word (repoName_not_dash valid)
  | searchCharts repo keyword =>
      obtain ⟨short, accepts⟩ := standard.output ("search", "repo") (by simp)
      rw [← query_plain_iff valid, RepoRequest.words, List.cons_append, List.cons_append,
        List.nil_append, RepoRequest.arguments]
      dsimp only [RepoRequest.command]
      rw [parse_output short accepts]
      split
      · rename_i empty
        apply iff_of_true rfl
        rw [empty]
        simp
      · rw [← parse_word_iff (b.flags ("search", "repo"))]
        constructor
        · intro parsed
          obtain ⟨⟨as, words⟩, found, same⟩ := Option.map_eq_some_iff.1 parsed
          obtain ⟨flags, rfl⟩ := Prod.mk.inj same
          have none_ : as = [] := (List.cons.inj flags).2
          rw [found, none_]
        · intro found
          rw [found]
          rfl

end Reading

theorem RepoRequest.run_started (host : Host) (json : RepoJson) (req : RepoRequest) :
    (req.run host json).1 = if req.validate host = .ok () then [req.args] else [] := by
  unfold RepoRequest.run
  split
  · rename_i invalid
    rw [invalid]
    exact (if_neg (by simp)).symm
  · rename_i valid
    rw [if_pos valid]
    split <;> rfl

/-- Helm is started at most once for a request, and just for one that is valid; it reads the flags
and the arguments that were meant, unless the keyword of a search passes for a flag. -/
theorem repo_request_read_iff (b : RepoBinary) (standard : b.Standard) (host : Host)
    (letters : host.SchemesFirst) (json : RepoJson) (req : RepoRequest) :
    (req.run host json).1.length ≤ 1 ∧
      ((req.run host json).1 ≠ [] ↔ req.validate host = .ok ()) ∧
      ∀ args ∈ (req.run host json).1,
        b.read args = some (req.options, req.arguments) ↔ ¬req.Dashed := by
  rw [req.run_started host json]
  split
  · rename_i valid
    refine ⟨le_rfl, iff_of_true (List.cons_ne_nil _ _) valid, fun args mem => ?_⟩
    rw [List.mem_singleton.1 mem]
    exact read_args_iff standard letters valid
  · rename_i invalid
    refine ⟨Nat.zero_le 1, iff_of_false (fun some_ => some_ rfl) invalid, ?_⟩
    intro args mem
    cases mem

/-- Flags of the commands, with their shorthands. -/
def repoFlagTable (command : String × String) : List (Flag × Option Char) :=
  [(⟨"repository-config", ""⟩, none)] ++
    if command ∈ [("repo", "list"), ("search", "repo")] then [(⟨"output", ""⟩, some 'o')]
    else if command = ("repo", "add") then [(⟨"username", ""⟩, none), (⟨"password", ""⟩, none)]
    else []

def helmRepos : RepoBinary where
  flags := fun command =>
    { long := fun name => ((repoFlagTable command).find? (·.1.name == name)).map (·.1)
      short := fun ch => ((repoFlagTable command).find? (·.2 == some ch)).map (·.1)
      accepts := fun _ _ => true }

theorem helmRepos_standard : helmRepos.Standard where
  output := by decide
  username := by decide
  password := by decide
  accepts := fun _ => ⟨rfl, rfl⟩

theorem emptyHost_schemesFirst : emptyHost.SchemesFirst :=
  fun _ _ _ parsed => absurd parsed.symm (Option.some_ne_none _)

def unread : RepoJson := ⟨fun _ => .ok [], fun _ => .ok []⟩

/-- Who may search the charts has helm read another file of repositories. -/
theorem keyword_sets_config :
    helmRepos.read (RepoRequest.searchCharts "bitnami" "nginx").args =
        some ([("output", "json")], ["bitnami/nginx"]) ∧
      helmRepos.read (RepoRequest.searchCharts "" "--repository-config=/tmp/repos.yaml").args =
        some ([("output", "json"), ("repository-config", "/tmp/repos.yaml")], []) :=
  ⟨((repo_request_read_iff helmRepos helmRepos_standard emptyHost emptyHost_schemesFirst unread
      (.searchCharts "bitnami" "nginx")).2.2 _ (by decide)).2
      (by unfold RepoRequest.Dashed; decide),
    by decide⟩

end K8sPlatform.Helm
