import Mathlib.Data.List.AList
import K8sPlatform.Lib.Text
import K8sPlatform.Errcode

/-! # Kubeconfig files -/

namespace K8sPlatform.Kubeconfig

open Errcode

structure Cluster where
  server : String
  certificateAuthority : String
  deriving DecidableEq, Repr

structure Context where
  cluster : String
  authInfo : String
  deriving DecidableEq, Repr

/-- `tokenFile`, `clientCertificate` and `clientKey` are paths; `exec` and `authProvider` are
whether the user has such a plugin. The remainder is what only client-go reads. -/
structure AuthInfo where
  token : String
  tokenFile : String
  clientCertificate : String
  clientCertificateData : Option (List UInt8)
  clientKey : String
  username : String
  password : String
  exec : Bool
  authProvider : Bool
  remainder : String
  deriving DecidableEq, Repr

/-- A loaded file. The remainder is what only client-go reads. -/
structure Config where
  clusters : AList fun _ : String => Cluster
  contexts : AList fun _ : String => Context
  authInfos : AList fun _ : String => AuthInfo
  currentContext : String
  remainder : String

/-- What a client connects to, as whom, the path of the CA it trusts, and its timeout in seconds. -/
structure RestConfig where
  server : String
  user : AuthInfo
  caFile : String
  timeout : Nat
  deriving DecidableEq, Repr

def RestConfig.withTimeout (restCfg : RestConfig) : RestConfig :=
  { restCfg with timeout := if restCfg.timeout = 0 then 10 else restCfg.timeout }

/-- The functions of client-go. `clientConfig` builds the configuration of a named context. -/
structure Clientcmd where
  load : List UInt8 → Except String Config
  clientConfig : Config → String → Except String RestConfig

/-- The order in which one execution ranges over a map: any order of its keys. -/
structure Ranging where
  keys : List String → List String
  perm : ∀ ks, (keys ks).Perm ks

structure ParseResult where
  apiServer : String
  restConfig : RestConfig
  deriving DecidableEq, Repr

/-- The first characters that fit into `n` bytes. -/
def takeBytes : Nat → List Char → List Char
  | _, [] => []
  | n, c :: cs => if c.utf8Size ≤ n then c :: takeBytes (n - c.utf8Size) cs else []

def truncate (s : String) (n : Nat) : String :=
  if s.utf8ByteSize ≤ n then s else String.ofList (takeBytes n s.toList) ++ "..."

def invalid (message : String) : Error := .new .kubeconfigInvalid message

variable (l : Clientcmd) (x : Ranging)

/-- The name of the context: the current one, else the first that the range gives. -/
def pick (cfg : Config) : String :=
  if cfg.currentContext = "" then (x.keys cfg.contexts.keys).headD "" else cfg.currentContext

/-- The cluster and the user of a context. -/
def resolve (cfg : Config) (ctxName : String) : Except Error (Cluster × AuthInfo) :=
  match cfg.contexts.lookup ctxName with
  | none => .error (invalid ("current-context " ++ Text.quote ctxName ++ " 对应的 context 不存在"))
  | some ctx =>
    if ctx.cluster = "" then .error (invalid "context 未指定 cluster")
    else if ctx.authInfo = "" then .error (invalid "context 未指定 user")
    else
      match cfg.clusters.lookup ctx.cluster with
      | none => .error (invalid ("cluster " ++ Text.quote ctx.cluster ++ " 不存在"))
      | some cluster =>
        if cluster.server = "" then .error (invalid "cluster.server 地址为空")
        else
          match cfg.authInfos.lookup ctx.authInfo with
          | none => .error (invalid ("user " ++ Text.quote ctx.authInfo ++ " 不存在"))
          | some authInfo => .ok (cluster, authInfo)

def AuthInfo.insecure (name : String) (a : AuthInfo) : Option Error :=
  if a.exec then some (invalid ("拒绝 user " ++ Text.quote name ++ " 的 exec 认证插件"))
  else if a.authProvider then
    some (invalid ("拒绝 user " ++ Text.quote name ++ " 的 auth-provider 认证插件"))
  else none

def rejectInsecureAuth (cfg : Config) : Except Error Unit :=
  match (x.keys cfg.authInfos.keys).findSome? fun name =>
      (cfg.authInfos.lookup name).bind (·.insecure name) with
  | some err => .error err
  | none => .ok ()

def hasAuthMethod (a : AuthInfo) : Bool :=
  a.token != "" || a.tokenFile != "" || a.clientCertificate != "" ||
    a.clientCertificateData.isSome || (a.username != "" && a.password != "")

def parse (raw : List UInt8) : Except Error ParseResult :=
  if raw.isEmpty then .error (invalid "kubeconfig 不能为空")
  else
    match l.load raw with
    | .error err =>
        .error (.wrapMsg .kubeconfigInvalid err ("kubeconfig YAML 解析失败: " ++ truncate err 120))
    | .ok cfg =>
      if cfg.clusters.keys.isEmpty then .error (invalid "kubeconfig 缺失 clusters 配置")
      else if cfg.contexts.keys.isEmpty then .error (invalid "kubeconfig 缺失 contexts 配置")
      else if cfg.authInfos.keys.isEmpty then .error (invalid "kubeconfig 缺失 users 配置")
      else
        let ctxName := pick x cfg
        match resolve cfg ctxName with
        | .error err => .error err
        | .ok (cluster, authInfo) =>
          match rejectInsecureAuth x cfg with
          | .error err => .error err
          | .ok () =>
            if hasAuthMethod authInfo = false then
              .error (invalid "kubeconfig user 未提供任何认证方式（token/client-cert/username）")
            else
              match l.clientConfig cfg ctxName with
              | .error err =>
                  .error (.wrapMsg .kubeconfigInvalid err
                    ("构建 rest.Config 失败: " ++ truncate err 120))
              | .ok restCfg => .ok ⟨cluster.server, restCfg.withTimeout⟩

/-! ## What is accepted -/

/-- What a file needs whichever context is picked. -/
structure Config.Usable (cfg : Config) : Prop where
  clusters : cfg.clusters.keys ≠ []
  contexts : cfg.contexts.keys ≠ []
  authInfos : cfg.authInfos.keys ≠ []
  secure : ∀ name a, cfg.authInfos.lookup name = some a → a.exec = false ∧ a.authProvider = false

/-- A context that names a cluster with a server and a user with a way to authenticate, and for
which client-go builds a configuration. -/
structure Config.Complete (cfg : Config) (ctxName : String) (cluster : Cluster)
    (authInfo : AuthInfo) (restCfg : RestConfig) : Prop where
  resolves : resolve cfg ctxName = .ok (cluster, authInfo)
  method : hasAuthMethod authInfo = true
  builds : l.clientConfig cfg ctxName = .ok restCfg

variable {l x}

theorem rejectInsecureAuth_eq_ok {cfg : Config} :
    rejectInsecureAuth x cfg = .ok () ↔ ∀ name a, cfg.authInfos.lookup name = some a →
      a.exec = false ∧ a.authProvider = false := by
  have secure (name : String) (a : AuthInfo) :
      a.insecure name = none ↔ a.exec = false ∧ a.authProvider = false := by
    unfold AuthInfo.insecure
    cases a.exec <;> cases a.authProvider <;> simp
  unfold rejectInsecureAuth
  constructor
  · intro ok name a found
    split at ok
    · cases ok
    case h_2 none_ =>
      have mem : name ∈ x.keys cfg.authInfos.keys :=
        (x.perm _).mem_iff.2 (AList.mem_keys.2 (AList.lookup_isSome.1 (by simp [found])))
      have harmless := List.findSome?_eq_none_iff.1 none_ name mem
      rw [found] at harmless
      exact (secure name a).1 harmless
  · intro all
    have none_ : (x.keys cfg.authInfos.keys).findSome? (fun name =>
        (cfg.authInfos.lookup name).bind (·.insecure name)) = none := by
      rw [List.findSome?_eq_none_iff]
      intro name _
      cases found : cfg.authInfos.lookup name with
      | none => rfl
      | some a => exact (secure name a).2 (all name a found)
    rw [none_]

theorem parse_eq_ok {raw : List UInt8} {p : ParseResult} :
    parse l x raw = .ok p ↔ raw ≠ [] ∧ ∃ cfg, l.load raw = .ok cfg ∧ cfg.Usable ∧
      ∃ cluster authInfo restCfg, cfg.Complete l (pick x cfg) cluster authInfo restCfg ∧
        p = ⟨cluster.server, restCfg.withTimeout⟩ := by
  unfold parse
  cases raw with
  | nil => simp
  | cons b bs =>
  cases loaded : l.load (b :: bs) with
  | error err => simp
  | ok cfg =>
  simp only [List.isEmpty_cons, Bool.false_eq_true, if_false, List.isEmpty_iff, ne_eq,
    reduceCtorEq, not_false_eq_true, true_and, Except.ok.injEq, exists_eq_left']
  constructor
  · intro ok
    split_ifs at ok with clusters contexts authInfos
    split at ok
    · cases ok
    case h_2 cluster authInfo resolves =>
      split at ok
      · cases ok
      case h_2 secure =>
        split_ifs at ok with method
        split at ok
        · cases ok
        case h_2 restCfg builds =>
          refine ⟨⟨clusters, contexts, authInfos, rejectInsecureAuth_eq_ok.1 secure⟩, cluster,
            authInfo, restCfg, ⟨resolves, by simpa using method, builds⟩, ?_⟩
          exact (Except.ok.inj ok).symm
  · rintro ⟨usable, cluster, authInfo, restCfg, complete, rfl⟩
    rw [if_neg usable.clusters, if_neg usable.contexts, if_neg usable.authInfos]
    simp only [complete.resolves, rejectInsecureAuth_eq_ok.2 usable.secure, complete.method,
      Bool.true_eq_false, if_false, complete.builds]

/-! ## Which context is picked -/

/-- Any context may come first. -/
def Ranging.first (name : String) : Ranging where
  keys ks := if name ∈ ks then name :: ks.erase name else ks
  perm ks := by
    split_ifs with mem
    · exact (List.perm_cons_erase mem).symm
    · exact .refl ks

theorem pick_of_current {cfg : Config} (current : cfg.currentContext ≠ "") :
    pick x cfg = cfg.currentContext := if_neg current

theorem pick_mem {cfg : Config} (current : cfg.currentContext = "")
    (contexts : cfg.contexts.keys ≠ []) : pick x cfg ∈ cfg.contexts.keys := by
  rw [pick, if_pos current]
  cases order : x.keys cfg.contexts.keys with
  | nil => exact absurd (List.nil_perm.1 (order ▸ x.perm cfg.contexts.keys)) contexts
  | cons name rest =>
      rw [List.headD_cons]
      exact (x.perm cfg.contexts.keys).mem_iff.1 (order ▸ List.mem_cons_self)

theorem pick_first {cfg : Config} (current : cfg.currentContext = "") {name : String}
    (mem : name ∈ cfg.contexts.keys) : pick (.first name) cfg = name := by
  rw [pick, if_pos current]
  simp [Ranging.first, mem]

/-- Where the file has no current context, the context that this execution picks is complete. -/
def Clientcmd.PicksComplete (l : Clientcmd) (x : Ranging) (raw : List UInt8) : Prop :=
  ∀ cfg, l.load raw = .ok cfg → cfg.currentContext = "" →
    ∃ cluster authInfo restCfg, cfg.Complete l (pick x cfg) cluster authInfo restCfg

/-- A file that was accepted once is accepted again just when the context picked is complete. -/
theorem parse_again_iff {x' : Ranging} {raw : List UInt8} {p : ParseResult}
    (accepted : parse l x raw = .ok p) :
    (∃ p', parse l x' raw = .ok p') ↔ l.PicksComplete x' raw := by
  obtain ⟨some_, cfg, loaded, usable, cluster, authInfo, restCfg, complete, -⟩ :=
    parse_eq_ok.1 accepted
  constructor
  · rintro ⟨p', again⟩ cfg' loaded' _
    obtain ⟨-, cfg'', loaded'', -, cluster', authInfo', restCfg', complete', -⟩ :=
      parse_eq_ok.1 again
    obtain rfl : cfg'' = cfg' := Except.ok.inj (loaded''.symm.trans loaded')
    exact ⟨cluster', authInfo', restCfg', complete'⟩
  · intro picks
    have complete' : ∃ cluster authInfo restCfg,
        cfg.Complete l (pick x' cfg) cluster authInfo restCfg := by
      by_cases current : cfg.currentContext = ""
      · exact picks cfg loaded current
      · rw [pick_of_current current] at complete ⊢
        exact ⟨cluster, authInfo, restCfg, complete⟩
    obtain ⟨cluster', authInfo', restCfg', complete'⟩ := complete'
    exact ⟨_, parse_eq_ok.2
      ⟨some_, cfg, loaded, usable, cluster', authInfo', restCfg', complete', rfl⟩⟩

/-- Where the file has no current context, all its contexts are complete and lead to one server, as
one user. -/
def Clientcmd.Unambiguous (l : Clientcmd) (raw : List UInt8) : Prop :=
  ∀ cfg, l.load raw = .ok cfg → cfg.currentContext = "" →
    ∃ server user, ∀ name ∈ cfg.contexts.keys, ∃ cluster restCfg,
      cfg.Complete l name cluster user restCfg ∧ cluster.server = server

/-- The configuration of a context connects to its cluster, as its user. -/
def Clientcmd.Connects (l : Clientcmd) : Prop :=
  ∀ cfg ctxName cluster authInfo restCfg, resolve cfg ctxName = .ok (cluster, authInfo) →
    l.clientConfig cfg ctxName = .ok restCfg →
      restCfg.server = cluster.server ∧ restCfg.user = authInfo

/-- Every execution of an accepted file connects to the server of the first one, as one user, just
when the file is unambiguous. -/
theorem same_server_iff (connects : l.Connects) {raw : List UInt8} {p : ParseResult}
    (accepted : parse l x raw = .ok p) :
    (∃ user, ∀ x', ∃ p', parse l x' raw = .ok p' ∧ p'.restConfig.server = p.apiServer ∧
      p'.restConfig.user = user) ↔ l.Unambiguous raw := by
  obtain ⟨some_, cfg, loaded, usable, cluster, authInfo, restCfg, complete, rfl⟩ :=
    parse_eq_ok.1 accepted
  have parses (x' : Ranging) {cluster' : Cluster} {authInfo' : AuthInfo} {restCfg' : RestConfig}
      (complete' : cfg.Complete l (pick x' cfg) cluster' authInfo' restCfg') :
      ∃ p', parse l x' raw = .ok p' ∧ p'.restConfig.server = cluster'.server ∧
        p'.restConfig.user = authInfo' :=
    ⟨_, parse_eq_ok.2
        ⟨some_, cfg, loaded, usable, cluster', authInfo', restCfg', complete', rfl⟩,
      connects cfg _ cluster' authInfo' restCfg' complete'.resolves complete'.builds⟩
  constructor
  · rintro ⟨user, all⟩ cfg' loaded' current
    obtain rfl : cfg' = cfg := Except.ok.inj (loaded'.symm.trans loaded)
    refine ⟨cluster.server, user, fun name mem => ?_⟩
    obtain ⟨p', parsed, server, rfl⟩ := all (.first name)
    obtain ⟨-, cfg'', loaded'', -, cluster', authInfo', restCfg', complete', rfl⟩ :=
      parse_eq_ok.1 parsed
    obtain rfl : cfg'' = cfg' := Except.ok.inj (loaded''.symm.trans loaded')
    obtain ⟨server', user'⟩ :=
      connects cfg'' _ cluster' authInfo' restCfg' complete'.resolves complete'.builds
    rw [pick_first current mem] at complete'
    refine ⟨cluster', restCfg', ?_, server'.symm.trans server⟩
    rw [← user'] at complete'
    exact complete'
  · intro unambiguous
    by_cases current : cfg.currentContext = ""
    · obtain ⟨server, user, all⟩ := unambiguous cfg loaded current
      obtain ⟨cluster₁, restCfg₁, complete₁, rfl⟩ :=
        all (pick x cfg) (pick_mem current usable.contexts)
      obtain ⟨rfl, rfl⟩ := Prod.mk.inj
        (Except.ok.inj (complete₁.resolves.symm.trans complete.resolves))
      refine ⟨user, fun x' => ?_⟩
      obtain ⟨cluster', restCfg', complete', server⟩ :=
        all (pick x' cfg) (pick_mem current usable.contexts)
      rw [← server]
      exact parses x' complete'
    · refine ⟨authInfo, fun x' => ?_⟩
      have complete' : cfg.Complete l (pick x' cfg) cluster authInfo restCfg := by
        rwa [pick_of_current current] at complete ⊢
      exact parses x' complete'

/-- Two clusters, a user with a token and one without: the contexts east and west are complete,
the context draft is not. -/
def threeContexts : Config where
  clusters :=
    [⟨"east", ⟨"https://10.0.0.1:6443", ""⟩⟩, ⟨"west", ⟨"https://10.0.0.2:6443", ""⟩⟩].toAList
  contexts := [⟨"east", ⟨"east", "admin"⟩⟩, ⟨"west", ⟨"west", "admin"⟩⟩,
    ⟨"draft", ⟨"east", "nobody"⟩⟩].toAList
  authInfos := [⟨"admin", ⟨"s3cret", "", "", none, "", "", "", false, false, ""⟩⟩,
    ⟨"nobody", ⟨"", "", "", none, "", "", "", false, false, ""⟩⟩].toAList
  currentContext := ""
  remainder := ""

def threeContextsFile : List UInt8 :=
  (String.join ["apiVersion: v1\nkind: Config\nclusters:\n",
    "- name: east\n  cluster:\n    server: https://10.0.0.1:6443\n",
    "- name: west\n  cluster:\n    server: https://10.0.0.2:6443\n",
    "users:\n- name: admin\n  user:\n    token: s3cret\n- name: nobody\ncontexts:\n",
    "- name: east\n  context:\n    cluster: east\n    user: admin\n",
    "- name: west\n  context:\n    cluster: west\n    user: admin\n",
    "- name: draft\n  context:\n    cluster: east\n    user: nobody\n"]).toUTF8.data.toList

def threeContextsClientcmd : Clientcmd where
  load raw := if raw = threeContextsFile then .ok threeContexts else .error "yaml: invalid"
  clientConfig cfg ctxName :=
    match resolve cfg ctxName with
    | .ok (cluster, authInfo) => .ok ⟨cluster.server, authInfo, cluster.certificateAuthority, 0⟩
    | .error _ => .error ("context " ++ Text.quote ctxName ++ " does not exist")

theorem threeContexts_connects : threeContextsClientcmd.Connects := by
  intro cfg ctxName cluster authInfo restCfg resolves builds
  simp only [threeContextsClientcmd, resolves, Except.ok.injEq] at builds
  rw [← builds]
  exact ⟨rfl, rfl⟩

end K8sPlatform.Kubeconfig
