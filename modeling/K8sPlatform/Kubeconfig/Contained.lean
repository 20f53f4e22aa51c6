import K8sPlatform.Kubeconfig.Parser

/-! # Kubeconfigs that lead to files and programs of the server -/

namespace K8sPlatform.Kubeconfig

open Errcode

/-- The calls of a ping on the clients of a configuration: the error of building them, the version
(`GitVersion`, `Major`, `Minor`), and the number of nodes. -/
structure Probe where
  newForConfig : RestConfig → Option String
  serverVersion : RestConfig → Except String (String × String × String)
  nodes : RestConfig → Except String Nat

structure PingResult where
  serverVersion : String
  nodeCount : Nat
  deriving DecidableEq, Repr

/-- The ping with a kubeconfig that is not stored: the configuration that it connects with, and its
answer. -/
def pingWithKubeconfig (l : Clientcmd) (x : Ranging) (probe : Probe) (raw : List UInt8) :
    Option RestConfig × Except Error PingResult :=
  if raw.isEmpty then (none, .error (.new .invalidArgument "kubeconfig 不能为空"))
  else
    match parse l x raw with
    | .error err => (none, .error err)
    | .ok parsed =>
      let restCfg := parsed.restConfig
      (some restCfg,
        match probe.newForConfig restCfg with
        | some err => .error (.wrapMsg .clusterConnectFail err "创建 kubernetes client 失败")
        | none =>
          match probe.serverVersion restCfg with
          | .error err => .error (.wrapMsg .clusterConnectFail err "调用 /version 失败")
          | .ok (gitVersion, major, minor) =>
            match probe.nodes restCfg with
            | .error err => .error (.wrapMsg .clusterConnectFail err "获取节点列表失败")
            | .ok nodeCount =>
                let version := if gitVersion = "" then "v" ++ major ++ "." ++ minor else gitVersion
                .ok ⟨version, nodeCount⟩)

/-- A user with nothing but credentials: no plugin is run for it, and no file is read. -/
structure AuthInfo.Inline (a : AuthInfo) : Prop where
  exec : a.exec = false
  authProvider : a.authProvider = false
  tokenFile : a.tokenFile = ""
  clientCertificate : a.clientCertificate = ""
  clientKey : a.clientKey = ""

/-- A client with this configuration runs no program and reads no file of the server. -/
structure RestConfig.SelfContained (restCfg : RestConfig) : Prop where
  user : restCfg.user.Inline
  caFile : restCfg.caFile = ""

/-- The configuration of a context has the fields of its cluster and of its user. -/
structure Clientcmd.Copies (l : Clientcmd) : Prop where
  connects : l.Connects
  caFile : ∀ cfg ctxName cluster authInfo restCfg, resolve cfg ctxName = .ok (cluster, authInfo) →
    l.clientConfig cfg ctxName = .ok restCfg → restCfg.caFile = cluster.certificateAuthority

/-- The paths of a user and its cluster: what `rejectInsecureAuth` does not look at. -/
structure NoPaths (cluster : Cluster) (authInfo : AuthInfo) : Prop where
  tokenFile : authInfo.tokenFile = ""
  clientCertificate : authInfo.clientCertificate = ""
  clientKey : authInfo.clientKey = ""
  certificateAuthority : cluster.certificateAuthority = ""

/-- The context that this execution picks names no file. -/
def Clientcmd.PicksInline (l : Clientcmd) (x : Ranging) (raw : List UInt8) : Prop :=
  ∀ cfg cluster authInfo, l.load raw = .ok cfg →
    resolve cfg (pick x cfg) = .ok (cluster, authInfo) → NoPaths cluster authInfo

variable {l : Clientcmd} {x : Ranging} {raw : List UInt8} {p : ParseResult}

/-- A user that a context resolves to is one of the users of the file. -/
theorem lookup_of_resolve {cfg : Config} {ctxName : String} {cluster : Cluster}
    {authInfo : AuthInfo} (resolves : resolve cfg ctxName = .ok (cluster, authInfo)) :
    ∃ name, cfg.authInfos.lookup name = some authInfo := by
  unfold resolve at resolves
  cases context : cfg.contexts.lookup ctxName with
  | none => simp [context] at resolves
  | some ctx =>
      rw [context] at resolves
      dsimp only at resolves
      split_ifs at resolves
      cases clusters : cfg.clusters.lookup ctx.cluster with
      | none => simp [clusters] at resolves
      | some cluster' =>
          rw [clusters] at resolves
          dsimp only at resolves
          split_ifs at resolves
          cases user : cfg.authInfos.lookup ctx.authInfo with
          | none => simp [user] at resolves
          | some authInfo' =>
              rw [user] at resolves
              obtain ⟨-, rfl⟩ := Prod.mk.inj (Except.ok.inj resolves)
              exact ⟨ctx.authInfo, user⟩

/-- What an accepted file resolves to, and what the configuration takes from it. -/
theorem Clientcmd.Copies.accepted (copies : l.Copies) (accepted : parse l x raw = .ok p) :
    ∃ cfg cluster authInfo, l.load raw = .ok cfg ∧
      resolve cfg (pick x cfg) = .ok (cluster, authInfo) ∧
      authInfo.exec = false ∧ authInfo.authProvider = false ∧
      p.restConfig.user = authInfo ∧ p.restConfig.caFile = cluster.certificateAuthority := by
  obtain ⟨-, cfg, loaded, usable, cluster, authInfo, restCfg, complete, rfl⟩ :=
    parse_eq_ok.1 accepted
  obtain ⟨name, user⟩ := lookup_of_resolve complete.resolves
  obtain ⟨exec, authProvider⟩ := usable.secure name authInfo user
  have copied := copies.connects cfg _ cluster authInfo restCfg complete.resolves complete.builds
  have caFile := copies.caFile cfg _ cluster authInfo restCfg complete.resolves complete.builds
  exact ⟨cfg, cluster, authInfo, loaded, complete.resolves, exec, authProvider, copied.2, caFile⟩

/-- A ping connects with the configuration that is accepted. -/
theorem ping_connects (probe : Probe) (accepted : parse l x raw = .ok p) :
    (pingWithKubeconfig l x probe raw).1 = some p.restConfig := by
  have some_ : raw ≠ [] := (parse_eq_ok.1 accepted).1
  have nonempty : raw.isEmpty = false := by simpa using some_
  unfold pingWithKubeconfig
  rw [nonempty, accepted]
  rfl

/-- A file that is accepted leads out of itself just when the context picked names a file: a token,
a client certificate or a key of the user, or the CA of the cluster. -/
theorem self_contained_iff (copies : l.Copies) (probe : Probe)
    (accepted : parse l x raw = .ok p) :
    (pingWithKubeconfig l x probe raw).1 = some p.restConfig ∧
      (p.restConfig.SelfContained ↔ l.PicksInline x raw) := by
  refine ⟨ping_connects probe accepted, ?_⟩
  obtain ⟨cfg, cluster, authInfo, loaded, resolves, exec, authProvider, user, caFile⟩ :=
    copies.accepted accepted
  constructor
  · rintro ⟨inline, noCA⟩ cfg' cluster' authInfo' loaded' resolves'
    obtain rfl := Except.ok.inj (loaded.symm.trans loaded')
    obtain ⟨rfl, rfl⟩ := Prod.mk.inj (Except.ok.inj (resolves.symm.trans resolves'))
    rw [user] at inline
    exact ⟨inline.tokenFile, inline.clientCertificate, inline.clientKey, caFile ▸ noCA⟩
  · intro picks
    obtain ⟨tokenFile, clientCertificate, clientKey, certificateAuthority⟩ :=
      picks cfg cluster authInfo loaded resolves
    constructor
    · rw [user]
      exact ⟨exec, authProvider, tokenFile, clientCertificate, clientKey⟩
    · rw [caFile, certificateAuthority]

def tokenUser (token tokenFile : String) : AuthInfo where
  token := token
  tokenFile := tokenFile
  clientCertificate := ""
  clientCertificateData := none
  clientKey := ""
  username := ""
  password := ""
  exec := false
  authProvider := false
  remainder := ""

def oneContext (user : AuthInfo) : Config where
  clusters := [⟨"c", ⟨"https://10.0.0.1:6443", ""⟩⟩].toAList
  contexts := [⟨"ctx", ⟨"c", "u"⟩⟩].toAList
  authInfos := [⟨"u", user⟩].toAList
  currentContext := "ctx"
  remainder := ""

/-- The token that Kubernetes mounts into the pod of the server. -/
def podToken : AuthInfo := tokenUser "" "/var/run/secrets/kubernetes.io/serviceaccount/token"

/-- A file with one context, whose user has this field. -/
def fileWith (field : String) : List UInt8 :=
  (String.join ["apiVersion: v1\nkind: Config\ncurrent-context: ctx\nclusters:\n",
    "- name: c\n  cluster:\n    server: https://10.0.0.1:6443\n",
    "contexts:\n- name: ctx\n  context:\n    cluster: c\n    user: u\n",
    "users:\n- name: u\n  user:\n    ", field, "\n"]).toUTF8.data.toList

def podTokenFile : List UInt8 :=
  fileWith "tokenFile: /var/run/secrets/kubernetes.io/serviceaccount/token"

/-- client-go, for one file. -/
def loading (cfg : Config) : Clientcmd where
  load _ := .ok cfg
  clientConfig := threeContextsClientcmd.clientConfig

theorem loading_copies (cfg : Config) : (loading cfg).Copies where
  connects := threeContexts_connects
  caFile cfg ctxName cluster authInfo restCfg resolves builds := by
    simp only [loading, threeContextsClientcmd, resolves, Except.ok.injEq] at builds
    rw [← builds]

/-- The file is accepted, and a ping with it sends the token to the server that it names. -/
theorem token_file_accepted :
    ∃ p, (loading (oneContext podToken)).Copies ∧
      parse (loading (oneContext podToken)) (.first "ctx") podTokenFile = .ok p ∧
      ¬p.restConfig.SelfContained := by
  refine ⟨⟨"https://10.0.0.1:6443", "https://10.0.0.1:6443", podToken, "", 10⟩, loading_copies _,
    ?_, ?_⟩
  · decide +kernel
  · rintro ⟨inline, -⟩
    have path := inline.tokenFile
    revert path
    decide

def pinging : Probe where
  newForConfig _ := none
  serverVersion _ := .ok ("v1.30.0", "1", "30")
  nodes _ := .ok 3

def inlineToken : AuthInfo := tokenUser "s3cret" ""

theorem inline_token_contained :
    ∃ restCfg, (pingWithKubeconfig (loading (oneContext inlineToken)) (.first "ctx") pinging
        (fileWith "token: s3cret")).1 = some restCfg ∧ restCfg.SelfContained := by
  have accepted : parse (loading (oneContext inlineToken)) (.first "ctx")
      (fileWith "token: s3cret") = .ok ⟨"https://10.0.0.1:6443", "https://10.0.0.1:6443",
        inlineToken, "", 10⟩ := by decide +kernel
  obtain ⟨connects, contained⟩ := self_contained_iff (loading_copies _) pinging accepted
  refine ⟨_, connects, contained.2 ?_⟩
  intro cfg cluster authInfo loaded resolves
  obtain rfl := Except.ok.inj loaded
  have here : resolve (oneContext inlineToken) (pick (.first "ctx") (oneContext inlineToken)) =
      .ok (⟨"https://10.0.0.1:6443", ""⟩, inlineToken) := by decide +kernel
  obtain ⟨rfl, rfl⟩ := Prod.mk.inj (Except.ok.inj (here.symm.trans resolves))
  exact ⟨rfl, rfl, rfl, rfl⟩

end K8sPlatform.Kubeconfig
