import K8sPlatform.Auth.Middleware
import K8sPlatform.Lib.Validation

/-! # The helm manager and its endpoints -/

namespace K8sPlatform.Helm

open Errcode Auth

structure InstallInput where
  clusterCode : String
  releaseName : String
  ns : String
  chartRef : String
  repoURL : String
  values : String
  version : String
  wait : Bool
  dryRun : Bool
  deriving DecidableEq, Repr

/-- An error of the platform, or any other. -/
inductive Failure
  | coded (err : Error)
  | plain (text : String)
  deriving DecidableEq, Repr

/-- What the manager works against: the kubeconfig file written for a cluster, the error of
writing a values file, the scheme and host of a URL, and the outcome of a helm process. -/
structure Host where
  writeKubeconfig : String → Except Failure String
  writeValues : Option String
  parseURL : String → Option (String × String)
  exec : List String → Except String String

/-- A helm process to start. -/
structure Invocation where
  kubeconfig : String
  ns : String
  command : String
  words : List String
  deriving DecidableEq, Repr

def Invocation.args (inv : Invocation) : List String :=
  ["--kubeconfig", inv.kubeconfig, "--namespace", inv.ns, inv.command] ++ inv.words

/-- The processes that a call started, and what it returned. -/
structure Run where
  started : List Invocation
  result : Except Failure String

def validateRepoURL (host : Host) (raw : String) : Except Error Unit :=
  let raw := Text.trimSpace raw
  if raw = "" then .error (.new .invalidArgument "仓库地址不能为空")
  else
    match host.parseURL raw with
    | none => .error (.new .invalidArgument "仓库地址格式无效")
    | some (scheme, hostName) =>
        if scheme ≠ "http" ∧ scheme ≠ "https" then
          .error (.new .invalidArgument "仓库地址必须是 http 或 https URL")
        else if hostName = "" then .error (.new .invalidArgument "仓库地址缺少主机名")
        else .ok ()

/-- Beside the kubeconfig file. -/
def valuesPath (kubeconfigPath : String) : String :=
  String.ofList (kubeconfigPath.toList.reverse.dropWhile (· ≠ '/')).reverse ++ "values.yaml"

/-- The options of an install or upgrade, after the release and the chart. -/
def InstallInput.options (inp : InstallInput) (kubeconfigPath : String) : List String :=
  (if inp.version = "" then [] else ["--version", inp.version]) ++
    (if inp.wait then ["--wait"] else []) ++
    (if inp.dryRun then ["--dry-run"] else []) ++
    (if Text.trimSpace inp.repoURL = "" then [] else ["--repo", Text.trimSpace inp.repoURL]) ++
    (if inp.values = "" then [] else ["-f", valuesPath kubeconfigPath])

/-- What stops an install between the check for the release and the install itself. -/
def InstallInput.blocked (host : Host) (inp : InstallInput) : Option Failure :=
  let repo := if Text.trimSpace inp.repoURL = "" then .ok () else validateRepoURL host inp.repoURL
  match repo with
  | .error err => some (.coded err)
  | .ok () =>
      if inp.values = "" then none
      else host.writeValues.map fun err => .plain ("write values file: " ++ err)

def start (host : Host) (inv : Invocation) (before : List Invocation) (label : String) : Run :=
  ⟨before ++ [inv], match host.exec inv.args with
    | .error err => .error (.plain (label ++ " failed: " ++ err))
    | .ok out => .ok out⟩

def statusOf (path : String) (inp : InstallInput) : Invocation :=
  ⟨path, inp.ns, "status", [inp.releaseName, "-o", "json"]⟩

/-- The release exists: its `status` exits without an error. -/
def checkReleaseExists (host : Host) (path : String) (inp : InstallInput) : Bool :=
  (host.exec (statusOf path inp).args).isOk

def install (host : Host) (inp : InstallInput) : Run :=
  match host.writeKubeconfig inp.clusterCode with
  | .error err => ⟨[], .error err⟩
  | .ok path =>
    let command := if checkReleaseExists host path inp then "upgrade" else "install"
    match inp.blocked host with
    | some err => ⟨[statusOf path inp], .error err⟩
    | none =>
        start host ⟨path, inp.ns, command, inp.releaseName :: inp.chartRef :: inp.options path⟩
          [statusOf path inp] "helm install/upgrade"

def uninstall (host : Host) (clusterCode ns releaseName : String) : Run :=
  match host.writeKubeconfig clusterCode with
  | .error err => ⟨[], .error err⟩
  | .ok path => start host ⟨path, ns, "uninstall", [releaseName]⟩ [] "helm uninstall"

/-- Without a positive revision helm takes the previous one. -/
def revisionWords (revision : Int) : List String :=
  if 0 < revision then [toString revision] else []

def rollback (host : Host) (clusterCode ns releaseName : String) (revision : Int) : Run :=
  match host.writeKubeconfig clusterCode with
  | .error err => ⟨[], .error err⟩
  | .ok path =>
      start host ⟨path, ns, "rollback", releaseName :: revisionWords revision⟩ [] "helm rollback"

inductive Request
  | install (body : Except String InstallInput)
  | uninstall (ns name : String)
  | rollback (ns name revision : String)

/-- What an admitted request asks of the manager, for its cluster. -/
inductive Operation
  | install (inp : InstallInput)
  | uninstall (clusterCode ns name : String)
  | rollback (clusterCode ns name : String) (revision : Int)
  deriving DecidableEq, Repr

def Operation.clusterCode : Operation → String
  | .install inp => inp.clusterCode
  | .uninstall clusterCode _ _ | .rollback clusterCode _ _ _ => clusterCode

def Operation.ns : Operation → String
  | .install inp => inp.ns
  | .uninstall _ ns _ | .rollback _ ns _ _ => ns

/-- The part of the handlers before the manager: the fields, then the scope. -/
def Request.operation (tree : Option PermissionTree) (code : String) :
    Request → Except Error Operation
  | .install body =>
      if code = "" then .error (.new .invalidArgument "cluster code 不能为空")
      else
        match body with
        | .error err => .error (.wrapMsg .invalidArgument err "请求体解析失败")
        | .ok inp =>
          if inp.releaseName = "" ∨ inp.chartRef = "" ∨ inp.ns = "" then
            .error (.new .invalidArgument "release_name, namespace, chart_ref 不能为空")
          else
            match requireNamespaceScope tree code inp.ns with
            | .error err => .error err
            | .ok () => .ok (.install { inp with clusterCode := code })
  | .uninstall ns name =>
      if code = "" ∨ ns = "" ∨ name = "" then .error (.new .invalidArgument "参数不完整")
      else
        match requireNamespaceScope tree code ns with
        | .error err => .error err
        | .ok () => .ok (.uninstall code ns name)
  | .rollback ns name revision =>
      if code = "" ∨ ns = "" ∨ name = "" then .error (.new .invalidArgument "参数不完整")
      else
        match requireNamespaceScope tree code ns with
        | .error err => .error err
        | .ok () => .ok (.rollback code ns name (Validation.atoiValue revision))

def Operation.run (host : Host) : Operation → Run
  | .install inp => Helm.install host inp
  | .uninstall code ns name => Helm.uninstall host code ns name
  | .rollback code ns name revision => Helm.rollback host code ns name revision

/-- The answer of a handler; an install keeps a coded error, the others wrap every error. -/
def Operation.answer (op : Operation) (run : Run) : Except Error String :=
  match op, run.result with
  | _, .ok out => .ok out
  | .install _, .error (.coded err) => .error err
  | .install _, .error (.plain text) => .error (.wrapMsg .internal text "Helm install/upgrade 失败")
  | op, .error err =>
      let text := match err with
        | .coded err => err.text
        | .plain text => text
      let message := match op with
        | .rollback .. => "Helm rollback 失败"
        | _ => "Helm uninstall 失败"
      .error (.wrapMsg .internal text message)

end K8sPlatform.Helm
