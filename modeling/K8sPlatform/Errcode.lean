import Mathlib.Logic.Basic

namespace K8sPlatform.Errcode

/-- The codes of `pkg/errcode`, by their source names. -/
inductive Code
  | invalidArgument | unauthenticated | tokenExpired | permissionDenied | scopeDenied
  | notFound | alreadyExists
  | clusterConnectFail | kubeconfigInvalid
  | k8sAPIError | k8sAPIRateLimited
  | versionNotFound | versionRollbackFail
  | backupNotFound | backupRestoreFail | backupStorageError
  | pluginNotLoaded | pluginInvokeFail
  | internal | databaseError | redisError | kmsDecryptFail
  deriving DecidableEq, Repr

def Code.value : Code → Nat
  | .invalidArgument => 40001
  | .unauthenticated => 40101
  | .tokenExpired => 40102
  | .permissionDenied => 40301
  | .scopeDenied => 40302
  | .notFound => 40401
  | .alreadyExists => 40901
  | .clusterConnectFail => 51001
  | .kubeconfigInvalid => 51003
  | .k8sAPIError => 51101
  | .k8sAPIRateLimited => 51102
  | .versionNotFound => 52001
  | .versionRollbackFail => 52002
  | .backupNotFound => 53001
  | .backupRestoreFail => 53002
  | .backupStorageError => 53003
  | .pluginNotLoaded => 54001
  | .pluginInvokeFail => 54002
  | .internal => 50001
  | .databaseError => 50002
  | .redisError => 50003
  | .kmsDecryptFail => 50004

def Code.msg : Code → String
  | .invalidArgument => "请求参数错误"
  | .unauthenticated => "未认证或登录已失效"
  | .tokenExpired => "Token 已过期"
  | .permissionDenied => "无权限执行该操作"
  | .scopeDenied => "无权访问该集群/命名空间"
  | .notFound => "请求资源不存在"
  | .alreadyExists => "资源已存在"
  | .clusterConnectFail => "集群连接失败，请检查网络或 kubeconfig"
  | .kubeconfigInvalid => "kubeconfig 格式无效或缺失必要字段"
  | .k8sAPIError => "Kubernetes API 请求失败"
  | .k8sAPIRateLimited => "集群 API Server 繁忙，请求已限流，请稍后重试"
  | .versionNotFound => "指定的版本历史不存在"
  | .versionRollbackFail => "版本回滚失败"
  | .backupNotFound => "备份记录不存在"
  | .backupRestoreFail => "从备份恢复失败"
  | .backupStorageError => "备份存储访问失败"
  | .pluginNotLoaded => "插件未启用或加载失败"
  | .pluginInvokeFail => "插件执行失败"
  | .internal => "服务器内部错误"
  | .databaseError => "数据库访问异常"
  | .redisError => "缓存访问异常"
  | .kmsDecryptFail => "凭证解密失败，请检查密钥配置"

/-- `details` is the text of a wrapped error. -/
structure Error where
  code : Code
  message : String
  details : Option String
  deriving DecidableEq, Repr

def Error.ofCode (code : Code) : Error := ⟨code, code.msg, none⟩

def Error.new (code : Code) (message : String) : Error := ⟨code, message, none⟩

def Error.wrap (code : Code) (err : String) : Error := ⟨code, code.msg, some err⟩

def Error.wrapMsg (code : Code) (err message : String) : Error := ⟨code, message, some err⟩

/-- The text of an error, `[code] message`. -/
def Error.text (e : Error) : String := "[" ++ toString e.code.value ++ "] " ++ e.message

end K8sPlatform.Errcode
