import K8sPlatform.Crypto.AesGcm
import K8sPlatform.Kubeconfig.Parser

/-! # The table of clusters, and the manager's operations on it -/

namespace K8sPlatform.Clusters

open Errcode Crypto
open Kubeconfig (Clientcmd Ranging RestConfig)

/-- `deleted` is whether `deleted_at` is set. -/
structure Cluster where
  name : String
  code : String
  creatorId : Nat
  kubeconfig : Bytes
  apiServer : String
  description : String
  labels : String
  deleted : Bool
  deriving DecidableEq, Repr

abbrev Table := List Cluster

/-- What gorm's `First` by code finds: soft-deleted rows are left out. -/
def Table.find (t : Table) (code : String) : Option Cluster :=
  t.find? fun c => c.code == code && !c.deleted

def duplicateKey (index : String) : String :=
  "ERROR: duplicate key value violates unique constraint \"" ++ index ++ "\" (SQLSTATE 23505)"

def valueTooLong (size : Nat) : String :=
  "ERROR: value too long for type character varying(" ++ toString size ++ ") (SQLSTATE 22001)"

/-- What the database says to a row beside the others: names and codes are unique, those of
soft-deleted rows included, and the columns have their sizes. -/
def Table.refusal (others : Table) (c : Cluster) : Option String :=
  if others.any (·.name == c.name) then some (duplicateKey "idx_cluster_name")
  else if others.any (·.code == c.code) then some (duplicateKey "idx_cluster_code")
  else if 64 < c.name.length ∨ 64 < c.code.length then some (valueTooLong 64)
  else if 256 < c.apiServer.length then some (valueTooLong 256)
  else if 512 < c.description.length then some (valueTooLong 512)
  else none

/-- The additional data that a kubeconfig is encrypted with. -/
def aadOf (code : String) (creatorId : Nat) : String := code ++ toString creatorId

/-- The copy of a row that is returned to callers. -/
def Cluster.withoutKubeconfig (c : Cluster) : Cluster := { c with kubeconfig := [] }

structure Libraries where
  gcm : Gcm
  clientcmd : Clientcmd

variable (lib : Libraries) (kms : AESGCM) (x : Ranging) (nonce : Nonce)

def importCluster (t : Table) (name code : String) (rawKubeconfig : Bytes) (creatorId : Nat) :
    Except Error Cluster × Table :=
  if code = "" ∨ name = "" then (.error (.new .invalidArgument "name 和 code 不能为空"), t)
  else if rawKubeconfig.isEmpty then (.error (.new .invalidArgument "kubeconfig 不能为空"), t)
  else if t.any fun c => c.code == code && !c.deleted then
    (.error (.new .alreadyExists ("集群 code " ++ Text.quote code ++ " 已存在")), t)
  else if t.any fun c => c.name == name && !c.deleted then
    (.error (.new .alreadyExists ("集群 name " ++ Text.quote name ++ " 已存在")), t)
  else
    match Kubeconfig.parse lib.clientcmd x rawKubeconfig with
    | .error err => (.error err, t)
    | .ok parsed =>
        let cluster : Cluster :=
          { name, code, creatorId
            kubeconfig := kms.encrypt lib.gcm nonce rawKubeconfig (aadOf code creatorId)
            apiServer := parsed.apiServer
            description := ""
            labels := "\x7b\x7d"
            deleted := false }
        match t.refusal cluster with
        | some err => (.error (.wrapMsg .databaseError err "保存集群记录失败"), t)
        | none => (.ok cluster.withoutKubeconfig, t ++ [cluster])

/-- `labels` are the labels of the request, if it has any: `none` when they do not decode. -/
structure UpdateInput where
  name : Option String
  description : Option String
  newRawKubeconfig : Bytes
  labels : Option (Option String)
  deriving DecidableEq, Repr

/-- The columns that an `Update` writes. The three of a kubeconfig are written together. -/
structure Updates where
  name : Option String
  description : Option String
  labels : Option String
  kubeconfig : Option (Bytes × String × Nat)
  deriving DecidableEq, Repr

def Updates.isEmpty (u : Updates) : Bool :=
  u.name.isNone && u.description.isNone && u.labels.isNone && u.kubeconfig.isNone

def Updates.apply (u : Updates) (c : Cluster) : Cluster :=
  let c := { c with
    name := u.name.getD c.name
    description := u.description.getD c.description
    labels := u.labels.getD c.labels }
  match u.kubeconfig with
  | none => c
  | some (kubeconfig, apiServer, creatorId) => { c with kubeconfig, apiServer, creatorId }

/-- The checks of `Update` up to its first `SELECT`. -/
def admitUpdate (t : Table) (clusterCode : String) (input : Option UpdateInput) :
    Except Error UpdateInput :=
  if clusterCode = "" then .error (.new .invalidArgument "cluster code 不能为空")
  else
    match input with
    | none => .error (.new .invalidArgument "更新内容为空")
    | some input =>
        if (t.find clusterCode).isNone then .error (.new .notFound "集群不存在") else .ok input

/-- What `Update` writes; the rows with the new name are counted. -/
def collectUpdates (t : Table) (clusterCode : String) (input : UpdateInput) (operatorId : Nat) :
    Except Error Updates :=
  let name := input.name.filter (· != "")
  if t.any fun c => name == some c.name && c.code != clusterCode && !c.deleted then
    .error (.new .alreadyExists ("集群 name " ++ Text.quote (name.getD "") ++ " 已被占用"))
  else
    let updates : Updates :=
      { name, description := input.description, labels := input.labels.join, kubeconfig := none }
    if input.newRawKubeconfig.isEmpty then
      if updates.isEmpty then .error (.new .invalidArgument "没有任何需要更新的字段")
      else .ok updates
    else
      match Kubeconfig.parse lib.clientcmd x input.newRawKubeconfig with
      | .error err => .error err
      | .ok parsed =>
          .ok { updates with
            kubeconfig := some
              (kms.encrypt lib.gcm nonce input.newRawKubeconfig (aadOf clusterCode operatorId),
                parsed.apiServer, operatorId) }

/-- The updates applied to the live row of a code. -/
def Table.set (t : Table) (code : String) (u : Updates) : Table :=
  t.map fun r => if r.code = code ∧ r.deleted = false then u.apply r else r

/-- The `UPDATE` of the live row of a code. -/
def Table.update (t : Table) (code : String) (u : Updates) : Except String Table :=
  match t.find code with
  | none => .ok t
  | some c =>
      match Table.refusal (t.filter (·.code ≠ code)) (u.apply c) with
      | some err => .error err
      | none => .ok (t.set code u)

def update (t : Table) (clusterCode : String) (input : Option UpdateInput) (operatorId : Nat) :
    Except Error Cluster × Table :=
  match admitUpdate t clusterCode input with
  | .error err => (.error err, t)
  | .ok input =>
      match collectUpdates lib kms x nonce t clusterCode input operatorId with
      | .error err => (.error err, t)
      | .ok updates =>
          match t.update clusterCode updates with
          | .error err => (.error (.wrap .databaseError err), t)
          | .ok t' =>
              match t'.find clusterCode with
              | none => (.error (.wrap .databaseError "record not found"), t')
              | some c => (.ok c.withoutKubeconfig, t')

/-- The soft delete of a code; the count of its rows decides about the answer. -/
def Table.delete (t : Table) (code : String) : Table :=
  t.map fun r => if r.code = code then { r with deleted := true } else r

def delete (t : Table) (clusterCode : String) : Except Error Unit × Table :=
  if clusterCode = "" then (.error (.new .invalidArgument "cluster code 不能为空"), t)
  else if (t.find clusterCode).isNone then (.error (.new .notFound "集群不存在"), t)
  else (.ok (), t.delete clusterCode)

def decryptAndBuildConfig (t : Table) (clusterCode : String) :
    Except Error (RestConfig × Bytes) :=
  match t.find clusterCode with
  | none => .error (.new .notFound "集群不存在")
  | some c =>
    if c.kubeconfig.isEmpty then .error (.new .kubeconfigInvalid "集群无已存储 kubeconfig")
    else
      match kms.decrypt lib.gcm c.kubeconfig (aadOf c.code c.creatorId) with
      | .error err => .error err
      | .ok plain =>
        match Kubeconfig.parse lib.clientcmd x plain with
        | .error err => .error err
        | .ok parsed => .ok (parsed.restConfig, plain)

/-! ## What the operations do to the table -/

variable {lib kms x nonce} {t t' : Table}

theorem find_some {code : String} {c : Cluster} (found : t.find code = some c) :
    c ∈ t ∧ c.code = code ∧ c.deleted = false := by
  have sat := List.find?_some found
  simp only [Bool.and_eq_true, beq_iff_eq, Bool.not_eq_true'] at sat
  exact ⟨List.mem_of_find?_eq_some found, sat⟩

theorem code_not_mem_of_refusal {c : Cluster} (accepted : t.refusal c = none) :
    c.code ∉ t.map (·.code) := by
  unfold Table.refusal at accepted
  split_ifs at accepted with name code
  intro mem
  obtain ⟨other, there, same⟩ := List.mem_map.1 mem
  exact code (List.any_eq_true.2 ⟨other, there, by simp [same]⟩)

/-- The row that an import adds. -/
structure Imports (lib : Libraries) (kms : AESGCM) (x : Ranging) (nonce : Nonce) (t : Table)
    (code : String) (raw : Bytes) (creatorId : Nat) (c : Cluster) : Prop where
  named : code ≠ ""
  fresh : code ∉ t.map (·.code)
  accepted : ∃ parsed, Kubeconfig.parse lib.clientcmd x raw = .ok parsed ∧
    c.apiServer = parsed.apiServer
  code_eq : c.code = code
  creatorId_eq : c.creatorId = creatorId
  kubeconfig : c.kubeconfig = kms.encrypt lib.gcm nonce raw (aadOf code creatorId)
  live : c.deleted = false

/-- An import fails, or adds a row under a new code. -/
theorem importCluster_cases (lib : Libraries) (kms : AESGCM) (x : Ranging) (nonce : Nonce)
    (t : Table) (name code : String) (raw : Bytes) (creatorId : Nat) :
    (∃ err, importCluster lib kms x nonce t name code raw creatorId = (.error err, t)) ∨
      ∃ c, importCluster lib kms x nonce t name code raw creatorId =
        (.ok c.withoutKubeconfig, t ++ [c]) ∧ Imports lib kms x nonce t code raw creatorId c := by
  unfold importCluster
  by_cases empty : code = "" ∨ name = ""
  · exact .inl ⟨_, if_pos empty⟩
  rw [if_neg empty]
  by_cases noConfig : raw.isEmpty = true
  · exact .inl ⟨_, if_pos noConfig⟩
  rw [if_neg noConfig]
  by_cases codeTaken : (t.any fun c => c.code == code && !c.deleted) = true
  · exact .inl ⟨_, if_pos codeTaken⟩
  rw [if_neg codeTaken]
  by_cases nameTaken : (t.any fun c => c.name == name && !c.deleted) = true
  · exact .inl ⟨_, if_pos nameTaken⟩
  rw [if_neg nameTaken]
  cases accepted : Kubeconfig.parse lib.clientcmd x raw with
  | error err => exact .inl ⟨_, rfl⟩
  | ok parsed =>
      dsimp only
      split
      · exact .inl ⟨_, rfl⟩
      case h_2 fits =>
        exact .inr ⟨_, rfl, fun none => empty (.inl none), code_not_mem_of_refusal fits,
          ⟨parsed, accepted, rfl⟩, rfl, rfl, rfl, rfl⟩

theorem admitUpdate_ok {code : String} {input : Option UpdateInput} {i : UpdateInput}
    (ok : admitUpdate t code input = .ok i) : input = some i ∧ ∃ c, t.find code = some c := by
  unfold admitUpdate at ok
  by_cases empty : code = ""
  · simp [empty] at ok
  rw [if_neg empty] at ok
  cases input with
  | none => cases ok
  | some i' =>
      cases found : t.find code with
      | none => simp [found] at ok
      | some c =>
          rw [found] at ok
          obtain rfl : i' = i := Except.ok.inj ok
          exact ⟨rfl, c, rfl⟩

/-- The columns of a kubeconfig are written when there is one. -/
structure Prepares (lib : Libraries) (kms : AESGCM) (x : Ranging) (nonce : Nonce) (code : String)
    (raw : Bytes) (operatorId : Nat) (u : Updates) : Prop where
  kept : raw = [] → u.kubeconfig = none
  written : raw ≠ [] → ∃ parsed, Kubeconfig.parse lib.clientcmd x raw = .ok parsed ∧
    u.kubeconfig = some (kms.encrypt lib.gcm nonce raw (aadOf code operatorId), parsed.apiServer,
      operatorId)

theorem collectUpdates_ok {code : String} {input : UpdateInput} {operatorId : Nat} {u : Updates}
    (ok : collectUpdates lib kms x nonce t code input operatorId = .ok u) :
    Prepares lib kms x nonce code input.newRawKubeconfig operatorId u := by
  unfold collectUpdates at ok
  dsimp only at ok
  split_ifs at ok with taken noConfig nothing
  · obtain rfl := Except.ok.inj ok
    have none_ : input.newRawKubeconfig = [] := List.isEmpty_iff.1 noConfig
    exact ⟨fun _ => rfl, fun some_ => absurd none_ some_⟩
  · have some_ : input.newRawKubeconfig ≠ [] := fun none_ => noConfig (List.isEmpty_iff.2 none_)
    cases accepted : Kubeconfig.parse lib.clientcmd x input.newRawKubeconfig with
    | error err => simp [accepted] at ok
    | ok parsed =>
        rw [accepted] at ok
        obtain rfl := Except.ok.inj ok
        exact ⟨fun none_ => absurd none_ some_, fun _ => ⟨parsed, accepted, rfl⟩⟩

@[simp] theorem apply_code (u : Updates) (c : Cluster) : (u.apply c).code = c.code := by
  unfold Updates.apply
  cases u.kubeconfig <;> rfl

@[simp] theorem apply_deleted (u : Updates) (c : Cluster) :
    (u.apply c).deleted = c.deleted := by
  unfold Updates.apply
  cases u.kubeconfig <;> rfl

theorem apply_kept {u : Updates} (kept : u.kubeconfig = none) (c : Cluster) :
    (u.apply c).kubeconfig = c.kubeconfig ∧ (u.apply c).apiServer = c.apiServer ∧
      (u.apply c).creatorId = c.creatorId := by
  simp [Updates.apply, kept]

theorem apply_written {u : Updates} {kubeconfig : Bytes} {apiServer : String} {creatorId : Nat}
    (written : u.kubeconfig = some (kubeconfig, apiServer, creatorId)) (c : Cluster) :
    (u.apply c).kubeconfig = kubeconfig ∧ (u.apply c).apiServer = apiServer ∧
      (u.apply c).creatorId = creatorId := by
  simp [Updates.apply, written]

theorem find_set {code : String} {c : Cluster} (found : t.find code = some c) (u : Updates) :
    (t.set code u).find code = some (u.apply c) := by
  have same : ((fun r : Cluster => r.code == code && !r.deleted) ∘ fun r =>
      if r.code = code ∧ r.deleted = false then u.apply r else r) =
        fun r => r.code == code && !r.deleted := by
    funext r
    by_cases is : r.code = code ∧ r.deleted = false
    · simp [is]
    · simp [is]
  obtain ⟨-, named, live⟩ := find_some found
  unfold Table.find at found
  rw [Table.find, Table.set, List.find?_map, same, found, Option.map_some,
    if_pos ⟨named, live⟩]

/-- An update fails, or applies what it has collected to the live row of its code. -/
theorem update_cases (lib : Libraries) (kms : AESGCM) (x : Ranging) (nonce : Nonce) (t : Table)
    (code : String) (input : Option UpdateInput) (operatorId : Nat) :
    (∃ err, update lib kms x nonce t code input operatorId = (.error err, t)) ∨
      ∃ c i u, input = some i ∧ Prepares lib kms x nonce code i.newRawKubeconfig operatorId u ∧
        update lib kms x nonce t code input operatorId = (.ok c, t.set code u) := by
  unfold update
  cases admitted : admitUpdate t code input with
  | error err => exact .inl ⟨err, rfl⟩
  | ok i =>
  dsimp only
  cases collected : collectUpdates lib kms x nonce t code i operatorId with
  | error err => exact .inl ⟨err, rfl⟩
  | ok u =>
  obtain ⟨given, c, found⟩ := admitUpdate_ok admitted
  dsimp only
  unfold Table.update
  rw [found]
  dsimp only
  cases refused : Table.refusal (t.filter (·.code ≠ code)) (u.apply c) with
  | some err => exact .inl ⟨_, rfl⟩
  | none =>
      dsimp only
      rw [find_set found u]
      exact .inr ⟨_, i, u, given, collectUpdates_ok collected, rfl⟩

theorem delete_cases (t : Table) (code : String) :
    (∃ err, delete t code = (.error err, t)) ∨ delete t code = (.ok (), t.delete code) := by
  unfold delete
  split_ifs
  · exact .inl ⟨_, rfl⟩
  · exact .inl ⟨_, rfl⟩
  · exact .inr rfl

def demo : Libraries := ⟨spelledGcm, Kubeconfig.threeContextsClientcmd⟩

def demoKey (b : UInt8) : Key := ⟨List.replicate 32 b, List.length_replicate⟩

def demoNonce : Nonce := ⟨List.replicate 12 0, List.length_replicate⟩

end K8sPlatform.Clusters
