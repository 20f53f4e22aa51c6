import K8sPlatform.Lib.Transition
import K8sPlatform.Cluster.Manager

/-! # Stored kubeconfigs across key rotations -/

namespace K8sPlatform.Clusters

open Errcode Crypto
open Kubeconfig (Clientcmd Ranging RestConfig)

/-- A kubeconfig that was written, the key that encrypted it, and the key rotations since. -/
structure Written where
  raw : Bytes
  key : Key
  rotations : Nat
  deriving DecidableEq

/-- The table and the keys, with what was last written for each code. -/
structure History where
  table : Table
  kms : AESGCM
  written : String → Option Written

def History.start (kms : AESGCM) : History := ⟨[], kms, fun _ => none⟩

inductive HistoryStep
  | importCluster (x : Ranging) (nonce : Nonce) (name code : String) (raw : Bytes)
      (creatorId : Nat)
  | update (x : Ranging) (nonce : Nonce) (code : String) (input : Option UpdateInput)
      (operatorId : Nat)
  | delete (code : String)
  | rotate (key : Key)

namespace History

/-- The kubeconfig is the last one written for the code. -/
def record (h : History) (code : String) (raw : Bytes) : History :=
  { h with written := Function.update h.written code (some ⟨raw, h.kms.key, 0⟩) }

variable (lib : Libraries)

def next (h : History) : HistoryStep → History
  | .importCluster x nonce name code raw creatorId =>
      match importCluster lib h.kms x nonce h.table name code raw creatorId with
      | (.error _, t) => { h with table := t }
      | (.ok _, t) => { h with table := t }.record code raw
  | .update x nonce code input operatorId =>
      match Clusters.update lib h.kms x nonce h.table code input operatorId with
      | (.error _, t) => { h with table := t }
      | (.ok _, t) =>
          match input.map (·.newRawKubeconfig) with
          | some (b :: bs) => { h with table := t }.record code (b :: bs)
          | _ => { h with table := t }
  | .delete code => { h with table := (Clusters.delete h.table code).2 }
  | .rotate key =>
      { h with
        kms := h.kms.rotate key
        written := fun code =>
          (h.written code).map fun w => { w with rotations := w.rotations + 1 } }

/-- Any imports, updates, deletions and key rotations, from an empty table. -/
def runs (kms : AESGCM) : Transition.System History HistoryStep :=
  .ofFn (· = start kms) (next lib)

end History

/-! ## What the rows hold -/

/-- Up to one rotation the key is still there. -/
structure Written.Recent (w : Written) (kms : AESGCM) : Prop where
  current : w.rotations = 0 → w.key = kms.key
  previous : w.rotations = 1 → kms.previous = some w.key

theorem Written.Recent.tried {w : Written} {kms : AESGCM} (recent : w.Recent kms)
    (rotations : w.rotations ≤ 1) : w.key ∈ kms.keysToTry := by
  rw [AESGCM.keysToTry, List.mem_cons, Option.mem_toList]
  rcases Nat.le_one_iff_eq_zero_or_eq_one.1 rotations with zero | one
  · exact .inl (recent.current zero)
  · exact .inr (recent.previous one)

/-- The row holds an accepted kubeconfig, encrypted for its own code and creator. -/
structure Stores (lib : Libraries) (c : Cluster) (w : Written) : Prop where
  kubeconfig : ∃ nonce, c.kubeconfig =
    blob lib.gcm w.key nonce w.raw (aadOf c.code c.creatorId)
  accepted : ∃ x parsed, Kubeconfig.parse lib.clientcmd x w.raw = .ok parsed ∧
    c.apiServer = parsed.apiServer

/-- A read gives the bytes that the row stores, while their key is tried and they parse. -/
theorem Stores.decryptAndBuildConfig {lib : Libraries} (sound : Sound lib.gcm) {c : Cluster}
    {w : Written} (stores : Stores lib c w) {t : Table} {code : String}
    (found : t.find code = some c) {kms : AESGCM} {x : Ranging} {cfg : RestConfig} {plain : Bytes} :
    decryptAndBuildConfig lib kms x t code = .ok (cfg, plain) ↔ w.key ∈ kms.keysToTry ∧
      plain = w.raw ∧ ∃ parsed, Kubeconfig.parse lib.clientcmd x w.raw = .ok parsed ∧
        parsed.restConfig = cfg := by
  obtain ⟨nonce, kubeconfig⟩ := stores.kubeconfig
  unfold Clusters.decryptAndBuildConfig
  rw [found]
  dsimp only
  rw [kubeconfig, blob_isEmpty, if_neg Bool.false_ne_true]
  constructor
  · intro ok
    split at ok
    · cases ok
    case h_2 plain' decrypts =>
      obtain ⟨tried, -, rfl⟩ := (AESGCM.decrypt_blob sound).1 decrypts
      split at ok
      · cases ok
      case h_2 parsed parses =>
        obtain ⟨rfl, rfl⟩ := Prod.mk.inj (Except.ok.inj ok)
        exact ⟨tried, rfl, parsed, parses, rfl⟩
  · rintro ⟨tried, rfl, parsed, parses, rfl⟩
    rw [(AESGCM.decrypt_blob sound).2 ⟨tried, rfl, rfl⟩]
    dsimp only
    rw [parses]

namespace History

structure Inv (lib : Libraries) (h : History) : Prop where
  recent : ∀ code w, h.written code = some w → w.Recent h.kms
  stores : ∀ c ∈ h.table, c.deleted = false → ∃ w, h.written c.code = some w ∧ Stores lib c w

variable {lib : Libraries} {h : History}

theorem Inv.start (kms : AESGCM) : (start kms).Inv lib where
  recent _ _ written := by cases written
  stores _ mem := absurd mem List.not_mem_nil

/-- A row for the kubeconfig that is recorded, and the other live rows under other codes. -/
theorem Inv.record (inv : h.Inv lib) {t : Table} {code : String} {raw : Bytes}
    (rows : ∀ c ∈ t, c.deleted = false →
      (c.code = code ∧ Stores lib c ⟨raw, h.kms.key, 0⟩) ∨ (c.code ≠ code ∧ c ∈ h.table)) :
    (History.record { h with table := t } code raw).Inv lib where
  recent := by
    intro code' w written
    by_cases same : code' = code
    · subst same
      obtain rfl : ⟨raw, h.kms.key, 0⟩ = w := by simpa [History.record] using written
      exact ⟨fun _ => rfl, fun one => by cases one⟩
    · exact inv.recent code' w (by simpa [History.record, same] using written)
  stores := by
    intro c mem live
    rcases rows c mem live with ⟨same, stores⟩ | ⟨other, old⟩
    · exact ⟨⟨raw, h.kms.key, 0⟩, by simp [History.record, same], stores⟩
    · obtain ⟨w, written, stores⟩ := inv.stores c old live
      exact ⟨w, by simpa [History.record, other] using written, stores⟩

theorem Inv.importCluster (inv : h.Inv lib) (x : Ranging) (nonce : Nonce) (name code : String)
    (raw : Bytes) (creatorId : Nat) :
    (h.next lib (.importCluster x nonce name code raw creatorId)).Inv lib := by
  unfold next
  obtain ⟨err, fails⟩ | ⟨c, adds, imports⟩ :=
    importCluster_cases lib h.kms x nonce h.table name code raw creatorId
  · simp only [fails]
    exact inv
  · simp only [adds]
    apply inv.record
    intro r mem _
    rcases List.mem_append.1 mem with old | new
    · refine .inr ⟨fun same => imports.fresh (List.mem_map.2 ⟨r, old, same⟩), old⟩
    · obtain rfl := List.mem_singleton.1 new
      refine .inl ⟨imports.code_eq, ⟨nonce, ?_⟩, ?_⟩
      · rw [imports.kubeconfig, imports.code_eq, imports.creatorId_eq]
        rfl
      · obtain ⟨parsed, accepted, server⟩ := imports.accepted
        exact ⟨x, parsed, accepted, server⟩

/-- A row after an update is the updated live row of the code, or has not changed. -/
theorem mem_set {t : Table} {code : String} {u : Updates} {r : Cluster} (mem : r ∈ t.set code u) :
    (∃ c ∈ t, c.code = code ∧ c.deleted = false ∧ r = u.apply c) ∨
      (r ∈ t ∧ ¬(r.code = code ∧ r.deleted = false)) := by
  obtain ⟨c, old, rfl⟩ := List.mem_map.1 mem
  by_cases is : c.code = code ∧ c.deleted = false
  · rw [if_pos is]
    exact .inl ⟨c, old, is.1, is.2, rfl⟩
  · rw [if_neg is]
    exact .inr ⟨old, is⟩

/-- An update without a kubeconfig. -/
theorem Inv.setKept (inv : h.Inv lib) {code : String} {u : Updates} (kept : u.kubeconfig = none) :
    Inv lib { h with table := h.table.set code u } where
  recent := inv.recent
  stores := by
    intro r mem live
    rcases mem_set mem with ⟨c, old, -, live', rfl⟩ | ⟨old, -⟩
    · obtain ⟨w, written, stores⟩ := inv.stores c old live'
      obtain ⟨kubeconfig, apiServer, creatorId⟩ := apply_kept kept c
      refine ⟨w, by rwa [apply_code], ?_, ?_⟩
      · rw [kubeconfig, apply_code, creatorId]
        exact stores.kubeconfig
      · rw [apiServer]
        exact stores.accepted
    · exact inv.stores r old live

theorem Inv.update (inv : h.Inv lib) (x : Ranging) (nonce : Nonce) (code : String)
    (input : Option UpdateInput) (operatorId : Nat) :
    (h.next lib (.update x nonce code input operatorId)).Inv lib := by
  unfold next
  obtain ⟨err, fails⟩ | ⟨c, i, u, rfl, prepares, writes⟩ :=
    update_cases lib h.kms x nonce h.table code input operatorId
  · simp only [fails]
    exact inv
  · simp only [writes, Option.map_some]
    cases given : i.newRawKubeconfig with
    | nil => exact inv.setKept (prepares.kept given)
    | cons b bs =>
        obtain ⟨parsed, accepted, written⟩ := prepares.written (by simp [given])
        rw [given] at accepted written
        apply inv.record
        intro r mem live
        rcases mem_set mem with ⟨c, old, named, -, rfl⟩ | ⟨old, not⟩
        · obtain ⟨kubeconfig, apiServer, creatorId⟩ := apply_written written c
          refine .inl ⟨by rwa [apply_code], ⟨nonce, ?_⟩, x, parsed, accepted, apiServer⟩
          rw [kubeconfig, apply_code, named, creatorId]
          rfl
        · exact .inr ⟨fun same => not ⟨same, live⟩, old⟩

theorem Inv.delete (inv : h.Inv lib) (code : String) : (h.next lib (.delete code)).Inv lib := by
  unfold next
  obtain ⟨err, fails⟩ | deletes := delete_cases h.table code
  · simp only [fails]
    exact inv
  · simp only [deletes]
    refine ⟨inv.recent, fun r mem live => ?_⟩
    obtain ⟨c, old, rfl⟩ := List.mem_map.1 mem
    by_cases named : c.code = code
    · rw [if_pos named] at live
      cases live
    · rw [if_neg named] at live ⊢
      exact inv.stores c old live

theorem Inv.rotate (inv : h.Inv lib) (key : Key) : (h.next lib (.rotate key)).Inv lib where
  recent := by
    intro code _ rotated
    obtain ⟨w, written, rfl⟩ := Option.map_eq_some_iff.1 rotated
    refine ⟨fun zero => absurd zero (Nat.succ_ne_zero _), fun one => ?_⟩
    rw [(inv.recent code w written).current (Nat.succ.inj one)]
    rfl
  stores := by
    intro c mem live
    obtain ⟨w, written, stores⟩ := inv.stores c mem live
    exact ⟨{ w with rotations := w.rotations + 1 }, by simp [next, written], stores.kubeconfig,
      stores.accepted⟩

theorem Inv.next (inv : h.Inv lib) (e : HistoryStep) : (h.next lib e).Inv lib := by
  cases e with
  | importCluster x nonce name code raw creatorId =>
      exact inv.importCluster x nonce name code raw creatorId
  | update x nonce code input operatorId => exact inv.update x nonce code input operatorId
  | delete code => exact inv.delete code
  | rotate key => exact inv.rotate key

theorem invariant (lib : Libraries) (kms : AESGCM) :
    Transition.Invariant (runs lib kms) (Inv lib) where
  init := by
    rintro h rfl
    exact .start kms
  step := by
    rintro h e h' inv rfl
    exact inv.next e

/-- Every row that is found holds what was last written for its code. -/
theorem stores_of_found {kms : AESGCM} (reach : Transition.Reachable (runs lib kms) h)
    {code : String} {c : Cluster} (found : h.table.find code = some c) :
    ∃ w, h.written code = some w ∧ w.Recent h.kms ∧ Stores lib c w := by
  have inv := (invariant lib kms).holds reach
  obtain ⟨mem, rfl, live⟩ := find_some found
  obtain ⟨w, written, stores⟩ := inv.stores c mem live
  exact ⟨w, written, inv.recent c.code w written, stores⟩

/-- Up to one rotation a read gives the bytes last written, and no others, just when the context
that it picks is complete; and a blob that was not encrypted for its additional data gives none. -/
theorem stored_readable_iff (sound : Sound lib.gcm) {kms : AESGCM}
    (reach : Transition.Reachable (runs lib kms) h) {code : String} {c : Cluster} {w : Written}
    (found : h.table.find code = some c) (written : h.written code = some w)
    (rotations : w.rotations ≤ 1) (x : Ranging) :
    ((∃ cfg, decryptAndBuildConfig lib h.kms x h.table code = .ok (cfg, w.raw)) ↔
      lib.clientcmd.PicksComplete x w.raw) ∧
    (∀ cfg plain, decryptAndBuildConfig lib h.kms x h.table code = .ok (cfg, plain) →
      plain = w.raw) ∧
    ∀ cipherblob aad, ¬h.kms.Makes lib.gcm cipherblob aad →
      ∃ err, h.kms.decrypt lib.gcm cipherblob aad = .error err := by
  obtain ⟨w', written', recent, stores⟩ := stores_of_found reach found
  obtain rfl : w' = w := Option.some.inj (written'.symm.trans written)
  have read (cfg : RestConfig) (plain : Bytes) :
      decryptAndBuildConfig lib h.kms x h.table code = .ok (cfg, plain) ↔ _ :=
    stores.decryptAndBuildConfig sound found
  refine ⟨?_, fun cfg plain ok => ((read cfg plain).1 ok).2.1,
    fun cipherblob aad forged => AESGCM.decrypt_forged sound forged⟩
  obtain ⟨x', parsed, accepted, -⟩ := stores.accepted
  rw [← Kubeconfig.parse_again_iff accepted]
  constructor
  · rintro ⟨cfg, ok⟩
    obtain ⟨-, -, parsed', parses, -⟩ := (read cfg w'.raw).1 ok
    exact ⟨parsed', parses⟩
  · rintro ⟨parsed', parses⟩
    exact ⟨parsed'.restConfig,
      (read parsed'.restConfig w'.raw).2 ⟨recent.tried rotations, rfl, parsed', parses, rfl⟩⟩

end History

open Kubeconfig (threeContextsFile)

/-- User 7 imports the file while the context east comes first. -/
def importProd : HistoryStep :=
  .importCluster (.first "east") demoNonce "prod" "prod" threeContextsFile 7

def prodRow : Cluster where
  name := "prod"
  code := "prod"
  creatorId := 7
  kubeconfig := blob spelledGcm (demoKey 1) demoNonce threeContextsFile "prod7"
  apiServer := "https://10.0.0.1:6443"
  description := ""
  labels := "\x7b\x7d"
  deleted := false

namespace History

def imported : History := Transition.exec (next demo) (start ⟨demoKey 1, none⟩) [importProd]

def rotated : History := imported.next demo (.rotate (demoKey 2))

theorem imported_reachable : Transition.Reachable (runs demo ⟨demoKey 1, none⟩) imported :=
  .exec [importProd] (.init rfl)

theorem imported_find : imported.table.find "prod" = some prodRow := by decide +kernel

theorem imported_written : imported.written "prod" = some ⟨threeContextsFile, demoKey 1, 0⟩ := by
  decide +kernel

theorem rotated_reachable : Transition.Reachable (runs demo ⟨demoKey 1, none⟩) rotated :=
  .step imported_reachable rfl

theorem rotated_find : rotated.table.find "prod" = some prodRow := by decide +kernel

theorem rotated_written : rotated.written "prod" = some ⟨threeContextsFile, demoKey 1, 1⟩ := by
  decide +kernel

/-- No rotation at all, and a read that picks the context draft. -/
theorem draft_unreadable : Transition.Reachable (runs demo ⟨demoKey 1, none⟩) imported ∧
    imported.table.find "prod" = some prodRow ∧
    imported.written "prod" = some ⟨threeContextsFile, demoKey 1, 0⟩ ∧
    ∃ err, decryptAndBuildConfig demo imported.kms (.first "draft") imported.table "prod" =
      .error err := by
  have fails : (decryptAndBuildConfig demo imported.kms (.first "draft") imported.table
      "prod").toOption.isNone = true := by decide +kernel
  refine ⟨imported_reachable, imported_find, imported_written, ?_⟩
  cases read : decryptAndBuildConfig demo imported.kms (.first "draft") imported.table "prod" with
  | error err => exact ⟨err, rfl⟩
  | ok cfg =>
      rw [read] at fails
      cases fails

/-- One rotation after the import, and a read that picks the context west. -/
theorem rotated_readable :
    ((∃ cfg, decryptAndBuildConfig demo rotated.kms (.first "west") rotated.table "prod" =
        .ok (cfg, threeContextsFile)) ↔
      demo.clientcmd.PicksComplete (.first "west") threeContextsFile) ∧
    (∀ cfg plain, decryptAndBuildConfig demo rotated.kms (.first "west") rotated.table "prod" =
      .ok (cfg, plain) → plain = threeContextsFile) ∧
    ∀ cipherblob aad, ¬rotated.kms.Makes demo.gcm cipherblob aad →
      ∃ err, rotated.kms.decrypt demo.gcm cipherblob aad = .error err :=
  stored_readable_iff spelledGcm_sound rotated_reachable rotated_find rotated_written (by decide)
    (.first "west")

end History

end K8sPlatform.Clusters
