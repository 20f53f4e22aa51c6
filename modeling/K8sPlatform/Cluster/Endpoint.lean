import K8sPlatform.Cluster.Storage

/-! # The API server of a cluster -/

namespace K8sPlatform.Clusters

open Errcode Crypto
open Kubeconfig (Clientcmd Ranging RestConfig)

/-- The same row, but for its name, description and labels. -/
structure Cluster.Retains (c' c : Cluster) : Prop where
  code : c'.code = c.code
  creatorId : c'.creatorId = c.creatorId
  kubeconfig : c'.kubeconfig = c.kubeconfig
  apiServer : c'.apiServer = c.apiServer

theorem Cluster.Retains.refl (c : Cluster) : c.Retains c := ⟨rfl, rfl, rfl, rfl⟩

theorem Stores.retained {lib : Libraries} {c c' : Cluster} {w : Written}
    (stores : Stores lib c w) (retains : c'.Retains c) : Stores lib c' w where
  kubeconfig := by
    rw [retains.kubeconfig, retains.code, retains.creatorId]
    exact stores.kubeconfig
  accepted := by
    rw [retains.apiServer]
    exact stores.accepted

namespace History

variable {lib : Libraries} {h : History}

/-- Every read of a stored row, at any time and in any process that tries its key, builds a client
of the recorded server, as one user, just when the kubeconfig is unambiguous. -/
theorem one_server_iff (sound : Sound lib.gcm) (connects : lib.clientcmd.Connects) {kms : AESGCM}
    (reach : Transition.Reachable (runs lib kms) h) {code : String} {c : Cluster} {w : Written}
    (found : h.table.find code = some c) (written : h.written code = some w) :
    (∃ user, ∀ (t : Table) (c' : Cluster) (kms' : AESGCM) (x : Ranging),
      t.find code = some c' → c'.Retains c → w.key ∈ kms'.keysToTry →
        ∃ cfg plain, decryptAndBuildConfig lib kms' x t code = .ok (cfg, plain) ∧
          cfg.server = c'.apiServer ∧ cfg.user = user) ↔
      lib.clientcmd.Unambiguous w.raw := by
  obtain ⟨w', written', -, stores⟩ := stores_of_found reach found
  obtain rfl : w' = w := Option.some.inj (written'.symm.trans written)
  obtain ⟨x₀, parsed, accepted, server⟩ := stores.accepted
  rw [← Kubeconfig.same_server_iff connects accepted]
  constructor
  · rintro ⟨user, all⟩
    refine ⟨user, fun x => ?_⟩
    have tried : w'.key ∈ AESGCM.keysToTry ⟨w'.key, none⟩ := List.mem_cons_self
    obtain ⟨cfg, plain, ok, server', user'⟩ := all h.table c _ x found (.refl c) tried
    obtain ⟨-, -, p', parses, rfl⟩ := (stores.decryptAndBuildConfig sound found).1 ok
    exact ⟨p', parses, server'.trans server, user'⟩
  · rintro ⟨user, all⟩
    refine ⟨user, fun t c' kms' x found' retains tried => ?_⟩
    obtain ⟨p', parses, server', user'⟩ := all x
    refine ⟨p'.restConfig, w'.raw, ?_, ?_, user'⟩
    · exact ((stores.retained retains).decryptAndBuildConfig sound found').2
        ⟨tried, rfl, p', parses, rfl⟩
    · rw [server', retains.apiServer, server]

/-- The row that holds the file with three contexts. -/
theorem imported_one_server :
    (∃ user, ∀ (t : Table) (c' : Cluster) (kms' : AESGCM) (x : Ranging),
      t.find "prod" = some c' → c'.Retains prodRow → demoKey 1 ∈ kms'.keysToTry →
        ∃ cfg plain, decryptAndBuildConfig demo kms' x t "prod" = .ok (cfg, plain) ∧
          cfg.server = c'.apiServer ∧ cfg.user = user) ↔
      demo.clientcmd.Unambiguous Kubeconfig.threeContextsFile :=
  one_server_iff spelledGcm_sound Kubeconfig.threeContexts_connects imported_reachable
    imported_find imported_written

/-- Two reads of one row: one picks the context east, the other the context west. -/
theorem two_servers : Transition.Reachable (runs demo ⟨demoKey 1, none⟩) imported ∧
    imported.table.find "prod" = some prodRow ∧ prodRow.apiServer = "https://10.0.0.1:6443" ∧
    (∃ cfg plain, decryptAndBuildConfig demo imported.kms (.first "east") imported.table "prod" =
      .ok (cfg, plain) ∧ cfg.server = "https://10.0.0.1:6443") ∧
    ∃ cfg plain, decryptAndBuildConfig demo imported.kms (.first "west") imported.table "prod" =
      .ok (cfg, plain) ∧ cfg.server = "https://10.0.0.2:6443" := by
  have reads (x : Ranging) (server : String)
      (connected : (decryptAndBuildConfig demo imported.kms x imported.table "prod").toOption.any
        (fun read => read.1.server == server) = true) :
      ∃ cfg plain, decryptAndBuildConfig demo imported.kms x imported.table "prod" =
        .ok (cfg, plain) ∧ cfg.server = server := by
    cases ok : decryptAndBuildConfig demo imported.kms x imported.table "prod" with
    | error err =>
        rw [ok] at connected
        cases connected
    | ok read =>
        rw [ok] at connected
        exact ⟨read.1, read.2, rfl, eq_of_beq connected⟩
  exact ⟨imported_reachable, imported_find, rfl, reads _ _ (by decide +kernel),
    reads _ _ (by decide +kernel)⟩

end History

end K8sPlatform.Clusters
