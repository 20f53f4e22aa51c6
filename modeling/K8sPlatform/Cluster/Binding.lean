import K8sPlatform.Cluster.Storage

/-! # Ciphertexts and the clusters they belong to -/

namespace K8sPlatform.Clusters

open Errcode Crypto

/-- The second code has leading digits of the first id at its end, and the second id the others. -/
def Shifted (code : String) (id : Nat) (code' : String) (id' : Nat) : Prop :=
  ∃ digits : String, digits ≠ "" ∧ code' = code ++ digits ∧ toString id = digits ++ toString id'

theorem toString_inj {m n : Nat} (same : toString m = toString n) : m = n := by
  apply Text.digits_inj
  simpa [Nat.toString_eq_repr] using congrArg String.toList same

theorem aadOf_of_shifted {code code' : String} {id id' : Nat}
    (shifted : Shifted code id code' id') : aadOf code id = aadOf code' id' := by
  obtain ⟨digits, -, rfl, id_eq⟩ := shifted
  rw [aadOf, aadOf, id_eq, String.append_assoc]

/-- Digits can only move to a code that ends in one. -/
theorem Shifted.ends_in_digit {code code' : String} {id id' : Nat}
    (shifted : Shifted code id code' id') : ∃ c ∈ code'.toList.getLast?, c.isDigit = true := by
  obtain ⟨digits, some_, rfl, id_eq⟩ := shifted
  have nonempty : digits.toList ≠ [] := fun none_ => some_ (String.toList_eq_nil_iff.1 none_)
  refine ⟨digits.toList.getLast nonempty, ?_, ?_⟩
  · rw [String.toList_append, List.getLast?_append_of_ne_nil _ nonempty,
      List.getLast?_eq_some_getLast nonempty]
    rfl
  · have mem : digits.toList.getLast nonempty ∈ (toString id).toList := by
      rw [id_eq, String.toList_append]
      exact List.mem_append_left _ (List.getLast_mem nonempty)
    rw [Nat.toString_eq_repr, Nat.toList_repr] at mem
    exact Nat.isDigit_of_mem_toDigits (by decide) (by decide) mem

theorem eq_or_shifted {code code' : String} {id id' : Nat} {d : List Char}
    (longer : code'.toList = code.toList ++ d)
    (rest : (toString id).toList = d ++ (toString id').toList) :
    (code = code' ∧ id = id') ∨ Shifted code id code' id' := by
  have code_eq : code' = code ++ String.ofList d := String.toList_inj.1 (by simpa using longer)
  have id_eq : toString id = String.ofList d ++ toString id' :=
    String.toList_inj.1 (by simpa using rest)
  by_cases none_ : String.ofList d = ""
  · rw [none_, String.append_empty] at code_eq
    rw [none_, String.empty_append] at id_eq
    exact .inl ⟨code_eq.symm, toString_inj id_eq⟩
  · exact .inr ⟨String.ofList d, none_, code_eq, id_eq⟩

/-- Two pairs share their additional data just when digits can move between code and id. -/
theorem aadOf_eq_iff {code code' : String} {id id' : Nat} :
    aadOf code id = aadOf code' id' ↔
      (code = code' ∧ id = id') ∨ Shifted code id code' id' ∨ Shifted code' id' code id := by
  constructor
  · intro same
    have chars : code.toList ++ (toString id).toList = code'.toList ++ (toString id').toList := by
      simpa [aadOf] using congrArg String.toList same
    rcases List.append_eq_append_iff.1 chars with ⟨d, longer, rest⟩ | ⟨d, longer, rest⟩
    · rcases eq_or_shifted longer rest with equal | shifted
      · exact .inl equal
      · exact .inr (.inl shifted)
    · rcases eq_or_shifted longer rest with equal | shifted
      · exact .inl ⟨equal.1.symm, equal.2.symm⟩
      · exact .inr (.inr shifted)
  · rintro (⟨rfl, rfl⟩ | shifted | shifted)
    · rfl
    · exact aadOf_of_shifted shifted
    · exact (aadOf_of_shifted shifted).symm

namespace History

variable {lib : Libraries} {h : History}

/-- The ciphertext of a row never decrypts for another code and creator, whatever keys are tried,
just when no digits can move between the two. -/
theorem bound_iff (sound : Sound lib.gcm) {kms : AESGCM}
    (reach : Transition.Reachable (runs lib kms) h) {code : String} {c : Cluster}
    (found : h.table.find code = some c) {code' : String} {id' : Nat}
    (different : (code', id') ≠ (c.code, c.creatorId)) :
    (∀ kms' : AESGCM, ∃ err,
      kms'.decrypt lib.gcm c.kubeconfig (aadOf code' id') = .error err) ↔
      ¬Shifted c.code c.creatorId code' id' ∧ ¬Shifted code' id' c.code c.creatorId := by
  obtain ⟨w, -, -, stores⟩ := stores_of_found reach found
  obtain ⟨nonce, kubeconfig⟩ := stores.kubeconfig
  have same_iff : aadOf code' id' = aadOf c.code c.creatorId ↔
      Shifted c.code c.creatorId code' id' ∨ Shifted code' id' c.code c.creatorId := by
    rw [eq_comm, aadOf_eq_iff]
    constructor
    · rintro (⟨rfl, rfl⟩ | shifted)
      · exact absurd rfl different
      · exact shifted
    · exact .inr
  rw [← not_or, ← same_iff, kubeconfig]
  constructor
  · intro closed same
    obtain ⟨err, fails⟩ := closed ⟨w.key, none⟩
    rw [(AESGCM.decrypt_blob sound).2 ⟨List.mem_cons_self, same, rfl⟩] at fails
    cases fails
  · intro other kms'
    cases decrypts : kms'.decrypt lib.gcm
      (blob lib.gcm w.key nonce w.raw (aadOf c.code c.creatorId)) (aadOf code' id') with
    | error err => exact ⟨err, rfl⟩
    | ok plain => exact absurd ((AESGCM.decrypt_blob sound).1 decrypts).2.1 other

/-- The file of three contexts under the code prod by user 7, and the code staging by user 12. -/
theorem prod_bound :
    (∀ kms' : AESGCM, ∃ err,
      kms'.decrypt demo.gcm prodRow.kubeconfig (aadOf "staging" 12) = .error err) ↔
      ¬Shifted "prod" 7 "staging" 12 ∧ ¬Shifted "staging" 12 "prod" 7 :=
  bound_iff spelledGcm_sound imported_reachable imported_find (by decide)

/-- User 2 imports the cluster prod1, and user 12 the cluster prod. -/
def twoImports : List HistoryStep :=
  [.importCluster (.first "east") demoNonce "first" "prod1" Kubeconfig.threeContextsFile 2,
    .importCluster (.first "east") demoNonce "second" "prod" Kubeconfig.threeContextsFile 12]

def twoClusters : History := Transition.exec (next demo) (start ⟨demoKey 1, none⟩) twoImports

/-- The row that the import under a code by a user adds. -/
def twinRow (name code : String) (creatorId : Nat) : Cluster :=
  { prodRow with
    name, code, creatorId
    kubeconfig := blob spelledGcm (demoKey 1) demoNonce Kubeconfig.threeContextsFile "prod12" }

theorem shared_additionalData : Transition.Reachable (runs demo ⟨demoKey 1, none⟩) twoClusters ∧
    twoClusters.table.find "prod1" = some (twinRow "first" "prod1" 2) ∧
    twoClusters.table.find "prod" = some (twinRow "second" "prod" 12) ∧
    twoClusters.kms.decrypt demo.gcm (twinRow "first" "prod1" 2).kubeconfig (aadOf "prod" 12) =
      .ok Kubeconfig.threeContextsFile := by
  have tried : demoKey 1 ∈ twoClusters.kms.keysToTry := by decide +kernel
  have aad : aadOf "prod" 12 = "prod12" := by decide +kernel
  refine ⟨.exec twoImports (.init rfl), by decide +kernel, by decide +kernel, ?_⟩
  rw [aad]
  exact (AESGCM.decrypt_blob spelledGcm_sound).2 ⟨tried, rfl, rfl⟩

end History

end K8sPlatform.Clusters
