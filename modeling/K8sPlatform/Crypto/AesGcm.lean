import K8sPlatform.Lib.Aead
import K8sPlatform.Errcode

/-! # Encrypted blobs -/

namespace K8sPlatform.Crypto

open Errcode

abbrev Bytes := List UInt8

def nonceSize : Nat := 12

def aesVersionByte : UInt8 := 0x01

/-- `NewAESGCM` refuses keys of another length. -/
abbrev Key := { key : Bytes // key.length = 32 }

abbrev Nonce := { nonce : Bytes // nonce.length = nonceSize }

/-- AES-GCM of the standard library. The additional data are the bytes of a text. -/
abbrev Gcm := Aead.Cipher Key Nonce String Bytes Bytes

/-- What is relied on of it: it is ideal, and a sealed text has its 16 bytes of tag. -/
structure Sound (gcm : Gcm) : Prop where
  ideal : gcm.Ideal
  tag : ∀ k n p a, 16 ≤ (gcm.encrypt k n p a).length

structure AESGCM where
  key : Key
  previous : Option Key

/-- The version, the nonce, and the sealed text with its tag. -/
def blob (gcm : Gcm) (key : Key) (nonce : Nonce) (plaintext : Bytes) (aad : String) : Bytes :=
  aesVersionByte :: (nonce.val ++ gcm.encrypt key nonce plaintext aad)

@[simp] theorem blob_isEmpty (gcm : Gcm) (key : Key) (nonce : Nonce) (plaintext : Bytes)
    (aad : String) : (blob gcm key nonce plaintext aad).isEmpty = false := rfl

namespace AESGCM

variable (gcm : Gcm) (a : AESGCM)

/-- `nonce` is what the random source gives. -/
def encrypt (nonce : Nonce) (plaintext : Bytes) (aad : String) : Bytes :=
  blob gcm a.key nonce plaintext aad

def keysToTry : List Key := a.key :: a.previous.toList

def decrypt (cipherblob : Bytes) (aad : String) : Except Error Bytes :=
  if long : cipherblob.length < 1 + nonceSize + 16 then
    .error (.wrap .kmsDecryptFail ("cipher too short: " ++ toString cipherblob.length))
  else
    let version := cipherblob.headD 0
    if version ≠ aesVersionByte then
      .error (.wrap .kmsDecryptFail
        ("unknown version byte: " ++ String.ofList (Nat.toDigits 16 version.toNat)))
    else
      let nonce : Nonce := ⟨(cipherblob.drop 1).take nonceSize, by simp; omega⟩
      match gcm.decryptAny a.keysToTry nonce (cipherblob.drop (1 + nonceSize)) aad with
      | some plain => .ok plain
      | none =>
          .error (.wrapMsg .kmsDecryptFail "cipher: message authentication failed"
            "all keys tried")

/-- The next key takes over, and the last one is kept to decrypt. -/
def rotate (key : Key) : AESGCM := ⟨key, some a.key⟩

variable {gcm a}

/-- A blob that decrypts is long enough and begins with the version. -/
theorem form_of_decrypt {cipherblob plain : Bytes} {aad : String}
    (decrypts : a.decrypt gcm cipherblob aad = .ok plain) :
    ∃ (nonce : Nonce) (rest : Bytes), 16 ≤ rest.length ∧
      cipherblob = aesVersionByte :: (nonce.val ++ rest) := by
  unfold decrypt at decrypts
  by_cases short : cipherblob.length < 1 + nonceSize + 16
  · simp [short] at decrypts
  by_cases version : cipherblob.headD 0 = aesVersionByte
  swap
  · rw [dif_neg short] at decrypts
    dsimp only at decrypts
    rw [if_pos version] at decrypts
    cases decrypts
  cases cipherblob with
  | nil => simp at short
  | cons v rest =>
      simp only [List.headD_cons] at version
      simp only [List.length_cons, nonceSize] at short
      refine ⟨⟨rest.take nonceSize, by simp [nonceSize]; omega⟩, rest.drop nonceSize, ?_, ?_⟩
      · rw [List.length_drop, nonceSize]
        omega
      · rw [version, List.take_append_drop]

theorem decrypt_cons (nonce : Nonce) {rest : Bytes} (tag : 16 ≤ rest.length) (aad : String) :
    a.decrypt gcm (aesVersionByte :: (nonce.val ++ rest)) aad =
      match gcm.decryptAny a.keysToTry nonce rest aad with
      | some plain => .ok plain
      | none =>
          .error (.wrapMsg .kmsDecryptFail "cipher: message authentication failed"
            "all keys tried") := by
  have long : ¬(aesVersionByte :: (nonce.val ++ rest)).length < 1 + nonceSize + 16 := by
    simp only [List.length_cons, List.length_append, nonce.property]
    omega
  have same : ((aesVersionByte :: (nonce.val ++ rest)).drop 1).take nonceSize = nonce.val := by
    rw [List.drop_one, List.tail_cons, List.take_left' nonce.property]
  have text : (aesVersionByte :: (nonce.val ++ rest)).drop (1 + nonceSize) = rest := by
    rw [Nat.add_comm, List.drop_succ_cons, List.drop_left' nonce.property]
  unfold decrypt
  rw [dif_neg long]
  simp only [List.headD_cons, ne_eq, not_true_eq_false, if_false, same, text]

/-- The blobs that decrypt are those that `Encrypt` makes under one of the keys and the same
additional data, and they decrypt to what it was given. -/
theorem decrypt_eq_ok (sound : Sound gcm) {cipherblob plain : Bytes} {aad : String} :
    a.decrypt gcm cipherblob aad = .ok plain ↔
      ∃ key ∈ a.keysToTry, ∃ nonce, cipherblob = blob gcm key nonce plain aad := by
  constructor
  · intro decrypts
    obtain ⟨nonce, rest, tag, rfl⟩ := form_of_decrypt decrypts
    rw [decrypt_cons nonce tag] at decrypts
    split at decrypts
    case h_2 => cases decrypts
    case h_1 plain' opened =>
      obtain rfl := Except.ok.inj decrypts
      obtain ⟨key, mem, rfl⟩ := sound.ideal.decryptAny_eq_some.1 opened
      exact ⟨key, mem, nonce, rfl⟩
  · rintro ⟨key, mem, nonce, rfl⟩
    rw [blob, decrypt_cons nonce (sound.tag ..),
      sound.ideal.decryptAny_encrypt.2 ⟨mem, rfl, rfl⟩]

/-- The blobs that `Encrypt` makes under one of the keys and the additional data. -/
def Makes (gcm : Gcm) (a : AESGCM) (cipherblob : Bytes) (aad : String) : Prop :=
  ∃ key ∈ a.keysToTry, ∃ nonce plain, cipherblob = blob gcm key nonce plain aad

theorem decrypt_forged (sound : Sound gcm) {cipherblob : Bytes} {aad : String}
    (forged : ¬a.Makes gcm cipherblob aad) : ∃ err, a.decrypt gcm cipherblob aad = .error err := by
  cases decrypts : a.decrypt gcm cipherblob aad with
  | error err => exact ⟨err, rfl⟩
  | ok plain =>
      obtain ⟨key, tried, nonce, made⟩ := (decrypt_eq_ok sound).1 decrypts
      exact absurd ⟨key, tried, nonce, plain, made⟩ forged

/-- What was encrypted decrypts just under its additional data, while its key is tried. -/
theorem decrypt_blob (sound : Sound gcm) {key : Key} {nonce : Nonce} {plain plain' : Bytes}
    {aad aad' : String} : a.decrypt gcm (blob gcm key nonce plain aad) aad' = .ok plain' ↔
      key ∈ a.keysToTry ∧ aad' = aad ∧ plain' = plain := by
  rw [blob, decrypt_cons nonce (sound.tag ..), ← sound.ideal.decryptAny_encrypt (n := nonce)]
  split <;> simp_all

end AESGCM

/-- Each character in unary, and a mark at the end. -/
def spellChars : List Char → Bytes
  | [] => [2]
  | c :: cs => List.replicate c.toNat 1 ++ 0 :: spellChars cs

theorem unary_inj {m n : Nat} {r r' : Bytes}
    (same : List.replicate m 1 ++ 0 :: r = List.replicate n 1 ++ 0 :: r') : m = n ∧ r = r' := by
  induction m generalizing n with
  | zero =>
      cases n with
      | zero => exact ⟨rfl, (List.cons.inj same).2⟩
      | succ n => simp [List.replicate_succ] at same
  | succ m ih =>
      cases n with
      | zero => simp [List.replicate_succ] at same
      | succ n =>
          rw [List.replicate_succ, List.replicate_succ, List.cons_append, List.cons_append] at same
          obtain ⟨rfl, rest⟩ := ih (List.cons.inj same).2
          exact ⟨rfl, rest⟩

theorem spellChars_ne_mark (c : Char) (cs : List Char) (p p' : Bytes) :
    spellChars (c :: cs) ++ p ≠ 2 :: p' := by
  rw [spellChars]
  cases c.toNat with
  | zero => simp
  | succ n => simp [List.replicate_succ]

theorem spellChars_inj {cs cs' : List Char} {p p' : Bytes}
    (same : spellChars cs ++ p = spellChars cs' ++ p') : cs = cs' := by
  induction cs generalizing cs' with
  | nil =>
      cases cs' with
      | nil => rfl
      | cons c cs => exact absurd same.symm (spellChars_ne_mark c cs p' p)
  | cons c cs ih =>
      cases cs' with
      | nil => exact absurd same (spellChars_ne_mark c cs p p')
      | cons c' cs' =>
          rw [spellChars, spellChars, List.append_assoc, List.append_assoc, List.cons_append,
            List.cons_append] at same
          obtain ⟨char, rest⟩ := unary_inj same
          rw [Char.toNat_inj.1 char, ih rest]

def spelledGcm : Gcm :=
  .spelled fun key aad => key.val ++ spellChars aad.toList

theorem spelledGcm_sound : Sound spelledGcm where
  ideal := by
    refine Aead.Cipher.spelled_ideal fun {k a p k' a' p'} same => ?_
    rw [List.append_assoc, List.append_assoc] at same
    obtain ⟨key, rest⟩ := List.append_inj same (k.property.trans k'.property.symm)
    exact ⟨Subtype.ext key, String.toList_inj.1 (spellChars_inj rest)⟩
  tag k n p a := by
    show 16 ≤ (k.val ++ spellChars a.toList ++ p).length
    rw [List.length_append, List.length_append, k.property]
    omega

end K8sPlatform.Crypto
