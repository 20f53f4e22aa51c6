import Mathlib.Data.List.Basic

/-! # Authenticated encryption with associated data -/

namespace Aead

universe u

variable {κ ν α π γ : Type u}

/-- A cipher encrypts a text under a key, a nonce and the data that go with it; decryption fails or
gives a text. -/
structure Cipher (κ ν α π γ : Type u) where
  encrypt : κ → ν → π → α → γ
  decrypt : κ → ν → γ → α → Option π

namespace Cipher

/-- Nothing decrypts but what was encrypted, and under one nonce what was encrypted stands for one
key, one text and one piece of data. -/
structure Ideal (c : Cipher κ ν α π γ) : Prop where
  decrypt_eq_some : ∀ {k n g a p}, c.decrypt k n g a = some p ↔ g = c.encrypt k n p a
  encrypt_inj : ∀ {k n p a k' p' a'}, c.encrypt k n p a = c.encrypt k' n p' a' →
    k = k' ∧ p = p' ∧ a = a'

/-- The keys are tried in turn. -/
def decryptAny (c : Cipher κ ν α π γ) (keys : List κ) (n : ν) (g : γ) (a : α) : Option π :=
  keys.findSome? fun k => c.decrypt k n g a

variable {c : Cipher κ ν α π γ}

theorem Ideal.decryptAny_eq_some (ideal : c.Ideal) {keys : List κ} {n : ν} {g : γ} {a : α} {p : π} :
    c.decryptAny keys n g a = some p ↔ ∃ k ∈ keys, g = c.encrypt k n p a := by
  unfold decryptAny
  constructor
  · intro opened
    obtain ⟨k, mem, opens⟩ := List.exists_of_findSome?_eq_some opened
    exact ⟨k, mem, ideal.decrypt_eq_some.1 opens⟩
  · rintro ⟨k, mem, rfl⟩
    cases opened : keys.findSome? fun k' => c.decrypt k' n (c.encrypt k n p a) a with
    | none =>
        have closed := List.findSome?_eq_none_iff.1 opened k mem
        rw [ideal.decrypt_eq_some.2 rfl] at closed
        cases closed
    | some p' =>
        obtain ⟨k', -, opens⟩ := List.exists_of_findSome?_eq_some opened
        rw [(ideal.encrypt_inj (ideal.decrypt_eq_some.1 opens)).2.1]

/-- What was encrypted decrypts under its own key and data, to its own text. -/
theorem Ideal.decryptAny_encrypt (ideal : c.Ideal) {keys : List κ} {k : κ} {n : ν} {a a' : α}
    {p p' : π} :
    c.decryptAny keys n (c.encrypt k n p a) a' = some p' ↔ k ∈ keys ∧ a' = a ∧ p' = p := by
  rw [ideal.decryptAny_eq_some]
  constructor
  · rintro ⟨k', mem, same⟩
    obtain ⟨rfl, rfl, rfl⟩ := ideal.encrypt_inj same
    exact ⟨mem, rfl, rfl⟩
  · rintro ⟨mem, rfl, rfl⟩
    exact ⟨k, mem, rfl⟩

/-- The key and the data are written before the text. -/
def spelled [BEq γ] (header : κ → α → List γ) : Cipher κ ν α (List γ) (List γ) where
  encrypt k _ p a := header k a ++ p
  decrypt k _ g a := if (header k a).isPrefixOf g then some (g.drop (header k a).length) else none

/-- It is ideal when the headers can be told from what follows them. -/
theorem spelled_ideal [BEq γ] [LawfulBEq γ] {header : κ → α → List γ}
    (inj : ∀ {k a p k' a' p'}, header k a ++ p = header k' a' ++ p' → k = k' ∧ a = a') :
    (spelled header : Cipher κ ν α (List γ) (List γ)).Ideal where
  decrypt_eq_some := by
    intro k n g a p
    simp only [spelled, Option.ite_none_right_eq_some, Option.some.injEq,
      List.isPrefixOf_iff_prefix]
    constructor
    · rintro ⟨⟨rest, rfl⟩, rfl⟩
      rw [List.drop_left]
    · rintro rfl
      exact ⟨List.prefix_append _ _, List.drop_left⟩
  encrypt_inj := by
    intro k n p a k' p' a' same
    obtain ⟨rfl, rfl⟩ := inj same
    exact ⟨rfl, List.append_cancel_left same, rfl⟩

end Cipher

end Aead
