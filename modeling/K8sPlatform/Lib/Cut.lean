import K8sPlatform.Lib.Text

/-! # The first bytes of a text -/

namespace Text

/-- All bytes, when there are no more than `n`. -/
def firstBytes (s : String) (n : Nat) : ByteArray :=
  if s.utf8ByteSize ≤ n then s.toByteArray else s.toByteArray.extract 0 n

/-- No character goes on behind the `n`-th byte that begins before it. -/
def CutsCleanly (s : String) (n : Nat) : Prop :=
  s.utf8ByteSize ≤ n ∨ ∃ front back : String, s = front ++ back ∧ front.utf8ByteSize = n

theorem firstBytes_append {front : String} {n : Nat} (size : front.utf8ByteSize = n)
    (back : String) : firstBytes (front ++ back) n = front.toByteArray := by
  have cut : (front ++ back).toByteArray.extract 0 n = front.toByteArray := by
    rw [String.toByteArray_append]
    exact ByteArray.extract_append_eq_left size.symm
  unfold firstBytes
  split
  · rename_i short
    rw [String.utf8ByteSize_append] at short
    have none_ : back.utf8ByteSize = 0 := by omega
    rw [String.utf8ByteSize_eq_zero_iff.1 none_, String.append_empty]
  · exact cut

/-- The first bytes are a text just when no character is cut. -/
theorem firstBytes_isValidUTF8 {s : String} {n : Nat} :
    (firstBytes s n).IsValidUTF8 ↔ CutsCleanly s n := by
  by_cases short : s.utf8ByteSize ≤ n
  · unfold firstBytes
    rw [if_pos short]
    exact iff_of_true s.isValidUTF8 (.inl short)
  · unfold firstBytes CutsCleanly
    rw [if_neg short]
    constructor
    · intro valid
      have position : String.Pos.Raw.IsValid s ⟨n⟩ :=
        String.Pos.Raw.isValid_iff_isValidUTF8_extract_zero.2 ⟨by
          rw [String.Pos.Raw.le_iff, String.byteIdx_rawEndPos]
          dsimp only
          omega, valid⟩
      obtain ⟨front, back, whole, at_⟩ := String.Pos.Raw.isValid_iff_exists_append.1 position
      refine .inr ⟨front, back, whole, ?_⟩
      have index := congrArg String.Pos.Raw.byteIdx at_
      rw [String.byteIdx_rawEndPos] at index
      exact index.symm
    · rintro (fits | ⟨front, back, rfl, size⟩)
      · exact absurd fits short
      · have cut := firstBytes_append size back
        unfold firstBytes at cut
        rw [if_neg short] at cut
        rw [cut]
        exact front.isValidUTF8

theorem utf8ByteSize_ofList_cons (c : Char) (cs : List Char) :
    (String.ofList (c :: cs)).utf8ByteSize = c.utf8Size + (String.ofList cs).utf8ByteSize := by
  have split : String.ofList (c :: cs) = String.singleton c ++ String.ofList cs :=
    String.toList_inj.1 (by simp)
  rw [split, String.utf8ByteSize_append, String.utf8ByteSize_singleton]

/-- What `truncateBytes` keeps is all of the text, or its first `n` bytes. -/
theorem truncateBytes_some {n : Nat} {cs kept : List Char} (cut : truncateBytes n cs = some kept) :
    ∃ rest, cs = kept ++ rest ∧
      (rest = [] ∧ (String.ofList kept).utf8ByteSize ≤ n ∨
        (String.ofList kept).utf8ByteSize = n) := by
  induction cs generalizing n kept with
  | nil =>
      cases cut
      exact ⟨[], rfl, .inl ⟨rfl, Nat.zero_le n⟩⟩
  | cons c cs ih =>
      unfold truncateBytes at cut
      split at cut
      · rename_i zero
        cases cut
        exact ⟨c :: cs, rfl, .inr zero.symm⟩
      split at cut
      · rename_i fits
        obtain ⟨kept', cut', rfl⟩ := Option.map_eq_some_iff.1 cut
        obtain ⟨rest, rfl, size⟩ := ih cut'
        refine ⟨rest, rfl, ?_⟩
        rw [utf8ByteSize_ofList_cons]
        obtain ⟨all, small⟩ | exact_ := size
        · left
          exact ⟨all, by omega⟩
        · right
          omega
      · cases cut

theorem truncateBytes_append {n : Nat} {front back : List Char}
    (size : (String.ofList front).utf8ByteSize = n) :
    truncateBytes n (front ++ back) = some front := by
  induction front generalizing n with
  | nil =>
      obtain rfl : 0 = n := size
      cases back <;> rfl
  | cons c front ih =>
      rw [utf8ByteSize_ofList_cons] at size
      have pos := c.utf8Size_pos
      rw [List.cons_append, truncateBytes, if_neg (by omega), if_pos (by omega), ih (by omega)]
      rfl

theorem truncateBytes_of_le {n : Nat} {cs : List Char}
    (short : (String.ofList cs).utf8ByteSize ≤ n) : truncateBytes n cs = some cs := by
  induction cs generalizing n with
  | nil => rfl
  | cons c cs ih =>
      rw [utf8ByteSize_ofList_cons] at short
      have pos := c.utf8Size_pos
      rw [truncateBytes, if_neg (by omega), if_pos (by omega), ih (by omega)]
      rfl

theorem truncateBytes_isSome {s : String} {n : Nat} :
    (truncateBytes n s.toList).isSome = true ↔ CutsCleanly s n := by
  constructor
  · intro some_
    obtain ⟨kept, cut⟩ := Option.isSome_iff_exists.1 some_
    obtain ⟨rest, whole, ⟨all, small⟩ | size⟩ := truncateBytes_some cut
    · left
      rw [all, List.append_nil] at whole
      rwa [← whole, String.ofList_toList] at small
    · right
      refine ⟨String.ofList kept, String.ofList rest, String.toList_inj.1 ?_, size⟩
      simpa using whole
  · rintro (short | ⟨front, back, rfl, size⟩)
    · rw [truncateBytes_of_le (by rwa [String.ofList_toList])]
      rfl
    · rw [String.toList_append, truncateBytes_append (by rwa [String.ofList_toList])]
      rfl

/-- `truncateBytes` gives the text that the first bytes are. -/
theorem toByteArray_truncateBytes {s : String} {n : Nat} {kept : List Char}
    (cut : truncateBytes n s.toList = some kept) :
    (String.ofList kept).toByteArray = firstBytes s n := by
  obtain ⟨rest, whole, size⟩ := truncateBytes_some cut
  have text : s = String.ofList kept ++ String.ofList rest :=
    String.toList_inj.1 (by simpa using whole)
  obtain ⟨rfl, small⟩ | size := size
  · have same : s = String.ofList kept := by simpa using text
    unfold firstBytes
    rw [if_pos (by rwa [same]), same]
  · rw [text, firstBytes_append size]

end Text
