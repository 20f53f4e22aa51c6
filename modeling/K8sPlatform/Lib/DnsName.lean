import K8sPlatform.Lib.Text

/-! # Names as DNS subdomains: labels of lower case letters, digits and dashes between dots -/

namespace DnsName

def alnum (c : Char) : Bool := c.isLower || c.isDigit

def labelChar (c : Char) : Bool := alnum c || c == '-'

/-- `[a-z0-9]([-a-z0-9]*[a-z0-9])?` -/
def IsLabel (s : String) : Prop :=
  s.toList.all labelChar = true ∧ s.toList.head?.any alnum = true ∧
    s.toList.getLast?.any alnum = true

/-- A suffix that a label keeps to be one with: it may begin with a dash. -/
def IsTail (s : String) : Prop :=
  s.toList.all labelChar = true ∧ s.toList.getLast?.any alnum = true

def maxLength : Nat := 253

/-- Labels between dots, of at most 253 characters together. -/
def IsSubdomain (s : String) : Prop :=
  (∀ label ∈ Text.split '.' s, IsLabel label) ∧ s.length ≤ maxLength

instance (s : String) : Decidable (IsLabel s) := inferInstanceAs (Decidable (_ ∧ _ ∧ _))

instance (s : String) : Decidable (IsTail s) := inferInstanceAs (Decidable (_ ∧ _))

instance (s : String) : Decidable (IsSubdomain s) := inferInstanceAs (Decidable (_ ∧ _))

variable {s t : String}

theorem alnum_of_isDigit {c : Char} (digit : c.isDigit = true) : alnum c = true := by
  rw [alnum, digit, Bool.or_true]

theorem labelChar_of_alnum {c : Char} (ok : alnum c = true) : labelChar c = true := by
  rw [labelChar, ok, Bool.true_or]

theorem IsTail.not_dot (tail : IsTail t) : '.' ∉ t.toList := by
  intro mem
  have dot := List.all_eq_true.1 tail.1 '.' mem
  exact absurd dot (by decide)

theorem last_append (s : String) (last : t.toList.getLast?.any alnum = true) :
    (s ++ t).toList.getLast?.any alnum = true := by
  rw [String.toList_append, List.getLast?_append]
  exact Option.any_or_of_any_left last

theorem chars_append (first : s.toList.all labelChar = true)
    (second : t.toList.all labelChar = true) : (s ++ t).toList.all labelChar = true := by
  rw [String.toList_append, List.all_append, first, second, Bool.and_true]

theorem IsLabel.append (label : IsLabel s) (tail : IsTail t) : IsLabel (s ++ t) := by
  obtain ⟨chars, head, -⟩ := label
  refine ⟨chars_append chars tail.1, ?_, last_append s tail.2⟩
  rw [String.toList_append, List.head?_append]
  exact Option.any_or_of_any_left head

theorem IsTail.append (chars : s.toList.all labelChar = true) (tail : IsTail t) :
    IsTail (s ++ t) :=
  ⟨chars_append chars tail.1, last_append s tail.2⟩

theorem isTail_of_digits (notEmpty : s ≠ "") (digits : ∀ c ∈ s.toList, c.isDigit = true) :
    IsTail s := by
  refine ⟨List.all_eq_true.2 fun c mem => labelChar_of_alnum (alnum_of_isDigit (digits c mem)), ?_⟩
  cases last : s.toList.getLast? with
  | none =>
      have empty : s.toList = [] := List.getLast?_eq_none_iff.1 last
      exact absurd (String.toList_inj.1 empty) notEmpty
  | some c => exact alnum_of_isDigit (digits c (List.mem_of_getLast? last))

theorem labels_append (labels : ∀ label ∈ Text.split '.' s, IsLabel label) (tail : IsTail t) :
    ∀ label ∈ Text.split '.' (s ++ t), IsLabel label := by
  obtain none_ | ⟨front, stub, pieces⟩ := List.eq_nil_or_concat' (Text.split '.' s)
  · exact absurd none_ (Text.split_ne_nil '.' s)
  · rw [pieces] at labels
    rw [Text.split_append_last pieces tail.not_dot]
    intro label mem
    obtain old | new := List.mem_append.1 mem
    · exact labels label (List.mem_append_left _ old)
    · rw [List.mem_singleton.1 new]
      exact (labels stub (List.mem_append_right _ (List.mem_singleton_self stub))).append tail

theorem IsSubdomain.ne_empty (name : IsSubdomain s) : s ≠ "" := by
  rintro rfl
  exact absurd name (by decide)

/-- With a suffix of its last label, a subdomain is one as long as it is short enough. -/
theorem isSubdomain_append_iff (name : IsSubdomain s) (tail : IsTail t) :
    IsSubdomain (s ++ t) ↔ (s ++ t).length ≤ maxLength :=
  and_iff_right (labels_append name.1 tail)

end DnsName
