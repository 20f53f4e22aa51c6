import K8sPlatform.Lib.Query
import K8sPlatform.Lib.Text

/-! # Tokens in the query string of the access log -/

namespace K8sPlatform.Audit

open Query

def utf8 (s : String) : Bytes := Text.utf8 s.toList

def tokenKeys : List Bytes := ["token", "access_token", "refresh_token"].map utf8

/-- What stands in the place of a secret. -/
def mark : Bytes := utf8 "***"

/-- A round of the loop over the keys: whether something was set, and the values. -/
def redactKey (acc : Bool × Values) (k : Bytes) : Bool × Values :=
  if (acc.2.get? k).isSome then (true, acc.2.set k [mark]) else acc

def redactQuery (raw : Bytes) : Bytes :=
  if raw = [] then raw
  else if (parse raw).2 = false then raw
  else
    let redacted := tokenKeys.foldl redactKey (false, (parse raw).1)
    if redacted.1 = false then raw else encode redacted.2

/-- All that stands under the name is the mark. -/
def Clean (k : Bytes) (m : Values) : Prop := ∀ value ∈ m.list k, value = mark

/-- A reader that passes over malformed pieces finds no token. -/
def Redacted (text : Bytes) : Prop := ∀ k ∈ tokenKeys, Clean k (parse text).1

theorem redactKey_clean (acc : Bool × Values) (k : Bytes) : Clean k (redactKey acc k).2 := by
  intro value mem
  unfold redactKey at mem
  split_ifs at mem with present
  · rw [Values.list, OrderedMap.get?_set, if_pos rfl] at mem
    exact List.mem_singleton.1 mem
  · rw [Values.list, Option.not_isSome_iff_eq_none.1 present] at mem
    cases mem

theorem redactKey_keeps {acc : Bool × Values} {k : Bytes} (clean : Clean k acc.2) (k' : Bytes) :
    Clean k (redactKey acc k').2 := by
  by_cases same : k = k'
  · subst same
    exact redactKey_clean acc k
  · intro value mem
    unfold redactKey at mem
    split_ifs at mem
    · rw [Values.list, OrderedMap.get?_set, if_neg same] at mem
      exact clean value mem
    · exact clean value mem

theorem foldl_keeps {acc : Bool × Values} {k : Bytes} (clean : Clean k acc.2) (ks : List Bytes) :
    Clean k (ks.foldl redactKey acc).2 := by
  induction ks generalizing acc with
  | nil => exact clean
  | cons k' ks ih => exact ih (redactKey_keeps clean k')

theorem foldl_clean {ks : List Bytes} {k : Bytes} (mem : k ∈ ks) (acc : Bool × Values) :
    Clean k (ks.foldl redactKey acc).2 := by
  induction ks generalizing acc with
  | nil => cases mem
  | cons k' ks ih =>
      rcases List.mem_cons.1 mem with rfl | later
      · exact foldl_keeps (redactKey_clean acc k) ks
      · exact ih later _

theorem foldl_changed {acc : Bool × Values} (changed : acc.1 = true) (ks : List Bytes) :
    (ks.foldl redactKey acc).1 = true := by
  induction ks generalizing acc with
  | nil => exact changed
  | cons k ks ih =>
      apply ih
      unfold redactKey
      split_ifs
      · rfl
      · exact changed

/-- Where nothing was set the values are those that were read. -/
theorem foldl_unchanged {acc : Bool × Values} {ks : List Bytes}
    (unchanged : (ks.foldl redactKey acc).1 = false) : (ks.foldl redactKey acc).2 = acc.2 := by
  induction ks generalizing acc with
  | nil => rfl
  | cons k ks ih =>
      rw [List.foldl_cons] at unchanged ⊢
      rw [ih unchanged, redactKey]
      split_ifs with present
      · rw [redactKey, if_pos present, foldl_changed rfl] at unchanged
        cases unchanged
      · rfl

/-- A text without malformed pieces loses its tokens. -/
theorem redacted_of_wellFormed {raw : Bytes} (h : WellFormed raw) :
    Redacted (redactQuery raw) := by
  intro k mem
  have clean := foldl_clean mem (false, (parse raw).1)
  unfold redactQuery
  dsimp only
  split_ifs with empty malformed unchanged
  · rw [empty]
    intro value found
    cases found
  · rw [wellFormed_iff.2 h] at malformed
    cases malformed
  · rwa [foldl_unchanged unchanged] at clean
  · exact fun value found => clean value (mem_list_parse_encode.1 found)

theorem redactQuery_of_malformed {raw : Bytes} (h : ¬WellFormed raw) : redactQuery raw = raw := by
  have malformed : (parse raw).2 = false := by
    rw [← Bool.not_eq_true, wellFormed_iff]
    exact h
  unfold redactQuery
  split_ifs
  · rfl
  · rfl

/-- Redaction fails on the texts that have a malformed piece besides a piece with a token. -/
theorem redactQuery_redacted_iff (raw : Bytes) : Redacted (redactQuery raw) ↔
    WellFormed raw ∨ ∀ k value, (k, value) ∈ pairs raw → k ∈ tokenKeys → value = mark := by
  constructor
  · intro redacted
    by_cases h : WellFormed raw
    · exact .inl h
    · rw [redactQuery_of_malformed h] at redacted
      exact .inr fun k value mem isToken => redacted k isToken value (mem_list_parse.2 mem)
  · rintro (h | clean)
    · exact redacted_of_wellFormed h
    · by_cases h : WellFormed raw
      · exact redacted_of_wellFormed h
      · rw [redactQuery_of_malformed h]
        exact fun k isToken value mem => clean k value (mem_list_parse.1 mem) isToken

/-- The escape at the end is malformed, and the token is logged. -/
theorem malformed_query_logged :
    ¬∀ raw : Bytes, Redacted (redactQuery raw) := by
  intro all
  have redacted := all (utf8 "token=secret&x=%zz")
  have found : utf8 "secret" ∈ (parse (redactQuery (utf8 "token=secret&x=%zz"))).1.list
      (utf8 "token") := by decide +kernel
  have masked : utf8 "secret" = mark := redacted (utf8 "token") (by decide +kernel) _ found
  revert masked
  decide +kernel

example : redactQuery (utf8 "token=abc.def&foo=1") = utf8 "foo=1&token=%2A%2A%2A" := by
  decide +kernel

end K8sPlatform.Audit
