import K8sPlatform.Lib.UrlPath
import Mathlib.Data.List.Pairwise

/-! # Routes with parameters, and the routers that find the route of a path -/

namespace Routing

open Query hiding encode
open UrlPath

universe u

/-- The raw path is left empty where it is the default encoding of the path. -/
structure Url where
  path : Bytes
  rawPath : Bytes
  deriving DecidableEq

/-- What the default encoding of a path keeps. -/
def keepPath (b : UInt8) : Bool := isUnreserved b || (Text.utf8 "$&+,/:;=@".toList).contains b

def parsePath (p : Bytes) : Option Url :=
  (decode p).map fun path => ⟨path, if encode keepPath path = p then [] else p⟩

/-- A segment of a route. -/
inductive Piece where
  | literal (text : Bytes)
  | param (name : String)
  deriving DecidableEq

structure Route (α : Type u) where
  method : String
  pieces : List Piece
  handler : α

/-- The values of the parameters, which are not empty. -/
def matchPieces : List Piece → List Bytes → Option (List (String × Bytes))
  | [], [] => some []
  | .literal t :: ps, s :: ss => if t = s then matchPieces ps ss else none
  | .param name :: ps, s :: ss =>
      if s = [] then none else (matchPieces ps ss).map ((name, s) :: ·)
  | _, _ => none

variable {α : Type u}

/-- No path matches both: of different lengths, or with different literals at one place. -/
def apart : List Piece → List Piece → Bool
  | [], [] => false
  | .literal t :: ps, .literal t' :: qs => t != t' || apart ps qs
  | _ :: ps, _ :: qs => apart ps qs
  | _, _ => true

theorem matchPieces_cons {p : Piece} {ps : List Piece} {s : Bytes} {segs : List Bytes}
    (matched : (matchPieces (p :: ps) (s :: segs)).isSome) :
    (matchPieces ps segs).isSome ∧ ∀ t, p = .literal t → t = s := by
  cases p with
  | literal t =>
      rw [matchPieces] at matched
      split at matched
      · next eq =>
          refine ⟨matched, ?_⟩
          rintro t' ⟨⟩
          exact eq
      · cases matched
  | param name =>
      rw [matchPieces] at matched
      split at matched
      · cases matched
      · rw [Option.isSome_map] at matched
        exact ⟨matched, fun t eq => nomatch eq⟩

theorem not_apart {ps qs : List Piece} {segs : List Bytes} (left : (matchPieces ps segs).isSome)
    (right : (matchPieces qs segs).isSome) : apart ps qs = false := by
  induction segs generalizing ps qs with
  | nil =>
      cases ps with
      | nil =>
          cases qs with
          | nil => rfl
          | cons q qs => cases q <;> cases right
      | cons p ps => cases p <;> cases left
  | cons s segs ih =>
      cases ps with
      | nil => cases left
      | cons p ps =>
          cases qs with
          | nil => cases right
          | cons q qs =>
              obtain ⟨left', first⟩ := matchPieces_cons left
              obtain ⟨right', second⟩ := matchPieces_cons right
              have rest := ih left' right'
              cases p with
              | param name => cases q <;> exact rest
              | literal t =>
                  cases q with
                  | param name => exact rest
                  | literal t' =>
                      rw [apart, rest, first t rfl, second t' rfl, bne_self_eq_false,
                        Bool.or_false]

def Apart (routes : List (Route α)) : Prop :=
  routes.Pairwise fun r r' => r.method = r'.method → apart r.pieces r'.pieces = true

/-- Of routes that are apart, one at most matches. -/
theorem Apart.only {routes : List (Route α)} (distinct : Apart routes) {r r' : Route α}
    (mem : r ∈ routes) (mem' : r' ∈ routes) (same : r'.method = r.method) {segs : List Bytes}
    (left : (matchPieces r.pieces segs).isSome) (right : (matchPieces r'.pieces segs).isSome) :
    r' = r := by
  have either : routes.Pairwise fun r r' => r.method = r'.method →
      (matchPieces r.pieces segs).isSome → (matchPieces r'.pieces segs).isSome → False := by
    refine distinct.imp fun far method one other => ?_
    rw [not_apart one other] at far
    cases far method
  by_contra different
  have : Std.Symm fun r r' : Route α => r.method = r'.method →
      (matchPieces r.pieces segs).isSome → (matchPieces r'.pieces segs).isSome → False :=
    ⟨fun _ _ never method one other => never method.symm other one⟩
  exact either.forall mem' mem different same right left

/-! ## Routers -/

/-- What is found for a method and a URL: a route, and the values of its parameters. -/
abbrev Router (α : Type u) := String → Url → Option (Route α × List (String × Bytes))

/-- The path that is matched: the raw one, if it is kept. -/
def Url.matched (u : Url) : Bytes := if u.rawPath = [] then u.path else u.rawPath

def unescapeValue (v : Bytes) : Bytes := (unescape v).getD v

/-- What is read of a value: of a raw path, its escapes as those of a query. -/
def Url.value (u : Url) (v : Bytes) : Bytes := if u.rawPath = [] then v else unescapeValue v

/-- A router of these routes that keeps the raw path and matches it segment by segment. -/
structure BySegments (routes : List (Route α)) (router : Router α) : Prop where
  /-- The only route that matches is found. -/
  found : ∀ r ∈ routes, ∀ (u : Url) (params : List (String × Bytes)),
    (∀ s ∈ segments u.matched, s ≠ []) →
    matchPieces r.pieces (segments u.matched) = some params →
    (∀ r' ∈ routes, r'.method = r.method →
      (matchPieces r'.pieces (segments u.matched)).isSome → r' = r) →
    router r.method u = some (r, params.map fun p => (p.1, u.value p.2))
  none_ : ∀ (method : String) (u : Url), (∀ s ∈ segments u.matched, s ≠ []) →
    (∀ r ∈ routes, r.method = method → matchPieces r.pieces (segments u.matched) = none) →
    router method u = none

/-- The router that tries the routes one by one. -/
def firstMatch (routes : List (Route α)) : Router α := fun method u =>
  routes.findSome? fun r =>
    if r.method = method then
      (matchPieces r.pieces (segments u.matched)).map fun params =>
        (r, params.map fun p => (p.1, u.value p.2))
    else none

theorem firstMatch_bySegments (routes : List (Route α)) :
    BySegments routes (firstMatch routes) where
  found := by
    intro r mem u params _ matched only
    have one : firstMatch routes r.method u ≠ none := by
      intro none_
      have own := List.findSome?_eq_none_iff.1 none_ r mem
      rw [if_pos rfl, matched] at own
      cases own
    obtain ⟨result, first⟩ := Option.ne_none_iff_exists'.1 one
    obtain ⟨r', mem', eq⟩ := List.exists_of_findSome?_eq_some first
    split at eq
    · next same =>
        have matches_ : (matchPieces r'.pieces (segments u.matched)).isSome := by
          rw [← Option.isSome_map, eq]
          rfl
        obtain rfl := only r' mem' same matches_
        rw [matched, Option.map_some] at eq
        exact first.trans eq.symm
    · cases eq
  none_ := by
    intro method u _ unmatched
    rw [firstMatch, List.findSome?_eq_none_iff]
    intro r mem
    split
    · next same => rw [unmatched r mem same, Option.map_none]
    · rfl

/-! ## Requests for a route -/

/-- The segments of a route with its parameters replaced by values. -/
def fill : List Piece → List Bytes → List Bytes
  | .literal t :: ps, vs => t :: fill ps vs
  | .param _ :: ps, v :: vs => v :: fill ps vs
  | _, _ => []

def names : List Piece → List String
  | [] => []
  | .literal _ :: ps => names ps
  | .param name :: ps => name :: names ps

theorem matchPieces_fill {ps : List Piece} {vs : List Bytes} {f : Bytes → Bytes}
    (literals : ∀ t, .literal t ∈ ps → f t = t) (count : vs.length = (names ps).length)
    (some_ : ∀ v ∈ vs, f v ≠ []) :
    matchPieces ps ((fill ps vs).map f) = some ((names ps).zip (vs.map f)) := by
  induction ps generalizing vs with
  | nil =>
      cases vs with
      | nil => rfl
      | cons v vs => cases count
  | cons p ps ih =>
      have rest : ∀ t, .literal t ∈ ps → f t = t :=
        fun t mem => literals t (List.mem_cons_of_mem _ mem)
      cases p with
      | literal t =>
          have own : f t = t := literals t List.mem_cons_self
          rw [fill, List.map_cons, own, matchPieces, if_pos rfl, ih rest count some_, names]
      | param name =>
          cases vs with
          | nil => cases count
          | cons v vs =>
              rw [fill, List.map_cons, matchPieces, if_neg (some_ v List.mem_cons_self),
                ih rest (Nat.succ.inj count) fun w mem => some_ w (List.mem_cons_of_mem _ mem)]
              rfl

theorem mem_fill {ps : List Piece} {vs : List Bytes} {s : Bytes} (mem : s ∈ fill ps vs) :
    .literal s ∈ ps ∨ s ∈ vs := by
  induction ps generalizing vs with
  | nil => cases mem
  | cons p ps ih =>
      cases p with
      | literal t =>
          rcases List.mem_cons.1 mem with rfl | rest
          · exact .inl List.mem_cons_self
          · exact (ih rest).imp_left (List.mem_cons_of_mem _)
      | param name =>
          cases vs with
          | nil => cases mem
          | cons v vs =>
              rcases List.mem_cons.1 mem with rfl | rest
              · exact .inr List.mem_cons_self
              · exact (ih rest).imp (List.mem_cons_of_mem _) (List.mem_cons_of_mem _)

/-- An escape of single segments: slashes, percent signs and plus signs are escaped. -/
structure EscapesSegments (keep : UInt8 → Bool) : Prop where
  percent : keep '%'.toUInt8 = false
  plus : keep '+'.toUInt8 = false
  slash : keep '/'.toUInt8 = false

/-- A literal that an escape leaves as it is. -/
structure Plain (keep : UInt8 → Bool) (t : Bytes) : Prop where
  some_ : t ≠ []
  kept : ∀ b ∈ t, keep b = true
  noDot : t ≠ ['.'.toUInt8]
  noDots : t ≠ ['.'.toUInt8, '.'.toUInt8]

/-- A value that a segment can carry. -/
structure Carried (v : Bytes) : Prop where
  some_ : v ≠ []
  noDot : v ≠ ['.'.toUInt8]
  noDots : v ≠ ['.'.toUInt8, '.'.toUInt8]

instance (v : Bytes) : Decidable (Carried v) :=
  decidable_of_iff (v ≠ [] ∧ v ≠ ['.'.toUInt8] ∧ v ≠ ['.'.toUInt8, '.'.toUInt8])
    ⟨fun h => ⟨h.1, h.2.1, h.2.2⟩, fun h => ⟨h.some_, h.noDot, h.noDots⟩⟩

/-- The path of a browser's request for the route with these values. -/
def requestPath (keep : UInt8 → Bool) (pieces : List Piece) (vs : List Bytes) : Bytes :=
  text (normalize ((fill pieces vs).map (encode keep)))

theorem count_encode_keepPath (s : Bytes) :
    (encode keepPath s).count '/'.toUInt8 = s.count '/'.toUInt8 := by
  induction s with
  | nil => rfl
  | cons b s ih =>
      have first : (encodeByte keepPath b).count '/'.toUInt8 = [b].count '/'.toUInt8 := by
        unfold encodeByte
        split_ifs with kept
        · rfl
        · have other : b ≠ '/'.toUInt8 := by
            rintro rfl
            exact kept (by decide)
          have none_ : '/'.toUInt8 ∉ encode (fun _ => false) [b] :=
            not_mem_encode rfl (by decide) (by decide) _
          rw [List.count_eq_zero_of_not_mem fun mem => other (List.mem_singleton.1 mem).symm]
          exact List.count_eq_zero_of_not_mem none_
      rw [encode, List.flatMap_cons, List.count_append, first]
      rw [encode] at ih
      rw [ih, ← List.count_append, List.singleton_append]

theorem slash_not_mem_encode {keep : UInt8 → Bool} (escapes : EscapesSegments keep) (s : Bytes) :
    '/'.toUInt8 ∉ encode keep s := not_mem_encode escapes.slash (by decide) (by decide) s

/-- Where the default encoding is what was sent, no segment has a slash of its own. -/
theorem slash_not_mem_of_default {keep : UInt8 → Bool} (escapes : EscapesSegments keep)
    {segs : List Bytes}
    (default_ : encode keepPath (text segs) = text (segs.map (encode keep))) :
    ∀ s ∈ segs, '/'.toUInt8 ∉ s := by
  have counts := congrArg (List.count '/'.toUInt8) default_
  have none_ : ((segs.map (encode keep)).map (·.count '/'.toUInt8)).sum = 0 := by
    rw [List.map_map]
    apply List.sum_eq_zero_iff_forall_eq_nat.2
    intro n mem
    obtain ⟨s, -, rfl⟩ := List.mem_map.1 mem
    exact List.count_eq_zero_of_not_mem (slash_not_mem_encode escapes s)
  rw [count_encode_keepPath, count_text, count_text, none_, List.length_map] at counts
  intro s mem
  have zero : (segs.map (·.count '/'.toUInt8)).sum = 0 := by omega
  exact List.count_eq_zero.1
    (List.sum_eq_zero_iff_forall_eq_nat.1 zero _ (List.mem_map_of_mem mem))

theorem encode_ne_nil {keep : UInt8 → Bool} {v : Bytes} (percent : keep '%'.toUInt8 = false)
    (some_ : v ≠ []) : encode keep v ≠ [] := by
  intro none_
  have decoded := decode_encode percent v
  rw [none_] at decoded
  exact some_ (Option.some.inj decoded).symm

theorem unescape_zip {keep : UInt8 → Bool} (escapes : EscapesSegments keep) (ns : List String)
    (vs : List Bytes) :
    (ns.zip (vs.map (encode keep))).map (fun p => (p.1, unescapeValue p.2)) = ns.zip vs := by
  rw [List.zip_map_right, List.map_map]
  refine (List.map_congr_left fun p _ => ?_).trans (List.map_id _)
  have read : unescapeValue (encode keep p.2) = p.2 := by
    rw [unescapeValue, unescape_encode escapes.percent escapes.plus]
    rfl
  exact Prod.ext rfl read

/-- A template whose literals an escape leaves as they are, with one value for each parameter. -/
structure Sendable (keep : UInt8 → Bool) (ps : List Piece) (vs : List Bytes) : Prop where
  literals : ∀ t, .literal t ∈ ps → Plain keep t
  count : vs.length = (names ps).length
  carried : ∀ v ∈ vs, Carried v

/-- The values are matched as they are, or their escapes where the raw path is kept. -/
theorem requestPath_cases {keep : UInt8 → Bool} (escapes : EscapesSegments keep) {ps : List Piece}
    {vs : List Bytes} (sendable : Sendable keep ps vs) :
    ∃ u, parsePath (requestPath keep ps vs) = some u ∧
      ((segments u.matched = fill ps vs ∧ ∀ v, u.value v = v) ∨
        (segments u.matched = (fill ps vs).map (encode keep) ∧
          ∀ v, u.value v = unescapeValue v)) := by
  have undotted : ∀ s ∈ (fill ps vs).map (encode keep),
      isDot s = false ∧ isDoubleDot s = false := by
    intro s there
    obtain ⟨v, inside, rfl⟩ := List.mem_map.1 there
    rcases mem_fill inside with literal | value
    · have plain := sendable.literals v literal
      exact encode_not_dot escapes.percent plain.noDot plain.noDots
    · have carried := sendable.carried v value
      exact encode_not_dot escapes.percent carried.noDot carried.noDots
  rw [requestPath, normalize_plain undotted, parsePath, decode_text escapes.percent,
    Option.map_some]
  refine ⟨_, rfl, ?_⟩
  by_cases default_ : encode keepPath (text (fill ps vs)) =
      text ((fill ps vs).map (encode keep))
  · left
    rw [if_pos default_]
    refine ⟨?_, fun v => if_pos rfl⟩
    rw [Url.matched, if_pos rfl, segments_text (slash_not_mem_of_default escapes default_)]
  · right
    have raw : text ((fill ps vs).map (encode keep)) ≠ [] := by
      intro none_
      apply default_
      cases segs : fill ps vs with
      | nil => rfl
      | cons s rest =>
          rw [segs] at none_
          cases none_
    have plain : ∀ s ∈ (fill ps vs).map (encode keep), '/'.toUInt8 ∉ s := by
      intro s there
      obtain ⟨v, -, rfl⟩ := List.mem_map.1 there
      exact slash_not_mem_encode escapes v
    rw [if_neg default_]
    refine ⟨?_, fun v => if_neg raw⟩
    rw [Url.matched, if_neg raw, segments_text plain]

theorem Sendable.some_ {keep : UInt8 → Bool} {ps : List Piece} {vs : List Bytes}
    (sendable : Sendable keep ps vs) : ∀ s ∈ fill ps vs, s ≠ [] := by
  intro s there
  rcases mem_fill there with literal | value
  · exact (sendable.literals s literal).some_
  · exact (sendable.carried s value).some_

theorem Sendable.some_encoded {keep : UInt8 → Bool} (escapes : EscapesSegments keep)
    {ps : List Piece} {vs : List Bytes} (sendable : Sendable keep ps vs) :
    ∀ s ∈ (fill ps vs).map (encode keep), s ≠ [] := by
  intro s there
  obtain ⟨v, inside, rfl⟩ := List.mem_map.1 there
  exact encode_ne_nil escapes.percent (sendable.some_ v inside)

theorem Sendable.matched {keep : UInt8 → Bool} {ps : List Piece} {vs : List Bytes}
    (sendable : Sendable keep ps vs) :
    matchPieces ps (fill ps vs) = some ((names ps).zip vs) := by
  have found : matchPieces ps ((fill ps vs).map id) = _ :=
    matchPieces_fill (f := id) (fun t _ => rfl) sendable.count
      fun v there => (sendable.carried v there).some_
  rwa [List.map_id, List.map_id] at found

theorem Sendable.matched_encoded {keep : UInt8 → Bool} (escapes : EscapesSegments keep)
    {ps : List Piece} {vs : List Bytes} (sendable : Sendable keep ps vs) :
    matchPieces ps ((fill ps vs).map (encode keep)) =
      some ((names ps).zip (vs.map (encode keep))) :=
  matchPieces_fill (fun t there => encode_of_kept (sendable.literals t there).kept) sendable.count
    fun v there => encode_ne_nil escapes.percent (sendable.carried v there).some_

/-- The request for a route with escaped values is served by that route with these values, whether
the server keeps the raw path or not. -/
theorem route_requestPath {routes : List (Route α)} {router : Router α}
    (bySegments : BySegments routes router) (distinct : Apart routes) {r : Route α}
    (mem : r ∈ routes) {keep : UInt8 → Bool} (escapes : EscapesSegments keep) {vs : List Bytes}
    (sendable : Sendable keep r.pieces vs) :
    (parsePath (requestPath keep r.pieces vs)).bind (router r.method) =
      some (r, (names r.pieces).zip vs) := by
  have only {segs : List Bytes} (matched : (matchPieces r.pieces segs).isSome) (r' : Route α)
      (mem' : r' ∈ routes) (same : r'.method = r.method)
      (other : (matchPieces r'.pieces segs).isSome) : r' = r :=
    distinct.only mem mem' same matched other
  obtain ⟨u, parsed, cases_⟩ := requestPath_cases escapes sendable
  rw [parsed, Option.bind_some]
  rcases cases_ with ⟨segs, value⟩ | ⟨segs, value⟩
  · have matched : matchPieces r.pieces (segments u.matched) = _ := segs ▸ sendable.matched
    rw [bySegments.found r mem u _ (segs ▸ sendable.some_) matched (only (matched ▸ rfl))]
    simp only [value, List.map_id']
  · have matched : matchPieces r.pieces (segments u.matched) = _ :=
      segs ▸ sendable.matched_encoded escapes
    rw [bySegments.found r mem u _ (segs ▸ sendable.some_encoded escapes) matched
      (only (matched ▸ rfl))]
    simp only [value, unescape_zip escapes]

/-- The request for a template that all routes are apart from is served by none. -/
theorem route_requestPath_none {routes : List (Route α)} {router : Router α}
    (bySegments : BySegments routes router) {method : String} {ps : List Piece}
    (far : ∀ r ∈ routes, r.method = method → apart r.pieces ps = true) {keep : UInt8 → Bool}
    (escapes : EscapesSegments keep) {vs : List Bytes} (sendable : Sendable keep ps vs) :
    (parsePath (requestPath keep ps vs)).bind (router method) = none := by
  have unmatched {segs : List Bytes} (matched : (matchPieces ps segs).isSome) (r : Route α)
      (mem : r ∈ routes) (same : r.method = method) : matchPieces r.pieces segs = none := by
    rw [← Option.not_isSome_iff_eq_none]
    intro other
    have away := far r mem same
    rw [not_apart other matched] at away
    cases away
  obtain ⟨u, parsed, cases_⟩ := requestPath_cases escapes sendable
  rw [parsed, Option.bind_some]
  rcases cases_ with ⟨segs, -⟩ | ⟨segs, -⟩
  · refine bySegments.none_ method u (segs ▸ sendable.some_) ?_
    rw [segs]
    exact unmatched (by rw [sendable.matched]; rfl)
  · refine bySegments.none_ method u (segs ▸ sendable.some_encoded escapes) ?_
    rw [segs]
    exact unmatched (by rw [sendable.matched_encoded escapes]; rfl)

end Routing
