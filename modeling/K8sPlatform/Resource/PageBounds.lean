import K8sPlatform.Lib.Validation
import K8sPlatform.Resource.Listing

/-! # The indices of a page -/

namespace K8sPlatform.Resource

open Errcode

/-- What a page is cut from: the matching objects of the indexer, or of the first ones that the API
server lists. -/
def matched (srv : Server) (listed : Listed) (clusterCode : String) (gvk : GVK)
    (ns keyword : String) : Except Error (List Json) :=
  if clusterCode = "" then .error (.new .invalidArgument "cluster code 不能为空")
  else
    match listed.indexer with
    | some objects =>
        .ok (objects.filter fun u =>
          inNamespace (listNamespace gvk ns) u && matchesKeyword keyword u)
    | none =>
      match reach srv clusterCode with
      | .error err => .error err
      | .ok () =>
        match listed.list (listNamespace gvk ns) listLimit with
        | .error err => .error (.wrapMsg .k8sAPIError err ("list " ++ gvk.text))
        | .ok items => .ok (items.filter (matchesKeyword keyword))

/-- How many objects are before the page. -/
def offset (page size : Int) : Int := (pageNumber page - 1) * pageSize size

def startIndex (page size : Int) : Int := Int.bmod (offset page size) (2 ^ 64)

def endIndex (page size : Int) (length : Nat) : Int :=
  min (Int.bmod (startIndex page size + pageSize size) (2 ^ 64)) length

variable {srv : Server} {listed : Listed} {clusterCode : String} {gvk : GVK} {ns keyword : String}
  {filtered : List Json} {page size : Int}

theorem listResources_matched (srv : Server) (listed : Listed) (clusterCode : String) (gvk : GVK)
    (ns keyword : String) (page size : Int) :
    listResources srv listed clusterCode gvk ns keyword page size =
      ((matched srv listed clusterCode gvk ns keyword).mapError .failed).bind fun filtered =>
        listResult filtered (pageNumber page) (pageSize size) := by
  unfold listResources matched
  split
  · rfl
  · cases listed.indexer with
    | some objects => rfl
    | none =>
        dsimp only
        unfold listFromAPI
        cases reach srv clusterCode with
        | error err => rfl
        | ok u =>
            dsimp only
            cases listed.list (listNamespace gvk ns) listLimit <;> rfl

/-- The indices that a page is sliced with. -/
theorem listResult_indices : listResult filtered (pageNumber page) (pageSize size) =
    if startIndex page size ≥ filtered.length then .ok ⟨filtered.length, []⟩
    else if startIndex page size < 0 ∨
        endIndex page size filtered.length < startIndex page size then .error .panicked
    else .ok ⟨filtered.length, (filtered.take (endIndex page size filtered.length).toNat).drop
      (startIndex page size).toNat⟩ := rfl

theorem pageSize_bounds (size : Int) : 1 ≤ pageSize size ∧ pageSize size ≤ 200 := by
  unfold pageSize
  split_ifs <;> omega

theorem offset_nonneg (page size : Int) : 0 ≤ offset page size := by
  have number : 0 ≤ pageNumber page - 1 := by
    unfold pageNumber
    split_ifs <;> omega
  have count := pageSize_bounds size
  exact Int.mul_nonneg number (by omega)

/-- Of a call that finds `length` objects: what is sliced is within bounds, the call does not panic,
and a page past the end is empty. -/
structure PagesSafely (srv : Server) (listed : Listed) (clusterCode : String) (gvk : GVK)
    (ns keyword : String) (page size : Int) (length : Nat) : Prop where
  indices : startIndex page size < length → 0 ≤ startIndex page size ∧
    startIndex page size ≤ endIndex page size length ∧ endIndex page size length ≤ length
  sliced : listResources srv listed clusterCode gvk ns keyword page size ≠ .error .panicked
  pastEnd : length ≤ offset page size →
    listResources srv listed clusterCode gvk ns keyword page size = .ok ⟨length, []⟩

/-- The last object of the page is within the numbers of 64 bits, or the offset wraps to an index
behind the objects. -/
def OffsetFits (page size : Int) (length : Nat) : Prop :=
  offset page size + pageSize size < 2 ^ 63 ∨
    length ≤ offset page size % 2 ^ 64 ∧ offset page size % 2 ^ 64 < 2 ^ 63

theorem startIndex_eq_iff {length : Nat} (small : length < 2 ^ 63) :
    (length ≤ offset page size % 2 ^ 64 ∧ offset page size % 2 ^ 64 < 2 ^ 63) ↔
      length ≤ startIndex page size := by
  rw [startIndex, Int.bmod_def]
  have below := Int.emod_nonneg (offset page size) (b := 2 ^ 64) (by decide)
  split_ifs <;> omega

/-- The indices are within bounds, and a page past the end is not sliced, just when the offset
fits. -/
theorem indices_iff {length : Nat} (small : length < 2 ^ 63) :
    (startIndex page size < length → (0 ≤ startIndex page size ∧
        startIndex page size ≤ endIndex page size length) ∧ offset page size < length) ↔
      OffsetFits page size length := by
  rw [OffsetFits, startIndex_eq_iff small]
  have positive := offset_nonneg page size
  obtain ⟨lower, upper⟩ := pageSize_bounds size
  unfold endIndex startIndex
  generalize offset page size = before at *
  generalize pageSize size = count at *
  rw [Int.bmod_def, Int.bmod_def]
  constructor
  · intro bounds
    by_contra unmet
    rw [not_or] at unmet
    obtain ⟨large, short⟩ := unmet
    have within := bounds (by omega)
    split_ifs at * <;> omega
  · rintro (fits | behind) start
    · split_ifs at * <;> omega
    · omega

theorem startIndex_lt_endIndex {length : Nat}
    (nonneg : 0 ≤ startIndex page size) (start : startIndex page size < length)
    (ordered : startIndex page size ≤ endIndex page size length) :
    startIndex page size < endIndex page size length := by
  obtain ⟨lower, upper⟩ := pageSize_bounds size
  unfold endIndex at *
  rw [Int.bmod_def] at *
  split_ifs at * <;> omega

/-- A page is safe just when its offset fits. -/
theorem pagesSafely_iff (srv : Server) (listed : Listed) (clusterCode : String) (gvk : GVK)
    (ns keyword : String) (page size : Int) (filtered : List Json)
    (found : matched srv listed clusterCode gvk ns keyword = .ok filtered)
    (small : filtered.length < 2 ^ 63) :
    PagesSafely srv listed clusterCode gvk ns keyword page size filtered.length ↔
      OffsetFits page size filtered.length := by
  have result : listResources srv listed clusterCode gvk ns keyword page size =
      listResult filtered (pageNumber page) (pageSize size) := by
    rw [listResources_matched, found]
    rfl
  obtain ⟨lower, -⟩ := pageSize_bounds size
  rw [← indices_iff small]
  constructor
  · intro safe start
    obtain ⟨nonneg, ordered, -⟩ := safe.indices start
    refine ⟨⟨nonneg, ordered⟩, ?_⟩
    by_contra past
    have empty := safe.pastEnd (by omega)
    rw [result, listResult_indices, if_neg (by omega), if_neg (by omega)] at empty
    -- the slice has the object at the start index
    have items := congrArg ListResult.items (Except.ok.inj empty)
    have lengths := congrArg List.length items
    have some_ := startIndex_lt_endIndex nonneg start ordered
    have within : endIndex page size filtered.length ≤ filtered.length := min_le_right _ _
    rw [List.length_drop, List.length_take, List.length_nil] at lengths
    omega
  · intro bounds
    refine ⟨fun start => ?_, ?_, fun past => ?_⟩
    · obtain ⟨⟨nonneg, ordered⟩, -⟩ := bounds start
      exact ⟨nonneg, ordered, min_le_right _ _⟩
    · rw [result, listResult_indices]
      split
      · exact fun panicked => by cases panicked
      · rename_i start
        obtain ⟨⟨nonneg, ordered⟩, -⟩ := bounds (by omega)
        rw [if_neg (by omega)]
        exact fun panicked => by cases panicked
    · rw [result, listResult_indices]
      by_cases start : startIndex page size < filtered.length
      · have before := (bounds start).2
        omega
      · rw [if_pos (by omega)]

/-- An indexer with one config map. -/
def oneConfigMap : Listed where
  indexer := some [.obj [("metadata", .obj [("name", .str "app")])]]
  list _ _ := .ok []

def quietServer : Server where
  connect _ := .ok ()
  wait _ := .ok ()
  cached _ _ _ := none
  get _ _ := .error "not found"
  patch _ _ := .error "not found"
  delete _ _ := .error "not found"

def configMaps : GVK := ⟨"", "v1", "ConfigMap"⟩

theorem secondPage_safe : PagesSafely quietServer oneConfigMap "prod" configMaps "" "" 2 20 1 :=
  (pagesSafely_iff quietServer oneConfigMap "prod" configMaps "" "" 2 20
    [.obj [("metadata", .obj [("name", .str "app")])]] rfl (by decide)).2 (.inl (by decide))

/-- With the largest page number that a query can carry the slice begins before the first object. -/
theorem largestPage_panics :
    Validation.atoiValue "9223372036854775807" = 2 ^ 63 - 1 ∧
      startIndex (Validation.atoiValue "9223372036854775807") (Validation.atoiValue "20") = -40 ∧
      listResources quietServer oneConfigMap "prod" configMaps "" ""
        (Validation.atoiValue "9223372036854775807") (Validation.atoiValue "20") =
          .error .panicked ∧
      ¬PagesSafely quietServer oneConfigMap "prod" configMaps "" ""
        (Validation.atoiValue "9223372036854775807") (Validation.atoiValue "20") 1 := by
  have page : Validation.atoiValue "9223372036854775807" = 2 ^ 63 - 1 := by decide +kernel
  have size : Validation.atoiValue "20" = 20 := by decide +kernel
  rw [page, size]
  have panics : listResources quietServer oneConfigMap "prod" configMaps "" "" (2 ^ 63 - 1) 20 =
      .error .panicked := rfl
  exact ⟨rfl, by decide, panics, fun safe => safe.sliced panics⟩

end K8sPlatform.Resource
