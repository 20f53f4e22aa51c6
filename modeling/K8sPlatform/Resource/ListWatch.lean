import K8sPlatform.Resource.Informers
import K8sPlatform.Resource.Object

/-! # The paged list of an informer -/

namespace K8sPlatform.Resource

open Errcode

structure ListOptions where
  limit : Int
  continue_ : String
  resourceVersion : String
  labelSelector : String
  fieldSelector : String
  deriving DecidableEq, Repr

structure UnstructuredList where
  apiVersion : String
  kind : String
  resourceVersion : String
  items : List Json

/-- The answer to the list call of a page: its items, and the token of the next page if any. -/
structure PageAnswer where
  items : List Json
  continue_ : String

/-- What the loop meets at its n-th page: the error of the rate limiter, the answer, and the error
of a context that ends before the next page. -/
structure PageCalls where
  wait : Nat → Option String
  list : Nat → Option String → ListOptions → Except String PageAnswer
  done : Nat → Option String

def GVR.text (gvr : GVR) : String :=
  gvr.group ++ "/" ++ gvr.version ++ ", Resource=" ++ gvr.resource

def GVR.groupVersion (gvr : GVR) : String :=
  if gvr.group = "" then gvr.version else gvr.group ++ "/" ++ gvr.version

/-- The configured page size, or the limit of the options if that is smaller. -/
def listPageLimit (listPageSize : Int) (options : ListOptions) : Int :=
  let pageSize := if listPageSize ≤ 0 then 500 else listPageSize
  if options.limit > 0 ∧ options.limit < pageSize then options.limit else pageSize

/-- The options of a page. Every page has the resource version of the list. -/
def pageOptions (options : ListOptions) (limit : Int) (continueTok : String) : ListOptions :=
  { options with limit := limit, continue_ := continueTok }

variable (k : PageCalls) (gvr : GVR) (ns : Option String) (options : ListOptions) (limit : Int)

/-- The loop over the pages; `none` when the fuel ends before the pages. -/
def listLoop : Nat → Nat → String → List Json → Option (Except Error (List Json))
  | 0, _, _, _ => none
  | fuel + 1, n, continueTok, allItems =>
    match k.wait n with
    | some err => some (.error (.wrapMsg .k8sAPIRateLimited err "rate limiter wait"))
    | none =>
      match k.list n ns (pageOptions options limit continueTok) with
      | .error err => some (.error (.wrapMsg .k8sAPIError err ("list " ++ gvr.text)))
      | .ok list =>
        let allItems := allItems ++ list.items
        if list.continue_ = "" then some (.ok allItems)
        else
          match k.done n with
          | some err => some (.error (.wrapMsg .k8sAPIError err "list timeout"))
          | none => listLoop fuel (n + 1) list.continue_ allItems

/-- The version of the list is that of its last item. -/
def listVersion (allItems : List Json) : String :=
  match allItems.getLast? with
  | some item => if item.resourceVersion = "" then "0" else item.resourceVersion
  | none => "0"

def listFunc (listPageSize : Int) (ns : String) (fuel : Nat) :
    Option (Except Error UnstructuredList) :=
  let found := listLoop k gvr (if ns = "" then none else some ns) options
    (listPageLimit listPageSize options) fuel 0 options.continue_ []
  found.map fun result => result.map fun allItems =>
    ⟨gvr.groupVersion, "List", listVersion allItems, allItems⟩

/-- The function returns, whatever more fuel it has. -/
def ListReturns (listPageSize : Int) (ns : String) (result : Except Error UnstructuredList) :
    Prop :=
  ∃ fuel, ∀ more, listFunc k gvr options listPageSize ns (fuel + more) = some result

/-! ## A server with one snapshot -/

/-- An API server that serves a snapshot page by page: the token of a position, the number of items
that it puts on a page, at least one, and the moments that resource versions stand for. -/
structure SnapshotServer where
  snapshot : List Json
  resourceVersion : String
  token : Nat → String
  position : String → Nat
  perPage : ListOptions → Nat
  moment : String → Nat
  token_ne : ∀ n, token n ≠ ""
  position_token : ∀ n, position (token n) = n
  position_empty : position "" = 0
  perPage_pos : ∀ o, 0 < perPage o
  moment_zero : moment "0" = 0
  written : ∀ o ∈ snapshot, moment o.resourceVersion ≤ moment resourceVersion

/-- A token is refused beside a resource version other than `0`. -/
def SnapshotServer.list (srv : SnapshotServer) (o : ListOptions) : Except String PageAnswer :=
  if o.continue_ ≠ "" ∧ o.resourceVersion ≠ "" ∧ o.resourceVersion ≠ "0" then
    .error "specifying resource version is not allowed when using continue"
  else
    let next := srv.position o.continue_ + srv.perPage o
    .ok ⟨(srv.snapshot.drop (srv.position o.continue_)).take (srv.perPage o),
      if next < srv.snapshot.length then srv.token next else ""⟩

/-- Calls that the server answers, as long as they are in time. -/
def SnapshotServer.Answers (srv : SnapshotServer) (k : PageCalls) : Prop :=
  ∀ n ns o, k.list n ns o = srv.list o ∨ ∃ err, k.list n ns o = .error err

/-- No call of the loop times out. -/
structure SnapshotServer.InTime (srv : SnapshotServer) (k : PageCalls) : Prop where
  wait : ∀ n, k.wait n = none
  list : ∀ n ns o, k.list n ns o = srv.list o
  done : ∀ n, k.done n = none

/-- The list has every object of the snapshot once, and a version that is not later. -/
structure SnapshotServer.Complete (srv : SnapshotServer) (list : UnstructuredList) : Prop where
  items : list.items = srv.snapshot
  version : srv.moment list.resourceVersion ≤ srv.moment srv.resourceVersion

/-- The second page is not refused, or there is none. -/
def SnapshotServer.Listable (srv : SnapshotServer) (listPageSize : Int) (options : ListOptions) :
    Prop :=
  options.resourceVersion = "" ∨ options.resourceVersion = "0" ∨
    srv.snapshot.length ≤
      srv.perPage (pageOptions options (listPageLimit listPageSize options) "")

variable {k gvr ns options limit} {srv : SnapshotServer}

theorem SnapshotServer.moment_listVersion (srv : SnapshotServer) :
    srv.moment (listVersion srv.snapshot) ≤ srv.moment srv.resourceVersion := by
  unfold listVersion
  split
  case h_1 item last =>
    split
    · rw [srv.moment_zero]
      exact Nat.zero_le _
    · exact srv.written item (List.mem_of_getLast? last)
  case h_2 =>
    rw [srv.moment_zero]
    exact Nat.zero_le _

/-- The page that the server answers with, for the objects behind the first `start`. -/
def SnapshotServer.pageFrom (srv : SnapshotServer) (start size : Nat) : PageAnswer :=
  ⟨(srv.snapshot.drop start).take size,
    if start + size < srv.snapshot.length then srv.token (start + size) else ""⟩

theorem SnapshotServer.list_eq (srv : SnapshotServer) (o : ListOptions) :
    srv.list o =
      if o.continue_ ≠ "" ∧ o.resourceVersion ≠ "" ∧ o.resourceVersion ≠ "0" then
        .error "specifying resource version is not allowed when using continue"
      else .ok (srv.pageFrom (srv.position o.continue_) (srv.perPage o)) := rfl

/-- What is collected after a page: the objects up to its end. -/
theorem SnapshotServer.take_append_pageFrom (srv : SnapshotServer) (start size : Nat) :
    srv.snapshot.take start ++ (srv.pageFrom start size).items =
      srv.snapshot.take (start + size) := List.take_add.symm

/-- Where a page has no token, all is collected. -/
theorem SnapshotServer.continue_eq (srv : SnapshotServer) (start size : Nat) :
    (srv.pageFrom start size).continue_ = "" ↔ srv.snapshot.length ≤ start + size := by
  unfold pageFrom
  dsimp only
  split
  case isTrue more => simp [srv.token_ne, more]
  case isFalse whole => simp [not_lt.1 whole]

/-- One turn of the loop, in time, for a page that the server does not refuse. -/
theorem listLoop_page (inTime : srv.InTime k) {start : Nat} {tok : String}
    (there : srv.position tok = start)
    (allowed : tok = "" ∨ options.resourceVersion = "" ∨ options.resourceVersion = "0")
    (fuel n : Nat) {size : Nat} (per : srv.perPage (pageOptions options limit tok) = size) :
    listLoop k gvr ns options limit (fuel + 1) n tok (srv.snapshot.take start) =
      if srv.snapshot.length ≤ start + size then some (.ok srv.snapshot)
      else listLoop k gvr ns options limit fuel (n + 1) (srv.token (start + size))
        (srv.snapshot.take (start + size)) := by
  have answer : srv.list (pageOptions options limit tok) = .ok (srv.pageFrom start size) := by
    rw [srv.list_eq, per, if_neg]
    · exact congrArg (fun p => Except.ok (srv.pageFrom p size)) there
    · rintro ⟨token, some_, other⟩
      rcases allowed with none_ | empty | zero
      · exact token none_
      · exact some_ empty
      · exact other zero
  simp only [listLoop, inTime.wait, inTime.list, inTime.done, answer, srv.take_append_pageFrom,
    srv.continue_eq]
  split
  case isTrue whole => rw [List.take_of_length_le whole]
  case isFalse more => simp [SnapshotServer.pageFrom, not_le.1 more]

/-- Without a version of its own, the loop goes through all pages. -/
theorem listLoop_collects (inTime : srv.InTime k)
    (allowed : options.resourceVersion = "" ∨ options.resourceVersion = "0") (start n : Nat)
    {tok : String} (there : srv.position tok = start) :
    ∃ fuel, ∀ more, listLoop k gvr ns options limit (fuel + more) n tok
      (srv.snapshot.take start) = some (.ok srv.snapshot) := by
  obtain ⟨size, per⟩ : ∃ size, srv.perPage (pageOptions options limit tok) = size := ⟨_, rfl⟩
  have pos : 0 < size := per ▸ srv.perPage_pos _
  by_cases whole : srv.snapshot.length ≤ start + size
  · refine ⟨1, fun more => ?_⟩
    rw [Nat.add_comm, listLoop_page inTime there (.inr allowed) more n per, if_pos whole]
  · -- fewer objects are left behind the page, so the rest is by induction on their number
    obtain ⟨fuel, rest⟩ := listLoop_collects inTime allowed (start + size) (n + 1)
      (srv.position_token (start + size))
    refine ⟨fuel + 1, fun more => ?_⟩
    rw [Nat.add_right_comm, listLoop_page inTime there (.inr allowed) _ n per, if_neg whole]
    exact rest more
termination_by srv.snapshot.length - start

/-- The whole snapshot is on the first page. -/
theorem listLoop_onePage (inTime : srv.InTime k) (n : Nat)
    (fits : srv.snapshot.length ≤ srv.perPage (pageOptions options limit "")) (more : Nat) :
    listLoop k gvr ns options limit (1 + more) n "" [] = some (.ok srv.snapshot) := by
  have first : listLoop k gvr ns options limit (more + 1) n "" (srv.snapshot.take 0) = _ :=
    listLoop_page inTime srv.position_empty (.inl rfl) more n rfl
  rw [if_pos (by rwa [Nat.zero_add]), List.take_zero] at first
  rw [Nat.add_comm, first]

/-- The second page carries both the token and the version, and is refused. -/
theorem listLoop_refused (inTime : srv.InTime k) (some_ : options.resourceVersion ≠ "")
    (other : options.resourceVersion ≠ "0") (n : Nat)
    (long : ¬srv.snapshot.length ≤ srv.perPage (pageOptions options limit "")) :
    ∃ err, ∀ more, listLoop k gvr ns options limit (2 + more) n "" [] = some (.error err) := by
  refine ⟨.wrapMsg .k8sAPIError
    "specifying resource version is not allowed when using continue" ("list " ++ gvr.text), ?_⟩
  intro more
  have first : listLoop k gvr ns options limit (more + 1 + 1) n "" (srv.snapshot.take 0) = _ :=
    listLoop_page inTime srv.position_empty (.inl rfl) (more + 1) n rfl
  rw [if_neg (by rwa [Nat.zero_add]), List.take_zero] at first
  rw [Nat.add_comm 2 more, first]
  have refused (tok : String) (token : tok ≠ "") :
      srv.list (pageOptions options limit tok) =
        .error "specifying resource version is not allowed when using continue" := by
    rw [srv.list_eq, if_pos ⟨token, some_, other⟩]
  simp only [listLoop, inTime.wait, inTime.list, refused _ (srv.token_ne _)]

/-- What the function returns is made of what its loop returns. -/
theorem listReturns_of_loop {listPageSize : Int} {ns : String} (fresh : options.continue_ = "")
    {found : Except Error (List Json)}
    (loop : ∃ fuel, ∀ more, listLoop k gvr (if ns = "" then none else some ns) options
      (listPageLimit listPageSize options) (fuel + more) 0 "" [] = some found) :
    ListReturns k gvr options listPageSize ns
      (found.map fun items => ⟨gvr.groupVersion, "List", listVersion items, items⟩) := by
  obtain ⟨fuel, returns⟩ := loop
  refine ⟨fuel, fun more => ?_⟩
  rw [listFunc, fresh, returns more]
  rfl

/-- In time, the list returns, and is complete just when the server does not refuse the second page:
the options have no concrete version, or there is no second page. -/
theorem list_complete_iff (inTime : srv.InTime k) (gvr : GVR) (ns : String) (listPageSize : Int)
    {options : ListOptions} (fresh : options.continue_ = "") :
    ∃ result, ListReturns k gvr options listPageSize ns result ∧
      ((∃ list, result = .ok list ∧ srv.Complete list) ↔ srv.Listable listPageSize options) := by
  have complete (loop : ∃ fuel, ∀ more, listLoop k gvr (if ns = "" then none else some ns) options
      (listPageLimit listPageSize options) (fuel + more) 0 "" [] = some (.ok srv.snapshot)) :
      ∃ list, ListReturns k gvr options listPageSize ns (.ok list) ∧ srv.Complete list :=
    ⟨_, listReturns_of_loop fresh loop, rfl, srv.moment_listVersion⟩
  by_cases listable : srv.Listable listPageSize options
  · have loop : ∃ list, ListReturns k gvr options listPageSize ns (.ok list) ∧
        srv.Complete list := by
      rcases listable with empty | zero | fits
      · exact complete (listLoop_collects inTime (.inl empty) 0 0 srv.position_empty)
      · exact complete (listLoop_collects inTime (.inr zero) 0 0 srv.position_empty)
      · exact complete ⟨1, listLoop_onePage inTime 0 fits⟩
    obtain ⟨list, returns, whole⟩ := loop
    exact ⟨_, returns, iff_of_true ⟨list, rfl, whole⟩ listable⟩
  · have concrete := not_or.1 listable
    have other := not_or.1 concrete.2
    obtain ⟨err, refused⟩ := listLoop_refused inTime concrete.1 other.1 0 other.2
    refine ⟨_, listReturns_of_loop fresh ⟨2, refused⟩, iff_of_false ?_ listable⟩
    rintro ⟨list, returned, -⟩
    cases returned

theorem ListReturns.unique {listPageSize : Int} {ns : String}
    {result result' : Except Error UnstructuredList}
    (returns : ListReturns k gvr options listPageSize ns result)
    (returns' : ListReturns k gvr options listPageSize ns result') : result = result' := by
  obtain ⟨fuel, first⟩ := returns
  obtain ⟨fuel', second⟩ := returns'
  have same := first fuel'
  rw [Nat.add_comm, second fuel] at same
  exact (Option.some.inj same).symm

theorem listLoop_whole (answers : srv.Answers k) {items : List Json} (fuel : Nat) :
    ∀ {n start : Nat} {tok : String}, srv.position tok = start →
      listLoop k gvr ns options limit fuel n tok (srv.snapshot.take start) = some (.ok items) →
      items = srv.snapshot := by
  induction fuel with
  | zero =>
      intro n start tok _ returned
      cases returned
  | succ fuel ih =>
      intro n start tok there returned
      rw [listLoop] at returned
      split at returned
      · cases returned
      split at returned
      · cases returned
      rename_i page answered
      have served : srv.list (pageOptions options limit tok) = .ok page := by
        rcases answers n ns (pageOptions options limit tok) with own | ⟨err, failed⟩
        · rw [← own, answered]
        · rw [failed] at answered
          cases answered
      rw [srv.list_eq] at served
      split at served
      · cases served
      obtain rfl := Except.ok.inj served
      have position : srv.position (pageOptions options limit tok).continue_ = start := there
      simp only [position, srv.take_append_pageFrom, srv.continue_eq] at returned
      split at returned
      case isTrue whole =>
        rw [List.take_of_length_le whole] at returned
        exact (Except.ok.inj (Option.some.inj returned)).symm
      case isFalse more =>
        split at returned
        · cases returned
        · refine ih ?_ returned
          rw [SnapshotServer.pageFrom, if_pos (not_le.1 more), srv.position_token]

/-- A list that times out is an error: no part of the snapshot is returned as the list. -/
theorem listFunc_complete (answers : srv.Answers k) (fresh : options.continue_ = "")
    {listPageSize : Int} {ns : String} {fuel : Nat} {list : UnstructuredList}
    (returned : listFunc k gvr options listPageSize ns fuel = some (.ok list)) :
    srv.Complete list := by
  unfold listFunc at returned
  rw [fresh] at returned
  cases found : listLoop k gvr (if ns = "" then none else some ns) options
      (listPageLimit listPageSize options) fuel 0 "" [] with
  | none => simp [found] at returned
  | some result =>
      cases result with
      | error err => simp [found, Except.map] at returned
      | ok items =>
          obtain rfl := listLoop_whole answers fuel srv.position_empty found
          simp only [found, Option.map_some, Except.map, Option.some.injEq, Except.ok.injEq]
            at returned
          obtain rfl := returned
          exact ⟨rfl, srv.moment_listVersion⟩

def podOf (i : Nat) : Json :=
  .obj [("metadata", .obj [("name", .str ("web-" ++ toString i)), ("resourceVersion", .str "41")])]

/-- A server with so many pods, at revision 90, that fills its pages. -/
def podServer (pods : Nat) : SnapshotServer where
  snapshot := (List.range pods).map podOf
  resourceVersion := "90"
  token n := String.ofList (List.replicate (n + 1) 'x')
  position tok := tok.length - 1
  perPage o := max 1 o.limit.toNat
  moment version := Nat.ofDigitChars 10 version.toList 0
  token_ne n := by simp [List.replicate_succ]
  position_token n := by simp
  position_empty := rfl
  perPage_pos o := Nat.le_max_left ..
  moment_zero := by decide
  written o mem := by
    obtain ⟨i, -, rfl⟩ := List.mem_map.1 mem
    have version : (podOf i).resourceVersion = "41" := rfl
    rw [version]
    decide

def callsOf (srv : SnapshotServer) : PageCalls where
  wait _ := none
  list _ _ := srv.list
  done _ := none

theorem callsOf_inTime (srv : SnapshotServer) : srv.InTime (callsOf srv) where
  wait _ := rfl
  list _ _ _ := rfl
  done _ := rfl

def podsResource : GVR := ⟨"", "v1", "pods"⟩

def listFrom (resourceVersion : String) : ListOptions := ⟨0, "", resourceVersion, "", ""⟩

/-- A relist of 501 pods from revision 88 is refused at its second page. -/
theorem relist_refused :
    (podServer 501).InTime (callsOf (podServer 501)) ∧
      ¬∃ list,
        ListReturns (callsOf (podServer 501)) podsResource (listFrom "88") 500 "" (.ok list) ∧
        (podServer 501).Complete list := by
  refine ⟨callsOf_inTime _, ?_⟩
  rintro ⟨list, returned, -⟩
  have long : ¬(podServer 501).snapshot.length ≤
      (podServer 501).perPage (pageOptions (listFrom "88") 500 "") := by
    simp [podServer, pageOptions]
  obtain ⟨err, refused⟩ := listLoop_refused (callsOf_inTime (podServer 501)) (by decide) (by decide)
    0 long
  cases returned.unique (listReturns_of_loop rfl ⟨2, refused⟩)

/-- The first list of the same pods has all of them. -/
theorem first_list_complete :
    ∃ result, ListReturns (callsOf (podServer 501)) podsResource (listFrom "0") 500 "" result ∧
      ∃ list, result = .ok list ∧ (podServer 501).Complete list := by
  obtain ⟨result, returns, complete⟩ :=
    list_complete_iff (callsOf_inTime (podServer 501)) podsResource "" 500
      (rfl : (listFrom "0").continue_ = "")
  exact ⟨result, returns, complete.2 (.inr (.inl rfl))⟩

end K8sPlatform.Resource
