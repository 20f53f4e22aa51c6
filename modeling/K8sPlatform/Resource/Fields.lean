import K8sPlatform.Resource.Object

/-! # Setting and removing the fields of an unstructured object -/

namespace K8sPlatform.Resource

/-- A field of an object; the order of the others says nothing. -/
def setField (fields : List (String × Json)) (key : String) (value : Json) :
    List (String × Json) :=
  (key, value) :: fields.filter fun e => e.1 ≠ key

/-- `SetNestedField`, without effect behind a value that has no fields. -/
def Json.setNested (j : Json) (path : List String) (value : Json) : Json :=
  match path, j with
  | [key], .obj fields => .obj (setField fields key value)
  | key :: rest, .obj fields =>
      let inner := (fields.lookup key).getD (.obj [])
      .obj (setField fields key (inner.setNested rest value))
  | _, j => j

/-- `RemoveNestedField`. -/
def Json.removeNested (j : Json) (path : List String) : Json :=
  match path, j with
  | [key], .obj fields => .obj (fields.filter fun e => e.1 ≠ key)
  | key :: rest, .obj fields =>
      match fields.lookup key with
      | some inner => .obj (setField fields key (inner.removeNested rest))
      | none => .obj fields
  | _, j => j

/-- A setter of an unstructured object: the empty string removes the field. -/
def Json.setMetadata (j : Json) (key value : String) : Json :=
  if value = "" then j.removeNested ["metadata", key]
  else j.setNested ["metadata", key] (.str value)

def Json.setName (j : Json) (name : String) : Json := j.setMetadata "name" name

def Json.setNamespace (j : Json) (ns : String) : Json := j.setMetadata "namespace" ns

def Json.setResourceVersion (j : Json) (version : String) : Json :=
  j.setMetadata "resourceVersion" version

def Json.uid (j : Json) : String := j.nestedString ["metadata", "uid"]

def Json.generateName (j : Json) : String := j.nestedString ["metadata", "generateName"]

theorem lookup_filter {fields : List (String × Json)} {key k : String} :
    (fields.filter fun e => e.1 ≠ key).lookup k = if k = key then none else fields.lookup k := by
  induction fields with
  | nil => simp
  | cons e rest ih =>
      obtain ⟨key', value⟩ := e
      by_cases removed : key' = key
      · subst removed
        rw [List.filter_cons_of_neg (by simp), ih, List.lookup_cons]
        split_ifs with same
        · rfl
        · rw [beq_false_of_ne same]
      · rw [List.filter_cons_of_pos (by simpa using removed), List.lookup_cons, ih,
          List.lookup_cons]
        by_cases same : k = key'
        · subst same
          simp only [removed, beq_self_eq_true, if_false]
        · rw [beq_false_of_ne same]

theorem lookup_setField {fields : List (String × Json)} {key k : String} {value : Json} :
    (setField fields key value).lookup k = if k = key then some value else fields.lookup k := by
  rw [setField, List.lookup_cons, lookup_filter]
  by_cases same : k = key
  · simp only [same, beq_self_eq_true, if_true]
  · simp only [beq_false_of_ne same, same, if_false]

/-- Reading a string, as the getters do. -/
def Json.readString : Option Json → String
  | some (.str s) => s
  | _ => ""

theorem Json.field_obj (fields : List (String × Json)) (key : String) :
    (Json.obj fields).field key = fields.lookup key := rfl

theorem Json.nestedString_two (j : Json) (first key : String) :
    j.nestedString [first, key] =
      readString ((j.field first).bind fun inner => inner.field key) := by
  have read : j.nested [first, key] = (j.field first).bind fun inner => inner.field key := by
    cases found : j.field first with
    | none => simp only [nested, List.foldlM, found, Option.bind_eq_bind, Option.bind_none]
    | some inner =>
        simp only [nested, List.foldlM, found, Option.bind_eq_bind, Option.bind_some]
        exact bind_pure (inner.field key)
  unfold nestedString
  rw [read]
  rfl

/-- The metadata are a map of fields. -/
def Json.HasMetadata (j : Json) : Prop :=
  ∃ all fields, j = .obj all ∧ all.lookup "metadata" = some (.obj fields)

/-- An object that has a string in its metadata has metadata. -/
theorem Json.hasMetadata_of_nestedString {j : Json} {key : String}
    (read : j.nestedString ["metadata", key] ≠ "") : j.HasMetadata := by
  rw [nestedString_two] at read
  cases j with
  | obj all =>
      rw [field_obj] at read
      cases found : all.lookup "metadata" with
      | none => exact absurd (by rw [found]; rfl) read
      | some inner =>
          cases inner with
          | obj fields => exact ⟨all, fields, rfl, found⟩
          | _ => exact absurd (by rw [found]; rfl) read
  | _ => exact absurd rfl read

theorem Json.nestedString_setNested {j : Json} (h : j.HasMetadata) (key k value : String) :
    (j.setNested ["metadata", key] (.str value)).nestedString ["metadata", k] =
      if k = key then value else j.nestedString ["metadata", k] := by
  obtain ⟨all, fields, rfl, found⟩ := h
  have set : (Json.obj all).setNested ["metadata", key] (.str value) =
      .obj (setField all "metadata" (.obj (setField fields key (.str value)))) := by
    simp only [setNested, found, Option.getD_some]
  rw [set, nestedString_two, nestedString_two, field_obj, field_obj, lookup_setField, if_pos rfl,
    found, Option.bind_some, Option.bind_some, field_obj, field_obj, lookup_setField]
  split_ifs <;> rfl

theorem Json.nestedString_removeNested (j : Json) (key k : String) :
    (j.removeNested ["metadata", key]).nestedString ["metadata", k] =
      if k = key then "" else j.nestedString ["metadata", k] := by
  cases j with
  | obj all =>
      rw [nestedString_two, nestedString_two, field_obj]
      cases found : all.lookup "metadata" with
      | none =>
          simp only [removeNested, found, field_obj, Option.bind_none]
          exact (ite_self _).symm
      | some inner =>
          have removed : (Json.obj all).removeNested ["metadata", key] =
              .obj (setField all "metadata" (inner.removeNested [key])) := by
            simp only [removeNested, found]
          rw [removed, field_obj, lookup_setField, if_pos rfl, Option.bind_some, Option.bind_some]
          cases inner with
          | obj fields =>
              rw [removeNested, field_obj, field_obj, lookup_filter]
              split_ifs <;> rfl
          | _ => exact (ite_self _).symm
  | _ => exact (ite_self _).symm

theorem Json.nestedString_setMetadata {j : Json} (h : j.HasMetadata) (key k value : String) :
    (j.setMetadata key value).nestedString ["metadata", k] =
      if k = key then value else j.nestedString ["metadata", k] := by
  unfold setMetadata
  split
  case isTrue empty => rw [nestedString_removeNested, empty]
  case isFalse => exact nestedString_setNested h key k value

/-- Removing a field of the whole object leaves its metadata. -/
theorem Json.nestedString_removeField (j : Json) (key k : String) (other : key ≠ "metadata") :
    (j.removeNested [key]).nestedString ["metadata", k] = j.nestedString ["metadata", k] := by
  cases j with
  | obj all =>
      rw [nestedString_two, nestedString_two, removeNested, field_obj, field_obj, lookup_filter,
        if_neg other.symm]
  | _ => rfl

end K8sPlatform.Resource
