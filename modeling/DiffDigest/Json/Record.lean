import DiffDigest.Json.Value
import DiffDigest.Word

/-!
# Records

A record with named fields is written as an object, or as an array that gives
the fields in their declared order.  An object may hold more fields than are
asked for; an array may leave out fields at its end, but holds no more.
-/

namespace DiffDigest.Json

/-- The fields of a record in the order of their names; `none` marks an absent one. -/
def record? (names : List String) : Json → Option (List (Option Json))
  | .object fields => some (names.map (List.lookup · fields))
  | .array items =>
      if items.length ≤ names.length then
        some (items.map some ++ List.replicate (names.length - items.length) none)
      else none
  | _ => none

def optional? {α : Type} (decode : Json → Option α) : Option Json → Option (Option α)
  | none => some none
  | some .null => some none
  | some value => (decode value).map some

def required? {α : Type} (decode : Json → Option α) (field : Option Json) : Option α :=
  field.bind decode

def listOf? {α : Type} (decode : Json → Option α) : Json → Option (List α)
  | .array items => items.mapM decode
  | _ => none

def signed64? : Json → Option Int
  | .integer value => if -Word.half64 ≤ value && value < Word.half64 then some value else none
  | _ => none

@[simp] theorem record?_object (names : List String) (fields : List (String × Json)) :
    record? names (.object fields) = some (names.map (List.lookup · fields)) :=
  rfl

theorem sizeOf_lookup_lt {fields : List (String × Json)} {name : String} {value : Json}
    (h : fields.lookup name = some value) : sizeOf value < sizeOf fields := by
  induction fields with
  | nil => cases h
  | cons field rest ih =>
      obtain ⟨key, first⟩ := field
      rw [List.lookup_cons] at h
      rw [List.cons.sizeOf_spec, Prod.mk.sizeOf_spec]
      split at h
      · cases h
        omega
      · have := ih h
        omega

/-- What a record holds is smaller than the record. -/
theorem sizeOf_record?_lt {names : List String} {json value : Json}
    {values : List (Option Json)} (h : record? names json = some values)
    (member : some value ∈ values) : sizeOf value < sizeOf json := by
  unfold record? at h
  split at h
  · cases h
    obtain ⟨name, _, found⟩ := List.mem_map.1 member
    have := sizeOf_lookup_lt found
    simp
    omega
  · split at h
    · cases h
      rcases List.mem_append.1 member with member | member
      · obtain ⟨item, member, same⟩ := List.mem_map.1 member
        cases same
        have := List.sizeOf_lt_of_mem member
        simp
        omega
      · cases (List.mem_replicate.1 member).2
    · cases h
  · cases h

end DiffDigest.Json
