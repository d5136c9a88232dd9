import DiffDigest.Toml.Value
import DiffDigest.Word

/-!
# Records

A record with named fields is written as a table, or as an array that gives the
fields in their declared order.  Whatever else the table or array holds is passed
over; but a table is read to its end, so all its numbers have to be in range.
-/

namespace DiffDigest.Toml

theorem sizeOf_snd_lt_of_mem {field : String × Value} {fields : Fields} (member : field ∈ fields) :
    sizeOf field.2 < sizeOf fields := by
  have whole := List.sizeOf_lt_of_mem member
  obtain ⟨key, value⟩ := field
  rw [Prod.mk.sizeOf_spec] at whole
  change sizeOf value < sizeOf fields
  omega

def Value.inRange : Value → Bool
  | .integer value => (-Word.size64 * Word.half64 : Int) ≤ value && value < Word.size64 * Word.size64
  | .float value => value.isSome
  | .array items => items.attach.all fun item => inRange item.1
  | .table _ fields => fields.attach.all fun field => inRange field.1.2
  | .tables earlier last =>
      (earlier.attach.all fun fields => fields.1.attach.all fun field => inRange field.1.2) &&
        last.attach.all fun field => inRange field.1.2
  | _ => true
termination_by value => sizeOf value
decreasing_by
  · have inside := List.sizeOf_lt_of_mem item.2
    rw [Value.array.sizeOf_spec]
    omega
  · have inside := sizeOf_snd_lt_of_mem field.2
    rw [Value.table.sizeOf_spec]
    omega
  · have inside := sizeOf_snd_lt_of_mem field.2
    have outer := List.sizeOf_lt_of_mem fields.2
    rw [Value.tables.sizeOf_spec]
    omega
  · have inside := sizeOf_snd_lt_of_mem field.2
    rw [Value.tables.sizeOf_spec]
    omega

/-- A field of a record, and whether an array may end before it. -/
structure FieldName where
  name : String
  optional : Bool

/-- The fields of a record in the order of their names; `none` marks an absent one. -/
def record? (names : List FieldName) : Value → Option (List (Option Value))
  | .table _ fields =>
      let others := fields.filter fun field => !names.any fun name => name.name = field.1
      if others.all fun field => field.2.inRange then
        some (names.map fun name => fields.lookup name.name)
      else none
  | .moment _ => some (names.map fun _ => none)
  | value => do
      let items ← value.items?
      if (names.drop items.length).all FieldName.optional then
        pure ((items.take names.length).map some ++
          List.replicate (names.length - items.length) none)
      else none

def optional? {α : Type} (decode : Value → Option α) : Option Value → Option (Option α)
  | none => some none
  | some value => (decode value).map some

def listOf? {α : Type} (decode : Value → Option α) (value : Value) : Option (List α) := do
  (← value.items?).mapM decode

end DiffDigest.Toml
