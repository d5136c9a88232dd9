import DiffDigest.Text.Utf8

/-!
# Placeholders

A placeholder in a text names a variable between braces and stands for its
value.  The text is read once: values are not looked into.  A placeholder that
is not closed is plain text.
-/

namespace DiffDigest

abbrev Environment :=
  List (String × Bytes)

namespace Environment

/-- The value of a variable; one that is no valid text counts as not set. -/
def value? (environment : Environment) (name : String) : Option String :=
  if name.isEmpty || name.toList.any fun c => c = '=' || c = '\x00' then none
  else (environment.lookup name).bind Utf8.decode?

end Environment

namespace Placeholder

def close? : List Char → Option (List Char × List Char)
  | [] => none
  | c :: rest =>
      if c = '}' then some ([], rest)
      else (close? rest).map fun (name, behind) => (c :: name, behind)

theorem close?_eq_some {text name behind : List Char} (h : close? text = some (name, behind)) :
    text = name ++ '}' :: behind ∧ '}' ∉ name := by
  induction text generalizing name behind with
  | nil => cases h
  | cons c rest ih =>
      unfold close? at h
      split at h
      · cases h
        simp_all
      · obtain ⟨⟨inner, after⟩, found, same⟩ := Option.map_eq_some_iff.1 h
        cases same
        obtain ⟨text, absent⟩ := ih found
        refine ⟨by simp [text], ?_⟩
        rintro (_ | ⟨_, member⟩)
        · simp_all
        · exact absent member

theorem close?_length_lt {text name behind : List Char}
    (h : close? text = some (name, behind)) : behind.length < text.length := by
  rw [(close?_eq_some h).1]
  simp
  omega

/-- A text with the values of its placeholders; what has no value vanishes. -/
def expandChars (value? : String → Option String) : List Char → List Char
  | [] => []
  | '$' :: '{' :: rest =>
      match _closed : close? rest with
      | none => '$' :: '{' :: rest
      | some (name, behind) =>
          ((value? (String.ofList name)).getD "").toList ++ expandChars value? behind
  | c :: rest => c :: expandChars value? rest
termination_by text => text.length
decreasing_by
  · have := close?_length_lt _closed
    simp
    omega
  · simp

def expand (environment : Environment) (text : String) : String :=
  String.ofList (expandChars environment.value? text.toList)

theorem close?_append {name : List Char} (absent : '}' ∉ name) (behind : List Char) :
    close? (name ++ '}' :: behind) = some (name, behind) := by
  induction name with
  | nil => simp [close?]
  | cons c name ih =>
      have different : c ≠ '}' := by
        rintro rfl
        exact absent List.mem_cons_self
      rw [List.cons_append, close?, if_neg different,
        ih fun member => absent (List.mem_cons_of_mem c member)]
      rfl

/-- A placeholder gives way to its value, which is not looked into. -/
theorem expandChars_placeholder (value? : String → Option String) {name : List Char}
    (absent : '}' ∉ name) (behind : List Char) :
    expandChars value? ('$' :: '{' :: (name ++ '}' :: behind)) =
      ((value? (String.ofList name)).getD "").toList ++ expandChars value? behind := by
  rw [expandChars]
  split
  · rename_i shape
    rw [close?_append absent] at shape
    cases shape
  · rename_i shape
    rw [close?_append absent] at shape
    cases shape
    rfl

end Placeholder

end DiffDigest
