import DiffDigest.Proofs.Json.Integer
import DiffDigest.Proofs.Json.Scan
import DiffDigest.Proofs.Text.Utf8
import Mathlib.Data.String.Basic

/-!
# Reading written values

A value without floats is read back from its text, if it is not nested too
deeply: its text has the tokens of the value, and these are put together again.
-/

namespace DiffDigest.Json

/--
A value holds no floats and is nested at most so deep.  Its integers fit 64 bits,
and the fields of its objects are sorted by their keys.
-/
inductive Plain : Nat → Json → Prop
  | null {depth : Nat} : Plain depth .null
  | bool {depth : Nat} (value : Bool) : Plain depth (.bool value)
  | integer {depth : Nat} {value : Int} (low : -(Word.half64 : Int) ≤ value)
      (high : value < Word.size64) : Plain depth (.integer value)
  | string {depth : Nat} (text : String) : Plain depth (.string text)
  | array {depth : Nat} {items : List Json} (inside : ∀ item ∈ items, Plain depth item) :
      Plain (depth + 1) (.array items)
  | object {depth : Nat} {fields : List (String × Json)}
      (sorted : fields.Pairwise fun first second => first.1 < second.1)
      (inside : ∀ field ∈ fields, Plain depth field.2) : Plain (depth + 1) (.object fields)

/-! ## Tokens -/

theorem writeItems_eq_map (items : List Json) : writeItems items = items.map write := by
  induction items with
  | nil => rfl
  | cons item rest ih => rw [writeItems, ih, List.map_cons]

theorem writeFields_eq_map (fields : List (String × Json)) :
    writeFields fields = fields.map fun field => writeString field.1 ++ ":" ++ write field.2 := by
  induction fields with
  | nil => rfl
  | cons field rest ih => rw [writeFields, ih, List.map_cons]

theorem itemTokens_eq_map (items : List Json) : itemTokens items = items.map tokens := by
  induction items with
  | nil => rfl
  | cons item rest ih => rw [itemTokens, ih, List.map_cons]

theorem fieldTokens_eq_map (fields : List (String × Json)) :
    fieldTokens fields =
      fields.map fun field => .scalar (.string field.1) :: .colon :: tokens field.2 := by
  induction fields with
  | nil => rfl
  | cons field rest ih => rw [fieldTokens, ih, List.map_cons]

/-- Parts of a text with commas between them are cut one by one. -/
theorem Scans.intercalate {α : Type} {text : α → List Char} {found : α → List Token}
    {parts : List α} (each : ∀ part ∈ parts, Scans (text part) (found part)) :
    Scans ([','].intercalate (parts.map text)) ([Token.comma].intercalate (parts.map found)) := by
  induction parts with
  | nil => exact .nil
  | cons part rest ih =>
      have first := each part List.mem_cons_self
      have others := ih fun other member => each other (List.mem_cons_of_mem _ member)
      cases rest with
      | nil =>
          rw [List.map_singleton, List.map_singleton, List.intercalate_singleton,
            List.intercalate_singleton]
          exact first
      | cons second rest =>
          rw [List.map_cons, List.map_cons, List.map_cons, List.map_cons,
            List.intercalate_cons_cons, List.intercalate_cons_cons, List.append_assoc,
            List.append_assoc]
          refine first.append (.mark rfl (by decide) others) ?_
          exact fun _ _ => ended_cons rfl _

/-- What stands in brackets or braces is cut with them. -/
theorem Scans.enclosed {α : Type} {text : α → String} {found : α → List Token} {parts : List α}
    (each : ∀ part ∈ parts, Scans (text part).toList (found part)) {opening closing : Char}
    {first last : Token} (opens : mark? opening = some (some first))
    (closes : mark? closing = some (some last)) (one : opening ≠ '"') (other : closing ≠ '"') :
    Scans (opening :: (",".intercalate (parts.map text)).toList ++ [closing])
      (first :: ([Token.comma].intercalate (parts.map found) ++ [last])) := by
  have inner := Scans.intercalate each
  rw [String.toList_intercalate, List.map_map, List.cons_append]
  refine .mark opens one (inner.append (.mark closes other .nil) ?_)
  intro rest _
  exact ended_cons (Option.isSome_iff_exists.2 ⟨_, closes⟩) rest

/-- Digits are no marks. -/
theorem mark?_of_isDigit {c : Char} (digit : c.isDigit = true) : mark? c = none := by
  unfold mark?
  split
  case h_11 => rfl
  all_goals cases digit

theorem scans_toString {value : Int} (low : -(Word.half64 : Int) ≤ value)
    (high : value < Word.size64) : Scans (toString value).toList [.scalar (.integer value)] := by
  refine scans_word ?_ ?_ (word?_toString low high)
  · rw [toList_toString]
    exact List.append_ne_nil_of_right_ne_nil _ Nat.toDigits_ne_nil
  · intro c member
    rcases solid_toString c member with rfl | digit
    · decide
    · refine ⟨?_, mark?_of_isDigit digit⟩
      rintro rfl
      cases digit

/-- A field's text is cut into its key, a colon, and the tokens of its value. -/
theorem scans_field {field : String × Json} (value : Scans field.2.write.toList field.2.tokens) :
    Scans (writeString field.1 ++ ":" ++ write field.2).toList
      (.scalar (.string field.1) :: .colon :: field.2.tokens) := by
  have colon : Scans (':' :: field.2.write.toList) (.colon :: field.2.tokens) :=
    .mark rfl (by decide) value
  have whole := (scans_writeString field.1).append colon fun _ _ => ended_cons rfl _
  rw [String.toList_append, String.toList_append, List.append_assoc]
  exact whole

/-- A value's text is cut into the value's tokens. -/
theorem scans_write {depth : Nat} {json : Json} (plain : Plain depth json) :
    Scans json.write.toList json.tokens := by
  induction plain with
  | null => exact scans_word (by decide) (by simp [write, mark?]) rfl
  | bool value => cases value <;> exact scans_word (by decide) (by simp [write, mark?]) rfl
  | integer low high => exact scans_toString low high
  | string text => exact scans_writeString text
  | @array depth items inside ih =>
      have whole : Scans ('[' :: (",".intercalate (items.map write)).toList ++ [']'])
          (.openArray :: ([Token.comma].intercalate (items.map tokens) ++ [.closeArray])) :=
        .enclosed ih rfl rfl (by decide) (by decide)
      rw [write, tokens, writeItems_eq_map, itemTokens_eq_map, String.toList_append,
        String.toList_append]
      exact whole
  | @object depth fields sorted inside ih =>
      have whole : Scans
          ('\x7b' :: (",".intercalate (fields.map fun field =>
            writeString field.1 ++ ":" ++ write field.2)).toList ++ ['\x7d'])
          (.openObject :: ([Token.comma].intercalate (fields.map fun field =>
            .scalar (.string field.1) :: .colon :: tokens field.2) ++ [.closeObject])) :=
        .enclosed (fun field member => scans_field (ih field member)) rfl rfl (by decide)
          (by decide)
      rw [write, tokens, writeFields_eq_map, fieldTokens_eq_map, String.toList_append,
        String.toList_append]
      exact whole

/-! ## Assembly -/

theorem exists_intercalate_cons {α : Type} (separator first : List α) (rest : List (List α)) :
    ∃ more, separator.intercalate (first :: rest) = first ++ more := by
  cases rest with
  | nil => exact ⟨[], by rw [List.intercalate_singleton, List.append_nil]⟩
  | cons second rest =>
      exact ⟨_, by rw [List.intercalate_cons_cons, List.append_assoc]⟩

/-- An array that is not closed at once awaits an item. -/
theorem foldlM_step_awaitFirstItem (outer : List Open) (first : Json) (rest : List Token) :
    (tokens first ++ rest).foldlM Assembly.step (.awaitFirstItem outer) =
      (tokens first ++ rest).foldlM Assembly.step (.awaitValue (.array [] :: outer)) := by
  cases first <;> rfl

/-- An array's items are put together one by one. -/
theorem foldlM_step_items {outer : List Open} {first : Json} {rest : List Json}
    (each : ∀ item ∈ first :: rest, ∀ done, (tokens item).foldlM Assembly.step
      (.awaitValue (.array done :: outer)) = some (.complete item (.array done :: outer)))
    (done : List Json) :
    ([Token.comma].intercalate ((first :: rest).map tokens) ++ [Token.closeArray]).foldlM
        Assembly.step (.awaitValue (.array done :: outer)) =
      some (.complete (.array (done.reverse ++ first :: rest)) outer) := by
  induction rest generalizing first done with
  | nil =>
      rw [List.map_singleton, List.intercalate_singleton, List.foldlM_append,
        each first List.mem_cons_self, Option.bind_eq_bind, Option.bind_some]
      change some (Assembly.complete (.array (first :: done).reverse) outer) = _
      rw [List.reverse_cons]
  | cons second rest ih =>
      have others := ih (fun item member => each item (List.mem_cons_of_mem _ member))
        (first :: done)
      rw [List.reverse_cons, List.append_assoc] at others
      rw [List.map_cons, List.map_cons, List.intercalate_cons_cons, List.append_assoc,
        List.append_assoc, List.foldlM_append, each first List.mem_cons_self, Option.bind_eq_bind,
        Option.bind_some]
      exact others

/-- A field is put together from its key and its value. -/
theorem foldlM_step_field {outer : List Open} {field : String × Json}
    (value : ∀ done, (tokens field.2).foldlM Assembly.step
      (.awaitValue (.object done field.1 :: outer)) =
        some (.complete field.2 (.object done field.1 :: outer)))
    (done : List (String × Json)) (rest : List Token) :
    (.scalar (.string field.1) :: .colon :: tokens field.2 ++ rest).foldlM Assembly.step
        (.awaitKey done outer) =
      rest.foldlM Assembly.step (.complete field.2 (.object done field.1 :: outer)) := by
  change (tokens field.2 ++ rest).foldlM Assembly.step
    (.awaitValue (.object done field.1 :: outer)) = _
  rw [List.foldlM_append, value, Option.bind_eq_bind, Option.bind_some]

/-- An object's fields are put together one by one. -/
theorem foldlM_step_fields {outer : List Open} {first : String × Json}
    {rest : List (String × Json)}
    (each : ∀ field ∈ first :: rest, ∀ done, (tokens field.2).foldlM Assembly.step
      (.awaitValue (.object done field.1 :: outer)) =
        some (.complete field.2 (.object done field.1 :: outer)))
    (done : List (String × Json)) :
    ([Token.comma].intercalate ((first :: rest).map fun field =>
        Token.scalar (.string field.1) :: .colon :: tokens field.2) ++
          [Token.closeObject]).foldlM Assembly.step (.awaitKey done outer) =
      some (.complete (ofFields (done.reverse ++ first :: rest)) outer) := by
  have head := each first List.mem_cons_self
  induction rest generalizing first done with
  | nil =>
      rw [List.map_singleton, List.intercalate_singleton, foldlM_step_field head]
      change some (Assembly.complete (ofFields (first :: done).reverse) outer) = _
      rw [List.reverse_cons]
  | cons second rest ih =>
      have others := ih (fun field member => each field (List.mem_cons_of_mem _ member))
        (first :: done) (each second (List.mem_cons_of_mem _ List.mem_cons_self))
      rw [List.reverse_cons, List.append_assoc] at others
      rw [List.map_cons, List.map_cons, List.intercalate_cons_cons, List.append_assoc,
        List.append_assoc, foldlM_step_field head]
      exact others

/-! ## Objects -/

theorem keepLast_of_sorted {fields : List (String × Json)}
    (sorted : fields.Pairwise fun first second => first.1 < second.1) :
    keepLast fields = fields := by
  fun_induction keepLast fields with
  | case1 first second rest same =>
      have less := List.rel_of_pairwise_cons sorted List.mem_cons_self
      rw [same] at less
      exact absurd less (String.lt_irrefl _)
  | case2 first second rest differ ih => rw [ih sorted.of_cons]
  | case3 => rfl

/-- An object is made of its own fields. -/
theorem ofFields_of_sorted {fields : List (String × Json)}
    (sorted : fields.Pairwise fun first second => first.1 < second.1) :
    ofFields fields = .object fields := by
  have ordered : fields.Pairwise fun first second => decide (first.1 ≤ second.1) = true := by
    refine sorted.imp fun less => ?_
    rw [decide_eq_true_eq]
    exact le_of_lt less
  unfold ofFields
  rw [List.mergeSort_of_pairwise ordered, keepLast_of_sorted sorted]

/-! ## Values -/

/-- The tokens of a value are put together to it, where there is room for its depth. -/
theorem foldlM_step_tokens {depth : Nat} {json : Json} (plain : Plain depth json)
    (outer : List Open) (room : outer.length + depth ≤ 127) :
    json.tokens.foldlM Assembly.step (.awaitValue outer) = some (.complete json outer) := by
  induction plain generalizing outer with
  | null => rfl
  | bool value => rfl
  | integer low high => rfl
  | string text => rfl
  | @array depth items inside ih =>
      have opened : Assembly.step (.awaitValue outer) .openArray = some (.awaitFirstItem outer) :=
        if_pos (by omega)
      have deeper : ∀ done, (Open.array done :: outer).length + depth ≤ 127 := by
        intro done
        rw [List.length_cons]
        omega
      rw [tokens, itemTokens_eq_map, List.foldlM_cons, opened, Option.bind_eq_bind,
        Option.bind_some]
      cases items with
      | nil => rfl
      | cons first rest =>
          obtain ⟨more, begun⟩ :=
            exists_intercalate_cons [Token.comma] (tokens first) (rest.map tokens)
          have all := foldlM_step_items (fun item member done => ih item member _ (deeper done)) []
          rw [List.map_cons, begun, List.append_assoc] at all ⊢
          rw [foldlM_step_awaitFirstItem]
          exact all
  | @object depth fields sorted inside ih =>
      have opened : Assembly.step (.awaitValue outer) .openObject = some (.awaitFirstKey outer) :=
        if_pos (by omega)
      have deeper : ∀ done key, (Open.object done key :: outer).length + depth ≤ 127 := by
        intro done key
        rw [List.length_cons]
        omega
      rw [tokens, fieldTokens_eq_map, List.foldlM_cons, opened, Option.bind_eq_bind,
        Option.bind_some]
      cases fields with
      | nil => rfl
      | cons first rest =>
          obtain ⟨more, begun⟩ := exists_intercalate_cons [Token.comma]
            (.scalar (.string first.1) :: .colon :: tokens first.2)
            (rest.map fun field => .scalar (.string field.1) :: .colon :: tokens field.2)
          have all := foldlM_step_fields
            (fun field member done => ih field member _ (deeper done field.1)) []
          rw [List.reverse_nil, List.nil_append, ofFields_of_sorted sorted] at all
          rw [List.map_cons, begun] at all ⊢
          exact all

/-- A value is read back from its text. -/
def Legible (json : Json) : Prop :=
  readBytes? (Utf8.encode json.write) = some json

/-- Values without floats are read back, nested up to 127 deep. -/
theorem Plain.legible {json : Json} (plain : Plain 127 json) : Legible json := by
  have cut : tokens? json.write.toList = some json.tokens := by
    have scanned := scans_write plain [] [] (by intro c first; cases first)
    rw [List.append_nil, List.append_nil] at scanned
    refine scanned.trans ?_
    change some json.tokens.reverse.reverse = _
    rw [List.reverse_reverse]
  unfold Legible readBytes? read?
  rw [Utf8.decode?_encode, Option.bind_eq_bind, Option.bind_some, cut, Option.bind_eq_bind,
    Option.bind_some, foldlM_step_tokens plain [] (by decide)]

/-- No text of nothing is a value. -/
theorem readBytes?_nil : readBytes? [] = none := by
  unfold readBytes?
  rw [← Utf8.encode_empty, Utf8.decode?_encode]
  rfl

theorem Legible.encode_ne_nil {json : Json} (legible : Legible json) :
    Utf8.encode json.write ≠ [] := by
  intro nothing
  unfold Legible at legible
  rw [nothing, readBytes?_nil] at legible
  cases legible

end DiffDigest.Json
