import DiffDigest.CodeAction
import DiffDigest.Proofs.Outline.Reading

/-!
# Reading code actions

An action is read field by field.  A server may leave out the fields that are
optional, or write null for them, and may write any other fields besides.
-/

namespace DiffDigest

namespace Json

/-- An optional field has a value exactly if something is there that is not null. -/
theorem optional?_eq_some_some_iff {α : Type} {decode : Json → Option α} {field : Option Json}
    {value : α} :
    optional? decode field = some (some value) ↔
      ∃ json, field = some json ∧ json ≠ .null ∧ decode json = some value := by
  unfold optional?
  split
  · simp
  · simp
  · rename_i json present
    constructor
    · intro read
      obtain ⟨_, decoded, ⟨⟩⟩ := Option.map_eq_some_iff.1 read
      exact ⟨json, rfl, present, decoded⟩
    · rintro ⟨_, ⟨⟩, -, decoded⟩
      rw [decoded]
      rfl

/-! ## Decoders -/

def Reads {α β : Type} (Written : α → β → Prop) (decode : β → Option α) : Prop :=
  ∀ value json, Written value json → decode json = some value

inductive Tells {α : Type} (Written : α → Json → Prop) : Option α → Option Json → Prop
  | absent : Tells Written none none
  | null : Tells Written none (some .null)
  | value {value : α} {json : Json} (present : json ≠ .null) (written : Written value json) :
      Tells Written (some value) (some json)

inductive TellsAll {α : Type} (Written : α → Json → Prop) (values : List α) : Json → Prop
  | array {items : List Json} (each : List.Forall₂ Written values items) :
      TellsAll Written values (.array items)

namespace Reads

variable {α β : Type}

theorem mapM {Written : α → β → Prop} {decode : β → Option α} (reads : Reads Written decode) :
    Reads (List.Forall₂ Written) (List.mapM decode) := by
  intro values items each
  induction each with
  | nil => rfl
  | cons first others ih =>
      rw [List.mapM_cons, reads _ _ first, ih]
      rfl

variable {Written : α → Json → Prop} {decode : Json → Option α}

theorem optional? (reads : Reads Written decode) :
    Reads (Tells Written) (Json.optional? decode) := by
  intro value field tells
  cases tells with
  | absent => rfl
  | null => rfl
  | value present written =>
      exact optional?_eq_some_some_iff.2 ⟨_, rfl, present, reads _ _ written⟩

theorem listOf? (reads : Reads Written decode) :
    Reads (TellsAll Written) (Json.listOf? decode) := by
  intro values json tells
  cases tells with
  | array each => exact reads.mapM _ _ each

end Reads

end Json

/-! ## Written actions -/

structure TextEdit.Written (edit : TextEdit) (json : Json) : Prop where
  fits : edit.range.Fits
  range : ∃ range, json.get? "range" = some range ∧ edit.range.Written range
  newText : json.get? "newText" = some (.string edit.newText)

theorem TextEdit.reads : Json.Reads Written ofJson? := by
  intro edit json written
  obtain ⟨range, found, told⟩ := written.range
  unfold ofJson?
  rw [Json.record?_of_get? found, List.map_cons, List.map_singleton, found, written.newText]
  simp only [Json.required?, Option.bind_eq_bind, Option.bind_some, Json.string?,
    Range.ofJson?_written written.fits told]
  rfl

namespace WorkspaceEdit

theorem ofJson?_eq_some_iff {json : Json} {edit : WorkspaceEdit} :
    ofJson? json = some edit ↔ ∃ changes documents,
      json.record? ["changes", "documentChanges"] = some [changes, documents] ∧
      Json.optional? changesOfJson? changes = some edit.changes ∧
      Json.optional? (Json.listOf? documentOfJson?) documents = some edit.documentChanges := by
  unfold ofJson?
  simp only [Option.bind_eq_bind, Option.bind_eq_some_iff]
  constructor
  · rintro ⟨fields, record, read⟩
    split at read
    · simp only [Option.bind_eq_some_iff] at read
      obtain ⟨changes, first, documents, second, ⟨⟩⟩ := read
      exact ⟨_, _, record, first, second⟩
    · cases read
  · rintro ⟨changes, documents, record, first, second⟩
    exact ⟨_, record, by simp [first, second]⟩

def ChangeWritten (change : String × List TextEdit) (field : String × Json) : Prop :=
  field.1 = change.1 ∧ Json.TellsAll TextEdit.Written change.2 field.2

inductive ChangesWritten (changes : List (String × List TextEdit)) : Json → Prop
  | object {fields : List (String × Json)} (each : List.Forall₂ ChangeWritten changes fields) :
      ChangesWritten changes (.object fields)

def DocumentWritten (edits : List TextEdit) (json : Json) : Prop :=
  ∃ inner, json.get? "edits" = some inner ∧ Json.TellsAll TextEdit.Written edits inner

/-- An object tells an edit of documents, and maybe more. -/
inductive Written (edit : WorkspaceEdit) : Json → Prop
  | object {fields : List (String × Json)}
      (changes : Json.Tells ChangesWritten edit.changes (fields.lookup "changes"))
      (documents : Json.Tells (Json.TellsAll DocumentWritten) edit.documentChanges
        (fields.lookup "documentChanges")) : Written edit (.object fields)

theorem reads_changes : Json.Reads ChangesWritten changesOfJson? := by
  rintro changes _ ⟨each⟩
  refine Json.Reads.mapM ?_ _ _ each
  rintro ⟨uri, edits⟩ ⟨_, json⟩ ⟨rfl, told⟩
  dsimp only
  rw [TextEdit.reads.listOf? _ _ told]
  rfl

theorem reads_document : Json.Reads DocumentWritten documentOfJson? := by
  rintro edits json ⟨inner, found, told⟩
  unfold documentOfJson?
  rw [Json.record?_of_get? found, List.map_singleton, found]
  exact TextEdit.reads.listOf? _ _ told

theorem reads : Json.Reads Written ofJson? := by
  rintro edit _ ⟨changes, documents⟩
  exact ofJson?_eq_some_iff.2 ⟨_, _, rfl, reads_changes.optional? _ _ changes,
    reads_document.listOf?.optional? _ _ documents⟩

end WorkspaceEdit

namespace CodeAction

theorem ofJson?_eq_some_iff {json : Json} {action : CodeAction} :
    ofJson? json = some action ↔ ∃ kind edit,
      json.record? ["kind", "edit"] = some [kind, edit] ∧
      Json.optional? Json.string? kind = some action.kind ∧
      Json.optional? WorkspaceEdit.ofJson? edit = some action.edit := by
  unfold ofJson?
  simp only [Option.bind_eq_bind, Option.bind_eq_some_iff]
  constructor
  · rintro ⟨fields, record, read⟩
    split at read
    · simp only [Option.bind_eq_some_iff] at read
      obtain ⟨kind, first, edit, second, ⟨⟩⟩ := read
      exact ⟨_, _, record, first, second⟩
    · cases read
  · rintro ⟨kind, edit, record, first, second⟩
    exact ⟨_, record, by simp [first, second]⟩

/-- An object tells the kind and the edit of an action, if it has them, and maybe more. -/
inductive Written (action : CodeAction) : Json → Prop
  | object {fields : List (String × Json)}
      (kind : Json.Tells (fun kind json => json = .string kind) action.kind (fields.lookup "kind"))
      (edit : Json.Tells WorkspaceEdit.Written action.edit (fields.lookup "edit")) :
      Written action (.object fields)

/-- An action that is written is read. -/
theorem reads : Json.Reads Written ofJson? := by
  rintro action _ ⟨kind, edit⟩
  have named : Json.Reads (fun kind json => json = .string kind) Json.string? := by
    rintro _ _ rfl
    rfl
  exact ofJson?_eq_some_iff.2 ⟨_, _, rfl, named.optional? _ _ kind,
    WorkspaceEdit.reads.optional? _ _ edit⟩

end CodeAction

end DiffDigest
