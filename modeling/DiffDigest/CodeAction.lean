import DiffDigest.Edit

/-!
# Code actions

A server answers a request for code actions with a list of commands and
actions.  Of an action only its kind and its edits matter here: the edits that
organize the imports of one document are those of the first action of that
kind which carries any.
-/

namespace DiffDigest

/-- The edits of an action, by document or one document after the other. -/
structure WorkspaceEdit where
  changes : Option (List (String × List TextEdit))
  documentChanges : Option (List (List TextEdit))
deriving Repr

structure CodeAction where
  kind : Option String
  edit : Option WorkspaceEdit
deriving Repr

/-- Lists of edits by document, in the order of the object's keys. -/
def WorkspaceEdit.changesOfJson? : Json → Option (List (String × List TextEdit))
  | .object fields => fields.mapM fun field => do
      pure (field.1, ← Json.listOf? TextEdit.ofJson? field.2)
  | _ => none

def WorkspaceEdit.documentOfJson? (json : Json) : Option (List TextEdit) := do
  match ← json.record? ["edits"] with
  | [edits] => Json.required? (Json.listOf? TextEdit.ofJson?) edits
  | _ => none

def WorkspaceEdit.ofJson? (json : Json) : Option WorkspaceEdit := do
  match ← json.record? ["changes", "documentChanges"] with
  | [changes, documents] =>
      pure ⟨← Json.optional? changesOfJson? changes,
        ← Json.optional? (Json.listOf? documentOfJson?) documents⟩
  | _ => none

namespace CodeAction

def organizeImports : String :=
  "source.organizeImports"

def ofJson? (json : Json) : Option CodeAction := do
  match ← json.record? ["kind", "edit"] with
  | [kind, edit] =>
      pure ⟨← Json.optional? Json.string? kind,
        ← Json.optional? WorkspaceEdit.ofJson? edit⟩
  | _ => none

/-- The edits to use for a document: its own, else the first listed, else the first document's. -/
def usable? (edit : WorkspaceEdit) (uri : String) : Option (List TextEdit) :=
  let changes := edit.changes.getD []
  (changes.lookup uri).or
    ((changes.head?.map Prod.snd).or (edit.documentChanges.bind List.head?))

def imports? (uri : String) (action : CodeAction) : Option (List TextEdit) :=
  if action.kind = some organizeImports then action.edit.bind (usable? · uri) else none

def firstImports (uri : String) (actions : List Json) : List TextEdit :=
  (actions.findSome? fun action => (ofJson? action).bind (imports? uri)).getD []

end CodeAction

end DiffDigest
