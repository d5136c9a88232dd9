import DiffDigest.CodeAction
import DiffDigest.Json.Writer
import DiffDigest.Outline.Wire
import DiffDigest.Word

/-!
# Messages

Requests carry an id and are answered by a response with the same id; a
notification has none.  Both sides may send requests.  This side answers those
of the server by saying that it knows no such method.
-/

namespace DiffDigest.Message

def ofMethod (id : Option Nat) (method : String) (params : Option Json) : Json :=
  .object
    ((id.map fun id => ("id", Json.integer id)).toList ++
      [("jsonrpc", .string "2.0"), ("method", .string method)] ++
      (params.map fun params => ("params", params)).toList)

def request (id : Nat) (method : String) (params : Option Json) : Json :=
  ofMethod (some id) method params

def notification (method : String) (params : Option Json) : Json :=
  ofMethod none method params

def methodNotFound : Int :=
  -32601

def refusal (id : Json) (method : String) : Json :=
  .object
    [("error", .object
        [("code", .integer methodNotFound), ("message", .string ("Method not found: " ++ method))]),
      ("id", id), ("jsonrpc", .string "2.0")]

/-- What a frame from the server is. -/
inductive Incoming where
  | response (id : Nat) (body : Json)
  | request (id : Json) (method : String)
  | notification (method : String)
  | malformed

/-- Sort a frame by its id, its method, and whether it brings a result or an error. -/
def incoming (frame : Json) : Incoming :=
  match frame.get? "id", (frame.get? "method").bind Json.string? with
  | some id, some method => .request id method
  | some id, none =>
      if (frame.get? "result").isSome || (frame.get? "error").isSome then
        match id.natBelow? Word.size64 with
        | some id => .response id frame
        | none => .malformed
      else .malformed
  | none, some method => .notification method
  | none, none => .malformed

structure RpcError where
  code : Int
  text : String
deriving DecidableEq, Repr

/-- Read an error; one without the known shape is shown as it is. -/
def RpcError.ofJson (json : Json) : RpcError :=
  let shaped : Option RpcError := do
    match ← json.record? ["code", "message"] with
    | [code, text] =>
        pure ⟨← Json.required? Json.signed64? code,
          ← match text with
            | none => some ""
            | some text => text.string?⟩
    | _ => none
  shaped.getD ⟨0, json.write⟩

/-- The outcome that a response brings; a missing result is null. -/
def outcome (body : Json) : Except RpcError Json :=
  match (body.get? "error").filter fun error => !error.isNull with
  | some error => .error (.ofJson error)
  | none => .ok ((body.get? "result").getD .null)

/-! ## Parameters -/

def document (uri : String) : String × Json :=
  ("textDocument", .object [("uri", .string uri)])

def handshakeParams (processId : Nat) (rootUri : String) : Json :=
  .object
    [("capabilities", .object
        [("textDocument", .object
          [("codeAction", .object
              [("codeActionLiteralSupport", .object
                  [("codeActionKind", .object
                    [("valueSet", .array [.string CodeAction.organizeImports])])]),
                ("dynamicRegistration", .bool false)]),
            ("documentSymbol", .object
              [("dynamicRegistration", .bool false),
                ("hierarchicalDocumentSymbolSupport", .bool true)]),
            ("formatting", .object [("dynamicRegistration", .bool false)])])]),
      ("processId", .integer processId),
      ("rootUri", .string rootUri),
      ("workspaceFolders", .array
        [.object [("name", .string "workspace"), ("uri", .string rootUri)]])]

def openParams (uri language text : String) : Json :=
  .object
    [("textDocument", .object
      [("languageId", .string language), ("text", .string text), ("uri", .string uri),
        ("version", .integer 1)])]

def documentParams (uri : String) : Json :=
  .object [document uri]

def formatParams (uri : String) : Json :=
  .object
    [("options", .object [("insertSpaces", .bool false), ("tabSize", .integer 4)]), document uri]

def importsParams (uri content : String) : Json :=
  .object
    [("context", .object
        [("diagnostics", .array []), ("only", .array [.string CodeAction.organizeImports])]),
      ("range", (Range.whole content).toJson), document uri]

end DiffDigest.Message
