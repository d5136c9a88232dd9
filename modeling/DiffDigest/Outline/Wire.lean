import DiffDigest.Edit
import DiffDigest.Outline.Kind
import DiffDigest.Word

/-!
# Outlines on the wire

A language server reports an outline as a forest of symbols, or as a flat list
of symbols with locations.  The forest is tried first.  Either way the outline
lists each symbol right before the symbols inside it.
-/

namespace DiffDigest

/-- A symbol with the symbols inside it. -/
inductive SymbolTree where
  | node (symbol : Symbol) (children : List SymbolTree)
deriving Inhabited

namespace SymbolTree

mutual

def preorder : SymbolTree → Outline
  | .node symbol children => symbol :: preorderAll children

def preorderAll : List SymbolTree → Outline
  | [] => []
  | tree :: rest => preorder tree ++ preorderAll rest

end

def symbolOf (name : String) (code : Nat) (range : Range) : Symbol :=
  ⟨name, SymbolKind.ofCode code, range.first.line, range.last.line⟩

def ofJson? (json : Json) : Option SymbolTree :=
  match _fields : json.record? ["name", "kind", "range", "children"] with
  | some [name, kind, range, children] => do
      let name ← Json.required? Json.string? name
      let kind ← Json.required? (Json.natBelow? Word.size64) kind
      let range ← Json.required? Range.ofJson? range
      let children ← match _present : children with
        | none => some []
        | some .null => some []
        | some (.array items) => items.attach.mapM fun item => ofJson? item.1
        | some _ => none
      pure (.node (symbolOf name kind range) children)
  | _ => none
termination_by sizeOf json
decreasing_by
  have inside := @Json.sizeOf_record?_lt _ _ (.array items) _ _fields (by simp [*])
  have member := List.sizeOf_lt_of_mem item.2
  simp at inside
  omega

end SymbolTree

/-- Read a symbol with a location; the location's own range counts. -/
def Symbol.ofLocated? (json : Json) : Option Symbol := do
  match ← json.record? ["name", "kind", "location"] with
  | [name, kind, location] =>
      let name ← Json.required? Json.string? name
      let kind ← Json.required? (Json.natBelow? Word.size64) kind
      let location ← location
      match ← location.record? ["range"] with
      | [range] => pure (SymbolTree.symbolOf name kind (← Json.required? Range.ofJson? range))
      | _ => none
  | _ => none

/-- The outline that a server reports; `null` reports an empty one. -/
def Outline.ofJson? (json : Json) : Option Outline :=
  if json.isNull then some []
  else
    match Json.listOf? SymbolTree.ofJson? json with
    | some trees => some (SymbolTree.preorderAll trees)
    | none => Json.listOf? Symbol.ofLocated? json

end DiffDigest
