/-!
# Symbol kinds

The kinds of symbols that language servers report, numbered from 1 to 26.  Any
other number is a kind of its own.
-/

namespace DiffDigest

inductive SymbolKind where
  | file
  | moduleScope
  | namespaceScope
  | packageScope
  | classType
  | method
  | property
  | field
  | constructor
  | enumType
  | interfaceType
  | function
  | variableBinding
  | constantBinding
  | stringValue
  | numberValue
  | booleanValue
  | arrayValue
  | objectValue
  | key
  | nullValue
  | enumMember
  | structType
  | event
  | operator
  | typeParameter
  | unknown
deriving DecidableEq, Repr, Inhabited

namespace SymbolKind

def numbered : List SymbolKind :=
  [file, moduleScope, namespaceScope, packageScope, classType, method, property, field,
    constructor, enumType, interfaceType, function, variableBinding, constantBinding,
    stringValue, numberValue, booleanValue, arrayValue, objectValue, key, nullValue,
    enumMember, structType, event, operator, typeParameter]

def ofCode : Nat → SymbolKind
  | 0 => unknown
  | code + 1 => numbered.getD code unknown

def name : SymbolKind → String
  | file => "File"
  | moduleScope => "Module"
  | namespaceScope => "Namespace"
  | packageScope => "Package"
  | classType => "Class"
  | method => "Method"
  | property => "Property"
  | field => "Field"
  | constructor => "Constructor"
  | enumType => "Enum"
  | interfaceType => "Interface"
  | function => "Function"
  | variableBinding => "Variable"
  | constantBinding => "Constant"
  | stringValue => "String"
  | numberValue => "Number"
  | booleanValue => "Boolean"
  | arrayValue => "Array"
  | objectValue => "Object"
  | key => "Key"
  | nullValue => "Null"
  | enumMember => "EnumMember"
  | structType => "Struct"
  | event => "Event"
  | operator => "Operator"
  | typeParameter => "TypeParameter"
  | unknown => "Unknown"

end SymbolKind

/-- A symbol with the zero-based first and last line of its range. -/
structure Symbol where
  name : String
  kind : SymbolKind
  line : Nat
  endLine : Nat
deriving DecidableEq, Repr, Inhabited

/-- The symbols of a file, each before the symbols inside it. -/
abbrev Outline :=
  List Symbol

end DiffDigest
