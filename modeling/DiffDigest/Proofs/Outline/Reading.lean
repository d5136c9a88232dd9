import DiffDigest.Proofs.Outline.Node
import DiffDigest.Proofs.Session.Message
import Mathlib.Data.List.Forall2

/-!
# Reading outlines

However a server writes a forest of symbols, as a forest of objects with fields of
its own or, if nothing is nested, as a list of symbols with locations, the outline
that is read lists the forest.
-/

namespace DiffDigest

/-! ## Written symbols -/

structure Position.Written (position : Position) (json : Json) : Prop where
  line : json.get? "line" = some (.integer position.line)
  character : json.get? "character" = some (.integer position.character)

structure Range.Written (range : Range) (json : Json) : Prop where
  first : ∃ start, json.get? "start" = some start ∧ range.first.Written start
  last : ∃ finish, json.get? "end" = some finish ∧ range.last.Written finish

namespace SymbolEntry

structure Named (entry : SymbolEntry) (json : Json) : Prop where
  name : json.get? "name" = some (.string entry.name)
  kind : json.get? "kind" = some (.integer entry.code)

/-- An object tells a symbol with its range. -/
structure Written (entry : SymbolEntry) (json : Json) : Prop extends entry.Named json where
  range : ∃ range, json.get? "range" = some range ∧ entry.range.Written range

/-- An object tells a symbol with a location, which has the range. -/
structure Located (entry : SymbolEntry) (json : Json) : Prop extends entry.Named json where
  location : ∃ location range, json.get? "location" = some location ∧
    location.get? "range" = some range ∧ entry.range.Written range
  bare : json.get? "range" = none

end SymbolEntry

/-- An object tells a symbol and those inside it; if there are none, it need not say so. -/
inductive SymbolNode.Written : SymbolNode → Json → Prop
  | leaf {entry : SymbolEntry} {json : Json} (own : entry.Written json)
      (bare : json.get? "children" = none ∨ json.get? "children" = some .null) :
      Written (.node entry []) json
  | node {entry : SymbolEntry} {inside : List SymbolNode} {json : Json} {items : List Json}
      (own : entry.Written json) (children : json.get? "children" = some (.array items))
      (each : List.Forall₂ Written inside items) : Written (.node entry inside) json

/-! ## Reading records -/

theorem Json.record?_of_get? {json value : Json} {name : String}
    (found : json.get? name = some value) (names : List String) :
    json.record? names = some (names.map json.get?) := by
  cases json with
  | object fields => rfl
  | _ => cases found

theorem Position.ofJson?_written {position : Position} {json : Json} (fits : position.Fits)
    (written : position.Written json) : ofJson? json = some position := by
  have line := Message.natBelow?_eq_some_iff.2 ⟨rfl, fits.1⟩
  have character := Message.natBelow?_eq_some_iff.2 ⟨rfl, fits.2⟩
  unfold ofJson?
  rw [Json.record?_of_get? written.line, List.map_cons, List.map_singleton, written.line,
    written.character]
  simp only [Json.required?, Option.bind_eq_bind, Option.bind_some, line, character]
  rfl

theorem Range.ofJson?_written {range : Range} {json : Json} (fits : range.Fits)
    (written : range.Written json) : ofJson? json = some range := by
  obtain ⟨⟨start, starts, first⟩, ⟨finish, ends, last⟩⟩ := written
  have firstRead := Position.ofJson?_written fits.1 first
  have lastRead := Position.ofJson?_written fits.2 last
  unfold ofJson?
  rw [Json.record?_of_get? starts, List.map_cons, List.map_singleton, starts, ends]
  simp only [Json.required?, Option.bind_eq_bind, Option.bind_some, firstRead, lastRead]
  rfl

/-! ## Reading forests -/

def SymbolTree.insideOfJson? : Option Json → Option (List SymbolTree)
  | none => some []
  | some .null => some []
  | some (.array items) => items.mapM ofJson?
  | some _ => none

/-- A tree is read field by field. -/
theorem SymbolTree.ofJson?_eq {json : Json} {name kind range children : Option Json}
    (fields : json.record? ["name", "kind", "range", "children"] =
      some [name, kind, range, children]) :
    ofJson? json =
      (Json.required? Json.string? name).bind fun name =>
        (Json.required? (Json.natBelow? Word.size64) kind).bind fun kind =>
          (Json.required? Range.ofJson? range).bind fun range =>
            (insideOfJson? children).map fun inside =>
              .node (symbolOf name kind range) inside := by
  have attached (items : List Json) :
      (items.attach.mapM fun item => ofJson? item.1) = items.mapM ofJson? := by
    conv => rhs; rw [← List.attach_map_subtype_val items]
    exact List.mapM_map.symm
  rw [ofJson?]
  split
  · rename_i found
    rw [fields] at found
    cases found
    simp only [Option.bind_eq_bind, Option.map_eq_bind]
    cases children with
    | none => rfl
    | some children =>
        cases children with
        | array items =>
            simp only [attached]
            rfl
        | _ => rfl
  · rename_i other
    exact absurd fields (other _ _ _ _)

mutual

def SymbolNode.tree : SymbolNode → SymbolTree
  | .node entry inside => .node entry.symbol (trees inside)

def SymbolNode.trees : List SymbolNode → List SymbolTree
  | [] => []
  | first :: rest => first.tree :: trees rest

end

mutual

theorem SymbolNode.preorder_tree :
    ∀ whole : SymbolNode, whole.tree.preorder = whole.entries.map SymbolEntry.symbol
  | .node entry inside => by
      rw [tree, SymbolTree.preorder, entries, List.map_cons, preorderAll_trees inside]

theorem SymbolNode.preorderAll_trees : ∀ forest : List SymbolNode,
    SymbolTree.preorderAll (trees forest) = (entriesAll forest).map SymbolEntry.symbol
  | [] => rfl
  | first :: rest => by
      rw [trees, SymbolTree.preorderAll, entriesAll, List.map_append, preorder_tree first,
        preorderAll_trees rest]

end

theorem SymbolNode.entry_written {entry : SymbolEntry} {inside : List SymbolNode} {json : Json}
    (written : (node entry inside).Written json) : entry.Written json := by
  cases written with
  | leaf own bare => exact own
  | node own children each => exact own

mutual

/-- A written tree is read as the tree of its symbols. -/
theorem SymbolNode.ofJson?_written : ∀ (whole : SymbolNode) {json : Json}, whole.Written json →
    SymbolTree.ofJson? json = some whole.tree
  | .node entry inside, json, written => by
      have own := entry_written written
      obtain ⟨range, found, told⟩ := own.range
      have below : SymbolTree.insideOfJson? (json.get? "children") = some (trees inside) := by
        cases written with
        | leaf own bare => rcases bare with bare | bare <;> rw [bare] <;> rfl
        | node own children each =>
            rw [children]
            exact mapM_written inside each
      rw [SymbolTree.ofJson?_eq (Json.record?_of_get? own.name _), own.name, own.kind, found, below]
      simp only [Json.required?, Option.bind_some, Json.string?,
        Message.natBelow?_eq_some_iff.2 ⟨rfl, entry.code_lt⟩,
        Range.ofJson?_written entry.range_fits told]
      rfl

theorem SymbolNode.mapM_written : ∀ (forest : List SymbolNode) {items : List Json},
    List.Forall₂ Written forest items → items.mapM SymbolTree.ofJson? = some (trees forest)
  | [], _, .nil => rfl
  | first :: rest, _, .cons written others => by
      rw [List.mapM_cons, ofJson?_written first written, mapM_written rest others]
      rfl

end

theorem Range.written_toJson (range : Range) : range.Written range.toJson where
  first := ⟨_, rfl, rfl, rfl⟩
  last := ⟨_, rfl, rfl, rfl⟩

mutual

theorem SymbolNode.exists_written : ∀ whole : SymbolNode, ∃ json, whole.Written json
  | .node entry inside => by
      obtain ⟨items, each⟩ := exists_all_written inside
      refine ⟨.object [("children", .array items), ("kind", .integer entry.code),
        ("name", .string entry.name), ("range", entry.range.toJson)], .node ?_ rfl each⟩
      exact ⟨⟨rfl, rfl⟩, _, rfl, entry.range.written_toJson⟩

/-- Every forest can be written. -/
theorem SymbolNode.exists_all_written :
    ∀ forest : List SymbolNode, ∃ items, List.Forall₂ Written forest items
  | [] => ⟨[], .nil⟩
  | first :: rest => by
      obtain ⟨json, written⟩ := exists_written first
      obtain ⟨items, others⟩ := exists_all_written rest
      exact ⟨json :: items, .cons written others⟩

end

/-! ## Reading locations -/

theorem Symbol.ofLocated?_located {entry : SymbolEntry} {json : Json}
    (located : entry.Located json) : ofLocated? json = some entry.symbol := by
  obtain ⟨location, range, found, inner, told⟩ := located.location
  unfold ofLocated?
  rw [Json.record?_of_get? located.name, List.map_cons, List.map_cons, List.map_singleton,
    located.name, located.kind, found]
  simp only [Json.required?, Option.bind_eq_bind, Option.bind_some, Json.string?,
    Message.natBelow?_eq_some_iff.2 ⟨rfl, entry.code_lt⟩, Json.record?_of_get? inner,
    List.map_singleton, inner, Range.ofJson?_written entry.range_fits told]
  rfl

/-- A symbol with a location is no tree. -/
theorem SymbolTree.ofJson?_located {entry : SymbolEntry} {json : Json}
    (located : entry.Located json) : ofJson? json = none := by
  have fields := Json.record?_of_get? located.name ["name", "kind", "range", "children"]
  simp only [List.map_cons, List.map_nil] at fields
  rw [ofJson?_eq fields, located.name, located.kind, located.bare]
  simp only [Json.required?, Option.bind_some, Option.bind_none, Json.string?,
    Message.natBelow?_eq_some_iff.2 ⟨rfl, entry.code_lt⟩]

theorem Symbol.mapM_located {entries : List SymbolEntry} {items : List Json}
    (located : List.Forall₂ SymbolEntry.Located entries items) :
    items.mapM ofLocated? = some (entries.map SymbolEntry.symbol) := by
  induction located with
  | nil => rfl
  | cons first others ih =>
      rw [List.mapM_cons, ofLocated?_located first, ih]
      rfl

/-! ## Reading outlines -/

namespace Outline

/-- The forest is tried first. -/
theorem ofJson?_array (items : List Json) :
    ofJson? (.array items) =
      match items.mapM SymbolTree.ofJson? with
      | some trees => some (SymbolTree.preorderAll trees)
      | none => items.mapM Symbol.ofLocated? :=
  rfl

theorem ofJson?_forest {forest : List SymbolNode} {items : List Json}
    (written : List.Forall₂ SymbolNode.Written forest items) :
    ofJson? (.array items) = some ((SymbolNode.entriesAll forest).map SymbolEntry.symbol) := by
  rw [ofJson?_array, SymbolNode.mapM_written forest written, ← SymbolNode.preorderAll_trees]

theorem ofJson?_locations {entries : List SymbolEntry} {items : List Json}
    (located : List.Forall₂ SymbolEntry.Located entries items) :
    ofJson? (.array items) = some (entries.map SymbolEntry.symbol) := by
  have read := Symbol.mapM_located located
  cases located with
  | nil => rfl
  | cons first others =>
      rw [ofJson?_array, read, List.mapM_cons, SymbolTree.ofJson?_located first]
      rfl

theorem entriesAll_leaves (entries : List SymbolEntry) :
    SymbolNode.entriesAll (entries.map (SymbolNode.node · [])) = entries := by
  induction entries with
  | nil => rfl
  | cons entry rest ih =>
      rw [List.map_cons, SymbolNode.entriesAll, ih]
      rfl

/--
An outline is what is read of a forest: it lists the forest, and if nothing is
nested in it, it is also read where the symbols are written with locations.
-/
structure IsReadOf (forest : List SymbolNode) (items : List Json) (outline : Outline) : Prop where
  read : ofJson? (.array items) = some outline
  lists : SymbolNode.Lists forest outline
  located : ∀ (entries : List SymbolEntry) (others : List Json),
    forest = entries.map (SymbolNode.node · []) →
      List.Forall₂ SymbolEntry.Located entries others → ofJson? (.array others) = some outline

/-- However a forest is written, its outline is read; and nothing stands for an empty one. -/
theorem ofJson?_isReadOf :
    ofJson? .null = some [] ∧ ∀ forest : List SymbolNode,
      (∃ items, List.Forall₂ SymbolNode.Written forest items) ∧
      ∀ items, List.Forall₂ SymbolNode.Written forest items →
        ∃ outline, IsReadOf forest items outline := by
  refine ⟨rfl, fun forest => ⟨SymbolNode.exists_all_written forest, ?_⟩⟩
  intro items written
  refine ⟨_, ofJson?_forest written, SymbolNode.lists_entriesAll forest, ?_⟩
  rintro entries others rfl located
  rw [ofJson?_locations located, entriesAll_leaves]

/-- A structure with a field and a method, and a symbol of no known kind. -/
def sampleForest : List SymbolNode :=
  [.node ⟨"Server", 23, ⟨⟨2, 0⟩, ⟨20, 1⟩⟩, by decide, by decide⟩
      [.node ⟨"addr", 8, ⟨⟨3, 0⟩, ⟨3, 9⟩⟩, by decide, by decide⟩ [],
        .node ⟨"Run", 6, ⟨⟨5, 0⟩, ⟨19, 1⟩⟩, by decide, by decide⟩ []],
    .node ⟨"main", 99, ⟨⟨22, 0⟩, ⟨4294967295, 1⟩⟩, by decide, by decide⟩ []]

/-- The children of these symbols are absent, null, or an empty list, and one has a detail. -/
def sampleItems : List Json :=
  let range (first last : Position) : Json := (Range.mk first last).toJson
  [.object
      [("children", .array
          [.object [("children", .null), ("kind", .integer 8), ("name", .string "addr"),
              ("range", range ⟨3, 0⟩ ⟨3, 9⟩)],
            .object [("children", .array []), ("detail", .string "func()"), ("kind", .integer 6),
              ("name", .string "Run"), ("range", range ⟨5, 0⟩ ⟨19, 1⟩)]]),
        ("kind", .integer 23), ("name", .string "Server"), ("range", range ⟨2, 0⟩ ⟨20, 1⟩)],
    .object [("kind", .integer 99), ("name", .string "main"),
      ("range", range ⟨22, 0⟩ ⟨4294967295, 1⟩)]]

theorem sample_isReadOf :
    List.Forall₂ SymbolNode.Written sampleForest sampleItems ∧
      ∃ outline, IsReadOf sampleForest sampleItems outline := by
  have told (entry : SymbolEntry) (json : Json) (named : entry.Named json)
      (range : json.get? "range" = some entry.range.toJson) : entry.Written json :=
    ⟨named, _, range, entry.range.written_toJson⟩
  have written : List.Forall₂ SymbolNode.Written sampleForest sampleItems :=
    .cons (.node (told _ _ ⟨rfl, rfl⟩ rfl) rfl
        (.cons (.leaf (told _ _ ⟨rfl, rfl⟩ rfl) (.inr rfl))
          (.cons (.node (told _ _ ⟨rfl, rfl⟩ rfl) rfl .nil) .nil)))
      (.cons (.leaf (told _ _ ⟨rfl, rfl⟩ rfl) (.inl rfl)) .nil)
  exact ⟨written, (ofJson?_isReadOf.2 sampleForest).2 sampleItems written⟩

example : (ofJson? (.array sampleItems)).map (List.map Symbol.name) =
    some ["Server", "addr", "Run", "main"] := by
  cbv

end Outline

end DiffDigest
