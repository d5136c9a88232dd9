import DiffDigest.Outline.Wire
import Mathlib.Data.List.Basic

/-!
# Places in a forest of symbols

A place tells which node to take at each level of a forest.  A node's place is in
front of the places inside it, and these are in front of those of its later
siblings: in the order of their places, nodes stand as in a preorder walk.
-/

namespace DiffDigest

/-! ## Nodes -/

def Position.Fits (position : Position) : Prop :=
  position.line < bound ∧ position.character < bound

instance (position : Position) : Decidable position.Fits :=
  inferInstanceAs (Decidable (_ ∧ _))

def Range.Fits (range : Range) : Prop :=
  range.first.Fits ∧ range.last.Fits

instance (range : Range) : Decidable range.Fits :=
  inferInstanceAs (Decidable (_ ∧ _))

/-- What a server says about a symbol: its name, the number of its kind, and its range. -/
structure SymbolEntry where
  name : String
  code : Nat
  range : Range
  code_lt : code < Word.size64 := by decide
  range_fits : range.Fits := by decide

def SymbolEntry.symbol (entry : SymbolEntry) : Symbol where
  name := entry.name
  kind := SymbolKind.ofCode entry.code
  line := entry.range.first.line
  endLine := entry.range.last.line

/-- What a server says about a symbol and about those inside it. -/
inductive SymbolNode where
  | node (entry : SymbolEntry) (inside : List SymbolNode)

namespace SymbolNode

def at? : SymbolNode → List Nat → Option SymbolEntry
  | .node entry _, [] => some entry
  | .node _ inside, step :: place => inside[step]?.bind (·.at? place)

def atForest? (forest : List SymbolNode) : List Nat → Option SymbolEntry
  | [] => none
  | step :: place => forest[step]?.bind (·.at? place)

mutual

/-- The entries of a tree, each before those inside it. -/
def entries : SymbolNode → List SymbolEntry
  | .node entry inside => entry :: entriesAll inside

def entriesAll : List SymbolNode → List SymbolEntry
  | [] => []
  | tree :: rest => entries tree ++ entriesAll rest

end

/-! ## Places -/

mutual

/-- The places of a tree in the order of its entries. -/
def places : SymbolNode → List (List Nat)
  | .node _ inside => [] :: placesFrom 0 inside

def placesFrom (number : Nat) : List SymbolNode → List (List Nat)
  | [] => []
  | tree :: rest => (places tree).map (number :: ·) ++ placesFrom (number + 1) rest

end

/-- A place in a forest begins with the number of a tree. -/
theorem exists_of_mem_placesFrom {number : Nat} {forest : List SymbolNode} {place : List Nat}
    (member : place ∈ placesFrom number forest) :
    ∃ step inner, place = step :: inner ∧ number ≤ step := by
  induction forest generalizing number with
  | nil => cases member
  | cons tree rest ih =>
      rw [placesFrom] at member
      rcases List.mem_append.1 member with own | later
      · obtain ⟨inner, -, rfl⟩ := List.mem_map.1 own
        exact ⟨number, inner, rfl, Nat.le_refl _⟩
      · obtain ⟨step, inner, rfl, above⟩ := ih later
        exact ⟨step, inner, rfl, Nat.le_of_succ_le above⟩

mutual

/-- The places of a tree are in order. -/
theorem places_pairwise : ∀ tree : SymbolNode, tree.places.Pairwise (· < ·)
  | .node entry inside => by
      rw [places, List.pairwise_cons]
      refine ⟨?_, placesFrom_pairwise 0 inside⟩
      intro place member
      obtain ⟨step, inner, rfl, -⟩ := exists_of_mem_placesFrom member
      exact List.nil_lt_cons step inner

theorem placesFrom_pairwise (number : Nat) :
    ∀ forest : List SymbolNode, (placesFrom number forest).Pairwise (· < ·)
  | [] => .nil
  | tree :: rest => by
      rw [placesFrom, List.pairwise_append, List.pairwise_map]
      refine ⟨?_, placesFrom_pairwise (number + 1) rest, ?_⟩
      · refine (places_pairwise tree).imp ?_
        intro first second before
        exact List.cons_lt_cons_iff.2 (.inr ⟨rfl, before⟩)
      · -- Whatever follows in the tree, the number of the next tree is greater.
        intro first own second later
        obtain ⟨inner, -, rfl⟩ := List.mem_map.1 own
        obtain ⟨step, place, rfl, above⟩ := exists_of_mem_placesFrom later
        exact List.cons_lt_cons_iff.2 (.inl above)

end

mutual

/-- The entries of a tree are those at its places. -/
theorem map_at?_places : ∀ tree : SymbolNode, tree.places.map tree.at? = tree.entries.map some
  | .node entry inside => by
      have inner := map_atForest?_placesFrom [] inside
      rw [List.nil_append, List.length_nil] at inner
      rw [places, entries, List.map_cons, List.map_cons, ← inner]
      refine congrArg (some entry :: ·) (List.map_congr_left ?_)
      intro place member
      obtain ⟨step, place, rfl, -⟩ := exists_of_mem_placesFrom member
      rfl

theorem map_atForest?_placesFrom (front : List SymbolNode) :
    ∀ forest : List SymbolNode, (placesFrom front.length forest).map (atForest? (front ++ forest)) =
      (entriesAll forest).map some
  | [] => rfl
  | tree :: rest => by
      have later := map_atForest?_placesFrom (front ++ [tree]) rest
      rw [List.append_assoc, List.length_append] at later
      have own : atForest? (front ++ tree :: rest) ∘ (front.length :: ·) = tree.at? := by
        funext place
        rw [Function.comp_apply, atForest?, List.getElem?_append_right (Nat.le_refl _),
          Nat.sub_self]
        rfl
      rw [placesFrom, entriesAll, List.map_append, List.map_append, List.map_map, own,
        map_at?_places tree, ← later]
      rfl

end

theorem mem_placesFrom {forest : List SymbolNode} {tree : SymbolNode} {step : Nat}
    {place : List Nat} (found : forest[step]? = some tree) (member : place ∈ tree.places)
    (number : Nat) : (number + step) :: place ∈ placesFrom number forest := by
  induction forest generalizing number step with
  | nil => cases found
  | cons first rest ih =>
      rw [placesFrom, List.mem_append]
      cases step with
      | zero =>
          cases found
          exact .inl (List.mem_map_of_mem member)
      | succ step =>
          have later : (number + 1 + step) :: place ∈ placesFrom (number + 1) rest :=
            ih found (number + 1)
          rw [Nat.add_right_comm] at later
          exact .inr later

/-- Where a tree has an entry, there is a place. -/
theorem mem_places {tree : SymbolNode} {place : List Nat} (found : (tree.at? place).isSome) :
    place ∈ tree.places := by
  induction place generalizing tree with
  | nil =>
      cases tree with
      | node entry inside => exact List.mem_cons_self
  | cons step place ih =>
      cases tree with
      | node entry inside =>
          rw [at?, Option.isSome_bind, Option.any_eq_true] at found
          obtain ⟨child, here, below⟩ := found
          have inner := mem_placesFrom here (ih below) 0
          rw [Nat.zero_add] at inner
          exact List.mem_cons_of_mem _ inner

/--
An outline lists a forest when it has the symbol of each entry, once, in the order
of their places: each right before those inside it, and siblings in their order.
-/
inductive Lists (forest : List SymbolNode) : Outline → Prop
  | intro {places : List (List Nat)} {outline : Outline} (sorted : places.Pairwise (· < ·))
      (all : ∀ place, place ∈ places ↔ (atForest? forest place).isSome)
      (symbols : outline.map some =
        places.map fun place => (atForest? forest place).map SymbolEntry.symbol) :
      Lists forest outline

/-- The entries of a forest, each before those inside it, list the forest. -/
theorem lists_entriesAll (forest : List SymbolNode) :
    Lists forest ((entriesAll forest).map SymbolEntry.symbol) := by
  have values := map_atForest?_placesFrom [] forest
  rw [List.nil_append, List.length_nil] at values
  refine .intro (placesFrom_pairwise 0 forest) ?_ ?_
  · intro place
    constructor
    · intro member
      have value : atForest? forest place ∈ (entriesAll forest).map some := by
        rw [← values]
        exact List.mem_map_of_mem member
      obtain ⟨entry, -, same⟩ := List.mem_map.1 value
      rw [← same]
      rfl
    · intro found
      cases place with
      | nil => cases found
      | cons step place =>
          rw [atForest?, Option.isSome_bind, Option.any_eq_true] at found
          obtain ⟨tree, here, below⟩ := found
          have member := mem_placesFrom here (mem_places below) 0
          rwa [Nat.zero_add] at member
  · have symbols := congrArg (List.map (Option.map SymbolEntry.symbol)) values
    rw [List.map_map, List.map_map] at symbols
    rw [List.map_map]
    exact symbols.symm

end SymbolNode

end DiffDigest
