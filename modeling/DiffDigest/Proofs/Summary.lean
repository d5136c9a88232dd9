import DiffDigest.Summary
import DiffDigest.Proofs.Diff.Header
import DiffDigest.Proofs.Text.Decimal
import DiffDigest.Proofs.Text.Mark

/-!
# Reading a summary

The groups of a summary stand on lines of their own, and each line tells its
category and its number of changed lines.  So the figures of all groups can be
read from the text again, as long as no path holds a newline.
-/

namespace DiffDigest

open Diff (Hunk after? after?_append)

namespace SummaryGroup

/-! ## Reading a group -/

/-- The category and the number of changed lines that the line of a group tells. -/
def read? (line : List Char) : Option (String × Nat) := do
  let group ← after? "- ".toList line
  let named := (group.dropWhile (· ≠ ' ')).tail
  let counted ← after? " file(s) (".toList (named.dropWhile (· ≠ ' '))
  let _ ← after? " lines): ".toList (counted.dropWhile (· ≠ ' '))
  let lines ← Text.decimal? (counted.takeWhile (· ≠ ' '))
  pure (String.ofList (named.takeWhile (· ≠ ' ')), lines)

theorem not_mem_toDigits {c : Char} (other : c.isDigit = false) (n : Nat) :
    c ∉ Nat.toDigits 10 n := by
  intro member
  rw [Text.isDigit_of_mem_toDigits member] at other
  cases other

theorem blank_not_mem_label (category : Category) : ' ' ∉ category.label.toList := by
  cases category <;> decide

/-- A group as it is written. -/
theorem toList_text (group : SummaryGroup) :
    group.text.toList =
      Nat.toDigits 10 group.paths.length ++ ' ' :: (group.category.label.toList ++
        " file(s) (".toList ++ (Nat.toDigits 10 group.lines ++ " lines): ".toList ++
          (", ".intercalate group.names).toList)) := by
  unfold text
  simp only [String.toList_append, Nat.toString_eq_repr, Nat.toList_repr, List.append_assoc]
  rfl

/-- A group that is written is read again. -/
theorem read?_text (group : SummaryGroup) :
    read? ("- ".toList ++ group.text.toList) = some (group.category.label, group.lines) := by
  have files : " file(s) (".toList = ' ' :: "file(s) (".toList := rfl
  have lines : " lines): ".toList = ' ' :: "lines): ".toList := rfl
  have count := not_mem_toDigits (by decide : ' '.isDigit = false) group.paths.length
  have figure := not_mem_toDigits (by decide : ' '.isDigit = false) group.lines
  have label := blank_not_mem_label group.category
  generalize shown : (", ".intercalate group.names).toList = names
  have counted : Nat.toDigits 10 group.lines ++ " lines): ".toList ++ names =
      Nat.toDigits 10 group.lines ++ ' ' :: ("lines): ".toList ++ names) := by
    rw [lines, List.append_assoc]
    rfl
  have named (rest : List Char) : group.category.label.toList ++ " file(s) (".toList ++ rest =
      group.category.label.toList ++ ' ' :: ("file(s) (".toList ++ rest) := by
    rw [files, List.append_assoc]
    rfl
  have opened : after? " file(s) (".toList (' ' :: ("file(s) (".toList ++
      (Nat.toDigits 10 group.lines ++ " lines): ".toList ++ names))) =
        some (Nat.toDigits 10 group.lines ++ " lines): ".toList ++ names) :=
    after?_append " file(s) (".toList _
  have closed : after? " lines): ".toList (' ' :: ("lines): ".toList ++ names)) = some names :=
    after?_append " lines): ".toList names
  unfold read?
  rw [toList_text, shown, after?_append, Option.bind_eq_bind, Option.bind_some,
    Text.dropWhile_append_mark count, List.tail_cons, named]
  dsimp only
  rw [Text.dropWhile_append_mark label, Text.takeWhile_append_mark label, opened,
    Option.bind_some, counted, Text.dropWhile_append_mark figure,
    Text.takeWhile_append_mark figure, closed, Option.bind_some,
    Text.decimal?_toDigits, Option.bind_eq_bind, Option.bind_some, String.ofList_toList]
  rfl

/-! ## Lines of a group -/

theorem mem_intercalate {separator : List Char} {pieces : List (List Char)} {c : Char}
    (member : c ∈ separator.intercalate pieces) :
    c ∈ separator ∨ ∃ piece ∈ pieces, c ∈ piece := by
  induction pieces with
  | nil => cases member
  | cons first rest ih =>
      cases rest with
      | nil =>
          rw [List.intercalate_singleton] at member
          exact Or.inr ⟨first, List.mem_cons_self, member⟩
      | cons second rest =>
          rw [List.intercalate_cons_cons] at member
          rcases List.mem_append.1 member with inside | later
          · rcases List.mem_append.1 inside with inside | between
            · exact Or.inr ⟨first, List.mem_cons_self, inside⟩
            · exact Or.inl between
          · rcases ih later with between | ⟨piece, among, inside⟩
            · exact Or.inl between
            · exact Or.inr ⟨piece, List.mem_cons_of_mem _ among, inside⟩

theorem mem_baseName {path : String} {c : Char} (member : c ∈ (baseName path).toList) :
    c ∈ path.toList := by
  unfold baseName Text.splitLast at member
  rw [String.toList_ofList] at member
  dsimp only at member
  split at member
  · exact member
  · exact List.mem_reverse.1 ((List.takeWhile_sublist _).subset (List.mem_reverse.1 member))

/-- The names of a group hold no newline if its paths hold none. -/
theorem newline_not_mem_names {group : SummaryGroup}
    (clean : ∀ path ∈ group.paths, '\n' ∉ path.toList) :
    ∀ name ∈ group.names, '\n' ∉ name.toList := by
  have bases : ∀ name ∈ (group.paths.map baseName).mergeSort fun a b => decide (a ≤ b),
      '\n' ∉ name.toList := by
    intro name member
    obtain ⟨path, among, rfl⟩ := List.mem_map.1 (List.mem_mergeSort.1 member)
    exact fun inside => clean path among (mem_baseName inside)
  intro name member
  unfold names at member
  dsimp only at member
  split at member
  · exact bases name member
  · rcases List.mem_append.1 member with shown | dots
    · exact bases name (List.mem_of_mem_take shown)
    · obtain rfl := List.mem_singleton.1 dots
      decide

theorem newline_not_mem_text {group : SummaryGroup}
    (clean : ∀ path ∈ group.paths, '\n' ∉ path.toList) : '\n' ∉ group.text.toList := by
  have digits := not_mem_toDigits (by decide : '\n'.isDigit = false)
  have label : '\n' ∉ group.category.label.toList := by cases group.category <;> decide
  have names : '\n' ∉ (", ".intercalate group.names).toList := by
    rw [String.toList_intercalate]
    intro member
    rcases mem_intercalate member with between | ⟨piece, among, inside⟩
    · revert between
      decide
    · obtain ⟨name, own, rfl⟩ := List.mem_map.1 among
      exact newline_not_mem_names clean name own inside
  have files : '\n' ∉ " file(s) (".toList := by decide
  have lines : '\n' ∉ " lines): ".toList := by decide
  rw [toList_text]
  simp only [List.mem_append, List.mem_cons, not_or]
  exact ⟨digits _, by decide, ⟨label, files⟩, ⟨digits _, lines⟩, names⟩

end SummaryGroup

/-! ## Reading the whole summary -/

/-- The groups that a summary shows, each with its number of changed lines. -/
def printedGroups (text : String) : List (String × Nat) :=
  (text.toList.splitOn '\n').filterMap SummaryGroup.read?

/-- The number of changed lines that a summary shows for a category; none counts as zero. -/
def printedLines (category : Category) (text : String) : Nat :=
  ((printedGroups text).lookup category.label).getD 0

/-- A mark behind each newline stands in front of each line. -/
theorem intercalate_marked (mark first : List Char) (rest : List (List Char)) :
    mark ++ ('\n' :: mark).intercalate (first :: rest) =
      ['\n'].intercalate ((first :: rest).map (mark ++ ·)) := by
  induction rest generalizing first with
  | nil => rw [List.map_cons, List.map_nil, List.intercalate_singleton, List.intercalate_singleton]
  | cons second rest ih =>
      calc
        mark ++ ('\n' :: mark).intercalate (first :: second :: rest)
          = mark ++ first ++ ['\n'] ++ (mark ++ ('\n' :: mark).intercalate (second :: rest)) := by
            rw [List.intercalate_cons_cons]
            simp only [List.append_assoc, List.cons_append, List.nil_append]
        _ = mark ++ first ++ ['\n'] ++ ['\n'].intercalate ((second :: rest).map (mark ++ ·)) := by
            rw [ih second]
        _ = ['\n'].intercalate ((first :: second :: rest).map (mark ++ ·)) := by
            exact List.intercalate_cons_cons.symm

/-- The lines of a summary with groups. -/
theorem toList_groups (group : SummaryGroup) (rest : List SummaryGroup) :
    ("\n[Also modified]\n- " ++ "\n- ".intercalate ((group :: rest).map SummaryGroup.text)).toList =
      ['\n'].intercalate ([] :: "[Also modified]".toList ::
        ((group :: rest).map fun group => group.text.toList).map ("- ".toList ++ ·)) := by
  have opening : "\n[Also modified]\n- ".toList =
      '\n' :: ("[Also modified]".toList ++ ('\n' :: "- ".toList)) := rfl
  have separator : "\n- ".toList = '\n' :: "- ".toList := rfl
  have body := intercalate_marked "- ".toList group.text.toList
    (rest.map fun group => group.text.toList)
  have texts : (String.toList ∘ SummaryGroup.text) = fun group => group.text.toList := rfl
  rw [String.toList_append, String.toList_intercalate, opening, separator, List.map_map, texts,
    List.intercalate_cons_cons, List.map_cons, List.map_cons, List.intercalate_cons_cons,
    ← List.map_cons, ← body]
  simp only [List.append_assoc, List.cons_append, List.nil_append]

theorem SummaryGroup.mem_paths {hunks : List Hunk} {category : Category} {group : SummaryGroup}
    (made : of? hunks category = some group) {path : String} (member : path ∈ group.paths) :
    ∃ hunk ∈ hunks, hunk.filePath = path := by
  unfold of? at made
  split at made
  · cases made
  · rename_i first others shape
    obtain rfl := Option.some.inj made
    rw [List.mem_eraseDups] at member
    obtain ⟨hunk, own, same⟩ := List.mem_map.1 member
    rw [← shape] at own
    exact ⟨hunk, (List.mem_filter.1 own).1, same⟩

theorem newline_not_mem_group {hunks : List Hunk}
    (clean : ∀ hunk ∈ hunks, '\n' ∉ hunk.filePath.toList) {group : SummaryGroup}
    (member : group ∈ summaryGroups hunks) : '\n' ∉ group.text.toList := by
  obtain ⟨category, _, made⟩ := List.mem_filterMap.1 member
  apply SummaryGroup.newline_not_mem_text
  intro path own
  obtain ⟨hunk, among, rfl⟩ := SummaryGroup.mem_paths made own
  exact clean hunk among

/-- The figures of all groups can be read from a summary. -/
theorem printedGroups_summary {hunks : List Hunk}
    (clean : ∀ hunk ∈ hunks, '\n' ∉ hunk.filePath.toList) :
    printedGroups (summary hunks) =
      (summaryGroups hunks).map fun group => (group.category.label, group.lines) := by
  have solid : ∀ group ∈ summaryGroups hunks, '\n' ∉ group.text.toList :=
    fun _ member => newline_not_mem_group clean member
  unfold summary
  cases shape : summaryGroups hunks with
  | nil => rfl
  | cons group rest =>
      have pieces : ∀ piece ∈ [] :: "[Also modified]".toList ::
          ((group :: rest).map fun group => group.text.toList).map ("- ".toList ++ ·),
          '\n' ∉ piece := by
        intro piece member
        rcases List.mem_cons.1 member with rfl | member
        · exact List.not_mem_nil
        · rcases List.mem_cons.1 member with rfl | member
          · decide
          · obtain ⟨text, among, rfl⟩ := List.mem_map.1 member
            obtain ⟨own, inside, rfl⟩ := List.mem_map.1 among
            rw [List.mem_append, not_or]
            exact ⟨by decide, solid own (shape ▸ inside)⟩
      have read : SummaryGroup.read? ∘ (fun group : SummaryGroup =>
          "- ".toList ++ group.text.toList) =
            some ∘ fun group => (group.category.label, group.lines) := by
        funext own
        exact SummaryGroup.read?_text own
      unfold printedGroups
      dsimp only
      rw [toList_groups, List.splitOn_intercalate _ pieces (List.cons_ne_nil _ _), List.map_map,
        List.filterMap_cons_none (by decide), List.filterMap_cons_none (by decide),
        List.filterMap_map]
      exact (congrArg (fun f => (group :: rest).filterMap f) read).trans
        (congrFun List.filterMap_eq_map _)

/-! ## The figures of a summary -/

theorem label_injective {first second : Category} (same : first.label = second.label) :
    first = second := by
  revert same
  cases first <;> cases second <;> decide

def SummaryGroup.figure? (hunks : List Hunk) (category : Category) : Option Nat :=
  if members category hunks = [] then none
  else some (total Hunk.changedLines (members category hunks))

theorem SummaryGroup.getD_figure? (hunks : List Hunk) (category : Category) :
    (figure? hunks category).getD 0 = total Hunk.changedLines (members category hunks) := by
  unfold figure?
  split
  · rename_i empty
    rw [empty]
    rfl
  · rfl

theorem figures_summaryGroups (hunks : List Hunk) :
    ((summaryGroups hunks).map fun group => (group.category.label, group.lines)) =
      Category.summaryOrder.filterMap fun category =>
        (SummaryGroup.figure? hunks category).map fun lines => (category.label, lines) := by
  unfold summaryGroups
  rw [List.map_filterMap]
  congr 1
  funext category
  unfold SummaryGroup.of? SummaryGroup.figure?
  cases SummaryGroup.members category hunks with
  | nil => rfl
  | cons first rest => rfl

/-- A figure is found by the label of its category. -/
theorem lookup_label (figure : Category → Option Nat) (category : Category)
    (order : List Category) :
    (order.filterMap fun other =>
      (figure other).map fun lines => (other.label, lines)).lookup category.label =
        if category ∈ order then figure category else none := by
  induction order with
  | nil => rfl
  | cons other rest ih =>
      by_cases same : other = category
      · subst same
        rw [if_pos List.mem_cons_self]
        cases shown : figure other with
        | none =>
            rw [List.filterMap_cons_none (by rw [shown]; rfl), ih, shown]
            exact ite_self none
        | some lines =>
            rw [List.filterMap_cons_some (by rw [shown]; rfl), List.lookup_cons_self]
      · have differs : (category.label == other.label) = false :=
          beq_false_of_ne fun equal => same (label_injective equal).symm
        have skip : category ∈ other :: rest ↔ category ∈ rest := by
          rw [List.mem_cons, or_iff_right fun equal => same equal.symm]
        simp only [skip]
        cases shown : figure other with
        | none => rw [List.filterMap_cons_none (by rw [shown]; rfl), ih]
        | some lines =>
            rw [List.filterMap_cons_some (by rw [shown]; rfl), List.lookup_cons, differs]
            exact ih

/-- What a summary shows for a category is what its hunks have together. -/
theorem printedLines_summary {hunks : List Hunk}
    (clean : ∀ hunk ∈ hunks, '\n' ∉ hunk.filePath.toList) (category : Category) :
    printedLines category (summary hunks) =
      total Hunk.changedLines (SummaryGroup.members category hunks) := by
  have among : category ∈ Category.summaryOrder := by cases category <;> decide
  unfold printedLines
  rw [printedGroups_summary clean, figures_summaryGroups, lookup_label, if_pos among,
    SummaryGroup.getD_figure?]

/-- Every hunk is in one group, and its changed lines are counted there. -/
theorem total_members (hunks : List Hunk) :
    (total (fun category => total Hunk.changedLines (SummaryGroup.members category hunks))
      Category.summaryOrder) = total Hunk.changedLines hunks := by
  induction hunks with
  | nil => rfl
  | cons hunk rest ih =>
      have split (category : Category) :
          total Hunk.changedLines (SummaryGroup.members category (hunk :: rest)) =
            (if Category.ofPath hunk.filePath = category then hunk.changedLines else 0) +
              total Hunk.changedLines (SummaryGroup.members category rest) := by
        unfold SummaryGroup.members
        rw [List.filter_cons]
        split
        · rename_i own
          rw [total_cons, if_pos (of_decide_eq_true own)]
        · rename_i other
          rw [if_neg fun same => other (decide_eq_true same), Nat.zero_add]
      rw [total_cons, ← ih]
      simp only [split, Category.summaryOrder, total_cons, total_nil]
      cases Category.ofPath hunk.filePath <;> simp <;> omega

/-- All figures of a summary together are the changed lines of all its hunks. -/
theorem total_printedGroups {hunks : List Hunk}
    (clean : ∀ hunk ∈ hunks, '\n' ∉ hunk.filePath.toList) :
    total Prod.snd (printedGroups (summary hunks)) = total Hunk.changedLines hunks := by
  have shown : ∀ order : List Category,
      total Prod.snd (order.filterMap fun category =>
        (SummaryGroup.figure? hunks category).map fun lines => (category.label, lines)) =
      total (fun category => total Hunk.changedLines (SummaryGroup.members category hunks))
        order := by
    intro order
    induction order with
    | nil => rfl
    | cons category rest ih =>
        have figure := SummaryGroup.getD_figure? hunks category
        cases known : SummaryGroup.figure? hunks category with
        | none =>
            rw [known] at figure
            rw [List.filterMap_cons_none (by rw [known]; rfl), ih, total_cons, ← figure]
            exact (Nat.zero_add _).symm
        | some lines =>
            rw [known] at figure
            rw [List.filterMap_cons_some (by rw [known]; rfl), total_cons, ih, total_cons, ← figure]
            rfl
  rw [printedGroups_summary clean, figures_summaryGroups, shown, total_members]

end DiffDigest
