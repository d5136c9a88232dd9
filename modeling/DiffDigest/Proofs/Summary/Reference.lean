import DiffDigest.Proofs.Text.Order
import DiffDigest.Summary
import Mathlib.Data.List.Sort

/-!
# What a summary says

A summary has a line for each category with a rejected hunk.  The line tells how
many files there are, how many changed lines, and the least names.  All this only
depends on which hunks are rejected, so the order of the hunks does not matter.
-/

namespace DiffDigest

open Diff (Hunk)

namespace SummaryGroup

/-! ## The line of a category -/

/-- The names as they are written: if there are more than three, dots stand for the others. -/
def shownNames (names : List String) : List String :=
  if names.length ≤ 3 then names else names.take 3 ++ ["..."]

/--
What the line of a category says of some hunks: how many paths its hunks have, how
many changed lines, and the base names of the paths in the order of their bytes.
-/
inductive Describes (category : Category) (hunks : List Hunk) : String → Prop
  | intro {paths names : List String} (distinct : paths.Nodup)
      (all : ∀ path, path ∈ paths ↔
        ∃ hunk ∈ hunks, Category.ofPath hunk.filePath = category ∧ hunk.filePath = path)
      (bases : names.Perm (paths.map baseName))
      (sorted : names.Pairwise fun first second => Utf8.encode first ≤ Utf8.encode second) :
      Describes category hunks
        (toString paths.length ++ " " ++ category.label ++ " file(s) (" ++
          toString (total Hunk.changedLines
            (hunks.filter fun hunk => Category.ofPath hunk.filePath = category)) ++
          " lines): " ++ ", ".intercalate (shownNames names))

namespace Describes

variable {category : Category} {hunks others : List Hunk} {line : String}

/-- Only one line describes a category. -/
theorem unique {other : String} (first : Describes category hunks line)
    (second : Describes category hunks other) : line = other := by
  obtain ⟨distinct, all, bases, sorted⟩ := first
  rename_i paths names
  obtain ⟨distinctToo, allToo, basesToo, sortedToo⟩ := second
  rename_i pathsToo namesToo
  have same : paths.Perm pathsToo :=
    (List.perm_ext_iff_of_nodup distinct distinctToo).2 fun path =>
      (all path).trans (allToo path).symm
  have ordered : names = namesToo := by
    refine List.Perm.eq_of_pairwise ?_ sorted sortedToo
      (bases.trans ((same.map baseName).trans basesToo.symm))
    intro first second _ _ before behind
    exact le_antisymm (Utf8.encode_le_iff.1 before) (Utf8.encode_le_iff.1 behind)
  rw [same.length_eq, ordered]

/-- The order of the hunks does not matter. -/
theorem of_perm (describes : Describes category hunks line) (same : hunks.Perm others) :
    Describes category others line := by
  obtain ⟨distinct, all, bases, sorted⟩ := describes
  rw [total_perm Hunk.changedLines (same.filter _)]
  refine .intro distinct ?_ bases sorted
  intro path
  rw [all path]
  exact exists_congr fun hunk => and_congr_left fun _ => same.mem_iff

end Describes

/-! ## The text of a group -/

theorem nodup_eraseDups (paths : List String) : paths.eraseDups.Nodup := by
  match paths with
  | [] => exact .nil
  | path :: rest =>
      rw [List.eraseDups_cons, List.nodup_cons]
      refine ⟨?_, nodup_eraseDups _⟩
      intro again
      have kept := (List.mem_filter.1 (List.mem_eraseDups.1 again)).2
      rw [Bool.not_eq_true', beq_self_eq_true] at kept
      cases kept
termination_by paths.length
decreasing_by
  exact Nat.lt_succ_of_le (List.length_filter_le _ _)

theorem names_eq (group : SummaryGroup) :
    group.names = shownNames ((group.paths.map baseName).mergeSort fun a b => decide (a ≤ b)) :=
  rfl

theorem sorted_mergeSort (names : List String) :
    (names.mergeSort fun a b => decide (a ≤ b)).Pairwise
      fun first second => Utf8.encode first ≤ Utf8.encode second :=
  (List.pairwise_mergeSort' (· ≤ ·) names).imp Utf8.encode_le_iff.2

/-- The text of a group describes its category. -/
theorem describes_text {hunks : List Hunk} {category : Category} {group : SummaryGroup}
    (made : of? hunks category = some group) : Describes category hunks group.text := by
  have shape : group = ⟨category, ((members category hunks).map Hunk.filePath).eraseDups,
      total Hunk.changedLines (members category hunks)⟩ := by
    unfold of? at made
    cases found : members category hunks with
    | nil =>
        rw [found] at made
        cases made
    | cons hunk rest =>
        rw [found] at made
        exact (Option.some.inj made).symm
  subst shape
  unfold text
  rw [names_eq]
  refine .intro (nodup_eraseDups _) ?_ (List.mergeSort_perm _ _) (sorted_mergeSort _)
  intro path
  rw [List.mem_eraseDups, List.mem_map]
  unfold members
  simp only [List.mem_filter, decide_eq_true_eq, and_assoc]

/-- There is a group just for the categories that occur. -/
theorem of?_eq_none_iff (hunks : List Hunk) (category : Category) :
    of? hunks category = none ↔
      (hunks.any fun hunk => Category.ofPath hunk.filePath = category) = false := by
  have empty : of? hunks category = none ↔ members category hunks = [] := by
    unfold of?
    cases members category hunks with
    | nil => exact ⟨fun _ => rfl, fun _ => rfl⟩
    | cons hunk rest => exact ⟨nofun, nofun⟩
  rw [empty, members, List.filter_eq_nil_iff, List.any_eq_false]

end SummaryGroup

/-! ## The whole summary -/

/-- The categories that some hunks have, in the order in which they are summed up. -/
def occurring (hunks : List Hunk) : List Category :=
  [.test, .config, .doc, .generated, .source, .unknown].filter fun category =>
    hunks.any fun hunk => Category.ofPath hunk.filePath = category

inductive SumsUp (hunks : List Hunk) : String → Prop
  | nothing (empty : hunks = []) : SumsUp hunks ""
  | lines {lines : List String} (filled : hunks ≠ [])
      (each : List.Forall₂ (SummaryGroup.Describes · hunks ·) (occurring hunks) lines) :
      SumsUp hunks ("\n[Also modified]\n- " ++ "\n- ".intercalate lines)

namespace SumsUp

variable {hunks others : List Hunk} {text : String}

theorem unique {other : String} (first : SumsUp hunks text) (second : SumsUp hunks other) :
    text = other := by
  cases first with
  | nothing empty =>
      cases second with
      | nothing _ => rfl
      | lines filled _ => exact absurd empty filled
  | lines filled each =>
      cases second with
      | nothing empty => exact absurd empty filled
      | lines _ eachToo =>
          have one : Relator.RightUnique (SummaryGroup.Describes · hunks ·) :=
            fun _ _ _ first second => first.unique second
          rw [List.right_unique_forall₂' one each eachToo]

theorem occurring_perm (same : hunks.Perm others) : occurring hunks = occurring others := by
  apply List.filter_congr
  intro category _
  rw [Bool.eq_iff_iff, List.any_eq_true, List.any_eq_true]
  exact exists_congr fun hunk => and_congr_left fun _ => same.mem_iff

theorem of_perm (sums : SumsUp hunks text) (same : hunks.Perm others) : SumsUp others text := by
  cases sums with
  | nothing empty =>
      subst empty
      exact .nothing same.nil_eq.symm
  | lines filled each =>
      have filledToo : others ≠ [] := by
        rintro rfl
        exact filled same.eq_nil
      rw [occurring_perm same] at each
      exact .lines filledToo (each.imp fun _ _ describes => describes.of_perm same)

end SumsUp

/-- The groups of some hunks describe the categories that occur. -/
theorem describes_groups (hunks : List Hunk) (order : List Category) :
    List.Forall₂ (SummaryGroup.Describes · hunks ·)
      (order.filter fun category =>
        hunks.any fun hunk => Category.ofPath hunk.filePath = category)
      ((order.filterMap (SummaryGroup.of? hunks)).map SummaryGroup.text) := by
  induction order with
  | nil => exact .nil
  | cons category rest ih =>
      cases made : SummaryGroup.of? hunks category with
      | none =>
          rw [List.filterMap_cons_none made, List.filter_cons_of_neg]
          · exact ih
          · rw [(SummaryGroup.of?_eq_none_iff hunks category).1 made]
            exact Bool.false_ne_true
      | some group =>
          rw [List.filterMap_cons_some made, List.map_cons, List.filter_cons_of_pos]
          · exact .cons (SummaryGroup.describes_text made) ih
          · rw [← Bool.not_eq_false, ← SummaryGroup.of?_eq_none_iff, made]
            nofun

theorem occurring_ne_nil {hunks : List Hunk} (filled : hunks ≠ []) : occurring hunks ≠ [] := by
  obtain ⟨hunk, rest, rfl⟩ := List.exists_cons_of_ne_nil filled
  apply List.ne_nil_of_mem (a := Category.ofPath hunk.filePath)
  rw [occurring, List.mem_filter, List.any_cons, decide_eq_true rfl]
  refine ⟨?_, rfl⟩
  cases Category.ofPath hunk.filePath <;> decide

/-- The summary of some hunks is the one that sums them up. -/
theorem sumsUp_summary (hunks : List Hunk) : SumsUp hunks (summary hunks) := by
  by_cases empty : hunks = []
  · rw [empty]
    exact .nothing rfl
  · have each : List.Forall₂ (SummaryGroup.Describes · hunks ·) (occurring hunks)
        ((summaryGroups hunks).map SummaryGroup.text) :=
      describes_groups hunks Category.summaryOrder
    unfold summary
    cases shape : summaryGroups hunks with
    | nil =>
        rw [shape] at each
        exact absurd (List.forall₂_nil_right_iff.1 each) (occurring_ne_nil empty)
    | cons group rest =>
        rw [shape] at each
        exact .lines empty each

/--
The summary of some hunks is what sums them up, and nothing else does.  Only an
empty one says nothing, and the order of the hunks does not matter.
-/
structure IsSummary (hunks : List Hunk) (text : String) : Prop where
  sums : SumsUp hunks text
  only : ∀ other, SumsUp hunks other → other = text
  empty : text = "" ↔ hunks = []
  unordered : ∀ others, others.Perm hunks → summary others = text

/-- A summary only depends on which hunks there are, not on their order. -/
theorem summary_isSummary (hunks : List Hunk) : IsSummary hunks (summary hunks) where
  sums := sumsUp_summary hunks
  only := fun _ sums => sums.unique (sumsUp_summary hunks)
  empty := by
    have sums := sumsUp_summary hunks
    generalize summary hunks = text at sums
    cases sums with
    | nothing empty => exact iff_of_true rfl empty
    | lines filled each =>
        refine iff_of_false ?_ filled
        rw [String.append_eq_empty_iff]
        rintro ⟨header, -⟩
        exact absurd header (by decide)
  unordered := fun others same =>
    ((sumsUp_summary others).of_perm same).unique (sumsUp_summary hunks)

end DiffDigest
