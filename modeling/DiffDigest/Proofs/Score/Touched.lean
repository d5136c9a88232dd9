import DiffDigest.Proofs.Score

/-!
# Scores rest on touched symbols

Of an outline only the symbols that a hunk touches count, and of these only the
heaviest.  So neither their order nor their number matters to the score, nor do
the other symbols, nor a score that the hunk had before.
-/

namespace DiffDigest

open Diff (Hunk)

/-! ## Touched symbols -/

/--
A hunk touches a symbol when they have a line in common.  A hunk without new lines
lies between two lines, and touches the symbols that have both of them.
-/
def Diff.Hunk.Touches (hunk : Hunk) (symbol : Symbol) : Prop :=
  (0 < hunk.range.newCount ∧ ∃ line,
    (hunk.range.newStart ≤ line ∧ line ≤ hunk.range.newStart + hunk.range.newCount - 1) ∧
      symbol.line ≤ line ∧ line ≤ symbol.endLine) ∨
  (hunk.range.newCount = 0 ∧ symbol.line < hunk.range.newStart ∧
    hunk.range.newStart ≤ symbol.endLine)

def Symbol.Ordered (symbol : Symbol) : Prop :=
  symbol.line ≤ symbol.endLine

instance (symbol : Symbol) : Decidable symbol.Ordered :=
  inferInstanceAs (Decidable (_ ≤ _))

namespace Score

/-- Comparing the ends of two intervals tells whether they meet. -/
theorem touches_iff (hunk : Hunk) {symbol : Symbol} (ordered : symbol.Ordered) :
    touches hunk symbol = true ↔ hunk.Touches symbol := by
  have ends : touches hunk symbol = true ↔
      (hunk.range.newStart : Int) ≤ symbol.endLine ∧
        (symbol.line : Int) ≤ hunk.range.newStart + hunk.range.newCount - 1 := by
    rw [touches, overlaps, Bool.and_eq_true, decide_eq_true_eq, decide_eq_true_eq]
    rfl
  rw [ends]
  unfold Symbol.Ordered at ordered
  constructor
  · rintro ⟨start, finish⟩
    rcases Nat.eq_zero_or_pos hunk.range.newCount with empty | lines
    · exact .inr ⟨empty, by omega, by omega⟩
    · -- The greater of the two first lines is in both.
      exact .inl ⟨lines, max hunk.range.newStart symbol.line, by omega, by omega⟩
  · rintro (⟨lines, line, own, theirs⟩ | ⟨empty, before, behind⟩)
    · omega
    · omega

end Score

instance (hunk : Hunk) (symbol : Symbol) : Decidable (hunk.Touches symbol) :=
  if ordered : symbol.Ordered then
    decidable_of_iff (Score.touches hunk symbol = true) (Score.touches_iff hunk ordered)
  else
    isFalse (by
      rintro (⟨_, line, _, low, high⟩ | ⟨_, before, behind⟩)
      · exact ordered (Nat.le_trans low high)
      · exact ordered (Nat.le_trans (Nat.le_of_lt before) behind))

def Diff.Hunk.touched (hunk : Hunk) (outline : Outline) : Outline :=
  outline.filter fun symbol => hunk.Touches symbol

namespace Score

theorem filter_touches (hunk : Hunk) {outline : Outline}
    (ordered : ∀ symbol ∈ outline, symbol.Ordered) :
    outline.filter (touches hunk) = hunk.touched outline := by
  apply List.filter_congr
  intro symbol member
  rw [Bool.eq_iff_iff, touches_iff hunk (ordered symbol member), decide_eq_true_eq]

/-! ## Weights -/

/-- The weight of some symbols is that of the heaviest of them, or 20 if there are none. -/
inductive Weighs (touched : Outline) : Nat → Prop
  | none (empty : touched = []) : Weighs touched 20
  | heaviest {symbol : Symbol} (member : symbol ∈ touched)
      (most : ∀ other ∈ touched, symbolWeight other ≤ symbolWeight symbol) :
      Weighs touched (symbolWeight symbol)

theorem exists_heaviest {touched : Outline} (filled : touched ≠ []) :
    ∃ symbol ∈ touched, symbolWeight symbol = contribution touched := by
  obtain ⟨weight, shown⟩ : ∃ weight, (touched.map symbolWeight).max? = some weight :=
    Option.ne_none_iff_exists'.1 fun none =>
      filled (List.map_eq_nil_iff.1 (List.max?_eq_none_iff.1 none))
  obtain ⟨member, -⟩ := List.max?_eq_some_iff.1 shown
  obtain ⟨symbol, among, rfl⟩ := List.mem_map.1 member
  refine ⟨symbol, among, ?_⟩
  rw [contribution, shown, Option.getD_some]

/-- The contribution of some symbols is their weight. -/
theorem weighs_iff {touched : Outline} {weight : Nat} :
    Weighs touched weight ↔ contribution touched = weight := by
  constructor
  · rintro (empty | ⟨member, most⟩)
    · rw [empty]
      rfl
    · refine Nat.le_antisymm ?_ (symbolWeight_le_contribution member)
      exact contribution_le_iff.2 ⟨untouched_le_symbolWeight _, most⟩
  · rintro rfl
    by_cases empty : touched = []
    · rw [empty]
      exact .none rfl
    · obtain ⟨symbol, member, same⟩ := exists_heaviest empty
      rw [← same]
      refine .heaviest member ?_
      intro other among
      rw [same]
      exact symbolWeight_le_contribution among

/-- More symbols do not weigh less. -/
theorem contribution_of_subset {touched more : Outline}
    (subset : ∀ symbol ∈ touched, symbol ∈ more) : contribution touched ≤ contribution more :=
  contribution_mono fun symbol member => ⟨symbol, subset symbol member, Nat.le_refl _⟩

/-- Neither the order nor the number of symbols matters to the score. -/
theorem value_congr (hunk : Hunk) {touched other : Outline}
    (same : ∀ symbol, symbol ∈ other ↔ symbol ∈ touched) :
    value hunk other = value hunk touched := by
  have weights : contribution other = contribution touched :=
    Nat.le_antisymm (contribution_of_subset fun symbol => (same symbol).1)
      (contribution_of_subset fun symbol => (same symbol).2)
  rw [value, value, weights]

end Score

/-! ## Scoring anew -/

namespace ScoredHunk

theorem of_eq (hunk : Hunk) {outline : Outline} (ordered : ∀ symbol ∈ outline, symbol.Ordered) :
    of outline hunk =
      { hunk
        score := Score.value hunk (hunk.touched outline)
        symbols := (hunk.touched outline).map Symbol.name } := by
  rw [of, Score.filter_touches hunk ordered]

/-- Score a hunk that has a score already; the new one takes the place of the old one. -/
def rescore (scored : ScoredHunk) (outline : Outline) : ScoredHunk :=
  of outline scored.hunk

theorem hunk_foldl_rescore (outlines : List Outline) (scored : ScoredHunk) :
    (outlines.foldl rescore scored).hunk = scored.hunk := by
  induction outlines generalizing scored with
  | nil => rfl
  | cons outline rest ih => exact ih (scored.rescore outline)

/-- However often a hunk is scored, the last time counts. -/
theorem foldl_rescore_concat (earlier : List Outline) (outline : Outline) (scored : ScoredHunk) :
    (earlier ++ [outline]).foldl rescore scored = of outline scored.hunk := by
  rw [List.foldl_append, List.foldl_cons, List.foldl_nil, rescore, hunk_foldl_rescore]

/--
The score of a hunk rests on the symbols that it touches: on the heaviest of them.
It is the same for any outline with the same touched symbols, in whatever order and
however often they occur, and no symbol that is added makes it lighter.
-/
structure RestsOnTouched (hunk : Hunk) (outline : Outline) : Prop where
  names : (of outline hunk).symbols = (hunk.touched outline).map Symbol.name
  score : ∃ weight, Score.Weighs (hunk.touched outline) weight ∧
    (of outline hunk).score =
      (Float.ofNat weight + min (Float.ofNat hunk.changedLines * 0.1) 50.0) *
        (Category.ofPath hunk.filePath).multiplier
  same : ∀ other : Outline, (∀ symbol ∈ other, symbol.Ordered) →
    (∀ symbol, symbol ∈ hunk.touched other ↔ symbol ∈ hunk.touched outline) →
      (of other hunk).score = (of outline hunk).score
  rearranged : ∀ other : Outline, (∀ symbol, symbol ∈ other ↔ symbol ∈ outline) →
    (of other hunk).score = (of outline hunk).score
  padded : ∀ front padding back : Outline, outline = front ++ back →
    (∀ symbol ∈ padding, symbol.Ordered ∧ ¬ hunk.Touches symbol) →
      of (front ++ padding ++ back) hunk = of outline hunk
  heavier : ∀ (front back : Outline) (symbol : Symbol) (weight more : Nat),
    outline = front ++ back → Score.Weighs (hunk.touched outline) weight →
      Score.Weighs (hunk.touched (front ++ symbol :: back)) more → weight ≤ more
  again : ∀ (earlier : List Outline) (scored : ScoredHunk), scored.hunk = hunk →
    (earlier ++ [outline]).foldl rescore scored = of outline hunk

theorem score_same {hunk : Hunk} {outline other : Outline}
    (ordered : ∀ symbol ∈ outline, symbol.Ordered) (others : ∀ symbol ∈ other, symbol.Ordered)
    (same : ∀ symbol, symbol ∈ hunk.touched other ↔ symbol ∈ hunk.touched outline) :
    (of other hunk).score = (of outline hunk).score := by
  rw [of_eq hunk ordered, of_eq hunk others]
  exact Score.value_congr hunk same

theorem touched_padded (hunk : Hunk) (front back : Outline) {padding : Outline}
    (beside : ∀ symbol ∈ padding, ¬ hunk.Touches symbol) :
    hunk.touched (front ++ padding ++ back) = hunk.touched (front ++ back) := by
  have none : hunk.touched padding = [] := by
    apply List.filter_eq_nil_iff.2
    intro symbol member touches
    exact beside symbol member (of_decide_eq_true touches)
  unfold Diff.Hunk.touched at none ⊢
  rw [List.filter_append, List.filter_append, none, List.append_nil, ← List.filter_append]

/-- A score rests on the symbols that its hunk touches. -/
theorem of_restsOnTouched (hunk : Hunk) {outline : Outline}
    (ordered : ∀ symbol ∈ outline, symbol.Ordered) : RestsOnTouched hunk outline where
  names := by rw [of_eq hunk ordered]
  score := by
    refine ⟨Score.contribution (hunk.touched outline), Score.weighs_iff.2 rfl, ?_⟩
    rw [of_eq hunk ordered]
    rfl
  same := fun other others same => score_same ordered others same
  rearranged := by
    intro other members
    refine score_same ordered (fun symbol member => ordered symbol ((members symbol).1 member)) ?_
    intro symbol
    unfold Diff.Hunk.touched
    rw [List.mem_filter, List.mem_filter, members]
  padded := by
    rintro front padding back rfl beside
    have all : ∀ symbol ∈ front ++ padding ++ back, symbol.Ordered := by
      intro symbol member
      rcases List.mem_append.1 member with member | last
      · rcases List.mem_append.1 member with first | between
        · exact ordered symbol (List.mem_append_left _ first)
        · exact (beside symbol between).1
      · exact ordered symbol (List.mem_append_right _ last)
    rw [of_eq hunk all, of_eq hunk ordered,
      touched_padded hunk front back fun symbol member => (beside symbol member).2]
  heavier := by
    rintro front back symbol weight more rfl weighs weighsMore
    obtain rfl := Score.weighs_iff.1 weighs
    obtain rfl := Score.weighs_iff.1 weighsMore
    apply Score.contribution_of_subset
    have longer : (front ++ back).Sublist (front ++ symbol :: back) :=
      (List.Sublist.refl front).append (List.sublist_cons_self symbol back)
    exact (longer.filter _).subset
  again := by
    rintro earlier scored rfl
    exact foldl_rescore_concat earlier outline scored

/-- Lines are taken out between the lines 7 and 8 of a file. -/
def deletion : Hunk where
  filePath := "server.go"
  range := { oldStart := 8, oldCount := 2, newStart := 8, newCount := 0 }
  content := "@@ -8,2 +8,0 @@\n-a\n-b\n"

/-- Of these symbols one ends in front of the deleted lines and one starts behind them. -/
def neighbours : Outline :=
  [⟨"Server", .structType, 0, 30⟩, ⟨"Count", .function, 3, 7⟩, ⟨"serve", .method, 7, 8⟩,
    ⟨"Close", .method, 8, 12⟩, ⟨"Server", .structType, 0, 30⟩]

theorem deletion_restsOnTouched :
    (∀ symbol ∈ neighbours, symbol.Ordered) ∧ RestsOnTouched deletion neighbours := by
  have ordered : ∀ symbol ∈ neighbours, symbol.Ordered := by decide
  exact ⟨ordered, of_restsOnTouched deletion ordered⟩

example : (of neighbours deletion).symbols = ["Server", "serve", "Server"] := by decide

end ScoredHunk

end DiffDigest
