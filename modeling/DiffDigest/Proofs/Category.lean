import DiffDigest.Category

/-!
# Files in directories

A file that is put into one more directory keeps its category, unless the
directory is one of the few that stand for a category of their own.  So only the
base name of a path and these directories matter, wherever in the path they are.
-/

namespace DiffDigest.Category

/-! ## One more directory -/

/-- What a directory makes of the category that a file in it has without it. -/
def under (dir : List Char) (category : Category) : Category :=
  if isOneOf vendorDirs dir then generated
  else if isOneOf testDirs dir then if category = generated then generated else test
  else category

theorem inDirs_nil (category : Category) : inDirs [] category = category := by
  cases category <;> rfl

theorem inDirs_cons (dir : List Char) (dirs : List (List Char)) (category : Category) :
    inDirs (dir :: dirs) category = under dir (inDirs dirs category) := by
  unfold inDirs under
  rw [List.any_cons, List.any_cons]
  cases isOneOf vendorDirs dir with
  | true => rfl
  | false =>
      cases isOneOf testDirs dir with
      | false => rfl
      | true =>
          -- The directories inside have been asked already; only what is generated stays so.
          cases dirs.any (isOneOf vendorDirs) <;> cases dirs.any (isOneOf testDirs) <;>
            cases category <;> rfl

theorem under_nil (category : Category) : under [] category = category :=
  rfl

theorem inDirs_nil_cons (dirs : List (List Char)) (category : Category) :
    inDirs ([] :: dirs) category = inDirs dirs category := by
  rw [inDirs_cons, under_nil]

/-! ## The directories of a path -/

theorem parts_of_not_mem {path : List Char} (unslashed : '/' ∉ path) :
    parts path = ([[]], path) := by
  unfold parts
  rw [Text.splitLast_of_not_mem unslashed]
  rfl

theorem parts_append (dirs : List Char) {base : List Char} (unslashed : '/' ∉ base) :
    parts (dirs ++ '/' :: base) = (Text.splitOn '/' dirs, base) := by
  unfold parts
  rw [Text.splitLast_append dirs unslashed]
  rfl

/-- A path without a slash is a base name; another one has a last slash. -/
theorem unslashed_or_append (path : List Char) :
    '/' ∉ path ∨ ∃ dirs base, path = dirs ++ '/' :: base ∧ '/' ∉ base := by
  induction path with
  | nil => exact .inl List.not_mem_nil
  | cons c rest ih =>
      rcases ih with absent | ⟨dirs, base, rfl, absent⟩
      · by_cases slash : c = '/'
        · subst slash
          exact .inr ⟨[], rest, rfl, absent⟩
        · refine .inl ?_
          rw [List.mem_cons]
          rintro (same | later)
          · exact slash same.symm
          · exact absent later
      · exact .inr ⟨c :: dirs, base, rfl, absent⟩

variable {dir : List Char}

/-- The category of a file in one more directory. -/
theorem ofChars_within (unslashed : '/' ∉ dir) (path : List Char) :
    ofChars (dir ++ '/' :: path) = under dir (ofChars path) := by
  unfold ofChars
  rcases unslashed_or_append path with absent | ⟨dirs, base, rfl, absent⟩
  · -- The only segment in front of a bare base name is an empty one, which says nothing.
    rw [parts_append dir absent, parts_of_not_mem absent, Text.splitOn_of_not_mem unslashed]
    dsimp only
    rw [inDirs_nil_cons, inDirs_cons]
  · have whole : dir ++ '/' :: (dirs ++ '/' :: base) = (dir ++ '/' :: dirs) ++ '/' :: base := by
      rw [List.append_assoc, List.cons_append]
    rw [whole, parts_append _ absent, parts_append _ absent, Text.splitOn_append,
      Text.splitOn_of_not_mem unslashed]
    exact inDirs_cons dir _ _

/-! ## Texts -/

theorem isOneOf_toList (names : List String) (text : String) :
    isOneOf names text.toList = decide (text ∈ names) := by
  rw [Bool.eq_iff_iff, isOneOf, List.any_eq_true, decide_eq_true_eq]
  constructor
  · rintro ⟨name, member, same⟩
    rw [decide_eq_true_eq, String.toList_inj] at same
    exact same ▸ member
  · exact fun member => ⟨text, member, decide_eq_true rfl⟩

theorem under_toList (dir : String) (category : Category) :
    under dir.toList category =
      if dir ∈ vendorDirs then generated
      else if dir ∈ testDirs then if category = generated then generated else test
      else category := by
  simp only [under, isOneOf_toList, decide_eq_true_eq]

theorem ofPath_within {dir : String} (unslashed : '/' ∉ dir.toList) (path : String) :
    ofPath (dir ++ "/" ++ path) = under dir.toList (ofPath path) := by
  have whole : (dir ++ "/" ++ path).toList = dir.toList ++ '/' :: path.toList := by
    rw [String.toList_append, String.toList_append, List.append_assoc]
    rfl
  unfold ofPath
  rw [whole]
  exact ofChars_within unslashed path.toList

/--
A path is a base name in some directories, the outermost first.  A directory may
have an empty name, for slashes may be repeated and may stand in front.
-/
inductive Lies : List String → String → String → Prop
  | here {base : String} (unslashed : '/' ∉ base.toList) : Lies [] base base
  | inside {dir base path : String} {dirs : List String} (unslashed : '/' ∉ dir.toList)
      (lies : Lies dirs base path) : Lies (dir :: dirs) base (dir ++ "/" ++ path)

namespace Lies

variable {dirs others : List String} {base path : String}

/-- The base name gives the category, and then the directories have their say. -/
theorem ofPath_eq (lies : Lies dirs base path) :
    ofPath path = inDirs (dirs.map String.toList) (ofBase base.toList) := by
  induction lies with
  | here unslashed =>
      unfold ofPath ofChars
      rw [parts_of_not_mem unslashed]
      exact inDirs_nil_cons [] _
  | inside unslashed _ ih =>
      rw [ofPath_within unslashed, ih, List.map_cons, inDirs_cons]

end Lies

/-- Every path lies somewhere. -/
theorem exists_lies (path : String) : ∃ dirs base, Lies dirs base path := by
  suffices chars : ∀ front rest : List Char, '/' ∉ front →
      ∃ dirs base, Lies dirs base (String.ofList (front ++ rest)) by
    simpa using chars [] path.toList List.not_mem_nil
  intro front rest unslashed
  -- The segment in front grows until the next slash.
  induction rest generalizing front with
  | nil =>
      refine ⟨[], String.ofList front, ?_⟩
      rw [List.append_nil]
      exact .here (by rwa [String.toList_ofList])
  | cons c rest ih =>
      by_cases slash : c = '/'
      · subst slash
        obtain ⟨dirs, base, lies⟩ := ih [] List.not_mem_nil
        refine ⟨String.ofList front :: dirs, base, ?_⟩
        have whole : String.ofList (front ++ '/' :: rest) =
            String.ofList front ++ "/" ++ String.ofList ([] ++ rest) := by
          rw [← String.toList_inj]
          simp
        rw [whole]
        exact .inside (by rwa [String.toList_ofList]) lies
      · obtain ⟨dirs, base, lies⟩ := ih (front ++ [c]) (by
          rw [List.mem_append, List.mem_singleton]
          rintro (early | same)
          · exact unslashed early
          · exact slash same.symm)
        refine ⟨dirs, base, ?_⟩
        rwa [List.append_assoc] at lies

/-- Of the directories only those with a name from the two lists matter. -/
theorem inDirs_congr {dirs others : List String}
    (same : ∀ dir ∈ vendorDirs ++ testDirs, dir ∈ others ↔ dir ∈ dirs) (category : Category) :
    inDirs (others.map String.toList) category = inDirs (dirs.map String.toList) category := by
  have alike {names : List String} (listed : ∀ name ∈ names, name ∈ vendorDirs ++ testDirs) :
      (others.map String.toList).any (isOneOf names) =
        (dirs.map String.toList).any (isOneOf names) := by
    rw [Bool.eq_iff_iff, List.any_map, List.any_map, List.any_eq_true, List.any_eq_true]
    refine exists_congr fun dir => ?_
    rw [Function.comp_apply, isOneOf_toList, decide_eq_true_eq, and_congr_left_iff]
    exact fun member => same dir (listed dir member)
  unfold inDirs
  rw [alike fun _ member => List.mem_append_left _ member,
    alike fun _ member => List.mem_append_right _ member]

/--
What the directories in front of a file do to its category.  Some make it generated,
some make it a test unless it is generated, and all others leave it as it is.  So a
path has the category of every path with the same base name in the same ones of these
directories; their order, other directories and empty segments make no difference.
-/
structure FollowsDirs (path : String) (category : Category) : Prop where
  foreign : ∀ dir ∈ ["vendor", "node_modules"], ofPath (dir ++ "/" ++ path) = generated
  tested : ∀ dir ∈ ["test", "tests", "__tests__"],
    ofPath (dir ++ "/" ++ path) = if category = generated then generated else test
  others : ∀ dir, '/' ∉ dir.toList →
    dir ∉ ["vendor", "node_modules", "test", "tests", "__tests__"] →
    ofPath (dir ++ "/" ++ path) = category
  here : '/' ∉ path.toList → category = ofBase path.toList
  lies : ∃ dirs base, Lies dirs base path
  decided : ∀ dirs base otherDirs other, Lies dirs base path → Lies otherDirs base other →
    (∀ dir ∈ ["vendor", "node_modules", "test", "tests", "__tests__"],
      dir ∈ otherDirs ↔ dir ∈ dirs) →
    ofPath other = category

/-- The category of a path is decided by its base name and the set of its directories. -/
theorem ofPath_followsDirs (path : String) : FollowsDirs path (ofPath path) where
  foreign := by
    have unslashed : ∀ dir ∈ vendorDirs, '/' ∉ dir.toList := by decide
    intro dir member
    rw [ofPath_within (unslashed dir member), under_toList]
    exact if_pos member
  tested := by
    have unslashed : ∀ dir ∈ testDirs, '/' ∉ dir.toList := by decide
    have apart : ∀ dir ∈ testDirs, dir ∉ vendorDirs := by decide
    intro dir member
    rw [ofPath_within (unslashed dir member), under_toList, if_neg (apart dir member)]
    exact if_pos member
  others := by
    intro dir unslashed unlisted
    have apart : dir ∉ vendorDirs ++ testDirs := unlisted
    obtain ⟨foreign, tested⟩ := not_or.1 (mt List.mem_append.2 apart)
    rw [ofPath_within unslashed, under_toList, if_neg foreign, if_neg tested]
  here := by
    intro unslashed
    rw [(Lies.here unslashed).ofPath_eq]
    exact inDirs_nil (ofBase path.toList)
  lies := exists_lies path
  decided := by
    intro dirs base otherDirs other first second same
    rw [first.ofPath_eq, second.ofPath_eq]
    exact inDirs_congr same (ofBase base.toList)

end DiffDigest.Category
