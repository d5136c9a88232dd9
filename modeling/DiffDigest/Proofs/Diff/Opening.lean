import DiffDigest.Proofs.Diff.Layout

/-!
# Lines that open a file

A file is opened by a line that names two paths behind `a/` and `b/`.  Other lines
may begin like a file header: where a path holds special characters, it stands in
quotes, and the marks stand behind the quotes.  If no line is missed in this way,
each such line opens a file of its own, which is parsed from the lines of its
section alone.
-/

namespace DiffDigest.Diff

open Text (Line bare)

def BeginsFile (line : Line) : Prop :=
  "diff --git ".toList <+: line

instance : DecidablePred BeginsFile := fun line =>
  inferInstanceAs (Decidable ("diff --git ".toList <+: line))

def beginnings (all : List Line) : List Line :=
  all.filter fun line => BeginsFile line

/-- The lines that begin like a file header and open no file. -/
def missed (all : List Line) : List Line :=
  all.filter fun line => BeginsFile line ∧ ¬ IsFileHeader (bare line)

theorem missed_eq_nil_iff {all : List Line} :
    missed all = [] ↔ ∀ line ∈ all, BeginsFile line → IsFileHeader (bare line) := by
  unfold missed
  rw [List.filter_eq_nil_iff]
  simp only [decide_eq_true_eq, not_and, Classical.not_not]

theorem beginsFile_of_isFileHeader {line : Line} (header : IsFileHeader (bare line)) :
    BeginsFile line := by
  obtain ⟨oldPath, newPath, -, -, same⟩ := header
  have opens : "diff --git ".toList <+: headerOf oldPath newPath :=
    ⟨"a/".toList ++ (oldPath.toList ++ (" b/".toList ++ newPath.toList)), by
      unfold headerOf
      simp only [List.append_assoc]
      rfl⟩
  rw [← same] at opens
  exact opens.trans (Text.prefix_bare line)

/-! ## Sections and their headers -/

/-- There is a section for each line that opens a file; only missed lines open none. -/
theorem length_sections (all : List Line) :
    (sections all).2.length + (missed all).length = (beginnings all).length := by
  induction all with
  | nil => rfl
  | cons line rest ih =>
      unfold missed beginnings at ih ⊢
      by_cases header : IsFileHeader (bare line)
      · obtain ⟨oldPath, newPath, kind⟩ := (kind_fileHeader_iff line).2 header
        have begins := beginsFile_of_isFileHeader header
        rw [sections_cons_of_fileHeader kind, List.filter_cons_of_neg (by simp [header]),
          List.filter_cons_of_pos (by simpa using begins), List.length_cons, List.length_cons, ← ih]
        omega
      · have below : OpensNoFile line := fun oldPath newPath kind =>
          header ((kind_fileHeader_iff line).1 ⟨oldPath, newPath, kind⟩)
        rw [sections_cons_of_opensNoFile below]
        by_cases begins : BeginsFile line
        · rw [List.filter_cons_of_pos (by simp [begins, header]),
            List.filter_cons_of_pos (by simpa using begins), List.length_cons, List.length_cons,
            ← ih]
          rfl
        · rw [List.filter_cons_of_neg (by simp [begins]),
            List.filter_cons_of_neg (by simpa using begins)]
          exact ih

/-- The lines of a section: its header and below it no other. -/
structure Section.Spans (chunk : List Line) (s : Section) : Prop where
  lines : ∃ header, IsFileHeader (bare header) ∧ chunk = header :: s.body
  below : ∀ line ∈ s.body, ¬ IsFileHeader (bare line)
  alone : sections chunk = ([], [s])

theorem exists_spans (all : List Line) :
    ∃ chunks, all = (sections all).1 ++ chunks.flatten ∧
      (∀ line ∈ (sections all).1, ¬ IsFileHeader (bare line)) ∧
      List.Forall₂ Section.Spans chunks (sections all).2 := by
  induction all with
  | nil => exact ⟨[], rfl, List.forall_mem_nil _, .nil⟩
  | cons line rest ih =>
      obtain ⟨chunks, same, below, spans⟩ := ih
      rcases opensNoFile_or_fileHeader line with opensNone | ⟨oldPath, newPath, kind⟩
      · rw [sections_cons_of_opensNoFile opensNone]
        have here := (opensNoFile_iff line).1 opensNone
        refine ⟨chunks, ?_, List.forall_mem_cons.2 ⟨here, below⟩, spans⟩
        rw [List.cons_append, ← same]
      · have unopened := fun other member => (opensNoFile_iff other).2 (below other member)
        have body := sections_append_of_opensNoFile unopened []
        change _ = ((sections rest).1 ++ [], ([] : List Section)) at body
        rw [List.append_nil] at body
        rw [sections_cons_of_fileHeader kind]
        refine ⟨(line :: (sections rest).1) :: chunks, ?_, List.forall_mem_nil _, .cons ?_ spans⟩
        · rw [List.flatten_cons, List.nil_append, List.cons_append, ← same]
        · refine ⟨⟨line, (kind_fileHeader_iff line).1 ⟨_, _, kind⟩, rfl⟩, below, ?_⟩
          rw [sections_cons_of_fileHeader kind, body]

/-! ## Parsed diffs -/

/--
Lines that are one section of a diff: the first begins a file, no other does, and
alone they are parsed into this file.
-/
structure FileDiff.OwnsLines (chunk : List Line) (file : FileDiff) : Prop where
  lines : ∃ header body, chunk = header :: body ∧ BeginsFile header ∧
    ∀ line ∈ body, ¬ BeginsFile line
  alone : parse (String.ofList chunk.flatten) = [file]

/--
How files were opened by the lines of a diff.  Besides the missed lines each
beginning opens one file; and if none is missed, each file has a section of its
own, and every line from the first beginning on belongs to one.
-/
structure OpenedBy (all : List Line) (files : List FileDiff) : Prop where
  counted : files.length + (missed all).length = (beginnings all).length
  exact : files.length = (beginnings all).length ↔
    ∀ line ∈ all, BeginsFile line → IsFileHeader (bare line)
  own : (∀ line ∈ all, BeginsFile line → IsFileHeader (bare line)) →
    ∃ preamble chunks, all = preamble ++ chunks.flatten ∧
      (∀ line ∈ preamble, ¬ BeginsFile line) ∧ List.Forall₂ FileDiff.OwnsLines chunks files

/-- A section of a text is parsed alone as it is parsed within the text. -/
theorem Section.Spans.ownsLines {text : List Char} {front back chunk : List Line} {s : Section}
    (spans : s.Spans chunk) (within : Text.lines text = front ++ (chunk ++ back))
    (recognised : ∀ line ∈ chunk, BeginsFile line → IsFileHeader (bare line)) :
    FileDiff.OwnsLines chunk s.file := by
  obtain ⟨⟨header, opens, rfl⟩, below, alone⟩ := spans
  refine ⟨⟨header, s.body, rfl, beginsFile_of_isFileHeader opens, ?_⟩, ?_⟩
  · intro line member begins
    exact below line member (recognised line (List.mem_cons_of_mem _ member) begins)
  · have behind := (Text.lines_flatten_of_append within).2
    have own := (Text.lines_flatten_of_append behind).1
    rw [parse, String.toList_ofList, own, alone]
    rfl

theorem Section.Spans.forall₂_ownsLines {text : List Char} {front : List Line}
    {chunks : List (List Line)} {ss : List Section} (spans : List.Forall₂ Spans chunks ss)
    (within : Text.lines text = front ++ chunks.flatten)
    (recognised : ∀ line ∈ Text.lines text, BeginsFile line → IsFileHeader (bare line)) :
    List.Forall₂ FileDiff.OwnsLines chunks (ss.map file) := by
  induction spans generalizing front with
  | nil => exact .nil
  | @cons chunk s chunks ss first _ ih =>
      rw [List.flatten_cons] at within
      have behind : Text.lines text = front ++ chunk ++ chunks.flatten := by
        rw [within, List.append_assoc]
      refine .cons (first.ownsLines within ?_) (ih behind)
      intro line member
      refine recognised line ?_
      rw [behind]
      exact List.mem_append_left _ (List.mem_append_right _ member)

/-- Each line that is read as a file header has a file to itself, whatever stands below it. -/
theorem parse_openedBy (text : String) :
    OpenedBy (Text.lines text.toList) (parse text) := by
  have counted := length_sections (Text.lines text.toList)
  have length : (parse text).length = (sections (Text.lines text.toList)).2.length :=
    List.length_map _
  rw [← length] at counted
  refine ⟨counted, ?_, ?_⟩
  · rw [← missed_eq_nil_iff, ← List.length_eq_zero_iff]
    omega
  · intro recognised
    obtain ⟨chunks, same, below, spans⟩ := exists_spans (Text.lines text.toList)
    refine ⟨_, chunks, same, ?_, ?_⟩
    · intro line member begins
      have among : line ∈ Text.lines text.toList := by
        rw [same]
        exact List.mem_append_left _ member
      exact below line member (recognised line among begins)
    · exact Section.Spans.forall₂_ownsLines spans same recognised

/-- A diff of two files, the second of them with its paths in quotes. -/
def quotedDiff : String :=
  String.join
    ["diff --git a/main.rs b/main.rs\n", "--- a/main.rs\n", "+++ b/main.rs\n", "@@ -1 +1 @@\n",
      "-old\n", "+new\n",
      "diff --git \"a/gr\\303\\266\\303\\237e.rs\" \"b/gr\\303\\266\\303\\237e.rs\"\n",
      "new file mode 100644\n", "--- /dev/null\n", "+++ \"b/gr\\303\\266\\303\\237e.rs\"\n",
      "@@ -0,0 +1 @@\n", "+fn f() \x7b\x7d\n"]

/-- A header with quoted paths is missed, and its section goes to the file above. -/
theorem parse_quotedDiff :
    (parse quotedDiff).length = 1 ∧ (beginnings (Text.lines quotedDiff.toList)).length = 2 ∧
      (parse quotedDiff).map (fun file => (file.newPath, file.isNew, file.hunks.map Hunk.range)) =
        [("main.rs", true, [⟨1, 1, 1, 1⟩, ⟨0, 0, 1, 1⟩])] := by
  unfold parse quotedDiff
  rw [String.toList_join]
  decide +kernel

end DiffDigest.Diff
