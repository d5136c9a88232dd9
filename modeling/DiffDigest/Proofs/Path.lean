import DiffDigest.Path

/-!
# Absolute paths

A path that is built from segments has just these segments, and is its own
absolute form.  So the directory that a file lies in needs no working directory.
-/

namespace DiffDigest.Path

/-- A segment that counts: neither empty nor a dot, and without a slash. -/
structure IsSegment (segment : Bytes) : Prop where
  nonempty : segment ≠ []
  undotted : segment ≠ [dot]
  unslashed : slash ∉ segment

theorem isSegment_of_mem_segments {path segment : Bytes} (member : segment ∈ segments path) :
    IsSegment segment := by
  obtain ⟨piece, counts⟩ := List.mem_filter.1 member
  rw [Bool.and_eq_true, decide_eq_true_eq, decide_eq_true_eq] at counts
  exact ⟨counts.1, counts.2, Text.not_mem_of_mem_splitOn piece⟩

variable {parts : List Bytes} {base workDir : Path}

theorem splitOn_flatMap_slash (settled : ∀ part ∈ parts, IsSegment part) :
    Text.splitOn slash (parts.flatMap (slash :: ·)) = [] :: parts := by
  induction parts with
  | nil => rfl
  | cons part parts ih =>
      obtain ⟨first, settled⟩ := List.forall_mem_cons.1 settled
      have later := ih settled
      rw [List.flatMap_cons, List.cons_append, Text.splitOn_cons, if_pos BEq.rfl]
      cases parts with
      | nil => rw [List.flatMap_nil, List.append_nil, Text.splitOn_of_not_mem first.unslashed]
      | cons next parts =>
          rw [List.flatMap_cons, List.cons_append, Text.splitOn_cons, if_pos BEq.rfl,
            List.cons.injEq] at later
          rw [List.flatMap_cons, List.cons_append, Text.splitOn_append,
            Text.splitOn_of_not_mem first.unslashed, later.2]
          rfl

theorem segments_ofSegments (settled : ∀ part ∈ parts, IsSegment part) :
    segments (ofSegments parts) = parts := by
  unfold ofSegments
  by_cases empty : parts = []
  · subst empty
    rfl
  · rw [if_neg empty]
    unfold segments
    rw [splitOn_flatMap_slash settled, List.filter_cons_of_neg (by decide),
      List.filter_eq_self]
    intro part member
    have counts := settled part member
    rw [Bool.and_eq_true, decide_eq_true_eq, decide_eq_true_eq]
    exact ⟨counts.nonempty, counts.undotted⟩

theorem endsInSlash_append_cons (base : Path) {segment : Bytes} (counts : IsSegment segment) :
    endsInSlash (base ++ slash :: segment) = false := by
  unfold endsInSlash
  rw [decide_eq_false_iff_not]
  intro ends
  rw [List.getLast?_append, List.getLast?_cons] at ends
  cases last : segment.getLast? with
  | none => exact counts.nonempty (List.getLast?_eq_none_iff.1 last)
  | some byte =>
      rw [last] at ends
      cases ends
      exact counts.unslashed (List.mem_of_getLast? last)

/-- Segments are appended with a slash before each. -/
theorem foldl_push (nonempty : base ≠ []) (free : endsInSlash base = false)
    (settled : ∀ part ∈ parts, IsSegment part) :
    parts.foldl push base = base ++ parts.flatMap (slash :: ·) ∧
      endsInSlash (base ++ parts.flatMap (slash :: ·)) = false := by
  induction parts generalizing base with
  | nil =>
      rw [List.flatMap_nil, List.append_nil]
      exact ⟨rfl, free⟩
  | cons part parts ih =>
      obtain ⟨first, settled⟩ := List.forall_mem_cons.1 settled
      have pushed : push base part = base ++ slash :: part := by
        unfold push
        rw [free, if_neg]
        rw [Bool.or_false, decide_eq_true_eq]
        exact nonempty
      rw [List.foldl_cons, pushed, List.flatMap_cons, ← List.append_assoc]
      exact ih (List.append_ne_nil_of_right_ne_nil base (List.cons_ne_nil slash part))
        (endsInSlash_append_cons base first) settled

/-- With one slash in front, a path starts at the root. -/
theorem absolute?_slash_cons {path : Path} (single : path.head? ≠ some slash)
    (free : endsInSlash (slash :: path) = false) :
    absolute? workDir (slash :: path) = some ((segments (slash :: path)).foldl push [slash]) := by
  have rooted : isAbsolute (slash :: path) = true := rfl
  unfold absolute?
  rw [if_neg (List.cons_ne_nil _ _), free, rooted]
  dsimp only
  rw [List.drop_succ_cons, List.drop_zero, decide_eq_false single]
  rfl

/-- A path built from segments is absolute already. -/
theorem absolute?_ofSegments (settled : ∀ part ∈ parts, IsSegment part) :
    absolute? workDir (ofSegments parts) = some (ofSegments parts) := by
  have kept := segments_ofSegments settled
  cases parts with
  | nil => rfl
  | cons part parts =>
      obtain ⟨first, others⟩ := List.forall_mem_cons.1 settled
      have built : ofSegments (part :: parts) =
          slash :: (part ++ parts.flatMap (slash :: ·)) := by
        unfold ofSegments
        rw [if_neg (List.cons_ne_nil _ _), List.flatMap_cons]
        rfl
      have single : (part ++ parts.flatMap (slash :: ·)).head? ≠ some slash := by
        cases part with
        | nil => exact absurd rfl first.nonempty
        | cons byte part =>
            intro same
            cases same
            exact first.unslashed List.mem_cons_self
      have rooted : push [slash] part = slash :: part := rfl
      obtain ⟨whole, free⟩ := foldl_push (List.cons_ne_nil slash part)
        (endsInSlash_append_cons [] first) others
      rw [built] at kept ⊢
      rw [absolute?_slash_cons single free, kept, List.foldl_cons, rooted, whole]
      rfl

/-- The directory of a path is absolute, wherever one is. -/
theorem absolute?_parent (workDir path : Path) :
    absolute? workDir path.parent = some path.parent := by
  apply absolute?_ofSegments
  intro part member
  exact isSegment_of_mem_segments (List.dropLast_subset _ member)

theorem exists_uri?_parent (path : Path) : ∃ uri, path.parent.uri? = some uri := by
  have rooted : isAbsolute path.parent = true := by
    unfold parent ofSegments
    cases path.segments.dropLast with
    | nil => rfl
    | cons part parts => rfl
  exact Option.isSome_iff_exists.1 ((uri?_isSome_iff _).2 rooted)

end DiffDigest.Path
