import DiffDigest.Proofs.Text.Blank
import DiffDigest.Text.Line

/-!
# Cutting a text into lines

A line is full when it is ended by its newline and holds no other.  Full lines
that are put together are the lines of the result, whatever text follows.
-/

namespace DiffDigest.Text

/-! ## Full lines -/

def IsFull (line : Line) : Prop :=
  ∃ body, '\n' ∉ body ∧ line = body ++ ['\n']

theorem IsFull.getLast? {line : Line} (full : IsFull line) : line.getLast? = some '\n' := by
  obtain ⟨body, _, rfl⟩ := full
  simp

theorem IsFull.complete {line : Line} (full : IsFull line) : complete line = line := by
  rw [Text.complete, if_pos full.getLast?]

theorem getLast?_flatten {all : List Line} (some : all ≠ []) (full : ∀ line ∈ all, IsFull line) :
    all.flatten.getLast? = Option.some '\n' := by
  have last := (full _ (List.getLast_mem some)).getLast?
  rw [← List.dropLast_concat_getLast some, List.flatten_append, List.getLast?_append,
    List.flatten_singleton, last, Option.some_or]

/-- Lines that are full, put together, are lines again. -/
theorem lines_append_newline {body : List Char} (clean : '\n' ∉ body) (rest : List Char) :
    lines (body ++ '\n' :: rest) = (body ++ ['\n']) :: lines rest := by
  induction body with
  | nil => rfl
  | cons c body ih =>
      have head : c ≠ '\n' := fun same => clean (same ▸ List.mem_cons_self)
      have tail : '\n' ∉ body := fun member => clean (List.mem_cons_of_mem _ member)
      rw [List.cons_append, lines_cons, ih tail, consLine, if_neg head]
      rfl

theorem lines_append_of_isFull {line : Line} (full : IsFull line) (rest : List Char) :
    lines (line ++ rest) = line :: lines rest := by
  obtain ⟨body, clean, rfl⟩ := full
  rw [List.append_assoc]
  exact lines_append_newline clean rest

theorem lines_flatten_append {front : List Line} (full : ∀ line ∈ front, IsFull line)
    (rest : List Char) : lines (front.flatten ++ rest) = front ++ lines rest := by
  induction front with
  | nil => rfl
  | cons line front ih =>
      rw [List.flatten_cons, List.append_assoc,
        lines_append_of_isFull (full line List.mem_cons_self),
        ih fun other member => full other (List.mem_cons_of_mem _ member)]
      rfl

theorem lines_flatten {all : List Line} (full : ∀ line ∈ all, IsFull line) :
    lines all.flatten = all := by
  have whole := lines_flatten_append full []
  simpa using whole

/-! ## The lines of a text -/

/-- A line of a text holds no newline but the one at its end. -/
theorem body_of_mem_lines {text : List Char} {line : Line} (member : line ∈ lines text) :
    ∃ body, '\n' ∉ body ∧ (line = body ∨ line = body ++ ['\n']) := by
  induction text generalizing line with
  | nil => cases member
  | cons c rest ih =>
      rw [lines_cons] at member
      unfold consLine at member
      split at member
      · rename_i same
        rcases List.mem_cons.1 member with rfl | member
        · exact ⟨[], List.not_mem_nil, Or.inr (by rw [same]; rfl)⟩
        · exact ih member
      · rename_i differs
        have absent : ∀ {body : List Char}, '\n' ∉ body → '\n' ∉ c :: body := by
          intro body clean inside
          rcases List.mem_cons.1 inside with same | inside
          · exact differs same.symm
          · exact clean inside
        split at member
        · obtain rfl := List.mem_singleton.1 member
          exact ⟨[c], absent List.not_mem_nil, Or.inl rfl⟩
        · rename_i first others shape
          rcases List.mem_cons.1 member with rfl | member
          · obtain ⟨body, clean, form⟩ := ih (shape ▸ List.mem_cons_self)
            refine ⟨c :: body, absent clean, ?_⟩
            rcases form with rfl | rfl
            · exact Or.inl rfl
            · exact Or.inr rfl
          · exact ih (shape ▸ List.mem_cons_of_mem _ member)

theorem isFull_complete {text : List Char} {line : Line} (member : line ∈ lines text) :
    IsFull (complete line) := by
  obtain ⟨body, clean, rfl | rfl⟩ := body_of_mem_lines member
  · refine ⟨line, clean, ?_⟩
    rw [complete, if_neg]
    intro last
    exact clean (List.mem_of_getLast? last)
  · refine ⟨body, clean, ?_⟩
    rw [complete, if_pos (by simp)]

/-- Only the last line of a text may lack its newline. -/
theorem isFull_of_lines_cons {text : List Char} {line : Line} {rest : List Line}
    (cut : lines text = line :: rest) (others : rest ≠ []) : IsFull line := by
  induction text generalizing line with
  | nil => cases cut
  | cons c text ih =>
      rw [lines_cons] at cut
      unfold consLine at cut
      split at cut
      · rename_i newline
        cases cut
        exact ⟨[], List.not_mem_nil, by rw [newline]; rfl⟩
      · rename_i differs
        split at cut
        · cases cut
          exact absurd rfl others
        · rename_i shape
          cases cut
          obtain ⟨body, clean, rfl⟩ := ih shape
          refine ⟨c :: body, ?_, rfl⟩
          intro inside
          rcases List.mem_cons.1 inside with same | inside
          · exact differs same.symm
          · exact clean inside

/-- Lines that stand together in a text are the lines of what they make up. -/
theorem lines_flatten_of_append {text : List Char} {front back : List Line}
    (cut : lines text = front ++ back) :
    lines front.flatten = front ∧ lines back.flatten = back := by
  induction front generalizing text with
  | nil =>
      have whole := flatten_lines text
      rw [cut] at whole
      rw [List.nil_append] at whole cut
      exact ⟨rfl, by rw [whole, cut]⟩
  | cons line front ih =>
      have whole := flatten_lines text
      rw [cut, List.cons_append, List.flatten_cons] at whole
      by_cases last : front ++ back = []
      · obtain ⟨rfl, rfl⟩ := List.append_eq_nil_iff.1 last
        rw [List.append_nil, List.flatten_nil, List.append_nil] at whole
        subst whole
        refine ⟨?_, rfl⟩
        rw [List.flatten_singleton]
        exact cut
      · have full := isFull_of_lines_cons cut last
        rw [← whole, lines_append_of_isFull full, List.cons_append, List.cons.injEq] at cut
        obtain ⟨frontLines, backLines⟩ := ih cut.2
        rw [List.flatten_cons, lines_append_of_isFull full, frontLines]
        exact ⟨rfl, backLines⟩

/-! ## Completed texts -/

theorem complete_cons {line : Line} (some : line ≠ []) (c : Char) :
    complete (c :: line) = c :: complete line := by
  obtain ⟨first, rest, rfl⟩ := List.exists_cons_of_ne_nil some
  unfold complete
  rw [List.getLast?_cons_cons]
  split <;> rfl

theorem complete_complete (line : Line) : complete (complete line) = complete line := by
  rw [complete, if_pos (getLast?_complete line)]

theorem map_complete_consLine (c : Char) {all : List Line} (filled : all ≠ [])
    (each : ∀ line ∈ all, line ≠ []) :
    (consLine c all).map complete = consLine c (all.map complete) := by
  obtain ⟨line, rest, rfl⟩ := List.exists_cons_of_ne_nil filled
  unfold consLine
  split
  · rename_i newline
    rw [newline]
    rfl
  · rw [List.map_cons, List.map_cons, complete_cons (each line List.mem_cons_self)]

/-- A text that lacks only its last newline is completed to the whole text. -/
theorem IsFull.complete_dropLast {line : Line} (full : IsFull line) (some : line ≠ ['\n'])
    (front : List Char) : Text.complete (front ++ line).dropLast = front ++ line := by
  obtain ⟨body, clean, rfl⟩ := full
  have filled : body ≠ [] := by
    rintro rfl
    exact some rfl
  have unended : (front ++ body).getLast? ≠ Option.some '\n' := by
    rw [List.getLast?_append, List.getLast?_eq_some_getLast filled, Option.some_or]
    exact fun last => clean (Option.some.inj last ▸ List.getLast_mem filled)
  rw [← List.append_assoc, List.dropLast_concat, Text.complete, if_neg unended]

/-- Completing a text completes its last line. -/
theorem lines_complete {text : List Char} (some : text ≠ []) :
    lines (complete text) = (lines text).map complete := by
  induction text with
  | nil => exact absurd rfl some
  | cons c rest ih =>
      by_cases last : rest = []
      · rw [last]
        by_cases newline : c = '\n'
        · rw [newline]
          rfl
        · have unended : complete [c] = [c, '\n'] := by simp [complete, newline]
          simp [unended, consLine, newline]
      · have filled : lines rest ≠ [] := by
          intro none
          have whole := flatten_lines rest
          rw [none] at whole
          exact last whole.symm
        rw [complete_cons last, lines_cons, lines_cons, ih last,
          map_complete_consLine c filled fun line member => ne_nil_of_mem_lines member]

/-! ## Texts with a last newline -/

/-- A text that is empty or ends with a newline. -/
def IsEnded (text : List Char) : Prop :=
  text = [] ∨ text.getLast? = some '\n'

instance : DecidablePred IsEnded := fun text =>
  inferInstanceAs (Decidable (text = [] ∨ text.getLast? = some '\n'))

theorem IsEnded.isFull {text : List Char} (ended : IsEnded text) {line : Line}
    (member : line ∈ lines text) : IsFull line := by
  rcases ended with rfl | last
  · cases member
  · have filled : text ≠ [] := by
      rintro rfl
      cases last
    have completed := lines_complete filled
    rw [complete, if_pos last] at completed
    rw [completed] at member
    obtain ⟨raw, among, rfl⟩ := List.mem_map.1 member
    exact isFull_complete among

/-- Behind a last newline a new line begins. -/
theorem IsEnded.lines_append {front : List Char} (ended : IsEnded front) (back : List Char) :
    lines (front ++ back) = lines front ++ lines back := by
  have cut := lines_flatten_append (fun _ member => ended.isFull member) back
  rwa [flatten_lines] at cut

/-! ## Bare lines -/

theorem dropRightWhile_newline {body : List Char} (clean : '\n' ∉ body) :
    dropRightWhile (· = '\n') body = body := by
  refine dropRightWhile_of_getLast? fun c last => decide_eq_false ?_
  rintro rfl
  exact clean (List.mem_of_getLast? last)

/-- The newline of a full line does not count. -/
theorem bare_append_newline (body : List Char) :
    bare (body ++ ['\n']) = bare body := by
  unfold bare
  rw [dropRightWhile_concat_of_pos (by decide)]

theorem bare_of_clean {body : List Char} (clean : '\n' ∉ body)
    (unreturned : body.getLast? ≠ some '\r') : bare body = body := by
  unfold bare
  rw [dropRightWhile_newline clean]
  refine dropRightWhile_of_getLast? fun c last => decide_eq_false ?_
  rintro rfl
  exact unreturned last

theorem bare_complete (line : Line) : bare (complete line) = bare line := by
  unfold complete
  split
  · rfl
  · exact bare_append_newline line

/-- A character that ends no line stays in front. -/
theorem bare_cons {c : Char} (noNewline : c ≠ '\n') (noReturn : c ≠ '\r') (text : List Char) :
    bare (c :: text) = c :: bare text := by
  unfold bare
  rw [dropRightWhile_cons_of_neg (decide_eq_false noNewline),
    dropRightWhile_cons_of_neg (decide_eq_false noReturn)]

/-- Characters that end no line stay in front. -/
theorem bare_append {front : List Char} (inside : ∀ c ∈ front, c ≠ '\n' ∧ c ≠ '\r')
    (text : List Char) : bare (front ++ text) = front ++ bare text := by
  induction front with
  | nil => rfl
  | cons c front ih =>
      have here := inside c List.mem_cons_self
      rw [List.cons_append, bare_cons here.1 here.2,
        ih fun other member => inside other (List.mem_cons_of_mem _ member)]
      rfl

/-- A bare line is the beginning of the line. -/
theorem prefix_bare (line : Line) : bare line <+: line :=
  (prefix_dropRightWhile _ _).trans (prefix_dropRightWhile _ _)

/-- A bare line holds no newline. -/
theorem newline_not_mem_bare {text : List Char} {line : Line} (member : line ∈ lines text) :
    '\n' ∉ bare line := by
  obtain ⟨body, clean, rfl | rfl⟩ := body_of_mem_lines member
  · exact fun inside => clean (mem_of_mem_dropRightWhile (mem_of_mem_dropRightWhile inside))
  · rw [bare_append_newline body]
    exact fun inside => clean (mem_of_mem_dropRightWhile (mem_of_mem_dropRightWhile inside))

/-- A bare line does not end in a carriage return. -/
theorem getLast?_bare_ne (line : Line) : (bare line).getLast? ≠ some '\r' := by
  intro last
  have kept := getLast?_dropRightWhile last
  simp at kept

end DiffDigest.Text
