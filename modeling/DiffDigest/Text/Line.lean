import DiffDigest.Text.Blank

/-!
# Lines

A text is a sequence of lines, each with the newline that ends it.  Only the
last line may lack its newline, and completing it changes nothing else.
-/

namespace DiffDigest.Text

abbrev Line := List Char

def consLine (c : Char) (lines : List Line) : List Line :=
  if c = '\n' then [c] :: lines
  else match lines with
    | [] => [[c]]
    | line :: rest => (c :: line) :: rest

def lines (text : List Char) : List Line :=
  text.foldr consLine []

@[simp] theorem lines_nil : lines [] = [] :=
  rfl

@[simp] theorem lines_cons (c : Char) (text : List Char) :
    lines (c :: text) = consLine c (lines text) :=
  rfl

theorem flatten_consLine (c : Char) (all : List Line) :
    (consLine c all).flatten = c :: all.flatten := by
  unfold consLine
  split
  · rfl
  · cases all <;> rfl

/-- Nothing is lost: the lines make up the text. -/
theorem flatten_lines (text : List Char) : (lines text).flatten = text := by
  induction text with
  | nil => rfl
  | cons c rest ih => rw [lines_cons, flatten_consLine, ih]

theorem ne_nil_of_mem_lines {text : List Char} {line : Line} (member : line ∈ lines text) :
    line ≠ [] := by
  induction text generalizing line with
  | nil => cases member
  | cons c rest ih =>
      rw [lines_cons] at member
      unfold consLine at member
      split at member
      · rcases List.mem_cons.1 member with rfl | member
        · simp
        · exact ih member
      · split at member
        · simp_all
        · rename_i shape
          rcases List.mem_cons.1 member with rfl | member
          · simp
          · exact ih (by simp [shape, member])

/-- A line without its newline and without the carriage returns before it. -/
def bare (line : Line) : List Char :=
  dropRightWhile (· = '\r') (dropRightWhile (· = '\n') line)

def complete (line : Line) : Line :=
  if line.getLast? = some '\n' then line else line ++ ['\n']

theorem getLast?_complete (line : Line) : (complete line).getLast? = some '\n' := by
  unfold complete
  split
  · assumption
  · simp

end DiffDigest.Text
