import DiffDigest.Proofs.Outline.Node
import Mathlib.Data.List.Induction

/-!
# Walks through a text

A walk goes from character to character.  A newline leads to the start of the next
line, and any other character, a carriage return too, leads along its line by its
UTF-16 units.  The range of a document ends where a walk through it ends.
-/

namespace DiffDigest

namespace Position

/-! ## Steps -/

def after (place : Position) (c : Char) : Position :=
  if c = '\n' then ⟨place.line + 1, 0⟩
  else if c.toNat ≤ 0xFFFF then ⟨place.line, place.character + 1⟩
  else ⟨place.line, place.character + 2⟩

theorem after_newline (place : Position) : place.after '\n' = ⟨place.line + 1, 0⟩ :=
  rfl

theorem after_of_ne (place : Position) {c : Char} (inside : c ≠ '\n') :
    place.after c = ⟨place.line, place.character + utf16Units c⟩ := by
  unfold after utf16Units
  rw [if_neg inside]
  by_cases narrow : c.toNat ≤ 0xFFFF
  · rw [if_pos narrow, if_pos (by omega)]
  · rw [if_neg narrow, if_neg (by omega)]

/-- The place that is as far from a place as another is from the start of a text. -/
def displace (place : Position) : Position → Position
  | ⟨0, character⟩ => ⟨place.line, place.character + character⟩
  | ⟨line + 1, character⟩ => ⟨place.line + (line + 1), character⟩

theorem displace_of_line_eq_zero (place : Position) {way : Position} (along : way.line = 0) :
    place.displace way = ⟨place.line, place.character + way.character⟩ := by
  obtain ⟨line, character⟩ := way
  cases along
  rfl

theorem displace_of_line_ne_zero (place : Position) {way : Position} (down : way.line ≠ 0) :
    place.displace way = ⟨place.line + way.line, way.character⟩ := by
  obtain ⟨line, character⟩ := way
  cases line with
  | zero => exact absurd rfl down
  | succ line => rfl

/-- A step from a displaced place is a displaced step. -/
theorem displace_after (place way : Position) (c : Char) :
    place.displace (way.after c) = (place.displace way).after c := by
  obtain ⟨line, character⟩ := way
  by_cases newline : c = '\n'
  · rw [newline, after_newline, after_newline]
    cases line with
    | zero | succ => rfl
  · rw [after_of_ne _ newline, after_of_ne _ newline]
    cases line with
    | zero => simp only [displace, Nat.add_assoc]
    | succ line => rfl

/-! ## Walks -/

def walkFrom (place : Position) (text : List Char) : Position :=
  text.foldl after place

/-- The place to which a walk through a whole text leads. -/
def walk (text : List Char) : Position :=
  walkFrom ⟨0, 0⟩ text

theorem walkFrom_append (place : Position) (front back : List Char) :
    place.walkFrom (front ++ back) = (place.walkFrom front).walkFrom back :=
  List.foldl_append

theorem walkFrom_concat (place : Position) (text : List Char) (c : Char) :
    place.walkFrom (text ++ [c]) = (place.walkFrom text).after c :=
  walkFrom_append place text [c]

theorem walk_concat (text : List Char) (c : Char) : walk (text ++ [c]) = (walk text).after c :=
  walkFrom_concat ⟨0, 0⟩ text c

/-- A walk from any place is the walk from the start, displaced. -/
theorem walkFrom_eq_displace (place : Position) (text : List Char) :
    place.walkFrom text = place.displace (walk text) := by
  -- A walk takes its last step where it stands, so the last character is split off.
  induction text using List.reverseRecOn with
  | nil => rfl
  | append_singleton text c ih =>
      rw [walkFrom_concat, ih, walk_concat, displace_after]

/-- The walk through a second text goes on where the first one leads. -/
theorem walk_append (front back : List Char) :
    walk (front ++ back) = (walk front).displace (walk back) := by
  unfold walk
  rw [walkFrom_append, walkFrom_eq_displace]
  rfl

/-! ## The last line -/

/-- The last line of a text: what stands behind its last newline, or all of it. -/
inductive IsLastLine : List Char → List Char → Prop
  | only {last : List Char} (clean : '\n' ∉ last) : IsLastLine last last
  | behind (front : List Char) {last : List Char} (clean : '\n' ∉ last) :
      IsLastLine (front ++ '\n' :: last) last

theorem lastLine_concat_newline (text : List Char) : lastLine (text ++ ['\n']) = [] := by
  simp [lastLine]

theorem lastLine_concat_of_ne (text : List Char) {c : Char} (inside : c ≠ '\n') :
    lastLine (text ++ [c]) = lastLine text ++ [c] := by
  simp [lastLine, inside]

theorem lastLine_append_of_clean (text : List Char) {back : List Char} (clean : '\n' ∉ back) :
    lastLine (text ++ back) = lastLine text ++ back := by
  induction back using List.reverseRecOn with
  | nil => rw [List.append_nil, List.append_nil]
  | append_singleton back c ih =>
      have inside : c ≠ '\n' := by
        rintro rfl
        exact clean (List.mem_append_right back List.mem_cons_self)
      have cleanToo : '\n' ∉ back := mt (List.mem_append_left [c]) clean
      rw [← List.append_assoc, lastLine_concat_of_ne _ inside, ih cleanToo, List.append_assoc]

theorem IsLastLine.concat {text last : List Char} (ends : IsLastLine text last) {c : Char}
    (inside : c ≠ '\n') : IsLastLine (text ++ [c]) (last ++ [c]) := by
  have longer {last : List Char} (clean : '\n' ∉ last) : '\n' ∉ last ++ [c] := by
    simp [clean, inside.symm]
  cases ends with
  | only clean => exact .only (longer clean)
  | behind front clean =>
      rw [List.append_assoc]
      exact .behind front (longer clean)

/-- Each text has one last line. -/
theorem isLastLine_iff {text last : List Char} : IsLastLine text last ↔ lastLine text = last := by
  constructor
  · intro ends
    cases ends with
    | only clean => exact lastLine_append_of_clean [] clean
    | behind front clean =>
        rw [List.append_cons, lastLine_append_of_clean _ clean, lastLine_concat_newline,
          List.nil_append]
  · rintro rfl
    induction text using List.reverseRecOn with
    | nil => exact .only List.not_mem_nil
    | append_singleton text c ih =>
        by_cases newline : c = '\n'
        · rw [newline, lastLine_concat_newline]
          exact .behind text List.not_mem_nil
        · rw [lastLine_concat_of_ne text newline]
          exact ih.concat newline

/-- A walk leads as many lines down as there are newlines, and to the end of the last line. -/
theorem walk_eq (text : List Char) :
    walk text = ⟨text.count '\n', total utf16Units (lastLine text)⟩ := by
  induction text using List.reverseRecOn with
  | nil => rfl
  | append_singleton text c ih =>
      rw [walk_concat, ih, List.count_append]
      by_cases newline : c = '\n'
      · rw [newline, after_newline, lastLine_concat_newline]
        rfl
      · rw [after_of_ne _ newline, lastLine_concat_of_ne text newline, total_append]
        simp [newline]

theorem line_walk_eq_zero_iff {text : List Char} : (walk text).line = 0 ↔ '\n' ∉ text := by
  rw [walk_eq]
  exact List.count_eq_zero

/-- Behind a text, one with newlines leads further down. -/
theorem walk_append_of_mem (front : List Char) {back : List Char} (broken : '\n' ∈ back) :
    walk (front ++ back) =
      ⟨(walk front).line + (walk back).line, (walk back).character⟩ := by
  have down : (walk back).line ≠ 0 := fun along => line_walk_eq_zero_iff.1 along broken
  rw [walk_append, displace_of_line_ne_zero _ down]

/-- Behind a text, one without newlines leads further along the line. -/
theorem walk_append_of_not_mem (front : List Char) {back : List Char} (unbroken : '\n' ∉ back) :
    walk (front ++ back) =
      ⟨(walk front).line, (walk front).character + (walk back).character⟩ := by
  rw [walk_append, displace_of_line_eq_zero _ (line_walk_eq_zero_iff.2 unbroken)]

/-! ## Numbers of bounded width -/

def wrap (place : Position) : Position :=
  ⟨place.line % bound, place.character % bound⟩

/-- A text ends where a walk through it leads, with the numbers cut to their width. -/
theorem atEnd_eq_wrap (text : List Char) : atEnd text = (walk text).wrap := by
  rw [walk_eq]
  rfl

theorem atEnd_append_of_mem (front : List Char) {back : List Char} (broken : '\n' ∈ back) :
    atEnd (front ++ back) =
      ⟨((atEnd front).line + (atEnd back).line) % bound, (atEnd back).character⟩ := by
  simp only [atEnd_eq_wrap, walk_append_of_mem front broken, wrap, Nat.add_mod_mod,
    Nat.mod_add_mod]

theorem atEnd_append_of_not_mem (front : List Char) {back : List Char} (unbroken : '\n' ∉ back) :
    atEnd (front ++ back) =
      ⟨(atEnd front).line, ((atEnd front).character + (atEnd back).character) % bound⟩ := by
  simp only [atEnd_eq_wrap, walk_append_of_not_mem front unbroken, wrap, Nat.add_mod_mod,
    Nat.mod_add_mod]

theorem wrap_of_fits {place : Position} (fits : place.Fits) : place.wrap = place := by
  rw [wrap, Nat.mod_eq_of_lt fits.1, Nat.mod_eq_of_lt fits.2]

/--
A text is short if it has fewer than 2^32 newlines and its last line has fewer than
2^32 UTF-16 units.
-/
structure IsShort (text : List Char) : Prop where
  lines : text.count '\n' < Word.size32
  units : ∀ last, IsLastLine text last → total utf16Units last < Word.size32

theorem isShort_iff {text : List Char} : IsShort text ↔ (walk text).Fits := by
  rw [walk_eq]
  constructor
  · intro short
    exact ⟨short.lines, short.units _ (isLastLine_iff.2 rfl)⟩
  · rintro ⟨lines, units⟩
    refine ⟨lines, ?_⟩
    intro last ends
    rwa [← isLastLine_iff.1 ends]

instance : DecidablePred IsShort := fun _ =>
  decidable_of_iff _ isShort_iff.symm

namespace IsShort

variable {text front back : List Char}

theorem atEnd_eq (short : IsShort text) : atEnd text = walk text := by
  rw [atEnd_eq_wrap, wrap_of_fits (isShort_iff.1 short)]

/-- The ends of the parts count no more lines than the whole text has, so none are cut off. -/
theorem atEnd_append_of_mem (short : IsShort (front ++ back)) (broken : '\n' ∈ back) :
    atEnd (front ++ back) = ⟨(atEnd front).line + (atEnd back).line, (atEnd back).character⟩ := by
  have small := (isShort_iff.1 short).1
  rw [walk_append_of_mem front broken] at small
  have sum : (atEnd front).line + (atEnd back).line ≤ (walk front).line + (walk back).line := by
    rw [atEnd_eq_wrap, atEnd_eq_wrap]
    exact Nat.add_le_add (Nat.mod_le _ _) (Nat.mod_le _ _)
  rw [Position.atEnd_append_of_mem front broken, Nat.mod_eq_of_lt (Nat.lt_of_le_of_lt sum small)]

theorem atEnd_append_of_not_mem (short : IsShort (front ++ back)) (unbroken : '\n' ∉ back) :
    atEnd (front ++ back) =
      ⟨(atEnd front).line, (atEnd front).character + (atEnd back).character⟩ := by
  have small := (isShort_iff.1 short).2
  rw [walk_append_of_not_mem front unbroken] at small
  have sum : (atEnd front).character + (atEnd back).character ≤
      (walk front).character + (walk back).character := by
    rw [atEnd_eq_wrap, atEnd_eq_wrap]
    exact Nat.add_le_add (Nat.mod_le _ _) (Nat.mod_le _ _)
  rw [Position.atEnd_append_of_not_mem front unbroken,
    Nat.mod_eq_of_lt (Nat.lt_of_le_of_lt sum small)]

end IsShort

end Position

namespace Range

/-! ## Whole documents -/

/--
The range of a document follows a walk through it: it begins at the start and ends where
the walk leads.  Wherever the document is cut in two, the ends of the parts make up its
end.
-/
structure FollowsWalk (text : String) : Prop where
  first : (whole text).first = ⟨0, 0⟩
  last : (whole text).last = Position.walk text.toList
  broken : ∀ front back, front ++ back = text → '\n' ∈ back.toList →
    (whole text).last =
      ⟨(whole front).last.line + (whole back).last.line, (whole back).last.character⟩
  unbroken : ∀ front back, front ++ back = text → '\n' ∉ back.toList →
    (whole text).last =
      ⟨(whole front).last.line, (whole front).last.character + (whole back).last.character⟩

/-- The range of a document ends where a walk through it ends. -/
theorem whole_followsWalk {text : String} (short : Position.IsShort text.toList) :
    FollowsWalk text where
  first := rfl
  last := short.atEnd_eq
  broken := by
    rintro front back rfl broken
    rw [String.toList_append] at short
    unfold whole
    rw [String.toList_append, short.atEnd_append_of_mem broken]
  unbroken := by
    rintro front back rfl unbroken
    rw [String.toList_append] at short
    unfold whole
    rw [String.toList_append, short.atEnd_append_of_not_mem unbroken]

/-- Wide characters on both sides of the ends of lines, and a carriage return. -/
def wide : String :=
  "a😀\r\n\nb😀c"

theorem whole_followsWalk_wide :
    Position.IsShort wide.toList ∧ FollowsWalk wide ∧ (whole wide).last = ⟨2, 4⟩ ∧
      Position.walk wide.toList = ⟨2, 4⟩ := by
  have short : Position.IsShort wide.toList := by decide
  exact ⟨short, whole_followsWalk short, rfl, rfl⟩

end Range

end DiffDigest
