import DiffDigest.Language
import DiffDigest.Proofs.Text.Blank

/-!
# Spellings of an extension

An extension may be written with blanks around it, with capital letters and without
its dot.  All its spellings have the same normal form, which is one of them.
-/

namespace DiffDigest.Language

open Text (Trims isBlank)

/-! ## Lower case -/

theorem toLower_cases (c : Char) :
    c.toLower = c ∨ 65 ≤ c.toNat ∧ c.toNat ≤ 90 ∧ c.toLower.toNat = c.toNat + 32 := by
  unfold Char.toLower
  split
  · rename_i capital
    refine .inr ⟨capital.1, capital.2, ?_⟩
    have high : c.val.toNat ≤ 90 := capital.2
    have sum : (c.val + ('a'.val - 'A'.val)).toNat = (c.val.toNat + 32) % 4294967296 :=
      UInt32.toNat_add _ _
    change (c.val + ('a'.val - 'A'.val)).toNat = c.val.toNat + 32
    omega
  · exact .inl rfl

theorem isBlank_toLower (c : Char) : isBlank c.toLower = isBlank c := by
  rcases toLower_cases c with same | ⟨low, high, moved⟩
  · rw [same]
  · rw [Text.isBlank_of_visible (c := c) (by omega) (by omega),
      Text.isBlank_of_visible (by omega) (by omega)]

theorem eq_dot_of_toLower {c : Char} (dot : c.toLower = '.') : c = '.' := by
  rcases toLower_cases c with same | ⟨low, -, moved⟩
  · rw [← same, dot]
  · rw [dot] at moved
    have code : '.'.toNat = 46 := rfl
    omega

theorem lowercase_lowercase (text : List Char) : lowercase (lowercase text) = lowercase text := by
  unfold lowercase
  rw [List.map_map]
  apply List.map_congr_left
  intro c _
  rw [Function.comp_apply]
  rcases toLower_cases c with same | ⟨low, high, moved⟩
  · rw [same, same]
  · rcases toLower_cases c.toLower with same | ⟨_, small, _⟩
    · exact same
    · omega

/-! ## Normal forms -/

/--
The normal form of an extension: what is left without the blanks around it, in lower
case, and behind a dot if there is none.
-/
inductive Normalizes (text : String) : String → Prop
  | dotted {rest : List Char} (trims : Trims text.toList ('.' :: rest)) :
      Normalizes text (String.ofList ('.' :: lowercase rest))
  | bare {body : List Char} (trims : Trims text.toList body) (undotted : body.head? ≠ some '.') :
      Normalizes text (String.ofList ('.' :: lowercase body))

theorem normalExtension_of_dotted {text rest : List Char} (trims : Trims text ('.' :: rest)) :
    normalExtension text = '.' :: lowercase rest := by
  unfold normalExtension
  rw [trims.trim_eq]
  rfl

theorem normalExtension_of_bare {text body : List Char} (trims : Trims text body)
    (undotted : body.head? ≠ some '.') : normalExtension text = '.' :: lowercase body := by
  unfold normalExtension
  rw [trims.trim_eq]
  split
  · rename_i rest shape
    cases body with
    | nil => cases shape
    | cons c body =>
        refine absurd ?_ undotted
        rw [List.head?_cons, eq_dot_of_toLower (List.cons.inj shape).1]
  · rfl

/-- Each extension has one normal form. -/
theorem normalizes_iff {text normal : String} :
    Normalizes text normal ↔ String.ofList (normalExtension text.toList) = normal := by
  constructor
  · intro normalizes
    cases normalizes with
    | dotted trims => rw [normalExtension_of_dotted trims]
    | bare trims undotted => rw [normalExtension_of_bare trims undotted]
  · rintro rfl
    have trims := Text.trims_trim text.toList
    generalize Text.trim text.toList = body at trims
    by_cases dotted : body.head? = some '.'
    · obtain ⟨rest, rfl⟩ := List.head?_eq_some_iff.1 dotted
      rw [normalExtension_of_dotted trims]
      exact .dotted trims
    · rw [normalExtension_of_bare trims dotted]
      exact .bare trims dotted

theorem last_dotted {body : List Char} (last : ∀ c ∈ body.getLast?, isBlank c = false) :
    ∀ c ∈ ('.' :: body).getLast?, isBlank c = false := by
  rw [List.getLast?_cons]
  cases ends : body.getLast? with
  | none =>
      rintro c ⟨⟩
      rfl
  | some d =>
      rintro c ⟨⟩
      exact last d ends

theorem last_lowercase {body : List Char} (last : ∀ c ∈ body.getLast?, isBlank c = false) :
    ∀ c ∈ (lowercase body).getLast?, isBlank c = false := by
  intro c ends
  rw [lowercase, List.getLast?_map] at ends
  obtain ⟨d, own, rfl⟩ := Option.map_eq_some_iff.1 ends
  exact (isBlank_toLower d).trans (last d own)

/-- A normal form is its own normal form. -/
theorem Normalizes.idem {text normal : String} (normalizes : Normalizes text normal) :
    Normalizes normal normal := by
  have again {body : List Char} (last : ∀ c ∈ body.getLast?, isBlank c = false) :
      Normalizes (String.ofList ('.' :: lowercase body))
        (String.ofList ('.' :: lowercase body)) := by
    have trims : Trims ('.' :: lowercase body) ('.' :: lowercase body) := by
      refine .refl ?_ (last_dotted (last_lowercase last))
      rintro c ⟨⟩
      rfl
    rw [normalizes_iff, String.toList_ofList, normalExtension_of_dotted trims, lowercase_lowercase]
  cases normalizes with
  | dotted trims =>
      refine again fun c ends => trims.last ?_
      rw [List.getLast?_cons, ends]
      rfl
  | bare trims _ => exact again fun c ends => trims.last ends

/-! ## Spellings -/

/--
Two texts spell the same extension if they only differ in the blanks around it, in
the case of letters, and in whether it has its dot.
-/
inductive Respells : String → String → Prop
  | padded {front text back : String} (before : ∀ c ∈ front.toList, isBlank c = true)
      (after : ∀ c ∈ back.toList, isBlank c = true) : Respells text (front ++ text ++ back)
  | cased {text other : String} (same : lowercase text.toList = lowercase other.toList) :
      Respells text other
  | dotted {text : String} (solid : ∀ c ∈ text.toList.head?, isBlank c = false ∧ c ≠ '.') :
      Respells text ("." ++ text)
  | symm {text other : String} (respells : Respells text other) : Respells other text
  | trans {first second third : String} (front : Respells first second)
      (back : Respells second third) : Respells first third

theorem trim_lowercase (text : List Char) :
    Text.trim (lowercase text) = lowercase (Text.trim text) := by
  have blanks {part : List Char} (all : ∀ c ∈ part, isBlank c = true) :
      ∀ c ∈ lowercase part, isBlank c = true := by
    intro c member
    obtain ⟨d, own, rfl⟩ := List.mem_map.1 member
    exact (isBlank_toLower d).trans (all d own)
  have trims := Text.trims_trim text
  generalize Text.trim text = body at trims
  obtain ⟨before, after, first, last⟩ := trims
  rename_i front back
  have whole : lowercase (front ++ body ++ back) =
      lowercase front ++ lowercase body ++ lowercase back := by
    unfold lowercase
    rw [List.map_append, List.map_append]
  rw [whole]
  refine Trims.trim_eq (.intro (blanks before) (blanks after) ?_ (last_lowercase last))
  intro c begins
  rw [lowercase, List.head?_map] at begins
  obtain ⟨d, own, rfl⟩ := Option.map_eq_some_iff.1 begins
  exact (isBlank_toLower d).trans (first d own)

/-- A dot in front makes no difference to a text that begins with neither a dot nor a blank. -/
theorem normalExtension_dot_cons {text : List Char}
    (solid : ∀ c ∈ text.head?, isBlank c = false ∧ c ≠ '.') :
    normalExtension ('.' :: text) = normalExtension text := by
  have trims := Text.trims_trim text
  generalize Text.trim text = body at trims
  obtain ⟨before, after, first, last⟩ := trims
  rename_i front back
  -- The first character of the text is no blank, so there are none in front.
  have bare : front = [] := by
    cases front with
    | nil => rfl
    | cons c front =>
        have blank := before c List.mem_cons_self
        rw [(solid c rfl).1] at blank
        cases blank
  subst bare
  have undotted : body.head? ≠ some '.' := by
    intro dot
    refine (solid '.' ?_).2 rfl
    rw [List.nil_append, List.head?_append, dot]
    rfl
  have dotted : Trims ([] ++ ('.' :: body) ++ back) ('.' :: body) := by
    refine .intro nofun after ?_ (last_dotted last)
    rintro c ⟨⟩
    rfl
  rw [normalExtension_of_bare (.intro before after first last) undotted]
  exact normalExtension_of_dotted dotted

/-- All spellings have the same normal form. -/
theorem Respells.normalExtension_eq {text other : String} (respells : Respells text other) :
    normalExtension text.toList = normalExtension other.toList := by
  induction respells with
  | padded before after =>
      rw [String.toList_append, String.toList_append]
      unfold normalExtension
      rw [((Text.trims_trim _).pad before after).trim_eq]
  | cased same =>
      unfold normalExtension
      rw [← trim_lowercase, same, trim_lowercase]
  | dotted solid =>
      rw [String.toList_append]
      exact (normalExtension_dot_cons solid).symm
  | symm _ ih => exact ih.symm
  | trans _ _ first second => exact first.trans second

end DiffDigest.Language
