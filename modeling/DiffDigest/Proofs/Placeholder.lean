import DiffDigest.Placeholder
import Mathlib.Data.List.Infix

/-!
# Filling in placeholders

A text with placeholders consists of plain text and of names, and possibly of one
last placeholder that is never closed.  Filling it in puts the values where the
names are and copies the rest, whatever the values look like.
-/

namespace DiffDigest

/-! ## What a name stands for -/

namespace Environment

/-- A variable has a value.  No variable has an equals sign or a NUL in its name. -/
structure Sets (environment : Environment) (name : String) (value : Bytes) : Prop where
  entry : environment.lookup name = some value
  unassigned : '=' ∉ name.toList
  unended : '\x00' ∉ name.toList

/-- A name stands for the value of its variable, and for nothing if that is no text. -/
inductive StandsFor (environment : Environment) (name : String) : String → Prop
  | value {text : String} (named : name ≠ "") (sets : environment.Sets name (Utf8.encode text)) :
      StandsFor environment name text
  | unnamed (empty : name = "") : StandsFor environment name ""
  | unset (absent : ∀ value, ¬ environment.Sets name value) : StandsFor environment name ""
  | unreadable {value : Bytes} (sets : environment.Sets name value)
      (garbled : ∀ text, value ≠ Utf8.encode text) : StandsFor environment name ""

variable {environment : Environment} {name text : String}

theorem value?_eq_some_iff :
    environment.value? name = some text ↔
      name ≠ "" ∧ environment.Sets name (Utf8.encode text) := by
  unfold value?
  split
  · rename_i refused
    refine iff_of_false nofun ?_
    rintro ⟨named, -, unassigned, unended⟩
    rw [Bool.or_eq_true, List.any_eq_true] at refused
    rcases refused with empty | ⟨c, member, mark⟩
    · exact named (String.isEmpty_iff.1 empty)
    · rw [Bool.or_eq_true, decide_eq_true_eq, decide_eq_true_eq] at mark
      rcases mark with rfl | rfl
      · exact unassigned member
      · exact unended member
  · rename_i allowed
    rw [Bool.or_eq_true, not_or, List.any_eq_true, String.isEmpty_iff] at allowed
    obtain ⟨named, unmarked⟩ := allowed
    have unassigned : '=' ∉ name.toList := fun member => unmarked ⟨'=', member, rfl⟩
    have unended : '\x00' ∉ name.toList := fun member => unmarked ⟨'\x00', member, rfl⟩
    rw [Option.bind_eq_some_iff]
    constructor
    · rintro ⟨value, entry, read⟩
      rw [Utf8.decode?_eq_some_iff] at read
      exact ⟨named, read ▸ entry, unassigned, unended⟩
    · rintro ⟨-, entry, -, -⟩
      exact ⟨_, entry, Utf8.decode?_encode text⟩

/-- A placeholder with this name gives way to what the name stands for. -/
theorem standsFor_iff :
    environment.StandsFor name text ↔ (environment.value? name).getD "" = text := by
  cases found : environment.value? name with
  | some value =>
      obtain ⟨named, sets⟩ := value?_eq_some_iff.1 found
      constructor
      · intro stands
        cases stands with
        | value _ setsToo =>
            rw [value?_eq_some_iff.2 ⟨named, setsToo⟩] at found
            exact (Option.some.inj found).symm
        | unnamed empty => exact absurd empty named
        | unset absent => exact absurd sets (absent _)
        | unreadable setsToo garbled =>
            have same := Option.some.inj (setsToo.entry.symm.trans sets.entry)
            exact absurd same (garbled value)
      · rintro rfl
        exact .value named sets
  | none =>
      constructor
      · intro stands
        cases stands with
        | value named sets =>
            rw [value?_eq_some_iff.2 ⟨named, sets⟩] at found
            cases found
        | unnamed | unset | unreadable => rfl
      · rintro rfl
        by_cases empty : name = ""
        · exact .unnamed empty
        · by_cases set : ∃ value, environment.Sets name value
          · obtain ⟨value, sets⟩ := set
            refine .unreadable sets ?_
            rintro text rfl
            rw [value?_eq_some_iff.2 ⟨empty, sets⟩] at found
            cases found
          · exact .unset (not_exists.1 set)

end Environment

namespace Placeholder

/-! ## Plain text -/

def opening : String :=
  "$\x7b"

def closing : String :=
  "\x7d"

variable {value? : String → Option String}

theorem close?_of_not_mem {text : List Char} (absent : '}' ∉ text) : close? text = none := by
  cases found : close? text with
  | none => rfl
  | some parts =>
      obtain ⟨shape, -⟩ := close?_eq_some found
      refine absurd ?_ absent
      rw [shape]
      exact List.mem_append_right _ List.mem_cons_self

theorem not_mem_of_close? {text : List Char} (never : close? text = none) : '}' ∉ text := by
  intro member
  obtain ⟨name, behind, rfl, absent⟩ := List.eq_append_cons_of_mem member
  rw [close?_append absent] at never
  cases never

theorem opening_prefix_iff {c : Char} {rest : List Char} :
    opening.toList <+: c :: rest ↔ c = '$' ∧ rest.head? = some '{' := by
  have marks : opening.toList = ['$', '{'] := rfl
  rw [marks, List.cons_prefix_cons, List.head?_eq_some_iff]
  exact and_congr eq_comm (exists_congr fun _ => eq_comm)

/-- A character that does not begin an opening mark stays. -/
theorem expandChars_cons_of_not_prefix {c : Char} {rest : List Char}
    (apart : ¬ opening.toList <+: c :: rest) :
    expandChars value? (c :: rest) = c :: expandChars value? rest := by
  rw [expandChars]
  rintro rest rfl rfl
  exact apart ⟨rest, rfl⟩

/-- Plain text has no opening mark in front of it either, if what follows does not complete one. -/
theorem not_prefix_append {c : Char} {plain rest : List Char}
    (unopened : ¬ opening.toList <:+: c :: plain) (apart : rest.head? ≠ some '{') :
    ¬ opening.toList <+: c :: (plain ++ rest) := by
  rw [opening_prefix_iff]
  rintro ⟨rfl, next⟩
  cases plain with
  | nil => exact apart next
  | cons d plain =>
      rw [List.cons_append, List.head?_cons, Option.some.injEq] at next
      subst next
      exact unopened ⟨[], plain, rfl⟩

/-- Plain text stays. -/
theorem expandChars_plain {plain rest : List Char} (unopened : ¬ opening.toList <:+: plain)
    (apart : rest.head? ≠ some '{') :
    expandChars value? (plain ++ rest) = plain ++ expandChars value? rest := by
  induction plain with
  | nil => rfl
  | cons c plain ih =>
      have later : ¬ opening.toList <:+: plain :=
        fun found => unopened (found.trans (List.suffix_cons c plain).isInfix)
      rw [List.cons_append, expandChars_cons_of_not_prefix (not_prefix_append unopened apart),
        ih later, List.cons_append]

/-- A placeholder that is never closed is plain text. -/
theorem expandChars_unclosed {rest : List Char} (unclosed : '}' ∉ rest) :
    expandChars value? ('$' :: '{' :: rest) = '$' :: '{' :: rest := by
  rw [expandChars]
  split
  · rfl
  · rename_i found
    rw [close?_of_not_mem unclosed] at found
    cases found

/-! ## Texts taken apart -/

/--
A text taken apart into names and the plain text around them.  A name may hold
anything but a closing mark, so also an opening one.
-/
inductive Template where
  | plain (text : String) (unopened : ¬ opening.toList <:+: text.toList)
  /-- Plain text and a placeholder that is never closed. -/
  | unclosed (text rest : String) (unopened : ¬ opening.toList <:+: text.toList)
      (unclosed : '}' ∉ rest.toList)
  /-- Plain text, a placeholder and what follows. -/
  | named (text name : String) (unopened : ¬ opening.toList <:+: text.toList)
      (unclosed : '}' ∉ name.toList) (behind : Template)

namespace Template

def text : Template → String
  | plain text _ => text
  | unclosed text rest _ _ => text ++ opening ++ rest
  | named text name _ _ behind => text ++ opening ++ name ++ closing ++ behind.text

def names : Template → List String
  | plain _ _ | unclosed _ _ _ _ => []
  | named _ name _ _ behind => name :: behind.names

def filled (value : String → String) : Template → String
  | plain text _ => text
  | unclosed text rest _ _ => text ++ opening ++ rest
  | named text name _ _ behind => text ++ value name ++ behind.filled value

theorem toList_text_unclosed {text rest : String} (unopened : ¬ opening.toList <:+: text.toList)
    (absent : '}' ∉ rest.toList) :
    (unclosed text rest unopened absent).text.toList =
      text.toList ++ '$' :: '{' :: rest.toList := by
  simp [Template.text, opening]

theorem toList_text_named {text name : String} (unopened : ¬ opening.toList <:+: text.toList)
    (absent : '}' ∉ name.toList) (behind : Template) :
    (named text name unopened absent behind).text.toList =
      text.toList ++ '$' :: '{' :: (name.toList ++ '}' :: behind.text.toList) := by
  simp [Template.text, opening, closing]

/-- Filling in goes through the text once: each name gives way to its value. -/
theorem expandChars_text {value : String → String} (template : Template)
    (values : ∀ name ∈ template.names, (value? name).getD "" = value name) :
    expandChars value? template.text.toList = (template.filled value).toList := by
  induction template with
  | plain text unopened =>
      have whole : expandChars value? (text.toList ++ []) = text.toList ++ expandChars value? [] :=
        expandChars_plain unopened nofun
      rwa [List.append_nil, expandChars, List.append_nil] at whole
  | unclosed text rest unopened absent =>
      rw [toList_text_unclosed, expandChars_plain unopened (by simp), expandChars_unclosed absent]
      exact (toList_text_unclosed unopened absent).symm
  | named text name unopened absent behind ih =>
      obtain ⟨own, others⟩ := List.forall_mem_cons.1 values
      rw [toList_text_named, expandChars_plain unopened (by simp),
        expandChars_placeholder value? absent, String.ofList_toList, own, ih others]
      simp [filled]

/-! ## Every text can be taken apart -/

/-- A character that begins no opening mark joins the plain text in front. -/
theorem exists_cons {c : Char} {template : Template}
    (apart : ¬ opening.toList <+: c :: template.text.toList) :
    ∃ longer : Template, longer.text.toList = c :: template.text.toList := by
  have joined {text : String} (unopened : ¬ opening.toList <:+: text.toList)
      (front : text.toList <+: template.text.toList) :
      ¬ opening.toList <:+: (String.ofList (c :: text.toList)).toList := by
    rw [String.toList_ofList, List.infix_cons_iff]
    rintro (begins | inside)
    · exact apart (begins.trans (List.cons_prefix_cons.2 ⟨rfl, front⟩))
    · exact unopened inside
  cases template with
  | plain text unopened =>
      refine ⟨.plain (String.ofList (c :: text.toList)) (joined unopened List.prefix_rfl), ?_⟩
      exact String.toList_ofList
  | unclosed text rest unopened absent =>
      rw [toList_text_unclosed] at joined
      refine ⟨.unclosed (String.ofList (c :: text.toList)) rest
        (joined unopened (List.prefix_append _ _)) absent, ?_⟩
      rw [toList_text_unclosed, toList_text_unclosed, String.toList_ofList, List.cons_append]
  | named text name unopened absent behind =>
      rw [toList_text_named] at joined
      refine ⟨.named (String.ofList (c :: text.toList)) name
        (joined unopened (List.prefix_append _ _)) absent behind, ?_⟩
      rw [toList_text_named, toList_text_named, String.toList_ofList, List.cons_append]

theorem unopened_empty : ¬ opening.toList <:+: "".toList := by
  decide

/-- A text is taken apart as it is filled in, from its first character on. -/
theorem exists_template (text : List Char) :
    ∃ template : Template, template.text.toList = text := by
  induction text using expandChars.induct with
  | case1 => exact ⟨.plain "" unopened_empty, rfl⟩
  | case2 rest never =>
      have absent : '}' ∉ (String.ofList rest).toList := by
        rw [String.toList_ofList]
        exact not_mem_of_close? never
      refine ⟨.unclosed "" (String.ofList rest) unopened_empty absent, ?_⟩
      simp [toList_text_unclosed]
  | case3 rest name behind closes ih =>
      obtain ⟨template, rfl⟩ := ih
      obtain ⟨rfl, unclosed⟩ := close?_eq_some closes
      have absent : '}' ∉ (String.ofList name).toList := by
        rwa [String.toList_ofList]
      refine ⟨.named "" (String.ofList name) unopened_empty absent template, ?_⟩
      simp [toList_text_named]
  | case4 c rest apart ih =>
      obtain ⟨template, rfl⟩ := ih
      refine exists_cons ?_
      rw [opening_prefix_iff]
      rintro ⟨dollar, next⟩
      obtain ⟨behind, shape⟩ := List.head?_eq_some_iff.1 next
      exact apart behind dollar shape

end Template

/-! ## One pass -/

/--
Filling in is a single pass.  Every text can be taken apart; plain text is copied, each
name gives way to what it stands for, which is not looked into, and no other variable
makes a difference.
-/
structure SinglePass (fill : Environment → String → String) : Prop where
  covered : ∀ text, ∃ template : Template, template.text = text
  valued : ∀ (environment : Environment) (name : String),
    ∃ value, environment.StandsFor name value
  filled : ∀ (environment : Environment) (template : Template) (value : String → String),
    (∀ name ∈ template.names, environment.StandsFor name (value name)) →
    fill environment template.text = template.filled value
  independent : ∀ (environment other : Environment) (template : Template),
    (∀ name ∈ template.names, other.lookup name = environment.lookup name) →
    fill other template.text = fill environment template.text

theorem expand_template {environment : Environment} {template : Template}
    {value : String → String}
    (values : ∀ name ∈ template.names, (environment.value? name).getD "" = value name) :
    expand environment template.text = template.filled value := by
  unfold expand
  rw [template.expandChars_text values, String.ofList_toList]

/-- Placeholders are filled in by a single pass, whatever their values hold. -/
theorem expand_singlePass : SinglePass expand where
  covered := by
    intro text
    obtain ⟨template, same⟩ := Template.exists_template text.toList
    exact ⟨template, String.toList_inj.1 same⟩
  valued := fun _ _ => ⟨_, Environment.standsFor_iff.2 rfl⟩
  filled := by
    intro environment template value stands
    exact expand_template fun name member => Environment.standsFor_iff.1 (stands name member)
  independent := by
    intro environment other template same
    have values : ∀ name ∈ template.names,
        (other.value? name).getD "" = (environment.value? name).getD "" := by
      intro name member
      unfold Environment.value?
      rw [same name member]
    rw [expand_template values, expand_template fun _ _ => rfl]

end Placeholder

end DiffDigest
