import DiffDigest.Json.Reader
import DiffDigest.Json.Writer
import Mathlib.Tactic.SplitIfs

/-!
# The tokens of a written value

Each part of a value's text is cut into the tokens of this part, wherever it
stands.  Only a word needs something behind it that ends it.
-/

namespace DiffDigest.Json

mutual

def tokens : Json → List Token
  | .array items => .openArray :: ([Token.comma].intercalate (itemTokens items) ++ [.closeArray])
  | .object fields =>
      .openObject :: ([Token.comma].intercalate (fieldTokens fields) ++ [.closeObject])
  | scalar => [.scalar scalar]

def itemTokens : List Json → List (List Token)
  | [] => []
  | item :: rest => tokens item :: itemTokens rest

def fieldTokens : List (String × Json) → List (List Token)
  | [] => []
  | (key, value) :: rest =>
      (.scalar (.string key) :: .colon :: tokens value) :: fieldTokens rest

end

/-! ## Escapes -/

/-- The three forms that a character takes in the text of a string. -/
inductive Escaped (c : Char) : List Char → Prop
  | letter {letter : Char} (other : letter ≠ 'u') (means : escaped? letter = some c) :
      Escaped c ['\\', letter]
  | unit {x y : Char} (first : x ≠ '"' ∧ x ≠ '\\') (second : y ≠ '"' ∧ y ≠ '\\')
      (means : hexUnit? '0' '0' x y = some c.toNat) (control : c.toNat < 0x20) :
      Escaped c ['\\', 'u', '0', '0', x, y]
  | plain (quote : c ≠ '"') (backslash : c ≠ '\\') (visible : 0x20 ≤ c.toNat) : Escaped c [c]

theorem hexUnit?_hexDigit :
    ∀ n < 0x20, hexUnit? '0' '0' (hexDigit (n / 16)) (hexDigit (n % 16)) = some n := by
  decide

theorem hexDigit_ne : ∀ n < 16, hexDigit n ≠ '"' ∧ hexDigit n ≠ '\\' := by
  decide

theorem escaped_escapeChar (c : Char) : Escaped c (escapeChar c) := by
  unfold escapeChar
  split_ifs with quote backslash backspace feed newline return' tab control
  · subst quote
    exact .letter (by decide) rfl
  · subst backslash
    exact .letter (by decide) rfl
  · subst backspace
    exact .letter (by decide) rfl
  · subst feed
    exact .letter (by decide) rfl
  · subst newline
    exact .letter (by decide) rfl
  · subst return'
    exact .letter (by decide) rfl
  · subst tab
    exact .letter (by decide) rfl
  · exact .unit (hexDigit_ne _ (by omega)) (hexDigit_ne _ (by omega)) (hexUnit?_hexDigit _ control)
      control
  · exact .plain quote backslash (by omega)

/-- The content of a string is taken back to its characters one by one. -/
theorem foldlM_step_escapeChar (c : Char) (done : List Char) :
    (escapeChar c).foldlM Content.step (.plain, done) = some (.plain, c :: done) := by
  have escaped := escaped_escapeChar c
  generalize escapeChar c = text at escaped
  cases escaped with
  | @letter letter other means =>
      have named : Content.step (.escape, done) letter = some (.plain, c :: done) := by
        unfold Content.step
        dsimp only
        rw [if_neg other, means, Option.map_some]
      exact congrArg (Option.bind · some) named
  | @unit x y first second means control =>
      have named : Content.step (.unit ['0', '0', x], done) y = some (.plain, c :: done) := by
        unfold Content.step
        dsimp only
        rw [means, Option.bind_eq_bind, Option.bind_some, if_neg (by simp; omega),
          if_neg (by simp; omega), Char.ofNat_toNat]
        rfl
      exact congrArg (Option.bind · some) named
  | plain quote backslash visible =>
      have named : Content.step (.plain, done) c = some (.plain, c :: done) := by
        unfold Content.step
        dsimp only
        rw [if_neg backslash, if_neg (by omega)]
      exact congrArg (Option.bind · some) named

theorem unescape?_flatMap_escapeChar (text : List Char) :
    unescape? (text.flatMap escapeChar) = some (String.ofList text) := by
  have all : ∀ done, (text.flatMap escapeChar).foldlM Content.step (.plain, done) =
      some (.plain, text.reverse ++ done) := by
    induction text with
    | nil => exact fun done => rfl
    | cons c rest ih =>
        intro done
        rw [List.flatMap_cons, List.foldlM_append, foldlM_step_escapeChar, Option.bind_eq_bind,
          Option.bind_some, ih, List.reverse_cons, List.append_assoc]
        rfl
  unfold unescape?
  rw [all, List.append_nil]
  dsimp only
  rw [List.reverse_reverse]

/-! ## Parts of a text -/

def scanFrom (state : Scan × List Token) (text : List Char) : Option (List Token) := do
  let (scan, done) ← text.foldlM Scan.step state
  match scan with
  | .between => pure done.reverse
  | .word chars => pure (Token.scalar (← word? chars.reverse) :: done).reverse
  | .content _ _ => none

theorem scanFrom_cons (state : Scan × List Token) (c : Char) (rest : List Char) :
    scanFrom state (c :: rest) = (Scan.step state c).bind (scanFrom · rest) := by
  unfold scanFrom
  rw [List.foldlM_cons]
  exact Option.bind_assoc _ _ _

/-- A word ends here: at a mark, or because the text ends. -/
def Ended (rest : List Char) : Prop :=
  ∀ c ∈ rest.head?, (mark? c).isSome = true

/-- A part of a text is cut into these tokens, whatever tokens stand before it. -/
def Scans (text : List Char) (found : List Token) : Prop :=
  ∀ done rest, Ended rest →
    scanFrom (.between, done) (text ++ rest) = scanFrom (.between, found.reverse ++ done) rest

namespace Scans

theorem nil : Scans [] [] :=
  fun _ _ _ => rfl

/-- A part that a mark follows is cut by itself. -/
theorem append {first second : List Char} {left right : List Token} (before : Scans first left)
    (after : Scans second right) (ended : ∀ rest, Ended rest → Ended (second ++ rest)) :
    Scans (first ++ second) (left ++ right) := by
  intro done rest last
  rw [List.append_assoc, before done _ (ended rest last), after _ rest last, List.reverse_append,
    List.append_assoc]

theorem mark {c : Char} {token : Token} (stands : mark? c = some (some token)) (other : c ≠ '"')
    {text : List Char} {found : List Token} (after : Scans text found) :
    Scans (c :: text) (token :: found) := by
  intro done rest last
  have step : Scan.step (.between, done) c = some (.between, token :: done) := by
    unfold Scan.step
    dsimp only
    rw [if_neg other, stands]
    rfl
  rw [List.cons_append, scanFrom_cons, step, Option.bind_some, after _ rest last,
    List.reverse_cons, List.append_assoc]
  rfl

end Scans

theorem ended_cons {c : Char} (stands : (mark? c).isSome = true) (rest : List Char) :
    Ended (c :: rest) := by
  intro d first
  cases first
  exact stands

/-! ## Words and strings -/

theorem scanFrom_word {word : List Char} (solid : ∀ c ∈ word, c ≠ '"' ∧ mark? c = none)
    (chars : List Char) (done : List Token) (rest : List Char) :
    scanFrom (.word chars, done) (word ++ rest) =
      scanFrom (.word (word.reverse ++ chars), done) rest := by
  induction word generalizing chars with
  | nil => rfl
  | cons c word ih =>
      obtain ⟨quote, unmarked⟩ := solid c List.mem_cons_self
      have step : Scan.step (.word chars, done) c = some (.word (c :: chars), done) := by
        unfold Scan.step
        dsimp only
        rw [if_neg quote, unmarked]
      rw [List.cons_append, scanFrom_cons, step, Option.bind_some,
        ih (fun d member => solid d (List.mem_cons_of_mem _ member)), List.reverse_cons,
        List.append_assoc]
      rfl

/-- A word counts once it has ended. -/
theorem scanFrom_word_of_ended {chars : List Char} {value : Json}
    (means : word? chars.reverse = some value) (done : List Token) {rest : List Char}
    (ended : Ended rest) :
    scanFrom (.word chars, done) rest = scanFrom (.between, .scalar value :: done) rest := by
  cases rest with
  | nil =>
      unfold scanFrom
      rw [List.foldlM_nil, List.foldlM_nil]
      change (do pure (Token.scalar (← word? chars.reverse) :: done).reverse) = _
      rw [means]
      rfl
  | cons c rest =>
      obtain ⟨token, stands⟩ := Option.isSome_iff_exists.1 (ended c rfl)
      have quote : c ≠ '"' := by
        rintro rfl
        cases stands
      rw [scanFrom_cons, scanFrom_cons]
      congr 1
      unfold Scan.step
      dsimp only
      rw [if_neg quote, if_neg quote, stands]
      dsimp only
      rw [means, Option.map_some]

/-- A word is one token. -/
theorem scans_word {word : List Char} {value : Json} (filled : word ≠ [])
    (solid : ∀ c ∈ word, c ≠ '"' ∧ mark? c = none) (means : word? word = some value) :
    Scans word [.scalar value] := by
  intro done rest last
  obtain ⟨c, word, rfl⟩ := List.exists_cons_of_ne_nil filled
  obtain ⟨quote, unmarked⟩ := solid c List.mem_cons_self
  have step : Scan.step (.between, done) c = some (.word [c], done) := by
    unfold Scan.step
    dsimp only
    rw [if_neg quote, unmarked]
  have whole : (word.reverse ++ [c]).reverse = c :: word := by
    rw [List.reverse_append, List.reverse_reverse]
    rfl
  rw [List.cons_append, scanFrom_cons, step, Option.bind_some,
    scanFrom_word (fun d member => solid d (List.mem_cons_of_mem _ member)),
    scanFrom_word_of_ended (whole ▸ means) done last]
  rfl

theorem scanFrom_escapeChar (c : Char) (chars : List Char) (done : List Token)
    (rest : List Char) :
    scanFrom (.content chars false, done) (escapeChar c ++ rest) =
      scanFrom (.content ((escapeChar c).reverse ++ chars) false, done) rest := by
  have step : ∀ (chars : List Char) (d : Char) (rest : List Char), d ≠ '"' → d ≠ '\\' →
      scanFrom (.content chars false, done) (d :: rest) =
        scanFrom (.content (d :: chars) false, done) rest := by
    intro chars d rest quote backslash
    rw [scanFrom_cons]
    unfold Scan.step
    dsimp only
    rw [if_neg quote, Option.bind_some, decide_eq_false backslash]
  have escape : ∀ (d : Char) (rest : List Char),
      scanFrom (.content chars false, done) ('\\' :: d :: rest) =
        scanFrom (.content (d :: '\\' :: chars) false, done) rest := by
    intro d rest
    rfl
  have escaped := escaped_escapeChar c
  generalize escapeChar c = text at escaped
  cases escaped with
  | letter other means => exact escape _ rest
  | @unit x y first second means control =>
      calc scanFrom (.content chars false, done) ('\\' :: 'u' :: '0' :: '0' :: x :: y :: rest)
        _ = scanFrom (.content ('u' :: '\\' :: chars) false, done) ('0' :: '0' :: x :: y :: rest) :=
          escape 'u' _
        _ = scanFrom (.content ('0' :: '0' :: 'u' :: '\\' :: chars) false, done) (x :: y :: rest) :=
          (step _ '0' _ (by decide) (by decide)).trans (step _ '0' _ (by decide) (by decide))
        _ = scanFrom (.content (y :: x :: '0' :: '0' :: 'u' :: '\\' :: chars) false, done) rest :=
          (step _ x _ first.1 first.2).trans (step _ y _ second.1 second.2)
  | plain quote backslash visible => exact step chars c rest quote backslash

theorem scanFrom_content (text : List Char) (chars : List Char) (done : List Token)
    (rest : List Char) :
    scanFrom (.content chars false, done) (text.flatMap escapeChar ++ rest) =
      scanFrom (.content ((text.flatMap escapeChar).reverse ++ chars) false, done) rest := by
  induction text generalizing chars with
  | nil => rfl
  | cons c text ih =>
      rw [List.flatMap_cons, List.append_assoc, scanFrom_escapeChar, ih, List.reverse_append,
        List.append_assoc]

/-- A string is one token. -/
theorem scans_writeString (text : String) :
    Scans (writeString text).toList [.scalar (.string text)] := by
  intro done rest last
  have closing : Scan.step (.content (text.toList.flatMap escapeChar).reverse false, done) '"' =
      some (.between, .scalar (.string text) :: done) := by
    unfold Scan.step
    dsimp only
    rw [if_pos rfl, List.reverse_reverse, unescape?_flatMap_escapeChar, String.ofList_toList,
      Option.map_some]
  unfold writeString
  rw [String.toList_ofList, List.cons_append, List.cons_append, scanFrom_cons]
  change scanFrom (.content [] false, done) _ = _
  rw [List.append_assoc, scanFrom_content, List.append_nil, List.singleton_append, scanFrom_cons,
    closing]
  rfl

end DiffDigest.Json
