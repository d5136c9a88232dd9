import DiffDigest.Proofs.Json.RoundTrip

/-!
# Sorted fields

Wherever a value is read from, the fields of its objects are sorted by their
keys, and each key occurs once.
-/

namespace DiffDigest.Json

/-- The fields of all objects in a value are sorted by their keys, each key once. -/
inductive Ordered : Json → Prop
  | null : Ordered .null
  | bool (value : Bool) : Ordered (.bool value)
  | integer (value : Int) : Ordered (.integer value)
  | float (value : Float) : Ordered (.float value)
  | string (value : String) : Ordered (.string value)
  | array {items : List Json} (inside : ∀ item ∈ items, Ordered item) : Ordered (.array items)
  | object {fields : List (String × Json)}
      (sorted : fields.Pairwise fun first second => first.1 < second.1)
      (inside : ∀ field ∈ fields, Ordered field.2) : Ordered (.object fields)

theorem Ordered.of_array {items : List Json} (ordered : Ordered (.array items)) :
    ∀ item ∈ items, Ordered item := by
  cases ordered with
  | array inside => exact inside

/-! ## Objects -/

theorem keepLast_sublist (fields : List (String × Json)) : (keepLast fields).Sublist fields := by
  fun_induction keepLast fields with
  | case1 first second rest same ih => exact ih.cons first
  | case2 first second rest differ ih => exact ih.cons_cons first
  | case3 fields _ => exact .refl fields

/-- Of sorted fields those with different keys are kept. -/
theorem pairwise_keepLast {fields : List (String × Json)}
    (sorted : fields.Pairwise fun first second => first.1 ≤ second.1) :
    (keepLast fields).Pairwise fun first second => first.1 < second.1 := by
  fun_induction keepLast fields with
  | case1 first second rest same ih => exact ih sorted.of_cons
  | case2 first second rest differ ih =>
      refine .cons ?_ (ih sorted.of_cons)
      intro later kept
      have next := List.rel_of_pairwise_cons sorted List.mem_cons_self
      have less := lt_of_le_of_ne next differ
      rcases List.mem_cons.1 ((keepLast_sublist _).subset kept) with rfl | behind
      · exact less
      · exact lt_of_lt_of_le less (List.rel_of_pairwise_cons sorted.of_cons behind)
  | case3 fields short =>
      cases fields with
      | nil => exact .nil
      | cons first rest =>
          cases rest with
          | nil => exact List.pairwise_singleton _ first
          | cons second rest => exact (short first second rest rfl).elim

theorem sorted_mergeSort (fields : List (String × Json)) :
    (fields.mergeSort fun first second => first.1 ≤ second.1).Pairwise
      fun first second => first.1 ≤ second.1 := by
  have transitive (a b c : String × Json) (first : decide (a.1 ≤ b.1)) (second : decide (b.1 ≤ c.1)) :
      decide (a.1 ≤ c.1) :=
    decide_eq_true (le_trans (of_decide_eq_true first) (of_decide_eq_true second))
  have total (a b : String × Json) : decide (a.1 ≤ b.1) || decide (b.1 ≤ a.1) := by
    rw [Bool.or_eq_true, decide_eq_true_eq, decide_eq_true_eq]
    exact le_total a.1 b.1
  exact (List.pairwise_mergeSort transitive total fields).imp of_decide_eq_true

theorem Ordered.ofFields {fields : List (String × Json)}
    (inside : ∀ field ∈ fields, Ordered field.2) : Ordered (ofFields fields) := by
  refine .object (pairwise_keepLast (sorted_mergeSort fields)) ?_
  intro field kept
  exact inside field (List.mem_mergeSort.1 ((keepLast_sublist _).subset kept))

/-! ## Tokens -/

/-- What every step keeps holds after all of them. -/
theorem of_foldlM {σ α : Type} {step : σ → α → Option σ} {Holds : σ → Prop} {items : List α}
    (keeps : ∀ item ∈ items, ∀ {state next}, Holds state → step state item = some next →
      Holds next) {start final : σ} (first : Holds start)
    (run : items.foldlM step start = some final) : Holds final := by
  induction items generalizing start with
  | nil =>
      cases run
      exact first
  | cons item rest ih =>
      rw [List.foldlM_cons, Option.bind_eq_bind, Option.bind_eq_some_iff] at run
      obtain ⟨next, stepped, later⟩ := run
      exact ih (fun other member => keeps other (List.mem_cons_of_mem item member))
        (keeps item List.mem_cons_self first stepped) later

theorem ordered_of_unsigned? {negative : Bool} {text : List Char} {json : Json}
    (read : unsigned? negative text = some json) : Ordered json := by
  unfold unsigned? at read
  dsimp only at read
  split at read
  · cases read
  · cases read
  · split at read
    · split at read
      · split at read <;> cases read
        · exact .float _
        · exact .integer _
      · cases read
        exact .integer _
    · obtain ⟨value, -, rfl⟩ := Option.map_eq_some_iff.1 read
      exact .float _

theorem ordered_of_word? {word : List Char} {json : Json} (read : word? word = some json) :
    Ordered json := by
  unfold word? at read
  split at read
  · cases read
    exact .null
  · split at read
    · cases read
      exact .bool true
    · split at read
      · cases read
        exact .bool false
      · unfold number? at read
        split at read <;> exact ordered_of_unsigned? read

def Token.Ordered (token : Token) : Prop :=
  ∀ value, token = .scalar value → Json.Ordered value

theorem Token.ordered_scalar {value : Json} (ordered : Json.Ordered value) :
    (scalar value).Ordered := by
  rintro _ ⟨⟩
  exact ordered

theorem Token.ordered_of_mark? {c : Char} {found : Option Token}
    (mark : mark? c = some found) : ∀ token ∈ found.toList, token.Ordered := by
  unfold mark? at mark
  split at mark <;> cases mark
  case h_7 | h_8 | h_9 | h_10 => nofun
  all_goals
    rintro token (_ | ⟨_, ⟨⟩⟩)
    nofun

def Scan.Ordered (state : Scan × List Token) : Prop :=
  ∀ token ∈ state.2, token.Ordered

theorem Scan.ordered_step {state next : Scan × List Token} {c : Char} (ordered : Ordered state)
    (step : Scan.step state c = some next) : Ordered next := by
  obtain ⟨scan, done⟩ := state
  unfold Scan.step at step
  dsimp only at step
  split at step
  · cases step
    exact ordered
  · split at step
    · obtain ⟨text, -, rfl⟩ := Option.map_eq_some_iff.1 step
      exact List.forall_mem_cons.2 ⟨Token.ordered_scalar (.string text), ordered⟩
    · cases step
      exact ordered
  · split at step
    · cases step
      exact ordered
    · split at step
      · rename_i mark
        cases step
        exact List.forall_mem_append.2 ⟨Token.ordered_of_mark? mark, ordered⟩
      · cases step
        exact ordered
  · split at step
    · cases step
    · split at step
      · rename_i mark
        obtain ⟨value, read, rfl⟩ := Option.map_eq_some_iff.1 step
        exact List.forall_mem_append.2 ⟨Token.ordered_of_mark? mark,
          List.forall_mem_cons.2 ⟨Token.ordered_scalar (ordered_of_word? read), ordered⟩⟩
      · cases step
        exact ordered

theorem ordered_of_tokens? {text : List Char} {tokens : List Token}
    (read : tokens? text = some tokens) : ∀ token ∈ tokens, token.Ordered := by
  unfold tokens? at read
  rw [Option.bind_eq_bind, Option.bind_eq_some_iff] at read
  obtain ⟨⟨scan, done⟩, run, last⟩ := read
  have ordered : Scan.Ordered (scan, done) :=
    of_foldlM (fun _ _ _ _ held step => Scan.ordered_step held step) (by nofun) run
  dsimp only at last
  split at last
  · cases last
    exact fun token member => ordered token (List.mem_reverse.1 member)
  · rw [Option.bind_eq_bind, Option.bind_eq_some_iff] at last
    obtain ⟨value, word, same⟩ := last
    cases same
    intro token member
    rcases List.mem_cons.1 (List.mem_reverse.1 member) with rfl | member
    · exact Token.ordered_scalar (ordered_of_word? word)
    · exact ordered token member
  · cases last

/-! ## Values -/

def Open.values : Open → List Json
  | .array items => items
  | .object fields _ => fields.map Prod.snd

def Assembly.values : Assembly → List Json
  | .awaitValue outer => outer.flatMap Open.values
  | .awaitFirstItem outer => outer.flatMap Open.values
  | .awaitFirstKey outer => outer.flatMap Open.values
  | .awaitKey fields outer => fields.map Prod.snd ++ outer.flatMap Open.values
  | .awaitColon fields _ outer => fields.map Prod.snd ++ outer.flatMap Open.values
  | .complete value outer => value :: outer.flatMap Open.values

def Assembly.Ordered (state : Assembly) : Prop :=
  ∀ value ∈ state.values, Json.Ordered value

theorem Assembly.ordered_stepValue {outer : List Open} {token : Token} {next : Assembly}
    (ordered : ∀ value ∈ outer.flatMap Open.values, Json.Ordered value) (new : token.Ordered)
    (step : stepValue outer token = some next) : next.Ordered := by
  unfold stepValue at step
  split at step
  · cases step
    exact List.forall_mem_cons.2 ⟨new _ rfl, ordered⟩
  · split at step <;> cases step
    exact ordered
  · split at step <;> cases step
    exact ordered
  · cases step

theorem Assembly.ordered_stepKey {fields : List (String × Json)} {outer : List Open}
    {token : Token} {next : Assembly} (ordered : (awaitKey fields outer).Ordered)
    (step : stepKey fields outer token = some next) : next.Ordered := by
  unfold stepKey at step
  split at step <;> cases step
  exact ordered

theorem Assembly.ordered_step {state next : Assembly} {token : Token} (ordered : state.Ordered)
    (new : token.Ordered) (step : Assembly.step state token = some next) : next.Ordered := by
  unfold Assembly.step at step
  split at step
  · exact ordered_stepValue ordered new step
  · cases step
    exact List.forall_mem_cons.2 ⟨.array (by simp), ordered⟩
  · refine ordered_stepValue ?_ new step
    exact ordered
  · cases step
    exact List.forall_mem_cons.2 ⟨.object .nil (by simp), ordered⟩
  · refine ordered_stepKey ?_ step
    exact ordered
  · exact ordered_stepKey ordered step
  · cases step
    exact ordered
  · cases step
  · cases step
    exact ordered
  · cases step
    obtain ⟨own, others⟩ := List.forall_mem_cons.1 ordered
    rw [List.flatMap_cons, List.forall_mem_append] at others
    refine List.forall_mem_cons.2 ⟨.array ?_, others.2⟩
    intro item member
    rcases List.mem_cons.1 (List.mem_reverse.1 member) with rfl | member
    · exact own
    · exact others.1 item member
  · cases step
    exact ordered
  · cases step
    obtain ⟨own, others⟩ := List.forall_mem_cons.1 ordered
    rw [List.flatMap_cons, List.forall_mem_append] at others
    refine List.forall_mem_cons.2 ⟨.ofFields ?_, others.2⟩
    intro field member
    rcases List.mem_cons.1 (List.mem_reverse.1 member) with rfl | member
    · exact own
    · exact others.1 field.2 (List.mem_map_of_mem member)
  · cases step

/-- The value that a text stands for is ordered. -/
theorem ordered_of_read? {text : List Char} {json : Json} (read : read? text = some json) :
    Ordered json := by
  unfold read? at read
  rw [Option.bind_eq_bind, Option.bind_eq_some_iff] at read
  obtain ⟨tokens, cut, assembled⟩ := read
  split at assembled
  · rename_i value run
    cases assembled
    have ordered : (Assembly.complete json []).Ordered :=
      of_foldlM
        (fun token member _ _ held step =>
          Assembly.ordered_step held (ordered_of_tokens? cut token member) step)
        (by nofun) run
    exact ordered json List.mem_cons_self
  · cases assembled

theorem ordered_of_readBytes? {bytes : Bytes} {json : Json}
    (read : readBytes? bytes = some json) : Ordered json := by
  unfold readBytes? at read
  rw [Option.bind_eq_bind, Option.bind_eq_some_iff] at read
  obtain ⟨text, -, read⟩ := read
  exact ordered_of_read? read

end DiffDigest.Json
