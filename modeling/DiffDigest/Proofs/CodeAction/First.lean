import DiffDigest.Proofs.CodeAction.Reading
import DiffDigest.Proofs.Json.Ordered
import DiffDigest.Proofs.Text.Order

/-!
# The action that organizes the imports

Among the things that a server offers, the first action that organizes imports
and has edits to use counts.  Whatever else stands in the list, in front of it or
behind, makes no difference.
-/

namespace DiffDigest

/-! ## Fields in order -/

namespace Json

theorem Ordered.of_lookup {fields : List (String × Json)} (ordered : Ordered (.object fields))
    {key : String} {value : Json} (found : fields.lookup key = some value) : value.Ordered := by
  obtain ⟨front, back, rfl, -⟩ := List.lookup_eq_some_iff.1 found
  cases ordered with
  | object sorted inside => exact inside (key, value) (by simp)

theorem Ordered.of_record? {names : List String} {json value : Json} {values : List (Option Json)}
    (ordered : json.Ordered) (read : record? names json = some values)
    (member : some value ∈ values) : value.Ordered := by
  unfold record? at read
  split at read
  · cases read
    obtain ⟨name, -, found⟩ := List.mem_map.1 member
    exact ordered.of_lookup found
  · split at read <;> cases read
    rcases List.mem_append.1 member with item | absent
    · obtain ⟨_, item, ⟨⟩⟩ := List.mem_map.1 item
      exact ordered.of_array value item
    · cases (List.mem_replicate.1 absent).2
  · cases read

end Json

namespace WorkspaceEdit

theorem changesOfJson?_cons (field : String × Json) (rest : List (String × Json)) :
    changesOfJson? (.object (field :: rest)) =
      (Json.listOf? TextEdit.ofJson? field.2).bind fun edits =>
        (changesOfJson? (.object rest)).map ((field.1, edits) :: ·) := by
  unfold changesOfJson?
  dsimp only
  rw [List.mapM_cons]
  cases Json.listOf? TextEdit.ofJson? field.2 with
  | none => rfl
  | some edits => exact Option.map_eq_bind.symm

/-- The changed documents of an edit are listed by their names, each name once. -/
def Sorted (edit : WorkspaceEdit) : Prop :=
  ∀ changes, edit.changes = some changes → changes.Pairwise fun first second => first.1 < second.1

theorem keys_of_changesOfJson? {fields : List (String × Json)}
    {changes : List (String × List TextEdit)}
    (read : changesOfJson? (.object fields) = some changes) :
    changes.map Prod.fst = fields.map Prod.fst := by
  induction fields generalizing changes with
  | nil =>
      cases read
      rfl
  | cons field rest ih =>
      rw [changesOfJson?_cons] at read
      obtain ⟨edits, -, more⟩ := Option.bind_eq_some_iff.1 read
      obtain ⟨others, later, rfl⟩ := Option.map_eq_some_iff.1 more
      rw [List.map_cons, List.map_cons, ih later]

theorem sorted_of_ofJson? {json : Json} {edit : WorkspaceEdit} (ordered : json.Ordered)
    (read : ofJson? json = some edit) : edit.Sorted := by
  intro changes given
  obtain ⟨field, documents, record, first, -⟩ := ofJson?_eq_some_iff.1 read
  rw [given] at first
  obtain ⟨value, rfl, -, decoded⟩ := Json.optional?_eq_some_some_iff.1 first
  have whole := ordered.of_record? record List.mem_cons_self
  cases whole with
  | object sorted inside =>
      rw [← List.pairwise_map (f := Prod.fst), keys_of_changesOfJson? decoded, List.pairwise_map]
      exact sorted
  | _ => cases decoded

/--
The edits that an action has for a document: the document's own, or those of the
listed document whose name comes first, byte by byte; or, if it lists none, those
of its first changed document.
-/
inductive Offers (edit : WorkspaceEdit) (uri : String) : List TextEdit → Prop
  | own {changes : List (String × List TextEdit)} {edits : List TextEdit}
      (given : edit.changes = some changes) (entry : (uri, edits) ∈ changes) :
      Offers edit uri edits
  | least {changes : List (String × List TextEdit)} {key : String} {edits : List TextEdit}
      (given : edit.changes = some changes) (others : ∀ entry ∈ changes, entry.1 ≠ uri)
      (entry : (key, edits) ∈ changes)
      (least : ∀ entry ∈ changes, Utf8.encode key ≤ Utf8.encode entry.1) : Offers edit uri edits
  | document {edits : List TextEdit} {rest : List (List TextEdit)}
      (bare : ∀ changes, edit.changes = some changes → changes = [])
      (given : edit.documentChanges = some (edits :: rest)) : Offers edit uri edits

variable {edit : WorkspaceEdit} {uri : String}

/-- Where no key occurs twice, an entry is found by its key. -/
theorem lookup_eq_some_iff_mem {changes : List (String × List TextEdit)} {key : String}
    {edits : List TextEdit}
    (sorted : changes.Pairwise fun first second => first.1 < second.1) :
    changes.lookup key = some edits ↔ (key, edits) ∈ changes := by
  rw [List.lookup_eq_some_iff]
  constructor
  · rintro ⟨front, back, rfl, -⟩
    exact List.mem_append_right front List.mem_cons_self
  · intro entry
    obtain ⟨front, back, rfl⟩ := List.append_of_mem entry
    refine ⟨front, back, rfl, ?_⟩
    intro other before
    have less := (List.pairwise_append.1 sorted).2.2 other before _ List.mem_cons_self
    exact bne_iff_ne.2 less.ne'

theorem offers_of_usable? {edits : List TextEdit} (sorted : edit.Sorted)
    (found : CodeAction.usable? edit uri = some edits) : edit.Offers uri edits := by
  unfold CodeAction.usable? at found
  cases listed : edit.changes.getD [] with
  | nil =>
      rw [listed] at found
      obtain ⟨documents, given, first⟩ := Option.bind_eq_some_iff.1 found
      obtain ⟨rest, rfl⟩ := List.head?_eq_some_iff.1 first
      refine .document ?_ given
      intro changes same
      rwa [same] at listed
  | cons first rest =>
      have given : edit.changes = some (first :: rest) := by
        cases changes : edit.changes with
        | none =>
            rw [changes] at listed
            cases listed
        | some list =>
            rw [changes] at listed
            exact congrArg some listed
      have ahead := sorted _ given
      rw [listed] at found
      dsimp only at found
      cases own : (first :: rest).lookup uri with
      | some edits =>
          rw [own] at found
          cases found
          exact .own given ((lookup_eq_some_iff_mem ahead).1 own)
      | none =>
          rw [own] at found
          cases found
          refine .least given ?_ List.mem_cons_self ?_
          · intro entry member same
            have absent := List.lookup_eq_none_iff.1 own entry member
            simp [same] at absent
          · intro entry member
            rw [Utf8.encode_le_iff]
            rcases List.mem_cons.1 member with rfl | behind
            · exact le_refl _
            · exact (List.rel_of_pairwise_cons ahead behind).le

theorem Offers.usable?_eq {edits : List TextEdit} (sorted : edit.Sorted)
    (offers : edit.Offers uri edits) : CodeAction.usable? edit uri = some edits := by
  unfold CodeAction.usable?
  dsimp only
  cases offers with
  | own given entry =>
      rw [given, Option.getD_some, (lookup_eq_some_iff_mem (sorted _ given)).2 entry]
      rfl
  | @least changes key edits given others entry least =>
      have absent : changes.lookup uri = none := by
        rw [List.lookup_eq_none_iff]
        intro other member
        simpa using (others other member).symm
      rw [given, Option.getD_some, absent]
      cases changes with
      | nil => cases entry
      | cons first rest =>
          rcases List.mem_cons.1 entry with rfl | behind
          · rfl
          · -- What comes behind another name cannot be the least.
            have less := List.rel_of_pairwise_cons (sorted _ given) behind
            have least := Utf8.encode_le_iff.1 (least first List.mem_cons_self)
            exact absurd least less.not_ge
  | document bare given =>
      have none : edit.changes.getD [] = [] := by
        cases changes : edit.changes with
        | none => rfl
        | some list => exact bare list changes
      rw [none, given]
      rfl

theorem usable?_eq_some_iff {edits : List TextEdit} (sorted : edit.Sorted) :
    CodeAction.usable? edit uri = some edits ↔ edit.Offers uri edits :=
  ⟨offers_of_usable? sorted, fun offers => offers.usable?_eq sorted⟩

end WorkspaceEdit

namespace CodeAction

inductive Organizes (uri : String) (json : Json) (edits : List TextEdit) : Prop
  | intro {action : CodeAction} {edit : WorkspaceEdit} (decodes : ofJson? json = some action)
      (kind : action.kind = some "source.organizeImports") (carries : action.edit = some edit)
      (offers : edit.Offers uri edits)

theorem sorted_of_ofJson? {json : Json} {action : CodeAction} {edit : WorkspaceEdit}
    (ordered : json.Ordered) (decodes : ofJson? json = some action)
    (carries : action.edit = some edit) : edit.Sorted := by
  obtain ⟨kind, field, record, -, second⟩ := ofJson?_eq_some_iff.1 decodes
  rw [carries] at second
  obtain ⟨value, rfl, -, decoded⟩ := Json.optional?_eq_some_some_iff.1 second
  have inside : some value ∈ [kind, some value] := List.mem_cons_of_mem kind List.mem_cons_self
  exact WorkspaceEdit.sorted_of_ofJson? (ordered.of_record? record inside) decoded

theorem imports?_eq_some_iff {uri : String} {json : Json} {edits : List TextEdit}
    (ordered : json.Ordered) :
    (ofJson? json).bind (imports? uri) = some edits ↔ Organizes uri json edits := by
  rw [Option.bind_eq_some_iff]
  constructor
  · rintro ⟨action, decodes, found⟩
    unfold imports? at found
    split at found
    · rename_i kind
      obtain ⟨edit, carries, usable⟩ := Option.bind_eq_some_iff.1 found
      have sorted := sorted_of_ofJson? ordered decodes carries
      exact ⟨decodes, kind, carries, (WorkspaceEdit.usable?_eq_some_iff sorted).1 usable⟩
    · cases found
  · rintro ⟨decodes, kind, carries, offers⟩
    have sorted := sorted_of_ofJson? ordered decodes carries
    refine ⟨_, decodes, ?_⟩
    unfold imports? organizeImports
    rw [if_pos kind, carries]
    exact (WorkspaceEdit.usable?_eq_some_iff sorted).2 offers

/-! ## The first action -/

/-- The edits of the first thing in a list that organizes the imports; none if nothing does. -/
inductive Picks (uri : String) (actions : List Json) : List TextEdit → Prop
  | first {before after : List Json} {action : Json} {edits : List TextEdit}
      (split : actions = before ++ action :: after)
      (others : ∀ other ∈ before, ∀ edits, ¬ Organizes uri other edits)
      (organizes : Organizes uri action edits) : Picks uri actions edits
  | nothing (others : ∀ other ∈ actions, ∀ edits, ¬ Organizes uri other edits) :
      Picks uri actions []

variable {uri : String}

theorem imports?_eq_none_iff {json : Json} (ordered : json.Ordered) :
    (ofJson? json).bind (imports? uri) = none ↔ ∀ edits, ¬ Organizes uri json edits := by
  rw [Option.eq_none_iff_forall_ne_some]
  exact forall_congr' fun edits => not_congr (imports?_eq_some_iff ordered)

theorem picks_firstImports {actions : List Json} (ordered : ∀ action ∈ actions, action.Ordered) :
    Picks uri actions (firstImports uri actions) := by
  unfold firstImports
  cases found : actions.findSome? fun action => (ofJson? action).bind (imports? uri) with
  | none =>
      refine .nothing ?_
      intro other member
      exact (imports?_eq_none_iff (ordered other member)).1
        (List.findSome?_eq_none_iff.1 found other member)
  | some edits =>
      obtain ⟨before, action, after, split, read, others⟩ := List.findSome?_eq_some_iff.1 found
      subst split
      refine .first rfl ?_ ((imports?_eq_some_iff (ordered action (by simp))).1 read)
      intro other member
      exact (imports?_eq_none_iff (ordered other (List.mem_append_left _ member))).1
        (others other member)

theorem Picks.firstImports_eq {actions : List Json} {edits : List TextEdit}
    (ordered : ∀ action ∈ actions, action.Ordered) (picks : Picks uri actions edits) :
    firstImports uri actions = edits := by
  have none {other : Json} (member : other ∈ actions)
      (idle : ∀ edits, ¬ Organizes uri other edits) : (ofJson? other).bind (imports? uri) = none :=
    (imports?_eq_none_iff (ordered other member)).2 idle
  unfold firstImports
  cases picks with
  | @first before after action edits split others organizes =>
      subst split
      have read := (imports?_eq_some_iff (ordered action (by simp))).2 organizes
      rw [List.findSome?_eq_some_iff.2 ⟨before, action, after, rfl, read, ?_⟩]
      · rfl
      · exact fun other member => none (List.mem_append_left _ member) (others other member)
  | nothing others =>
      rw [List.findSome?_eq_none_iff.2 fun other member => none member (others other member)]
      rfl

/-! ## What makes no difference -/

/--
A list comes from another by putting in, wherever one likes, what does not
organize the imports.
-/
inductive Pads (uri : String) : List Json → List Json → Prop
  | nil : Pads uri [] []
  | keep {few many : List Json} (action : Json) (rest : Pads uri few many) :
      Pads uri (action :: few) (action :: many)
  | extra {few many : List Json} {other : Json} (idle : ∀ edits, ¬ Organizes uri other edits)
      (rest : Pads uri few many) : Pads uri few (other :: many)

theorem Pads.firstImports_eq {few many : List Json} (pads : Pads uri few many)
    (ordered : ∀ action ∈ many, action.Ordered) : firstImports uri many = firstImports uri few := by
  unfold firstImports
  congr 1
  induction pads with
  | nil => rfl
  | keep action rest ih =>
      rw [List.findSome?_cons, List.findSome?_cons, ih (List.forall_mem_cons.1 ordered).2]
  | extra idle rest ih =>
      obtain ⟨own, others⟩ := List.forall_mem_cons.1 ordered
      rw [List.findSome?_cons, (imports?_eq_none_iff own).2 idle]
      exact ih others

/--
Some of what is offered has nothing to do with the imports: what is no action, a
command, an action of another kind, and an action without any edits.
-/
inductive Idle : Json → Prop
  | malformed {json : Json} (undecoded : ofJson? json = none) : Idle json
  | otherKind {fields : List (String × Json)}
      (kind : fields.lookup "kind" ≠ some (.string "source.organizeImports")) :
      Idle (.object fields)
  | unedited {fields : List (String × Json)}
      (edit : fields.lookup "edit" = none ∨ fields.lookup "edit" = some .null) :
      Idle (.object fields)
  | empty {fields edit : List (String × Json)}
      (given : fields.lookup "edit" = some (.object edit))
      (changes : edit.lookup "changes" = none ∨ edit.lookup "changes" = some .null ∨
        edit.lookup "changes" = some (.object []))
      (documents : edit.lookup "documentChanges" = none ∨
        edit.lookup "documentChanges" = some .null ∨
        edit.lookup "documentChanges" = some (.array [])) : Idle (.object fields)

/-- An object that organizes the imports names its kind and has edits. -/
theorem Organizes.fields {fields : List (String × Json)} {edits : List TextEdit}
    (organizes : Organizes uri (.object fields) edits) :
    fields.lookup "kind" = some (.string "source.organizeImports") ∧
      ∃ json edit, fields.lookup "edit" = some json ∧ json ≠ .null ∧
        WorkspaceEdit.ofJson? json = some edit ∧ edit.Offers uri edits := by
  obtain ⟨decodes, kind, carries, offers⟩ := organizes
  obtain ⟨_, _, record, first, second⟩ := ofJson?_eq_some_iff.1 decodes
  rw [Json.record?_object, List.map_cons, List.map_singleton] at record
  cases record
  rw [kind, Json.optional?_eq_some_some_iff] at first
  rw [carries, Json.optional?_eq_some_some_iff] at second
  obtain ⟨name, found, -, named⟩ := first
  obtain ⟨json, given, present, decoded⟩ := second
  refine ⟨?_, json, _, given, present, decoded, offers⟩
  cases name with
  | string text =>
      cases named
      exact found
  | _ => cases named

/-- An edit without any documents offers nothing. -/
theorem not_offers_of_empty {fields : List (String × Json)} {edit : WorkspaceEdit}
    (changes : fields.lookup "changes" = none ∨ fields.lookup "changes" = some .null ∨
      fields.lookup "changes" = some (.object []))
    (documents : fields.lookup "documentChanges" = none ∨
      fields.lookup "documentChanges" = some .null ∨
      fields.lookup "documentChanges" = some (.array []))
    (decoded : WorkspaceEdit.ofJson? (.object fields) = some edit) (edits : List TextEdit) :
    ¬ edit.Offers uri edits := by
  obtain ⟨_, _, record, first, second⟩ := WorkspaceEdit.ofJson?_eq_some_iff.1 decoded
  rw [Json.record?_object, List.map_cons, List.map_singleton] at record
  cases record
  have unlisted : ∀ listed, edit.changes = some listed → listed = [] := by
    intro listed given
    rw [given] at first
    rcases changes with changes | changes | changes <;> rw [changes] at first <;> cases first
    rfl
  intro offers
  cases offers with
  | own given entry | least given _ entry _ =>
      rw [unlisted _ given] at entry
      cases entry
  | document bare given =>
      rw [given] at second
      rcases documents with documents | documents | documents <;> rw [documents] at second <;>
        cases second

theorem Idle.not_organizes {json : Json} (idle : Idle json) (edits : List TextEdit) :
    ¬ Organizes uri json edits := by
  intro organizes
  cases idle with
  | malformed undecoded =>
      obtain ⟨decodes⟩ := organizes
      rw [undecoded] at decodes
      cases decodes
  | otherKind kind => exact kind organizes.fields.1
  | unedited absent =>
      obtain ⟨-, json, -, given, present, -⟩ := organizes.fields
      rcases absent with absent | absent
      · rw [absent] at given
        cases given
      · rw [absent] at given
        cases given
        exact present rfl
  | empty found changes documents =>
      obtain ⟨-, json, edit, given, -, decoded, offers⟩ := organizes.fields
      rw [found] at given
      cases given
      exact not_offers_of_empty changes documents decoded edits offers

end CodeAction

end DiffDigest
