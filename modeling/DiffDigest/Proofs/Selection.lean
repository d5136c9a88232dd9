import DiffDigest.Selection

/-!
# What taking the first that fits achieves

A selection of a list is a vector of marks, one for each item.  Of all vectors
whose items fit into the budget, taking each item that still fits gives the one
that is lexicographically greatest.  It leaves no room for any rejected item,
and a rejected item costs more than every accepted item behind it.
-/

namespace DiffDigest.Selection

variable {α : Type}

/-! ## Renamed items -/

def map {β : Type} (rename : α → β) (s : Selection α) : Selection β :=
  ⟨s.accepted.map rename, s.rejected.map rename⟩

theorem firstFit_map {β : Type} {cost : α → Nat} {figure : β → Nat} {rename : α → β}
    {items : List α} (same : ∀ item ∈ items, figure (rename item) = cost item) (room : Nat) :
    firstFit figure room (items.map rename) = (firstFit cost room items).map rename := by
  induction items generalizing room with
  | nil => rfl
  | cons item rest ih =>
      have later := ih fun other member => same other (List.mem_cons_of_mem item member)
      rw [List.map_cons, firstFit, firstFit, same item List.mem_cons_self, later, later]
      split <;> rfl

/-- Only what the items themselves cost matters. -/
theorem firstFit_congr {cost figure : α → Nat} {items : List α}
    (same : ∀ item ∈ items, figure item = cost item) (room : Nat) :
    firstFit figure room items = firstFit cost room items := by
  have kept : firstFit figure room (items.map id) = (firstFit cost room items).map id :=
    firstFit_map same room
  rw [map, List.map_id, List.map_id, List.map_id] at kept
  exact kept

/-! ## Room that is left -/

/-- What is left of the room when the items that fit are taken. -/
def left (cost : α → Nat) : Nat → List α → Nat
  | room, [] => room
  | room, item :: rest =>
      if cost item ≤ room then left cost (room - cost item) rest else left cost room rest

theorem left_le (cost : α → Nat) (room : Nat) (items : List α) : left cost room items ≤ room := by
  induction items generalizing room with
  | nil => exact Nat.le_refl _
  | cons item rest ih =>
      unfold left
      split
      · exact Nat.le_trans (ih _) (Nat.sub_le _ _)
      · exact ih room

theorem left_append (cost : α → Nat) (room : Nat) (front back : List α) :
    left cost room (front ++ back) = left cost (left cost room front) back := by
  induction front generalizing room with
  | nil => rfl
  | cons item front ih =>
      rw [List.cons_append, left, left]
      split
      · exact ih _
      · exact ih room

/-- Whether an item is accepted depends on the items in front of it alone. -/
theorem mem_accepted_iff (cost : α → Nat) (room : Nat) {front back : List α} {item : α}
    (first : item ∉ front) (last : item ∉ back) :
    item ∈ (firstFit cost room (front ++ item :: back)).accepted ↔
      cost item ≤ left cost room front := by
  induction front generalizing room with
  | nil =>
      have later (some : Nat) : item ∉ (firstFit cost some back).accepted := fun member =>
        last ((firstFit_perm cost some back).mem_iff.1 (List.mem_append_left _ member))
      rw [List.nil_append, firstFit, left]
      split
      · rename_i fits
        exact ⟨fun _ => fits, fun _ => List.mem_cons_self⟩
      · rename_i tooDear
        exact ⟨fun member => absurd member (later room), fun fits => absurd fits tooDear⟩
  | cons other front ih =>
      have differs : item ≠ other := List.ne_of_not_mem_cons first
      have rest := List.not_mem_of_not_mem_cons first
      rw [List.cons_append, firstFit, left]
      split
      · rw [accept, List.mem_cons, or_iff_right differs]
        exact ih _ rest
      · exact ih room rest

/-- An item that moves forward stays accepted, whatever becomes of the items behind it. -/
theorem accepted_of_forward (cost : α → Nat) (room : Nat) {front between back rest : List α}
    {item : α} (first : item ∉ front ++ between) (last : item ∉ back) (behind : item ∉ rest)
    (accepted : item ∈ (firstFit cost room ((front ++ between) ++ item :: back)).accepted) :
    item ∈ (firstFit cost room (front ++ item :: rest)).accepted := by
  have ahead : item ∉ front := fun member => first (List.mem_append_left _ member)
  rw [mem_accepted_iff cost room first last, left_append] at accepted
  rw [mem_accepted_iff cost room ahead behind]
  exact Nat.le_trans accepted (left_le cost _ between)

/-! ## Membership vectors -/

/-- The items that a vector of marks takes. -/
def taken : List Bool → List α → List α
  | true :: marks, item :: rest => item :: taken marks rest
  | false :: marks, _ :: rest => taken marks rest
  | _, _ => []

/-- A vector is less than another when it is the first of both to leave an item out. -/
def LexLess (first second : List Bool) : Prop :=
  ∃ front behind ahead, first = front ++ false :: behind ∧ second = front ++ true :: ahead

def membership (cost : α → Nat) : Nat → List α → List Bool
  | _, [] => []
  | room, item :: rest =>
      if cost item ≤ room then true :: membership cost (room - cost item) rest
      else false :: membership cost room rest

theorem LexLess.cons {first second : List Bool} (less : LexLess first second) (mark : Bool) :
    LexLess (mark :: first) (mark :: second) := by
  obtain ⟨front, behind, ahead, rfl, rfl⟩ := less
  exact ⟨mark :: front, behind, ahead, rfl, rfl⟩

section Greedy

variable (cost : α → Nat)

theorem length_membership (room : Nat) (items : List α) :
    (membership cost room items).length = items.length := by
  induction items generalizing room with
  | nil => rfl
  | cons item rest ih =>
      unfold membership
      split
      · rw [List.length_cons, ih, List.length_cons]
      · rw [List.length_cons, ih, List.length_cons]

/-- The selection is the one that its vector of marks stands for. -/
theorem firstFit_eq_taken (room : Nat) (items : List α) :
    firstFit cost room items =
      ⟨taken (membership cost room items) items,
        taken ((membership cost room items).map not) items⟩ := by
  induction items generalizing room with
  | nil => rfl
  | cons item rest ih =>
      unfold firstFit membership
      split
      · rw [ih]
        rfl
      · rw [ih]
        rfl

theorem accepted_sublist (room : Nat) (items : List α) :
    (firstFit cost room items).accepted.Sublist items := by
  induction items generalizing room with
  | nil => exact .slnil
  | cons item rest ih =>
      unfold firstFit
      split
      · exact (ih _).cons_cons item
      · exact (ih _).cons item

/-- When all items fit together, none is rejected. -/
theorem firstFit_of_total_le {room : Nat} {items : List α} (fits : total cost items ≤ room) :
    firstFit cost room items = ⟨items, []⟩ := by
  induction items generalizing room with
  | nil => rfl
  | cons item rest ih =>
      rw [total_cons] at fits
      rw [firstFit, if_pos (by omega), ih (by omega)]
      rfl

/-! ## The greatest vector -/

/-- Every vector that fits is the greedy one or less. -/
theorem eq_or_lexLess_membership (room : Nat) (items : List α) (other : List Bool)
    (whole : other.length = items.length) (fits : total cost (taken other items) ≤ room) :
    other = membership cost room items ∨ LexLess other (membership cost room items) := by
  induction items generalizing room other with
  | nil => exact Or.inl (List.length_eq_zero_iff.1 whole)
  | cons item rest ih =>
      obtain ⟨mark, marks, rfl⟩ := List.exists_cons_of_length_eq_add_one whole
      have shorter : marks.length = rest.length := Nat.succ.inj whole
      unfold membership
      cases mark with
      | true =>
          have cheap : cost item + total cost (taken marks rest) ≤ room := fits
          rw [if_pos (by omega)]
          rcases ih (room - cost item) marks shorter (by omega) with rfl | less
          · exact Or.inl rfl
          · exact Or.inr (less.cons true)
      | false =>
          split
          · exact Or.inr ⟨[], marks, _, rfl, rfl⟩
          · rcases ih room marks shorter fits with rfl | less
            · exact Or.inl rfl
            · exact Or.inr (less.cons false)

/-- What is left at the end is too little for every rejected item. -/
theorem lt_of_mem_rejected (room : Nat) (items : List α) {item : α}
    (member : item ∈ (firstFit cost room items).rejected) :
    room < (firstFit cost room items).used cost + cost item := by
  induction items generalizing room with
  | nil => cases member
  | cons first rest ih =>
      unfold firstFit at member ⊢
      split
      · rename_i fits
        rw [if_pos fits] at member
        have later := ih (room - cost first) member
        rw [used_accept]
        omega
      · rename_i tooDear
        rw [if_neg tooDear] at member
        rcases List.mem_cons.1 member with rfl | member
        · omega
        · exact ih room member

/-- An item that is marked fits into the whole room. -/
theorem cost_le_of_marked (room : Nat) (items : List α) {place : Nat} {item : α}
    (here : items[place]? = some item) (marked : (membership cost room items)[place]? = some true) :
    cost item ≤ room := by
  induction items generalizing room place with
  | nil => cases here
  | cons first rest ih =>
      unfold membership at marked
      cases place with
      | zero =>
          obtain rfl := Option.some.inj here
          split at marked
          · assumption
          · cases marked
      | succ place =>
          rw [List.getElem?_cons_succ] at here
          split at marked
          · have later := ih (room - cost first) here marked
            omega
          · exact ih room here marked

/-- A rejected item costs more than an accepted one behind it. -/
theorem cost_lt_of_marked (room : Nat) (items : List α) {front behind : Nat} {out within : α}
    (order : front < behind) (first : items[front]? = some out)
    (second : items[behind]? = some within)
    (left : (membership cost room items)[front]? = some false)
    (marked : (membership cost room items)[behind]? = some true) : cost within < cost out := by
  induction items generalizing room front behind with
  | nil => cases first
  | cons item rest ih =>
      unfold membership at left marked
      obtain ⟨behind, rfl⟩ : ∃ place, behind = place + 1 := ⟨behind - 1, by omega⟩
      rw [List.getElem?_cons_succ] at second
      cases front with
      | zero =>
          obtain rfl := Option.some.inj first
          split at left
          · cases left
          · rename_i tooDear
            rw [if_neg tooDear] at marked
            have cheap := cost_le_of_marked cost room rest second marked
            omega
      | succ front =>
          rw [List.getElem?_cons_succ] at first
          have inner : front < behind := by omega
          split at left
          · rename_i fits
            rw [if_pos fits] at marked
            exact ih _ inner first second left marked
          · rename_i tooDear
            rw [if_neg tooDear] at marked
            exact ih _ inner first second left marked

end Greedy

/-! ## The best selection -/

/-- A selection is the best one for a budget, as this vector of marks shows. -/
structure IsBest (cost : α → Nat) (budget : Nat) (items : List α) (s : Selection α)
    (member : List Bool) : Prop where
  length : member.length = items.length
  accepted : s.accepted = taken member items
  rejected : s.rejected = taken (member.map not) items
  fits : total cost s.accepted ≤ budget
  greatest : ∀ other : List Bool, other.length = items.length →
    total cost (taken other items) ≤ budget → other = member ∨ LexLess other member
  full : ∀ item ∈ s.rejected, budget < total cost s.accepted + cost item
  heavier : ∀ (front behind : Nat) (out within : α), front < behind →
    items[front]? = some out → items[behind]? = some within →
    member[front]? = some false → member[behind]? = some true → cost within < cost out

theorem isBest_firstFit (cost : α → Nat) (budget : Nat) (items : List α) :
    IsBest cost budget items (firstFit cost budget items) (membership cost budget items) where
  length := length_membership cost budget items
  accepted := by rw [firstFit_eq_taken]
  rejected := by rw [firstFit_eq_taken]
  fits := used_firstFit_le cost budget items
  greatest := eq_or_lexLess_membership cost budget items
  full := fun _ member => lt_of_mem_rejected cost budget items member
  heavier := fun _ _ _ _ order first second left marked =>
    cost_lt_of_marked cost budget items order first second left marked

/-- An item that costs nothing is never rejected. -/
theorem IsBest.cost_pos {cost : α → Nat} {budget : Nat} {items : List α} {s : Selection α}
    {member : List Bool} (best : IsBest cost budget items s member) {item : α}
    (out : item ∈ s.rejected) : 0 < cost item := by
  have full := best.full item out
  have fits := best.fits
  omega

end DiffDigest.Selection
