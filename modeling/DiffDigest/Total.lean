/-!
# Totals

The sum of a figure over all items of a list.
-/

namespace DiffDigest

variable {α : Type}

def total (figure : α → Nat) : List α → Nat
  | [] => 0
  | item :: rest => figure item + total figure rest

@[simp] theorem total_nil (figure : α → Nat) : total figure [] = 0 :=
  rfl

@[simp] theorem total_cons (figure : α → Nat) (item : α) (rest : List α) :
    total figure (item :: rest) = figure item + total figure rest :=
  rfl

@[simp] theorem total_append (figure : α → Nat) (front rest : List α) :
    total figure (front ++ rest) = total figure front + total figure rest := by
  induction front with
  | nil => simp
  | cons item front ih =>
      rw [List.cons_append, total_cons, ih, total_cons]
      omega

/-- The order of the items does not matter. -/
theorem total_perm (figure : α → Nat) {front rest : List α} (same : front.Perm rest) :
    total figure front = total figure rest := by
  induction same with
  | nil => rfl
  | cons item _ ih => rw [total_cons, total_cons, ih]
  | swap first second rest =>
      simp only [total_cons]
      omega
  | trans _ _ first second => exact first.trans second

theorem total_congr {figure other : α → Nat} {items : List α}
    (same : ∀ item ∈ items, figure item = other item) : total figure items = total other items := by
  induction items with
  | nil => rfl
  | cons item rest ih =>
      rw [total_cons, total_cons, same item List.mem_cons_self,
        ih fun later member => same later (List.mem_cons_of_mem item member)]

theorem total_map {β : Type} (figure : β → Nat) (change : α → β) (items : List α) :
    total figure (items.map change) = total (figure ∘ change) items := by
  induction items with
  | nil => rfl
  | cons item rest ih =>
      rw [List.map_cons, total_cons, ih]
      rfl

end DiffDigest
