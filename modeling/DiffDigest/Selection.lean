import DiffDigest.Total

/-!
# Selections

Items are taken in order while they fit: each item whose cost is at most what is
left of the budget is accepted, all others are rejected.  An item that does not
fit does not end the selection.
-/

namespace DiffDigest

variable {α : Type}

/-- Items that were accepted and items that were rejected, each in order. -/
structure Selection (α : Type) where
  accepted : List α := []
  rejected : List α := []

namespace Selection

def accept (item : α) (s : Selection α) : Selection α :=
  { s with accepted := item :: s.accepted }

def reject (item : α) (s : Selection α) : Selection α :=
  { s with rejected := item :: s.rejected }

def firstFit (cost : α → Nat) : Nat → List α → Selection α
  | _, [] => {}
  | room, item :: rest =>
      if cost item ≤ room then (firstFit cost (room - cost item) rest).accept item
      else (firstFit cost room rest).reject item

def used (cost : α → Nat) (s : Selection α) : Nat :=
  total cost s.accepted

@[simp] theorem used_accept (cost : α → Nat) (item : α) (s : Selection α) :
    (s.accept item).used cost = cost item + s.used cost := by
  simp [used, accept]

/-- The budget is kept. -/
theorem used_firstFit_le (cost : α → Nat) (room : Nat) (items : List α) :
    (firstFit cost room items).used cost ≤ room := by
  induction items generalizing room with
  | nil => exact Nat.zero_le room
  | cons item rest ih =>
      unfold firstFit
      split
      · have := ih (room - cost item)
        rw [used_accept]
        omega
      · exact ih room

/-- Every item is either accepted or rejected. -/
theorem firstFit_perm (cost : α → Nat) (room : Nat) (items : List α) :
    ((firstFit cost room items).accepted ++ (firstFit cost room items).rejected).Perm items := by
  induction items generalizing room with
  | nil => exact .nil
  | cons item rest ih =>
      unfold firstFit
      split
      · exact (ih _).cons item
      · exact List.perm_middle.trans ((ih _).cons item)

end Selection

end DiffDigest
