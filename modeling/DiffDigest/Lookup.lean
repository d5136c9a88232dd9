import DiffDigest.Diff.Parser
import DiffDigest.Session.Connection

/-!
# Lookups

A lookup asks for the symbols of one file and takes some time.  All lookups of a
run share one deadline: one that would end after it is given up there, and from
then on none is started.  A file without hunks is not looked up.
-/

namespace DiffDigest

open Diff (FileDiff)

/-- What a lookup comes to. -/
structure Lookup where
  /-- The milliseconds it takes and what it finds; nothing for one that never ends. -/
  answer : Option (Nat × Outline) := some (0, [])
  /-- The events on the way, with their times. -/
  log : List (Nat × Event) := []
  /-- What is left of the connection to a server, if there was one. -/
  connection : Option Connection := none

abbrev SymbolSource :=
  FileDiff → Lookup

def SymbolSource.none : SymbolSource :=
  fun _ => {}

/-- How far a run has come with its lookups. -/
structure Consultation where
  /-- Milliseconds since the run began. -/
  clock : Nat := 0
  /-- The files so far, each with the outline that it gets. -/
  files : List (FileDiff × Outline) := []
  /-- The lookups that were started. -/
  started : List (FileDiff × Lookup) := []
  log : List Event := []

namespace Consultation

/-- What a lookup started at some time finds by the deadline, and when it is over. -/
def result (deadline start : Nat) (lookup : Lookup) : Option Outline × Nat :=
  match lookup.answer with
  | some (taken, outline) =>
      if start + taken ≤ deadline then (some outline, start + taken) else (none, deadline)
  | none => (none, deadline)

def visit (source : SymbolSource) (deadline : Nat) (c : Consultation) (file : FileDiff) :
    Consultation :=
  if file.hunks.isEmpty then { c with files := c.files ++ [(file, [])] }
  else if deadline ≤ c.clock then
    { c with
      files := c.files ++ [(file, [])]
      log := c.log ++ [.deadlinePassed file.newPath] }
  else
    let lookup := source file
    let (outline, clock) := result deadline c.clock lookup
    -- A lookup that is given up reports nothing more.
    let heard := (lookup.log.filter fun entry => c.clock + entry.1 ≤ deadline).map Prod.snd
    { clock
      files := c.files ++ [(file, outline.getD [])]
      started := c.started ++ [(file, lookup)]
      log := c.log ++ heard ++ if outline.isSome then [] else [.deadlineHit file.newPath] }

def run (source : SymbolSource) (deadline : Nat) (files : List FileDiff) : Consultation :=
  files.foldl (visit source deadline) {}

theorem visit_files (source : SymbolSource) (deadline : Nat) (c : Consultation)
    (file : FileDiff) :
    (visit source deadline c file).files.map Prod.fst = c.files.map Prod.fst ++ [file] := by
  unfold visit
  split
  · simp
  · split <;> simp

/-- Every file gets an outline, and the files keep their order. -/
theorem run_files (source : SymbolSource) (deadline : Nat) (files : List FileDiff) :
    (run source deadline files).files.map Prod.fst = files := by
  suffices step : ∀ c : Consultation,
      (files.foldl (visit source deadline) c).files.map Prod.fst = c.files.map Prod.fst ++ files by
    simpa [run] using step {}
  induction files with
  | nil => simp
  | cons file rest ih =>
      intro c
      rw [List.foldl_cons, ih, visit_files]
      simp

end Consultation

end DiffDigest
