import DiffDigest.Diff.Render
import DiffDigest.Lookup
import DiffDigest.Ranking
import DiffDigest.Selection
import DiffDigest.Stats
import DiffDigest.Summary

/-!
# Digests

The digest of a diff holds its best hunks in full, as a diff again, and a
summary of the rest.  The best hunks are those that are accepted when all are
taken in the order of their rank, as long as they fit into a budget of changed
lines.
-/

namespace DiffDigest

open Diff (FileDiff Hunk)

/-- What a digest may contain, and how long it may take. -/
structure Options where
  /-- The number of changed lines to keep; zero stands for the default. -/
  maxLines : Nat := 400
  includeSummary : Bool := true
  /-- Milliseconds for all lookups together. -/
  timeout : Nat := 5000
deriving DecidableEq, Repr, Inhabited

def Options.budget (options : Options) : Nat :=
  if options.maxLines = 0 then ({} : Options).maxLines else options.maxLines

/-- The best hunks of a diff, a summary of the others, and the figures of all. -/
structure Digest where
  highPriority : String := ""
  summary : String := ""
  stats : Stats := {}
deriving DecidableEq, Repr, Inhabited

namespace Digest

def choose (budget : Nat) (candidates : List Candidate) : Selection Candidate :=
  Selection.firstFit Candidate.cost budget (Candidate.rank candidates)

def hunksAt (accepted : List Candidate) (place : Nat) : List Hunk :=
  let own := (accepted.filter fun candidate => candidate.place = place).map
    fun candidate => candidate.scored.hunk
  -- Hunks with one first line stay in the order of rank.
  own.mergeSort fun a b => decide (a.range.newStart ≤ b.range.newStart)

def rebuild (files : List FileDiff) (accepted : List Candidate) : String :=
  String.join (files.mapIdx fun place file => file.render (hunksAt accepted place))

def ofCandidates (options : Options) (files : List FileDiff) (candidates : List Candidate) :
    Digest × SelectionReport :=
  let selection := choose options.budget candidates
  let rejected := selection.rejected.map fun candidate => candidate.scored.hunk
  let digest : Digest :=
    { highPriority := rebuild files selection.accepted
      summary := if options.includeSummary then DiffDigest.summary rejected else ""
      stats := .of files }
  (digest,
    { files := files.length
      accepted := selection.accepted.length
      rejected := selection.rejected.length
      lines := selection.used Candidate.cost
      budget := options.budget })

def ofFiles (options : Options) (files : List (FileDiff × Outline)) :
    Digest × SelectionReport :=
  ofCandidates options (files.map Prod.fst) (Candidate.ofFiles files)

def prompt (digest : Digest) : String :=
  digest.highPriority ++ digest.summary

/-- A digest and how it came about. -/
structure Run where
  digest : Digest
  started : List (FileDiff × Lookup) := []
  log : List Event := []

/-- The digest of a text; a text that is no diff is kept as it is. -/
def run (source : SymbolSource) (options : Options) (text : String) : Run :=
  match Diff.parse text with
  | [] => { digest := { highPriority := text } }
  | files =>
      let consultation := Consultation.run source options.timeout files
      let (digest, report) := ofFiles options consultation.files
      { digest
        started := consultation.started
        log := consultation.log ++ [.prioritized report] }

end Digest

end DiffDigest
