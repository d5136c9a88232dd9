import DiffDigest.Proofs.Diff.Header
import DiffDigest.Proofs.Diff.Section
import DiffDigest.Proofs.Diff.Rebuild
import DiffDigest.Proofs.Digest.Ranking
import DiffDigest.Proofs.Digest.Rebuilt
import DiffDigest.Proofs.Digest.Greedy
import DiffDigest.Proofs.Summary
import DiffDigest.Proofs.Digest.Conservation
import DiffDigest.Proofs.Frame
import DiffDigest.Proofs.Frame.Header
import DiffDigest.Proofs.Frame.Grammar
import DiffDigest.Proofs.Frame.RoundTrip
import DiffDigest.Proofs.Session.Message
import DiffDigest.Proofs.Session.Call
import DiffDigest.Proofs.Session.History
import DiffDigest.Proofs.Session.Dialogue
import DiffDigest.Proofs.Path
import DiffDigest.Proofs.ServerSymbols
import DiffDigest.Proofs.Diff.Kind
import DiffDigest.Proofs.Lookup
import DiffDigest.Proofs.Diff.Printed
import DiffDigest.Proofs.Diff.Layout
import DiffDigest.Proofs.Digest.Idempotent
import DiffDigest.Proofs.Diff.Opening
import DiffDigest.Proofs.Digest.Whole
import DiffDigest.Proofs.Fruitless
import DiffDigest.Proofs.Digest.Fallback
import DiffDigest.Proofs.Session.Pipe
import DiffDigest.Proofs.Session.Truncation
import DiffDigest.Proofs.Digest.Join
import DiffDigest.Proofs.Text.Return
import DiffDigest.Proofs.Digest.Alike
import DiffDigest.Proofs.Digest.Return
import DiffDigest.Proofs.Digest.Count
import DiffDigest.Proofs.Binary64.Rounding
import DiffDigest.Proofs.Binary64.Arithmetic
import DiffDigest.Proofs.Score
import DiffDigest.Proofs.Digest.Raise
import DiffDigest.Proofs.Score.Touched
import DiffDigest.Proofs.Outline.Node
import DiffDigest.Proofs.Outline.Reading
import DiffDigest.Proofs.Summary.Reference
import DiffDigest.Proofs.Json.Ordered
import DiffDigest.Proofs.CodeAction.First
import DiffDigest.Proofs.Session.Imports
import DiffDigest.Proofs.Category
import DiffDigest.Proofs.Language
import DiffDigest.Proofs.Placeholder
import DiffDigest.Proofs.Settings
import DiffDigest.Proofs.Program
import DiffDigest.Proofs.Position
