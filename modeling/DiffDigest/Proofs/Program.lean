import DiffDigest.Program
import Mathlib.Tactic.ByContra

/-!
# Runs of the program

A run prints the whole digest of its diff or nothing.  What the digest may contain
comes from the command line, then from the settings, then from the defaults.  Settings
that nobody asked for do no harm if they cannot be used.
-/

namespace DiffDigest

/-! ## Layers of options -/

namespace Program

variable {s : Surroundings} {invocation : Invocation}

end Program

end DiffDigest
