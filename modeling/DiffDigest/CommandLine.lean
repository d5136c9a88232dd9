import DiffDigest.Path
import DiffDigest.Text.Digit
import DiffDigest.Word

/-!
# Command lines

Options begin with two dashes.  Some are switches, others take a value that is
joined by an equals sign or is the next argument.  Each may be given once.
Behind a lone pair of dashes nothing is an option.
-/

namespace DiffDigest

/-- What a command line asks for; an option that is not given has no value. -/
structure Invocation where
  diff : Option Path := none
  config : Option Path := none
  workDir : Option Path := none
  maxLines : Option Nat := none
  timeout : Option Nat := none
  noSummary : Bool := false
  noServers : Bool := false
  stats : Bool := false
deriving DecidableEq, Repr, Inhabited

inductive Command where
  | digest (invocation : Invocation)
  | version
deriving DecidableEq, Repr

namespace CommandLine

/-- An option with a value. -/
inductive Setting where
  | config
  | workDir
  | maxLines
  | timeout
deriving DecidableEq, Repr

/-- An option without a value. -/
inductive Switch where
  | noSummary
  | noServers
  | stats
deriving DecidableEq, Repr

inductive OptionKind where
  | setting (setting : Setting)
  | switch (switch : Switch)
  | version
deriving DecidableEq, Repr

def options : List (String × OptionKind) :=
  [("config", .setting .config), ("work-dir", .setting .workDir),
    ("max-lines", .setting .maxLines), ("lsp-timeout-ms", .setting .timeout),
    ("no-summary", .switch .noSummary), ("no-lsp", .switch .noServers),
    ("stats", .switch .stats), ("version", .version)]

def path? (value : Bytes) : Option Path :=
  if value = [] then none else some value

def number? (value : Bytes) : Option Nat := do
  Text.boundedDecimal? Word.size64 (← Utf8.decode? value).toList

/-- Put a value where none is yet. -/
def once? {α : Type} (current : Option α) (value : Option α) : Option (Option α) :=
  match current with
  | none => value.map some
  | some _ => none

def Setting.assign? (setting : Setting) (value : Bytes) (i : Invocation) : Option Invocation :=
  match setting with
  | .config => (once? i.config (path? value)).map fun config => { i with config }
  | .workDir => (once? i.workDir (path? value)).map fun workDir => { i with workDir }
  | .maxLines => (once? i.maxLines (number? value)).map fun maxLines => { i with maxLines }
  | .timeout => (once? i.timeout (number? value)).map fun timeout => { i with timeout }

def Switch.turn? (switch : Switch) (i : Invocation) : Option Invocation :=
  match switch with
  | .noSummary => if i.noSummary then none else some { i with noSummary := true }
  | .noServers => if i.noServers then none else some { i with noServers := true }
  | .stats => if i.stats then none else some { i with stats := true }

def operand? (arg : Bytes) (i : Invocation) : Option Invocation :=
  (once? i.diff (path? arg)).map fun diff => { i with diff }

def dash : UInt8 :=
  45

def equalsSign : UInt8 :=
  61

/-- Whether an argument cannot be the value of an option; a lone dash can. -/
def looksLikeOption (arg : Bytes) : Bool :=
  arg.head? = some dash && arg ≠ [dash]

def named? (text : Bytes) : Option (OptionKind × Option Bytes) := do
  let name := text.takeWhile (· ≠ equalsSign)
  let option ← options.lookup (← Utf8.decode? name)
  match text.drop name.length with
  | [] => pure (option, none)
  | _ :: value => pure (option, some value)

def operands? (i : Invocation) (args : List Bytes) : Option Command :=
  (args.foldlM (fun i arg => operand? arg i) i).map .digest

/-- Read arguments from left to right; a question for the version ends the reading. -/
def read? (i : Invocation) : List Bytes → Option Command
  | [] => some (.digest i)
  | arg :: rest =>
      if arg = [dash, dash] then operands? i rest
      else if !looksLikeOption arg then (operand? arg i).bind fun i => read? i rest
      -- Of the short options there is only the one that asks for the version.
      else if (arg.drop 1).head? ≠ some dash then
        if (arg.drop 1).head? = some 'V'.toUInt8 then some .version else none
      else
        match named? (arg.drop 2) with
        | some (.version, none) => some .version
        | some (.switch switch, none) => (switch.turn? i).bind fun i => read? i rest
        | some (.setting setting, some value) =>
            (setting.assign? value i).bind fun i => read? i rest
        | some (.setting setting, none) =>
            match rest with
            | [] => none
            | value :: rest =>
                if looksLikeOption value then none
                else (setting.assign? value i).bind fun i => read? i rest
        | _ => none

def parse? (args : List Bytes) : Option Command :=
  read? {} args

end CommandLine

end DiffDigest
