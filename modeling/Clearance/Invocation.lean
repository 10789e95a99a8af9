import Clearance.Settings
import Clearance.Text.Basic

/-!
# Invocations

What the arguments of the command line ask for. Options take a value, as the next argument or
behind an equals sign; flags take none, and flags of one letter may share a dash. Everything behind
`--` is no option, and a single dash is an ordinary value. An option may be given once, a flag too,
unless it counts; there is at most one argument that is no option, the dependency list.

Arguments are read from left to right. The first one that asks for the version or for help is
answered, and the first one that is wrong ends the reading, whichever comes first.
-/

set_option autoImplicit false

namespace Clearance

/-- The form in which results are reported. -/
inductive ReportFormat where
  | terminal
  | json
  | csv
  deriving DecidableEq, Repr

/-- What a run of the program is asked to do. What was not asked for is absent. -/
structure Invocation where
  /-- The path of the dependency list. -/
  input : Option String := none
  /-- The path of the settings. -/
  config : Option String := none
  batch : Option Nat := none
  /-- The time for a call, in seconds. -/
  timeout : Option Nat := none
  confidence : Option Nat := none
  concurrency : Option Nat := none
  project : Option String := none
  report : Option ReportFormat := none
  /-- The path to which the summary is written. -/
  summary : Option String := none
  failFast : Bool := false
  quiet : Bool := false
  /-- How often more output was asked for. -/
  verbosity : Nat := 0
  deriving DecidableEq, Repr

/-- What the arguments ask for. -/
inductive Wish where
  | run (invocation : Invocation)
  | version
  | help
  /-- The arguments cannot be understood. -/
  | misuse
  deriving DecidableEq, Repr

namespace Invocation

/-- The path that reads standard input. -/
def standardInput : String := "-"

/-- The dependency list to read. -/
def inputPath (i : Invocation) : String := i.input.getD standardInput

/-- The settings with what the invocation asks for instead. -/
def override (i : Invocation) (s : Settings) : Settings :=
  { s with
    batchSize := i.batch.getD s.batchSize
    timeoutSeconds := i.timeout.getD s.timeoutSeconds
    concurrency := i.concurrency.getD s.concurrency
    mode := if i.failFast then .failFast else s.mode
    threshold := i.confidence.getD s.threshold
    project := i.project.or s.project }

/-- The least severe level that is logged. -/
def logLevel (i : Invocation) : Nat :=
  match i.verbosity with
  | 0 => 2
  | 1 => 1
  | _ => 0

/-! ## Values -/

/-- A path, which is not empty. -/
def path? (value : String) : Option String := if value.isEmpty then none else some value

/-- A number of 64 bits. -/
def number? (value : String) : Option Nat := Text.readBelow? (Nat.pow 2 64) value.toList

/-- A score: a number of 32 bits, where zero may have a minus sign. -/
def score? (value : String) : Option Nat :=
  match value.toList with
  | '-' :: cs =>
    if cs.isEmpty || !cs.all (· == '0') then none else some 0
  | cs => Text.readBelow? (Nat.pow 2 32) cs

/-- The report format with this name. -/
def format? (value : String) : Option ReportFormat :=
  match value with
  | "terminal" => some .terminal
  | "json" => some .json
  | "csv" => some .csv
  | _ => none

/-- A value for something that has none yet. -/
def once {α : Type} (current : Option α) (value : Option α) : Option (Option α) :=
  match current with
  | some _ => none
  | none => value.map some

/-- The option with this name: how its value changes the invocation. -/
def option? (name : String) : Option (String → Invocation → Option Invocation) :=
  match name with
  | "config" => some fun v i => (once i.config (path? v)).map fun config => { i with config }
  | "batch" => some fun v i => (once i.batch (number? v)).map fun batch => { i with batch }
  | "timeout" => some fun v i => (once i.timeout (number? v)).map fun timeout => { i with timeout }
  | "confidence" =>
    some fun v i => (once i.confidence (score? v)).map fun confidence => { i with confidence }
  | "concurrency" =>
    some fun v i => (once i.concurrency (number? v)).map fun concurrency => { i with concurrency }
  | "project" => some fun v i => (once i.project (some v)).map fun project => { i with project }
  | "report" => some fun v i => (once i.report (format? v)).map fun report => { i with report }
  | "summary" => some fun v i => (once i.summary (path? v)).map fun summary => { i with summary }
  | _ => none

/-- An argument that is no option. -/
def positional (value : String) (i : Invocation) : Option Invocation :=
  (once i.input (path? value)).map fun input => { i with input }

/-! ## Flags -/

/-- A flag. -/
inductive Flag where
  | failFast
  | quiet
  | verbose
  | version
  | help
  deriving DecidableEq, Repr

/-- The flag with this name. -/
def flagOfName? (name : String) : Option Flag :=
  match name with
  | "fail-fast" => some .failFast
  | "quiet" => some .quiet
  | "verbose" => some .verbose
  | "version" => some .version
  | "help" => some .help
  | _ => none

/-- The flag with this letter. -/
def flagOfLetter? (letter : Char) : Option Flag :=
  match letter with
  | 'q' => some .quiet
  | 'v' => some .verbose
  | 'V' => some .version
  | 'h' => some .help
  | _ => none

/-- What a flag makes of the invocation; an invocation means that reading goes on. -/
def raise (flag : Flag) (i : Invocation) : Wish :=
  match flag with
  | .failFast => if i.failFast then .misuse else .run { i with failFast := true }
  | .quiet => if i.quiet then .misuse else .run { i with quiet := true }
  | .verbose => .run { i with verbosity := i.verbosity + 1 }
  | .version => .version
  | .help => .help

/-- What flags of one letter each make of the invocation. -/
def raiseAll : List Char → Invocation → Wish
  | [], i => .run i
  | letter :: letters, i =>
    match flagOfLetter? letter with
    | none => .misuse
    | some flag =>
      match raise flag i with
      | .run i => raiseAll letters i
      | wish => wish

/-! ## Arguments -/

/-- The form of one argument. -/
inductive Argument where
  /-- The mark behind which nothing is an option. -/
  | escape
  /-- A name behind two dashes, perhaps with a value. -/
  | long (name : String) (value : Option String)
  /-- Letters behind one dash. -/
  | short (letters : List Char)
  | plain (text : String)
  deriving DecidableEq, Repr

/-- The form of an argument. -/
def Argument.of (text : String) : Argument :=
  match text.toList with
  | ['-', '-'] => .escape
  | '-' :: '-' :: cs =>
    match Text.cutFirst '=' cs with
    | some (name, value) => .long (String.ofList name) (some (String.ofList value))
    | none => .long (String.ofList cs) none
  | ['-'] => .plain text
  | '-' :: letters => .short letters
  | _ => .plain text

/-- Reads the arguments behind `--`. -/
def readPlain : List String → Invocation → Wish
  | [], i => .run i
  | text :: rest, i =>
    match positional text i with
    | some i => readPlain rest i
    | none => .misuse

/-- Reads arguments from left to right. -/
def readFrom : List String → Invocation → Wish
  | [], i => .run i
  | text :: rest, i =>
    match Argument.of text with
    | .escape => readPlain rest i
    | .plain text =>
      match positional text i with
      | some i => readFrom rest i
      | none => .misuse
    | .short letters =>
      match raiseAll letters i with
      | .run i => readFrom rest i
      | wish => wish
    | .long name value =>
      match flagOfName? name, option? name, value with
      | some flag, _, none =>
        match raise flag i with
        | .run i => readFrom rest i
        | wish => wish
      | none, some apply, some value =>
        match apply value i with
        | some i => readFrom rest i
        | none => .misuse
      | none, some apply, none =>
        match rest with
        | [] => .misuse
        | value :: rest =>
          match Argument.of value with
          | .plain value =>
            match apply value i with
            | some i => readFrom rest i
            | none => .misuse
          | _ => .misuse
      | _, _, _ => .misuse

/-- What arguments ask for. -/
def read (arguments : List String) : Wish := readFrom arguments {}

end Invocation

end Clearance
