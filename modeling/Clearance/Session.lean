import Clearance.Component.Notation
import Clearance.Invocation
import Clearance.Report.Row
import Clearance.Report.Terminal
import Clearance.Resolution
import Clearance.Settings.Discovery

/-!
# Sessions

One run of the program, from the arguments to the exit code, as a function of what the run can see:
files, standard input, and a transport to the services.

The exit code is 0 if everything in the dependency list is approved, 2 if a failure ended the
resolution, and 1 in all other cases.
-/

set_option autoImplicit false

namespace Clearance

universe u

/-- What a run can see. -/
structure Surroundings where
  files : Files
  /-- The directory in which the program runs. -/
  project : String
  home : Option String
  standardInput : List UInt8
  /-- A file can be written at a path. -/
  isWritable : String → Bool
  /-- Colors are shown. -/
  colors : Bool

/-- What a run leads to. -/
structure Session where
  exitCode : Nat
  /-- The text on standard output. -/
  output : String
  /-- The text on standard error. -/
  messages : String
  /-- The path and the text of the summary, if one is written. -/
  summary : Option (String × String) := none

namespace Session

/-- The name of the program with its version. -/
def versionLine : String := "license-resolver 0.1.0\n"

/-- How the program is called. -/
def usage : String :=
  "Usage: license-resolver [OPTIONS] [INPUT]\n\n" ++
    "Options: --config FILE, --batch N, --timeout SECS, --confidence SCORE, --project NAME,\n" ++
    "         --concurrency N, --report terminal|json|csv, --summary FILE, --fail-fast,\n" ++
    "         -v/--verbose, -q/--quiet, -V/--version, -h/--help\n"

/-- The exit code for arguments that cannot be understood. -/
def misuseCode : Nat := 2

/-- A run that ends with an error message. -/
def failed (messages : String) (error : String) : Session where
  exitCode := 1
  output := ""
  messages := messages ++ "Error: " ++ error ++ "\n"

/-- The components of the dependency list, or the message that says why there are none. -/
def readList (place : Surroundings) (path : String) : Except String (List ComponentId) :=
  let ofBytes (bytes : List UInt8) : Except String (List ComponentId) :=
    match Listing.read? bytes with
    | some ids => .ok ids
    | none => .error "stream did not contain valid UTF-8"
  if path = Invocation.standardInput then ofBytes place.standardInput
  else
    match place.files path with
    | some (.file bytes) => ofBytes bytes
    | some .directory => .error "Is a directory (os error 21)"
    | none => .error ("cannot open dependency list " ++ path)

/-- The report about a register in the wanted form. -/
def report (place : Surroundings) (i : Invocation) (r : Register) : String :=
  match i.report.getD .terminal with
  | .terminal =>
    Report.terminal { verbose := i.verbosity > 0, quiet := i.quiet, colors := place.colors }
      i.inputPath r
  | .json => r.jsonReport
  | .csv => r.summary

/-- The message about the number of components to resolve; none in a quiet run. -/
def countMessage (place : Surroundings) (i : Invocation) (count : Nat) : String :=
  if i.quiet then ""
  else "  " ++ paint place.colors [.cyan] "→" ++ " " ++ toString count ++ " content ids\n"

/-- The lines of the log that are shown. -/
def logText (i : Invocation) (log : List Event) : String :=
  String.join ((log.filter fun e => i.logLevel ≤ e.level.rank).map fun e => e.line ++ "\n")

/-- What is said at the end of a resolution before anything is reported. -/
def outcomeMessage (place : Surroundings) (outcome : Outcome) : String :=
  match outcome.message? with
  | none => ""
  | some message => paint place.colors [.bold, .red] "error:" ++ " " ++ message ++ "\n"

/-- What is said after the report: what needs review, unless the resolution was cut short. -/
def closingMessage {σ : Type u} (place : Surroundings) (i : Invocation) (r : Resolution σ) :
    String :=
  match r.outcome with
  | .complete => if i.quiet then "" else reviewMessage place.colors r.register.needsReview
  | .unavailable _ _ => ""

/-- The exit code of a resolution whose reports could be written. -/
def exitCodeOf {σ : Type u} (r : Resolution σ) : Nat :=
  match r.outcome with
  | .complete => if r.register.needsReview.isEmpty then 0 else 1
  | .unavailable _ _ => 2

/-- Reports a resolution, where `messages` is what has been said before it. -/
def conclude {σ : Type u} (place : Surroundings) (i : Invocation) (messages : String)
    (r : Resolution σ) : Session :=
  let messages := messages ++ logText i r.log ++ outcomeMessage place r.outcome
  let output := report place i r.register
  match i.summary with
  | some path =>
    if place.isWritable path then
      { exitCode := exitCodeOf r, output, messages := messages ++ closingMessage place i r
        summary := some (path, r.register.summary) }
    else { failed messages ("cannot write summary " ++ path) with output }
  | none =>
    { exitCode := exitCodeOf r, output, messages := messages ++ closingMessage place i r }

/-- Carries out an invocation, and returns the world after it. -/
def run {σ : Type u} (place : Surroundings) (transport : Transport σ) (i : Invocation)
    (world : σ) : Session × σ :=
  match Settings.load place.files place.project place.home i.config with
  | .error e => (failed "" e.message, world)
  | .ok configured =>
    let settings := i.override configured
    match readList place i.inputPath with
    | .error message => (failed "" message, world)
    | .ok ids =>
      let messages := countMessage place i ids.length
      match settings.providers transport with
      | .error e => (failed messages e.message, world)
      | .ok providers =>
        match resolve providers settings.options ids world with
        | .error e => (failed messages e.message, world)
        | .ok r => (conclude place i messages r, r.world)

/-- Grants a wish. -/
def grant {σ : Type u} (place : Surroundings) (transport : Transport σ) (wish : Wish) (world : σ) :
    Session × σ :=
  match wish with
  | .run i => run place transport i world
  | .version => ({ exitCode := 0, output := versionLine, messages := "" }, world)
  | .help => ({ exitCode := 0, output := usage, messages := "" }, world)
  | .misuse => ({ exitCode := misuseCode, output := "", messages := usage }, world)

end Session

end Clearance
