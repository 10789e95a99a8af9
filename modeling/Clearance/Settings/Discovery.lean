import Clearance.Settings.Document

/-!
# Where settings come from

Settings are read from the first of these places that is there: the file that was asked for, the
project's own file, the file of the user. Without any of them all settings have their usual values.
A file that was asked for must be there, and whatever is found must be readable and valid.
-/

set_option autoImplicit false

namespace Clearance

/-- What stands at a path. -/
inductive PathEntry where
  | file (bytes : List UInt8)
  | directory

/-- The files that a run can see: what stands at each path, if anything does. -/
abbrev Files := String → Option PathEntry

namespace Files

/-- Something stands at a path. -/
def isThere (files : Files) (path : String) : Bool := (files path).isSome

/-- The text of the file at a path, if there is a file and its bytes are UTF-8. -/
def text? (files : Files) (path : String) : Option String :=
  match files path with
  | some (.file bytes) => Text.ofUtf8? bytes
  | _ => none

end Files

/-- Why there are no settings. -/
inductive SettingsError where
  | unreadable (path : String)
  /-- The file is no settings document, or its settings are refused. -/
  | invalid (path : String) (cause : Option InvalidArgument)
  deriving DecidableEq, Repr

namespace SettingsError

/-- The message, without the cause. -/
def message : SettingsError → String
  | unreadable path => "cannot read config " ++ path
  | invalid path _ => "invalid config " ++ path

/-- The message that the cause has of its own, where it has one. -/
def cause? : SettingsError → Option String
  | unreadable _ => none
  | invalid _ cause => cause.map (·.message)

end SettingsError

namespace Settings

/-- The settings in the file at a path. -/
def readFile (files : Files) (path : String) : Except SettingsError Settings :=
  match files.text? path with
  | none => .error (.unreadable path)
  | some document =>
    match ofDocument? document with
    | none => .error (.invalid path none)
    | some s =>
      match s.refusal? with
      | some refusal => .error (.invalid path (some refusal))
      | none => .ok s

/-- The settings file of a project. -/
def projectFile (project : String) : String := project ++ "/.license-resolver/config.toml"

/-- The settings file of a user. -/
def userFile (home : String) : String := home ++ "/.config/license-resolver/config.toml"

/-- The places where settings can be without being asked for. -/
def usualFiles (project : String) (home : Option String) : List String :=
  projectFile project :: (home.map userFile).toList

/-- The settings for a run in a project directory, perhaps from a file that was asked for. -/
def load (files : Files) (project : String) (home : Option String) (wanted : Option String) :
    Except SettingsError Settings :=
  match wanted.or ((usualFiles project home).find? files.isThere) with
  | some path => readFile files path
  | none => .ok {}

end Settings

end Clearance
