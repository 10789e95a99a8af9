import Clearance.Session

/-!
# Command line

Looks at the files that an invocation names, runs the session, and prints and writes what it leads
to. This build has no network, so every request to a service fails.
-/

set_option autoImplicit false

namespace Clearance

/-- Everything that is left in a stream. -/
partial def readAll (stream : IO.FS.Stream) (read : ByteArray) : IO ByteArray := do
  let more ← stream.read 65536
  if more.isEmpty then return read else readAll stream (read ++ more)

/-- What stands at a path. What is there but cannot be read counts as a directory. -/
def lookAt (path : String) : IO (Option PathEntry) := do
  try
    return some (.file (← IO.FS.readBinFile path).toList)
  catch
    | .noFileOrDirectory .. => return none
    | _ => return some .directory

/-- What stands at the paths that an invocation may read. -/
def look (project : String) (home : Option String) (i : Invocation) : IO Files := do
  let paths := i.inputPath :: (i.config.toList ++ Settings.usualFiles project home)
  let found ← paths.mapM fun path => return (path, ← lookAt path)
  return fun path => (found.lookup path).join

/-- Writes the summary of a session, and says if that was possible. -/
def writeSummary (s : Session) : IO Bool := do
  match s.summary with
  | none => return true
  | some (path, text) =>
    try
      IO.FS.writeFile path text
      return true
    catch _ => return false

/-- Carries out a wish, and returns what it leads to. -/
def carryOut (wish : Wish) : IO Session := do
  let project := (← IO.currentDir).toString
  let home ← IO.getEnv "HOME"
  let files ← match wish with
    | .run i => look project home i
    | _ => pure fun _ => none
  let standardInput ← match wish with
    | .run i =>
      if i.inputPath = Invocation.standardInput then
        readAll (← IO.getStdin) ByteArray.empty
      else pure ByteArray.empty
    | _ => pure ByteArray.empty
  let colors := (← (← IO.getStdout).isTty) && (← IO.getEnv "NO_COLOR").isNone
  let place : Surroundings :=
    { files, project, home, standardInput := standardInput.toList
      isWritable := fun _ => true, colors }
  let session := (Session.grant place Transport.unreachable wish ()).1
  if ← writeSummary session then return session
  else
    let denied := { place with isWritable := fun _ => false }
    return (Session.grant denied Transport.unreachable wish ()).1

end Clearance

/-- Runs the program with the arguments of the command line. -/
def main (arguments : List String) : IO UInt32 := do
  let session ← Clearance.carryOut (Clearance.Invocation.read arguments)
  (← IO.getStderr).putStr session.messages
  (← IO.getStdout).putStr session.output
  return UInt32.ofNat session.exitCode
