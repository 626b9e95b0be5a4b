import CopyFormat.CommandLine.Run
import CopyFormat.Settings.Path
import Std.Time.Zoned

/-!
The program: it reads the settings file and the clock, runs the command line, and prints what
comes of it.
-/

namespace CopyFormat.Main

/-- The present moment, and the milliseconds since the start of 1970. -/
def clock : IO (Date.Moment × Int) := do
  let t ← Std.Time.DateTime.now
  let since := t.timestamp.val
  let moment :=
    Date.Moment.ofTimestamp since.second.val since.nano.val.toNat t.timezone.offset.second.val
  return (moment, since.second.val * 1000 + since.nano.val / 1000000)

/-- What there is in place of a file. -/
def readFile (path : String) : IO SettingsFile := do
  try return .text (← IO.FS.readFile path).toList
  catch
    | .noFileOrDirectory .. => return .absent
    | _ => return .unusable

/-- Writes a file, below directories that need not be there yet. -/
def writeFile (path : String) (t : Text) : IO Unit := do
  match Text.lastIndex? '/' path.toList with
  | some i => if 0 < i then IO.FS.createDirAll (String.ofList (path.toList.take i))
  | none => pure ()
  IO.FS.writeFile path (String.ofList t)

/-- Writes what a run has left of a file, if that has changed. -/
def save (path : String) (before after : SettingsFile) : IO Unit :=
  match after.text? with
  | some t => if before.text? = some t then pure () else writeFile path t
  | none => pure ()

/-- The name of the program: that of its file in lower case, without an extension. -/
def programName : IO Text := do
  let name := (← IO.appPath).fileStem.getD "copytab"
  return Text.replaceAll (Text.lower name.toList) (Text.lit ".exe") []

/-- The values of variables in the environment. -/
def environment (names : List String) : IO (List (Text × Text)) := do
  let found ← names.mapM fun n => do
    return (← IO.getEnv n).map fun v => (n.toList, v.toList)
  return found.filterMap id

end CopyFormat.Main

open CopyFormat in
/-- Runs the command line. A file that cannot be written is treated as one that cannot be used. -/
def main (args : List String) : IO UInt32 := do
  let (now, milliseconds) ← Main.clock
  let env ← Main.environment ["COPYTAB_CONFIG", "XDG_CONFIG_HOME", "HOME", "USERPROFILE"]
  let path := Settings.path fun name => env.lookup name
  let surroundings : CommandLine.Surroundings :=
    { program := ← Main.programName
      path
      now
      freshId := Text.ofNat milliseconds.toNat }
  let before ← Main.readFile (String.ofList path)
  let words := args.map String.toList
  let out := CommandLine.run surroundings before words
  let out ←
    try
      Main.save (String.ofList path) before out.file
      pure out
    catch _ => pure (CommandLine.run surroundings .unusable words)
  (← IO.getStderr).putStr (String.ofList out.errors)
  (← IO.getStdout).putStr (String.ofList out.output)
  return UInt32.ofNat out.exit
