import Std.Time.Zoned
import TableLoad.Command.Run

/-! # The program

Commands run on the disk, at the time of the clock.
-/
namespace TableLoad.Program
open Calendar

def faultOf : IO.Error → FileFault
  | .noFileOrDirectory .. => .notFound
  | .alreadyExists .. => .taken
  | .inappropriateType _ code details =>
    if code = 20 then .notFolder else if code = 21 then .isFolder else .other details
  | e => .other (toString e)

/-- An operation on the disk with its fault as a result. -/
def guarded {α : Type} (operation : IO α) : IO (Except FileFault α) := do
  match ← operation.toBaseIO with
  | .ok a => return .ok a
  | .error e => return .error (faultOf e)

/-- The text of a file, which must be UTF-8. -/
def readText (path : String) : IO (Except FileFault String) := do
  match ← guarded (IO.FS.readBinFile path) with
  | .error fault => return .error fault
  | .ok bytes =>
    match String.fromUTF8? bytes with
    | some text => return .ok text
    | none => return .error .notText

def isPresent (path : String) : IO Bool := do
  match ← guarded (IO.FS.Handle.mk path .read) with
  | .error .notFound | .error .notFolder => return false
  | _ => return true

def disk : Files IO where
  isPresent := isPresent
  read := readText
  makeFolder path :=
    if path.isEmpty then return .ok () else guarded (IO.FS.createDirAll path)
  write path text := guarded (IO.FS.writeFile path text)

def momentOf? (t : Std.Time.PlainDateTime) : Option Moment := do
  let date ← Date.ofFields? t.date.year.toInt t.date.month.toNat t.date.day.toNat
  let time ← Time.ofFields? t.time.hour.toNat t.time.minute.toNat t.time.second.toNat
    t.time.nanosecond.toNat
  return ⟨date, time⟩

/-- The folder for settings of the user, if the environment tells it. -/
def settingsFolder? : IO (Option String) := do
  match ← IO.getEnv "XDG_CONFIG_HOME", ← IO.getEnv "HOME" with
  | some folder, home? =>
    if folder.startsWith "/" then return some folder
    else return home?.map (Path.join · ".config")
  | none, home? => return home?.map (Path.join · ".config")

def surroundings : IO Surroundings := do
  match momentOf? (← Std.Time.PlainDateTime.now) with
  | none => throw (IO.userError "the clock shows no time of the calendar")
  | some now =>
    return {
      configured? := ← IO.getEnv settingsVariable
      userSettings? := (← settingsFolder?).map (Path.join · "sheet2sql/config.toml")
      now
      stamp := now.text }

end TableLoad.Program

open TableLoad in
def main (arguments : List String) : IO UInt32 := do
  let outcome ← runArguments Program.disk (← Program.surroundings) arguments
  IO.print outcome.output
  IO.eprint outcome.errors
  return outcome.exitCode.toUInt32
