import TableLoad.Command.Switch
import TableLoad.Text.Padding

/-! # Help

What the program prints about itself and its commands.
-/
namespace TableLoad
open Text

def programName : String := "sheet2sql"

def versionLine : String := programName ++ " 0.1.0\n"

def programPurpose : String :=
  "Convert spreadsheet rows into MySQL, PostgreSQL, SQLite and SQL Server scripts"

/-- The variable that can hold the path of the settings. -/
def settingsVariable : String := "SHEET2SQL_CONFIG"

def Switch.shown (s : Switch) : String :=
  (match s.short? with
    | some c => "-" ++ c.toString ++ ", "
    | none => blanks 4) ++ "--" ++ s.long ++
    (match s.value? with
      | some value => " <" ++ value ++ ">"
      | none => "")

def helpList (title : String) (rows : List (String × String)) : String :=
  let width := rows.foldl (fun w (shown, _) => max w shown.length) 0
  title ++ ":\n" ++
    String.join (rows.map fun (shown, purpose) => s!"  {padRight width shown}  {purpose}\n")

/-- The list of switches. `configured?` is the path of the settings in the environment. -/
def switchList (configured? : Option String) (switches : List Switch) : String :=
  helpList "Options" (switches.map fun s =>
    let value := configured?.getD ""
    (s.shown, s.purpose ++
      if s == .settings then s!" [env: {settingsVariable}={value}]" else ""))

def Command.description (c : Command) (configured? : Option String) : String :=
  let words := [programName, c.name] ++ (if c.switches.isEmpty then [] else ["[OPTIONS]"]) ++
    (c.operand?.map Prod.fst).toList
  "\n".intercalate ([
    c.purpose ++ "\n",
    "Usage: " ++ " ".intercalate words ++ "\n"] ++
    (c.operand?.map fun operand => helpList "Arguments" [operand]).toList ++
    if c.switches.isEmpty then [] else [switchList configured? c.switches])

def programHelp : String :=
  "\n".intercalate [
    programPurpose ++ "\n",
    s!"Usage: {programName} [OPTIONS] <COMMAND>\n",
    helpList "Commands" (Command.all.map fun c => (c.name, c.purpose)),
    switchList none commonSwitches,
    "EXAMPLES:\n" ++ String.join ([
      "convert clientes.json",
      "convert clientes.json --schema clientes.sql -d mysql -d sqlserver",
      "schema clientes.sql --json",
      "dialects"].map fun line => s!"    {programName} {line}\n")]

end TableLoad
