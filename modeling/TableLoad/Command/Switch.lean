/-! # Commands and switches

The commands of the program and the switches that each of them takes, in the order of help.
-/
namespace TableLoad

inductive Switch where
  | verbose
  | help
  | version
  | schema
  | dialect
  | output
  | batchSize
  | fillDefaults
  | strict
  | jobs
  | dryRun
  | format
  | settings
  | json
  deriving DecidableEq, Repr

namespace Switch

/-- The name after two hyphens. -/
def long : Switch → String
  | verbose => "verbose"
  | help => "help"
  | version => "version"
  | schema => "schema"
  | dialect => "dialect"
  | output => "output"
  | batchSize => "batch-size"
  | fillDefaults => "fill-defaults"
  | strict => "strict"
  | jobs => "jobs"
  | dryRun => "dry-run"
  | format => "format"
  | settings => "config"
  | json => "json"

def short? : Switch → Option Char
  | verbose => some 'v'
  | help => some 'h'
  | version => some 'V'
  | schema => some 's'
  | dialect => some 'd'
  | output => some 'o'
  | jobs => some 'j'
  | format => some 'f'
  | _ => none

/-- The name of the value, of a switch that takes one. -/
def value? : Switch → Option String
  | schema => some "SCHEMA"
  | dialect => some "DIALECTS"
  | output => some "OUTPUT"
  | batchSize => some "BATCH_SIZE"
  | jobs => some "JOBS"
  | format => some "FORMAT"
  | settings => some "CONFIG"
  | _ => none

/-- Whether a command line may hold the switch any number of times. -/
def repeats : Switch → Bool
  | dialect => true
  | _ => false

def purpose : Switch → String
  | verbose => "Verbose logging (RUST_LOG takes precedence)"
  | help => "Print help"
  | version => "Print version"
  | schema => "CREATE TABLE file (the built-in cadastro table when omitted)"
  | dialect => "Target dialect, repeatable (default: all)"
  | output => "Output directory"
  | batchSize => "Rows per INSERT statement"
  | fillDefaults => "Replace NULLs with column defaults before validating"
  | strict => "Exit with an error when any validation issue is found"
  | jobs => "Parallel workers for cleaning and validation"
  | dryRun => "Don't write files, just report"
  | format => "Report format [default: table] [possible values: table, json]"
  | settings => "Configuration file"
  | json => "Print the schema as JSON"

end Switch

inductive Command where
  | convert
  | schema
  | dialects
  | help
  deriving DecidableEq, Repr

namespace Command

def all : List Command := [convert, schema, dialects, help]

def name : Command → String
  | convert => "convert"
  | schema => "schema"
  | dialects => "dialects"
  | help => "help"

def ofName? (name : String) : Option Command := all.find? fun c => c.name == name

def switches : Command → List Switch
  | convert => [.schema, .verbose, .dialect, .output, .batchSize, .fillDefaults, .strict, .jobs,
      .dryRun, .format, .settings, .help]
  | schema => [.json, .verbose, .help]
  | dialects => [.verbose, .help]
  | help => []

def purpose : Command → String
  | convert => "Convert a JSON row file into one SQL script per dialect"
  | schema => "Parse a CREATE TABLE file and show the resulting schema"
  | dialects => "List supported dialects"
  | help => "Print this message or the help of the given subcommand(s)"

/-- The operand of a command: how usage shows it, and what it is. -/
def operand? : Command → Option (String × String)
  | convert =>
    some ("<ROWS>", "JSON file: an array of arrays, or an array of objects keyed by column")
  | schema => some ("[FILE]", "DDL file (the built-in cadastro table when omitted)")
  | dialects => none
  | help => some ("[COMMAND]...", "Print help for the subcommand(s)")

end Command

/-- The switches before any command. -/
def commonSwitches : List Switch := [.verbose, .help, .version]

end TableLoad
