import TableLoad.Command.Arguments
import TableLoad.Command.Files
import TableLoad.Command.Help
import TableLoad.Command.Listing
import TableLoad.Command.Path
import TableLoad.Json.Reader
import TableLoad.Record.Document
import TableLoad.Schema.Document
import TableLoad.Settings.Basic

/-! # Running commands

A request carried out on the files around it.  The operations on files are a parameter, so that a
command runs on a disk as well as on a tree of folders in memory.
-/
namespace TableLoad
open Calendar Sql

inductive CommandError where
  | settings (error : SettingsError)
  /-- The settings at a path have no meaning. -/
  | settingsText (path : String)
  | settingsFile (fault : FileFault)
  | schemaFile (path : String) (fault : FileFault)
  | ddl (error : Ddl.DdlError)
  | rowsFile (path : String) (fault : FileFault)
  | json (path : String) (error : Json.Error)
  | rows (path : String) (fault : RowsFault)
  | check (error : CheckError)
  | outputFolder (path : String) (fault : FileFault)
  | outputFile (path : String) (fault : FileFault)

/-- The causes in a row, the outermost first. -/
def CommandError.message : CommandError → String
  | settings error => error.message
  | settingsText path => s!"Configuration error: {path}: {SettingsError.unreadable.detail}"
  | settingsFile fault => s!"IO error: {fault.message}: {fault.message}"
  | schemaFile path fault => s!"reading schema {path}: {fault.message}"
  | ddl error => error.message
  | rowsFile path fault => s!"reading rows {path}: {fault.message}"
  | json path error => s!"parsing JSON in {path}: {error.message}"
  | rows path .notList => s!"{path}: {RowsFault.notList.message}"
  | rows _ fault => fault.message
  | check error => error.message
  | outputFolder path fault => s!"creating {path}: {fault.message}"
  | outputFile path fault => s!"writing {path}: {fault.message}"

/-- What a command finds around it besides files. -/
structure Surroundings where
  /-- The path of the settings in the environment. -/
  configured? : Option String := none
  /-- The path of the settings of the user. -/
  userSettings? : Option String := none
  /-- The time that defaults take. -/
  now : Moment
  stamp : String

/-- What a command leaves behind besides files. -/
structure Outcome where
  exitCode : Nat
  output : String
  errors : String
  deriving DecidableEq, Repr

def localSettings : String := "sheet2sql.toml"

section
variable {m : Type → Type} [Monad m] (files : Files m)

/-- A file operation inside a command, with the error that its failure is. -/
def attempt {α : Type} (blame : FileFault → CommandError) (operation : m (Except FileFault α)) :
    ExceptT CommandError m α :=
  ExceptT.mk (do return (← operation).mapError blame)

/-- A result inside a command, with the error that its failure is. -/
def orStop {ε α : Type} (blame : ε → CommandError) (result : Except ε α) :
    ExceptT CommandError m α :=
  ExceptT.mk (pure (result.mapError blame))

def readSettings (path : String) : ExceptT CommandError m Settings := do
  let text ← attempt .settingsFile (files.read path)
  match Settings.parse text with
  | .ok settings => return settings
  | .error .unreadable => throw (.settingsText path)
  | .error error => throw (.settings error)

/-- The settings in the first file that is there, or the defaults. -/
def findSettings : List String → ExceptT CommandError m Settings
  | [] => return {}
  | path :: rest => do
    if ← ExceptT.lift (files.isPresent path) then readSettings files path
    else findSettings rest

/-- The settings of a run: those of the chosen file, or those found. -/
def loadSettings (around : Surroundings) (chosen? : Option String) :
    ExceptT CommandError m Settings := do
  match chosen? with
  | some path =>
    if ← ExceptT.lift (files.isPresent path) then readSettings files path
    else throw (.settings (.fileNotFound path))
  | none => findSettings files (localSettings :: around.userSettings?.toList)

/-- Settings with the choices of the command line in their place. -/
def Settings.override (s : Settings) (r : ConvertRequest) : Settings where
  dialects := if r.dialects.isEmpty then s.dialects else r.dialects
  batchSize := r.batchSize?.getD s.batchSize
  nullPolicy := if r.fillDefaults then .applyDefaults else s.nullPolicy
  strict := r.strict || s.strict
  jobs := r.jobs?.getD s.jobs
  outputFolder := r.output?.getD s.outputFolder

/-- The schema in a file, or the one that is used when none is given. -/
def loadSchema : Option String → ExceptT CommandError m Schema
  | none => return Schema.cadastro
  | some path => do
    let text ← attempt (.schemaFile path) (files.read path)
    orStop .ddl (Ddl.parse text)

def loadRows (s : Schema) (path : String) : ExceptT CommandError m (List Row) := do
  let text ← attempt (.rowsFile path) (files.read path)
  let document ← orStop (.json path) (Json.parse text)
  orStop (.rows path) (s.rowsOfJson document)

/-- The rows converted, by several workers if the settings say so. -/
def Settings.convert (settings : Settings) (options : Options) (s : Schema) (now : Moment)
    (rows : List Row) : Except CheckError Conversion :=
  if 1 < settings.jobs then s.convertShared options now rows settings.jobs
  else s.convert options now rows

/-- The scripts written to a folder, each under the name of the rows and of its dialect. -/
def writeScripts (around : Surroundings) (folder source stem : String) :
    List Generated → ExceptT CommandError m Written
  | [] => return []
  | g :: rest => do
    let path := Path.join folder s!"{stem}_{g.dialect.slug}.sql"
    attempt (.outputFile path) (files.write path (g.script (some source) around.stamp))
    return (g.dialect, path) :: (← writeScripts around folder source stem rest)

/-- A conversion from files to files: the exit code and the report. -/
def runConvert (around : Surroundings) (r : ConvertRequest) :
    ExceptT CommandError m (Nat × String) := do
  let settings := (← loadSettings files around r.settings?).override r
  let options ← orStop .settings settings.options
  let s ← loadSchema files r.schema?
  let rows ← loadRows files s r.rows
  let conversion ← orStop .check (settings.convert options s around.now rows)
  let written ←
    if r.dryRun then pure []
    else do
      let folder := settings.outputFolder
      attempt (.outputFolder folder) (files.makeFolder folder)
      let stem := (Path.stem? r.rows).getD s.table
      writeScripts files around folder r.rows stem conversion.generated
  let failed := !conversion.failures.isEmpty || settings.strict && !conversion.report.isClean
  let shown := match r.format with
    | .table => conversion.table written
    | .json => [(conversion.toJson written).pretty]
  return (if failed then 1 else 0, lines shown)

/-- A request carried out: the exit code and what to print. -/
def runRequest (around : Surroundings) : Request → ExceptT CommandError m (Nat × String)
  | .convert r => runConvert files around r
  | .schema file? asJson => do
    let s ← loadSchema files file?
    return (0, lines [if asJson then s.toJson.pretty else s.summary])
  | .dialects => return (0, lines dialectTable)
  | .help (some c) => return (0, c.description around.configured?)
  | .help none => return (0, programHelp)
  | .version => return (0, versionLine)

def runArguments (around : Surroundings) (arguments : List String) : m Outcome := do
  match Request.ofArguments around.configured? false arguments with
  | .error e =>
    return ⟨2, "", s!"error: {e.message}\n"⟩
  | .ok request =>
    match ← (runRequest files around request).run with
    | .ok (exitCode, shown) => return ⟨exitCode, shown, ""⟩
    | .error e => return ⟨1, "", s!"Error: {e.message}\n"⟩

end

end TableLoad
