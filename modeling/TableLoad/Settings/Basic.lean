import TableLoad.Settings.Toml
import TableLoad.Conversion

/-! # Settings

What a settings file can choose, and the options of a conversion that follow from it.  Everything
has a default, and what is not known is passed over.
-/
namespace TableLoad
open Sql

inductive SettingsError where
  /-- The text is not TOML, or a value has the wrong type. -/
  | unreadable
  | fileNotFound (path : String)
  | batchSize
  | noDialects
  | dialect (error : GenerateError)
  deriving DecidableEq, Repr

namespace SettingsError

/-- The message without the words that all errors of settings start with. -/
def detail : SettingsError → String
  | unreadable => "invalid TOML"
  | fileNotFound path => s!"config file not found: {path}"
  | batchSize => "batch_size must be at least 1"
  | noDialects => "no dialects selected"
  | dialect error => error.message

def message : SettingsError → String
  | dialect error => error.message
  | error => "Configuration error: " ++ error.detail

end SettingsError

structure Settings where
  /-- The names of the dialects, as written. -/
  dialects : List String := Dialect.all.map Dialect.slug
  batchSize : Nat := defaultBatchSize
  nullPolicy : NullPolicy := .strict
  /-- Any issue counts as a failure. -/
  strict : Bool := false
  /-- How many workers share the rows. -/
  jobs : Nat := 1
  outputFolder : String := "./sheet2sql_output"
  deriving DecidableEq, Repr

def NullPolicy.name : NullPolicy → String
  | strict => "strict"
  | applyDefaults => "apply_defaults"

namespace Settings

def asString : Toml → Option String
  | .string s => some s
  | _ => none

def asNat : Toml → Option Nat
  | .integer i => if 0 ≤ i then some i.toNat else none
  | _ => none

def asBoolean : Toml → Option Bool
  | .boolean b => some b
  | _ => none

def asStrings : Toml → Option (List String)
  | .array items => items.mapM asString
  | _ => none

def isEmpty : Toml → Bool
  | .array items => items.isEmpty
  | .table _ members => members.isEmpty
  | .tables items => items.isEmpty
  | _ => false

def policy? (name : String) : Option NullPolicy :=
  [NullPolicy.strict, .applyDefaults].find? fun policy => policy.name == name

/-- A policy is its name, or a table with the name as its only key and nothing under it. -/
def asPolicy : Toml → Option NullPolicy
  | .string name => policy? name
  | .table _ [(name, content)] => if isEmpty content then policy? name else none
  | _ => none

/-- The value of a member, or the default where there is none. -/
def choice {α : Type} (part : Nat → String → Option Toml) (place : Nat) (key : String)
    (read : Toml → Option α) (default : α) : Option α :=
  match part place key with
  | some v => read v
  | none => some default

/-- The parts of a section: by key in a table, by place in a list. -/
def sectionPart? : Toml → Option (Nat → String → Option Toml)
  | .table _ members => some fun _ key => members.lookup key
  | .array items => some fun place _ => items[place]?
  | .tables items => some fun place _ => items.reverse[place]?.map (.table .header)
  | _ => none

def ofSection? (v : Toml) : Option Settings := do
  let part ← sectionPart? v
  let plain : Settings := {}
  return {
    dialects := ← choice part 0 "dialects" asStrings plain.dialects
    batchSize := ← choice part 1 "batch_size" asNat plain.batchSize
    nullPolicy := ← choice part 2 "null_policy" asPolicy plain.nullPolicy
    strict := ← choice part 3 "strict" asBoolean plain.strict
    jobs := ← choice part 4 "jobs" asNat plain.jobs
    outputFolder := ← choice part 5 "output_dir" asString plain.outputFolder }

/-- The settings of a document: its `convert` section, or the defaults without one. -/
def ofDocument? (document : Toml) : Option Settings :=
  match document.member? "convert" with
  | some v => ofSection? v
  | none => some {}

def parse (text : String) : Except SettingsError Settings :=
  match (Toml.parse? text).bind ofDocument? with
  | some settings => .ok settings
  | none => .error .unreadable

/-- The dialects selected, each once. -/
def selectedDialects : List String → Except SettingsError (List Dialect)
  | [] => .ok []
  | name :: rest =>
    match Dialect.ofName name with
    | .error error => .error (.dialect error)
    | .ok d =>
      match selectedDialects rest with
      | .error error => .error error
      | .ok ds => .ok (d :: ds.filter (· != d))

def options (s : Settings) : Except SettingsError Options :=
  if s.batchSize = 0 then .error .batchSize
  else match selectedDialects s.dialects with
    | .error error => .error error
    | .ok [] => .error .noDialects
    | .ok dialects =>
      .ok { dialects, batchSize := s.batchSize, nullPolicy := s.nullPolicy }

end Settings

end TableLoad
