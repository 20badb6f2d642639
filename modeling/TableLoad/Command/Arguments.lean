import TableLoad.Command.Switch
import TableLoad.Number.Numeral

/-! # Arguments

The arguments of a command line as a request.  Arguments are read from left to right: switches by
their long names or by letters, which may share a hyphen, and operands between them.  Two hyphens
end the switches.  A request for help counts as soon as it is reached.
-/
namespace TableLoad

inductive UsageError where
  | noCommand
  | unknownCommand (name : String)
  | unexpected (argument : String)
  | noValue (switch : Switch)
  | unwantedValue (switch : Switch)
  | badValue (switch : Switch) (value : String)
  | repeated (switch : Switch)
  | noOperand (shown : String)
  deriving DecidableEq, Repr

def UsageError.message : UsageError → String
  | noCommand => "a subcommand is required"
  | unknownCommand name => s!"unrecognized subcommand '{name}'"
  | unexpected argument => s!"unexpected argument '{argument}' found"
  | noValue switch => s!"a value is required for '--{switch.long}' but none was supplied"
  | unwantedValue switch => s!"unexpected value for '--{switch.long}'"
  | badValue switch value => s!"invalid value '{value}' for '--{switch.long}'"
  | repeated switch => s!"the argument '--{switch.long}' cannot be used multiple times"
  | noOperand shown => s!"the required argument {shown} was not provided"

inductive Piece where
  | flag (switch : Switch)
  | setting (switch : Switch) (value : String)
  | operand (text : String)
  deriving DecidableEq, Repr

/-- Whether an argument starts with a hyphen and does not stand for itself. -/
def isSwitchLike (argument : String) : Bool := argument.startsWith "-" && argument != "-"

/-- The pieces of one argument, and the switch whose value is the next argument. -/
abbrev Reading := Except UsageError (List Piece × Option Switch)

def readLong (switches : List Switch) (argument : String) (name : List Char)
    (value? : Option (List Char)) : Reading :=
  match switches.find? fun s => s.long.toList == name with
  | none => .error (.unexpected argument)
  | some s =>
    match s.value?, value? with
    | none, none => .ok ([.flag s], none)
    | none, some _ => .error (.unwantedValue s)
    | some _, none => .ok ([], some s)
    | some _, some value => .ok ([.setting s (String.ofList value)], none)

/-- Switches by their letters.  The rest of the argument is the value of a letter that takes one;
an equals sign before it does not count. -/
def readShort (switches : List Switch) (argument : String) : List Char → Reading
  | [] => .ok ([], none)
  | c :: rest =>
    match switches.find? fun s => s.short? == some c with
    | none => .error (.unexpected argument)
    | some .help => .ok ([.flag .help], none)
    | some .version => .ok ([.flag .version], none)
    | some s =>
      match s.value?, rest with
      | none, _ => (readShort switches argument rest).map fun (found, next) =>
        (.flag s :: found, next)
      | some _, [] => .ok ([], some s)
      | some _, '=' :: value => .ok ([.setting s (String.ofList value)], none)
      | some _, value => .ok ([.setting s (String.ofList value)], none)

def readSwitch (switches : List Switch) (argument : String) : Reading :=
  match argument.toList with
  | '-' :: '-' :: body =>
    match body.dropWhile (· != '=') with
    | _ :: value => readLong switches argument (body.takeWhile (· != '=')) (some value)
    | [] => readLong switches argument body none
  | _ :: letters => readShort switches argument letters
  | [] => .error (.unexpected argument)

/-- Whether pieces ask for help or the version, which ends the reading. -/
def endsReading (pieces : List Piece) : Bool :=
  pieces.any fun p => p == .flag .help || p == .flag .version

def readPieces (switches : List Switch) : List String → Except UsageError (List Piece)
  | [] => .ok []
  | argument :: rest =>
    if argument == "--" then .ok (rest.map .operand)
    else if !isSwitchLike argument then
      (readPieces switches rest).map (.operand argument :: ·)
    else match readSwitch switches argument with
      | .error e => .error e
      | .ok (found, none) =>
        if endsReading found then .ok found
        else (readPieces switches rest).map (found ++ ·)
      | .ok (found, some s) =>
        match rest with
        | [] => .error (.noValue s)
        | value :: rest =>
          if isSwitchLike value then .error (.noValue s)
          else (readPieces switches rest).map (found ++ .setting s value :: ·)

/-- How a conversion is reported. -/
inductive Format where
  | table
  | json
  deriving DecidableEq, Repr

structure ConvertRequest where
  rows : String
  schema? : Option String := none
  dialects : List String := []
  output? : Option String := none
  batchSize? : Option Nat := none
  fillDefaults : Bool := false
  strict : Bool := false
  jobs? : Option Nat := none
  /-- Nothing is written. -/
  dryRun : Bool := false
  format : Format := .table
  settings? : Option String := none
  deriving DecidableEq, Repr

inductive Request where
  | convert (request : ConvertRequest)
  | schema (file? : Option String) (asJson : Bool)
  | dialects
  /-- Help for a command, or for the program. -/
  | help (command? : Option Command)
  | version
  deriving DecidableEq, Repr

/-- The first switch that is given twice and may not be. -/
def repeated? : List Piece → Option Switch
  | [] => none
  | piece :: rest =>
    let again (s : Switch) : Bool := rest.any fun
      | .flag t | .setting t _ => t == s
      | .operand _ => false
    match piece with
    | .flag s | .setting s _ => if !s.repeats && again s then some s else repeated? rest
    | .operand _ => repeated? rest

/-- The value of a switch that takes a path, which is not empty. -/
def pathValue (s : Switch) (value : String) : Except UsageError String :=
  if value.isEmpty then .error (.noValue s) else .ok value

def countValue (s : Switch) (value : String) : Except UsageError Nat :=
  match Number.natBelow? (2 ^ 64) value.toList with
  | some n => .ok n
  | none => .error (.badValue s value)

def ConvertRequest.set (r : ConvertRequest) (s : Switch) (value : String) :
    Except UsageError ConvertRequest :=
  match s with
  | .schema => (pathValue s value).map fun v => { r with schema? := some v }
  | .output => (pathValue s value).map fun v => { r with output? := some v }
  | .settings => (pathValue s value).map fun v => { r with settings? := some v }
  | .batchSize => (countValue s value).map fun n => { r with batchSize? := some n }
  | .jobs => (countValue s value).map fun n => { r with jobs? := some n }
  | .dialect => .ok { r with dialects := r.dialects ++ [value] }
  | .format =>
    if value == "table" then .ok { r with format := .table }
    else if value == "json" then .ok { r with format := .json }
    else .error (.badValue s value)
  | _ => .error (.unwantedValue s)

def ConvertRequest.flag (r : ConvertRequest) (s : Switch) : ConvertRequest :=
  match s with
  | .fillDefaults => { r with fillDefaults := true }
  | .strict => { r with strict := true }
  | .dryRun => { r with dryRun := true }
  | _ => r

def ConvertRequest.ofPieces (r : ConvertRequest) : List Piece → Except UsageError ConvertRequest
  | [] => .ok r
  | .flag s :: rest => (r.flag s).ofPieces rest
  | .setting s value :: rest =>
    match r.set s value with
    | .error e => .error e
    | .ok r => r.ofPieces rest
  | .operand _ :: rest => r.ofPieces rest

def operands (pieces : List Piece) : List String :=
  pieces.filterMap fun
    | .operand text => some text
    | _ => none

/-- The single operand among pieces, if there is one; it is not empty. -/
def singleOperand? (shown : String) (pieces : List Piece) : Except UsageError (Option String) :=
  match operands pieces with
  | [] => .ok none
  | [text] => if text.isEmpty then .error (.noOperand shown) else .ok (some text)
  | _ :: extra :: _ => .error (.unexpected extra)

/-- A path from a setting, or else from the environment, where it must not be empty either. -/
def settingsPath (given? configured? : Option String) : Except UsageError (Option String) :=
  match given?, configured? with
  | some path, _ => .ok (some path)
  | none, some path => (pathValue .settings path).map some
  | none, none => .ok none

/-- The request of a command, from the pieces of its arguments. `configured?` is the path of the
settings in the environment. -/
def Command.request (c : Command) (configured? : Option String) (pieces : List Piece) :
    Except UsageError Request := do
  if let some s := repeated? pieces then throw (.repeated s)
  let shown := (c.operand?.map Prod.fst).getD ""
  match c with
  | .convert =>
    let file? ← singleOperand? shown pieces
    let request ← ConvertRequest.ofPieces { rows := file?.getD "" } pieces
    if endsReading pieces then return .help (some c)
    if file?.isNone then throw (.noOperand shown)
    return .convert { request with settings? := ← settingsPath request.settings? configured? }
  | .schema =>
    let file? ← singleOperand? shown pieces
    if endsReading pieces then return .help (some c)
    return .schema file? (pieces.contains (.flag .json))
  | .dialects =>
    if let extra :: _ := operands pieces then throw (.unexpected extra)
    if endsReading pieces then return .help (some c)
    return .dialects
  | .help =>
    match operands pieces with
    | [] => return .help none
    | [name] =>
      match Command.ofName? name with
      | some topic => return .help (some topic)
      | none => throw (.unknownCommand name)
    | _ :: extra :: _ => throw (.unknownCommand extra)

/-- The request of a whole command line. `verbose` says whether that switch was given before. -/
def Request.ofArguments (configured? : Option String) (verbose : Bool) :
    List String → Except UsageError Request
  | [] => .error .noCommand
  | argument :: rest =>
    if isSwitchLike argument then
      match readSwitch commonSwitches argument with
      | .error e => .error e
      | .ok (found, _) =>
        let asked := found.countP (· == .flag .verbose) + if verbose then 1 else 0
        if 1 < asked then .error (.repeated .verbose)
        else if found.contains (.flag .help) then .ok (.help none)
        else if found.contains (.flag .version) then .ok .version
        else Request.ofArguments configured? (asked == 1) rest
    else match Command.ofName? argument with
      | none => .error (.unknownCommand argument)
      | some .help => Command.help.request configured? (rest.map .operand)
      | some c =>
        match readPieces c.switches rest with
        | .error e => .error e
        | .ok pieces => c.request configured? pieces

end TableLoad
