import UtxoCodec.Environment
import UtxoCodec.Text.Numeral

/-!
# Command line arguments

Every argument is an option with a value: behind an equals sign, as the next argument, or, for options
of one letter, attached. A value that is the next argument does not begin with a hyphen, unless it is
a hyphen alone. No option is repeated. Some options can also be given by variables of the environment;
the command line comes first.
-/

namespace UtxoCodec.Service

/-- What the command line asks for. -/
structure Arguments where
  /-- The configuration file. -/
  config : Option String := none
  /-- The file to read messages from instead of the standard input. -/
  input : Option String := none
  /-- The file with the protocol parameters. -/
  protocolParameters : Option String := none
  /-- The number of derived identifiers to remember. -/
  cacheCapacity : Option Nat := none
  deriving DecidableEq

/-- The options. -/
inductive Setting where
  | config
  | input
  | protocolParameters
  | cacheCapacity
  deriving DecidableEq

/-- Why arguments do not lead to a service. -/
inductive Stop where
  /-- They are wrong. -/
  | usage
  /-- They ask for a description of the program. -/
  | information
  deriving DecidableEq

namespace Setting

/-- The option with a name of several letters. -/
def ofName? (name : String) : Option Setting :=
  match name with
  | "config" => some config
  | "input" => some input
  | "protocol-parameters" => some protocolParameters
  | "cache-capacity" => some cacheCapacity
  | _ => none

/-- The option with a name of one letter. -/
def ofLetter? (letter : Char) : Option Setting :=
  match letter with
  | 'c' => some config
  | 'i' => some input
  | _ => none

end Setting

/-- Reads a capacity. -/
def readCapacity? (text : String) : Option Nat := Text.unsigned64? text.toList

namespace Arguments

/-- Gives an option a value, unless it has one or the value does not fit. -/
def set? (a : Arguments) (setting : Setting) (value : String) : Option Arguments :=
  match setting with
  | .config => if a.config.isSome then none else some { a with config := some value }
  | .input => if a.input.isSome then none else some { a with input := some value }
  | .protocolParameters =>
    if a.protocolParameters.isSome then none else some { a with protocolParameters := some value }
  | .cacheCapacity =>
    if a.cacheCapacity.isSome then none
    else (readCapacity? value).map fun n => { a with cacheCapacity := some n }

/-- Whether an argument can be the value of the one in front. -/
def isValue (argument : String) : Bool :=
  argument == "-" || argument.toList.head? ≠ some '-'

/-- What an argument says. -/
inductive Reading where
  | option (setting : Setting) (value : Option String)
  | information
  | endOfOptions
  | unexpected

/-- Reads an argument. -/
def readArgument (argument : String) : Reading :=
  match argument.toList with
  | ['-', '-'] => .endOfOptions
  | '-' :: '-' :: cs =>
    let (name, attached) := cs.span (· ≠ '=')
    let value := if attached.isEmpty then none else some (String.ofList (attached.drop 1))
    match Setting.ofName? (String.ofList name), String.ofList name, value with
    | some setting, _, value => .option setting value
    | none, "help", none | none, "version", none => .information
    | none, _, _ => .unexpected
  | '-' :: letter :: attached =>
    if letter = 'h' ∨ letter = 'V' then .information
    else match Setting.ofLetter? letter with
      | none => .unexpected
      | some setting =>
        match attached with
        | [] => .option setting none
        | '=' :: value => .option setting (some (String.ofList value))
        | value => .option setting (some (String.ofList value))
  | _ => .unexpected

/-- Reads arguments behind those that gave `a`. -/
def read (a : Arguments) : List String → Except Stop Arguments
  | [] => .ok a
  | argument :: rest =>
    match readArgument argument with
    | .unexpected => .error .usage
    | .information => .error .information
    | .endOfOptions => if rest.isEmpty then .ok a else .error .usage
    | .option setting (some value) =>
      match a.set? setting value with
      | some a => read a rest
      | none => .error .usage
    | .option setting none =>
      match rest with
      | [] => .error .usage
      | value :: rest =>
        if isValue value then
          match a.set? setting value with
          | some a => read a rest
          | none => .error .usage
        else .error .usage

/-- The variables that stand for options. -/
def variableNames : List String := ["CONFIG_PATH", "PROTOCOL_PARAMETERS_PATH", "CACHE_CAPACITY"]

/-- Takes options that were not given from the environment. -/
def withEnvironment (a : Arguments) (env : Environment) : Except Stop Arguments := do
  let cacheCapacity ← match a.cacheCapacity, env.get? "CACHE_CAPACITY" with
    | none, some text => match readCapacity? text with
      | some n => .ok (some n)
      | none => .error .usage
    | given, _ => .ok given
  return { a with
    config := a.config <|> env.get? "CONFIG_PATH"
    protocolParameters := a.protocolParameters <|> env.get? "PROTOCOL_PARAMETERS_PATH"
    cacheCapacity }

/-- The arguments of a command line in an environment. -/
def ofCommandLine (env : Environment) (arguments : List String) : Except Stop Arguments := do
  (← read {} arguments).withEnvironment env

end Arguments

end UtxoCodec.Service
