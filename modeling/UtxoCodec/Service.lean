import UtxoCodec.Environment.File
import UtxoCodec.Service.Arguments
import UtxoCodec.Service.Config
import UtxoCodec.Service.Line
import UtxoCodec.Service.LogEntry
import UtxoCodec.Service.LogFilter

/-!
# The service

A run reads the environment file, the arguments, the configuration, the protocol parameters and the
input, in this order, and answers the input line by line. What is wrong on the way is logged, and
nothing is answered then. Files are read by an action that the caller supplies; a file that cannot be
read has no text. A variable of the environment filters the log; if it gives no filter, the program
ends before it reads the arguments.
-/

namespace UtxoCodec.Service

variable {m : Type → Type} [Monad m]

/-- The configuration that arguments lead to. -/
def readConfig (readFile : String → m (Option String)) (a : Arguments) :
    ExceptT StartError m Config := do
  let config ← match a.config with
    | none => pure Config.default
    | some path =>
      let some text ← readFile path | throw (.unreadableConfig path)
      let some config := Config.ofText? text | throw .invalidConfig
      pure config
  return ⟨a.protocolParameters <|> config.parametersPath,
    a.cacheCapacity.getD config.cacheCapacity⟩

/-- The protocol parameters of a configuration. -/
def readParameters (readFile : String → m (Option String)) (config : Config) :
    ExceptT StartError m ProtocolParameters :=
  match config.parametersPath with
  | none => pure .shimmer
  | some path => do
    let some text ← readFile path | throw (.unreadableParameters path)
    match ProtocolParameters.ofText text with
    | .ok parameters => pure parameters
    | .error e => throw (.invalidParameters path e)

/-- The handler that arguments lead to. -/
def start (readFile : String → m (Option String)) (a : Arguments) :
    ExceptT StartError m Handler := do
  let config ← readConfig readFile a
  return .start (← readParameters readFile config) config.cacheCapacity

/-! ## Runs -/

/-- The code of a program that ends in the ordinary way. -/
def successCode : Nat := 0

/-- The code for wrong arguments. -/
def usageCode : Nat := 2

/-- The code for an environment file or a filter without outcome, or a line without answer. -/
def abortCode : Nat := 101

/-- What a run of the program shows. -/
structure Report where
  exitCode : Nat
  lines : List String
  errors : List LogEntry
  deriving DecidableEq

/-- The variable that filters the log. -/
def logVariable : String := "RUST_LOG"

/-- The filter of an environment. -/
def logFilter? (env : Environment) : Option LogFilter :=
  LogFilter.ofText? ((env.get? logVariable).getD "")

/-- The environment with the assignments of the environment file, if there is one. -/
def fullEnvironment? (env : Environment) (environmentFile : Option String) : Option Environment :=
  match environmentFile with
  | some text => env.takeFile? text
  | none => some env

/-- Answers the input of a service that has started. -/
def Report.ofInput (h : Handler) (input : Option String) : Report :=
  match input with
  | none => ⟨successCode, [], [.notStarted .unreadableInput]⟩
  | some text =>
    match answerText h text with
    | (lines, .complete) => ⟨successCode, lines, []⟩
    | (lines, .aborted operation) => ⟨abortCode, lines, [.aborted operation]⟩

/-- A run with given files, environment, arguments and standard input, everything being logged. -/
def runLogged (files : String → Option String) (env : Environment) (arguments : List String)
    (standardInput : String) : Report :=
  match Arguments.ofCommandLine env arguments with
  | .error .usage => ⟨usageCode, [], []⟩
  | .error .information => ⟨successCode, [], []⟩
  | .ok a =>
    let started : Except StartError Handler := Id.run (start (m := Id) files a).run
    match started with
    | .error e => ⟨successCode, [], [.notStarted e]⟩
    | .ok h =>
      .ofInput h (match a.input with
        | some path => files path
        | none => some standardInput)

/-- The environment and the filter of a run, if both have an outcome. -/
def prepare? (env : Environment) (environmentFile : Option String) :
    Option (Environment × LogFilter) := do
  let env ← fullEnvironment? env environmentFile
  return (env, ← logFilter? env)

/-- A run with given files, environment, arguments and standard input. -/
def run (files : String → Option String) (env : Environment) (arguments : List String)
    (standardInput : String) : Report :=
  match prepare? env (files ".env") with
  | none => ⟨abortCode, [], []⟩
  | some (env, filter) =>
    let report := runLogged files env arguments standardInput
    { report with errors := report.errors.filter fun entry => filter.showsError entry.source }

end UtxoCodec.Service
