import UtxoCodec.Service

/-!
# The program

Runs the service on the files, the environment and the streams of the process. The input is answered
while it is read.
-/

namespace UtxoCodec.Service

/-- The text of a file, if it can be read. -/
def readFile? (path : String) : IO (Option String) := do
  try return some (← IO.FS.readFile path) catch _ => return none

/-- The environment of the process as far as a file and the arguments ask for it. -/
def processEnvironment (environmentFile : Option String) : IO Environment := do
  let names :=
    logVariable :: Arguments.variableNames ++ Environment.mentionedNames (environmentFile.getD "")
  let entries ← names.eraseDups.filterMapM fun name => do
    return (← IO.getEnv name).map fun value => (name, value)
  return ⟨entries⟩

/-- What a process does with the entries of its log. -/
abbrev Logger := LogEntry → IO Unit

/-- Writes the entries that a filter lets through to the error stream. -/
def logger (filter : LogFilter) : Logger := fun entry => do
  if filter.showsError entry.source then IO.eprintln s!"ERROR {entry.text}"

/-- Ends because of an error. -/
def fail (log : Logger) (e : StartError) : IO UInt32 := do
  log (.notStarted e)
  return successCode.toUInt32

/-- Answers the lines of a stream until it ends. -/
partial def serve (log : Logger) (h : Handler) (input output : IO.FS.Stream) : IO UInt32 := do
  let line? ← try pure (some (← input.getLine)) catch _ => pure none
  let some line := line? | fail log .unreadableInput
  if line.isEmpty then return successCode.toUInt32
  match answerLine h 0 line.toList with
  | .skipped => serve log h input output
  | .aborted operation =>
    log (.aborted operation)
    return abortCode.toUInt32
  | .answered response next =>
    output.putStrLn (outputLine response)
    output.flush
    serve log next input output

/-- The stream of a file, if it can be opened. -/
def openFile? (path : String) : IO (Option IO.FS.Stream) := do
  try return some (.ofHandle (← IO.FS.Handle.mk path .read)) catch _ => return none

/-- Serves with a handler. -/
def serveInput (log : Logger) (h : Handler) (a : Arguments) : IO UInt32 := do
  let input? ← match a.input with
    | none => pure (some (← IO.getStdin))
    | some path => openFile? path
  match input? with
  | some input => serve log h input (← IO.getStdout)
  | none => fail log .unreadableInput

end UtxoCodec.Service

open UtxoCodec Service in
/-- Runs the service with arguments. -/
def main (arguments : List String) : IO UInt32 := do
  let environmentFile ← readFile? ".env"
  let some (env, filter) := prepare? (← processEnvironment environmentFile) environmentFile
    | return abortCode.toUInt32
  match Arguments.ofCommandLine env arguments with
  | .error .usage => return usageCode.toUInt32
  | .error .information => return successCode.toUInt32
  | .ok a =>
    match ← (start readFile? a).run with
    | .error e => fail (logger filter) e
    | .ok h => serveInput (logger filter) h a
