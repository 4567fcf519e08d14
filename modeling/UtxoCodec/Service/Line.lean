import UtxoCodec.Handler
import UtxoCodec.Json.Printer
import UtxoCodec.Text.Blank

/-!
# Answering lines

Each line of the input that is not blank is a message in JSON and gives one line of output: the
response as compact JSON. A line that is not JSON is answered too. The output ends early at a line
that has no answer.
-/

namespace UtxoCodec.Service

/-- What becomes of a line. -/
inductive LineOutcome where
  /-- The line is blank. -/
  | skipped
  | answered (response : Response) (next : Handler)
  | aborted (operation : Option Operation)

/-- The outcome of a line; `choice` says which entry a full map gives up. -/
def answerLine (h : Handler) (choice : Nat) (line : List Char) : LineOutcome :=
  if Text.isBlank line then .skipped
  else
    let outcome := match Json.parse? (String.ofList line) with
      | some j => h.answerJson choice j
      | none => .answered (Handler.malformed .notJson) h
    match outcome with
    | .answered response next => .answered response next
    | .aborted operation => .aborted operation

/-- The line of output for a response. -/
def outputLine (response : Response) : String := (Wire.toJson response).text

/-- How answering ends. -/
inductive Ending where
  /-- Every line that is not blank has an answer. -/
  | complete
  | aborted (operation : Option Operation)
  deriving DecidableEq

/-- The output for lines, and how it ends. -/
def answerLines (h : Handler) : List (List Char) → List String × Ending
  | [] => ([], .complete)
  | line :: rest =>
    match answerLine h 0 line with
    | .skipped => answerLines h rest
    | .answered response next =>
      let (lines, ending) := answerLines next rest
      (outputLine response :: lines, ending)
    | .aborted operation => ([], .aborted operation)

/-- The output for a text. -/
def answerText (h : Handler) (text : String) : List String × Ending :=
  answerLines h (Text.lines text.toList)

end UtxoCodec.Service
