import UtxoCodec.Message
import UtxoCodec.Service.LogFilter

/-!
# Errors that are logged

An entry of the log says in one text what went wrong. Controls that a terminal would obey are shown as
escapes. A filter sees the part of the program that logs an entry, and the span of the operation that is
carried out.
-/

namespace UtxoCodec.Service

/-- Why a service does not start. -/
inductive StartError where
  | unreadableConfig (path : String)
  | invalidConfig
  | unreadableParameters (path : String)
  | invalidParameters (path : String) (error : JsonError)
  | unreadableInput
  deriving DecidableEq

/-- The text of an error, without what the system says about it. -/
def StartError.message : StartError → String
  | unreadableConfig path => s!"failed to read config at '{path}'"
  | invalidConfig => "toml deserialization failed"
  | unreadableParameters path => s!"failed to read protocol parameters at '{path}'"
  | invalidParameters path _ => s!"invalid protocol parameters in '{path}'"
  | unreadableInput => "failed to read input"

/-- What stands in the log for a character. -/
def visibleChar (c : Char) : String :=
  match c with
  | '\x07' => "\\x07"
  | '\x08' => "\\x08"
  | '\x0c' => "\\x0c"
  | '\x1b' => "\\x1b"
  | '\x7f' => "\\x7f"
  | c =>
    if 0x80 ≤ c.toNat ∧ c.toNat ≤ 0x9f then
      "\\u\x7b" ++ String.ofList (Nat.toDigits 16 c.toNat) ++ "\x7d"
    else c.toString

/-- What stands in the log for a text. -/
def visibleText (text : String) : String := String.join (text.toList.map visibleChar)

/-- An error in the log. -/
inductive LogEntry where
  | notStarted (error : StartError)
  /-- A message has no answer. The operation is known if the message could be read. -/
  | aborted (operation : Option Operation)
  deriving DecidableEq

/-- The text of an entry. -/
def LogEntry.text : LogEntry → String
  | notStarted error => visibleText error.message
  | aborted _ => "a message has no answer"

/-- The span in which an operation is carried out. -/
def operationSpan (operation : Operation) : LogSpan where
  target := "stardust_codec::message_interface::handler".toList
  name := "handle".toList
  fields := [("operation".toList, operation.name.toList)]
  level := .debug

/-- Where an entry is logged. -/
def LogEntry.source (entry : LogEntry) : LogSource where
  target := "stardust_codec".toList
  fields := ["message".toList]
  span := match entry with
    | notStarted _ => none
    | aborted operation => operation.map operationSpan

end UtxoCodec.Service
