import UtxoCodec.Pattern.Basic
import UtxoCodec.Text.Alphanumeric
import UtxoCodec.Text.Blank

/-!
# Reading patterns

A pattern is read from left to right under flags, which hold up to the end of the group that sets them.
What stands for characters beyond ASCII through a table is refused: classes by property, letters in
either case, and the edges of words, unless the flag `u` is off. With that flag off, what could match a
part of a character is refused. A pattern stands between braces itself, so it has no counts in braces;
it has no references to groups either.

Groups and sets nest. Reading them is bounded by the number of characters, since each call takes one.
-/

namespace UtxoCodec.Pattern

/-- What flags say about the rest of a group. -/
structure Flags where
  /-- Letters match in either case. -/
  anyCase : Bool := false
  /-- The ends of lines match like those of the text. -/
  multiLine : Bool := false
  dotMatchesNewline : Bool := false
  /-- Repetitions try few times first. -/
  fewFirst : Bool := false
  unicode : Bool := true
  /-- A carriage return ends a line. -/
  hasReturns : Bool := false
  /-- Blanks and comments between the parts of a pattern mean nothing. -/
  skipsBlanks : Bool := false

/-- Sets the flag with a letter. -/
def Flags.set? (f : Flags) (letter : Char) (value : Bool) : Option Flags :=
  match letter with
  | 'i' => some { f with anyCase := value }
  | 'm' => some { f with multiLine := value }
  | 's' => some { f with dotMatchesNewline := value }
  | 'U' => some { f with fewFirst := value }
  | 'u' => some { f with unicode := value }
  | 'R' => some { f with hasReturns := value }
  | 'x' => some { f with skipsBlanks := value }
  | _ => none

/-- A text that is being read. -/
structure Source where
  rest : List Char
  flags : Flags := {}
  /-- The names of groups so far. -/
  names : List (List Char) := []

/-- A reader of patterns. -/
abbrev Reader := StateT Source Option

namespace Reader

/-- Refuses the text. -/
def refuse {α : Type} : Reader α := fun _ => none

/-- Refuses the text unless a condition holds. -/
def require (condition : Bool) : Reader Unit := do
  unless condition do refuse

/-- The value of an option, refusing the text if there is none. -/
def ofOption {α : Type} (a : Option α) : Reader α := fun s => a.map (·, s)

/-- The flags in force. -/
def flags : Reader Flags := return (← get).flags

/-- The rest of the text. -/
def rest : Reader (List Char) := return (← get).rest

/-- Goes on with another rest. -/
def setRest (cs : List Char) : Reader Unit := modify fun s => { s with rest := cs }

/-- Takes a character. -/
def next : Reader Char := do
  match ← rest with
  | c :: cs =>
    setRest cs
    return c
  | [] => refuse

/-- Takes a character if it is the given one. -/
def eat (c : Char) : Reader Bool := do
  match ← rest with
  | d :: cs =>
    if d = c then
      setRest cs
      return true
    else return false
  | [] => return false

/-- What follows blanks and comments. A comment reaches from a number sign to the end of the line. -/
def behindBlanks (isComment : Bool) : List Char → List Char
  | [] => []
  | c :: rest =>
    if isComment then behindBlanks (c ≠ '\n') rest
    else if c = '#' then behindBlanks true rest
    else if Text.isBlankChar c then behindBlanks false rest
    else c :: rest

/-- Passes over blanks and comments, if the flags say so. -/
def skipBlanks : Reader Unit := do
  if (← flags).skipsBlanks then setRest (behindBlanks false (← rest))

/-! ## Escapes -/

/-- What a backslash and the characters behind it stand for. -/
inductive Escape where
  /-- With `isByte` written as a byte. -/
  | char (c : Char) (isByte : Bool)
  | named (kind : NamedClass) (isNegated : Bool)
  | boundary (b : Boundary)

/-- The value of a hexadecimal digit. -/
def hexDigit? (c : Char) : Option Nat :=
  if c.isDigit then some (c.toNat - '0'.toNat)
  else if NamedClass.xdigit.contains c then some (c.toLower.toNat - 'a'.toNat + 10)
  else none

/-- Takes hexadecimal digits, and blanks behind each. -/
def hexDigits : (count : Nat) → (value : Nat) → Reader Nat
  | 0, value => return value
  | count + 1, value => do
    let digit ← ofOption (hexDigit? (← next))
    skipBlanks
    hexDigits count (16 * value + digit)

/-- Takes a character by its number in hexadecimal digits. -/
def charByNumber (digits : Nat) : Reader Char := do
  skipBlanks
  let n ← hexDigits digits 0
  require (n.isValidChar)
  return Char.ofNat n

/-- Takes what follows a backslash. -/
def escape : Reader Escape := do
  match ← next with
  | 'x' => return .char (← charByNumber 2) true
  | 'u' => return .char (← charByNumber 4) false
  | 'U' => return .char (← charByNumber 8) false
  | 'd' => return .named .digit false
  | 'D' => return .named .digit true
  | 's' => return .named .space false
  | 'S' => return .named .space true
  | 'w' => return .named .word false
  | 'W' => return .named .word true
  | 'a' => return .char '\x07' false
  | 'f' => return .char '\x0c' false
  | 't' => return .char '\t' false
  | 'n' => return .char '\n' false
  | 'r' => return .char '\r' false
  | 'v' => return .char '\x0b' false
  | 'A' => return .boundary .textStart
  | 'z' => return .boundary .textEnd
  | 'b' => return .boundary (.wordEdge false)
  | 'B' => return .boundary (.wordEdge true)
  | '<' => return .boundary .wordStart
  | '>' => return .boundary .wordEnd
  | c =>
    require (c.toNat < 0x80 && !c.isAlphanum)
    return .char c false

/-! ## Sets -/

/-- A named class in brackets and colons behind an opening bracket, and what follows it. -/
def namedClass? (cs : List Char) : Option (NamedClass × Bool × List Char) :=
  match cs with
  | ':' :: cs =>
    let (isNegated, cs) := match cs with
      | '^' :: rest => (true, rest)
      | rest => (false, rest)
    match cs.span (· ≠ ':') with
    | (name, ':' :: ']' :: rest) =>
      (NamedClass.ofName? (String.ofList name)).map fun kind => (kind, isNegated, rest)
    | _ => none
  | _ => none

/-- Refuses sets of letters in either case that go beyond ASCII. -/
def requireCase : Reader Unit := do
  let f ← flags
  require !(f.unicode && f.anyCase)

/-- A character as a member of a set. -/
def member (c : Char) : Reader Char := do
  requireCase
  require ((← flags).unicode || c.toNat < 0x80)
  return c

/-- A class as a part of a set. -/
def classMember (kind : NamedClass) (isNegated : Bool) : Reader CharSet := do
  requireCase
  require ((← flags).unicode || !isNegated)
  return .named kind isNegated

/-- The first character behind the next one that is neither blank nor the beginning of a comment. -/
def charBehind? (f : Flags) (cs : List Char) : Option Char :=
  let cs := cs.drop 1
  if f.skipsBlanks then
    let dropBlanks (cs : List Char) : List Char := cs.dropWhile Text.isBlankChar
    let found := match dropBlanks cs with
      | '#' :: rest => dropBlanks rest
      | rest => rest
    found.head? <|> cs.head?
  else cs.head?

/-- Whether a hyphen in front of a rest joins the ends of a range: it stands neither at the end of the
set nor in front of another hyphen. -/
def isRangeSign (f : Flags) (cs : List Char) : Bool :=
  cs.head? = some '-' && charBehind? f cs ≠ some ']' && charBehind? f cs ≠ some '-'

/-- Takes an end of a range that begins with a character. -/
def rangeEnd (c : Char) : Reader Escape := do
  if c = '\\' then escape else return .char c false

/-- Takes a character, a class or a range that begins with a character. -/
def setItem (c : Char) : Reader CharSet := do
  let first ← rangeEnd c
  skipBlanks
  if isRangeSign (← flags) (← rest) then
    let _ ← next
    skipBlanks
    match first, ← rangeEnd (← next) with
    | .char first _, .char last _ =>
      require (first ≤ last)
      return .range (← member first) (← member last)
    | _, _ => refuse
  else match first with
    | .char c _ => return .range (← member c) c
    | .named kind isNegated => do
      require !(← flags).unicode
      classMember kind isNegated
    | .boundary _ => refuse

/-- Takes hyphens. At most `bound` are taken. -/
def hyphens : (bound : Nat) → Reader (List CharSet)
  | 0 => return []
  | bound + 1 => do
    if ← eat '-' then
      let hyphen := .range (← member '-') '-'
      skipBlanks
      return hyphen :: (← hyphens bound)
    else return []

/-- Takes the beginning of a set behind its bracket: whether it is negated, and the hyphens or the
closing bracket that are members there. -/
def setStart : Reader (Bool × List CharSet) := do
  skipBlanks
  let isNegated ← eat '^'
  require ((← flags).unicode || !isNegated)
  if isNegated then skipBlanks
  let items ← hyphens (← rest).length
  if items.isEmpty then
    if ← eat ']' then
      let item := .range (← member ']') ']'
      skipBlanks
      return (isNegated, [item])
  return (isNegated, items)

/-- The operation that a doubled character stands for. -/
def operation? : Char → Option SetOperation
  | '&' => some .intersection
  | '-' => some .difference
  | '~' => some .symmetricDifference
  | _ => none

/-- Joins the set on the left, if there is one, with the items of the set on the right. -/
def joinItems (left : Option (CharSet × SetOperation)) (items : List CharSet) : CharSet :=
  match left with
  | some (left, kind) => .operation kind left (.ofItems items)
  | none => .ofItems items

/-- Takes the content of a set and its end. Operations are carried out from left to right. -/
def setContent : (bound : Nat) → (left : Option (CharSet × SetOperation)) →
    (items : List CharSet) → Reader CharSet
  | 0, _, _ => refuse
  | bound + 1, left, items => do
    skipBlanks
    let c ← next
    if c = ']' then return joinItems left items
    else if c = '[' then
      match namedClass? (← rest) with
      | some (kind, isNegated, behind) =>
        setRest behind
        let item ← classMember kind isNegated
        setContent bound left (item :: items)
      | none =>
        let (isNegated, first) ← setStart
        let content ← setContent bound none first
        setContent bound left (.bracketed isNegated content :: items)
    else
      let kind? ← match operation? c with
        | some kind => if ← eat c then pure (some kind) else pure none
        | none => pure none
      match kind? with
      | some kind => setContent bound (some (joinItems left items, kind)) []
      | none =>
        let item ← setItem c
        setContent bound left (item :: items)

/-- Takes a set behind its bracket. -/
def bracketedSet : Reader Pattern := do
  let (isNegated, first) ← setStart
  let content ← setContent ((← rest).length + 1) none first
  return .set (.bracketed isNegated content) (← flags).anyCase

/-! ## Parts -/

/-- A character as a part. -/
def char (c : Char) (isByte : Bool) : Reader Pattern := do
  requireCase
  let f ← flags
  require (f.unicode || !isByte || c.toNat < 0x80)
  return .char c f.anyCase

/-- Takes a part that is neither a group nor a repetition and begins with a character. -/
def part (c : Char) : Reader Pattern := do
  let f ← flags
  match c with
  | '\\' =>
    match ← escape with
    | .char c isByte => char c isByte
    | .named kind isNegated =>
      require (!f.unicode && !isNegated)
      return .named kind
    | .boundary .textStart => return .boundary .textStart
    | .boundary .textEnd => return .boundary .textEnd
    | .boundary b =>
      require !f.unicode
      return .boundary b
  | '.' =>
    require f.unicode
    return .charExcept
      (if f.dotMatchesNewline then [] else if f.hasReturns then ['\r', '\n'] else ['\n'])
  | '^' => return .boundary (if f.multiLine then .lineStart f.hasReturns else .textStart)
  | '$' => return .boundary (if f.multiLine then .lineEnd f.hasReturns else .textEnd)
  | '[' => bracketedSet
  | '{' => refuse
  | c => char c false

/-- The repetition that a character stands for. -/
def repetition? : Char → Option Repetition
  | '?' => some .atMostOnce
  | '*' => some .anyTimes
  | '+' => some .atLeastOnce
  | _ => none

/-- Repeats the most recent one of several parts. Flags cannot be repeated. -/
def repeatLast (times : Repetition) (parts : List Pattern) : Reader (List Pattern) := do
  let isReluctant ← eat '?'
  let manyFirst := isReluctant == (← flags).fewFirst
  match parts with
  | [] | .empty :: _ => refuse
  | part :: parts => return .repeated part times manyFirst :: parts

/-! ## Groups -/

/-- What the beginning of a group says. -/
inductive GroupStart where
  /-- There is no group, but flags are set for the rest of the one around. -/
  | flagsOnly
  /-- A group, with its own flags. -/
  | content (flags : Flags)

/-- Reads flags up to the colon or bracket behind them: the flags and the character behind them. No
letter may stand twice, and a hyphen, behind which flags are turned off, must have a letter behind it. -/
def readFlags (seen : List Char) (value : Bool) (f : Flags) :
    List Char → Option (Flags × Char × List Char)
  | [] => none
  | c :: rest =>
    if c = ':' ∨ c = ')' then
      if seen.head? = some '-' ∨ (c = ')' ∧ seen.isEmpty) then none else some (f, c, rest)
    else if seen.contains c then none
    else if c = '-' then readFlags (c :: seen) false f rest
    else (f.set? c value).bind fun f => readFlags (c :: seen) value f rest

/-- Whether characters are the name of a group. -/
def isGroupName : List Char → Bool
  | [] => false
  | c :: rest =>
    (c = '_' || Text.isAlphabetic c) &&
      rest.all fun c => ['_', '.', '[', ']'].contains c || Text.isAlphanumeric c

/-- Takes the name of a group and the sign behind it. -/
def groupName (cs : List Char) : Reader Unit := do
  match cs.span (· ≠ '>') with
  | (name, '>' :: behind) =>
    require (isGroupName name && !(← get).names.contains name)
    modify fun s => { s with rest := behind, names := name :: s.names }
  | _ => refuse

/-- Takes the beginning of a group behind its bracket. -/
def groupStart : Reader GroupStart := do
  skipBlanks
  let f ← flags
  match ← rest with
  | '?' :: 'P' :: '<' :: cs | '?' :: '<' :: cs =>
    groupName cs
    return .content f
  | '?' :: cs =>
    let (inner, c, behind) ← ofOption (readFlags [] true f cs)
    setRest behind
    if c = ')' then
      modify fun s => { s with flags := inner }
      return .flagsOnly
    else return .content inner
  | _ => return .content f

/-- Takes the alternatives of a group up to its end, which is not taken. The branches and parts are
those so far, most recent first. -/
def content : (bound : Nat) → (branches parts : List Pattern) → Reader Pattern
  | 0, _, _ => refuse
  | bound + 1, branches, parts => do
    skipBlanks
    match ← rest with
    | [] | ')' :: _ => return ofBranches (ofParts parts :: branches)
    | c :: cs =>
      setRest cs
      if c = '|' then content bound (ofParts parts :: branches) []
      else if c = '(' then
        match ← groupStart with
        | .flagsOnly => content bound branches (.empty :: parts)
        | .content inner =>
          let outer ← flags
          modify fun s => { s with flags := inner }
          let p ← content bound [] []
          require (← eat ')')
          modify fun s => { s with flags := outer }
          content bound branches (.group p :: parts)
      else match repetition? c with
        | some times => content bound branches (← repeatLast times parts)
        | none => content bound branches ((← part c) :: parts)

end Reader

/-- How deep a pattern may be nested. -/
def depthLimit : Nat := 250

/-- The pattern that a text spells. -/
def ofChars? (cs : List Char) : Option Pattern :=
  match (Reader.content (cs.length + 1) [] []).run { rest := cs } with
  | some (p, { rest := [], .. }) => if p.depth ≤ depthLimit then some p else none
  | _ => none

end UtxoCodec.Pattern
