import UtxoCodec.Pattern.Basic

/-!
# Matching patterns

For a pattern and each position of a text, the ends of its matches from there on are listed in the
order of preference. A pattern matches a text whose end is the preferred one from the start: if a
match is found earlier that is preferred to every longer one, the rest of the text is not matched.
-/

namespace UtxoCodec

/-- Whether a character belongs to a word. -/
def isWordChar (c : Option Char) : Bool := c.any NamedClass.word.contains

/-- Whether a condition holds between what stands in front of a position and what stands behind it. -/
def Boundary.holds (before behind : Option Char) : Boundary → Bool
  | textStart => before.isNone
  | textEnd => behind.isNone
  | lineStart false => before.all (· = '\n')
  | lineStart true => before.all fun c => c = '\n' || (c = '\r' && behind ≠ some '\n')
  | lineEnd false => behind.all (· = '\n')
  | lineEnd true => behind.all fun c => c = '\r' || (c = '\n' && before ≠ some '\r')
  | wordEdge isNegated => (isWordChar before != isWordChar behind) ^^ isNegated
  | wordStart => !isWordChar before && isWordChar behind
  | wordEnd => isWordChar before && !isWordChar behind

namespace Pattern

/-- For each position of a text from a first one on the ends of matches, the preferred ones first. -/
abbrev Ends := List (List Nat)

/-- The ends of one repetition after the other, at least one. A repetition of nothing is the last. -/
def Ends.repeated (manyFirst : Bool) (once : Ends) : Ends :=
  once.zipIdx.foldr
    (fun (ends, start) later =>
      let onwards (stop : Nat) : List Nat :=
        if stop ≤ start then [stop]
        else
          let more := later.getD (stop - start - 1) []
          if manyFirst then more ++ [stop] else stop :: more
      (ends.flatMap onwards).eraseDups :: later)
    []

/-- The ends of one or no repetition. -/
def Ends.optional (manyFirst : Bool) (once : Ends) : Ends :=
  once.zipIdx.map fun (ends, start) =>
    (if manyFirst then ends ++ [start] else start :: ends).eraseDups

/-- The ends of two matches, one behind the other. -/
def Ends.append (first second : Ends) : Ends :=
  first.map fun ends => (ends.flatMap fun stop => second.getD stop []).eraseDups

/-- The ends of two alternatives. -/
def Ends.orElse (first second : Ends) : Ends :=
  first.zipWith (fun ends others => (ends ++ others).eraseDups) second

/-- The ends of matches of one character with a property. -/
def Ends.ofChar (text : List Char) (has : Char → Bool) : Ends :=
  text.zipIdx.map (fun (c, start) => if has c then [start + 1] else []) ++ [[]]

/-- The ends of matches of nothing at the positions with a property. -/
def Ends.ofBoundary (text : List Char) (holds : Option Char → Option Char → Bool) : Ends :=
  (List.range (text.length + 1)).map fun start =>
    let before := if start = 0 then none else text[start - 1]?
    if holds before text[start]? then [start] else []

mutual

/-- The ends of the matches of a pattern at each position of a text. -/
def ends (text : List Char) : Pattern → Ends
  | .empty => .ofBoundary text fun _ _ => true
  | .char c anyCase => .ofChar text fun d => d = c || (anyCase && otherCase d = c)
  | .charExcept exceptions => .ofChar text fun d => !exceptions.contains d
  | .named kind => .ofChar text kind.contains
  | .set s anyCase => .ofChar text fun d => s.contains anyCase d
  | .boundary b => .ofBoundary text fun before behind => b.holds before behind
  | .group content => content.ends text
  | .repeated content times manyFirst =>
    let once := content.ends text
    match times with
    | .atMostOnce => once.optional manyFirst
    | .anyTimes => (once.repeated manyFirst).optional manyFirst
    | .atLeastOnce => once.repeated manyFirst
  | .sequence parts => endsOfAll text parts
  | .choice branches => endsOfAny text branches

/-- The ends of the matches of patterns one behind the other. -/
def endsOfAll (text : List Char) : List Pattern → Ends
  | [] => .ofBoundary text fun _ _ => true
  | p :: rest => (p.ends text).append (endsOfAll text rest)

/-- The ends of the matches of alternatives. -/
def endsOfAny (text : List Char) : List Pattern → Ends
  | [] => .ofBoundary text fun _ _ => false
  | p :: rest => (p.ends text).orElse (endsOfAny text rest)

end

/-- Whether a pattern matches the whole of a text. -/
def matchesText (p : Pattern) (text : List Char) : Bool :=
  (p.ends text).head?.bind List.head? = some text.length

end Pattern

end UtxoCodec
