import UtxoCodec.Pattern.CharSet

/-!
# Patterns

A pattern describes texts. Alternatives stand in the order in which they are preferred, and so do the
numbers of times that something is repeated: many first, or few first.
-/

namespace UtxoCodec

/-- A condition on a position of a text. -/
inductive Boundary where
  | textStart
  | textEnd
  /-- A line ends at a newline; with `hasReturns` also at a carriage return, and once at both. -/
  | lineStart (hasReturns : Bool)
  | lineEnd (hasReturns : Bool)
  /-- Between a character of a word and one that belongs to no word, or not there. -/
  | wordEdge (isNegated : Bool)
  | wordStart
  | wordEnd

/-- How often something is repeated. -/
inductive Repetition where
  | atMostOnce
  | anyTimes
  | atLeastOnce

/-- A pattern. -/
inductive Pattern where
  | empty
  /-- A character, and with `anyCase` its other case too. -/
  | char (c : Char) (anyCase : Bool)
  /-- Every character but a few. -/
  | charExcept (exceptions : List Char)
  | named (kind : NamedClass)
  | set (s : CharSet) (anyCase : Bool)
  | boundary (b : Boundary)
  | group (content : Pattern)
  | repeated (content : Pattern) (times : Repetition) (manyFirst : Bool)
  | sequence (parts : List Pattern)
  | choice (branches : List Pattern)

namespace Pattern

/-- The parts given, most recent first, one after the other. -/
def ofParts : List Pattern → Pattern
  | [] => .empty
  | [part] => part
  | parts => .sequence parts.reverse

/-- The branches given, most recent first, as alternatives. -/
def ofBranches : List Pattern → Pattern
  | [branch] => branch
  | branches => .choice branches.reverse

mutual

/-- How deep a pattern is nested. -/
def depth : Pattern → Nat
  | .empty | .char _ _ | .charExcept _ | .named _ | .boundary _ => 0
  | .set s _ => s.depth
  | .group content | .repeated content _ _ => content.depth + 1
  | .sequence parts => maxDepth parts + 1
  | .choice branches => maxDepth branches + 1

/-- How deep several patterns are nested. -/
def maxDepth : List Pattern → Nat
  | [] => 0
  | p :: rest => max p.depth (maxDepth rest)

end

end Pattern

end UtxoCodec
