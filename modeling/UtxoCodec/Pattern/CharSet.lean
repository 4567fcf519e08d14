/-!
# Sets of characters

What stands in the square brackets of a pattern: ranges, classes of ASCII that have a name, sets in
brackets of their own, and the operations on sets.
-/

namespace UtxoCodec

/-- The classes of ASCII characters that have a name. -/
inductive NamedClass where
  | alnum
  | alpha
  | ascii
  | blank
  | cntrl
  | digit
  | graph
  | lower
  | print
  | punct
  | space
  | upper
  | word
  | xdigit

namespace NamedClass

/-- The class with a name. -/
def ofName? : String → Option NamedClass
  | "alnum" => some alnum
  | "alpha" => some alpha
  | "ascii" => some ascii
  | "blank" => some blank
  | "cntrl" => some cntrl
  | "digit" => some digit
  | "graph" => some graph
  | "lower" => some lower
  | "print" => some print
  | "punct" => some punct
  | "space" => some space
  | "upper" => some upper
  | "word" => some word
  | "xdigit" => some xdigit
  | _ => none

/-- Whether a character belongs to a class. -/
def contains (c : Char) : NamedClass → Bool
  | alnum => c.isAlphanum
  | alpha => c.isAlpha
  | ascii => c.toNat < 0x80
  | blank => c = ' ' || c = '\t'
  | cntrl => c.toNat < 0x20 || c.toNat = 0x7f
  | digit => c.isDigit
  | graph => 0x20 < c.toNat && c.toNat < 0x7f
  | lower => c.isLower
  | print => 0x20 ≤ c.toNat && c.toNat < 0x7f
  | punct => 0x20 < c.toNat && c.toNat < 0x7f && !c.isAlphanum
  | space => c = ' ' || (9 ≤ c.toNat && c.toNat ≤ 13)
  | upper => c.isUpper
  | word => c.isAlphanum || c = '_'
  | xdigit => c.isDigit || ('a' ≤ c && c ≤ 'f') || ('A' ≤ c && c ≤ 'F')

end NamedClass

/-- An operation on two sets. -/
inductive SetOperation where
  | intersection
  | difference
  | symmetricDifference

/-- Whether the outcome of an operation has a member that the first or the second set has. -/
def SetOperation.holds : SetOperation → Bool → Bool → Bool
  | intersection, a, b => a && b
  | difference, a, b => a && !b
  | symmetricDifference, a, b => a ^^ b

/-- A set of characters. -/
inductive CharSet where
  | range (first last : Char)
  | named (kind : NamedClass) (isNegated : Bool)
  | union (items : List CharSet)
  | bracketed (isNegated : Bool) (content : CharSet)
  | operation (kind : SetOperation) (left right : CharSet)

/-- The other case of a letter of ASCII. -/
def otherCase (c : Char) : Char := if c.isUpper then c.toLower else c.toUpper

namespace CharSet

/-- The set with the items given, most recent first. -/
def ofItems : List CharSet → CharSet
  | [item] => item
  | items => .union items.reverse

mutual

/-- Whether a character belongs to a set; with `anyCase` it does if its other case does. -/
def contains (anyCase : Bool) (c : Char) : CharSet → Bool
  | .range first last =>
    let has (c : Char) : Bool := first ≤ c && c ≤ last
    has c || (anyCase && has (otherCase c))
  | .named kind isNegated =>
    let has (c : Char) : Bool := kind.contains c ^^ isNegated
    has c || (anyCase && has (otherCase c))
  | .union items => anyContains anyCase c items
  | .bracketed isNegated content => content.contains anyCase c ^^ isNegated
  | .operation kind left right => kind.holds (left.contains anyCase c) (right.contains anyCase c)

/-- Whether a character belongs to one of several sets. -/
def anyContains (anyCase : Bool) (c : Char) : List CharSet → Bool
  | [] => false
  | item :: rest => item.contains anyCase c || anyContains anyCase c rest

end

mutual

/-- How deep sets are nested in a set. -/
def depth : CharSet → Nat
  | .range _ _ | .named _ _ | .union [] => 0
  | .union items => maxDepth items + 1
  | .bracketed _ content => content.depth + 1
  | .operation _ left right => max left.depth right.depth + 1

/-- How deep sets are nested in several sets. -/
def maxDepth : List CharSet → Nat
  | [] => 0
  | item :: rest => max item.depth (maxDepth rest)

end

end CharSet

end UtxoCodec
