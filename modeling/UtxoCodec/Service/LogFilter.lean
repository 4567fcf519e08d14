import UtxoCodec.Service.LogDirective

/-!
# Which errors are logged

A filter is a list of directives between commas. Malformed directives are passed over; a directive with
a cut inside a character leaves no filter. If there is no directive at all, errors are logged.

Of the directives without span and value that apply to an error the most specific one decides. An
error is logged too if it occurs in a span for which a directive with span or field logs errors. There
are spans only if enough is logged: as much as the level of the span says.
-/

namespace UtxoCodec.Service

/-- A span of the program: the part it belongs to, its name, the texts of its fields, and its level. -/
structure LogSpan where
  target : List Char
  name : List Char
  fields : List (List Char × List Char)
  level : LogLevel

/-- Where an error is logged: by a part of the program, with fields, and in a span or in none. -/
structure LogSource where
  target : List Char
  fields : List (List Char)
  span : Option LogSpan

/-- Whether a span has the field that is asked for. -/
def FieldTest.holdsIn (test : FieldTest) (span : LogSpan) : Bool :=
  match span.fields.lookup test.name, test.value with
  | some text, some value => value.matchesText text
  | some _, none => true
  | none, _ => false

namespace LogDirective

/-- Whether a directive is about the part of the program with a name. -/
def coversTarget (d : LogDirective) (target : List Char) : Bool :=
  (d.target.getD []).isPrefixOf target

/-- Whether a directive can decide about errors by themselves. -/
def isStatic (d : LogDirective) : Bool :=
  d.span.isNone && d.field.all fun test => test.value.isNone

/-- Whether a directive can decide about spans. -/
def isDynamic (d : LogDirective) : Bool := d.span.isSome || d.field.isSome

/-- Whether a directive applies to an error by itself. -/
def appliesTo (d : LogDirective) (source : LogSource) : Bool :=
  d.isStatic && d.coversTarget source.target &&
    d.field.all fun test => source.fields.contains test.name

/-- Whether a directive applies to a span. -/
def appliesIn (d : LogDirective) (span : LogSpan) : Bool :=
  d.isDynamic && d.coversTarget span.target && d.span.all (· = span.name) &&
    d.field.all (·.holdsIn span)

/-- What a directive is about. Of two directives about the same the later one counts. -/
def subject (d : LogDirective) :
    Option (List Char) × Option (List Char) × Option (List Char × Option (List Char)) :=
  (d.target, d.span, d.field.map FieldTest.key)

/-- How specific a directive is: by the length of the name that it gives, and then by its field. -/
def rank (d : LogDirective) : Nat :=
  2 * (match d.target with | some name => name.length + 1 | none => 0) +
    if d.field.isSome then 1 else 0

end LogDirective

/-- Directives that decide what is logged. -/
structure LogFilter where
  directives : List LogDirective

namespace LogFilter

/-- The filter of a text. -/
def ofText? (text : String) : Option LogFilter := do
  let directives ← (splitAtCommas text.toList).filterMapM fun part =>
    match LogDirective.ofChars part with
    | .ok d => some (some d)
    | .error .malformed => some none
    | .error .splitCharacter => none
  return ⟨directives⟩

/-- The directive that decides about an error by itself: the last one of the highest rank. -/
def deciding? (f : LogFilter) (source : LogSource) : Option LogDirective :=
  (f.directives.filter (·.appliesTo source)).foldl
    (fun best d => match best with
      | some b => if b.rank ≤ d.rank then some d else some b
      | none => some d)
    none

/-- The most that is logged anywhere. If there is a directive that asks for a value, there is no
bound, since values become known late. -/
def greatestLevel (f : LogFilter) : Nat :=
  if f.directives.any fun d => d.field.any fun test => test.value.isSome then
    LogLevel.trace.toNat
  else (f.directives.map fun d => d.level.toNat).foldr max 0

/-- The directives that no later one is about the same as. -/
def latest (f : LogFilter) : List LogDirective :=
  f.directives.foldr
    (fun d later => if later.any (·.subject = d.subject) then later else d :: later) []

/-- Whether errors in a span are logged because of it. -/
def showsErrorsIn (f : LogFilter) (span : LogSpan) : Bool :=
  span.level.toNat ≤ f.greatestLevel &&
    f.latest.any fun d => d.appliesIn span && d.level ≠ .off

/-- Whether an error is logged. -/
def showsError (f : LogFilter) (source : LogSource) : Bool :=
  f.directives.isEmpty || ((f.deciding? source).any fun d => d.level ≠ .off) ||
    source.span.any f.showsErrorsIn

end LogFilter

end UtxoCodec.Service
