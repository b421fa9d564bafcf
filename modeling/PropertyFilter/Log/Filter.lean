import PropertyFilter.Log.Record
import PropertyFilter.Number.Digits
import PropertyFilter.Text.Alphabetic
import PropertyFilter.Text.Blank
import PropertyFilter.Text.DecimalDigit

/-!
  # Choosing what is logged

  A log filter is a list of directives separated by commas:

      info                   every source, up to that level
      source=debug           the sources whose name begins so
      source                 the same, up to the last level
      source[{field}]=debug  the same, but only records with that field
      off                    nothing

  Of the directives that fit a record the one with the longest name decides; of two
  with the same name the one with a field, and of two that are alike the later one. What
  cannot be read is left out, and a filter without any directive lets errors through.

  White space is part of a directive: no source begins with it or has it in its name, and
  no level is written with it.
-/

namespace PropertyFilter.Log

/-- What is logged of the sources whose names begin with `source`. -/
structure Directive where
  /-- every source if absent -/
  source : Option String := none
  /-- every record if absent, else those with a field of this name -/
  field : Option String := none
  /-- The rank of the last level that is logged; 0 for none. -/
  most : Nat
deriving DecidableEq, Repr

/-- The rank of a level by its name in any case or by its number. -/
def rankOf? (name : String) : Option Nat :=
  let cs := name.toList
  let ds := match cs with
    | '+' :: rest => rest
    | _ => cs
  if Digits.isRun ds then
    let n := Digits.ofDigits ds
    if n ≤ 5 then some n else none
  else
    ["off", "error", "warn", "info", "debug", "trace"].idxOf? (String.ofList (cs.map Char.toLower))

/-- May a directive begin with the character? -/
def startsDirective (c : Char) : Bool :=
  Text.isAlphabetic c || Text.isDecimalDigit c || c = '-' || c = ':' || c = '_'

/-- The rank of the last level, as it is written behind a source. -/
def rankBehind? : List Char → Option Nat
  | [] => some Level.trace.rank
  | cs => rankOf? (String.ofList cs)

/-- The field in braces that a text behind a bracket begins with, and the text behind the
closing bracket. A directive for a context or for a value of a field never applies, since
records here have no context. -/
def bracedField? (cs : List Char) : Option (String × List Char) :=
  match cs with
  | '{' :: cs =>
    match cs.span (· ≠ '}') with
    | (name, _ :: ']' :: rest) =>
      if name.isEmpty || '=' ∈ name then none else some (String.ofList name, rest)
    | _ => none
  | _ => none

/-- The directive that a text stands for. White space at its end belongs to what is last in
it, but not behind a bracket. -/
def Directive.ofText? (cs : List Char) : Option Directive :=
  let body := Text.trimEnd cs
  let blanks := cs.drop body.length
  let (source, rest) := body.span fun c => c ≠ '=' && c ≠ '['
  let named : Option String := if source.isEmpty then none else some (String.ofList source)
  match rest with
  | [] =>
    if !body.head?.any startsDirective then none
    else match rankOf? (String.ofList cs) with
      | some most => some { most }
      | none => some { source := some (String.ofList cs), most := Level.trace.rank }
  | '=' :: level =>
    if !body.head?.any startsDirective then none
    else (rankBehind? (level ++ blanks)).map fun most => { source := named, most }
  | _ :: rest => do
    let (field, rest) ← bracedField? rest
    if named.isSome && !body.head?.any startsDirective then none
    match rest with
    | [] => return { source := named, field, most := Level.trace.rank }
    | '=' :: level =>
      let most ← rankBehind? (level ++ blanks)
      return { source := named, field, most }
    | _ => none

/-- A list of directives. -/
structure Filter where
  directives : List Directive

namespace Filter

/-- The parts of a text between commas. -/
def splitCommas (cs : List Char) : List (List Char) :=
  match cs with
  | [] => [[]]
  | c :: rest =>
    match splitCommas rest with
    | [] => [[c]]
    | part :: parts => if c = ',' then [] :: part :: parts else (c :: part) :: parts

/-- The filter that a text stands for. -/
def ofText (text : String) : Filter :=
  match (splitCommas text.toList).filterMap Directive.ofText? with
  | [] => ⟨[{ most := Level.error.rank }]⟩
  | ds => ⟨ds⟩

/-- Nothing is logged. -/
def off : Filter := ⟨[{ most := 0 }]⟩

/-- Does the directive fit a record of some source? -/
def fits (source : String) (r : Record) (d : Directive) : Bool :=
  d.source.all (fun name => name.toList.isPrefixOf source.toList) && d.field.all (r.has ·)

/-- How special the source of a directive is. -/
def sourceLength (d : Directive) : Nat := (d.source.map (·.length + 1)).getD 0

/-- Is the first of two fields more special? Any is more special than none, and of two the
one that comes later in the order of texts. -/
def isAbove : Option String → Option String → Bool
  | none, _ => false
  | some _, none => true
  | some s, some t => t < s

/-- Of two directives that fit a record the one that decides: the second, which comes
later, unless the first is more special. -/
def moreSpecific (d e : Directive) : Directive :=
  if sourceLength e < sourceLength d then d
  else if sourceLength d < sourceLength e then e
  else if isAbove d.field e.field then d
  else e

/-- Is a record of some source logged? -/
def allows (f : Filter) (source : String) (r : Record) : Bool :=
  match f.directives.filter (fits source r) with
  | [] => false
  | d :: ds => r.level.rank ≤ (ds.foldl moreSpecific d).most

end Filter

end PropertyFilter.Log
