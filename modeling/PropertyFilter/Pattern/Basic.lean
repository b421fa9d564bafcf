import PropertyFilter.Pattern.CharClass

/-!
  # Patterns

  A pattern describes stretches of a text:

      literal text      this text
      oneOf k           one character of a class
      look l            the empty stretch, at some places of the text only
      group i p         what p describes; the groups of a pattern are numbered
      rep p r           stretches of p one behind the other
      seq p q, alt p q  one behind the other, one or the other

  Where several stretches fit, the alternatives are tried in their order and the first
  that leads to an end is taken, not the longest: `a|ab` takes one character of `ab`.
  A repetition tries to go on before it tries to stop, a reluctant one the other way
  round.
-/

namespace PropertyFilter

/-! ## Section 1: Patterns -/

/-- How often a pattern is repeated. -/
structure Repetition where
  least : Nat
  /-- no bound if absent -/
  most : Option Nat
  reluctant : Bool := false
deriving DecidableEq, Repr

/-- A condition on a place in a text. A word edge has a word character on one side only. -/
inductive Look
  | atStart
  | atEnd
  | wordEdge
  | noWordEdge
  | wordStart
  | wordEnd
  /-- no word character before -/
  | wordStartHalf
  /-- no word character behind -/
  | wordEndHalf
deriving DecidableEq, Repr

/-- Does the condition hold between two characters? A missing one is an end of the text. -/
def Look.holds (before after : Option Char) (l : Look) : Bool :=
  let inWord (c : Option Char) : Bool := c.any Text.isWordCharacter
  match l with
  | atStart => before.isNone
  | atEnd => after.isNone
  | wordEdge => inWord before != inWord after
  | noWordEdge => inWord before == inWord after
  | wordStart => !inWord before && inWord after
  | wordEnd => inWord before && !inWord after
  | wordStartHalf => !inWord before
  | wordEndHalf => !inWord after

/-- A pattern. -/
inductive Pattern
  | empty
  | literal (text : List Char)
  | oneOf (k : CharClass)
  | look (l : Look)
  | group (index : Nat) (p : Pattern)
  | rep (p : Pattern) (r : Repetition)
  | seq (first rest : Pattern)
  | alt (first rest : Pattern)
deriving DecidableEq, Repr

namespace Pattern

/-- The sum of some numbers. -/
def total (ns : List Nat) : Nat := ns.foldr (· + ·) 0

/-! ## Section 2: Lengths -/

/-- The length of the shortest stretch; none if a part describes nothing at all. -/
def leastLength? : Pattern → Option Nat
  | empty | look _ => some 0
  | literal text => some text.length
  | oneOf k => if k = .empty then none else some 1
  | group _ p => p.leastLength?
  | rep p r => p.leastLength?.map (r.least * ·)
  | seq p q => do return (← p.leastLength?) + (← q.leastLength?)
  | alt p q => do return min (← p.leastLength?) (← q.leastLength?)

/-- The length of the longest stretch; none if there is no bound, or if a part describes
nothing at all. -/
def mostLength? : Pattern → Option Nat
  | empty | look _ => some 0
  | literal text => some text.length
  | oneOf k => if k = .empty then none else some 1
  | group _ p => p.mostLength?
  | rep p r => do return (← r.most) * (← p.mostLength?)
  | seq p q => do return (← p.mostLength?) + (← q.mostLength?)
  | alt p q => do return max (← p.mostLength?) (← q.mostLength?)

/-- Does every stretch have a character? -/
def takesSome (p : Pattern) : Bool := p.leastLength?.any (0 < ·)

/-- Is every stretch empty? -/
def takesNothing (p : Pattern) : Bool := p.mostLength? = some 0

/-! ## Section 3: Conditions at the ends -/

/-- Does the condition have to hold where a stretch begins? -/
def beginsWith (l : Look) : Pattern → Bool
  | look m => l = m
  | group _ p => p.beginsWith l
  | rep p r => 0 < r.least && p.beginsWith l
  | seq p q => p.beginsWith l || (p.takesNothing && q.beginsWith l)
  | alt p q => p.beginsWith l && q.beginsWith l
  | empty | literal _ | oneOf _ => false

/-- Does the condition have to hold where a stretch ends? -/
def endsWith (l : Look) : Pattern → Bool
  | look m => l = m
  | group _ p => p.endsWith l
  | rep p r => 0 < r.least && p.endsWith l
  | seq p q => q.endsWith l || (p.endsWith l && q.takesNothing)
  | alt p q => p.endsWith l && q.endsWith l
  | empty | literal _ | oneOf _ => false

end Pattern

end PropertyFilter
