import PropertyFilter.Pattern.Basic

/-!
  # Building patterns

  Patterns are put together in a normal form. It decides which of several stretches
  a pattern takes where repetitions of empty stretches are involved, so it is part of
  what a pattern means:

      sequence   no empty parts, no sequence within a sequence, adjacent literals
                 joined
      choice     no choice within a choice; alternatives of one character each are one
                 class; a front that all alternatives share is taken out
      repeated   at most once what is always empty; neither {0} nor {1}

  A sequence is stored as its first part and the rest, which is no sequence only if it
  is the last part; a choice likewise.
-/

namespace PropertyFilter.Pattern

/-! ## Section 1: Classes -/

/-- The pattern of one character of a class. -/
def ofClass (k : CharClass) : Pattern :=
  match k.single? with
  | some c => literal [c]
  | none => oneOf k

/-- The class of a pattern that is one character of a class. -/
def asClass? : Pattern → Option CharClass
  | oneOf k => some k
  | literal [c] => some (.single c)
  | _ => none

/-! ## Section 2: Sequences -/

/-- The parts of a sequence. Every other pattern but the empty one is its only part. -/
def parts : Pattern → List Pattern
  | empty => []
  | seq p q => p :: parts q
  | p => [p]

/-- The sequence of parts that are none themselves. -/
def ofParts : List Pattern → Pattern
  | [] => empty
  | [p] => p
  | p :: ps => seq p (ofParts ps)

/-- A part in front of others, joined with the first of them if both are literals. -/
def joinLiteral : Pattern → List Pattern → List Pattern
  | literal s, literal t :: ps => literal (s ++ t) :: ps
  | p, ps => p :: ps

/-- Patterns one behind the other. -/
def sequence (ps : List Pattern) : Pattern :=
  ofParts ((ps.flatMap parts).foldr joinLiteral [])

/-! ## Section 3: Choices -/

/-- The alternatives of a choice. Every other pattern is its only alternative. -/
def alternatives : Pattern → List Pattern
  | alt p q => p :: alternatives q
  | p => [p]

/-- The choice between alternatives that are no choices themselves. -/
def ofAlternatives : List Pattern → Pattern
  | [] => oneOf .empty
  | [p] => p
  | p :: ps => alt p (ofAlternatives ps)

/-- The parts that two lists begin with. -/
def commonFront : List Pattern → List Pattern → List Pattern
  | p :: ps, q :: qs => if p = q then p :: commonFront ps qs else []
  | _, _ => []

/-- The parts that all sequences begin with; none in common if one is no sequence. -/
def sharedFront (ps : List Pattern) : List Pattern :=
  let fronts : List (List Pattern) := ps.map fun p => match p with
    | seq _ _ => p.parts
    | _ => []
  match fronts with
  | [] => []
  | first :: others => others.foldl commonFront first

/-- The number of patterns that a pattern is made of. -/
def nodes : Pattern → Nat
  | group _ p | rep p _ => p.nodes + 1
  | seq p q | alt p q => p.nodes + q.nodes + 1
  | _ => 1

/-- The choice between some patterns. Taking out a shared front leaves less, so the
number of patterns in all alternatives bounds how often that is done. -/
def choiceWithin : Nat → List Pattern → Pattern
  | fuel, ps =>
    let alts := ps.flatMap alternatives
    match alts with
    | [] | [_] => ofAlternatives alts
    | _ =>
      match alts.mapM asClass? with
      | some ks => ofClass (.ofRanges (ks.flatMap fun k => k.ranges))
      | none =>
        match fuel, sharedFront alts with
        | fuel + 1, front@(_ :: _) =>
          let rests := alts.map fun p => sequence (p.parts.drop front.length)
          sequence (front ++ [choiceWithin fuel rests])
        | _, _ => ofAlternatives alts

/-- The choice between some patterns, the first of which is preferred. -/
def choice (ps : List Pattern) : Pattern := choiceWithin (total (ps.map nodes)) ps

/-! ## Section 4: Repetitions -/

/-- A pattern repeated. -/
def repeated (p : Pattern) (r : Repetition) : Pattern :=
  let r := if p.takesNothing then
    { r with least := min r.least 1, most := some (min (r.most.getD 1) 1) } else r
  if r.least = 0 ∧ r.most = some 0 then empty
  else if r.least = 1 ∧ r.most = some 1 then p
  else rep p r

end PropertyFilter.Pattern
