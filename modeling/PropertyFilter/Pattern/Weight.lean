import PropertyFilter.Pattern.Basic
import PropertyFilter.Pattern.Encoding

/-!
  # Weights of patterns

  A pattern weighs as much as the states of an automaton for it that reads bytes:

      a state        32 for itself
      a fork         4 for each way that leaves it
      a byte choice  8 for each range of bytes
      a group        a state where it begins and one where it ends

  The automaton for a pattern is built twice, to read forwards, and to read backwards,
  where groups are not marked. A pattern is light if neither is heavier than ten mebibytes.
  Repetitions with a number multiply weights, so a short text may be a heavy pattern.
-/

namespace PropertyFilter.Pattern

/-- The weight of one state. -/
def stateWeight : Nat := 32

/-- The weight of a fork with `ways` ways. -/
def forkWeight (ways : Nat) : Nat := stateWeight + 4 * ways

/-- The weight of a choice between `ranges` ranges of bytes. -/
def rangesWeight (ranges : Nat) : Nat := stateWeight + 8 * ranges

/-! ## Section 1: Classes -/

/-- Lists with a head in common put together: each head with what follows it. Only lists
next to each other are looked at. -/
def byHead {α : Type} [DecidableEq α] : List (List α) → List (α × List (List α))
  | [] => []
  | [] :: rest => byHead rest
  | (a :: as) :: rest =>
    match byHead rest with
    | (b, tails) :: groups =>
      if a = b then (b, as :: tails) :: groups else (a, [as]) :: (b, tails) :: groups
    | [] => [(a, [as])]

/-- The choices that reading some sequences of byte ranges goes through, from the last bytes
to the first. The sequences have fewer than `depth` ranges. -/
def byteChoices : Nat → List CharClass.ByteRanges → List (List CharClass.ByteRanges)
  | 0, _ => []
  | depth + 1, seqs =>
    if seqs.all List.isEmpty then []
    else (byHead seqs).flatMap (fun g => byteChoices depth g.2) ++ [seqs]

/-- The weight of a class read forwards: equal choices are made once. -/
def forwardClass (k : CharClass) : Nat :=
  let choices := (byteChoices 5 k.byteRanges).eraseDups
  stateWeight + total (choices.map fun c => rangesWeight (byHead c).length)

/-- The number of different stretches that sequences of at most `depth` ranges begin with. -/
def stretches : Nat → List CharClass.ByteRanges → Nat
  | 0, _ => 0
  | depth + 1, seqs => total ((byHead seqs).map fun g => 1 + stretches depth g.2)

/-- The weight of a class read backwards: one way for each sequence, and a state for each
stretch that sequences begin with. -/
def backwardClass (k : CharClass) : Nat :=
  forkWeight k.byteRanges.length + stateWeight + stateWeight * stretches 4 k.byteRanges

/-- The weight of a class. -/
def classWeight (backward : Bool) (k : CharClass) : Nat :=
  if k = .empty then stateWeight
  else if k.isAscii then stateWeight + rangesWeight k.ranges.length
  else if backward then backwardClass k
  else forwardClass k

/-! ## Section 2: Choices between literals -/

/-- The bytes of a literal in the order in which they are read. -/
def literalBytes (backward : Bool) (text : List Char) : List UInt8 :=
  let bytes := text.flatMap String.utf8EncodeChar
  if backward then bytes.reverse else bytes

/-- A way through a tree of literals that ends here, or goes on with a byte. -/
abbrev Way := List UInt8

/-- The ways up to the first that ends here, and the ways behind it if there is one. -/
def cutAtEnd : List Way → List (List Way)
  | [] => [[]]
  | [] :: rest => [] :: cutAtEnd rest
  | w :: rest =>
    match cutAtEnd rest with
    | ws :: more => (w :: ws) :: more
    | [] => [[w]]

/-- The ways behind each byte. -/
def byByte (ws : List Way) : List (List Way) :=
  (ws.filterMap List.head?).eraseDups.map fun b =>
    ws.filterMap fun w => if w.head? = some b then some w.tail else none

/-- The weight of a tree of literals of at most `depth` bytes. A place from which no way goes
on weighs nothing. Ways are told apart by their next byte, but not across one that ends. -/
def treeWeight : Nat → List Way → Nat
  | 0, _ => 0
  | depth + 1, ws =>
    if ws.all List.isEmpty then 0
    else
      let stretches := cutAtEnd ws
      let forks := stretches.map fun ws => byByte ws
      let own := total (forks.map fun f => match f.length with
        | 0 => 0
        | 1 => stateWeight
        | n => rangesWeight n)
      let ways := (forks.countP fun f => !f.isEmpty) + (stretches.length - 1)
      own + (if ways < 2 then 0 else forkWeight ways) +
        total (forks.flatten.map fun ws => treeWeight depth ws)

/-! ## Section 3: Patterns -/

/-- The texts of a choice between literals only. -/
def literals? : Pattern → Option (List (List Char))
  | literal text => some [text]
  | alt (literal text) rest => rest.literals?.map (text :: ·)
  | _ => none

/-- The weight of a repetition of a pattern. -/
def repetitionWeight (p : Pattern) (weight : Nat) (r : Repetition) : Nat :=
  match r.least, r.most with
  | 0, some 1 => weight + forkWeight 2 + stateWeight
  | 0, none =>
    if p.takesSome then weight + forkWeight 2 else weight + 2 * forkWeight 2 + stateWeight
  | n, none => n * weight + forkWeight 2
  | n, some m =>
    if n = m then n * weight
    else
      (if n = 0 then stateWeight else n * weight) + stateWeight +
        (m - n) * (weight + forkWeight 2)

/-- The weight of a pattern. A choice is one fork with a way for each alternative, and a
state where they come together; within it, a further alternative adds a way. -/
def weight (backward withinChoice : Bool) : Pattern → Nat
  | empty | look _ => stateWeight
  | literal text => stateWeight * (literalBytes backward text).length
  | oneOf k => classWeight backward k
  | group _ p => p.weight backward false + if backward then 0 else 2 * stateWeight
  | rep p r => repetitionWeight p (p.weight backward false) r
  | seq p q => p.weight backward false + q.weight backward false
  | alt p q =>
    match (if withinChoice then none else (alt p q).literals?) with
    | some texts =>
      let ways := texts.map (literalBytes backward)
      stateWeight + treeWeight ((ways.map List.length).foldl max 0 + 1) ways
    | none =>
      (if withinChoice then forkWeight 1 - stateWeight else forkWeight 2 + stateWeight) +
        p.weight backward false + q.weight backward true

/-- The weight of what goes in front of a pattern: a loop over any bytes, unless the
pattern has to begin where the reading begins. -/
def leadWeight (bound : Bool) : Nat :=
  if bound then stateWeight else stateWeight + rangesWeight 1 + forkWeight 2

/-- The weight of the automaton that reads a pattern forwards, or backwards. -/
def automatonWeight (backward : Bool) (p : Pattern) : Nat :=
  leadWeight (if backward then p.endsWith .atEnd else p.beginsWith .atStart) +
    p.weight backward false + (if backward then 1 else 3) * stateWeight

/-- The largest weight of a light pattern. -/
def largestWeight : Nat := 10 * 0x100000

/-- Is the pattern light? -/
def isLight (p : Pattern) : Bool :=
  p.automatonWeight false ≤ largestWeight && p.automatonWeight true ≤ largestWeight

end PropertyFilter.Pattern
