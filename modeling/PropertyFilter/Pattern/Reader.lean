import PropertyFilter.Number.Digits
import PropertyFilter.Pattern.Build
import PropertyFilter.Pattern.Weight

/-!
  # Texts of patterns

      c  \c          the character itself
      \x41 \u{e9}    the character with a code; \u0041 and \U00000041 too
      .              any character but the line feed
      \d \s \w       digits of all scripts, white space, characters of words;
                     \D \S \W all others
      [abc] [^a-z]   classes of characters; && -- ~~ combine two, and classes
                     may stand in classes, also as [:alpha:]
      ^ $ \A \z      start and end
      \b \B \< \>    edges of words
      pq  p|q  (p)   one after the other, alternatives, a group; (?:p) too
      p? p* p+ p{n} p{n,} p{n,m}
                     repetitions; with a further ? reluctant

  Reading keeps the groups that are still open on a stack, and the classes that are
  still open on another, so that the text is read once from front to back. With every
  pattern goes its depth, how far its parts are nested.
-/

namespace PropertyFilter.Pattern

/-! ## Section 1: Escapes -/

/-- What a backslash and the characters behind it stand for. -/
inductive Escape
  | character (c : Char)
  | oneOf (k : CharClass)
  | look (l : Look)

/-- The control character that a letter behind a backslash stands for. -/
def control? : Char → Option Char
  | 'a' => some (Char.ofNat 7)
  | 'f' => some (Char.ofNat 12)
  | 't' => some '\t'
  | 'n' => some '\n'
  | 'r' => some '\r'
  | 'v' => some (Char.ofNat 11)
  | _ => none

/-- The class that a letter behind a backslash stands for. -/
def letterClass? : Char → Option CharClass
  | 'd' => some .digit
  | 's' => some .blank
  | 'w' => some .word
  | 'D' => some CharClass.digit.complement
  | 'S' => some CharClass.blank.complement
  | 'W' => some CharClass.word.complement
  | _ => none

/-- The condition that a character behind a backslash stands for. -/
def look? : Char → Option Look
  | 'A' => some .atStart
  | 'z' => some .atEnd
  | 'b' => some .wordEdge
  | 'B' => some .noWordEdge
  | '<' => some .wordStart
  | '>' => some .wordEnd
  | _ => none

/-- The conditions with a name in braces, and the text behind them. -/
def namedLook? (cs : List Char) : Option (Look × List Char) :=
  let named : List (String × Look) :=
    [("\x7bstart\x7d", .wordStart), ("\x7bend\x7d", .wordEnd),
     ("\x7bstart-half\x7d", .wordStartHalf), ("\x7bend-half\x7d", .wordEndHalf)]
  named.findSome? fun (name, l) =>
    if name.toList.isPrefixOf cs then some (l, cs.drop name.toList.length) else none

/-- An ASCII character that stands behind a backslash for itself: letters and digits
are kept for other uses. -/
def isOwnEscape (c : Char) : Bool := c.toNat < 0x80 && !c.isAlphanum

/-- The character whose code some hexadecimal digits denote, if there is one. -/
def ofCode? (digits : List Char) : Option Char := do
  let code ← Digits.ofHexDigits? digits
  if digits.isEmpty || !code.isValidChar then none else return Char.ofNat code

/-- A character given by its code, in `width` digits or any number of them in braces, and
the text behind it. -/
def coded? (width : Nat) (cs : List Char) : Option (Char × List Char) :=
  match cs with
  | '{' :: cs =>
    match cs.span (· ≠ '}') with
    | (ds, _ :: rest) => (ofCode? ds).map (·, rest)
    | (_, []) => none
  | _ =>
    let ds := cs.take width
    if ds.length = width then (ofCode? ds).map (·, cs.drop width) else none

/-- What a text behind a backslash begins with, and the text behind that. -/
def escape? : List Char → Option (Escape × List Char)
  | [] => none
  | c :: rest =>
    match c with
    | 'x' => (coded? 2 rest).map fun (c, rest) => (.character c, rest)
    | 'u' => (coded? 4 rest).map fun (c, rest) => (.character c, rest)
    | 'U' => (coded? 8 rest).map fun (c, rest) => (.character c, rest)
    | _ =>
      match letterClass? c, look? c, control? c with
      | some k, _, _ => some (.oneOf k, rest)
      | _, some l, _ =>
        if c = 'b' then
          match namedLook? rest with
          | some (l, rest) => some (.look l, rest)
          | none => some (.look l, rest)
        else some (.look l, rest)
      | _, _, some c => some (.character c, rest)
      | _, _, _ => if isOwnEscape c then some (.character c, rest) else none

/-! ## Section 2: Classes -/

/-- A class that has been read, with its depth: how far brackets, lists of items and
operators are nested in it. -/
structure ReadClass where
  members : CharClass
  depth : Nat := 0

/-- Two classes combined. -/
inductive ClassOperator
  /-- `&&` -/
  | inter
  /-- `--` -/
  | diff
  /-- `~~` -/
  | symmDiff

/-- The class of two others. -/
def ClassOperator.apply : ClassOperator → CharClass → CharClass → CharClass
  | inter, k, l => k.inter l
  | diff, k, l => k.diff l
  | symmDiff, k, l => k.symmDiff l

/-- A class that is still open: what stands before the last operator, and the items
behind it. -/
structure OpenClass where
  negated : Bool := false
  left : Option (ReadClass × ClassOperator) := none
  items : List ReadClass := []

namespace OpenClass

/-- The class with a further item. -/
def push (o : OpenClass) (item : ReadClass) : OpenClass := { o with items := item :: o.items }

/-- The items behind the last operator as one class. -/
def list (o : OpenClass) : ReadClass :=
  match o.items with
  | [] => ⟨.empty, 0⟩
  | [item] => item
  | items =>
    ⟨.ofRanges (items.flatMap fun i => i.members.ranges),
      1 + (items.map fun i => i.depth).foldl max 0⟩

/-- All that has been read, as one class. Operators bind from left to right. -/
def whole (o : OpenClass) : ReadClass :=
  match o.left with
  | none => o.list
  | some (l, op) => ⟨op.apply l.members o.list.members, 1 + max l.depth o.list.depth⟩

/-- The class behind a further operator. -/
def operator (o : OpenClass) (op : ClassOperator) : OpenClass :=
  { negated := o.negated, left := some (o.whole, op) }

/-- The class at its closing bracket. -/
def close (o : OpenClass) : ReadClass :=
  let k := o.whole
  ⟨if o.negated then k.members.complement else k.members, 1 + k.depth⟩

end OpenClass

/-- A class behind its opening bracket, and the text behind what opens it. Hyphens that
come first are items, and so is a closing bracket that comes first. -/
def openClass (cs : List Char) : OpenClass × List Char :=
  let (negated, cs) := match cs with
    | '^' :: rest => (true, rest)
    | _ => (false, cs)
  let (hyphens, cs) := cs.span (· = '-')
  let o : OpenClass := { negated, items := hyphens.map fun c => ⟨.single c, 0⟩ }
  match hyphens, cs with
  | [], ']' :: rest => (o.push ⟨.single ']', 0⟩, rest)
  | _, _ => (o, cs)

/-- A class given by its name, as `:alpha:]` behind an opening bracket, and the text
behind it. -/
def namedClass? (cs : List Char) : Option (CharClass × List Char) :=
  match cs with
  | ':' :: cs =>
    let (negated, cs) := match cs with
      | '^' :: rest => (true, rest)
      | _ => (false, cs)
    match cs.span (· ≠ ':') with
    | (name, ':' :: ']' :: rest) =>
      (CharClass.ofName? (String.ofList name)).map fun k =>
        (if negated then k.complement else k, rest)
    | _ => none
  | _ => none

/-- One character or class of characters within brackets, and the text behind it. -/
def classAtom? : List Char → Option (Escape × List Char)
  | [] => none
  | '\\' :: rest => escape? rest
  | c :: rest => some (.character c, rest)

/-- An item within brackets, and the text behind it. A hyphen between two characters
makes a range of them, unless it comes last or begins an operator. -/
def classItem? (cs : List Char) : Option (CharClass × List Char) := do
  let (low, rest) ← classAtom? cs
  let isRange := match rest with
    | '-' :: next :: _ => next ≠ ']' && next ≠ '-'
    | '-' :: [] => true
    | _ => false
  if isRange then
    let (high, rest) ← classAtom? (rest.drop 1)
    match low, high with
    | .character a, .character b => if a ≤ b then return (.between a b, rest) else none
    | _, _ => none
  else
    match low with
    | .character c => return (.single c, rest)
    | .oneOf k => return (k, rest)
    | .look _ => none

/-- Reads a class to its closing bracket; the innermost open class comes first. Gives the
text behind it. Every step takes a character, so `fuel` is a number of characters. -/
def readClass : Nat → OpenClass → List OpenClass → List Char → Option (ReadClass × List Char)
  | 0, _, _, _ => none
  | fuel + 1, o, outer, cs =>
    match cs with
    | [] => none
    | '[' :: rest =>
      match namedClass? rest with
      | some (k, rest) => readClass fuel (o.push ⟨k, 0⟩) outer rest
      | none =>
        let (inner, rest) := openClass rest
        readClass fuel inner (o :: outer) rest
    | ']' :: rest =>
      match outer with
      | [] => some (o.close, rest)
      | up :: outer => readClass fuel (up.push o.close) outer rest
    | '&' :: '&' :: rest => readClass fuel (o.operator .inter) outer rest
    | '-' :: '-' :: rest => readClass fuel (o.operator .diff) outer rest
    | '~' :: '~' :: rest => readClass fuel (o.operator .symmDiff) outer rest
    | _ => do
      let (k, rest) ← classItem? cs
      readClass fuel (o.push ⟨k, 0⟩) outer rest

/-- A class behind its opening bracket, and the text behind it; `fuel` as above. -/
def class? (fuel : Nat) (cs : List Char) : Option (ReadClass × List Char) :=
  let (o, rest) := openClass cs
  readClass fuel o [] rest

/-! ## Section 3: Repetitions -/

/-- The largest number in a repetition. -/
def largestBound : Nat := 0xFFFFFFFF

/-- A number with white space around it, and the text behind it. -/
def bound? (cs : List Char) : Option (Nat × List Char) :=
  match (Text.trimStart cs).span Digits.isDigit with
  | ([], _) => none
  | (ds, rest) =>
    if Digits.ofDigits ds ≤ largestBound then some (Digits.ofDigits ds, Text.trimStart rest)
    else none

/-- The bounds of a repetition behind their opening brace, and the text behind them. -/
def bounds? (cs : List Char) : Option (Repetition × List Char) := do
  let (least, rest) ← bound? cs
  match rest with
  | '}' :: rest => return ({ least, most := some least }, rest)
  | ',' :: '}' :: rest => return ({ least, most := none }, rest)
  | ',' :: rest =>
    let (most, rest) ← bound? rest
    match rest with
    | '}' :: rest => if least ≤ most then return ({ least, most := some most }, rest) else none
    | _ => none
  | _ => none

/-- The repetition that a text begins with, if it begins with one, and the text behind
it; none if its bounds are wrong. -/
def repetition? (cs : List Char) : Option (Option (Repetition × List Char)) :=
  let found : Option (Option (Repetition × List Char)) := match cs with
    | '?' :: rest => some (some ({ least := 0, most := some 1 }, rest))
    | '*' :: rest => some (some ({ least := 0, most := none }, rest))
    | '+' :: rest => some (some ({ least := 1, most := none }, rest))
    | '{' :: rest => (bounds? rest).map some
    | _ => some none
  found.map fun r => r.map fun (r, rest) =>
    match rest with
    | '?' :: rest => ({ r with reluctant := true }, rest)
    | _ => (r, rest)

/-! ## Section 4: Groups -/

/-- A pattern that has been read, with its depth. Classes in brackets, repetitions, groups,
and sequences and choices of more than one part are each one deeper than their parts. -/
structure Read where
  pattern : Pattern
  depth : Nat := 0

/-- Some patterns put together as one; only several go deeper. -/
def Read.join (combine : List Pattern → Pattern) (rs : List Read) : Read :=
  match rs with
  | [r] => ⟨combine [r.pattern], r.depth⟩
  | [] => ⟨combine [], 0⟩
  | _ => ⟨combine (rs.map fun r => r.pattern), 1 + (rs.map fun r => r.depth).foldl max 0⟩

/-- A group that is still open: its number if it has one, its finished alternatives, and
the parts of the one that is being read, the last ones first. -/
structure Open where
  index : Option Nat := none
  finished : List Read := []
  parts : List Read := []

namespace Open

/-- The alternative that is being read. -/
def last (g : Open) : Read := .join sequence g.parts.reverse

/-- All alternatives. -/
def body (g : Open) : Read :=
  match g.finished with
  | [] => g.last
  | _ => .join choice (g.last :: g.finished).reverse

/-- The group at its closing bracket. -/
def close (g : Open) : Read :=
  let r := g.body
  ⟨match g.index with
    | some i => .group i r.pattern
    | none => r.pattern, 1 + r.depth⟩

/-- The group with a further part. -/
def push (g : Open) (r : Read) : Open := { g with parts := r :: g.parts }

/-- The group with a further part of depth 0. -/
def pushPattern (g : Open) (p : Pattern) : Open := g.push ⟨p, 0⟩

/-- The group at the start of its next alternative. -/
def next (g : Open) : Open := { g with finished := g.last :: g.finished, parts := [] }

/-- The group with its last part repeated; none if it has no part yet. -/
def repeatLast? (g : Open) (r : Repetition) : Option Open :=
  match g.parts with
  | [] => none
  | last :: before =>
    some { g with parts := ⟨last.pattern.repeated r, 1 + last.depth⟩ :: before }

end Open

/-- What is open while a pattern is read, the innermost group first, and how many numbers
of groups are taken. -/
structure Reading where
  inner : Open := {}
  outer : List Open := []
  numbered : Nat := 0

/-- The reading with another innermost group. -/
def Reading.within (s : Reading) (g : Open) : Reading := { s with inner := g }

/-- One step of reading: what stands at the front of a text changes what is open. Gives
the text behind it. The text has at most `fuel` characters. -/
def readStep (fuel : Nat) (s : Reading) (cs : List Char) : Option (Reading × List Char) :=
  let g := s.inner
  match repetition? cs with
  | none => none
  | some (some (r, rest)) => (g.repeatLast? r).map fun g => (s.within g, rest)
  | some none =>
    match cs with
    | [] => none
    | '(' :: '?' :: ':' :: rest => some ({ s with inner := {}, outer := g :: s.outer }, rest)
    | '(' :: '?' :: _ => none
    | '(' :: rest =>
      let n := s.numbered + 1
      some (⟨{ index := some n }, g :: s.outer, n⟩, rest)
    | ')' :: rest =>
      match s.outer with
      | [] => none
      | up :: outer => some ({ s with inner := up.push g.close, outer }, rest)
    | '|' :: rest => some (s.within g.next, rest)
    | '^' :: rest => some (s.within (g.pushPattern (.look .atStart)), rest)
    | '$' :: rest => some (s.within (g.pushPattern (.look .atEnd)), rest)
    | '.' :: rest => some (s.within (g.pushPattern (.ofClass .anyOnLine)), rest)
    | '[' :: rest =>
      (class? fuel rest).map fun (k, rest) => (s.within (g.push ⟨.ofClass k.members, k.depth⟩), rest)
    | '\\' :: rest =>
      (escape? rest).map fun (e, rest) =>
        (s.within (g.pushPattern (match e with
          | .character c => .literal [c]
          | .oneOf k => .ofClass k
          | .look l => .look l)), rest)
    | c :: rest => some (s.within (g.pushPattern (.literal [c])), rest)

/-- Reads a pattern to its end, at which only the outermost group is open. Every step
takes a character, so `fuel` is a number of characters. -/
def readFrom : Nat → Reading → List Char → Option Read
  | _, s, [] => if s.outer.isEmpty then some s.inner.body else none
  | 0, _, _ => none
  | fuel + 1, s, cs => do
    let (s, rest) ← readStep (fuel + 1) s cs
    readFrom fuel s rest

/-! ## Section 5: Patterns of rules -/

/-- How far the parts of a pattern may be nested. -/
def deepest : Nat := 250

/-- What a text is put between to describe the front of another text. -/
def atFront (text : String) : String := "^(?:" ++ text ++ ")"

/-- The pattern that a text gives for the front of other texts; none if it gives none.
The brackets around the text are read with it, so one in the text may close them. -/
def ofText? (text : String) : Option Pattern := do
  let cs := (atFront text).toList
  let r ← readFrom cs.length {} cs
  if r.depth ≤ deepest && r.pattern.isLight then return r.pattern else none

end PropertyFilter.Pattern
