import PropertyFilter.Json.Cursor
import PropertyFilter.Json.Number

/-!
  # Reading words, numbers and texts

  The parts of a JSON text that contain no others.

  Values that are not wanted are skipped. The form of what is skipped is checked
  all the same, but some faults are reported under another cause, which a `Manner`
  says.
-/

namespace PropertyFilter.Json

/-- Whether a value is wanted or skipped, as far as it decides what is reported. -/
structure Manner where
  /-- The text ends where a number needs a digit. -/
  numberEnd : Cause
  /-- A bracket behind a comma. -/
  arrayComma : Cause
  /-- A brace behind a comma. -/
  objectComma : Cause
  /-- The text ends behind a comma between fields. -/
  objectEnd : Cause
  /-- Escapes of surrogates must come in pairs. -/
  pairsSurrogates : Bool
  /-- A control character in a text is reported behind it. -/
  behindControl : Nat

/-- A value that is wanted. -/
def Manner.wanted : Manner where
  numberEnd := .endInValue
  arrayComma := .trailingComma
  objectComma := .trailingComma
  objectEnd := .endInValue
  pairsSurrogates := true
  behindControl := 1

/-- A value that is skipped. -/
def Manner.skipped : Manner where
  numberEnd := .badNumber
  arrayComma := .missingValue
  objectComma := .keyNotText
  objectEnd := .endInObject
  pairsSurrogates := false
  behindControl := 0

/-! ## Section 1: Words -/

/-- Reads the given characters. -/
def readWord : List Char → Cursor → Except ReadError Cursor
  | [], cur => .ok cur
  | w :: ws, cur =>
    match cur.rest with
    | [] => .error (cur.fault .endInValue)
    | c :: _ => if c = w then readWord ws cur.advance else .error (cur.faultAhead .badWord)

/-! ## Section 2: Numbers -/

/-- Reads digits, possibly none. -/
def readDigits (cur : Cursor) : List Char × Cursor :=
  let (ds, rest) := cur.rest.span Digits.isDigit
  (ds, { cur with rest, offset := cur.offset + ds.length })

/-- Reads digits, at least one. -/
def readDigits1 (m : Manner) : Reader (List Char) := fun cur =>
  match readDigits cur with
  | ([], _) => .error (cur.faultAhead (if cur.rest.isEmpty then m.numberEnd else .badNumber))
  | found => .ok found

/-- Reads digits without a leading zero, or zero. -/
def readWhole (m : Manner) : Reader (List Char) := fun cur =>
  match readDigits1 m cur with
  | .ok ('0' :: _ :: _, _) => .error (cur.advance.faultAhead .badNumber)
  | other => other

/-- Reads a point with digits, if there is a point. -/
def readFraction? (m : Manner) : Reader (Option (List Char)) := fun cur =>
  match cur.rest with
  | '.' :: _ => (readDigits1 m cur.advance).map fun (ds, cur) => (some ds, cur)
  | _ => .ok (none, cur)

/-- Reads an exponent, if there is one. -/
def readExponent? (m : Manner) : Reader (Option (Bool × List Char)) := fun cur =>
  match cur.rest with
  | c :: _ =>
    if c = 'e' || c = 'E' then do
      let cur := cur.advance
      let (negative, cur) := match cur.rest with
        | '+' :: _ => (false, cur.advance)
        | '-' :: _ => (true, cur.advance)
        | _ => (false, cur)
      let (ds, cur) ← readDigits1 m cur
      return (some (negative, ds), cur)
    else .ok (none, cur)
  | [] => .ok (none, cur)

/-- Reads a number. -/
def readNumberText (m : Manner) : Reader NumberText := fun cur => do
  let (negative, cur) := match cur.rest with
    | '-' :: _ => (true, cur.advance)
    | _ => (false, cur)
  let (whole, cur) ← readWhole m cur
  let (fraction, cur) ← readFraction? m cur
  let (exponent, cur) ← readExponent? m cur
  return (⟨negative, whole, fraction, exponent⟩, cur)

/-- Reads a number and takes its value. One that is out of range is reported behind the
digit that shows it. -/
def readNumber : Reader Json := fun cur => do
  let (t, cur) ← readNumberText .wanted cur
  match t.value with
  | .ok v => return (v, cur)
  | .error unread => throw ⟨.numberTooLarge, cur.offset - unread⟩

/-! ## Section 3: Texts -/

/-- The character that a letter behind a backslash stands for. -/
def escaped? (c : Char) : Option Char :=
  if c = '"' || c = '\\' || c = '/' then some c
  else if c = 'b' then some (Char.ofNat 8)
  else if c = 'f' then some (Char.ofNat 12)
  else if c = 'n' then some '\n'
  else if c = 'r' then some '\r'
  else if c = 't' then some '\t'
  else none

/-- The first half of an escaped character beyond the first 65536. -/
def isHighSurrogate (n : Nat) : Bool := 0xD800 ≤ n && n ≤ 0xDBFF

/-- The second half of such a character. -/
def isLowSurrogate (n : Nat) : Bool := 0xDC00 ≤ n && n ≤ 0xDFFF

/-- What an escaped code unit completes: a character, or the first half of one; none
if it cannot stand here. `high` is the first half that waits for its second. -/
def ofUnit? (m : Manner) (high : Option Nat) (n : Nat) : Option (Option Nat × List Char) :=
  if !m.pairsSurrogates then some (none, [Char.ofNat n])
  else match high with
    | some h =>
      if isLowSurrogate n then
        some (none, [Char.ofNat (0x10000 + (h - 0xD800) * 0x400 + (n - 0xDC00))])
      else none
    | none =>
      if isLowSurrogate n then none
      else if isHighSurrogate n then some (some n, [])
      else some (none, [Char.ofNat n])

/-- Reads the characters of a text up to its closing quote. `high` is the first half
of a character that waits for its second, `offset` the place of the next byte. Gives
what is behind the quote with its place. -/
def readTextBody (m : Manner) (high : Option Nat) (offset : Nat) :
    List Char → Except ReadError (List Char × List Char × Nat)
  | [] => .error ⟨.endInText, offset⟩
  | '\\' :: [] => .error ⟨.endInText, offset + 1⟩
  | '\\' :: 'u' :: a :: b :: c :: d :: rest =>
    match Digits.ofHexDigits? [a, b, c, d] with
    | none => .error ⟨.badEscape, offset + 6⟩
    | some n =>
      match ofUnit? m high n with
      | none => .error ⟨.loneSurrogate, offset + 6⟩
      | some (high, cs) =>
        (readTextBody m high (offset + 6) rest).map fun (more, behind) => (cs ++ more, behind)
  | '\\' :: 'u' :: rest =>
    let left := Text.byteLength rest
    if 4 ≤ left then .error ⟨.badEscape, offset + 6⟩ else .error ⟨.endInText, offset + 2 + left⟩
  | '\\' :: c :: rest =>
    if high.isSome then .error ⟨.missingSurrogate, offset + 2⟩
    else match escaped? c with
      | none => .error ⟨.badEscape, offset + 2⟩
      | some e => (readTextBody m none (offset + 2) rest).map fun (more, behind) => (e :: more, behind)
  | c :: rest =>
    if high.isSome then .error ⟨.missingSurrogate, offset + 1⟩
    else if c = '"' then .ok ([], rest, offset + 1)
    else if c.toNat < 0x20 then .error ⟨.controlCharacter, offset + m.behindControl⟩
    else (readTextBody m none (offset + c.utf8Size) rest).map fun (more, behind) => (c :: more, behind)

/-- Reads a text behind its opening quote. -/
def readText (m : Manner) : Reader String := fun cur =>
  (readTextBody m none cur.offset cur.rest).map fun (cs, rest, offset) =>
    (String.ofList cs, { cur with rest, offset })

/-! ## Section 4: Scalars -/

/-- Reads a value that is neither an array nor an object. -/
def readScalar : Reader Json := fun cur =>
  match cur.rest with
  | [] => .error (cur.fault .endInValue)
  | 'n' :: _ => (readWord "ull".toList cur.advance).map fun cur => (.null, cur)
  | 't' :: _ => (readWord "rue".toList cur.advance).map fun cur => (.bool true, cur)
  | 'f' :: _ => (readWord "alse".toList cur.advance).map fun cur => (.bool false, cur)
  | '"' :: _ => (readText .wanted cur.advance).map fun (s, cur) => (.text s, cur)
  | c :: _ =>
    if c = '-' || Digits.isDigit c then readNumber cur else .error (cur.faultAhead .missingValue)

/-- Skips a value that is neither an array nor an object. -/
def skipScalar (cur : Cursor) : Except ReadError Cursor :=
  match cur.rest with
  | '"' :: _ => (readText .skipped cur.advance).map Prod.snd
  | c :: _ =>
    if c = '-' || Digits.isDigit c then (readNumberText .skipped cur).map Prod.snd
    else (readScalar cur).map Prod.snd
  | [] => (readScalar cur).map Prod.snd

end PropertyFilter.Json
