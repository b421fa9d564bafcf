import PropertyFilter.Json.Printer
import PropertyFilter.Json.Scalar
import PropertyFilter.Proofs.Number.Digits
import PropertyFilter.Proofs.Token.Cutting

/-!
  # Reading what is written: texts and numbers

  A reader gives a value back if its text stands ahead, with something behind it that does not
  go on with it:

      text      "…"             in quotes, whatever is behind
      number    -1.25e+7        a comma or a closing bracket behind it

  Main statements: `readText_gives`, of every text, and `readNumberText_gives`, of every number
  that is written without superfluous zeros in front.
-/

namespace PropertyFilter.Json

open Digits

/-! ## Section 1: Readers -/

/-- Reading here gives a value and leaves the rest. -/
def Gives {α : Type} (read : Reader α) (cur : Cursor) (x : α) (rest : List Char) : Prop :=
  ∃ after, read cur = .ok (x, after) ∧ after.rest = rest ∧ after.bound = cur.bound

/-- Reading here is refused. -/
def Refuses {α : Type} (read : Reader α) (cur : Cursor) : Prop := ∃ e, read cur = .error e

/-- What stands behind a value that is part of another one. -/
def Closed (rest : List Char) : Prop := ∀ c ∈ rest.head?, c = ',' ∨ c = ']' ∨ c = '}'

section cursors
variable {cur : Cursor} {c : Char} {rest : List Char}

theorem advance_rest (h : cur.rest = c :: rest) : cur.advance.rest = rest := by
  unfold Cursor.advance
  rw [h]

theorem advance_bound (cur : Cursor) : cur.advance.bound = cur.bound := by
  unfold Cursor.advance
  split <;> rfl

/-- Nothing is skipped where no white space is ahead. -/
theorem skipSpace_eq (h : ∀ c ∈ cur.rest.head?, Cursor.isSpace c = false) :
    cur.skipSpace = cur := by
  have hspan : ([] ++ cur.rest).span Cursor.isSpace = ([], cur.rest) :=
    Matcher.span_run (by simp) h
  rw [List.nil_append] at hspan
  unfold Cursor.skipSpace
  rw [hspan]
  rfl

end cursors

/-! ## Section 2: Texts -/

section texts
variable {rest : List Char}

/-- A character that stands for itself. -/
theorem readTextBody_plain {c : Char} (hquote : c ≠ '"') (hslash : c ≠ '\\')
    (hplain : 0x20 ≤ c.toNat) (offset : Nat) (rest : List Char) :
    readTextBody .wanted none offset (c :: rest) =
      (readTextBody .wanted none (offset + c.utf8Size) rest).map
        fun (more, behind) => (c :: more, behind) := by
  rw [readTextBody.eq_def]
  split
  case h_1 heq => cases heq
  case h_2 heq => exact absurd (List.cons.inj heq).1 hslash
  case h_3 heq => exact absurd (List.cons.inj heq).1 hslash
  case h_4 heq => exact absurd (List.cons.inj heq).1 hslash
  case h_5 heq => exact absurd (List.cons.inj heq).1 hslash
  case h_6 heq =>
    obtain ⟨rfl, rfl⟩ := List.cons.inj heq
    have hcontrol : ¬c.toNat < 0x20 := by omega
    rw [if_neg (by simp), if_neg hquote, if_neg hcontrol]

/-- A character with a letter of its own. -/
theorem readTextBody_letter {letter c : Char} (h : escaped? letter = some c) (offset : Nat)
    (rest : List Char) :
    readTextBody .wanted none offset ('\\' :: letter :: rest) =
      (readTextBody .wanted none (offset + 2) rest).map fun (more, behind) => (c :: more, behind) := by
  have hunit : letter ≠ 'u' := by
    rintro rfl
    cases h
  rw [readTextBody.eq_def]
  split
  case h_1 heq => cases heq
  case h_2 heq => cases heq
  case h_3 heq => exact absurd (List.cons.inj (List.cons.inj heq).2).1 hunit
  case h_4 heq => exact absurd (List.cons.inj (List.cons.inj heq).2).1 hunit
  case h_5 heq =>
    obtain ⟨rfl, rfl⟩ := List.cons.inj (List.cons.inj heq).2
    rw [if_neg (by simp), h]
  case h_6 hother heq =>
    obtain ⟨rfl, rfl⟩ := List.cons.inj heq
    exact (hother _ _ rfl rfl).elim

theorem ofHexDigits?_control :
    ∀ n < 32, ofHexDigits? ['0', '0', hexDigit (n / 16), hexDigit n] = some n := by
  decide

/-- A control character by its number. -/
theorem readTextBody_control {c : Char} (hc : c.toNat < 32) (offset : Nat) (rest : List Char) :
    readTextBody .wanted none offset
        ('\\' :: 'u' :: '0' :: '0' :: hexDigit (c.toNat / 16) :: hexDigit c.toNat :: rest) =
      (readTextBody .wanted none (offset + 6) rest).map fun (more, behind) => (c :: more, behind) := by
  have hunit : ofUnit? .wanted none c.toNat = some (none, [c]) := by
    have hlow : isLowSurrogate c.toNat = false := by
      unfold isLowSurrogate
      simp only [Bool.and_eq_false_iff, decide_eq_false_iff_not]
      omega
    have hhigh : isHighSurrogate c.toNat = false := by
      unfold isHighSurrogate
      simp only [Bool.and_eq_false_iff, decide_eq_false_iff_not]
      omega
    simp [ofUnit?, hlow, hhigh, Manner.wanted]
  rw [readTextBody]
  simp only [ofHexDigits?_control c.toNat hc, hunit, List.singleton_append]

/-- A character is read back from what is written for it. -/
theorem readTextBody_escapeChar (c : Char) (offset : Nat) (rest : List Char) :
    ∃ next, readTextBody .wanted none offset (escapeChar c ++ rest) =
      (readTextBody .wanted none next rest).map fun (more, behind) => (c :: more, behind) := by
  have hletter (letter : Char) (h : escaped? letter = some c) :
      ∃ next, readTextBody .wanted none offset (['\\', letter] ++ rest) =
        (readTextBody .wanted none next rest).map fun (more, behind) => (c :: more, behind) :=
    ⟨_, readTextBody_letter h offset rest⟩
  have hcode (n : Nat) (h : c.toNat = n) : c = Char.ofNat n := by rw [← h, Char.ofNat_toNat]
  unfold escapeChar
  split_ifs with hquote hslash hplain h8 h9 h10 h12 h13
  · exact hletter '"' (by rw [hquote]; decide)
  · exact hletter '\\' (by rw [hslash]; decide)
  · exact ⟨_, readTextBody_plain hquote hslash hplain offset rest⟩
  · exact hletter 'b' (by rw [hcode 8 h8]; decide)
  · exact hletter 't' (by rw [hcode 9 h9]; decide)
  · exact hletter 'n' (by rw [hcode 10 h10]; decide)
  · exact hletter 'f' (by rw [hcode 12 h12]; decide)
  · exact hletter 'r' (by rw [hcode 13 h13]; decide)
  · exact ⟨_, readTextBody_control (by omega) offset rest⟩

theorem readTextBody_escaped (cs : List Char) (offset : Nat) (rest : List Char) :
    ∃ next, readTextBody .wanted none offset (cs.flatMap escapeChar ++ '"' :: rest) =
      .ok (cs, rest, next) := by
  induction cs generalizing offset with
  | nil =>
    refine ⟨offset + 1, ?_⟩
    simp [readTextBody]
  | cons c cs ih =>
    rw [List.flatMap_cons, List.append_assoc]
    obtain ⟨middle, hchar⟩ := readTextBody_escapeChar c offset (cs.flatMap escapeChar ++ '"' :: rest)
    obtain ⟨next, hrest⟩ := ih middle
    exact ⟨next, by rw [hchar, hrest]; rfl⟩

/-- **Every text is read back**, behind its opening quote. -/
theorem readText_gives {cur : Cursor} (text : String)
    (hcur : cur.rest = text.toList.flatMap escapeChar ++ '"' :: rest) :
    Gives (readText .wanted) cur text rest := by
  obtain ⟨next, hbody⟩ := readTextBody_escaped text.toList cur.offset rest
  refine ⟨{ cur with rest, offset := next }, ?_, rfl, rfl⟩
  unfold readText
  rw [hcur, hbody]
  show Except.ok (String.ofList text.toList, _) = _
  rw [String.ofList_toList]

end texts

/-! ## Section 3: Numbers -/

namespace NumberText

/-- The characters of a fraction. -/
def fractionChars (t : NumberText) : List Char := (t.fraction.map ('.' :: ·)).getD []

/-- The characters of an exponent. -/
def exponentChars (t : NumberText) : List Char :=
  (t.exponent.map fun (negative, digits) => 'e' :: (if negative then '-' else '+') :: digits).getD []

/-- The characters of a number. -/
def chars (t : NumberText) : List Char :=
  (if t.negative then ['-'] else []) ++ t.whole ++ t.fractionChars ++ t.exponentChars

/-- A number that is written without superfluous zeros in front. -/
structure Proper (t : NumberText) : Prop where
  whole_run : isRun t.whole = true
  no_zero : t.whole = ['0'] ∨ t.whole.head? ≠ some '0'
  fraction_run : ∀ digits ∈ t.fraction, isRun digits = true
  exponent_run : ∀ e ∈ t.exponent, isRun e.2 = true

/-- A number begins with its sign or a digit. -/
theorem Proper.chars_cons {t : NumberText} (ht : t.Proper) :
    ∃ c cs, t.chars = c :: cs ∧ (c = '-' ∨ isDigit c = true) := by
  obtain ⟨hne, hall⟩ := isRun_iff.mp ht.whole_run
  obtain ⟨d, ds, hwhole⟩ := List.exists_cons_of_ne_nil hne
  unfold chars
  rw [hwhole] at hall ⊢
  cases t.negative with
  | true => exact ⟨'-', _, rfl, Or.inl rfl⟩
  | false => exact ⟨d, _, rfl, Or.inr (hall d List.mem_cons_self)⟩

end NumberText

/-- What is behind a number does not go on with it. -/
def NumberEnds (rest : List Char) : Prop :=
  ∀ c ∈ rest.head?, isDigit c = false ∧ c ≠ '.' ∧ c ≠ 'e' ∧ c ≠ 'E'

theorem Closed.numberEnds {rest : List Char} (h : Closed rest) : NumberEnds rest := by
  intro c hc
  rcases h c hc with rfl | rfl | rfl <;> decide

section numbers
variable {cur : Cursor} {digits rest : List Char} {t : NumberText} {m : Manner}

theorem readDigits1_gives (hrun : isRun digits = true) (hcur : cur.rest = digits ++ rest)
    (hrest : ∀ c ∈ rest.head?, isDigit c = false) : Gives (readDigits1 m) cur digits rest := by
  obtain ⟨hne, hall⟩ := isRun_iff.mp hrun
  have hdigits : readDigits cur =
      (digits, { cur with rest, offset := cur.offset + digits.length }) := by
    unfold readDigits
    rw [hcur, Matcher.span_run hall hrest]
  refine ⟨{ cur with rest, offset := cur.offset + digits.length }, ?_, rfl, rfl⟩
  unfold readDigits1
  rw [hdigits]
  split
  · next heq => exact absurd (Prod.mk.inj heq).1 hne
  · rfl

theorem readWhole_gives (ht : t.Proper) (hcur : cur.rest = t.whole ++ rest)
    (hrest : ∀ c ∈ rest.head?, isDigit c = false) : Gives (readWhole m) cur t.whole rest := by
  obtain ⟨after, hread, hafter⟩ := readDigits1_gives (m := m) ht.whole_run hcur hrest
  refine ⟨after, ?_, hafter⟩
  unfold readWhole
  rw [hread]
  split
  · next heq =>
    -- a zero in front of further digits
    have hwhole := (Prod.mk.inj (Except.ok.inj heq)).1
    rcases ht.no_zero with hzero | hhead
    · rw [hzero] at hwhole
      cases hwhole
    · rw [hwhole] at hhead
      exact absurd rfl hhead
  · rfl

theorem readFraction?_gives (ht : t.Proper) (hcur : cur.rest = t.fractionChars ++ rest)
    (hrest : ∀ c ∈ rest.head?, isDigit c = false ∧ c ≠ '.') :
    Gives (readFraction? m) cur t.fraction rest := by
  unfold NumberText.fractionChars at hcur
  cases hfraction : t.fraction with
  | none =>
    rw [hfraction] at hcur
    have hrest' : cur.rest = rest := hcur
    refine ⟨cur, ?_, hrest', rfl⟩
    unfold readFraction?
    dsimp only
    split
    · next heq => exact absurd rfl (hrest '.' (by rw [← hrest', heq]; rfl)).2
    · rfl
  | some digits =>
    rw [hfraction] at hcur
    have hpoint : cur.rest = '.' :: (digits ++ rest) := hcur
    obtain ⟨after, hread, hafter, hbound⟩ := readDigits1_gives (m := m)
      (ht.fraction_run digits hfraction) (advance_rest hpoint) fun c hc => (hrest c hc).1
    refine ⟨after, ?_, hafter, hbound.trans (advance_bound cur)⟩
    unfold readFraction?
    dsimp only
    rw [hpoint]
    show Except.map _ (readDigits1 m cur.advance) = _
    rw [hread]
    rfl

theorem readExponent?_gives (ht : t.Proper) (hcur : cur.rest = t.exponentChars ++ rest)
    (hrest : NumberEnds rest) : Gives (readExponent? m) cur t.exponent rest := by
  unfold NumberText.exponentChars at hcur
  cases hexponent : t.exponent with
  | none =>
    rw [hexponent] at hcur
    have hrest' : cur.rest = rest := hcur
    refine ⟨cur, ?_, hrest', rfl⟩
    unfold readExponent?
    dsimp only
    split
    · next c _ heq =>
      obtain ⟨-, -, hlower, hupper⟩ := hrest c (by rw [← hrest', heq]; rfl)
      rw [if_neg (by simp [hlower, hupper])]
    · rfl
  | some e =>
    obtain ⟨negative, digits⟩ := e
    rw [hexponent] at hcur
    have hletter : cur.rest = 'e' :: (if negative then '-' else '+') :: (digits ++ rest) := hcur
    have hsign := advance_rest hletter
    obtain ⟨after, hread, hafter, hbound⟩ := readDigits1_gives (m := m)
      (ht.exponent_run _ hexponent) (advance_rest hsign) fun c hc => (hrest c hc).1
    refine ⟨after, ?_, hafter, ?_⟩
    · unfold readExponent?
      dsimp only
      rw [hletter]
      dsimp only
      rw [if_pos (by decide), hsign]
      cases negative
      · show (readDigits1 m cur.advance.advance >>= _) = _
        rw [hread]
        rfl
      · show (readDigits1 m cur.advance.advance >>= _) = _
        rw [hread]
        rfl
    · rw [hbound, advance_bound, advance_bound]

/-- What is behind the sign of a number, in parts. -/
theorem readParts_gives (ht : t.Proper)
    (hcur : cur.rest = t.whole ++ (t.fractionChars ++ (t.exponentChars ++ rest)))
    (hrest : NumberEnds rest) :
    Gives (fun cur => do
      let (whole, cur) ← readWhole m cur
      let (fraction, cur) ← readFraction? m cur
      let (exponent, cur) ← readExponent? m cur
      return ((⟨t.negative, whole, fraction, exponent⟩ : NumberText), cur)) cur t rest := by
  have hexponent : ∀ c ∈ (t.exponentChars ++ rest).head?, isDigit c = false ∧ c ≠ '.' := by
    unfold NumberText.exponentChars
    cases t.exponent with
    | none => exact fun c hc => ⟨(hrest c hc).1, (hrest c hc).2.1⟩
    | some e =>
      intro c hc
      obtain rfl : 'e' = c := Option.some.inj hc
      decide
  have hfraction : ∀ c ∈ (t.fractionChars ++ (t.exponentChars ++ rest)).head?,
      isDigit c = false := by
    unfold NumberText.fractionChars
    cases t.fraction with
    | none => exact fun c hc => (hexponent c hc).1
    | some digits =>
      intro c hc
      obtain rfl : '.' = c := Option.some.inj hc
      decide
  obtain ⟨c1, hread1, hc1, hb1⟩ := readWhole_gives (m := m) ht hcur hfraction
  obtain ⟨c2, hread2, hc2, hb2⟩ := readFraction?_gives (m := m) ht hc1 hexponent
  obtain ⟨c3, hread3, hc3, hb3⟩ := readExponent?_gives (m := m) ht hc2 hrest
  refine ⟨c3, ?_, hc3, by rw [hb3, hb2, hb1]⟩
  show (readWhole m cur >>= _) = _
  rw [hread1]
  show (readFraction? m c1 >>= _) = _
  rw [hread2]
  show (readExponent? m c2 >>= _) = _
  rw [hread3]
  rfl

/-- **Every number is read back** in its parts. -/
theorem readNumberText_gives (ht : t.Proper) (hcur : cur.rest = t.chars ++ rest)
    (hrest : NumberEnds rest) : Gives (readNumberText m) cur t rest := by
  unfold NumberText.chars at hcur
  simp only [List.append_assoc] at hcur
  cases hsign : t.negative with
  | true =>
    rw [hsign] at hcur
    have hminus : cur.rest =
        '-' :: (t.whole ++ (t.fractionChars ++ (t.exponentChars ++ rest))) := hcur
    obtain ⟨after, hread, hafter, hbound⟩ :=
      readParts_gives (m := m) ht (advance_rest hminus) hrest
    refine ⟨after, ?_, hafter, hbound.trans (advance_bound cur)⟩
    rw [hsign] at hread
    unfold readNumberText
    dsimp only
    rw [hminus]
    exact hread
  | false =>
    rw [hsign] at hcur
    have hdigits : cur.rest = t.whole ++ (t.fractionChars ++ (t.exponentChars ++ rest)) := hcur
    obtain ⟨after, hread, hafter⟩ := readParts_gives (m := m) ht hdigits hrest
    refine ⟨after, ?_, hafter⟩
    rw [hsign] at hread
    obtain ⟨hne, hall⟩ := isRun_iff.mp ht.whole_run
    obtain ⟨d, ds, hwhole⟩ := List.exists_cons_of_ne_nil hne
    have hd : d ≠ '-' := by
      rintro rfl
      exact absurd (hall '-' (by rw [hwhole]; exact List.mem_cons_self ..)) (by decide)
    rw [hwhole] at hdigits
    unfold readNumberText
    split
    next negative start heq =>
    split at heq
    · next hminus =>
      rw [hdigits] at hminus
      exact absurd (List.cons.inj hminus).1 hd
    · obtain ⟨rfl, rfl⟩ := Prod.mk.inj heq
      exact hread

end numbers

end PropertyFilter.Json
