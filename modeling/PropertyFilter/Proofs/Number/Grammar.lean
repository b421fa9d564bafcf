import PropertyFilter.Proofs.Number.Decimal
import PropertyFilter.Proofs.Token.Cutting

/-!
  # The grammar of numbers

  A floating point number is written with or without a sign:

      number      sign? decimal   |   sign? word
      decimal     digits exponent?   |   digits? . digits? exponent?
      exponent    e sign? digits
      word        inf   |   infinity   |   nan

  There is at least one digit on either side of the point, the exponent begins with `e` or
  `E`, and the words may be written in any case. A decimal denotes the number that it rounds
  to, with the sign in front of it.

  Main statement: exactly these texts are read, each as the number that it denotes
  (`ofText?_eq_some_iff`).
-/

namespace PropertyFilter

/-! ## Section 1: Grammar -/

/-- `Signed body negative text`: the text is the body, with a sign in front or without one. -/
inductive Signed (body : List Char) : Bool → List Char → Prop
  | bare : Signed body false body
  | plus : Signed body false ('+' :: body)
  | minus : Signed body true ('-' :: body)

/-- A whole number with a sign. -/
def withSign (negative : Bool) (n : ℕ) : ℤ := if negative then -n else n

/-- `ExponentText e text`: nothing at all, or `e` in either case and a whole number. -/
inductive ExponentText : ℤ → List Char → Prop
  | absent : ExponentText 0 []
  | written {mark : Char} {negative : Bool} {digits text : List Char} :
      mark = 'e' ∨ mark = 'E' → Digits.isRun digits = true → Signed digits negative text →
      ExponentText (withSign negative (Digits.ofDigits digits)) (mark :: text)

/-- `DecimalText d text`: digits, with or without a point, and an exponent. Behind the point
every digit is one more power of ten to divide by. -/
inductive DecimalText : Decimal → List Char → Prop
  | whole {digits text : List Char} {e : ℤ} :
      Digits.isRun digits = true → ExponentText e text →
      DecimalText ⟨Digits.ofDigits digits, e⟩ (digits ++ text)
  | pointed {front back text : List Char} {e : ℤ} :
      Digits.isRun (front ++ back) = true → ExponentText e text →
      DecimalText ⟨Digits.ofDigits (front ++ back), e - back.length⟩
        (front ++ '.' :: (back ++ text))

/-- `Spells word text`: the text is the word in any case. -/
def Spells (word : String) (text : List Char) : Prop := text.map Char.toLower = word.toList

/-- `Unsigned negative x text`: with that sign in front the text denotes the number `x`. -/
inductive Unsigned (negative : Bool) : Binary64 → List Char → Prop
  | decimal {d : Decimal} {x : Binary64} {text : List Char} :
      DecimalText d text → d.RoundsTo negative x → Unsigned negative x text
  | infinite {word : String} {text : List Char} :
      word = "inf" ∨ word = "infinity" → Spells word text →
      Unsigned negative (.infinite negative) text
  | nan {text : List Char} : Spells "nan" text → Unsigned negative .nan text

/-- `FloatText x text`: the text denotes the number `x`. -/
def FloatText (x : Binary64) (text : List Char) : Prop :=
  ∃ body negative, Signed body negative text ∧ Unsigned negative x body

/-- A text that begins with neither sign. -/
def NoSign (text : List Char) : Prop := ∀ c ∈ text.head?, c ≠ '+' ∧ c ≠ '-'

/-! ## Section 2: Signs and exponents -/

/-- A character is no sign if it has what neither sign has. -/
theorem ne_sign {p : Char → Prop} (hplus : ¬p '+') (hminus : ¬p '-') {c : Char} (hc : p c) :
    c ≠ '+' ∧ c ≠ '-' := by
  constructor
  · rintro rfl
    exact hplus hc
  · rintro rfl
    exact hminus hc

/-- No sign is a digit. -/
theorem noSign_of_isRun {digits : List Char} (h : Digits.isRun digits = true) : NoSign digits := by
  intro c hc
  have hdigit := (isRun_iff.mp h).2 c (List.mem_of_mem_head? hc)
  exact ne_sign (p := (Digits.isDigit · = true)) (by decide) (by decide) hdigit

theorem signedRun?_eq_some_iff {cs : List Char} {n : ℤ} :
    Decimal.signedRun? cs = some n ↔
      ∃ digits negative, Digits.isRun digits = true ∧ Signed digits negative cs ∧
        n = withSign negative (Digits.ofDigits digits) := by
  have hvalue {digits : List Char} {m : ℕ}
      (hm : (if Digits.isRun digits then some (Digits.ofDigits digits) else none) = some m) :
      Digits.isRun digits = true ∧ Digits.ofDigits digits = m := by
    simpa using hm
  unfold Decimal.signedRun?
  dsimp only
  constructor
  · intro h
    split at h
    · obtain ⟨m, hm, rfl⟩ := Option.map_eq_some_iff.mp h
      obtain ⟨hrun, rfl⟩ := hvalue hm
      exact ⟨_, false, hrun, .plus, rfl⟩
    · obtain ⟨m, hm, rfl⟩ := Option.map_eq_some_iff.mp h
      obtain ⟨hrun, rfl⟩ := hvalue hm
      exact ⟨_, true, hrun, .minus, rfl⟩
    · obtain ⟨m, hm, rfl⟩ := Option.map_eq_some_iff.mp h
      obtain ⟨hrun, rfl⟩ := hvalue hm
      exact ⟨_, false, hrun, .bare, rfl⟩
  · rintro ⟨digits, negative, hrun, hsigned, rfl⟩
    cases hsigned with
    | plus => simp [hrun, withSign]
    | minus => simp [hrun, withSign]
    | bare =>
      split
      · exact absurd rfl (noSign_of_isRun hrun '+' rfl).1
      · exact absurd rfl (noSign_of_isRun hrun '-' rfl).2
      · simp [hrun, withSign]

theorem exponent?_eq_some_iff {cs : List Char} {e : ℤ} :
    Decimal.exponent? cs = some e ↔ ExponentText e cs := by
  cases cs with
  | nil =>
    constructor
    · intro h
      obtain rfl : 0 = e := Option.some.inj h
      exact .absent
    · rintro ⟨⟩
      rfl
  | cons mark cs =>
    have hcons : Decimal.exponent? (mark :: cs) =
        if mark = 'e' || mark = 'E' then Decimal.signedRun? cs else none := rfl
    rw [hcons]
    constructor
    · intro h
      split at h
      · next hmark =>
        obtain ⟨digits, negative, hrun, hsigned, rfl⟩ := signedRun?_eq_some_iff.mp h
        exact .written (by simpa using hmark) hrun hsigned
      · cases h
    · intro h
      cases h with
      | written hmark hrun hsigned =>
        rw [if_pos (by simpa using hmark)]
        exact signedRun?_eq_some_iff.mpr ⟨_, _, hrun, hsigned, rfl⟩

/-- An exponent does not go on with the digits in front of it. -/
theorem ExponentText.head {e : ℤ} {text : List Char} (h : ExponentText e text) :
    ∀ c ∈ text.head?, Digits.isDigit c = false ∧ c ≠ '.' := by
  intro c hc
  cases h with
  | absent => cases hc
  | @written mark _ _ _ hmark =>
    obtain rfl : mark = c := Option.some.inj hc
    rcases hmark with rfl | rfl
    · decide
    · decide

/-! ## Section 3: Decimals -/

namespace Decimal

section text
variable {front back text : List Char}

/-- Digits without a point behind them. -/
theorem ofText?_whole (hrun : Digits.isRun front = true)
    (htext : ∀ c ∈ text.head?, Digits.isDigit c = false ∧ c ≠ '.') :
    ofText? (front ++ text) =
      (exponent? text).map fun e => ⟨Digits.ofDigits front, e⟩ := by
  obtain ⟨hne, hdigits⟩ := isRun_iff.mp hrun
  have hspan : (front ++ text).span Digits.isDigit = (front, text) :=
    Matcher.span_run hdigits fun c hc => (htext c hc).1
  have hsplit : splitFraction text = ([], text) := by
    unfold splitFraction
    split
    · exact absurd rfl (htext '.' rfl).2
    · rfl
  unfold ofText?
  rw [hspan]
  dsimp only
  rw [hsplit]
  simp [hne]

/-- Digits with a point among them, or at one of their ends. -/
theorem ofText?_pointed (hrun : Digits.isRun (front ++ back) = true)
    (htext : ∀ c ∈ text.head?, Digits.isDigit c = false) :
    ofText? (front ++ '.' :: (back ++ text)) =
      (exponent? text).map fun e => ⟨Digits.ofDigits (front ++ back), e - back.length⟩ := by
  obtain ⟨hne, hdigits⟩ := isRun_iff.mp hrun
  have hspan : (front ++ '.' :: (back ++ text)).span Digits.isDigit =
      (front, '.' :: (back ++ text)) := by
    apply Matcher.span_run fun c hc => hdigits c (List.mem_append_left _ hc)
    intro c hc
    obtain rfl : '.' = c := Option.some.inj hc
    decide
  have hsplit : splitFraction ('.' :: (back ++ text)) = (back, text) :=
    Matcher.span_run (fun c hc => hdigits c (List.mem_append_right _ hc)) htext
  have hsome : (front.isEmpty && back.isEmpty) = false := by
    rw [Bool.eq_false_iff]
    simpa using hne
  unfold ofText?
  rw [hspan]
  dsimp only
  rw [hsplit]
  dsimp only
  rw [hsome]
  rfl

/-- What stands behind the digits in front: a point and the digits behind it, or anything else. -/
theorem splitFraction_cases (rest : List Char) :
    splitFraction rest = ([], rest) ∨
      ∃ back text, rest = '.' :: (back ++ text) ∧ splitFraction rest = (back, text) ∧
        ∀ c ∈ back, Digits.isDigit c = true := by
  unfold splitFraction
  split
  · next more =>
    refine Or.inr ⟨more.takeWhile Digits.isDigit, more.dropWhile Digits.isDigit, ?_, ?_, ?_⟩
    · rw [List.takeWhile_append_dropWhile]
    · exact List.span_eq_takeWhile_dropWhile _ _
    · intro c hc
      exact List.mem_takeWhile_imp hc
  · exact Or.inl rfl

/-- **Decimals** are read from the texts of the grammar, and from no others. -/
theorem ofText?_eq_some_iff {cs : List Char} {d : Decimal} :
    ofText? cs = some d ↔ DecimalText d cs := by
  constructor
  · intro h
    unfold ofText? at h
    rw [List.span_eq_takeWhile_dropWhile] at h
    dsimp only at h
    have hcs : cs.takeWhile Digits.isDigit ++ cs.dropWhile Digits.isDigit = cs :=
      List.takeWhile_append_dropWhile
    have hfront : ∀ c ∈ cs.takeWhile Digits.isDigit, Digits.isDigit c = true :=
      fun c hc => List.mem_takeWhile_imp hc
    generalize cs.takeWhile Digits.isDigit = front at h hcs hfront
    generalize cs.dropWhile Digits.isDigit = rest at h hcs
    subst hcs
    rcases splitFraction_cases rest with hsplit | ⟨back, text, rfl, hsplit, hback⟩
    · rw [hsplit] at h
      split_ifs at h with hnone
      obtain ⟨e, he, rfl⟩ := Option.map_eq_some_iff.mp h
      have hrun : Digits.isRun front = true := isRun_iff.mpr ⟨by simpa using hnone, hfront⟩
      simpa using DecimalText.whole hrun (exponent?_eq_some_iff.mp he)
    · rw [hsplit] at h
      split_ifs at h with hnone
      obtain ⟨e, he, rfl⟩ := Option.map_eq_some_iff.mp h
      have hrun : Digits.isRun (front ++ back) = true :=
        Digits.isRun_append (by simpa using hnone) hfront hback
      exact .pointed hrun (exponent?_eq_some_iff.mp he)
  · intro h
    cases h with
    | whole hrun he =>
      rw [ofText?_whole hrun he.head, exponent?_eq_some_iff.mpr he, Option.map_some]
    | pointed hrun he =>
      rw [ofText?_pointed hrun fun c hc => (he.head c hc).1, exponent?_eq_some_iff.mpr he,
        Option.map_some]

end text

end Decimal

/-- A decimal begins with a digit or a point. -/
theorem DecimalText.head {d : Decimal} {text : List Char} (h : DecimalText d text) :
    ∃ c cs, text = c :: cs ∧ (Digits.isDigit c = true ∨ c = '.') := by
  cases h with
  | @whole digits text _ hrun =>
    obtain ⟨hne, hdigits⟩ := isRun_iff.mp hrun
    obtain ⟨c, cs, rfl⟩ := List.exists_cons_of_ne_nil hne
    exact ⟨c, cs ++ text, rfl, Or.inl (hdigits c (List.mem_cons_self ..))⟩
  | @pointed front back text _ hrun =>
    cases front with
    | nil => exact ⟨'.', back ++ text, rfl, Or.inr rfl⟩
    | cons c front =>
      have hdigit := (isRun_iff.mp hrun).2 c (List.mem_cons_self ..)
      exact ⟨c, front ++ '.' :: (back ++ text), rfl, Or.inl hdigit⟩

/-! ## Section 4: Words -/

/-- The characters that a decimal begins with are no letters, so they have no other case. -/
theorem toLower_of_numeric {c : Char} (hc : Digits.isDigit c = true ∨ c = '.') :
    c.toLower = c := by
  rcases hc with hdigit | rfl
  · have hcode : 48 ≤ c.val.toNat ∧ c.val.toNat ≤ 57 := Digits.isDigit_iff_code.mp hdigit
    have hletter : ('A' : Char).val.toNat = 65 := rfl
    unfold Char.toLower
    rw [dif_neg]
    rintro ⟨hlow, -⟩
    rw [ge_iff_le, UInt32.le_iff_toNat_le] at hlow
    omega
  · decide

theorem ofWord?_eq_some_iff {negative : Bool} {word : String} {x : Binary64} :
    Binary64.ofWord? negative word = some x ↔
      (word = "inf" ∨ word = "infinity") ∧ x = .infinite negative ∨ word = "nan" ∧ x = .nan := by
  unfold Binary64.ofWord?
  split_ifs with hinfinite hnan
  · have hinfinite : word = "inf" ∨ word = "infinity" := by simpa using hinfinite
    have hnan : word ≠ "nan" := by
      rcases hinfinite with rfl | rfl
      · decide
      · decide
    simp [hinfinite, hnan, eq_comm]
  · simp [hnan, eq_comm]
  · have hinfinite : ¬(word = "inf" ∨ word = "infinity") := by simpa using hinfinite
    simp [hinfinite, hnan]

/-- No decimal is one of the words. -/
theorem DecimalText.ofWord?_eq_none {d : Decimal} {text : List Char} (h : DecimalText d text)
    (negative : Bool) :
    Binary64.ofWord? negative (String.ofList (text.map Char.toLower)) = none := by
  obtain ⟨c, cs, rfl, hc⟩ := h.head
  rw [List.map_cons, toLower_of_numeric hc, Option.eq_none_iff_forall_ne_some]
  intro x hx
  -- the first letter of the word would be a digit or a point
  have hfirst (word : String) (hword : String.ofList (c :: cs.map Char.toLower) = word) :
      ∀ l ∈ word.toList.head?, Digits.isDigit l = true ∨ l = '.' := by
    subst hword
    intro l hl
    rw [String.toList_ofList] at hl
    obtain rfl : c = l := Option.some.inj hl
    exact hc
  rcases ofWord?_eq_some_iff.mp hx with ⟨hinf | hinfinity, -⟩ | ⟨hnan, -⟩
  · exact absurd (hfirst _ hinf 'i' rfl) (by decide)
  · exact absurd (hfirst _ hinfinity 'i' rfl) (by decide)
  · exact absurd (hfirst _ hnan 'n' rfl) (by decide)

/-! ## Section 5: Numbers -/

section number
variable {negative : Bool} {x : Binary64} {body cs : List Char}

/-- A text is read as a word if it is one, and otherwise as a decimal. -/
theorem or_eq_some_iff_unsigned :
    (Binary64.ofWord? negative (String.ofList (body.map Char.toLower))).or
        ((Decimal.ofText? body).map (Decimal.toBinary64 negative)) = some x ↔
      Unsigned negative x body := by
  have hspells (word : String) :
      String.ofList (body.map Char.toLower) = word ↔ Spells word body := by
    unfold Spells
    rw [← String.toList_inj, String.toList_ofList]
  rw [Option.or_eq_some_iff, ofWord?_eq_some_iff]
  simp only [hspells]
  constructor
  · rintro ((⟨hword, rfl⟩ | ⟨hnan, rfl⟩) | ⟨-, hdecimal⟩)
    · exact hword.elim (.infinite (Or.inl rfl)) (.infinite (Or.inr rfl))
    · exact .nan hnan
    · obtain ⟨d, hd, hx⟩ := Option.map_eq_some_iff.mp hdecimal
      exact .decimal (Decimal.ofText?_eq_some_iff.mp hd) (Decimal.toBinary64_eq_iff.mp hx)
  · intro h
    cases h with
    | decimal hd hx =>
      refine Or.inr ⟨hd.ofWord?_eq_none negative, ?_⟩
      rw [Decimal.ofText?_eq_some_iff.mpr hd, Option.map_some, Decimal.toBinary64_eq_iff.mpr hx]
    | infinite hword hspelled =>
      rcases hword with rfl | rfl
      · exact Or.inl (Or.inl ⟨Or.inl hspelled, rfl⟩)
      · exact Or.inl (Or.inl ⟨Or.inr hspelled, rfl⟩)
    | nan hspelled => exact Or.inl (Or.inr ⟨hspelled, rfl⟩)

/-- What follows the sign begins with no other sign. -/
theorem Unsigned.noSign (h : Unsigned negative x body) : NoSign body := by
  intro c hc
  have hletter {word : String} {l : Char} (hl : word.toList.head? = some l)
      (hspelled : Spells word body) : c.toLower = l := by
    have hhead := congrArg List.head? hspelled
    rw [List.head?_map, hc, hl] at hhead
    exact Option.some.inj hhead
  cases h with
  | decimal hd =>
    obtain ⟨c', cs, rfl, hnumeric⟩ := hd.head
    obtain rfl : c' = c := Option.some.inj hc
    exact ne_sign (p := fun c => Digits.isDigit c = true ∨ c = '.')
      (by decide) (by decide) hnumeric
  | infinite hword hspelled =>
    have hfirst : c.toLower = 'i' := by
      rcases hword with rfl | rfl
      · exact hletter rfl hspelled
      · exact hletter rfl hspelled
    exact ne_sign (p := (Char.toLower · = 'i')) (by decide) (by decide) hfirst
  | nan hspelled =>
    exact ne_sign (p := (Char.toLower · = 'n')) (by decide) (by decide) (hletter rfl hspelled)

/-- A sign is taken off, if there is one, and the rest is read as a word or as a decimal. -/
theorem ofText?_signed (hsigned : Signed body negative cs) (hbody : NoSign body) :
    Binary64.ofText? cs =
      (Binary64.ofWord? negative (String.ofList (body.map Char.toLower))).or
        ((Decimal.ofText? body).map (Decimal.toBinary64 negative)) := by
  unfold Binary64.ofText?
  split
  next negative' body' heq =>
  have hrest : negative' = negative ∧ body' = body := by
    cases hsigned with
    | plus | minus =>
      obtain ⟨rfl, rfl⟩ := Prod.mk.inj heq
      exact ⟨rfl, rfl⟩
    | bare =>
      split at heq
      · exact absurd rfl (hbody '+' rfl).1
      · exact absurd rfl (hbody '-' rfl).2
      · obtain ⟨rfl, rfl⟩ := Prod.mk.inj heq
        exact ⟨rfl, rfl⟩
  obtain ⟨rfl, rfl⟩ := hrest
  cases Binary64.ofWord? negative' (String.ofList (body'.map Char.toLower)) with
  | some _ => rfl
  | none => rfl

/-- **The texts of the grammar** are read as the numbers that they denote, and no other text
is read. -/
theorem Binary64.ofText?_eq_some_iff : Binary64.ofText? cs = some x ↔ FloatText x cs := by
  constructor
  · intro h
    unfold Binary64.ofText? at h
    split at h
    next negative body heq =>
    refine ⟨body, negative, ?_, or_eq_some_iff_unsigned.mp ?_⟩
    · split at heq
      · obtain ⟨rfl, rfl⟩ := Prod.mk.inj heq
        exact .plus
      · obtain ⟨rfl, rfl⟩ := Prod.mk.inj heq
        exact .minus
      · obtain ⟨rfl, rfl⟩ := Prod.mk.inj heq
        exact .bare
    · cases hword : Binary64.ofWord? negative (String.ofList (body.map Char.toLower)) with
      | some y =>
        rw [hword] at h
        exact h
      | none =>
        rw [hword] at h
        exact h
  · rintro ⟨body, negative, hsigned, hunsigned⟩
    rw [ofText?_signed hsigned hunsigned.noSign]
    exact or_eq_some_iff_unsigned.mpr hunsigned

end number

end PropertyFilter
