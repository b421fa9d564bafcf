import PropertyFilter.Proofs.Filter.Quotation

/-!
  # Inside and outside of quotes

  The quotes of a text are paired from left to right: the first one opens, the next one
  closes, and so on. Read in this way, character by character, a text has characters outside
  quotes, pairs that may be empty, and perhaps a quote that is still open at its end:

      a+'b-c'-''      outside  a + -      an empty pair at the end
      'a'+'b          outside  +          open at the end

  Main statements: a split needs quotes in pairs of which none is empty (`paired_iff`), while
  words only need quotes in pairs, and have no sign outside of them (`words_outside`).
-/

namespace PropertyFilter

/-! ## Section 1: Quotes from left to right -/

/-- The characters outside quotes; `inside` says that a quote is open where the text begins. -/
def outsideQuotes (inside : Bool) : List Char → List Char
  | [] => []
  | c :: cs =>
    if c = '\'' then outsideQuotes (!inside) cs
    else if inside then outsideQuotes inside cs
    else c :: outsideQuotes inside cs

/-- Is a quote open where the text ends? -/
def endsInside (inside : Bool) : List Char → Bool
  | [] => inside
  | c :: cs => endsInside (if c = '\'' then !inside else inside) cs

/-- Does a quote open and close at once? -/
def hasEmptyPair (inside : Bool) : List Char → Bool
  | [] => false
  | c :: cs =>
    if c = '\'' then (!inside && cs.head? == some '\'') || hasEmptyPair (!inside) cs
    else hasEmptyPair inside cs

section pairing
variable {inside : Bool} {content : List Char}

theorem outsideQuotes_append (inside : Bool) (as bs : List Char) :
    outsideQuotes inside (as ++ bs) =
      outsideQuotes inside as ++ outsideQuotes (endsInside inside as) bs := by
  induction as generalizing inside with
  | nil => rfl
  | cons a as ih =>
    by_cases ha : a = '\''
    · simp only [List.cons_append, outsideQuotes, endsInside, if_pos ha]
      exact ih (!inside)
    · cases inside with
      | true =>
        simp only [List.cons_append, outsideQuotes, endsInside, if_neg ha, if_true]
        exact ih true
      | false =>
        simp only [List.cons_append, outsideQuotes, endsInside, if_neg ha, Bool.false_eq_true,
          if_false]
        rw [ih false]

theorem endsInside_append (inside : Bool) (as bs : List Char) :
    endsInside inside (as ++ bs) = endsInside (endsInside inside as) bs := by
  induction as generalizing inside with
  | nil => rfl
  | cons a as ih => exact ih _

theorem endsInside_of_free (h : '\'' ∉ content) : endsInside inside content = inside := by
  induction content with
  | nil => rfl
  | cons c cs ih =>
    have hc : c ≠ '\'' := fun hc => h (by simp [hc])
    rw [endsInside, if_neg hc]
    exact ih fun hcs => h (List.mem_cons_of_mem _ hcs)

theorem outsideQuotes_of_free (h : '\'' ∉ content) :
    outsideQuotes inside content = if inside then [] else content := by
  induction content with
  | nil => cases inside <;> rfl
  | cons c cs ih =>
    have hc : c ≠ '\'' := fun hc => h (by simp [hc])
    have hcs := ih fun hcs => h (List.mem_cons_of_mem _ hcs)
    rw [outsideQuotes, if_neg hc, hcs]
    cases inside <;> rfl

theorem hasEmptyPair_of_free (h : '\'' ∉ content) (cs : List Char) :
    hasEmptyPair inside (content ++ cs) = hasEmptyPair inside cs := by
  induction content with
  | nil => rfl
  | cons c content ih =>
    have hc : c ≠ '\'' := fun hc => h (by simp [hc])
    rw [List.cons_append, hasEmptyPair, if_neg hc]
    exact ih fun hcs => h (List.mem_cons_of_mem _ hcs)

/-- A quote that is open where the text begins, and not where it ends, is closed. -/
theorem exists_closing {cs : List Char} (h : endsInside true cs = false) :
    ∃ content rest, cs = content ++ '\'' :: rest ∧ '\'' ∉ content := by
  induction cs with
  | nil => cases h
  | cons c cs ih =>
    by_cases hc : c = '\''
    · exact ⟨[], cs, by rw [hc]; rfl, by simp⟩
    · rw [endsInside, if_neg hc] at h
      obtain ⟨content, rest, rfl, hfree⟩ := ih h
      refine ⟨c :: content, rest, rfl, ?_⟩
      intro hmem
      rcases List.mem_cons.mp hmem with hmem | hmem
      · exact hc hmem.symm
      · exact hfree hmem

/-- What a text with a quoted part at its front says about quotes is said by the rest. -/
theorem quoted_front (h : '\'' ∉ content) (cs : List Char) :
    outsideQuotes false ('\'' :: (content ++ '\'' :: cs)) = outsideQuotes false cs ∧
      endsInside false ('\'' :: (content ++ '\'' :: cs)) = endsInside false cs ∧
      hasEmptyPair false ('\'' :: (content ++ '\'' :: cs)) =
        (content.isEmpty || hasEmptyPair false cs) := by
  refine ⟨?_, ?_, ?_⟩
  · rw [outsideQuotes, if_pos rfl, outsideQuotes_append, endsInside_of_free h,
      outsideQuotes_of_free h]
    rfl
  · rw [endsInside, if_pos rfl, endsInside_append, endsInside_of_free h]
    rfl
  · have hrest : hasEmptyPair true (content ++ '\'' :: cs) = hasEmptyPair false cs := by
      rw [hasEmptyPair_of_free h]
      rfl
    have hhead : ((content ++ '\'' :: cs).head? == some '\'') = content.isEmpty := by
      cases content with
      | nil => rfl
      | cons c content =>
        -- the content does not begin with a quote
        have hc : c ≠ '\'' := fun hc => h (by simp [hc])
        simpa using hc
    rw [hasEmptyPair, if_pos rfl]
    simp only [Bool.not_false, Bool.true_and, hhead, hrest]

end pairing

/-! ## Section 2: Texts that can be split -/

/-- The connective whose sign a character is. -/
def Connective.ofSign? (c : Char) : Option Connective :=
  if c = '+' then some .and else if c = '-' then some .or else none

theorem ofSign?_eq_some_iff {c : Char} {conn : Connective} :
    Connective.ofSign? c = some conn ↔ c = conn.sign := by
  constructor
  · intro h
    unfold Connective.ofSign? at h
    split at h
    · next hplus =>
      cases h
      exact hplus
    · split at h
      · next hminus =>
        cases h
        exact hminus
      · cases h
  · rintro rfl
    cases conn with
    | and => rfl
    | or => rfl

/-- What is neither a quote nor a sign is plain. -/
theorem ofSign?_eq_none_iff {c : Char} (hquote : c ≠ '\'') :
    Connective.ofSign? c = none ↔ isPlain c = true := by
  unfold Connective.ofSign? isPlain
  by_cases hplus : c = '+'
  · simp [hplus]
  · by_cases hminus : c = '-'
    · simp [hminus]
    · simp [hquote, hplus, hminus]

/-- The connectives whose signs are outside quotes, in order. -/
def outerSigns (cs : List Char) : List Connective :=
  (outsideQuotes false cs).filterMap Connective.ofSign?

theorem outerSigns_eq_nil {cs : List Char}
    (h : ∀ conn : Connective, conn.sign ∉ outsideQuotes false cs) : outerSigns cs = [] := by
  unfold outerSigns
  rw [List.filterMap_eq_nil_iff]
  intro c hc
  cases hsign : Connective.ofSign? c with
  | none => rfl
  | some conn =>
    obtain rfl : c = conn.sign := ofSign?_eq_some_iff.mp hsign
    exact absurd hc (h conn)

theorem Paired.outside {cs : List Char} {signs : List Connective} (h : Paired cs signs) :
    endsInside false cs = false ∧ hasEmptyPair false cs = false ∧ outerSigns cs = signs := by
  induction h with
  | nil => exact ⟨rfl, rfl, rfl⟩
  | @plain c cs signs hc _ ih =>
    obtain ⟨hends, hpair, hsigns⟩ := ih
    have hquote : c ≠ '\'' := ne_quote_of_isPlain hc
    refine ⟨by rwa [endsInside, if_neg hquote], by rwa [hasEmptyPair, if_neg hquote], ?_⟩
    unfold outerSigns at hsigns ⊢
    rw [outsideQuotes, if_neg hquote, if_neg (by decide),
      List.filterMap_cons_none ((ofSign?_eq_none_iff hquote).mpr hc)]
    exact hsigns
  | @sign c cs signs _ ih =>
    obtain ⟨hends, hpair, hsigns⟩ := ih
    have hquote : c.sign ≠ '\'' := sign_ne_quote c
    refine ⟨by rwa [endsInside, if_neg hquote], by rwa [hasEmptyPair, if_neg hquote], ?_⟩
    unfold outerSigns at hsigns ⊢
    rw [outsideQuotes, if_neg hquote, if_neg (by decide),
      List.filterMap_cons_some (ofSign?_eq_some_iff.mpr rfl), hsigns]
  | @quoted content cs signs hne hfree _ ih =>
    obtain ⟨hends, hpair, hsigns⟩ := ih
    obtain ⟨houtside, hends', hpair'⟩ := quoted_front hfree cs
    have hcontent : content.isEmpty = false := by simpa using hne
    refine ⟨hends'.trans hends, by rw [hpair', hpair, hcontent]; rfl, ?_⟩
    unfold outerSigns at hsigns ⊢
    rw [houtside, hsigns]

theorem paired_of_outside {cs : List Char} (hends : endsInside false cs = false)
    (hpair : hasEmptyPair false cs = false) : Paired cs (outerSigns cs) := by
  match cs with
  | [] => exact .nil
  | c :: cs =>
    by_cases hquote : c = '\''
    · subst hquote
      -- the quote is closed further on, and there is something in between
      obtain ⟨content, rest, rfl, hfree⟩ := exists_closing hends
      obtain ⟨houtside, hends', hpair'⟩ := quoted_front hfree rest
      rw [hpair', Bool.or_eq_false_iff] at hpair
      rw [hends'] at hends
      have hne : content ≠ [] := by simpa using hpair.1
      have hrest := paired_of_outside hends hpair.2
      unfold outerSigns at hrest ⊢
      rw [houtside]
      exact .quoted hne hfree hrest
    · rw [endsInside, if_neg hquote] at hends
      rw [hasEmptyPair, if_neg hquote] at hpair
      have hrest := paired_of_outside hends hpair
      unfold outerSigns at hrest ⊢
      rw [outsideQuotes, if_neg hquote, if_neg (by decide)]
      cases hsign : Connective.ofSign? c with
      | none =>
        rw [List.filterMap_cons_none hsign]
        exact .plain ((ofSign?_eq_none_iff hquote).mp hsign) hrest
      | some conn =>
        obtain rfl : c = conn.sign := ofSign?_eq_some_iff.mp hsign
        rw [List.filterMap_cons_some hsign]
        exact .sign conn hrest
termination_by cs.length

/-- **Quotes in pairs**, none of them empty, and the signs that are outside. -/
theorem paired_iff {cs : List Char} {signs : List Connective} :
    Paired cs signs ↔
      endsInside false cs = false ∧ hasEmptyPair false cs = false ∧ outerSigns cs = signs := by
  constructor
  · exact Paired.outside
  · rintro ⟨hends, hpair, rfl⟩
    exact paired_of_outside hends hpair

/-! ## Section 3: Texts that can be cut into words -/

theorem Fits.outside {kind : FilterWord} {chars : List Char} (h : Fits kind chars) :
    endsInside false chars = false ∧ ∀ c ∈ outsideQuotes false chars, isPlain c = true := by
  by_cases hkind : kind = .quoted
  · subst hkind
    cases h with
    | fixed hs => cases hs
    | quoted hfree =>
      obtain ⟨houtside, hends, -⟩ := quoted_front hfree []
      exact ⟨hends, by simp [houtside, outsideQuotes]⟩
  · have hall := h.all_plain hkind
    have hfree : '\'' ∉ chars := fun hmem => ne_quote_of_isPlain (hall '\'' hmem) rfl
    exact ⟨endsInside_of_free hfree, by rwa [outsideQuotes_of_free hfree, if_neg (by decide)]⟩

theorem concat_outside {ps : List (Piece FilterWord)} (h : ∀ p ∈ ps, Fits p.kind p.chars) :
    endsInside false (Piece.concat ps) = false ∧
      ∀ c ∈ outsideQuotes false (Piece.concat ps), isPlain c = true := by
  induction ps with
  | nil => exact ⟨rfl, by simp [outsideQuotes]⟩
  | cons p ps ih =>
    obtain ⟨hends, hall⟩ := (h p (List.mem_cons_self ..)).outside
    obtain ⟨hends', hall'⟩ := ih fun q hq => h q (List.mem_cons_of_mem _ hq)
    rw [Piece.concat_cons, endsInside_append, outsideQuotes_append, hends]
    refine ⟨hends', ?_⟩
    intro c hc
    rcases List.mem_append.mp hc with hc | hc
    · exact hall c hc
    · exact hall' c hc

/-- **Words** have their quotes in pairs, and no sign outside quotes. -/
theorem words_outside {value : String} {tokens : List FilterToken}
    (h : filterTokens value = .ok tokens) :
    endsInside false value.toList = false ∧ outerSigns value.toList = [] := by
  have hrest : (cut filterRules value.toList).2 = [] := (scan_ok_iff.mp h).1
  have hconcat := cut_concat filterRules value.toList
  rw [hrest, List.append_nil] at hconcat
  obtain ⟨hends, hall⟩ := concat_outside (fits_of_mem_cut value.toList)
  rw [hconcat] at hends hall
  refine ⟨hends, outerSigns_eq_nil fun conn hmem => ?_⟩
  have hplain := hall conn.sign hmem
  rw [isPlain_sign] at hplain
  cases hplain

end PropertyFilter
