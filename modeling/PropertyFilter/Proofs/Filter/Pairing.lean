import PropertyFilter.Proofs.Filter.Outside

/-!
  # Pairs of quotes

  The quotes of a text are paired from left to right by the bytes at which they stand:

      a + ' b - c ' - ' '       pairs    2 with 6, 8 with 9
      0 1 2 3 4 5 6 7 8 9       signs    + at 1 and - at 7, while the - at 4 is enclosed

  A pair is broken if its closing quote is missing or stands right behind the opening one.

  Main statement: a filter is split just if no pair is broken, and then the connectives are
  the signs outside all pairs, each in its place; otherwise the split stops at the opening
  quote of the first broken pair (`splitTokens_quotes`).
-/

namespace PropertyFilter

/-! ## Section 1: Characters and pairs in their places -/

/-- The characters of a text, each with the byte at which it begins. -/
def placedChars (offset : Nat) : List Char → List (Nat × Char)
  | [] => []
  | c :: cs => (offset, c) :: placedChars (offset + c.utf8Size) cs

/-- The bytes at which the quotes of a text stand. -/
def quoteOffsets (offset : Nat) (cs : List Char) : List Nat :=
  ((placedChars offset cs).filter fun x => x.2 = '\'').map Prod.fst

/-- An opening quote, and the one that closes it if there is one. -/
structure QuotePair where
  opening : Nat
  closing? : Option Nat
deriving DecidableEq, Repr

namespace QuotePair

/-- The closing quote is missing, or there is nothing in front of it. -/
def isBroken (p : QuotePair) : Bool := p.closing?.all (· = p.opening + 1)

/-- Is a byte behind the opening quote, and in front of the closing one? -/
def encloses (p : QuotePair) (i : Nat) : Bool := p.opening < i && p.closing?.all (i < ·)

/-- The pair around a text whose opening quote stands at byte `offset`. -/
def around (offset : Nat) (content : List Char) : QuotePair :=
  ⟨offset, some (offset + 1 + Text.byteLength content)⟩

/-- A pair with something in between is not broken. -/
theorem isBroken_around {content : List Char} (h : content ≠ []) (offset : Nat) :
    (around offset content).isBroken = false := by
  have hlength : content.length ≤ Text.byteLength content := Text.length_le_byteLength content
  have hpos : 0 < content.length := List.length_pos_iff.mpr h
  have hclosing : (around offset content).isBroken =
      decide (offset + 1 + Text.byteLength content = offset + 1) := rfl
  rw [hclosing, decide_eq_false_iff_not]
  omega

theorem encloses_around (offset : Nat) (content : List Char) (i : Nat) :
    (around offset content).encloses i = true ↔
      offset < i ∧ i < offset + 1 + Text.byteLength content := by
  have hbetween : (around offset content).encloses i =
      (decide (offset < i) && decide (i < offset + 1 + Text.byteLength content)) := rfl
  rw [hbetween, Bool.and_eq_true, decide_eq_true_eq, decide_eq_true_eq]

end QuotePair

/-- Quotes in pairs, from left to right. -/
def pairUp : List Nat → List QuotePair
  | [] => []
  | [q] => [⟨q, none⟩]
  | q :: r :: rest => ⟨q, some r⟩ :: pairUp rest

/-- The pairs of quotes of a text that begins at byte `offset`. -/
def quotePairs (offset : Nat) (cs : List Char) : List QuotePair :=
  pairUp (quoteOffsets offset cs)

/-- The token of a sign that stands at byte `offset`. -/
def Connective.token (c : Connective) (offset : Nat) : SplitToken :=
  ⟨.connective c, String.singleton c.sign, ⟨offset, offset + 1⟩⟩

/-- The token of a character in its place: only signs outside the pairs have one. -/
def signToken? (pairs : List QuotePair) (x : Nat × Char) : Option SplitToken :=
  if pairs.any (·.encloses x.1) then none else (Connective.ofSign? x.2).map (·.token x.1)

/-- The signs of a text outside all pairs of quotes, in order. -/
def signTokens (offset : Nat) (cs : List Char) : List SplitToken :=
  (placedChars offset cs).filterMap (signToken? (quotePairs offset cs))

section places
variable {offset : Nat} {content cs : List Char}

theorem placedChars_append (offset : Nat) (as bs : List Char) :
    placedChars offset (as ++ bs) =
      placedChars offset as ++ placedChars (offset + Text.byteLength as) bs := by
  induction as generalizing offset with
  | nil => rfl
  | cons a as ih => simp [placedChars, ih, Nat.add_assoc]

theorem mem_placedChars {x : Nat × Char} (h : x ∈ placedChars offset cs) :
    offset ≤ x.1 ∧ x.1 < offset + Text.byteLength cs ∧ x.2 ∈ cs := by
  induction cs generalizing offset with
  | nil => cases h
  | cons c cs ih =>
    have hsize := c.utf8Size_pos
    rw [Text.byteLength_cons]
    rcases List.mem_cons.mp h with rfl | h
    · exact ⟨Nat.le_refl _, by dsimp only; omega, List.mem_cons_self ..⟩
    · obtain ⟨hle, hlt, hmem⟩ := ih h
      exact ⟨by omega, by omega, List.mem_cons_of_mem _ hmem⟩

theorem quoteOffsets_append (offset : Nat) (as bs : List Char) :
    quoteOffsets offset (as ++ bs) =
      quoteOffsets offset as ++ quoteOffsets (offset + Text.byteLength as) bs := by
  simp [quoteOffsets, placedChars_append]

theorem quoteOffsets_quote (offset : Nat) (cs : List Char) :
    quoteOffsets offset ('\'' :: cs) = offset :: quoteOffsets (offset + 1) cs := rfl

theorem quoteOffsets_of_free (h : '\'' ∉ content) : quoteOffsets offset content = [] := by
  have hnone : ((placedChars offset content).filter fun x => x.2 = '\'') = [] := by
    rw [List.filter_eq_nil_iff]
    intro x hx hquote
    have hmem := (mem_placedChars hx).2.2
    rw [of_decide_eq_true hquote] at hmem
    exact h hmem
  rw [quoteOffsets, hnone, List.map_nil]

theorem opening_mem_of_pairUp {qs : List Nat} {p : QuotePair} (h : p ∈ pairUp qs) :
    p.opening ∈ qs := by
  fun_induction pairUp qs with
  | case1 => cases h
  | case2 q =>
    obtain rfl := List.mem_singleton.mp h
    simp
  | case3 q r rest ih =>
    rcases List.mem_cons.mp h with rfl | h
    · simp
    · simp [ih h]

/-- No pair of a text begins in front of it. -/
theorem le_opening {p : QuotePair} (h : p ∈ quotePairs offset cs) : offset ≤ p.opening := by
  obtain ⟨x, hx, hopening⟩ := List.mem_map.mp (opening_mem_of_pairUp h)
  rw [← hopening]
  exact (mem_placedChars (List.mem_filter.mp hx).1).1

/-! ## Section 2: The front of a text -/

/-- A character that is no quote changes no pair. -/
theorem quotePairs_skip {c : Char} (h : c ≠ '\'') (offset : Nat) (cs : List Char) :
    quotePairs offset (c :: cs) = quotePairs (offset + c.utf8Size) cs := by
  simp [quotePairs, quoteOffsets, placedChars, h]

/-- A quoted text has two characters more than what is in the quotes. -/
theorem byteLength_quoted (content cs : List Char) :
    Text.byteLength ('\'' :: (content ++ '\'' :: cs)) =
      Text.byteLength content + 2 + Text.byteLength cs := by
  have hsize : '\''.utf8Size = 1 := rfl
  simp only [Text.byteLength_cons, Text.byteLength_append, hsize]
  omega

/-- A quoted text is a pair of its own. -/
theorem quotePairs_quoted (h : '\'' ∉ content) (offset : Nat) (cs : List Char) :
    quotePairs offset ('\'' :: (content ++ '\'' :: cs)) =
      .around offset content :: quotePairs (offset + (Text.byteLength content + 2)) cs := by
  have hbehind : offset + (Text.byteLength content + 2) =
      offset + 1 + Text.byteLength content + 1 := by omega
  rw [hbehind, quotePairs, quoteOffsets_quote, quoteOffsets_append, quoteOffsets_of_free h,
    List.nil_append, quoteOffsets_quote]
  rfl

/-- A broken quote is the first of its text, and its pair is broken. -/
theorem StartsBroken.find?_eq (h : StartsBroken cs) (offset : Nat) :
    ∃ p, p.opening = offset ∧ (quotePairs offset cs).find? QuotePair.isBroken = some p := by
  cases h with
  | @unclosed cs hnone =>
    refine ⟨⟨offset, none⟩, rfl, ?_⟩
    rw [quotePairs, quoteOffsets_quote, quoteOffsets_of_free hnone]
    rfl
  | @empty cs =>
    refine ⟨⟨offset, some (offset + 1)⟩, rfl, ?_⟩
    have hbroken : (⟨offset, some (offset + 1)⟩ : QuotePair).isBroken = true := by
      simp [QuotePair.isBroken]
    rw [quotePairs, quoteOffsets_quote, quoteOffsets_quote]
    exact List.find?_cons_of_pos hbroken

/-- **No pair of a front is broken** if its quotes are in pairs, none of them empty; what is
behind it has the pairs of its own. -/
theorem Paired.find?_append {front : List Char} {signs : List Connective}
    (h : Paired front signs) (offset : Nat) (cs : List Char) :
    (quotePairs offset (front ++ cs)).find? QuotePair.isBroken =
      (quotePairs (offset + Text.byteLength front) cs).find? QuotePair.isBroken := by
  induction h generalizing offset with
  | nil => rfl
  | @plain c front signs hc _ ih =>
    rw [List.cons_append, quotePairs_skip (ne_quote_of_isPlain hc), ih, Text.byteLength_cons,
      Nat.add_assoc]
  | @sign c front signs _ ih =>
    rw [List.cons_append, quotePairs_skip (sign_ne_quote c), ih, Text.byteLength_cons,
      Nat.add_assoc]
  | @quoted content front signs hne hfree _ ih =>
    have hsound : ¬(QuotePair.around offset content).isBroken = true := by
      simp [QuotePair.isBroken_around hne]
    have htext : '\'' :: (content ++ '\'' :: front) ++ cs =
        '\'' :: (content ++ '\'' :: (front ++ cs)) := by simp
    rw [htext, quotePairs_quoted hfree, List.find?_cons_of_neg hsound, ih, byteLength_quoted,
      Nat.add_assoc]

/-! ## Section 3: Signs outside the pairs -/

theorem signToken?_eq_none {c : Char} (h : Connective.ofSign? c = none)
    (pairs : List QuotePair) (offset : Nat) : signToken? pairs (offset, c) = none := by
  simp [signToken?, h]

theorem signTokens_plain {c : Char} (hc : isPlain c = true) (offset : Nat) (cs : List Char) :
    signTokens offset (c :: cs) = signTokens (offset + c.utf8Size) cs := by
  have hquote : c ≠ '\'' := ne_quote_of_isPlain hc
  have hnone : signToken? (quotePairs (offset + c.utf8Size) cs) (offset, c) = none :=
    signToken?_eq_none ((ofSign?_eq_none_iff hquote).mpr hc) _ _
  rw [signTokens, quotePairs_skip hquote, placedChars, List.filterMap_cons_none hnone, signTokens]

theorem signTokens_sign (c : Connective) (offset : Nat) (cs : List Char) :
    signTokens offset (c.sign :: cs) = c.token offset :: signTokens (offset + 1) cs := by
  have hsize : c.sign.utf8Size = 1 := by cases c <;> rfl
  -- every pair begins behind the sign
  have houtside : (quotePairs (offset + 1) cs).any (·.encloses offset) = false := by
    rw [List.any_eq_false]
    intro p hp
    have hle : offset + 1 ≤ p.opening := le_opening hp
    have hlt : ¬p.opening < offset := by omega
    simp [QuotePair.encloses, hlt]
  have hsome : signToken? (quotePairs (offset + 1) cs) (offset, c.sign) =
      some (c.token offset) := by
    rw [signToken?, houtside, ofSign?_eq_some_iff.mpr rfl]
    rfl
  rw [signTokens, quotePairs_skip (sign_ne_quote c), placedChars, hsize,
    List.filterMap_cons_some hsome, signTokens]

/-- What is in quotes is enclosed by their pair, so that there is no sign to be found. -/
theorem signTokens_inside (offset : Nat) (content : List Char) (pairs : List QuotePair) :
    (placedChars offset ('\'' :: (content ++ ['\'']))).filterMap
      (signToken? (.around offset content :: pairs)) = [] := by
  have hquote (pairs : List QuotePair) (i : Nat) : signToken? pairs (i, '\'') = none :=
    signToken?_eq_none rfl pairs i
  rw [List.filterMap_eq_nil_iff]
  intro x hx
  rcases List.mem_cons.mp hx with rfl | hx
  · exact hquote _ _
  · rw [placedChars_append] at hx
    rcases List.mem_append.mp hx with hx | hx
    · obtain ⟨hle, hlt, -⟩ := mem_placedChars hx
      have hsize : '\''.utf8Size = 1 := rfl
      rw [hsize] at hle hlt
      have hencloses : (QuotePair.around offset content).encloses x.1 = true :=
        (QuotePair.encloses_around offset content x.1).mpr ⟨by omega, by omega⟩
      simp [signToken?, hencloses]
    · obtain rfl := List.mem_singleton.mp hx
      exact hquote _ _

/-- A pair encloses no sign behind it. -/
theorem signTokens_behind (offset : Nat) (content cs : List Char) :
    let behind := offset + (Text.byteLength content + 2)
    (placedChars behind cs).filterMap
        (signToken? (.around offset content :: quotePairs behind cs)) = signTokens behind cs := by
  intro behind
  apply List.filterMap_congr
  intro x hx
  have hle : behind ≤ x.1 := (mem_placedChars hx).1
  have hencloses : (QuotePair.around offset content).encloses x.1 = false := by
    rw [← Bool.not_eq_true, QuotePair.encloses_around]
    omega
  simp [signToken?, hencloses]

theorem signTokens_quoted (h : '\'' ∉ content) (offset : Nat) (cs : List Char) :
    signTokens offset ('\'' :: (content ++ '\'' :: cs)) =
      signTokens (offset + (Text.byteLength content + 2)) cs := by
  have htext : '\'' :: (content ++ '\'' :: cs) = '\'' :: (content ++ ['\'']) ++ cs := by simp
  have hlength : Text.byteLength ('\'' :: (content ++ ['\''])) = Text.byteLength content + 2 :=
    byteLength_quoted content []
  rw [signTokens, quotePairs_quoted h, htext, placedChars_append, List.filterMap_append, hlength,
    signTokens_inside, signTokens_behind, List.nil_append]

/-- A front without a sign outside its quotes adds no token. -/
theorem Paired.signTokens_append {front : List Char} (h : Paired front []) (offset : Nat)
    (cs : List Char) :
    signTokens offset (front ++ cs) = signTokens (offset + Text.byteLength front) cs := by
  generalize hsigns : ([] : List Connective) = signs at h
  induction h generalizing offset with
  | nil => rfl
  | plain hc _ ih =>
    rw [List.cons_append, signTokens_plain hc, ih _ hsigns, Text.byteLength_cons, Nat.add_assoc]
  | sign => cases hsigns
  | @quoted content front _ _ hfree _ ih =>
    have htext : '\'' :: (content ++ '\'' :: front) ++ cs =
        '\'' :: (content ++ '\'' :: (front ++ cs)) := by simp
    rw [htext, signTokens_quoted hfree, ih _ hsigns, byteLength_quoted, Nat.add_assoc]

end places

/-! ## Section 4: The split -/

/-- The connectives among the tokens of parts are their signs outside quotes. -/
theorem filter_placed {ps : List (Piece SplitWord)} (h : ∀ p ∈ ps, IsPart p.kind p.chars)
    (offset : Nat) :
    ((placed true offset ps).filter fun t => t.kind.connective?.isSome) =
      signTokens offset (Piece.concat ps) := by
  induction ps generalizing offset with
  | nil => rfl
  | cons p ps ih =>
    obtain ⟨hp, hps⟩ := List.forall_mem_cons.mp h
    obtain ⟨kind, chars⟩ := p
    rw [placed, Piece.concat_cons]
    cases hp with
    | sign c =>
      have htoken : (⟨.connective c, [c.sign]⟩ : Piece SplitWord).toToken true offset =
          c.token offset := by
        rw [toToken_sign, Connective.token, Span.covering, byteLength_sign]
      rw [htoken, byteLength_sign, List.singleton_append, signTokens_sign, ← ih hps]
      rfl
    | operand hkind hpaired =>
      have hnone : kind.connective? = none := hkind
      rw [hpaired.signTokens_append, ← ih hps, List.filter_cons_of_neg (by simp [hnone])]

/-- **A split respects quotes.** If no pair of quotes is broken, a filter is split, and the
connectives among its tokens are the signs outside all pairs, in order and each in its place;
otherwise the split stops at the opening quote of the first broken pair. -/
theorem splitTokens_quotes (value : String) :
    match (quotePairs 0 value.toList).find? QuotePair.isBroken with
    | none => ∃ tokens, splitTokens value = .ok tokens ∧
        (tokens.filter fun t => t.kind.connective?.isSome) = signTokens 0 value.toList
    | some p => ∃ front back : String, value = front ++ back ∧ front.utf8ByteSize = p.opening ∧
        splitTokens value = .error ⟨p.opening, back⟩ := by
  have hparts := isPart_of_mem_cut value.toList
  have hfront := paired_concat hparts
  have hconcat := cut_concat splitRules value.toList
  by_cases hrest : (cut splitRules value.toList).2 = []
  · rw [hrest, List.append_nil] at hconcat
    have hsound := hfront.find?_append 0 []
    rw [List.append_nil, hconcat] at hsound
    have hnone : (quotePairs 0 value.toList).find? QuotePair.isBroken = none := hsound
    rw [hnone]
    refine ⟨_, splitTokens_ok_iff.mpr ⟨hrest, rfl⟩, ?_⟩
    rw [filter_placed hparts, hconcat]
  · -- the pieces in front have no broken pair, and what is left begins with one
    obtain ⟨p, hopening, hfind⟩ := (startsBroken_of_cut hrest).find?_eq
      (0 + Text.byteLength (Piece.concat (cut splitRules value.toList).1))
    rw [← hfront.find?_append, hconcat] at hfind
    rw [Nat.zero_add] at hopening
    rw [hfind]
    refine ⟨String.ofList (Piece.concat (cut splitRules value.toList).1),
      String.ofList (cut splitRules value.toList).2, ?_, ?_, ?_⟩
    · apply String.toList_inj.mp
      rw [String.toList_append, String.toList_ofList, String.toList_ofList, hconcat]
    · rw [← Text.byteLength_toList, String.toList_ofList, hopening]
    · have hleft : (cut splitRules value.toList).2.isEmpty = false := by simpa using hrest
      show splitScanner.scan value = _
      unfold Scanner.scan
      dsimp only [splitScanner]
      rw [hleft, hopening]
      rfl

end PropertyFilter
