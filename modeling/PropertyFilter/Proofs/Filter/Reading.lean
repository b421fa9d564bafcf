import PropertyFilter.Proofs.Filter.Spelling
import PropertyFilter.Proofs.Token.Placing

/-!
  # Reading words back

  The words of a simple filter are written one behind the other, and a scan reads them
  back. What it gives is said here without the rules, by what the tokens are:

      fits         the text of each token is a spelling of its kind
      contiguous   each token begins at the byte where the one in front of it ends
      separable    no two neighbours are read as something else

  Main statement: a scan gives those tokens of this form whose texts make up the filter, and
  nothing else (`filterTokens_ok_iff`). So words that fit their kinds are read back just if
  no two neighbours are ambiguous, and no filter is ever cut into ambiguous ones.
-/

namespace PropertyFilter

/-! ## Section 1: What stands behind a word -/

namespace Matcher

/-- A run takes all that there is of its class. -/
theorem many1_stops {p : Char → Bool} {cs : List Char} {n : Nat} (h : many1 p cs = some n) :
    ∀ c ∈ (cs.drop n).head?, p c = false := by
  obtain ⟨run, rest, rfl, rfl, -, hrun⟩ := takes_many1 p cs n h
  rw [List.drop_left' rfl]
  intro c hc
  by_contra hp
  have hp : p c = true := by simpa using hp
  -- otherwise the run would be longer
  obtain ⟨more, rfl⟩ := List.head?_eq_some_iff.mp hc
  have hlonger : (run ++ c :: more).takeWhile p = run ++ c :: more.takeWhile p := by
    rw [List.takeWhile_append_of_pos hrun, List.takeWhile_cons_of_pos hp]
  unfold many1 at h
  rw [hlonger] at h
  cases run with
  | nil => simp at h
  | cons d run => simp at h

/-- No digit is left behind a number. -/
theorem number_stops {cs : List Char} {n : Nat} (h : number cs = some n) :
    ∀ c ∈ (cs.drop n).head?, Digits.isDigit c = false := by
  obtain ⟨a, b, ha, hb, rfl⟩ := exists_of_followedBy h
  unfold orNothing at hb
  obtain rfl := Option.some.inj hb
  cases hfraction : (word ".").followedBy (many1 Digits.isDigit) (cs.drop a) with
  | none => exact many1_stops ha
  | some k =>
    -- the decimals are a run of digits as well
    obtain ⟨i, j, -, hj, rfl⟩ := exists_of_followedBy hfraction
    have hstops := many1_stops hj
    rw [List.drop_drop, List.drop_drop] at hstops
    exact hstops

end Matcher

/-- A word with one spelling is spelled that way. -/
theorem Fits.eq_spelling {kind : FilterWord} {chars : List Char} {s : String}
    (h : Fits kind chars) (hs : kind.spelling? = some s) : chars = s.toList := by
  cases h with
  | fixed hs' =>
    rw [hs] at hs'
    rw [Option.some.inj hs']
  | whole | fraction | quoted => cases hs

/-- A number begins with a digit. -/
theorem Fits.exists_digit {chars : List Char} (h : Fits .number chars) :
    ∃ c cs, chars = c :: cs ∧ Digits.isDigit c = true := by
  have hrun {digits : List Char} (hdigits : Digits.isRun digits = true) :
      ∃ c cs, digits = c :: cs ∧ Digits.isDigit c = true := by
    obtain ⟨hne, hall⟩ := isRun_iff.mp hdigits
    obtain ⟨c, cs, rfl⟩ := List.exists_cons_of_ne_nil hne
    exact ⟨c, cs, rfl, hall c (List.mem_cons_self ..)⟩
  cases h with
  | fixed hs => cases hs
  | whole hdigits => exact hrun hdigits
  | fraction hdigits =>
    obtain ⟨c, cs, rfl, hc⟩ := hrun hdigits
    exact ⟨c, _, rfl, hc⟩

/-- Numbers have a rule of their own. -/
theorem matcher_of_number {r : Rule FilterWord} (hr : r ∈ filterRules)
    (hkind : r.kind = .number) : r.matcher = .number := by
  simp only [filterRules, List.mem_cons, List.not_mem_nil, or_false] at hr
  rcases hr with rfl | rfl | rfl | rfl | rfl | rfl | rfl | rfl | rfl | rfl | rfl | rfl | rfl
  all_goals first | rfl | cases hkind

/-- A `>` or a `<` with `=` behind it is taken together with it, since `>=` and `<=` are tried
first. -/
theorem firstMatch?_before_equal {kind : FilterWord}
    (hkind : kind = .greaterThan ∨ kind = .lessThan) (rest : List Char) :
    ∃ s, kind.spelling? = some s ∧
      (firstMatch? filterRules (s.toList ++ ("=".toList ++ rest))).map Prod.snd =
        some (s.toList.length + 1) := by
  rcases hkind with rfl | rfl
  · exact ⟨">", rfl, rfl⟩
  · exact ⟨"<", rfl, rfl⟩

/-- **Two words**: where the first match takes one of them, it does not go on with the other. -/
theorem separable_of_match {p q : Piece FilterWord} {rest : List Char}
    (hp : Fits p.kind p.chars) (hq : Fits q.kind q.chars)
    (h : firstMatch? filterRules (p.chars ++ (q.chars ++ rest)) =
      some (p.kind, p.chars.length)) : Separable p.kind q.kind := by
  constructor
  · -- a number takes every digit behind it
    rintro ⟨hnumber, hbehind⟩
    obtain ⟨r, hr, hkind, htake⟩ := exists_rule_of_firstMatch? h
    rw [matcher_of_number hr (hkind.trans hnumber)] at htake
    have hstops := Matcher.number_stops htake
    rw [List.drop_left' rfl] at hstops
    rw [hbehind] at hq
    obtain ⟨c, cs, hchars, hc⟩ := hq.exists_digit
    rw [hstops c (by simp [hchars])] at hc
    cases hc
  · rintro ⟨hsign, hequal⟩
    rw [hequal] at hq
    obtain ⟨s, hs, hlonger⟩ := firstMatch?_before_equal hsign rest
    rw [hp.eq_spelling hs, hq.eq_spelling rfl] at h
    -- the match is longer than the sign
    rw [h] at hlonger
    have hlength := Option.some.inj hlonger
    simp at hlength

/-! ## Section 2: Many words -/

/-- Where each piece is a first match, no neighbours are read as something else. -/
theorem separate_of_matched {ps : List (Piece FilterWord)}
    (hfits : ∀ p ∈ ps, Fits p.kind p.chars) (h : Matched filterRules ps) :
    ps.IsChain Separate := by
  induction h with
  | nil => exact .nil
  | @cons p ps hfirst _ ih =>
    obtain ⟨hp, hrest⟩ := List.forall_mem_cons.mp hfits
    rw [List.isChain_cons]
    refine ⟨?_, ih hrest⟩
    intro q hq
    obtain ⟨qs, rfl⟩ := List.head?_eq_some_iff.mp hq
    exact separable_of_match hp (hrest q (List.mem_cons_self ..)) hfirst

/-- **Cutting into words**: a text is cut into the words that it is written from, if no
neighbours are ambiguous, and into no others. -/
theorem cut_filterRules_iff {cs : List Char} {ps : List (Piece FilterWord)} :
    cut filterRules cs = (ps, []) ↔
      (∀ p ∈ ps, Fits p.kind p.chars) ∧ Piece.concat ps = cs ∧ ps.IsChain Separate := by
  constructor
  · intro h
    have hfits := fits_of_mem_cut cs
    have hmatched : (cut filterRules cs).2 = [] → Matched filterRules (cut filterRules cs).1 :=
      matched_of_cut takes_filterRules
    have hconcat := cut_concat filterRules cs
    rw [h] at hfits hmatched hconcat
    rw [List.append_nil] at hconcat
    exact ⟨hfits, hconcat, separate_of_matched hfits (hmatched rfl)⟩
  · rintro ⟨hfits, rfl, hsep⟩
    exact cut_filterRules hfits hsep

/-- **Reading undoes writing, off the ambiguous pairs and only there.** The tokens of a filter
are those whose texts fit their kinds and make up the filter, one behind the other, with no
two neighbours that are read as something else. -/
theorem filterTokens_ok_iff (value : String) (tokens : List FilterToken) :
    filterTokens value = .ok tokens ↔
      (∀ t ∈ tokens, Fits t.kind t.text.toList) ∧ String.join (tokens.map Token.text) = value ∧
        Contiguous 0 tokens ∧ tokens.IsChain fun t u => Separable t.kind u.kind := by
  have hscan : filterTokens value = .ok tokens ↔
      cut filterRules value.toList = (tokens.map Token.toPiece, []) ∧ Contiguous 0 tokens :=
    scan_ok_iff_contiguous rfl
  have hseparate : (tokens.map Token.toPiece).IsChain Separate ↔
      tokens.IsChain fun t u => Separable t.kind u.kind :=
    List.isChain_map Token.toPiece
  rw [hscan, cut_filterRules_iff, concat_toPiece, hseparate, List.forall_mem_map]
  constructor
  · rintro ⟨⟨hfits, htext, hsep⟩, hplaces⟩
    exact ⟨hfits, htext, hplaces, hsep⟩
  · rintro ⟨hfits, htext, hplaces, hsep⟩
    exact ⟨⟨hfits, htext, hsep⟩, hplaces⟩

end PropertyFilter
