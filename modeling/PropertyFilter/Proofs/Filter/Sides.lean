import PropertyFilter.Proofs.Filter.Front

/-!
  # The sides of a connective

  Two simple filters with a sign between them are split at that sign, and what is on either
  side of it is split further if the rules do not take all of it at once. A part of a split
  is stripped of white space, of which a simple filter has none at its ends.

  Main statement: two simple filters with a sign between them are split without an error,
  and they are a compound filter just if both are kept whole
  (`SimpleFilter.splitTokens_joined`).
-/

namespace PropertyFilter

/-! ## Section 1: Ends without white space -/

theorem isBlank_of_isNumeric {c : Char} (hc : isNumeric c = true) : Text.isBlank c = false := by
  unfold isNumeric at hc
  rw [Bool.or_eq_true, Digits.isDigit_iff_code, beq_iff_eq] at hc
  rcases hc with ⟨hzero, hnine⟩ | rfl
  · exact isBlank_of_visible (by omega) (by omega)
  · decide

/-- A word has no white space at either end, whatever a quoted text holds. -/
theorem Fits.trimmed {kind : FilterWord} {chars : List Char} (h : Fits kind chars) :
    Trimmed chars := by
  have hall (hchars : ∀ c ∈ chars, Text.isBlank c = false) : Trimmed chars :=
    ⟨fun c hc => hchars c (List.mem_of_mem_head? hc),
      fun c hc => hchars c (List.mem_of_mem_getLast? hc)⟩
  by_cases hnumber : kind = .number
  · subst hnumber
    exact hall fun c hc => isBlank_of_isNumeric (h.all_numeric c hc)
  · cases h with
    | @fixed _ s hs =>
      have hchars : s.toList.all (!Text.isBlank ·) = true := by cases kind <;> cases hs <;> decide
      apply hall
      intro c hc
      simpa using List.all_eq_true.mp hchars c hc
    | whole | fraction => exact absurd rfl hnumber
    | quoted =>
      -- the ends are the quotes
      constructor
      · intro c hc
        obtain rfl : '\'' = c := Option.some.inj hc
        decide
      · intro c hc
        rw [List.getLast?_concat] at hc
        obtain rfl : '\'' = c := Option.some.inj hc
        decide

theorem SimpleFilter.trim_text (f : SimpleFilter) : Text.trim f.text.toList = f.text.toList := by
  have hwords (ps : List (Piece FilterWord)) (hps : ∀ p ∈ ps, IsWord p) :
      Trimmed (Piece.concat ps) := by
    induction ps with
    | nil => exact ⟨by simp, by simp⟩
    | cons p ps ih =>
      rw [Piece.concat_cons]
      exact (hps p (List.mem_cons_self ..)).fits.trimmed.append
        (ih fun q hq => hps q (List.mem_cons_of_mem _ hq))
  rw [← f.concat_words]
  exact (hwords f.words f.isWord_words).trim_eq

/-! ## Section 2: Two sides -/

/-- A sign is a piece of its own. -/
theorem splitMatch_sign (c : Connective) (rest : List Char) :
    firstMatch? splitRules (c.sign :: rest) = some (.connective c, 1) := by
  cases c with
  | and => rfl
  | or => rfl

theorem cut_sign (c : Connective) (rest : List Char) :
    cut splitRules (c.sign :: rest) =
      (⟨.connective c, [c.sign]⟩ :: (cut splitRules rest).1, (cut splitRules rest).2) :=
  @cut_append _ splitRules _ [c.sign] rest (splitMatch_sign c rest)

section cut
variable {side rest : List Char}

theorem FirstPart.cut_whole (h : FirstPart side rest true) :
    ∃ kind, cut splitRules (side ++ rest) =
      (⟨kind, side⟩ :: (cut splitRules rest).1, (cut splitRules rest).2) := by
  cases h with
  | whole hfirst => exact ⟨_, cut_append hfirst⟩

/-- A side that is not kept whole is cut at a quote. -/
theorem FirstPart.cut_quote (h : FirstPart side rest false)
    (hcut : (cut splitRules (side ++ rest)).2 = []) :
    ∃ p q ps, (cut splitRules (side ++ rest)).1 = p :: q :: ps ∧ q.kind.connective? = none := by
  cases h with
  | @quote front back _ kind hfirst =>
    rw [List.append_assoc] at hfirst hcut ⊢
    rw [cut_append hfirst] at hcut ⊢
    generalize htext : '\'' :: back ++ rest = text at hcut ⊢
    have hconcat := cut_concat splitRules text
    cases hps : (cut splitRules text).1 with
    | nil =>
      rw [hps, hcut, ← htext] at hconcat
      cases hconcat
    | cons q ps =>
      refine ⟨_, q, ps, rfl, ?_⟩
      have hq : q ∈ (cut splitRules text).1 := by simp [hps]
      cases q with
      | mk kind chars =>
        cases isPart_of_mem_cut text _ hq with
        | operand hkind => exact hkind
        | sign c =>
          -- the piece begins with the quote
          have hhead := head?_of_cut hps (by simp)
          rw [← htext] at hhead
          exact absurd (Option.some.inj hhead).symm (sign_ne_quote c)

end cut

theorem ofTokens?_of_second {t u : SplitToken} {ts : List SplitToken}
    (h : u.kind.connective? = none) : Compound.ofTokens? (t :: u :: ts) = none := by
  unfold Compound.ofTokens?
  split
  · next hlist =>
    cases hlist
    cases h
  · rfl

theorem ofTokens?_of_four (t u v w : SplitToken) (ts : List SplitToken) :
    Compound.ofTokens? (t :: u :: v :: w :: ts) = none := by
  unfold Compound.ofTokens?
  split
  · next hlist => cases hlist
  · rfl

/-- **Two simple filters with a sign between them** are split without an error, and they are
a compound filter just if both are kept whole. -/
theorem SimpleFilter.splitTokens_joined (l r : SimpleFilter) (c : Connective) :
    ∃ tokens, splitTokens (l.text ++ String.singleton c.sign ++ r.text) = .ok tokens ∧
      Compound.ofTokens? tokens =
        if l.keptWhole && r.keptWhole then some ⟨l.text, c, r.text⟩ else none := by
  have htext : (l.text ++ String.singleton c.sign ++ r.text).toList =
      l.text.toList ++ c.sign :: r.text.toList := by simp
  have hpaired : Paired (l.text.toList ++ c.sign :: r.text.toList) ([] ++ [c]) :=
    l.paired_text.append (.sign c r.paired_text)
  have hcut := (cut_splitRules hpaired).1
  have hleft := l.firstPart_text (.sign c r.text.toList)
  have hright := r.firstPart_text .nil
  refine ⟨_, splitTokens_ok_iff.mpr ⟨by rwa [htext], rfl⟩, ?_⟩
  rw [htext]
  cases hl : l.keptWhole with
  | false =>
    -- the left side falls apart, and its second part is no connective
    rw [hl] at hleft
    obtain ⟨p, q, ps, hps, hq⟩ := hleft.cut_quote hcut
    rw [hps]
    exact ofTokens?_of_second (by simpa using hq)
  | true =>
    rw [hl] at hleft
    obtain ⟨kind, hparts⟩ := hleft.cut_whole
    rw [hparts, cut_sign] at hcut ⊢
    rw [← List.append_nil r.text.toList] at hcut ⊢
    cases hr : r.keptWhole with
    | false =>
      -- the right side falls apart, so there are more than three parts
      rw [hr] at hright
      obtain ⟨p, q, ps, hps, -⟩ := hright.cut_quote hcut
      rw [hps]
      exact ofTokens?_of_four ..
    | true =>
      rw [hr] at hright
      obtain ⟨kind', hparts'⟩ := hright.cut_whole
      rw [hparts', cut_nil]
      show some (⟨String.ofList (Text.trim l.text.toList), c,
        String.ofList (Text.trim r.text.toList)⟩ : Compound) = some ⟨l.text, c, r.text⟩
      rw [l.trim_text, r.trim_text, String.ofList_toList, String.ofList_toList]

end PropertyFilter
