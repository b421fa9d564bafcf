import PropertyFilter.Proofs.Filter.Sides

/-!
  # White space around a sign

  The parts of a split lose the white space at their ends only after they are cut. So white
  space next to a sign does no harm if the rule that takes the operand takes it as well:

      a -5       plain characters are taken together with the white space behind them
      5 -a       a number is taken without it, and it is a part of its own
      ='a' -5    a quoted text too
      5- a       behind a sign, plain characters are taken with the white space,
      5- ='a'    but only up to a quote

  A number in front of a sign is thus not the same as a number behind it.

  Main statements: two operands are still cut at their sign if white space that is put around
  it is taken in on both sides (`CutAtSign.spaced`), and otherwise the filter is no compound
  (`CutAtSign.apart`).
-/

namespace PropertyFilter

/-! ## Section 1: Fronts that are taken as they are -/

/-- A front that is taken as one part whatever is behind it, but for more of a number. -/
def Settled (front : List Char) : Prop :=
  ∀ rest : List Char, (∀ c ∈ rest.head?, isNumeric c = false) →
    ∃ kind, firstMatch? splitRules (front ++ rest) = some (kind, front.length)

theorem settled_sign (c : Connective) : Settled [c.sign] :=
  fun rest _ => ⟨_, splitMatch_sign c rest⟩

theorem settled_number {front : List Char} (hne : front ≠ [])
    (h : ∀ c ∈ front, isNumeric c = true) : Settled front :=
  fun _ hrest => ⟨_, splitMatch_number hne h hrest⟩

theorem IsQuoted.settled {front : List Char} (h : IsQuoted front) : Settled front := by
  obtain ⟨content, hne, hfree, rfl⟩ := h
  intro rest _
  exact ⟨_, by simpa using splitMatch_quoted hne hfree rest⟩

theorem settled_operator {w : String} (hw : w ∈ quoteOperators) {front : List Char}
    (h : Matcher.Then (· = w.toList) IsQuoted front) : Settled front := by
  obtain ⟨operator, quotedText, rfl, rfl, content, hne, hfree, rfl⟩ := h
  intro rest _
  exact ⟨_, by simpa using splitMatch_operator hw hne hfree rest⟩

/-- Every rule but the last one takes fronts of this form only. -/
theorem takes_settled :
    ∀ r ∈ splitRules, r.matcher.Takes fun cs => Settled cs ∨ ∀ c ∈ cs, isPlain c = true := by
  intro r hr
  have hsign (c : Connective) {w : String} (hw : w.toList = [c.sign]) :
      (Matcher.word w).Takes fun cs => Settled cs ∨ ∀ c ∈ cs, isPlain c = true := by
    refine (Matcher.takes_word w).mono ?_
    rintro cs rfl
    rw [hw]
    exact Or.inl (settled_sign c)
  rw [splitRules_eq] at hr
  simp only [frontRules, List.mem_append, List.mem_cons, List.not_mem_nil, or_false] at hr
  rcases hr with (rfl | rfl | rfl | rfl) | hr | rfl
  · exact hsign .and rfl
  · exact hsign .or rfl
  · exact (Matcher.takes_many1 isNumeric).mono fun _ h => Or.inl (settled_number h.1 h.2)
  · exact takes_quotedText.mono fun _ h => Or.inl h.settled
  · obtain ⟨w, hw, rfl⟩ := List.mem_map.mp hr
    exact (takes_operatorRule w).mono fun _ h => Or.inl (settled_operator hw h)
  · exact (Matcher.takes_many1 _).mono fun _ h => Or.inr h.2

/-- A text that begins with a number is cut behind it. -/
theorem splitMatch_digit {c : Char} (hc : isNumeric c = true) (cs : List Char) :
    firstMatch? splitRules (c :: cs) =
      some (.number, ((c :: cs).takeWhile isNumeric).length) := by
  have hrun : (c :: cs).takeWhile isNumeric ≠ [] := by simp [hc]
  have hall : ∀ d ∈ (c :: cs).takeWhile isNumeric, isNumeric d = true :=
    fun d hd => List.mem_takeWhile_imp hd
  have hend : ∀ d ∈ ((c :: cs).dropWhile isNumeric).head?, isNumeric d = false :=
    Matcher.head?_dropWhile
  have hnumber := splitMatch_number hrun hall hend
  rwa [List.takeWhile_append_dropWhile] at hnumber

/-- **Two ways of being one part**: a first match takes a front of this form, or plain
characters that do not begin with a number. -/
theorem settled_or_plainLead {front rest : List Char} {kind : SplitWord}
    (h : firstMatch? splitRules (front ++ rest) = some (kind, front.length)) :
    Settled front ∨ PlainLead front := by
  have hne : front ≠ [] := List.length_pos_iff.mp (firstMatch?_pos h)
  obtain ⟨c, cs, rfl⟩ := List.exists_cons_of_ne_nil hne
  by_cases hc : isNumeric c = true
  · -- the rule for numbers comes before the one for plain characters
    have hnumber := splitMatch_digit hc (cs ++ rest)
    rw [← List.cons_append, h] at hnumber
    have hlength := (Prod.mk.inj (Option.some.inj hnumber)).2
    have hfront := (List.append_inj List.takeWhile_append_dropWhile hlength.symm).1
    have hall : ∀ d ∈ c :: cs, isNumeric d = true := by
      rw [← hfront]
      exact fun d hd => List.mem_takeWhile_imp hd
    exact Or.inl (settled_number hne hall)
  · obtain ⟨taken, behind, htext, hlength, hshape⟩ :=
      front_of_firstMatch? (P := fun _ cs => Settled cs ∨ ∀ c ∈ cs, isPlain c = true)
        takes_settled h
    obtain ⟨rfl, -⟩ := List.append_inj htext hlength
    rcases hshape with hsettled | hplain
    · exact Or.inl hsettled
    · exact Or.inr ⟨hplain, c, cs, rfl, by simpa using hc⟩

/-! ## Section 2: White space on one side -/

theorem isNumeric_of_isBlank {c : Char} (hc : Text.isBlank c = true) : isNumeric c = false := by
  rw [Bool.eq_false_iff]
  intro hnumeric
  rw [isBlank_of_isNumeric hnumeric] at hc
  cases hc

section blanks
variable {blanks front rest : List Char} {kind : SplitWord}

/-- White space is plain, and no number begins with it. -/
theorem plainLead_of_blank (hne : blanks ≠ [])
    (hblanks : ∀ c ∈ blanks, Text.isBlank c = true) : PlainLead blanks := by
  obtain ⟨c, cs, rfl⟩ := List.exists_cons_of_ne_nil hne
  refine ⟨fun d hd => isPlain_of_isBlank (hblanks d hd), c, cs, rfl, ?_⟩
  exact isNumeric_of_isBlank (hblanks c (List.mem_cons_self ..))

/-- No operator begins with white space. -/
theorem ne_operator_of_blank (hne : blanks ≠ []) (hblanks : ∀ c ∈ blanks, Text.isBlank c = true)
    {w : String} (hw : w ∈ quoteOperators) (more : List Char) : blanks ++ more ≠ w.toList := by
  have hall : ∀ w ∈ quoteOperators, Trimmed w.toList := by decide
  obtain ⟨c, cs, rfl⟩ := List.exists_cons_of_ne_nil hne
  intro heq
  have hblank := (hall w hw).first c (by simp [← heq])
  rw [hblanks c (List.mem_cons_self ..)] at hblank
  cases hblank

/-- White space behind plain characters is taken together with them, and none is no part. -/
theorem cut_spaced_left
    (hfront : firstMatch? splitRules (front ++ rest) = some (kind, front.length))
    (hblanks : ∀ c ∈ blanks, Text.isBlank c = true) (h : blanks = [] ∨ PlainLead front)
    (c : Connective) (tail : List Char) :
    ∃ kind, cut splitRules (front ++ blanks ++ c.sign :: tail) =
      (⟨kind, front ++ blanks⟩ :: ⟨.connective c, [c.sign]⟩ :: (cut splitRules tail).1,
        (cut splitRules tail).2) := by
  have hfirst : ∃ kind, firstMatch? splitRules (front ++ blanks ++ c.sign :: tail) =
      some (kind, (front ++ blanks).length) := by
    by_cases hlead : PlainLead front
    · have hplain : ∀ d ∈ blanks, isPlain d = true :=
        fun d hd => isPlain_of_isBlank (hblanks d hd)
      exact ⟨_, splitMatch_lead (hlead.append hplain) (.sign c tail)⟩
    · -- there is no white space, and the sign ends a number too
      obtain rfl := h.resolve_right hlead
      rw [List.append_nil]
      apply (settled_or_plainLead hfront).resolve_right hlead
      simpa using isNumeric_of_not_plain (isPlain_sign c)
  obtain ⟨kind, hfirst⟩ := hfirst
  exact ⟨kind, by rw [cut_append hfirst, cut_sign]⟩

/-- White space behind any other operand is a part of its own. -/
theorem cut_apart_left
    (hfront : firstMatch? splitRules (front ++ rest) = some (kind, front.length))
    (hblanks : ∀ c ∈ blanks, Text.isBlank c = true) (h : ¬(blanks = [] ∨ PlainLead front))
    (c : Connective) (tail : List Char) :
    ∃ kind, cut splitRules (front ++ blanks ++ c.sign :: tail) =
      (⟨kind, front⟩ :: ⟨.operand, blanks⟩ :: ⟨.connective c, [c.sign]⟩ ::
        (cut splitRules tail).1, (cut splitRules tail).2) := by
  obtain ⟨hne, hlead⟩ := not_or.mp h
  have hsettled : Settled front := (settled_or_plainLead hfront).resolve_right hlead
  have hend : ∀ d ∈ (blanks ++ c.sign :: tail).head?, isNumeric d = false := by
    obtain ⟨b, bs, rfl⟩ := List.exists_cons_of_ne_nil hne
    simpa using isNumeric_of_isBlank (hblanks b (List.mem_cons_self ..))
  obtain ⟨kind, hfirst⟩ := hsettled (blanks ++ c.sign :: tail) hend
  have hsecond := splitMatch_lead (plainLead_of_blank hne hblanks) (.sign c tail)
  exact ⟨kind, by rw [List.append_assoc, cut_append hfirst, cut_append hsecond, cut_sign]⟩

/-- White space in front of plain characters is taken together with them. -/
theorem cut_spaced_right (hfront : cut splitRules front = ([⟨kind, front⟩], []))
    (hblanks : ∀ c ∈ blanks, Text.isBlank c = true)
    (h : blanks = [] ∨ ∀ c ∈ front, isPlain c = true) :
    ∃ kind, cut splitRules (blanks ++ front) = ([⟨kind, blanks ++ front⟩], []) := by
  by_cases hne : blanks = []
  · subst hne
    exact ⟨kind, hfront⟩
  · have hlead := (plainLead_of_blank hne hblanks).append (h.resolve_left hne)
    have hcut := cut_append (splitMatch_lead hlead .nil)
    rw [List.append_nil, cut_nil] at hcut
    exact ⟨_, hcut⟩

/-- White space in front of any other operand is taken up to the first quote or sign of it, so
that something is left. -/
theorem cut_apart_right (hblanks : ∀ c ∈ blanks, Text.isBlank c = true)
    (h : ¬(blanks = [] ∨ ∀ c ∈ front, isPlain c = true)) :
    ∃ p more, more ≠ [] ∧ cut splitRules (blanks ++ front) =
      (p :: (cut splitRules more).1, (cut splitRules more).2) := by
  obtain ⟨hne, hplain⟩ := not_or.mp h
  have hmore : front.dropWhile isPlain ≠ [] := by
    rw [ne_eq, List.dropWhile_eq_nil_iff]
    exact hplain
  have hlead : PlainLead (blanks ++ front.takeWhile isPlain) :=
    (plainLead_of_blank hne hblanks).append fun c hc => List.mem_takeWhile_imp hc
  have hend : ∀ c ∈ (front.dropWhile isPlain).head?, isPlain c = false := Matcher.head?_dropWhile
  have hfirst := splitMatch_plain hlead hend fun w hw heq =>
    absurd heq (ne_operator_of_blank hne hblanks hw _)
  have hcut := cut_append hfirst
  rw [List.append_assoc, List.takeWhile_append_dropWhile] at hcut
  exact ⟨_, _, hmore, hcut⟩

end blanks

/-! ## Section 3: White space on both sides -/

/-- Two operands that are cut at the sign between them. -/
def CutAtSign (left : List Char) (c : Connective) (right : List Char) : Prop :=
  ∃ k₁ k₂, cut splitRules (left ++ c.sign :: right) =
    ([⟨k₁, left⟩, ⟨.connective c, [c.sign]⟩, ⟨k₂, right⟩], [])

section sign
variable {left right before behind : List Char} {c : Connective}

/-- The left operand is what is taken first, and the right one is cut on its own. -/
theorem CutAtSign.operands (h : CutAtSign left c right) :
    ∃ k₁ k₂, firstMatch? splitRules (left ++ c.sign :: right) = some (k₁, left.length) ∧
      cut splitRules right = ([⟨k₂, right⟩], []) := by
  obtain ⟨k₁, k₂, hcut⟩ := h
  have hmatched := matched_of_cut takes_splitRules (congrArg Prod.snd hcut)
  rw [hcut] at hmatched
  cases hmatched with
  | cons hfirst hmatched =>
    cases hmatched with
    | cons _ hmatched =>
      have hright := cut_concat_eq hmatched
      simp only [Piece.concat_cons, Piece.concat_nil, List.append_nil] at hfirst hright
      exact ⟨k₁, k₂, hfirst, hright⟩

theorem CutAtSign.ne_nil (h : CutAtSign left c right) : left ≠ [] ∧ right ≠ [] := by
  obtain ⟨k₁, k₂, hfirst, hcut⟩ := h.operands
  refine ⟨List.length_pos_iff.mp (firstMatch?_pos hfirst), ?_⟩
  rintro rfl
  rw [cut_nil] at hcut
  cases hcut

/-- With white space around the sign, the quotes are still in pairs and the sign is outside. -/
theorem CutAtSign.paired_spaced (h : CutAtSign left c right)
    (hbefore : ∀ d ∈ before, Text.isBlank d = true)
    (hbehind : ∀ d ∈ behind, Text.isBlank d = true) :
    ∃ signs others, Paired (left ++ before ++ c.sign :: (behind ++ right))
      (signs ++ c :: others) := by
  obtain ⟨k₁, k₂, hcut⟩ := h
  have hpart := isPart_of_mem_cut (left ++ c.sign :: right)
  rw [hcut] at hpart
  have hblank {blanks : List Char} (hblanks : ∀ d ∈ blanks, Text.isBlank d = true) :
      Paired blanks [] :=
    paired_plain fun d hd => isPlain_of_isBlank (hblanks d hd)
  have hleft : Paired left k₁.connective?.toList := (hpart ⟨k₁, left⟩ (by simp)).paired
  have hright : Paired right k₂.connective?.toList := (hpart ⟨k₂, right⟩ (by simp)).paired
  have hfront := hleft.append (hblank hbefore)
  have hback := (hblank hbehind).append hright
  exact ⟨_, _, hfront.append (.sign c hback)⟩

/-- **White space that is taken in** on both sides leaves the operands as they are, each with
its own white space. -/
theorem CutAtSign.spaced (h : CutAtSign left c right)
    (hbefore : ∀ d ∈ before, Text.isBlank d = true) (hbehind : ∀ d ∈ behind, Text.isBlank d = true)
    (hleft : before = [] ∨ PlainLead left)
    (hright : behind = [] ∨ ∀ d ∈ right, isPlain d = true) :
    CutAtSign (left ++ before) c (behind ++ right) := by
  obtain ⟨k₁, k₂, hfirst, hcut⟩ := h.operands
  obtain ⟨k₁, hparts⟩ := cut_spaced_left hfirst hbefore hleft c (behind ++ right)
  obtain ⟨k₂, hlast⟩ := cut_spaced_right hcut hbehind hright
  rw [hlast] at hparts
  exact ⟨k₁, k₂, hparts⟩

/-- **White space that is a part of its own**, or is taken without all of the operand, makes
a filter that is no compound. -/
theorem CutAtSign.apart (h : CutAtSign left c right)
    (hbefore : ∀ d ∈ before, Text.isBlank d = true) (hbehind : ∀ d ∈ behind, Text.isBlank d = true)
    (hspaced : ¬((before = [] ∨ PlainLead left) ∧
      (behind = [] ∨ ∀ d ∈ right, isPlain d = true))) :
    Compound.ofTokens?
      (placed true 0 (cut splitRules (left ++ before ++ c.sign :: (behind ++ right))).1) =
        none := by
  obtain ⟨signs, others, hpaired⟩ := h.paired_spaced hbefore hbehind
  have hrest := (cut_splitRules hpaired).1
  obtain ⟨k₁, k₂, hfirst, -⟩ := h.operands
  by_cases hleft : before = [] ∨ PlainLead left
  · -- there are more than three parts
    obtain ⟨kind, hparts⟩ := cut_spaced_left hfirst hbefore hleft c (behind ++ right)
    have hright := fun h => hspaced ⟨hleft, h⟩
    obtain ⟨p, more, hmore, hcut⟩ := cut_apart_right hbehind hright
    rw [hparts, hcut] at hrest ⊢
    have hconcat := cut_concat splitRules more
    rw [show (cut splitRules more).2 = [] from hrest, List.append_nil] at hconcat
    cases hps : (cut splitRules more).1 with
    | nil =>
      rw [hps] at hconcat
      exact absurd hconcat.symm hmore
    | cons q ps => exact ofTokens?_of_four ..
  · -- the second part is the white space
    obtain ⟨kind, hparts⟩ := cut_apart_left hfirst hbefore hleft c (behind ++ right)
    rw [hparts]
    exact ofTokens?_of_second rfl

end sign

end PropertyFilter
