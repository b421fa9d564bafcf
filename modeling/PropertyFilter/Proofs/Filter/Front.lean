import PropertyFilter.Proofs.Filter.Simple

/-!
  # The front of a simple filter

  When a filter is split, the rules are asked in their order, and the first one that takes
  something decides. Of a simple filter it takes

      12  >=1.5  !=3  in(1,2)      all of it, since there is no quote
      ='a'  >='a'  ~'a'  !'a'      all of it, by the rule of the operator
      !='a'  in(1,'a')             the characters in front of the first quote, since no
                                   rule has such a front with a quoted text behind it

  if nothing is behind the filter or the sign of a connective is.

  Main statement: `SimpleFilter.firstPart_text`, of every simple filter.
-/

namespace PropertyFilter

/-! ## Section 1: Texts that rules take nothing from -/

/-- The end of a side: nothing is behind it, or the sign of a connective. -/
inductive SideEnd : List Char → Prop
  | nil : SideEnd []
  | sign (c : Connective) (rest : List Char) : SideEnd (c.sign :: rest)

theorem SideEnd.head {rest : List Char} (h : SideEnd rest) :
    ∀ c ∈ rest.head?, isPlain c = false ∧ c ≠ '\'' := by
  cases h with
  | nil => simp
  | sign c rest =>
    intro d hd
    obtain rfl : c.sign = d := Option.some.inj hd
    exact ⟨isPlain_sign c, sign_ne_quote c⟩

theorem sign_ne_of_isPlain {c : Char} (hc : isPlain c = true) (conn : Connective) :
    conn.sign ≠ c := by
  rintro rfl
  rw [isPlain_sign] at hc
  cases hc

/-- What is a quote or a sign is in no number. -/
theorem isNumeric_of_not_plain {c : Char} (hc : isPlain c = false) : isNumeric c = false := by
  rw [Bool.eq_false_iff]
  intro hnumeric
  rw [isPlain_of_isNumeric hnumeric] at hc
  cases hc

theorem quotedText_eq_none {cs : List Char} (h : ∀ c ∈ cs.head?, c ≠ '\'') :
    Matcher.quotedText cs = none := by
  have hopen : Matcher.word "'" cs = none := by
    cases cs with
    | nil => exact Matcher.word_nil (by decide)
    | cons c cs => exact Matcher.word_eq_none rfl (h c rfl).symm
  exact Matcher.followedBy_eq_none (Matcher.followedBy_eq_none hopen _) _

/-- A text of plain characters that does not begin like a number. -/
structure PlainLead (cs : List Char) : Prop where
  plain : ∀ c ∈ cs, isPlain c = true
  head : ∃ c rest, cs = c :: rest ∧ isNumeric c = false

theorem PlainLead.append {lead more : List Char} (h : PlainLead lead)
    (hmore : ∀ c ∈ more, isPlain c = true) : PlainLead (lead ++ more) := by
  obtain ⟨c, rest, rfl, hnumeric⟩ := h.head
  exact ⟨List.forall_mem_append.mpr ⟨h.plain, hmore⟩, c, rest ++ more, rfl, hnumeric⟩

theorem plainLead_iff {cs : List Char} :
    PlainLead cs ↔ (cs.all isPlain && cs.head?.any (!isNumeric ·)) = true := by
  rw [Bool.and_eq_true, List.all_eq_true]
  constructor
  · rintro ⟨hplain, c, rest, rfl, hnumeric⟩
    exact ⟨hplain, by simp [hnumeric]⟩
  · rintro ⟨hplain, hhead⟩
    cases cs with
    | nil => cases hhead
    | cons c rest => exact ⟨hplain, c, rest, rfl, by simpa using hhead⟩

instance (cs : List Char) : Decidable (PlainLead cs) := decidable_of_iff _ plainLead_iff.symm

theorem plainLead_of_operator {w : String} (hw : w ∈ quoteOperators) : PlainLead w.toList := by
  have hall : ∀ w ∈ quoteOperators, PlainLead w.toList := by decide
  exact hall w hw

section front
variable {front content rest : List Char} {w : String}

/-- The rule of an operator takes nothing from plain characters, unless they are the operator
itself and a quoted text is behind them. -/
theorem operatorRule_eq_none (hw : w ∈ quoteOperators) (hfront : ∀ c ∈ front, isPlain c = true)
    (hrest : ∀ c ∈ rest.head?, isPlain c = false)
    (hquoted : front = w.toList → Matcher.quotedText rest = none) :
    (operatorRule w).matcher (front ++ rest) = none := by
  cases hword : Matcher.word w (front ++ rest) with
  | none => exact Matcher.followedBy_eq_none hword _
  | some n =>
    obtain ⟨more, hmore, rfl⟩ := Matcher.exists_of_word hword
    apply Matcher.followedBy_eq_none_of_next hword
    rw [hmore, List.drop_left' rfl]
    rcases List.append_eq_append_iff.mp hmore with ⟨behind, hlonger, rfl⟩ | ⟨behind, rfl, rfl⟩
    · cases behind with
      | nil =>
        rw [List.append_nil] at hlonger
        exact hquoted hlonger.symm
      | cons c behind =>
        -- the operator would go on where the plain characters end
        have hplain : isPlain c = true := isPlain_of_operator hw c (by simp [hlonger])
        rw [hrest c rfl] at hplain
        cases hplain
    · cases behind with
      | nil => exact hquoted (List.append_nil _)
      | cons c behind =>
        have hplain : isPlain c = true := hfront c (by simp)
        exact quotedText_eq_none (by simpa using ne_quote_of_isPlain hplain)

/-- The rules in front of the operators are for signs, numbers and quoted texts. -/
theorem frontRules_eq_none (hfront : PlainLead front) :
    ∀ r ∈ frontRules, r.matcher (front ++ rest) = none := by
  obtain ⟨c, cs, rfl, hnumeric⟩ := hfront.head
  have hplain : isPlain c = true := hfront.plain c (List.mem_cons_self ..)
  have hquoted : Matcher.quotedText (c :: (cs ++ rest)) = none :=
    quotedText_eq_none (by simpa using ne_quote_of_isPlain hplain)
  intro r hr
  simp only [frontRules, List.mem_cons, List.not_mem_nil, or_false] at hr
  rcases hr with rfl | rfl | rfl | rfl
  · exact Matcher.word_eq_none rfl (sign_ne_of_isPlain hplain .and)
  · exact Matcher.word_eq_none rfl (sign_ne_of_isPlain hplain .or)
  · exact Matcher.many1_eq_none hnumeric
  · exact hquoted

/-! ## Section 2: First matches -/

/-- The characters of a number are taken together. -/
theorem splitMatch_number (hne : front ≠ []) (hfront : ∀ c ∈ front, isNumeric c = true)
    (hrest : ∀ c ∈ rest.head?, isNumeric c = false) :
    firstMatch? splitRules (front ++ rest) = some (.number, front.length) := by
  obtain ⟨c, cs, rfl⟩ := List.exists_cons_of_ne_nil hne
  have hc : isPlain c = true := isPlain_of_isNumeric (hfront c (List.mem_cons_self ..))
  have hplus : Matcher.word "+" (c :: cs ++ rest) = none :=
    Matcher.word_eq_none rfl (sign_ne_of_isPlain hc .and)
  have hminus : Matcher.word "-" (c :: cs ++ rest) = none :=
    Matcher.word_eq_none rfl (sign_ne_of_isPlain hc .or)
  have hrun : Matcher.many1 isNumeric (c :: cs ++ rest) = some (c :: cs).length :=
    Matcher.many1_append hne hfront hrest
  unfold splitRules
  rw [firstMatch?_cons_of_none hplus, firstMatch?_cons_of_none hminus]
  exact firstMatch?_cons_of_some hrun (Nat.succ_pos _)

/-- A quoted text is taken by itself. -/
theorem splitMatch_quoted (hne : content ≠ []) (hfree : '\'' ∉ content) (rest : List Char) :
    firstMatch? splitRules ('\'' :: (content ++ '\'' :: rest)) =
      some (.operand, content.length + 2) := by
  have hplus : Matcher.word "+" ('\'' :: (content ++ '\'' :: rest)) = none :=
    Matcher.word_eq_none rfl (sign_ne_quote .and)
  have hminus : Matcher.word "-" ('\'' :: (content ++ '\'' :: rest)) = none :=
    Matcher.word_eq_none rfl (sign_ne_quote .or)
  have hnumber : Matcher.many1 isNumeric ('\'' :: (content ++ '\'' :: rest)) = none :=
    Matcher.many1_eq_none (by decide)
  unfold splitRules
  rw [firstMatch?_cons_of_none hplus, firstMatch?_cons_of_none hminus,
    firstMatch?_cons_of_none hnumber]
  exact firstMatch?_cons_of_some (quotedText_append hne hfree rest) (Nat.succ_pos _)

/-- Plain characters are taken together if they do not begin with a number and are no operator
with a quoted text behind it. -/
theorem splitMatch_plain (hfront : PlainLead front) (hrest : ∀ c ∈ rest.head?, isPlain c = false)
    (hquoted : ∀ w ∈ quoteOperators, front = w.toList → Matcher.quotedText rest = none) :
    firstMatch? splitRules (front ++ rest) = some (.operand, front.length) := by
  have hne : front ≠ [] := by
    obtain ⟨c, cs, rfl, -⟩ := hfront.head
    exact List.cons_ne_nil _ _
  have hrun : Matcher.plainRun (front ++ rest) = some front.length :=
    Matcher.many1_append hne hfront.plain hrest
  have hoperators : ∀ r ∈ quoteOperators.map operatorRule,
      r.matcher (front ++ rest) = none := by
    intro r hr
    obtain ⟨w, hw, rfl⟩ := List.mem_map.mp hr
    exact operatorRule_eq_none hw hfront.plain hrest (hquoted w hw)
  rw [splitRules_eq, firstMatch?_append_of_none (frontRules_eq_none hfront),
    firstMatch?_append_of_none hoperators]
  exact firstMatch?_cons_of_some hrun (List.length_pos_of_ne_nil hne)

/-- In front of a sign, or of nothing, plain characters that do not begin with a number are
always taken together. -/
theorem splitMatch_lead (hfront : PlainLead front) (hrest : SideEnd rest) :
    firstMatch? splitRules (front ++ rest) = some (.operand, front.length) := by
  have hquoted : Matcher.quotedText rest = none :=
    quotedText_eq_none fun c hc => (hrest.head c hc).2
  exact splitMatch_plain hfront (fun c hc => (hrest.head c hc).1) fun _ _ _ => hquoted

/-- An operator is taken together with the quoted text behind it. -/
theorem splitMatch_operator (hw : w ∈ quoteOperators) (hne : content ≠ [])
    (hfree : '\'' ∉ content) (rest : List Char) :
    firstMatch? splitRules (w.toList ++ '\'' :: (content ++ '\'' :: rest)) =
      some (.operand, w.toList.length + (content.length + 2)) := by
  have htake : (operatorRule w).matcher (w.toList ++ '\'' :: (content ++ '\'' :: rest)) =
      some (w.toList.length + (content.length + 2)) := by
    apply Matcher.followedBy_eq_some (Matcher.word_append w _)
    rw [List.drop_left' rfl]
    exact quotedText_append hne hfree rest
  obtain ⟨front, behind, hsplit, hfirst⟩ := List.eq_append_cons_of_mem hw
  -- the operators in front are other ones
  have hothers : ∀ r ∈ front.map operatorRule,
      r.matcher (w.toList ++ '\'' :: (content ++ '\'' :: rest)) = none := by
    intro r hr
    obtain ⟨v, hv, rfl⟩ := List.mem_map.mp hr
    have hmem : v ∈ quoteOperators := by
      rw [hsplit]
      exact List.mem_append_left _ hv
    have hquote : isPlain '\'' = false := by decide
    apply operatorRule_eq_none hmem (isPlain_of_operator hw) (by simpa using hquote)
    intro hwv
    rw [String.toList_inj.mp hwv] at hfirst
    exact absurd hv hfirst
  rw [splitRules_eq, firstMatch?_append_of_none (frontRules_eq_none (plainLead_of_operator hw)),
    hsplit, List.map_append, List.append_assoc, firstMatch?_append_of_none hothers]
  exact firstMatch?_cons_of_some htake (by omega)

end front

/-! ## Section 3: Quotes in a simple filter -/

/-- Is an operand a quoted text? -/
def Operand.isQuoted : Operand → Bool
  | number _ => false
  | quoted _ => true

/-- Is a simple filter one part of a split? The other ones fall apart at a quote. -/
def SimpleFilter.keptWhole : SimpleFilter → Bool
  | bare _ | equality false _ | comparison _ _ | search _ | negatedValue _ => true
  | equality true v => !v.isQuoted
  | membership _ first rest => !(first :: rest).any Operand.isQuoted

theorem Operand.quote_mem_text (v : Operand) : '\'' ∈ v.text.toList ↔ v.isQuoted = true := by
  cases v with
  | number n =>
    have hkind : (number n).word.kind ≠ .quoted := FilterWord.noConfusion
    have hplain : ∀ c ∈ (number n).text.toList, isPlain c = true :=
      (number n).word_fits.all_plain hkind
    simp only [isQuoted, Bool.false_eq_true, iff_false]
    exact fun hmem => ne_quote_of_isPlain (hplain '\'' hmem) rfl
  | quoted s =>
    rw [toList_text_quoted]
    simp [isQuoted]

/-- A list has a quote in it if one of its operands has. -/
theorem quote_mem_listWords (v : Operand) (rest : List Operand) :
    '\'' ∈ Piece.concat (listWords v rest) ↔ (v :: rest).any Operand.isQuoted = true := by
  induction rest generalizing v with
  | nil =>
    have hclose : '\'' ∉ FilterWord.closeBracket.piece.chars := by decide
    simp [listWords, Operand.word, v.quote_mem_text, hclose]
  | cons w rest ih =>
    have hcomma : '\'' ∉ FilterWord.comma.piece.chars := by decide
    simp [listWords, Operand.word, v.quote_mem_text, hcomma, ih w]

/-- In front of its first quote a text without a sign outside quotes is plain. -/
theorem Paired.exists_front {cs : List Char} (h : Paired cs []) :
    ∃ front back, cs = front ++ back ∧ (∀ c ∈ front, isPlain c = true) ∧
      (back = [] ∧ '\'' ∉ cs ∨ back.head? = some '\'' ∧ '\'' ∈ cs) := by
  generalize hsigns : ([] : List Connective) = signs at h
  induction h with
  | nil => exact ⟨[], [], rfl, by simp, Or.inl ⟨rfl, by simp⟩⟩
  | @plain c cs signs hc _ ih =>
    obtain ⟨front, back, rfl, hfront, hback⟩ := ih hsigns
    have hquote : '\'' ≠ c := (ne_quote_of_isPlain hc).symm
    refine ⟨c :: front, back, rfl, List.forall_mem_cons.mpr ⟨hc, hfront⟩, ?_⟩
    simpa [hquote] using hback
  | sign => cases hsigns
  | @quoted content cs => exact ⟨[], _, rfl, by simp, Or.inr ⟨rfl, by simp⟩⟩

/-! ## Section 4: The front of a simple filter -/

/-- `FirstPart side rest whole`: the first match takes the whole side or, if there is more,
the characters up to a quote. -/
inductive FirstPart : List Char → List Char → Bool → Prop
  | whole {side rest : List Char} {kind : SplitWord} :
      firstMatch? splitRules (side ++ rest) = some (kind, side.length) →
      FirstPart side rest true
  | quote {front back rest : List Char} {kind : SplitWord} :
      firstMatch? splitRules (front ++ '\'' :: back ++ rest) = some (kind, front.length) →
      FirstPart (front ++ '\'' :: back) rest false

/-- What the other simple filters with an operator begin with. -/
def longLeads : List String := ["!=", "in(", "!in("]

theorem plainLead_of_lead {lead : String} (h : lead ∈ longLeads) : PlainLead lead.toList := by
  have hall : ∀ lead ∈ longLeads, PlainLead lead.toList := by decide
  exact hall lead h

/-- No operator begins with such a lead. -/
theorem not_prefix_of_lead {lead w : String} (h : lead ∈ longLeads) (hw : w ∈ quoteOperators) :
    ¬lead.toList <+: w.toList := by
  have hall : ∀ lead ∈ longLeads, ∀ w ∈ quoteOperators, ¬lead.toList <+: w.toList := by decide
  exact hall lead h w hw

section side
variable {rest : List Char}

theorem firstPart_number (n : NumberText) (hrest : SideEnd rest) :
    FirstPart n.chars rest true := by
  obtain ⟨c, cs, hchars, -⟩ := n.exists_digit
  have hne : n.chars ≠ [] := by simp [hchars]
  have hend : ∀ c ∈ rest.head?, isNumeric c = false :=
    fun c hc => isNumeric_of_not_plain (hrest.head c hc).1
  exact .whole (splitMatch_number hne n.fits_chars.all_numeric hend)

/-- An operator with a rule for the quoted texts behind it: all of the side is taken. -/
theorem firstPart_operator {w : String} (hw : w ∈ quoteOperators) (v : Operand)
    (hrest : SideEnd rest) : FirstPart (w ++ v.text).toList rest true := by
  rw [String.toList_append]
  cases v with
  | number n =>
    have hlead : PlainLead (w.toList ++ n.chars) :=
      (plainLead_of_operator hw).append fun c hc =>
        isPlain_of_isNumeric (n.fits_chars.all_numeric c hc)
    rw [Operand.toList_text_number]
    exact .whole (splitMatch_lead hlead hrest)
  | quoted s =>
    have hcontent : s.content.toList ≠ [] := by
      intro hnil
      exact s.ne_empty (String.toList_eq_nil_iff.mp hnil)
    have hfirst := splitMatch_operator hw hcontent s.no_quote rest
    rw [Operand.toList_text_quoted]
    exact .whole (by simpa using hfirst)

/-- A lead without such a rule: the side is taken up to its first quote. -/
theorem firstPart_lead {lead : String} (hlead : lead ∈ longLeads) {tail : List Char}
    (h : Paired (lead.toList ++ tail) []) {quoted : Bool}
    (hquoted : '\'' ∈ tail ↔ quoted = true) (hrest : SideEnd rest) :
    FirstPart (lead.toList ++ tail) rest (!quoted) := by
  rw [paired_append_plain (plainLead_of_lead hlead).plain] at h
  obtain ⟨more, back, rfl, hmore, hback⟩ := h.exists_front
  have hfront : PlainLead (lead.toList ++ more) := (plainLead_of_lead hlead).append hmore
  have hoperator : ∀ w ∈ quoteOperators, lead.toList ++ more ≠ w.toList :=
    fun w hw heq => not_prefix_of_lead hlead hw (heq ▸ List.prefix_append ..)
  have hfirst (hend : ∀ c ∈ (back ++ rest).head?, isPlain c = false) :
      firstMatch? splitRules (lead.toList ++ more ++ (back ++ rest)) =
        some (.operand, (lead.toList ++ more).length) :=
    splitMatch_plain hfront hend fun w hw heq => absurd heq (hoperator w hw)
  rw [hquoted] at hback
  rw [← List.append_assoc]
  rcases hback with ⟨rfl, hnone⟩ | ⟨hquote, rfl⟩
  · obtain rfl : quoted = false := by simpa using hnone
    rw [List.append_nil]
    exact .whole (hfirst fun c hc => (hrest.head c hc).1)
  · cases back with
    | nil => cases hquote
    | cons c back =>
      obtain rfl : c = '\'' := Option.some.inj hquote
      have hquote : isPlain '\'' = false := by decide
      apply FirstPart.quote
      rw [List.append_assoc]
      exact hfirst (by simpa using hquote)

end side

/-- **The front of a simple filter**: if it is kept whole, all of it is taken. -/
theorem SimpleFilter.firstPart_text (f : SimpleFilter) {rest : List Char}
    (hrest : SideEnd rest) : FirstPart f.text.toList rest f.keptWhole := by
  have hpaired := f.paired_text
  cases f with
  | bare n =>
    have htext : (bare n).text.toList = n.chars := Operand.toList_text_number n
    rw [htext]
    exact firstPart_number n hrest
  | equality negated v =>
    cases negated with
    | false => exact firstPart_operator (w := "=") (by decide) v hrest
    | true =>
      have htext : (equality true v).text.toList = "!=".toList ++ v.text.toList :=
        String.toList_append
      rw [htext] at hpaired ⊢
      exact firstPart_lead (by decide) hpaired v.quote_mem_text hrest
  | comparison o v =>
    have ho : o.text ∈ quoteOperators := by cases o <;> decide
    exact firstPart_operator ho v hrest
  | search v => exact firstPart_operator (w := "~") (by decide) v hrest
  | negatedValue v => exact firstPart_operator (w := "!") (by decide) v hrest
  | membership negated first rest =>
    have htext : (membership negated first rest).text.toList =
        (if negated then "!in(" else "in(").toList ++ Piece.concat (listWords first rest) := by
      rw [← concat_words]
      cases negated <;> rfl
    have hlead : (if negated then "!in(" else "in(") ∈ longLeads := by
      cases negated <;> decide
    rw [htext] at hpaired ⊢
    exact firstPart_lead hlead hpaired (quote_mem_listWords first rest) hrest

end PropertyFilter
