import PropertyFilter.Proofs.Condition.Number
import PropertyFilter.Proofs.Filter.Quotation

/-!
  # Simple filters

  A simple filter is given here as what it says, apart from its text: a number, or an
  operator and its operands. Written out, it is a text of words

      12      ='a*'      >=1.5      ~7      !'x'      !=3      in(1,'b')      !in(2)

  and this text is read as it was meant: it is cut into those words
  (`filterTokens_text`), and it is never split at a connective (`splitTokens_text`),
  whatever the quoted texts hold.
-/

namespace PropertyFilter

/-! ## Section 1: Filters and their texts -/

/-- A text that can be put in quotes: not empty, and without a quote. -/
structure QuotedText where
  content : String
  ne_empty : content ≠ ""
  no_quote : '\'' ∉ content.toList

/-- What an operator is applied to. -/
inductive Operand
  | number (n : NumberText)
  | quoted (s : QuotedText)

/-- An operand as it is written. -/
def Operand.text : Operand → String
  | number n => n.text
  | quoted s => "'" ++ s.content ++ "'"

/-- The four comparisons by order. -/
inductive Comparison
  | greater
  | greaterOrEqual
  | less
  | lessOrEqual

/-- A comparison as it is written, in a filter and in an expression. -/
def Comparison.text : Comparison → String
  | greater => ">"
  | greaterOrEqual => ">="
  | less => "<"
  | lessOrEqual => "<="

/-- A filter without a connective, with one operator at most and `!` in front of some. -/
inductive SimpleFilter
  | bare (n : NumberText)
  | equality (negated : Bool) (v : Operand)
  | comparison (o : Comparison) (v : Operand)
  | search (v : Operand)
  | negatedValue (v : Operand)
  | membership (negated : Bool) (first : Operand) (rest : List Operand)

/-- A simple filter as it is written. -/
def SimpleFilter.text : SimpleFilter → String
  | bare n => n.text
  | equality negated v => (if negated then "!=" else "=") ++ v.text
  | comparison o v => o.text ++ v.text
  | search v => "~" ++ v.text
  | negatedValue v => "!" ++ v.text
  | membership negated first rest =>
    (if negated then "!in(" else "in(") ++ ",".intercalate ((first :: rest).map Operand.text) ++ ")"

/-! ## Section 2: Words -/

/-- The text of a number is a word. -/
theorem NumberText.fits_chars (n : NumberText) : Fits .number n.chars := by
  unfold chars
  cases hf : n.fraction with
  | none => exact .whole n.whole_run
  | some digits => exact .fraction n.whole_run (n.fraction_run digits hf)

namespace Operand

/-- The kind of word that an operand is. -/
def kind : Operand → FilterWord
  | number _ => .number
  | quoted _ => .quoted

/-- An operand as a word. -/
def word (v : Operand) : Piece FilterWord := ⟨v.kind, v.text.toList⟩

theorem toList_text_number (n : NumberText) : (number n).text.toList = n.chars :=
  String.toList_ofList

theorem toList_text_quoted (s : QuotedText) :
    (quoted s).text.toList = '\'' :: s.content.toList ++ ['\''] := by
  unfold text
  simp

theorem word_fits (v : Operand) : Fits v.word.kind v.word.chars := by
  unfold word
  cases v with
  | number n =>
    rw [toList_text_number]
    exact n.fits_chars
  | quoted s =>
    rw [toList_text_quoted]
    exact .quoted s.no_quote

/-- An operand is not the empty quoted text. -/
theorem word_ne (v : Operand) : v.word.chars ≠ ['\'', '\''] := by
  unfold word
  cases v with
  | number n =>
    obtain ⟨c, cs, hchars, hc⟩ := n.exists_digit
    rw [toList_text_number, hchars]
    -- a number begins with a digit
    intro hquote
    obtain ⟨rfl, -⟩ := List.cons.inj hquote
    exact absurd hc (by decide)
  | quoted s =>
    rw [toList_text_quoted]
    intro hquote
    have hcontent : s.content.toList ≠ [] := by
      intro hnil
      exact s.ne_empty (String.toList_eq_nil_iff.mp hnil)
    have hlength := congrArg List.length hquote
    have hpos := List.length_pos_of_ne_nil hcontent
    simp only [List.length_append, List.length_cons, List.length_nil] at hlength
    omega

end Operand

/-- A word with one spelling. -/
def FilterWord.piece (kind : FilterWord) : Piece FilterWord :=
  ⟨kind, (kind.spelling?.getD "").toList⟩

/-- The word of a comparison. -/
def Comparison.word : Comparison → FilterWord
  | greater => .greaterThan
  | greaterOrEqual => .greaterOrEqual
  | less => .lessThan
  | lessOrEqual => .lessOrEqual

/-- The words behind the opening bracket of a list. -/
def listWords : Operand → List Operand → List (Piece FilterWord)
  | v, [] => [v.word, FilterWord.closeBracket.piece]
  | v, w :: rest => v.word :: FilterWord.comma.piece :: listWords w rest

/-- The words of a simple filter. -/
def SimpleFilter.words : SimpleFilter → List (Piece FilterWord)
  | bare n => [(Operand.number n).word]
  | equality false v => [FilterWord.equalTo.piece, v.word]
  | equality true v => [FilterWord.negation.piece, FilterWord.equalTo.piece, v.word]
  | comparison o v => [o.word.piece, v.word]
  | search v => [FilterWord.like.piece, v.word]
  | negatedValue v => [FilterWord.negation.piece, v.word]
  | membership false first rest =>
    FilterWord.inList.piece :: FilterWord.openBracket.piece :: listWords first rest
  | membership true first rest =>
    FilterWord.negation.piece :: FilterWord.inList.piece :: FilterWord.openBracket.piece ::
      listWords first rest

theorem concat_listWords (v : Operand) (rest : List Operand) :
    Piece.concat (listWords v rest) =
      (",".intercalate ((v :: rest).map Operand.text)).toList ++ [')'] := by
  induction rest generalizing v with
  | nil => simp [listWords, Operand.word, FilterWord.piece, FilterWord.spelling?]
  | cons w rest ih =>
    have hrest := ih w
    simp only [List.map_cons] at hrest ⊢
    rw [listWords, Piece.concat_cons, Piece.concat_cons, hrest, String.intercalate_cons_cons]
    simp [Operand.word, FilterWord.piece, FilterWord.spelling?]

/-- The words of a filter make up its text. -/
theorem SimpleFilter.concat_words (f : SimpleFilter) : Piece.concat f.words = f.text.toList := by
  cases f with
  | bare n => simp [words, text, Operand.word, Operand.text]
  | equality negated v =>
    cases negated with
    | false => simp [words, text, Operand.word, FilterWord.piece, FilterWord.spelling?]
    | true => simp [words, text, Operand.word, FilterWord.piece, FilterWord.spelling?]
  | comparison o v =>
    cases o <;> simp [words, text, Operand.word, Comparison.word, Comparison.text,
      FilterWord.piece, FilterWord.spelling?]
  | search v => simp [words, text, Operand.word, FilterWord.piece, FilterWord.spelling?]
  | negatedValue v => simp [words, text, Operand.word, FilterWord.piece, FilterWord.spelling?]
  | membership negated first rest =>
    cases negated with
    | false => simp [words, text, concat_listWords, FilterWord.piece, FilterWord.spelling?]
    | true => simp [words, text, concat_listWords, FilterWord.piece, FilterWord.spelling?]

/-! ## Section 3: Reading the text -/

/-- A word of a simple filter: an operand, or a word with one spelling. -/
inductive IsWord : Piece FilterWord → Prop
  | operand (v : Operand) : IsWord v.word
  | fixed {kind : FilterWord} : kind.spelling?.isSome = true → IsWord kind.piece

theorem IsWord.fits {p : Piece FilterWord} (h : IsWord p) : Fits p.kind p.chars := by
  cases h with
  | operand v => exact v.word_fits
  | @fixed kind hk =>
    obtain ⟨s, hs⟩ := Option.isSome_iff_exists.mp hk
    unfold FilterWord.piece
    rw [hs]
    exact .fixed hs

theorem IsWord.ne {p : Piece FilterWord} (h : IsWord p) : p.chars ≠ ['\'', '\''] := by
  cases h with
  | operand v => exact v.word_ne
  | @fixed kind => cases kind <;> decide

theorem isWord_listWords (v : Operand) (rest : List Operand) :
    ∀ p ∈ listWords v rest, IsWord p := by
  induction rest generalizing v with
  | nil =>
    intro p hp
    rcases List.mem_cons.mp hp with rfl | hp
    · exact .operand v
    · obtain rfl := List.mem_singleton.mp hp
      exact .fixed rfl
  | cons w rest ih =>
    intro p hp
    rcases List.mem_cons.mp hp with rfl | hp
    · exact .operand v
    · rcases List.mem_cons.mp hp with rfl | hp
      · exact .fixed rfl
      · exact ih w p hp

/-- An operator in front of words. -/
theorem isWord_cons {kind : FilterWord} (hk : kind.spelling?.isSome = true)
    {ps : List (Piece FilterWord)} (hps : ∀ p ∈ ps, IsWord p) :
    ∀ p ∈ kind.piece :: ps, IsWord p := by
  intro p hp
  rcases List.mem_cons.mp hp with rfl | hp
  · exact .fixed hk
  · exact hps p hp

theorem SimpleFilter.isWord_words (f : SimpleFilter) : ∀ p ∈ f.words, IsWord p := by
  have hoperand (v : Operand) : ∀ p ∈ [v.word], IsWord p := by
    intro p hp
    obtain rfl := List.mem_singleton.mp hp
    exact .operand v
  cases f with
  | bare n => exact hoperand (.number n)
  | equality negated v =>
    have hequal := @isWord_cons .equalTo rfl _ (hoperand v)
    cases negated with
    | false => exact hequal
    | true => exact isWord_cons rfl hequal
  | comparison o v =>
    have hspelling : o.word.spelling?.isSome = true := by cases o <;> rfl
    exact isWord_cons hspelling (hoperand v)
  | search v | negatedValue v => exact isWord_cons rfl (hoperand v)
  | membership negated first rest =>
    have hlist := @isWord_cons .openBracket rfl _ (isWord_listWords first rest)
    cases negated with
    | false => exact isWord_cons rfl hlist
    | true => exact isWord_cons rfl (isWord_cons rfl hlist)

/-- An operand is told apart from what is in front of it, if that is no number. -/
theorem separate_operand {p : Piece FilterWord} (h : p.kind ≠ .number) (v : Operand) :
    Separate p v.word := by
  constructor
  · rintro ⟨hnumber, -⟩
    exact h hnumber
  · -- no operand is a `=`
    rintro ⟨-, hequal⟩
    have hkind : v.kind = .equalTo := hequal
    cases v <;> cases hkind

/-- An operand is told apart from what is behind it, if that is no number. -/
theorem operand_separate (v : Operand) {p : Piece FilterWord} (h : p.kind ≠ .number) :
    Separate v.word p := by
  constructor
  · rintro ⟨-, hnumber⟩
    exact h hnumber
  · -- no operand is a `>` or a `<`
    rintro ⟨hordering, -⟩
    have hkind : v.kind = .greaterThan ∨ v.kind = .lessThan := hordering
    cases v <;> rcases hkind with hkind | hkind <;> cases hkind

theorem isChain_listWords (v : Operand) (rest : List Operand) {p : Piece FilterWord}
    (hp : p.kind ≠ .number) : (p :: listWords v rest).IsChain Separate := by
  induction rest generalizing v p with
  | nil =>
    have hclose : Separate v.word FilterWord.closeBracket.piece := operand_separate v (by decide)
    unfold listWords
    exact .cons_cons (separate_operand hp v) (.cons_cons hclose (.singleton _))
  | cons w rest ih =>
    have hcomma : Separate v.word FilterWord.comma.piece := operand_separate v (by decide)
    have hrest := ih w (p := FilterWord.comma.piece) (by decide)
    unfold listWords
    exact .cons_cons (separate_operand hp v) (.cons_cons hcomma hrest)

/-- An operator and its operand. -/
theorem isChain_pair {p : Piece FilterWord} (hp : p.kind ≠ .number) (v : Operand) :
    [p, v.word].IsChain Separate :=
  .cons_cons (separate_operand hp v) (.singleton _)

theorem SimpleFilter.isChain_words (f : SimpleFilter) : f.words.IsChain Separate := by
  cases f with
  | bare n => exact .singleton _
  | equality negated v =>
    have hequal : [FilterWord.equalTo.piece, v.word].IsChain Separate :=
      isChain_pair (by decide) v
    cases negated with
    | false => exact hequal
    | true => exact .cons_cons (by decide) hequal
  | comparison o v =>
    have hnumber : o.word.piece.kind ≠ .number := by cases o <;> decide
    exact isChain_pair hnumber v
  | search v | negatedValue v => exact isChain_pair (by decide) v
  | membership negated first rest =>
    have hlist : (FilterWord.inList.piece :: FilterWord.openBracket.piece ::
        listWords first rest).IsChain Separate :=
      .cons_cons (by decide) (isChain_listWords first rest (by decide))
    cases negated with
    | false => exact hlist
    | true => exact .cons_cons (by decide) hlist

/-- **A simple filter is cut into its words.** -/
theorem SimpleFilter.filterTokens_text (f : SimpleFilter) :
    filterTokens f.text = .ok (placed false 0 f.words) :=
  filterTokens_of_fits (fun p hp => (f.isWord_words p hp).fits) f.isChain_words f.concat_words

/-- The quotes of a simple filter come in pairs, and no sign is outside of them. -/
theorem SimpleFilter.paired_text (f : SimpleFilter) : Paired f.text.toList [] := by
  rw [← f.concat_words]
  exact paired_of_fits (fun p hp => (f.isWord_words p hp).fits)
    (fun p hp => (f.isWord_words p hp).ne)

/-- **A simple filter is never split at a connective**, whatever its quoted texts hold. -/
theorem SimpleFilter.splitTokens_text (f : SimpleFilter) :
    ∃ tokens, splitTokens f.text = .ok tokens ∧ Compound.ofTokens? tokens = none :=
  splitTokens_of_paired f.paired_text

end PropertyFilter
