import Mathlib.Data.List.TakeWhile
import PropertyFilter.Filter.Connective
import PropertyFilter.Proofs.Filter.Spelling
import PropertyFilter.Proofs.Token.Taking

/-!
  # Connectives and quotes

  A filter is split at the signs `+` and `-` that are outside quotes. Here a text is read
  as what it is made of:

      plain      a character that is neither a quote nor a sign
      sign       a connective
      quoted     a text between two quotes, not empty and without a quote

  Every rule takes one sign, or a front without a sign outside quotes (`takes_splitRules`),
  and what is behind such a front is again such a text (`Paired.behind`). The order of the
  rules plays no part in this.

  Main statements: the whole of such a text is split, and the connectives of the split are
  the signs outside quotes, in order (`cut_splitRules`); and no other text is split to its
  end (`paired_of_cut`).
-/

namespace PropertyFilter

/-! ## Section 1: Texts with quotes in pairs -/

/-- The sign of a connective. -/
def Connective.sign : Connective → Char
  | and => '+'
  | or => '-'

/-- The connective that a token of a split stands for. -/
def SplitWord.connective? : SplitWord → Option Connective
  | connective c => some c
  | number | operand => none

/-- A character that is neither a quote nor a sign. -/
def isPlain (c : Char) : Bool := c ≠ '\'' && c ≠ '+' && c ≠ '-'

/-- A character of the numbers of a split: a digit or a point. -/
def isNumeric (c : Char) : Bool := Digits.isDigit c || c == '.'

/-- `Paired cs signs`: the quotes of the text come in pairs with something between them,
and the signs outside are `signs`. -/
inductive Paired : List Char → List Connective → Prop
  | nil : Paired [] []
  | plain {c : Char} {cs : List Char} {signs : List Connective} :
      isPlain c = true → Paired cs signs → Paired (c :: cs) signs
  | sign (c : Connective) {cs : List Char} {signs : List Connective} :
      Paired cs signs → Paired (c.sign :: cs) (c :: signs)
  | quoted {content cs : List Char} {signs : List Connective} :
      content ≠ [] → '\'' ∉ content → Paired cs signs →
      Paired ('\'' :: (content ++ '\'' :: cs)) signs

theorem isPlain_sign (c : Connective) : isPlain c.sign = false := by
  cases c with
  | and => rfl
  | or => rfl

theorem sign_ne_quote (c : Connective) : c.sign ≠ '\'' := by
  cases c with
  | and => decide
  | or => decide

theorem eq_of_sign_eq {a b : Connective} (h : a.sign = b.sign) : a = b := by
  revert h
  cases a <;> cases b <;> decide

theorem byteLength_sign (c : Connective) : Text.byteLength [c.sign] = 1 := by
  cases c with
  | and => rfl
  | or => rfl

theorem trim_sign (c : Connective) : Text.trim [c.sign] = [c.sign] := by
  cases c with
  | and => decide
  | or => decide

/-- A sign is not trimmed. -/
theorem toToken_sign (c : Connective) (offset : Nat) :
    (⟨.connective c, [c.sign]⟩ : Piece SplitWord).toToken true offset =
      ⟨.connective c, String.singleton c.sign, Span.covering offset [c.sign]⟩ := by
  have hblanks : Text.leadingBlanks [c.sign] = [] := by cases c <;> decide
  simp [Piece.toToken, trim_sign, hblanks]

theorem ne_quote_of_isPlain {c : Char} (hc : isPlain c = true) : c ≠ '\'' := by
  rintro rfl
  exact absurd hc (by decide)

/-- A class without the quote and without the signs has plain characters only. -/
theorem isPlain_of_class {p : Char → Bool} (hquote : p '\'' = false) (hplus : p '+' = false)
    (hminus : p '-' = false) {c : Char} (hc : p c = true) : isPlain c = true := by
  have hne (x : Char) (hx : p x = false) : c ≠ x := by
    rintro rfl
    rw [hc] at hx
    cases hx
  simp [isPlain, hne _ hquote, hne _ hplus, hne _ hminus]

/-- The characters of a number are plain. -/
theorem isPlain_of_isNumeric {c : Char} (hc : isNumeric c = true) : isPlain c = true :=
  isPlain_of_class (by decide) (by decide) (by decide) hc

/-- White space is plain. -/
theorem isPlain_of_isBlank {c : Char} (hc : Text.isBlank c = true) : isPlain c = true :=
  isPlain_of_class (by decide) (by decide) (by decide) hc

/-- The characters of every number are numeric. -/
theorem Fits.all_numeric {chars : List Char} (h : Fits .number chars) :
    ∀ c ∈ chars, isNumeric c = true := by
  have hdigits {digits : List Char} (hrun : Digits.isRun digits = true) :
      ∀ c ∈ digits, isNumeric c = true :=
    fun c hc => by simp [isNumeric, (isRun_iff.mp hrun).2 c hc]
  cases h with
  | fixed hs => cases hs
  | whole hrun => exact hdigits hrun
  | fraction hrun hdecimals =>
    intro c hc
    rcases List.mem_append.mp hc with hc | hc
    · exact hdigits hrun c hc
    · rcases List.mem_cons.mp hc with rfl | hc
      · decide
      · exact hdigits hdecimals c hc

section paired
variable {c : Char} {cs : List Char} {signs : List Connective}

theorem paired_cons_plain (hc : isPlain c = true) :
    Paired (c :: cs) signs ↔ Paired cs signs := by
  constructor
  · intro h
    generalize htext : c :: cs = text at h
    cases h with
    | nil => cases htext
    | plain _ h =>
      cases htext
      exact h
    | sign conn =>
      obtain ⟨rfl, -⟩ := List.cons.inj htext
      rw [isPlain_sign] at hc
      cases hc
    | quoted =>
      obtain ⟨rfl, -⟩ := List.cons.inj htext
      exact absurd hc (by decide)
  · exact .plain hc

theorem paired_append_plain {front : List Char} (hfront : ∀ c ∈ front, isPlain c = true) :
    Paired (front ++ cs) signs ↔ Paired cs signs := by
  induction front with
  | nil => exact Iff.rfl
  | cons c front ih =>
    rw [List.cons_append, paired_cons_plain (hfront c (List.mem_cons_self ..))]
    exact ih fun d hd => hfront d (List.mem_cons_of_mem _ hd)

theorem Paired.of_sign {conn : Connective} (h : Paired (conn.sign :: cs) signs) :
    ∃ rest, signs = conn :: rest ∧ Paired cs rest := by
  generalize htext : conn.sign :: cs = text at h
  cases h with
  | nil => cases htext
  | plain hc =>
    obtain ⟨rfl, -⟩ := List.cons.inj htext
    rw [isPlain_sign] at hc
    cases hc
  | @sign other _ rest h =>
    obtain ⟨hsign, rfl⟩ := List.cons.inj htext
    obtain rfl : conn = other := eq_of_sign_eq hsign
    exact ⟨rest, rfl, h⟩
  | quoted =>
    exact absurd (List.cons.inj htext).1 (sign_ne_quote conn)

theorem Paired.of_quote (h : Paired ('\'' :: cs) signs) :
    ∃ content rest, cs = content ++ '\'' :: rest ∧ content ≠ [] ∧ '\'' ∉ content ∧
      Paired rest signs := by
  generalize htext : '\'' :: cs = text at h
  cases h with
  | nil => cases htext
  | plain hc =>
    obtain ⟨rfl, -⟩ := List.cons.inj htext
    exact absurd hc (by decide)
  | sign conn =>
    exact absurd (List.cons.inj htext).1.symm (sign_ne_quote conn)
  | quoted hne hfree h =>
    obtain ⟨-, rfl⟩ := List.cons.inj htext
    exact ⟨_, _, rfl, hne, hfree, h⟩

end paired

/-- The characters of every word but a quoted text are plain. -/
theorem Fits.all_plain {kind : FilterWord} {chars : List Char} (h : Fits kind chars)
    (hkind : kind ≠ .quoted) : ∀ c ∈ chars, isPlain c = true := by
  by_cases hnumber : kind = .number
  · subst hnumber
    exact fun c hc => isPlain_of_isNumeric (h.all_numeric c hc)
  · cases h with
    | @fixed _ s hs =>
      have hplain : s.toList.all isPlain = true := by
        cases kind <;> cases hs <;> decide
      exact List.all_eq_true.mp hplain
    | whole | fraction => exact absurd rfl hnumber
    | quoted => exact absurd rfl hkind

/-- A word of a simple filter has no sign outside quotes; a quoted text must not be empty. -/
theorem paired_append_word {kind : FilterWord} {chars cs : List Char} {signs : List Connective}
    (h : Fits kind chars) (hne : chars ≠ ['\'', '\'']) (hcs : Paired cs signs) :
    Paired (chars ++ cs) signs := by
  by_cases hkind : kind = .quoted
  · subst hkind
    cases h with
    | fixed hs => cases hs
    | @quoted content hfree =>
      have hcontent : content ≠ [] := by
        rintro rfl
        exact hne rfl
      have htext : '\'' :: content ++ ['\''] ++ cs = '\'' :: (content ++ '\'' :: cs) := by simp
      rw [htext]
      exact .quoted hcontent hfree hcs
  · exact (paired_append_plain (h.all_plain hkind)).mpr hcs

theorem paired_of_fits {ps : List (Piece FilterWord)} (hfits : ∀ p ∈ ps, Fits p.kind p.chars)
    (hne : ∀ p ∈ ps, p.chars ≠ ['\'', '\'']) : Paired (Piece.concat ps) [] := by
  induction ps with
  | nil => exact .nil
  | cons p ps ih =>
    have hrest : Paired (Piece.concat ps) [] :=
      ih (fun q hq => hfits q (List.mem_cons_of_mem _ hq))
        (fun q hq => hne q (List.mem_cons_of_mem _ hq))
    have hp : Fits p.kind p.chars := hfits p (List.mem_cons_self ..)
    have hpne : p.chars ≠ ['\'', '\''] := hne p (List.mem_cons_self ..)
    rw [Piece.concat_cons]
    exact paired_append_word hp hpne hrest

/-! ## Section 2: Fronts and ends -/

section front
variable {front cs : List Char} {signs others : List Connective}

theorem Paired.append (hfront : Paired front signs) (hcs : Paired cs others) :
    Paired (front ++ cs) (signs ++ others) := by
  induction hfront with
  | nil => exact hcs
  | plain hc _ ih => exact .plain hc ih
  | sign c _ ih => exact .sign c ih
  | quoted hne hfree _ ih =>
    rw [List.cons_append, List.append_assoc]
    exact .quoted hne hfree ih

/-- What is behind a front with its quotes in pairs is again such a text, with the signs
that are left. -/
theorem Paired.behind (hfront : Paired front signs) (h : Paired (front ++ cs) others) :
    ∃ rest, others = signs ++ rest ∧ Paired cs rest := by
  induction hfront generalizing others with
  | nil => exact ⟨others, rfl, h⟩
  | plain hc _ ih => exact ih ((paired_cons_plain hc).mp h)
  | sign c _ ih =>
    obtain ⟨rest, rfl, hrest⟩ := h.of_sign
    obtain ⟨more, rfl, hmore⟩ := ih hrest
    exact ⟨more, rfl, hmore⟩
  | @quoted content front _ _ hfree _ ih =>
    rw [List.cons_append, List.append_assoc] at h
    obtain ⟨content', rest, htext, -, hfree', hrest⟩ := h.of_quote
    -- both contents end at the first quote
    have htake := congrArg (List.takeWhile (· ≠ '\'')) htext
    rw [Matcher.takeWhile_run (Matcher.ne_of_notMem hfree) (by simp),
      Matcher.takeWhile_run (Matcher.ne_of_notMem hfree') (by simp)] at htake
    rw [htake, List.cons_append] at htext
    obtain ⟨-, rfl⟩ := List.cons.inj (List.append_cancel_left htext)
    exact ih hrest

theorem Paired.of_append_plain {text back : List Char} (h : Paired text signs)
    (hback : ∀ c ∈ back, isPlain c = true) (htext : text = cs ++ back) : Paired cs signs := by
  induction h generalizing cs back with
  | nil =>
    obtain ⟨rfl, -⟩ := List.append_eq_nil_iff.mp htext.symm
    exact .nil
  | @plain c text signs hc _ ih =>
    cases cs with
    | nil =>
      subst htext
      have hrest : text = [] ++ text := rfl
      exact ih (fun d hd => hback d (List.mem_cons_of_mem _ hd)) hrest
    | cons d cs =>
      obtain ⟨rfl, hrest⟩ := List.cons.inj htext
      exact .plain hc (ih hback hrest)
  | @sign conn text signs _ ih =>
    cases cs with
    | nil =>
      subst htext
      have hsign := hback conn.sign (List.mem_cons_self ..)
      rw [isPlain_sign] at hsign
      cases hsign
    | cons d cs =>
      obtain ⟨rfl, hrest⟩ := List.cons.inj htext
      exact .sign conn (ih hback hrest)
  | @quoted content text signs hne hfree _ ih =>
    -- no quote is among the plain characters at the end
    have hquote : '\'' ∉ back := fun hmem => absurd (hback '\'' hmem) (by decide)
    cases cs with
    | nil =>
      subst htext
      exact absurd (List.mem_cons_self ..) hquote
    | cons d cs =>
      obtain ⟨rfl, hrest⟩ := List.cons.inj htext
      rcases List.append_eq_append_iff.mp hrest with ⟨more, rfl, hmore⟩ | ⟨more, rfl, hmore⟩
      · cases more with
        | nil =>
          have hback : back = '\'' :: text := hmore.symm
          subst hback
          exact absurd (List.mem_cons_self ..) hquote
        | cons e more =>
          obtain ⟨rfl, hbehind⟩ := List.cons.inj hmore
          exact .quoted hne hfree (ih hback hbehind)
      · subst hmore
        exact absurd (List.mem_append_right _ (List.mem_cons_self ..)) hquote

/-- Trimming takes plain characters only. -/
theorem Paired.trim (h : Paired cs signs) : Paired (Text.trim cs) signs := by
  obtain ⟨tail, hcs, hblank⟩ := exists_trim_append cs
  rw [hcs, List.append_assoc] at h
  have hstart : Paired (Text.trim cs ++ tail) signs :=
    (paired_append_plain fun c hc => isPlain_of_isBlank (hblank c (by simp [hc]))).mp h
  exact hstart.of_append_plain (fun c hc => isPlain_of_isBlank (hblank c (by simp [hc]))) rfl

end front

/-! ## Section 3: What the rules take -/

/-- The operators that are cut as one piece with a quoted text behind them. -/
def quoteOperators : List String := ["~", "=", "<", "<=", ">", ">=", "!"]

/-- The rule of such an operator. -/
def operatorRule (w : String) : Rule SplitWord :=
  ⟨(Matcher.word w).followedBy .quotedText, .operand⟩

/-- The rules in front of the operators. -/
def frontRules : List (Rule SplitWord) :=
  [⟨.word "+", .connective .and⟩, ⟨.word "-", .connective .or⟩,
    ⟨.many1 isNumeric, .number⟩, ⟨.quotedText, .operand⟩]

theorem splitRules_eq :
    splitRules =
      frontRules ++ (quoteOperators.map operatorRule ++ [⟨.plainRun, .operand⟩]) := rfl

/-- No operator holds a quote or a sign. -/
theorem isPlain_of_operator {w : String} (hw : w ∈ quoteOperators) :
    ∀ c ∈ w.toList, isPlain c = true := by
  have hall : quoteOperators.all (fun w => w.toList.all isPlain) = true := by decide
  exact List.all_eq_true.mp (List.all_eq_true.mp hall w hw)

/-- `IsPart kind chars`: one sign, or a text without a sign outside quotes. -/
inductive IsPart : SplitWord → List Char → Prop
  | sign (c : Connective) : IsPart (.connective c) [c.sign]
  | operand {kind : SplitWord} {chars : List Char} :
      kind.connective? = none → Paired chars [] → IsPart kind chars

theorem IsPart.paired {kind : SplitWord} {chars : List Char} (h : IsPart kind chars) :
    Paired chars kind.connective?.toList := by
  cases h with
  | sign c => exact .sign c .nil
  | operand hkind hchars =>
    rw [hkind]
    exact hchars

theorem paired_plain {cs : List Char} (h : ∀ c ∈ cs, isPlain c = true) : Paired cs [] := by
  rw [← List.append_nil cs]
  exact (paired_append_plain h).mpr .nil

theorem quotedText_append {content : List Char} (hne : content ≠ []) (hfree : '\'' ∉ content)
    (rest : List Char) :
    Matcher.quotedText ('\'' :: (content ++ '\'' :: rest)) = some (content.length + 2) := by
  have hcontent : Matcher.many1 (· ≠ '\'') (content ++ '\'' :: rest) = some content.length :=
    Matcher.many1_append hne (Matcher.ne_of_notMem hfree) (by simp)
  exact Matcher.between_quotes hcontent

/-- A text in quotes that is not empty. -/
def IsQuoted (cs : List Char) : Prop :=
  ∃ content, content ≠ [] ∧ '\'' ∉ content ∧ cs = '\'' :: (content ++ ['\''])

theorem IsQuoted.paired {cs : List Char} (h : IsQuoted cs) : Paired cs [] := by
  obtain ⟨content, hne, hfree, rfl⟩ := h
  exact .quoted hne hfree .nil

theorem takes_quotedText : Matcher.quotedText.Takes IsQuoted := by
  refine (Matcher.takes_many1 _).quoted.mono ?_
  rintro cs ⟨content, rfl, hne, hall⟩
  have hfree : '\'' ∉ content := fun hmem => by simpa using hall '\'' hmem
  exact ⟨content, hne, hfree, rfl⟩

theorem takes_operatorRule (w : String) :
    (operatorRule w).matcher.Takes (Matcher.Then (· = w.toList) IsQuoted) :=
  (Matcher.takes_word w).followedBy takes_quotedText

theorem paired_operator {w : String} (hw : w ∈ quoteOperators) {cs : List Char}
    (h : Matcher.Then (· = w.toList) IsQuoted cs) : Paired cs [] := by
  obtain ⟨front, quotedText, rfl, rfl, hquoted⟩ := h
  exact (paired_append_plain (isPlain_of_operator hw)).mpr hquoted.paired

/-- **Every rule takes a part**: the sign of its connective, or no sign outside quotes. -/
theorem takes_splitRules : ∀ r ∈ splitRules, r.matcher.Takes (IsPart r.kind) := by
  intro r hr
  have hsign (c : Connective) {w : String} (hw : w.toList = [c.sign]) :
      (Matcher.word w).Takes (IsPart (.connective c)) := by
    refine (Matcher.takes_word w).mono ?_
    rintro cs rfl
    rw [hw]
    exact .sign c
  have hplain {p : Char → Bool} {kind : SplitWord} (hkind : kind.connective? = none)
      (hp : ∀ c, p c = true → isPlain c = true) : (Matcher.many1 p).Takes (IsPart kind) := by
    refine (Matcher.takes_many1 p).mono ?_
    rintro cs ⟨-, hall⟩
    exact .operand hkind (paired_plain fun c hc => hp c (hall c hc))
  rw [splitRules_eq] at hr
  simp only [frontRules, List.mem_append, List.mem_cons, List.not_mem_nil, or_false] at hr
  rcases hr with (rfl | rfl | rfl | rfl) | hr | rfl
  · exact hsign .and rfl
  · exact hsign .or rfl
  · exact hplain rfl fun _ => isPlain_of_isNumeric
  · exact takes_quotedText.mono fun _ h => .operand rfl h.paired
  · obtain ⟨w, hw, rfl⟩ := List.mem_map.mp hr
    exact (takes_operatorRule w).mono fun _ h => .operand rfl (paired_operator hw h)
  · exact hplain rfl fun _ hc => hc

/-! ## Section 4: The split -/

/-- The connectives of a split, in order. -/
def connectives (ps : List (Piece SplitWord)) : List Connective :=
  ps.filterMap fun p => p.kind.connective?

theorem paired_concat {ps : List (Piece SplitWord)} (h : ∀ p ∈ ps, IsPart p.kind p.chars) :
    Paired (Piece.concat ps) (connectives ps) := by
  induction ps with
  | nil => exact .nil
  | cons p ps ih =>
    have hp : Paired p.chars p.kind.connective?.toList := (h p (List.mem_cons_self ..)).paired
    have hps := ih fun q hq => h q (List.mem_cons_of_mem _ hq)
    have hsigns : connectives (p :: ps) = p.kind.connective?.toList ++ connectives ps := by
      unfold connectives
      cases hk : p.kind.connective? <;> simp [hk]
    rw [Piece.concat_cons, hsigns]
    exact hp.append hps

/-- The pieces of a split are parts. -/
theorem isPart_of_mem_cut (cs : List Char) :
    ∀ p ∈ (cut splitRules cs).1, IsPart p.kind p.chars :=
  forall_mem_cut takes_splitRules cs

/-- `StartsBroken cs`: the text begins with a quote that no other one closes, or that the next
character closes. -/
inductive StartsBroken : List Char → Prop
  | unclosed {cs : List Char} : '\'' ∉ cs → StartsBroken ('\'' :: cs)
  | empty {cs : List Char} : StartsBroken ('\'' :: '\'' :: cs)

theorem Paired.not_startsBroken {cs : List Char} {signs : List Connective}
    (h : Paired cs signs) : ¬StartsBroken cs := by
  intro hbroken
  cases hbroken with
  | unclosed hnone =>
    obtain ⟨content, rest, rfl, -⟩ := h.of_quote
    exact hnone (by simp)
  | empty =>
    obtain ⟨content, rest, htext, hne, hfree, -⟩ := h.of_quote
    -- the content would begin with the quote
    obtain ⟨c, content, rfl⟩ := List.exists_cons_of_ne_nil hne
    obtain ⟨rfl, -⟩ := List.cons.inj htext
    exact hfree (List.mem_cons_self ..)

/-- Something is taken from the front of every other text. -/
theorem exists_match_or_broken (c : Char) (cs : List Char) :
    (firstMatch? splitRules (c :: cs)).isSome = true ∨ StartsBroken (c :: cs) := by
  by_cases hquote : c = '\''
  · subst hquote
    by_cases hclosed : '\'' ∈ cs
    · obtain ⟨content, rest, rfl, hfree⟩ := List.eq_append_cons_of_mem hclosed
      by_cases hne : content = []
      · subst hne
        exact Or.inr .empty
      · have hrule : ⟨.quotedText, .operand⟩ ∈ splitRules := by simp [splitRules]
        exact Or.inl (firstMatch?_isSome hrule (quotedText_append hne hfree rest)
          (Nat.succ_pos _))
    · exact Or.inr (.unclosed hclosed)
  · left
    by_cases hplain : isPlain c = true
    · -- the last rule takes any plain character
      have hrule : ⟨.plainRun, .operand⟩ ∈ splitRules := by simp [splitRules]
      exact firstMatch?_isSome hrule (Matcher.many1_cons hplain) (Nat.succ_pos _)
    · have hsign : c = '+' ∨ c = '-' := by
        simp only [isPlain, Bool.and_eq_true, decide_eq_true_eq, not_and, not_not] at hplain
        by_cases hplus : c = '+'
        · exact Or.inl hplus
        · exact Or.inr (hplain ⟨hquote, hplus⟩)
      rcases hsign with rfl | rfl
      · have hrule : ⟨.word "+", .connective .and⟩ ∈ splitRules := by simp [splitRules]
        exact firstMatch?_isSome hrule (Matcher.word_append "+" cs) (by decide)
      · have hrule : ⟨.word "-", .connective .or⟩ ∈ splitRules := by simp [splitRules]
        exact firstMatch?_isSome hrule (Matcher.word_append "-" cs) (by decide)

/-- A split stops in front of a broken quote, or at the end. -/
theorem startsBroken_of_cut {cs : List Char} (h : (cut splitRules cs).2 ≠ []) :
    StartsBroken (cut splitRules cs).2 := by
  have hnone := (left_of_cut splitRules cs).resolve_left h
  obtain ⟨c, rest, hrest⟩ := List.exists_cons_of_ne_nil h
  rw [hrest] at hnone ⊢
  apply (exists_match_or_broken c rest).resolve_left
  rw [hnone]
  exact Bool.false_ne_true

/-- **The split**: a text with its quotes in pairs is split to the end, and the connectives
are its signs outside quotes, in order. -/
theorem cut_splitRules {cs : List Char} {signs : List Connective} (h : Paired cs signs) :
    (cut splitRules cs).2 = [] ∧ connectives (cut splitRules cs).1 = signs := by
  rw [← cut_concat splitRules cs] at h
  obtain ⟨others, rfl, hleft⟩ := (paired_concat (isPart_of_mem_cut cs)).behind h
  -- what is left would be such a text too, and a split does not stop there
  have hnil : (cut splitRules cs).2 = [] := by
    by_contra hne
    exact hleft.not_startsBroken (startsBroken_of_cut hne)
  rw [hnil] at hleft
  cases hleft
  exact ⟨hnil, (List.append_nil _).symm⟩

/-- **Nothing else is split**: a text that is split to the end has its quotes in pairs. -/
theorem paired_of_cut {cs : List Char} (h : (cut splitRules cs).2 = []) :
    Paired cs (connectives (cut splitRules cs).1) := by
  have hparts := paired_concat (isPart_of_mem_cut cs)
  have hconcat := cut_concat splitRules cs
  rw [h, List.append_nil] at hconcat
  rwa [hconcat] at hparts

theorem splitTokens_ok_iff {value : String} {tokens : List SplitToken} :
    splitTokens value = .ok tokens ↔
      (cut splitRules value.toList).2 = [] ∧
        tokens = placed true 0 (cut splitRules value.toList).1 :=
  scan_ok_iff

/-! ## Section 5: Filters without a connective -/

/-- Without a connective among its tokens a filter is not compound. -/
theorem ofTokens?_eq_none {tokens : List SplitToken}
    (h : ∀ t ∈ tokens, t.kind.connective? = none) : Compound.ofTokens? tokens = none := by
  unfold Compound.ofTokens?
  split
  · next l c text span r =>
    have hsign := h ⟨.connective c, text, span⟩ (by simp)
    cases hsign
  · rfl

/-- **No sign outside quotes, no compound**: such a filter is split without an error, and
it is one operand. -/
theorem splitTokens_of_paired {value : String} (h : Paired value.toList []) :
    ∃ tokens, splitTokens value = .ok tokens ∧ Compound.ofTokens? tokens = none := by
  obtain ⟨hrest, hsigns⟩ := cut_splitRules h
  refine ⟨_, splitTokens_ok_iff.mpr ⟨hrest, rfl⟩, ?_⟩
  apply ofTokens?_eq_none
  intro t ht
  have hkind : t.kind ∈ (cut splitRules value.toList).1.map Piece.kind := by
    rw [← map_kind_placed true 0]
    exact List.mem_map_of_mem ht
  obtain ⟨p, hp, hk⟩ := List.mem_map.mp hkind
  rw [← hk]
  -- a connective among the tokens would be a sign outside quotes
  by_contra hsome
  obtain ⟨c, hc⟩ := Option.ne_none_iff_exists'.mp hsome
  have hmem : c ∈ connectives (cut splitRules value.toList).1 :=
    List.mem_filterMap.mpr ⟨p, hp, hc⟩
  rw [hsigns] at hmem
  cases hmem

end PropertyFilter
