import Mathlib.Data.List.Chain
import PropertyFilter.Filter.Word
import PropertyFilter.Proofs.Number.Digits
import PropertyFilter.Proofs.Token.Taking

/-!
  # Spelling of words

  Operators, brackets, the comma and `in` have one spelling. A number is a run of digits,
  with or without a point and a second run behind it; a quoted text is any text without a
  quote between two quotes. Words are written one behind the other with nothing between
  them, and only three pairs of neighbours cannot be told from something else:

      number number     one longer number
      > =               the word >=
      < =               the word <=

  Main statements: off these pairs, cutting a text gives the words that it was written
  from (`cut_filterRules`), and every piece that is cut from a text is a word that fits its
  kind (`fits_of_mem_cut`).
-/

namespace PropertyFilter

/-! ## Section 1: Words that fit their kinds -/

/-- The spelling of a word, unless it is a number or a quoted text. -/
def FilterWord.spelling? : FilterWord → Option String
  | closeBracket => some ")"
  | comma => some ","
  | equalTo => some "="
  | greaterThan => some ">"
  | greaterOrEqual => some ">="
  | inList => some "in"
  | lessThan => some "<"
  | lessOrEqual => some "<="
  | like => some "~"
  | negation => some "!"
  | openBracket => some "("
  | number | quoted => none

/-- `Fits kind chars`: the text `chars` is a word of that kind. -/
inductive Fits : FilterWord → List Char → Prop
  | fixed {kind : FilterWord} {s : String} : kind.spelling? = some s → Fits kind s.toList
  | whole {digits : List Char} : Digits.isRun digits = true → Fits .number digits
  | fraction {digits decimals : List Char} :
      Digits.isRun digits = true → Digits.isRun decimals = true →
      Fits .number (digits ++ '.' :: decimals)
  | quoted {content : List Char} :
      '\'' ∉ content → Fits .quoted ('\'' :: content ++ ['\''])

/-- Two neighbours that are not read as something else. -/
def Separable (a b : FilterWord) : Prop :=
  ¬(a = .number ∧ b = .number) ∧ ¬((a = .greaterThan ∨ a = .lessThan) ∧ b = .equalTo)

instance (a b : FilterWord) : Decidable (Separable a b) := inferInstanceAs (Decidable (_ ∧ _))

/-- Neighbours of separable kinds. -/
def Separate (p q : Piece FilterWord) : Prop := Separable p.kind q.kind

instance (p q : Piece FilterWord) : Decidable (Separate p q) :=
  inferInstanceAs (Decidable (Separable _ _))

/-- What is behind a word does not go on with it. -/
def Stops (kind : FilterWord) (rest : List Char) : Prop :=
  (kind = .number → ∀ c ∈ rest.head?, Digits.isDigit c = false ∧ c ≠ '.') ∧
    (kind = .greaterThan ∨ kind = .lessThan → ∀ c ∈ rest.head?, c ≠ '=')

/-! ## Section 2: Numbers and quoted texts -/

namespace Matcher

/-- A run of digits is a number if neither a digit nor a point is behind it. -/
theorem number_whole {digits rest : List Char} (h : Digits.isRun digits = true)
    (hrest : ∀ c ∈ rest.head?, Digits.isDigit c = false ∧ c ≠ '.') :
    number (digits ++ rest) = some digits.length := by
  obtain ⟨hne, hall⟩ := isRun_iff.mp h
  have hdigits : many1 Digits.isDigit (digits ++ rest) = some digits.length :=
    many1_append hne hall fun c hc => (hrest c hc).1
  have hpoint : word "." rest = none := by
    cases rest with
    | nil => exact word_nil (by decide)
    | cons c rest => exact word_eq_none rfl (hrest c rfl).2.symm
  have hnothing : ((word ".").followedBy (many1 Digits.isDigit)).orNothing
      ((digits ++ rest).drop digits.length) = some 0 := by
    rw [List.drop_left' rfl, orNothing, followedBy_eq_none hpoint]
    rfl
  exact followedBy_eq_some hdigits hnothing

/-- Digits, a point and digits are a number if no digit is behind them. -/
theorem number_fraction {digits decimals rest : List Char} (h : Digits.isRun digits = true)
    (hdecimals : Digits.isRun decimals = true)
    (hrest : ∀ c ∈ rest.head?, Digits.isDigit c = false) :
    number ((digits ++ '.' :: decimals) ++ rest) =
      some (digits ++ '.' :: decimals).length := by
  obtain ⟨hne, hall⟩ := isRun_iff.mp h
  obtain ⟨hne', hall'⟩ := isRun_iff.mp hdecimals
  have htext : (digits ++ '.' :: decimals) ++ rest = digits ++ ('.' :: (decimals ++ rest)) := by
    simp
  have hfirst : many1 Digits.isDigit (digits ++ ('.' :: (decimals ++ rest))) =
      some digits.length := by
    apply many1_append hne hall
    intro c hc
    obtain rfl : '.' = c := Option.some.inj hc
    decide
  have hpoint : word "." ('.' :: (decimals ++ rest)) = some 1 := word_append "." _
  have hsecond : many1 Digits.isDigit (decimals ++ rest) = some decimals.length :=
    many1_append hne' hall' hrest
  have hpart : (word ".").followedBy (many1 Digits.isDigit) ('.' :: (decimals ++ rest)) =
      some (1 + decimals.length) :=
    followedBy_eq_some hpoint hsecond
  have hlength : (digits ++ '.' :: decimals).length = digits.length + (1 + decimals.length) := by
    rw [List.length_append, List.length_cons, Nat.add_comm 1]
  rw [htext, hlength]
  apply followedBy_eq_some hfirst
  rw [List.drop_left' rfl, orNothing, hpart]
  rfl

/-- What is taken between two quotes, taken with the quotes. -/
theorem between_quotes {m : Matcher} {content rest : List Char}
    (hm : m (content ++ '\'' :: rest) = some content.length) :
    ((word "'").followedBy m).followedBy (word "'") ('\'' :: (content ++ '\'' :: rest)) =
      some (content.length + 2) := by
  have hopen : word "'" ('\'' :: (content ++ '\'' :: rest)) = some 1 := word_append "'" _
  have hclose : word "'" ('\'' :: rest) = some 1 := word_append "'" _
  have hdrop : ('\'' :: (content ++ '\'' :: rest)).drop (1 + content.length) = '\'' :: rest := by
    rw [Nat.add_comm, List.drop_succ_cons, List.drop_left' rfl]
  have hfirst : (word "'").followedBy m ('\'' :: (content ++ '\'' :: rest)) =
      some (1 + content.length) :=
    followedBy_eq_some hopen hm
  rw [followedBy_eq_some hfirst (by rw [hdrop]; exact hclose)]
  congr 1
  omega

/-- A text without a quote, between two quotes. -/
theorem quoted_append {content : List Char} (h : '\'' ∉ content) (rest : List Char) :
    quoted ('\'' :: (content ++ '\'' :: rest)) = some (content.length + 2) :=
  between_quotes (many_append (ne_of_notMem h) (by simp))

end Matcher

/-! ## Section 3: The rule of a word -/

/-- The words that have one spelling and are tried first, in the order of their rules. -/
def fixedWords : List (String × FilterWord) :=
  [(")", .closeBracket), (",", .comma), ("=", .equalTo), (">=", .greaterOrEqual),
    (">", .greaterThan), ("<=", .lessOrEqual), ("<", .lessThan), ("in", .inList), ("~", .like),
    ("!", .negation)]

/-- The rule of a word with one spelling. -/
def fixedRule (w : String × FilterWord) : Rule FilterWord := ⟨.word w.1, w.2⟩

/-- The rules that are tried behind those. -/
def otherRules : List (Rule FilterWord) :=
  [⟨.quoted, .quoted⟩, ⟨.number, .number⟩, ⟨.word "(", .openBracket⟩]

theorem filterRules_eq : filterRules = fixedWords.map fixedRule ++ otherRules := rfl

/-- The first characters of these words. -/
def signs : List Char := [')', ',', '=', '>', '<', 'i', '~', '!']

/-- The rules for these words take nothing where none of their first characters stands. -/
theorem firstMatch?_behind_signs {c : Char} {cs : List Char} (hc : c ∉ signs) :
    firstMatch? filterRules (c :: cs) = firstMatch? otherRules (c :: cs) := by
  have hheads : ∀ w ∈ fixedWords, w.1.toList.head?.any (signs.contains ·) = true := by decide
  rw [filterRules_eq]
  apply firstMatch?_append_of_none
  intro r hr
  obtain ⟨w, hw, rfl⟩ := List.mem_map.mp hr
  obtain ⟨x, hhead, hx⟩ := (Option.any_eq_true _ _).mp (hheads w hw)
  have hne : x ≠ c := by
    rintro rfl
    exact hc (List.contains_iff_mem.mp hx)
  exact Matcher.word_eq_none hhead hne

theorem firstMatch?_quoted {content : List Char} (h : '\'' ∉ content) (rest : List Char) :
    firstMatch? filterRules (('\'' :: content ++ ['\'']) ++ rest) =
      some (.quoted, ('\'' :: content ++ ['\'']).length) := by
  have htext : ('\'' :: content ++ ['\'']) ++ rest = '\'' :: (content ++ '\'' :: rest) := by
    simp
  have hlength : ('\'' :: content ++ ['\'']).length = content.length + 2 := by simp
  rw [htext, hlength, firstMatch?_behind_signs (by decide)]
  exact firstMatch?_cons_of_some (Matcher.quoted_append h rest) (by omega)

/-- A number is not taken for a quoted text either. -/
theorem firstMatch?_number {cs rest : List Char}
    (hdigit : ∃ c ds, cs = c :: ds ∧ Digits.isDigit c = true)
    (htake : Matcher.number (cs ++ rest) = some cs.length) :
    firstMatch? filterRules (cs ++ rest) = some (.number, cs.length) := by
  obtain ⟨c, ds, rfl, hc⟩ := hdigit
  have hne (x : Char) (hx : Digits.isDigit x = false) : x ≠ c := by
    rintro rfl
    rw [hc] at hx
    cases hx
  have hsigns : c ∉ signs := by
    intro hmem
    have hnone : signs.all (!Digits.isDigit ·) = true := by decide
    have hdigit := List.all_eq_true.mp hnone c hmem
    exact hne c (by simpa using hdigit) rfl
  have hquoted : Matcher.quoted (c :: ds ++ rest) = none := by
    have hopen : Matcher.word "'" (c :: (ds ++ rest)) = none :=
      Matcher.word_eq_none rfl (hne '\'' (by decide))
    exact Matcher.followedBy_eq_none (Matcher.followedBy_eq_none hopen _) _
  rw [List.cons_append, firstMatch?_behind_signs hsigns, ← List.cons_append]
  unfold otherRules
  rw [firstMatch?_cons_of_none hquoted]
  exact firstMatch?_cons_of_some htake (Nat.succ_pos _)

/-- A spelling that ends in `=` does not match where there is none behind its first
character. -/
theorem word_longer {w : String} {x : Char} {rest : List Char} (hw : w.toList = [x, '='])
    (hrest : ∀ c ∈ rest.head?, c ≠ '=') : Matcher.word w (x :: rest) = none := by
  cases htake : Matcher.word w (x :: rest) with
  | none => rfl
  | some n =>
    obtain ⟨more, hmore, -⟩ := Matcher.exists_of_word htake
    rw [hw] at hmore
    obtain rfl : rest = '=' :: more := (List.cons.inj hmore).2
    exact absurd rfl (hrest '=' rfl)

/-- A sign of one character that is not followed by `=`. The rules in front of its own are
for other first characters, or for the sign with `=` behind it. -/
theorem firstMatch?_sign {w : String} {x : Char} {kind : FilterWord} {rest : List Char}
    {front behind : List (String × FilterWord)}
    (hsplit : fixedWords = front ++ (w, kind) :: behind) (hw : w.toList = [x])
    (hfront : ∀ v ∈ front, v.1.toList.head?.any (· ≠ x) = true ∨ v.1.toList = [x, '='])
    (hrest : ∀ c ∈ rest.head?, c ≠ '=') :
    firstMatch? filterRules (w.toList ++ rest) = some (kind, 1) := by
  have htake : (fixedRule (w, kind)).matcher (w.toList ++ rest) = some 1 := by
    have hword := Matcher.word_append w rest
    rw [hw] at hword ⊢
    exact hword
  have hnone : ∀ r ∈ front.map fixedRule, r.matcher (w.toList ++ rest) = none := by
    intro r hr
    obtain ⟨v, hv, rfl⟩ := List.mem_map.mp hr
    rw [hw]
    rcases hfront v hv with hother | hlonger
    · obtain ⟨y, hhead, hne⟩ := (Option.any_eq_true _ _).mp hother
      exact Matcher.word_eq_none hhead (by simpa using hne)
    · exact word_longer hlonger hrest
  rw [filterRules_eq, hsplit, List.map_append, List.append_assoc, List.map_cons,
    firstMatch?_append_of_none hnone]
  exact firstMatch?_cons_of_some htake (by decide)

/-- **One word**: a word that fits its kind is what the rules take where it stands, if
what is behind it does not go on with it. -/
theorem firstMatch?_of_fits {kind : FilterWord} {chars rest : List Char}
    (h : Fits kind chars) (hrest : Stops kind rest) :
    firstMatch? filterRules (chars ++ rest) = some (kind, chars.length) := by
  cases h with
  | whole hrun =>
    obtain ⟨hne, hall⟩ := isRun_iff.mp hrun
    obtain ⟨c, ds, rfl⟩ := List.exists_cons_of_ne_nil hne
    exact firstMatch?_number ⟨c, ds, rfl, hall c (List.mem_cons_self ..)⟩
      (Matcher.number_whole hrun (hrest.1 rfl))
  | @fraction digits decimals hrun hdecimals =>
    obtain ⟨hne, hall⟩ := isRun_iff.mp hrun
    obtain ⟨c, ds, rfl⟩ := List.exists_cons_of_ne_nil hne
    exact firstMatch?_number ⟨c, _, rfl, hall c (List.mem_cons_self ..)⟩
      (Matcher.number_fraction hrun hdecimals fun c hc => (hrest.1 rfl c hc).1)
  | quoted hcontent => exact firstMatch?_quoted hcontent rest
  | fixed hs =>
    cases kind with
    | greaterThan =>
      cases hs
      have hsplit : fixedWords =
          fixedWords.take 4 ++ (">", .greaterThan) :: fixedWords.drop 5 := rfl
      exact firstMatch?_sign hsplit rfl (by decide) (hrest.2 (Or.inl rfl))
    | lessThan =>
      cases hs
      have hsplit : fixedWords = fixedWords.take 6 ++ ("<", .lessThan) :: fixedWords.drop 7 := rfl
      exact firstMatch?_sign hsplit rfl (by decide) (hrest.2 (Or.inr rfl))
    | _ =>
      -- no other spelling is the beginning of a longer one
      cases hs <;> rfl

/-! ## Section 4: Many words -/

/-- The first character of a word says that it is no point, and whether it may be taken
for a part of the word in front. -/
theorem Fits.head {kind : FilterWord} {chars : List Char} (h : Fits kind chars) :
    ∃ c cs, chars = c :: cs ∧ c ≠ '.' ∧ (Digits.isDigit c = true → kind = .number) ∧
      (c = '=' → kind = .equalTo) := by
  have hnumber {digits : List Char} (hrun : Digits.isRun digits = true) :
      ∃ c cs, digits = c :: cs ∧ c ≠ '.' ∧ c ≠ '=' := by
    obtain ⟨hne, hall⟩ := isRun_iff.mp hrun
    obtain ⟨c, cs, rfl⟩ := List.exists_cons_of_ne_nil hne
    have hc : Digits.isDigit c = true := hall c (List.mem_cons_self ..)
    refine ⟨c, cs, rfl, ?_, ?_⟩
    · rintro rfl
      exact absurd hc (by decide)
    · rintro rfl
      exact absurd hc (by decide)
  cases h with
  | whole hrun =>
    obtain ⟨c, cs, rfl, hpoint, hequal⟩ := hnumber hrun
    exact ⟨c, cs, rfl, hpoint, fun _ => rfl, fun h => absurd h hequal⟩
  | fraction hrun =>
    obtain ⟨c, cs, rfl, hpoint, hequal⟩ := hnumber hrun
    exact ⟨c, _, rfl, hpoint, fun _ => rfl, fun h => absurd h hequal⟩
  | quoted => exact ⟨'\'', _, rfl, by decide, by decide, by decide⟩
  | fixed hs =>
    -- a spelling says everything itself
    cases kind <;> cases hs <;> exact ⟨_, _, rfl, by decide, by decide, by decide⟩

/-- What is behind a word does not go on with it if the next word is separable from it. -/
theorem stops_of_separable {kind : FilterWord} {p : Piece FilterWord}
    {ps : List (Piece FilterWord)} (hp : Fits p.kind p.chars)
    (hsep : Separable kind p.kind) : Stops kind (Piece.concat (p :: ps)) := by
  obtain ⟨c, cs, hchars, hpoint, hdigit, hequal⟩ := hp.head
  have hhead : (Piece.concat (p :: ps)).head? = some c := by
    rw [Piece.concat_cons, hchars]
    rfl
  rw [Stops, hhead]
  constructor
  · -- a digit behind a number would be a number behind a number
    intro hkind d hd
    obtain rfl : c = d := Option.some.inj hd
    refine ⟨?_, hpoint⟩
    by_contra hc
    have hc : Digits.isDigit c = true := by simpa using hc
    exact hsep.1 ⟨hkind, hdigit hc⟩
  · -- a `=` is a word of its own
    rintro hkind d hd rfl
    obtain rfl : c = '=' := Option.some.inj hd
    exact hsep.2 ⟨hkind, hequal rfl⟩

theorem matched_of_fits {ps : List (Piece FilterWord)} (hfits : ∀ p ∈ ps, Fits p.kind p.chars)
    (hsep : ps.IsChain Separate) : Matched filterRules ps := by
  induction ps with
  | nil => exact .nil
  | cons p ps ih =>
    have hp : Fits p.kind p.chars := hfits p (List.mem_cons_self ..)
    have hrest : ∀ q ∈ ps, Fits q.kind q.chars := fun q hq => hfits q (List.mem_cons_of_mem _ hq)
    obtain ⟨hnext, hsep⟩ := List.isChain_cons.mp hsep
    have hstops : Stops p.kind (Piece.concat ps) := by
      cases ps with
      | nil => exact ⟨fun _ => by simp, fun _ => by simp⟩
      | cons q ps => exact stops_of_separable (hrest q (List.mem_cons_self ..)) (hnext q rfl)
    exact .cons (firstMatch?_of_fits hp hstops) (ih hrest hsep)

/-- **Cutting undoes writing**: words that fit their kinds, no neighbours of which are read
as something else, are found again in the text that is written from them. -/
theorem cut_filterRules {ps : List (Piece FilterWord)} (hfits : ∀ p ∈ ps, Fits p.kind p.chars)
    (hsep : ps.IsChain Separate) :
    cut filterRules (Piece.concat ps) = (ps, []) :=
  cut_concat_eq (matched_of_fits hfits hsep)

/-- The tokens of a text are the words that it is written from, in their places. -/
theorem filterTokens_of_fits {ps : List (Piece FilterWord)}
    (hfits : ∀ p ∈ ps, Fits p.kind p.chars) (hsep : ps.IsChain Separate) {value : String}
    (htext : Piece.concat ps = value.toList) :
    filterTokens value = .ok (placed false 0 ps) := by
  have hcut : cut filterRules value.toList = (ps, []) := by
    rw [← htext]
    exact cut_filterRules hfits hsep
  exact scan_of_cut (s := filterScanner) hcut

/-! ## Section 5: What the rules take -/

theorem takes_number : Matcher.number.Takes (Fits .number) := by
  have hdigits := Matcher.takes_many1 Digits.isDigit
  have hfraction := ((Matcher.takes_word ".").followedBy hdigits).orNothing
  refine (hdigits.followedBy hfraction).mono ?_
  rintro cs ⟨digits, rest, rfl, hwhole, hrest⟩
  have hrun : Digits.isRun digits = true := isRun_iff.mpr hwhole
  rcases hrest with rfl | ⟨point, decimals, rfl, rfl, hdecimals⟩
  · rw [List.append_nil]
    exact .whole hrun
  · exact .fraction hrun (isRun_iff.mpr hdecimals)

theorem takes_quoted : Matcher.quoted.Takes (Fits .quoted) := by
  refine (Matcher.takes_many _).quoted.mono ?_
  rintro cs ⟨content, rfl, hall⟩
  have hfree : '\'' ∉ content := fun hmem => by simpa using hall '\'' hmem
  exact .quoted hfree

/-- **Every rule takes a word** of its kind. -/
theorem takes_filterRules : ∀ r ∈ filterRules, r.matcher.Takes (Fits r.kind) := by
  intro r hr
  have hword {w : String} {kind : FilterWord} (hw : kind.spelling? = some w) :
      (Matcher.word w).Takes (Fits kind) := by
    refine (Matcher.takes_word w).mono ?_
    rintro cs rfl
    exact .fixed hw
  rw [filterRules_eq] at hr
  rcases List.mem_append.mp hr with hr | hr
  · have hspelled : ∀ w ∈ fixedWords, w.2.spelling? = some w.1 := by decide
    obtain ⟨w, hw, rfl⟩ := List.mem_map.mp hr
    exact hword (hspelled w hw)
  · simp only [otherRules, List.mem_cons, List.not_mem_nil, or_false] at hr
    rcases hr with rfl | rfl | rfl
    · exact takes_quoted
    · exact takes_number
    · exact hword rfl

/-- The pieces of any text are words that fit their kinds. -/
theorem fits_of_mem_cut (cs : List Char) :
    ∀ p ∈ (cut filterRules cs).1, Fits p.kind p.chars :=
  forall_mem_cut takes_filterRules cs

end PropertyFilter
