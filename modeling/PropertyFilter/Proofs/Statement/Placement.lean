import Mathlib.Data.List.TakeWhile
import PropertyFilter.Proofs.Number.Digits
import PropertyFilter.Proofs.Predicate.Expression
import PropertyFilter.Proofs.Token.Cutting
import PropertyFilter.Statement.Select

/-!
  # Placeholders among the words of a text

  Placeholders are written into a text as `$1`, `$2` or `?`, and found again among its
  words. Nothing gets between: in a text without quotes and marks of its own, whose
  placeholders stand apart, every placeholder is a word of its own.

      run of spaces     → a piece with no placeholder
      word              → a piece with no placeholder; it stops before the next one
      $ and digits      → two pieces, the mark and its number
      ?                 → one piece, and what is behind it is no second mark
      other character   → a piece with no placeholder

  Main statement: filling such a text puts every value in the place of its
  placeholder, in order, and changes nothing else (`fill?_placed`).
-/

namespace PropertyFilter.Statement

open Predicate (Apart mayPrecede mayFollow)

/-! ## Section 1: Words at the front of a text -/

section front
variable {c : Char} {run rest : List Char}

theorem sqlWords_space (hne : run ≠ []) (hrun : ∀ c ∈ run, isSqlSpace c = true)
    (hrest : ∀ c ∈ rest.head?, isSqlSpace c = false) :
    sqlWords (run ++ rest) = ⟨.space, run⟩ :: sqlWords rest := by
  have hfirst : firstMatch? sqlRules (run ++ rest) = some (.space, run.length) :=
    firstMatch?_cons_of_some (Matcher.many1_append hne hrun hrest)
      (List.length_pos_of_ne_nil hne)
  unfold sqlWords
  rw [cut_append hfirst]

theorem sqlWords_word (hspace : isSqlSpace c = false) (hc : isWordStart c = true)
    (hrun : ∀ d ∈ run, isWordPart d = true) (hrest : ∀ d ∈ rest.head?, isWordPart d = false) :
    sqlWords (c :: run ++ rest) = ⟨.word, c :: run⟩ :: sqlWords rest := by
  have hword : wordMatcher (c :: run ++ rest) = some (c :: run).length := by
    rw [List.cons_append, wordMatcher, if_pos hc, Matcher.takeWhile_run hrun hrest,
      List.length_cons, Nat.add_comm]
  have hfirst : firstMatch? sqlRules (c :: run ++ rest) = some (.word, (c :: run).length) := by
    unfold sqlRules
    rw [firstMatch?_cons_of_none (Matcher.many1_eq_none hspace)]
    exact firstMatch?_cons_of_some hword (Nat.succ_pos _)
  unfold sqlWords
  rw [cut_append hfirst]

theorem sqlWords_mark (hspace : isSqlSpace c = false) (hc : isWordStart c = false)
    (hquote : closing? c = none) :
    sqlWords (c :: rest) = ⟨.mark, [c]⟩ :: sqlWords rest := by
  have hword : wordMatcher (c :: rest) = none := by
    rw [wordMatcher, if_neg (by simp [hc])]
  have hquoted : quotedMatcher (c :: rest) = none := by
    rw [quotedMatcher, hquote, Option.map_none]
  have hfirst : firstMatch? sqlRules ([c] ++ rest) = some (.mark, [c].length) := by
    unfold sqlRules
    rw [List.singleton_append, firstMatch?_cons_of_none (Matcher.many1_eq_none hspace),
      firstMatch?_cons_of_none hword, firstMatch?_cons_of_none hquoted]
    exact firstMatch?_cons_of_some rfl (Nat.succ_pos _)
  unfold sqlWords
  rw [← List.singleton_append, cut_append hfirst]

end front

/-- A first word that is a mark stands at the front of the text. -/
theorem head?_of_isMark {d : Dialect} {p : Piece SqlWord} {ps : List (Piece SqlWord)}
    {cs : List Char} (hcs : sqlWords cs = p :: ps) (hp : isMark d p = true) :
    cs.head? = some d.mark := by
  have hchars : p.chars = [d.mark] := by
    unfold isMark at hp
    simp only [Bool.and_eq_true, decide_eq_true_eq] at hp
    exact hp.2
  have hhead := head?_of_cut hcs (by simp [hchars])
  rw [hhead, hchars]
  rfl

/-! ## Section 2: Texts with placeholders -/

section placeholders
variable {d : Dialect}

/-- A mark begins neither a run of spaces nor a word nor a quoted run. -/
theorem mark_alone (d : Dialect) :
    isSqlSpace d.mark = false ∧ isWordStart d.mark = false ∧ closing? d.mark = none := by
  cases d <;> decide +kernel

theorem isWordStart_of_isDigit {c : Char} (h : Digits.isDigit c = true) :
    isWordStart c = true := by
  unfold isWordStart
  rw [h, Bool.or_true]

theorem isSqlSpace_of_isDigit {c : Char} (h : Digits.isDigit c = true) :
    isSqlSpace c = false := by
  unfold Digits.isDigit at h
  unfold isSqlSpace
  by_contra hspace
  simp only [Bool.not_eq_false, Bool.or_eq_true, decide_eq_true_eq] at hspace
  -- none of the four spaces is a digit
  rcases hspace with ((rfl | rfl) | rfl) | rfl
  all_goals exact absurd h (by decide)

@[simp] theorem withPlaceholders_nil (n : Nat) : withPlaceholders d n [] = [] := rfl

theorem withPlaceholders_placeholder (n : Nat) (cs : List Char) :
    withPlaceholders d n ('?' :: cs) = d.placeholder n ++ withPlaceholders d (n + 1) cs := rfl

/-- A stretch without a placeholder stays as it is. -/
theorem withPlaceholders_append {front : List Char} (hfront : '?' ∉ front) (n : Nat)
    (cs : List Char) : withPlaceholders d n (front ++ cs) = front ++ withPlaceholders d n cs := by
  induction front with
  | nil => rfl
  | cons c front ih =>
    have hc : c ≠ '?' := by
      rintro rfl
      exact hfront (List.mem_cons_self ..)
    have hrest : '?' ∉ front := by
      intro h
      exact hfront (List.mem_cons_of_mem _ h)
    rw [List.cons_append, withPlaceholders, if_neg hc, ih hrest, List.cons_append]

/-- The text behind a placeholder keeps its first character. -/
theorem head?_withPlaceholders {n : Nat} {cs : List Char} (h : ∀ c ∈ cs.head?, c ≠ '?') :
    (withPlaceholders d n cs).head? = cs.head? := by
  cases cs with
  | nil => rfl
  | cons c cs =>
    rw [withPlaceholders, if_neg (h c rfl)]
    rfl

end placeholders

/-! ## Section 3: Stretches of an expression -/

/-- The characters with a meaning of their own in a statement: the mark of numbered
placeholders, and what opens a quoted run. -/
def reserved : List Char := ['$', '\'', '"', '`', '[']

/-- A text without reserved characters, whose placeholders stand apart. -/
structure Plain (cs : List Char) : Prop where
  unreserved : ∀ c ∈ cs, c ∉ reserved
  apart : cs.IsChain Apart

theorem Plain.of_append {a b : List Char} (h : Plain (a ++ b)) : Plain b := by
  constructor
  · intro c hc
    exact h.unreserved c (List.mem_append_right _ hc)
  · exact (List.isChain_append.mp h.apart).2.1

theorem closing?_of_unreserved {c : Char} (h : c ∉ reserved) : closing? c = none := by
  simp only [reserved, List.mem_cons, List.not_mem_nil, or_false, not_or] at h
  obtain ⟨-, hsingle, hdouble, hback, hbracket⟩ := h
  unfold closing?
  simp [hsingle, hdouble, hback, hbracket]

theorem ne_mark_of_unreserved {d : Dialect} {c : Char} (h : c ∉ reserved) (hc : c ≠ '?') :
    c ≠ d.mark := by
  simp only [reserved, List.mem_cons, List.not_mem_nil, or_false, not_or] at h
  cases d with
  | postgres => exact h.1
  | mysql | sqlite => exact hc

/-- What stands right before a placeholder belongs to no word. -/
theorem isWordPart_of_mayPrecede {c : Char} (h : mayPrecede c = true) :
    isWordPart c = false := by
  simp only [mayPrecede, List.mem_cons, List.not_mem_nil, or_false, decide_eq_true_eq] at h
  obtain rfl | rfl | rfl | rfl := h <;> decide +kernel

/-- What stands right behind a placeholder does not go on with its number. -/
theorem isWordPart_of_mayFollow {c : Char} (h : mayFollow c = true) :
    isWordPart c = false := by
  simp only [mayFollow, List.mem_cons, List.not_mem_nil, or_false, decide_eq_true_eq] at h
  obtain rfl | rfl | rfl := h <;> decide +kernel

/-- The character behind a stretch is the mark of a placeholder or what stood there
before. -/
theorem mem_head?_withPlaceholders {d : Dialect} {n : Nat} {cs : List Char} {x : Char}
    (hx : x ∈ (withPlaceholders d n cs).head?) : x = d.mark ∨ x ∈ cs.head? := by
  cases cs with
  | nil => cases hx
  | cons c cs =>
    by_cases hc : c = '?'
    · subst hc
      exact Or.inl (Option.some.inj hx).symm
    · rw [head?_withPlaceholders (by simpa using hc)] at hx
      exact Or.inr hx

/-- A run of word characters is not followed by a placeholder. -/
theorem Plain.head?_ne_placeholder {run rest : List Char} (h : Plain (run ++ rest))
    (hne : run ≠ []) (hrun : ∀ c ∈ run, isWordPart c = true) :
    ∀ c ∈ rest.head?, c ≠ '?' := by
  rintro c hc rfl
  -- the last character of the run would stand right before the placeholder
  obtain ⟨-, -, hjoin⟩ := List.isChain_append.mp h.apart
  have hlast := List.getLast?_eq_some_getLast hne
  have hprecede := (hjoin _ hlast '?' hc).1 rfl
  have hpart := hrun _ (List.getLast_mem hne)
  rw [isWordPart_of_mayPrecede hprecede] at hpart
  cases hpart

/-- Behind a placeholder there is one of a few characters, none of them a placeholder. -/
theorem Plain.head?_behind {cs : List Char} (h : Plain ('?' :: cs)) :
    (∀ c ∈ cs.head?, mayFollow c = true) ∧ ∀ c ∈ cs.head?, c ≠ '?' := by
  have hfollow : ∀ c ∈ cs.head?, mayFollow c = true := by
    intro c hc
    have hapart : Apart '?' c := (List.isChain_cons.mp h.apart).1 c hc
    exact hapart.2 rfl
  refine ⟨hfollow, ?_⟩
  rintro c hc rfl
  exact absurd (hfollow '?' hc) (by decide)

theorem isWordPart_of_isWordStart {c : Char} (h : isWordStart c = true) :
    isWordPart c = true := by
  unfold isWordPart
  rw [h, Bool.true_or, Bool.true_or]

/-- `Stretch d kind run rest`: the text `run ++ rest` begins with a piece `run` that is
neither a placeholder nor a mark, whatever becomes of the placeholders in `rest`. -/
structure Stretch (d : Dialect) (kind : SqlWord) (run rest : List Char) : Prop where
  ne_nil : run ≠ []
  no_placeholder : '?' ∉ run
  no_mark : isMark d ⟨kind, run⟩ = false
  words : ∀ n, sqlWords (run ++ withPlaceholders d n rest) =
    ⟨kind, run⟩ :: sqlWords (withPlaceholders d n rest)

section stretch
variable {d : Dialect} {c : Char} {cs : List Char}

/-- Spaces up to the first other character, which may be a placeholder. -/
theorem stretch_spaces (hspace : isSqlSpace c = true) :
    Stretch d .space (c :: cs.takeWhile isSqlSpace) (cs.dropWhile isSqlSpace) := by
  have hrun : ∀ x ∈ c :: cs.takeWhile isSqlSpace, isSqlSpace x = true := by
    intro x hx
    rcases List.mem_cons.mp hx with rfl | hx
    · exact hspace
    · exact List.mem_takeWhile_imp hx
  refine ⟨by simp, ?_, rfl, ?_⟩
  · intro hmem
    exact absurd (hrun '?' hmem) (by decide)
  · intro n
    apply sqlWords_space (by simp) hrun
    intro x hx
    rcases mem_head?_withPlaceholders hx with rfl | hx
    · exact (mark_alone d).1
    · exact Matcher.head?_dropWhile x hx

/-- The first word of a plain text, behind which there is no placeholder. -/
theorem Plain.stretch_word (h : Plain (c :: cs)) (hspace : isSqlSpace c = false)
    (hword : isWordStart c = true) :
    Stretch d .word (c :: cs.takeWhile isWordPart) (cs.dropWhile isWordPart) := by
  have hrun : ∀ x ∈ cs.takeWhile isWordPart, isWordPart x = true := by
    intro x hx
    exact List.mem_takeWhile_imp hx
  have hall : ∀ x ∈ c :: cs.takeWhile isWordPart, isWordPart x = true := by
    intro x hx
    rcases List.mem_cons.mp hx with rfl | hx
    · exact isWordPart_of_isWordStart hword
    · exact hrun x hx
  have hbehind : ∀ x ∈ (cs.dropWhile isWordPart).head?, x ≠ '?' := by
    rw [← List.takeWhile_append_dropWhile (p := isWordPart) (l := cs), ← List.cons_append] at h
    exact h.head?_ne_placeholder (by simp) hall
  refine ⟨by simp, ?_, rfl, ?_⟩
  · intro hmem
    exact absurd (hall '?' hmem) (by decide +kernel)
  · intro n
    apply sqlWords_word hspace hword hrun
    intro x hx
    rw [head?_withPlaceholders hbehind] at hx
    exact Matcher.head?_dropWhile x hx

/-- A single character that begins no word and opens no quoted run. -/
theorem stretch_mark (hspace : isSqlSpace c = false) (hword : isWordStart c = false)
    (hfree : c ∉ reserved) (hc : c ≠ '?') : Stretch d .mark [c] cs := by
  have hmark : c ≠ d.mark := ne_mark_of_unreserved hfree hc
  refine ⟨by simp, by simpa using hc.symm, by simp [isMark, hmark], ?_⟩
  intro n
  exact sqlWords_mark hspace hword (closing?_of_unreserved hfree)

/-- A plain text that does not begin with a placeholder begins with a stretch. -/
theorem Plain.exists_stretch (d : Dialect) (h : Plain (c :: cs)) (hc : c ≠ '?') :
    ∃ kind run rest, c :: cs = run ++ rest ∧ Stretch d kind run rest := by
  have hsplit (p : Char → Bool) : c :: cs = (c :: cs.takeWhile p) ++ cs.dropWhile p := by
    rw [List.cons_append, List.takeWhile_append_dropWhile]
  by_cases hspace : isSqlSpace c = true
  · exact ⟨_, _, _, hsplit isSqlSpace, stretch_spaces hspace⟩
  · have hspace : isSqlSpace c = false := by simpa using hspace
    by_cases hword : isWordStart c = true
    · exact ⟨_, _, _, hsplit isWordPart, h.stretch_word hspace hword⟩
    · have hword : isWordStart c = false := by simpa using hword
      have hfree : c ∉ reserved := h.unreserved c (List.mem_cons_self ..)
      exact ⟨_, _, _, rfl, stretch_mark hspace hword hfree hc⟩

end stretch

/-! ## Section 4: Filling -/

section filling
variable {d : Dialect} {params : List Param} {next : Nat} {p : Piece SqlWord}
  {rest : List (Piece SqlWord)}

theorem fill?_text (hp : isMark d p = false) :
    fill? d params next (p :: rest) =
      (fill? d params next rest).map (.text p.chars :: ·) := by
  rw [fill?.eq_def]
  simp [hp]

/-- In a numbered dialect the word behind a mark says which value is placed. -/
theorem fill?_numbered {q : Piece SqlWord} {n : Nat} {v : Param} (hd : d.isNumbered = true)
    (hp : isMark d p = true) (hq : q.kind = .word) (hn : number? q = some (n + 1))
    (hv : params[n]? = some v) :
    fill? d params next (p :: q :: rest) =
      (fill? d params next rest).map (.value (.param v) :: ·) := by
  have hnone : isMark d q = false := by simp [isMark, hq]
  rw [fill?.eq_def]
  simp only [hp, hnone, hd, hq, hn, numbered?, hv]
  cases fill? d params next rest <;> rfl

/-- In the other dialects the next value is placed, unless the mark is doubled. -/
theorem fill?_inOrder {v : Param} (hd : d.isNumbered = false) (hp : isMark d p = true)
    (hrest : ∀ q ∈ rest.head?, isMark d q = false) (hv : params[next]? = some v) :
    fill? d params next (p :: rest) =
      (fill? d params (next + 1) rest).map (.value (.param v) :: ·) := by
  rw [fill?.eq_def]
  cases rest with
  | nil => simp [hp, hv, fill?]
  | cons q behind =>
    simp only [hp, hrest q rfl, hd, hv]
    cases fill? d params (next + 1) (q :: behind) <;> rfl

end filling

/-- Parts that hold the values `vs` and read `text n` when the first of them is value
number `n` of a statement. -/
structure Shows (d : Dialect) (vs : List Bound) (text : Nat → List Char)
    (parts : List Part) : Prop where
  holds : values parts = vs
  reads : ∀ n, boundText d n parts = text n

section shows
variable {d : Dialect} {vs ws : List Bound} {text more : Nat → List Char}
  {parts others : List Part}

theorem Shows.nil : Shows d [] (fun _ => []) [] := ⟨rfl, fun _ => rfl⟩

theorem Shows.congr (h : Shows d vs text parts) (heq : ∀ n, more n = text n) :
    Shows d vs more parts :=
  ⟨h.holds, fun n => by rw [heq, h.reads n]⟩

theorem Shows.text_cons (h : Shows d vs text parts) (run : List Char) :
    Shows d vs (fun n => run ++ text n) (.text run :: parts) := by
  refine ⟨h.holds, ?_⟩
  intro n
  rw [← h.reads n]
  rfl

theorem Shows.value_cons (h : Shows d vs text parts) (b : Bound) :
    Shows d (b :: vs) (fun n => d.placeholder n ++ text (n + 1)) (.value b :: parts) := by
  constructor
  · rw [← h.holds]
    rfl
  · intro n
    rw [← h.reads (n + 1)]
    rfl

/-- Of two groups of parts the second goes on with the numbering where the first ends. -/
theorem Shows.append (h : Shows d vs text parts) (h' : Shows d ws more others) :
    Shows d (vs ++ ws) (fun n => text n ++ more (n + vs.length)) (parts ++ others) := by
  induction parts generalizing vs text with
  | nil =>
    obtain rfl : vs = [] := h.holds.symm
    apply h'.congr
    intro n
    rw [← h.reads n]
    rfl
  | cons part parts ih =>
    cases part with
    | text cs =>
      have hrest : Shows d vs (fun n => boundText d n parts) parts := ⟨h.holds, fun _ => rfl⟩
      apply ((ih hrest).text_cons cs).congr
      intro n
      rw [← h.reads n, boundText, List.append_assoc]
    | value b =>
      obtain rfl : vs = b :: values parts := h.holds.symm
      have hrest : Shows d (values parts) (fun n => boundText d n parts) parts :=
        ⟨rfl, fun _ => rfl⟩
      -- the numbers behind the value are larger by one
      apply ((ih hrest).value_cons b).congr
      intro n
      rw [← h.reads n, boundText, List.append_assoc, List.length_cons, Nat.add_assoc,
        Nat.add_comm 1]

end shows

/-- The words of a text that begins with a placeholder, in a numbered dialect: the mark
and the number, which ends where the text goes on. -/
theorem sqlWords_numbered {d : Dialect} {cs : List Char} (hd : d.isNumbered = true)
    (h : Plain ('?' :: cs)) (n : Nat) :
    sqlWords (withPlaceholders d n ('?' :: cs)) =
      ⟨.mark, [d.mark]⟩ :: ⟨.word, Digits.toDigits n⟩ ::
        sqlWords (withPlaceholders d (n + 1) cs) := by
  have hbehind : ∀ c ∈ (withPlaceholders d (n + 1) cs).head?, isWordPart c = false := by
    obtain ⟨hfollow, hplain⟩ := h.head?_behind
    rw [head?_withPlaceholders hplain]
    intro c hc
    exact isWordPart_of_mayFollow (hfollow c hc)
  obtain ⟨hspace, hword, hquote⟩ := mark_alone d
  rw [withPlaceholders_placeholder, Dialect.placeholder, if_pos hd, List.cons_append,
    sqlWords_mark hspace hword hquote]
  -- the number is a word from its first digit on
  obtain ⟨digit, digits, hn⟩ := List.exists_cons_of_ne_nil (Nat.toDigits_ne_nil (n := n) (b := 10))
  have hdigits : ∀ x ∈ digit :: digits, Digits.isDigit x = true := by
    have hrun := isRun_toDigits n
    unfold Digits.isRun Digits.toDigits at hrun
    rw [hn, Bool.and_eq_true, List.all_eq_true] at hrun
    exact hrun.2
  have hdigit := hdigits digit (List.mem_cons_self ..)
  have hparts : ∀ x ∈ digits, isWordPart x = true := by
    intro x hx
    have hx := hdigits x (List.mem_cons_of_mem _ hx)
    exact isWordPart_of_isWordStart (isWordStart_of_isDigit hx)
  unfold Digits.toDigits
  rw [hn, sqlWords_word (isSqlSpace_of_isDigit hdigit) (isWordStart_of_isDigit hdigit) hparts
    hbehind]

theorem sqlWords_unnumbered {d : Dialect} (hd : d.isNumbered = false) (n : Nat)
    (cs : List Char) :
    sqlWords (withPlaceholders d n ('?' :: cs)) =
      ⟨.mark, [d.mark]⟩ :: sqlWords (withPlaceholders d (n + 1) cs) := by
  obtain ⟨hspace, hword, hquote⟩ := mark_alone d
  rw [withPlaceholders_placeholder, Dialect.placeholder, if_neg (by simp [hd]),
    List.singleton_append, sqlWords_mark hspace hword hquote]

theorem number?_toDigits {n : Nat} (h : n < 2 ^ 64) :
    number? ⟨.word, Digits.toDigits n⟩ = some n := by
  have hrun : (Digits.isRun (Digits.toDigits n) && decide (n ≤ 0xFFFFFFFFFFFFFFFF)) = true := by
    rw [isRun_toDigits, Bool.true_and]
    apply decide_eq_true
    omega
  unfold number?
  dsimp only
  rw [Digits.ofDigits_toDigits, if_pos hrun]

/-- One placeholder is filled with the next value. -/
theorem fill?_placeholder {d : Dialect} {params : List Param} {cs : List Char} {k next : Nat}
    {v : Param} (h : Plain ('?' :: cs)) (hv : params[k]? = some v)
    (hnext : d.isNumbered = false → next = k)
    (hfits : d.isNumbered = true → k + 1 < 2 ^ 64) :
    ∃ next', (d.isNumbered = false → next' = k + 1) ∧
      fill? d params next (sqlWords (withPlaceholders d (k + 1) ('?' :: cs))) =
        (fill? d params next' (sqlWords (withPlaceholders d (k + 2) cs))).map
          (.value (.param v) :: ·) := by
  have hmark : isMark d ⟨.mark, [d.mark]⟩ = true := by simp [isMark]
  cases hd : d.isNumbered with
  | true =>
    refine ⟨next, by simp, ?_⟩
    rw [sqlWords_numbered hd h]
    exact fill?_numbered hd hmark rfl (number?_toDigits (hfits hd)) hv
  | false =>
    obtain rfl : next = k := hnext hd
    refine ⟨next + 1, fun _ => rfl, ?_⟩
    -- what is behind a placeholder is no second mark
    have hsingle : ∀ q ∈ (sqlWords (withPlaceholders d (next + 2) cs)).head?,
        isMark d q = false := by
      intro q hq
      by_contra hdouble
      have hdouble : isMark d q = true := by simpa using hdouble
      obtain ⟨rest, hrest⟩ := List.head?_eq_some_iff.mp hq
      have hhead := head?_of_isMark hrest hdouble
      obtain ⟨hfollow, hplain⟩ := h.head?_behind
      rw [head?_withPlaceholders hplain] at hhead
      exact absurd (hfollow _ hhead) (by cases d <;> decide)
    rw [sqlWords_unnumbered hd]
    exact fill?_inOrder hd hmark hsingle hv

/-- **Filling**: in a plain text with a placeholder for each of the values from number `k`
on, every value finds its placeholder, and nothing else changes. -/
theorem fill?_placed {d : Dialect} {params : List Param}
    (hfits : d.isNumbered = true → params.length < 2 ^ 64) {cs : List Char} (h : Plain cs)
    {k next : Nat} (hcount : k + cs.count '?' = params.length)
    (hnext : d.isNumbered = false → next = k) :
    ∃ parts, fill? d params next (sqlWords (withPlaceholders d (k + 1) cs)) = some parts ∧
      Shows d ((params.drop k).map .param) (fun n => withPlaceholders d n cs) parts := by
  -- on the length, as a stretch may be of any length
  induction hlength : cs.length using Nat.strong_induction_on generalizing cs k next with
  | _ length ih =>
    subst hlength
    cases cs with
    | nil =>
      have hk : params.drop k = [] := by
        apply List.drop_eq_nil_of_le
        rw [List.count_nil] at hcount
        omega
      have hwords : sqlWords [] = [] := by simp [sqlWords]
      rw [withPlaceholders_nil, hwords, hk]
      exact ⟨[], rfl, .nil⟩
    | cons c cs =>
      by_cases hc : c = '?'
      · -- the placeholder takes value `k`, and the next one the value behind it
        subst hc
        rw [List.count_cons_self] at hcount
        have hk : k < params.length := by omega
        have hnumber : d.isNumbered = true → k + 1 < 2 ^ 64 := by
          intro hd
          have := hfits hd
          omega
        obtain ⟨next', hnext', hfill⟩ :=
          fill?_placeholder h (List.getElem?_eq_getElem hk) hnext hnumber
        have hcs : Plain cs := Plain.of_append (a := ['?']) h
        have hcount : k + 1 + cs.count '?' = params.length := by omega
        obtain ⟨parts, hparts, hshows⟩ := ih cs.length (by simp) hcs hcount hnext' rfl
        refine ⟨.value (.param params[k]) :: parts, ?_, ?_⟩
        · rw [hfill, hparts]
          rfl
        · rw [List.drop_eq_getElem_cons hk]
          exact hshows.value_cons _
      · -- a stretch is left as it is
        obtain ⟨kind, run, rest, hsplit, hstretch⟩ := h.exists_stretch d hc
        have hrun : '?' ∉ run := hstretch.no_placeholder
        rw [hsplit] at h hcount ⊢
        rw [List.count_append, List.count_eq_zero.mpr hrun, Nat.zero_add] at hcount
        have hshorter : rest.length < (c :: cs).length := by
          have := List.length_pos_of_ne_nil hstretch.ne_nil
          rw [hsplit, List.length_append]
          omega
        obtain ⟨parts, hparts, hshows⟩ := ih rest.length hshorter h.of_append hcount hnext rfl
        refine ⟨.text run :: parts, ?_, ?_⟩
        · rw [withPlaceholders_append hrun, hstretch.words, fill?_text hstretch.no_mark, hparts]
          rfl
        · apply (hshows.text_cons run).congr
          intro n
          rw [withPlaceholders_append hrun]

end PropertyFilter.Statement
