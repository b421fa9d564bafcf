import Mathlib.Algebra.GroupWithZero.Nat
import Mathlib.Data.List.TakeDrop
import PropertyFilter.Proofs.Text.Trimming
import PropertyFilter.Token.Scanner

/-!
  # Cutting piece by piece

  What a matcher takes from a text that begins with a stretch of its kind, and what a
  scan makes of a text whose front is known: the first match decides the first piece,
  and the rest is cut on its own.

  Main statements: `cut_append`, of one piece, and `cut_concat_eq`, of a text that is
  made of pieces each of which is the first match where it begins. A scan gives no more
  tokens, and no more characters in them, than there are in the text (`length_scan_le`,
  `sum_text_scan_le`).
-/

namespace PropertyFilter

/-! ## Section 1: Matchers -/

namespace Matcher

theorem word_append (w : String) (cs : List Char) :
    word w (w.toList ++ cs) = some w.toList.length := by
  unfold word
  rw [if_pos (List.isPrefixOf_iff_prefix.mpr (List.prefix_append _ _))]

/-- What a word takes is itself. -/
theorem exists_of_word {w : String} {cs : List Char} {n : Nat} (h : word w cs = some n) :
    ∃ rest, cs = w.toList ++ rest ∧ n = w.toList.length := by
  unfold word at h
  by_cases hprefix : w.toList.isPrefixOf cs = true
  · rw [if_pos hprefix] at h
    obtain ⟨rest, hrest⟩ := List.isPrefixOf_iff_prefix.mp hprefix
    exact ⟨rest, hrest.symm, (Option.some.inj h).symm⟩
  · rw [if_neg hprefix] at h
    cases h

/-- A word matches only where its first character stands. -/
theorem word_eq_none {w : String} {x c : Char} {cs : List Char}
    (hw : w.toList.head? = some x) (hne : x ≠ c) : word w (c :: cs) = none := by
  cases htake : word w (c :: cs) with
  | none => rfl
  | some n =>
    obtain ⟨rest, hrest, -⟩ := exists_of_word htake
    have hhead : (w.toList ++ rest).head? = some x := by
      rw [List.head?_append, hw]
      rfl
    rw [← hrest] at hhead
    exact absurd (Option.some.inj hhead).symm hne

theorem word_nil {w : String} (hw : w.toList ≠ []) : word w [] = none := by
  cases htake : word w [] with
  | none => rfl
  | some n =>
    obtain ⟨rest, hrest, -⟩ := exists_of_word htake
    exact absurd (List.append_eq_nil_iff.mp hrest.symm).1 hw

theorem followedBy_eq_some {m next : Matcher} {cs : List Char} {n k : Nat}
    (hm : m cs = some n) (hnext : next (cs.drop n) = some k) :
    m.followedBy next cs = some (n + k) := by
  unfold followedBy
  simp [hm, hnext]

/-- What two matchers take one behind the other is what each of them takes. -/
theorem exists_of_followedBy {m next : Matcher} {cs : List Char} {n : Nat}
    (h : m.followedBy next cs = some n) :
    ∃ a b, m cs = some a ∧ next (cs.drop a) = some b ∧ n = a + b := by
  unfold followedBy at h
  obtain ⟨a, ha, h⟩ := Option.bind_eq_some_iff.mp h
  obtain ⟨b, hb, hn⟩ := Option.bind_eq_some_iff.mp h
  exact ⟨a, b, ha, hb, (Option.some.inj hn).symm⟩

theorem followedBy_eq_none {m : Matcher} {cs : List Char} (hm : m cs = none) (next : Matcher) :
    m.followedBy next cs = none := by
  unfold followedBy
  simp [hm]

theorem followedBy_eq_none_of_next {m next : Matcher} {cs : List Char} {n : Nat}
    (hm : m cs = some n) (hnext : next (cs.drop n) = none) : m.followedBy next cs = none := by
  unfold followedBy
  simp [hm, hnext]

/-- A text without a character is a run of others. -/
theorem ne_of_notMem {x : Char} {cs : List Char} (h : x ∉ cs) :
    ∀ c ∈ cs, decide (c ≠ x) = true := by
  intro c hc
  have hne : c ≠ x := by
    rintro rfl
    exact h hc
  simpa using hne

section run
variable {p : Char → Bool} {run cs : List Char}

/-- A run ends where a character of another class begins. -/
theorem takeWhile_run (hrun : ∀ c ∈ run, p c = true) (hcs : ∀ c ∈ cs.head?, p c = false) :
    (run ++ cs).takeWhile p = run := by
  rw [List.takeWhile_append_of_pos hrun]
  cases cs with
  | nil => simp
  | cons c cs => simp [hcs c rfl]

theorem dropWhile_run (hrun : ∀ c ∈ run, p c = true) (hcs : ∀ c ∈ cs.head?, p c = false) :
    (run ++ cs).dropWhile p = cs := by
  have hsplit : (run ++ cs).takeWhile p ++ (run ++ cs).dropWhile p = run ++ cs :=
    List.takeWhile_append_dropWhile
  rw [takeWhile_run hrun hcs] at hsplit
  exact List.append_cancel_left hsplit

/-- What a class takes from the front of a text ends where another class begins. -/
theorem head?_dropWhile : ∀ c ∈ (cs.dropWhile p).head?, p c = false := by
  intro c hc
  have h := List.head?_dropWhile_not p cs
  rw [Option.mem_def.mp hc] at h
  exact h

theorem span_run (hrun : ∀ c ∈ run, p c = true) (hcs : ∀ c ∈ cs.head?, p c = false) :
    (run ++ cs).span p = (run, cs) := by
  rw [List.span_eq_takeWhile_dropWhile, takeWhile_run hrun hcs, dropWhile_run hrun hcs]

theorem span_all (hrun : ∀ c ∈ run, p c = true) : run.span p = (run, []) := by
  have hspan : (run ++ []).span p = (run, []) := span_run hrun (by simp)
  rwa [List.append_nil] at hspan

theorem many_append (hrun : ∀ c ∈ run, p c = true) (hcs : ∀ c ∈ cs.head?, p c = false) :
    many p (run ++ cs) = some run.length := by
  unfold many
  rw [takeWhile_run hrun hcs]

theorem many1_append (hne : run ≠ []) (hrun : ∀ c ∈ run, p c = true)
    (hcs : ∀ c ∈ cs.head?, p c = false) : many1 p (run ++ cs) = some run.length := by
  unfold many1
  rw [takeWhile_run hrun hcs]
  cases run with
  | nil => exact absurd rfl hne
  | cons c run => rfl

theorem many1_cons {c : Char} (hc : p c = true) :
    many1 p (c :: cs) = some ((cs.takeWhile p).length + 1) := by
  unfold many1
  rw [List.takeWhile_cons_of_pos hc]
  rfl

theorem many1_eq_none {c : Char} (hc : p c = false) : many1 p (c :: cs) = none := by
  unfold many1
  rw [List.takeWhile_cons_of_neg (by simp [hc])]

end run

end Matcher

/-! ## Section 2: Rules -/

section rules
variable {κ : Type} {rules : List (Rule κ)} {cs : List Char}

/-- The first rule takes something. -/
theorem firstMatch?_cons_of_some {r : Rule κ} {n : Nat} (h : r.matcher cs = some n)
    (hn : 0 < n) : firstMatch? (r :: rules) cs = some (r.kind, n) := by
  have hlength : r.length? cs = some n := by
    unfold Rule.length?
    rw [h, Option.filter_some, if_pos (by simpa using hn)]
  rw [firstMatch?_cons, hlength]

/-- The first rule takes nothing, so the others decide. -/
theorem firstMatch?_cons_of_none {r : Rule κ} (h : r.matcher cs = none) :
    firstMatch? (r :: rules) cs = firstMatch? rules cs := by
  have hlength : r.length? cs = none := by
    unfold Rule.length?
    rw [h, Option.filter_none]
  rw [firstMatch?_cons, hlength]

/-- No rule of the first group takes anything, so the second group decides. -/
theorem firstMatch?_append_of_none {more : List (Rule κ)}
    (h : ∀ r ∈ rules, r.matcher cs = none) :
    firstMatch? (rules ++ more) cs = firstMatch? more cs := by
  induction rules with
  | nil => rfl
  | cons r rules ih =>
    rw [List.cons_append, firstMatch?_cons_of_none (h r (List.mem_cons_self ..))]
    exact ih fun r' hr' => h r' (List.mem_cons_of_mem _ hr')

/-- The first match is what one of the rules takes. -/
theorem exists_rule_of_firstMatch? {k : κ} {n : Nat} (h : firstMatch? rules cs = some (k, n)) :
    ∃ r ∈ rules, r.kind = k ∧ r.matcher cs = some n := by
  unfold firstMatch? at h
  obtain ⟨r, hr, hlength⟩ := List.exists_of_findSome?_eq_some h
  obtain ⟨m, hm, heq⟩ := Option.map_eq_some_iff.mp hlength
  cases heq
  exact ⟨r, hr, rfl, (Option.filter_eq_some_iff.mp hm).1⟩

/-- If some rule takes something, there is a first one that does. -/
theorem firstMatch?_isSome {r : Rule κ} {n : Nat} (hr : r ∈ rules)
    (h : r.matcher cs = some n) (hn : 0 < n) : (firstMatch? rules cs).isSome = true := by
  unfold firstMatch?
  rw [List.findSome?_isSome_iff]
  refine ⟨r, hr, ?_⟩
  unfold Rule.length?
  simp [h, hn]

/-! ## Section 3: Pieces -/

/-- **One piece**: what the first match takes is the first piece, and the rest is cut on
its own. -/
theorem cut_append {k : κ} {front rest : List Char}
    (h : firstMatch? rules (front ++ rest) = some (k, front.length)) :
    cut rules (front ++ rest) =
      (⟨k, front⟩ :: (cut rules rest).1, (cut rules rest).2) := by
  cases front with
  | nil =>
    -- a match takes at least one character
    have hpos := firstMatch?_pos h
    exact absurd hpos (by decide)
  | cons c front =>
    rw [List.cons_append] at h ⊢
    rw [cut_of_match h, List.take_left' rfl, List.drop_left' rfl]

/-- Each piece is the first match where it begins. -/
inductive Matched (rules : List (Rule κ)) : List (Piece κ) → Prop
  | nil : Matched rules []
  | cons {p : Piece κ} {ps : List (Piece κ)} :
      firstMatch? rules (p.chars ++ Piece.concat ps) = some (p.kind, p.chars.length) →
      Matched rules ps → Matched rules (p :: ps)

/-- **Many pieces**: a text made of first matches is cut into them, and nothing is left. -/
theorem cut_concat_eq {ps : List (Piece κ)} (h : Matched rules ps) :
    cut rules (Piece.concat ps) = (ps, []) := by
  induction h with
  | nil => exact cut_nil rules
  | cons hfirst _ ih => rw [Piece.concat_cons, cut_append hfirst, ih]

/-- A text begins with its first piece. -/
theorem head?_of_cut {p : Piece κ} {ps : List (Piece κ)} (hcut : (cut rules cs).1 = p :: ps)
    (hne : p.chars ≠ []) : cs.head? = p.chars.head? := by
  have hconcat := cut_concat rules cs
  rw [hcut, Piece.concat_cons, List.append_assoc] at hconcat
  cases hp : p.chars with
  | nil => exact absurd hp hne
  | cons c front =>
    rw [← hconcat, hp]
    rfl

/-- No piece is empty, so there are at most as many as characters. -/
theorem length_cut_le (rules : List (Rule κ)) (cs : List Char) :
    (cut rules cs).1.length ≤ cs.length := by
  fun_induction cut rules cs with
  | case1 => simp
  | case2 c cs k n h pieces rest hcut ih =>
    rw [hcut, List.length_drop] at ih
    -- the piece takes `n + 1` characters, the first of which is `c`
    have hpieces : pieces.length ≤ cs.length - n := ih
    simp only [List.length_cons]
    omega
  | case3 => simp

end rules

/-! ## Section 4: Scans -/

section scan
variable {κ : Type} {s : Scanner κ} {text : String}

theorem scan_ok_iff {tokens : List (Token κ)} :
    s.scan text = .ok tokens ↔
      (cut s.rules text.toList).2 = [] ∧
        tokens = placed s.trims 0 (cut s.rules text.toList).1 := by
  unfold Scanner.scan
  dsimp only
  by_cases hrest : (cut s.rules text.toList).2 = []
  · rw [if_pos (by simp [hrest])]
    simp [hrest, eq_comm]
  · rw [if_neg (by simp [hrest])]
    simp [hrest]

/-- A text that is cut to the end is scanned. -/
theorem scan_of_cut {ps : List (Piece κ)} (h : cut s.rules text.toList = (ps, [])) :
    s.scan text = .ok (placed s.trims 0 ps) := by
  rw [scan_ok_iff, h]
  exact ⟨rfl, rfl⟩

/-- The empty text is scanned without an error. -/
theorem ne_nil_of_scan_error {e : ScanError} (h : s.scan text = .error e) :
    text.toList ≠ [] := by
  intro hnil
  have hok : s.scan text = .ok (placed s.trims 0 []) := by
    apply scan_of_cut
    rw [hnil, cut_nil]
  rw [hok] at h
  cases h

theorem length_placed (trims : Bool) (offset : Nat) (ps : List (Piece κ)) :
    (placed trims offset ps).length = ps.length := by
  induction ps generalizing offset with
  | nil => rfl
  | cons p ps ih => simp [placed, ih]

/-- Only the empty text has no tokens, since its pieces make it up. -/
theorem eq_nil_iff_of_scan {tokens : List (Token κ)} (h : s.scan text = .ok tokens) :
    tokens = [] ↔ text = "" := by
  obtain ⟨hrest, rfl⟩ := scan_ok_iff.mp h
  rw [← List.length_eq_zero_iff, length_placed, List.length_eq_zero_iff]
  constructor
  · intro hnone
    have hconcat := cut_concat s.rules text.toList
    rw [hrest, hnone] at hconcat
    exact String.toList_eq_nil_iff.mp hconcat.symm
  · rintro rfl
    show (cut s.rules []).1 = []
    rw [cut_nil]

theorem map_kind_placed (trims : Bool) (offset : Nat) (ps : List (Piece κ)) :
    (placed trims offset ps).map Token.kind = ps.map Piece.kind := by
  induction ps generalizing offset with
  | nil => rfl
  | cons p ps ih => simp [placed, ih]

theorem length_toToken_text_le (trims : Bool) (offset : Nat) (p : Piece κ) :
    (p.toToken trims offset).text.toList.length ≤ p.chars.length := by
  cases trims with
  | false => simp [Piece.toToken]
  | true => simpa [Piece.toToken] using length_trim_le p.chars

/-- The texts of the tokens of a text are together no longer than the text. -/
theorem sum_text_placed_le (trims : Bool) (offset : Nat) (ps : List (Piece κ)) :
    ((placed trims offset ps).map fun t => t.text.toList.length).sum ≤
      (Piece.concat ps).length := by
  induction ps generalizing offset with
  | nil => simp [placed]
  | cons p ps ih =>
    have hp := length_toToken_text_le trims offset p
    have hps := ih (offset + Text.byteLength p.chars)
    simp only [placed, List.map_cons, List.sum_cons, Piece.concat_cons, List.length_append]
    omega

theorem length_scan_le {tokens : List (Token κ)} (h : s.scan text = .ok tokens) :
    tokens.length ≤ text.toList.length := by
  obtain ⟨-, rfl⟩ := scan_ok_iff.mp h
  rw [length_placed]
  exact length_cut_le s.rules text.toList

theorem sum_text_scan_le {tokens : List (Token κ)} (h : s.scan text = .ok tokens) :
    (tokens.map fun t => t.text.toList.length).sum ≤ text.toList.length := by
  obtain ⟨hrest, rfl⟩ := scan_ok_iff.mp h
  have hconcat := cut_concat s.rules text.toList
  rw [hrest, List.append_nil] at hconcat
  have hsum := sum_text_placed_le s.trims 0 (cut s.rules text.toList).1
  rwa [hconcat] at hsum

end scan

end PropertyFilter
