import Mathlib.Data.List.TakeWhile
import PropertyFilter.Proofs.Token.Cutting

/-!
  # What matchers take

  A matcher is described here by the stretches that it takes, wherever it stands: `Takes m P`
  says that whatever it takes from the front of a text has the property `P`. What two
  matchers take one behind the other is composed of what each of them takes.

  Main statements: what holds of the stretches that the rules take holds of every piece of
  a text (`forall_mem_cut`); the pieces of a text that is cut to its end are each the first
  match where they begin (`matched_of_cut`); and a cut ends with the text, or where no rule
  takes anything (`left_of_cut`).
-/

namespace PropertyFilter

/-! ## Section 1: Matchers -/

namespace Matcher

/-- Whatever the matcher takes is the front of the text, and has the property `P`. -/
def Takes (m : Matcher) (P : List Char → Prop) : Prop :=
  ∀ cs n, m cs = some n → ∃ front rest, cs = front ++ rest ∧ n = front.length ∧ P front

/-- A stretch with the property `P`, and one with the property `Q` behind it. -/
def Then (P Q : List Char → Prop) (cs : List Char) : Prop :=
  ∃ front rest, cs = front ++ rest ∧ P front ∧ Q rest

section takes
variable {m next : Matcher} {P Q : List Char → Prop}

theorem Takes.mono (h : m.Takes P) (hPQ : ∀ cs, P cs → Q cs) : m.Takes Q := by
  intro cs n htake
  obtain ⟨front, rest, hcs, hn, hfront⟩ := h cs n htake
  exact ⟨front, rest, hcs, hn, hPQ front hfront⟩

theorem takes_word (w : String) : (word w).Takes (· = w.toList) := by
  intro cs n htake
  obtain ⟨rest, hcs, hn⟩ := exists_of_word htake
  exact ⟨w.toList, rest, hcs, hn, rfl⟩

theorem takes_many (p : Char → Bool) : (many p).Takes (∀ c ∈ ·, p c = true) := by
  intro cs n htake
  cases htake
  exact ⟨cs.takeWhile p, cs.dropWhile p, List.takeWhile_append_dropWhile.symm, rfl,
    fun c hc => List.mem_takeWhile_imp hc⟩

theorem takes_many1 (p : Char → Bool) :
    (many1 p).Takes fun run => run ≠ [] ∧ ∀ c ∈ run, p c = true := by
  intro cs n htake
  have hrun : cs.takeWhile p ≠ [] ∧ n = (cs.takeWhile p).length := by
    unfold many1 at htake
    split at htake
    · cases htake
    · next hne =>
      cases htake
      exact ⟨hne, rfl⟩
  exact ⟨cs.takeWhile p, cs.dropWhile p, List.takeWhile_append_dropWhile.symm, hrun.2, hrun.1,
    fun c hc => List.mem_takeWhile_imp hc⟩

theorem Takes.followedBy (hm : m.Takes P) (hnext : next.Takes Q) :
    (m.followedBy next).Takes (Then P Q) := by
  intro cs n htake
  obtain ⟨a, b, ha, hb, rfl⟩ := exists_of_followedBy htake
  obtain ⟨front, rest, rfl, rfl, hfront⟩ := hm cs a ha
  rw [List.drop_left' rfl] at hb
  obtain ⟨second, rest, rfl, rfl, hsecond⟩ := hnext rest b hb
  exact ⟨front ++ second, rest, (List.append_assoc ..).symm, List.length_append.symm,
    front, second, rfl, hfront, hsecond⟩

theorem Takes.orNothing (hm : m.Takes P) : m.orNothing.Takes fun cs => cs = [] ∨ P cs := by
  intro cs n htake
  unfold Matcher.orNothing at htake
  cases hn : m cs with
  | none =>
    rw [hn] at htake
    cases htake
    exact ⟨[], cs, rfl, rfl, Or.inl rfl⟩
  | some k =>
    rw [hn] at htake
    cases htake
    obtain ⟨front, rest, hcs, hk, hfront⟩ := hm cs k hn
    exact ⟨front, rest, hcs, hk, Or.inr hfront⟩

/-- What is taken between two quotes, taken with the quotes. -/
theorem Takes.quoted (hm : m.Takes P) :
    (((word "'").followedBy m).followedBy (word "'")).Takes
      fun cs => ∃ content, cs = '\'' :: (content ++ ['\'']) ∧ P content := by
  refine (((takes_word "'").followedBy hm).followedBy (takes_word "'")).mono ?_
  rintro cs ⟨front, closing, rfl, ⟨opening, content, rfl, hopening, hcontent⟩, hclosing⟩
  refine ⟨content, ?_, hcontent⟩
  rw [hopening, hclosing]
  simp

end takes

end Matcher

/-! ## Section 2: Pieces -/

section pieces
variable {κ : Type} {rules : List (Rule κ)} {P : κ → List Char → Prop}

/-- What holds of the stretches that the rules take holds of the first match. -/
theorem front_of_firstMatch? (htakes : ∀ r ∈ rules, r.matcher.Takes (P r.kind))
    {cs : List Char} {k : κ} {n : Nat} (h : firstMatch? rules cs = some (k, n)) :
    ∃ front rest, cs = front ++ rest ∧ n = front.length ∧ P k front := by
  obtain ⟨r, hr, rfl, htake⟩ := exists_rule_of_firstMatch? h
  exact htakes r hr cs n htake

/-- **Every piece** has the property of the stretches that its rule takes. -/
theorem forall_mem_cut (htakes : ∀ r ∈ rules, r.matcher.Takes (P r.kind)) (cs : List Char) :
    ∀ p ∈ (cut rules cs).1, P p.kind p.chars := by
  fun_induction cut rules cs with
  | case1 => simp
  | case2 c cs k n h pieces rest hcut ih =>
    rw [hcut] at ih
    intro p hp
    rcases List.mem_cons.mp hp with rfl | hp
    · obtain ⟨front, behind, hcs, hn, hfront⟩ := front_of_firstMatch? htakes h
      have hpiece : c :: cs.take n = front := by
        rw [← List.take_succ_cons, hcs, List.take_left' hn.symm]
      rwa [hpiece]
    · exact ih p hp
  | case3 => simp

/-- **Every piece** of a text that is cut to its end is the first match where it begins. -/
theorem matched_of_cut (htakes : ∀ r ∈ rules, r.matcher.Takes (P r.kind)) {cs : List Char}
    (h : (cut rules cs).2 = []) : Matched rules (cut rules cs).1 := by
  fun_induction cut rules cs with
  | case1 => exact .nil
  | case2 c cs k n hmatch pieces rest hcut ih =>
    have hbehind := cut_concat rules (cs.drop n)
    rw [hcut] at ih hbehind
    have hrest : rest = [] := h
    rw [hrest, List.append_nil] at hbehind
    -- what is taken is there to be taken, so the piece is as long as the match says
    obtain ⟨front, behind, hcs, hn, -⟩ := front_of_firstMatch? htakes hmatch
    have hlength : (c :: cs.take n).length = n + 1 := by
      rw [← List.take_succ_cons, hcs, List.take_left' hn.symm]
      exact hn.symm
    apply Matched.cons _ (ih h)
    show firstMatch? rules (c :: cs.take n ++ Piece.concat pieces) =
      some (k, (c :: cs.take n).length)
    rw [hbehind, hlength, List.cons_append, List.take_append_drop]
    exact hmatch
  | case3 c cs => cases h

/-- A cut ends with the text, or where no rule takes anything. -/
theorem left_of_cut (rules : List (Rule κ)) (cs : List Char) :
    (cut rules cs).2 = [] ∨ firstMatch? rules (cut rules cs).2 = none := by
  fun_induction cut rules cs with
  | case1 => exact Or.inl rfl
  | case2 c cs k n h pieces rest hcut ih =>
    rw [hcut] at ih
    exact ih
  | case3 c cs hnone =>
    right
    cases hm : firstMatch? rules (c :: cs) with
    | none => rfl
    | some kn =>
      -- a match takes at least one character
      obtain ⟨k, n⟩ := kn
      have hpos : n ≠ 0 := Nat.pos_iff_ne_zero.mp (firstMatch?_pos hm)
      obtain ⟨m, rfl⟩ := Nat.exists_eq_add_one_of_ne_zero hpos
      exact absurd hm (hnone k m)

end pieces

end PropertyFilter
