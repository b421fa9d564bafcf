import PropertyFilter.Proofs.Token.Segmentation

/-!
  # More rules

  A rule that is added to a scanner is asked last, so it decides only where the rules in front
  of it take nothing. A scan with more rules therefore makes the same cuts up to the place
  where the scan without them ends:

      without them     with them
      tokens           the same tokens
      stuck at p       the same tokens in front of p; behind them tokens up to the end of the
                       text, or up to a place that is not in front of p

  It plays no part what the rules take, nor whether tokens are stripped of white space.

  Main statement: whatever is added by a pattern, and nothing is if there is no such pattern,
  scans are conserved in this sense (`conserves_addRule`).
-/

namespace PropertyFilter

section extension
variable {κ : Type} {rules more : List (Rule κ)}

/-! ## Section 1: Cutting with more rules -/

/-- Where a rule takes something, rules behind it are not asked. -/
theorem firstMatch?_append_of_some {cs : List Char} {m : κ × Nat}
    (h : firstMatch? rules cs = some m) (more : List (Rule κ)) :
    firstMatch? (rules ++ more) cs = some m := by
  rw [firstMatch?_append, h]
  rfl

/-- **Cutting goes on where it ended**: with more rules the same pieces are cut, and then what
was left without them. -/
theorem cut_append_rules (rules more : List (Rule κ)) (cs : List Char) :
    cut (rules ++ more) cs =
      ((cut rules cs).1 ++ (cut (rules ++ more) (cut rules cs).2).1,
        (cut (rules ++ more) (cut rules cs).2).2) := by
  fun_induction cut rules cs with
  | case1 => rfl
  | case2 c cs k n hmatch pieces rest hcut ih =>
    rw [hcut] at ih
    rw [cut_of_match (firstMatch?_append_of_some hmatch more), ih]
    rfl
  | case3 => rfl

theorem Piece.concat_append (ps qs : List (Piece κ)) :
    Piece.concat (ps ++ qs) = Piece.concat ps ++ Piece.concat qs :=
  List.flatMap_append

/-- Pieces one behind the other are placed one behind the other. -/
theorem placed_append (trims : Bool) (offset : Nat) (ps qs : List (Piece κ)) :
    placed trims offset (ps ++ qs) =
      placed trims offset ps ++
        placed trims (offset + Text.byteLength (Piece.concat ps)) qs := by
  induction ps generalizing offset with
  | nil => rfl
  | cons p ps ih =>
    rw [List.cons_append, placed, placed, ih, Piece.concat_cons, Text.byteLength_append,
      Nat.add_assoc, List.cons_append]

/-- All spans end in front of what is behind the pieces. -/
theorem stop_le_of_mem_placed {trims : Bool} {offset : Nat} {ps : List (Piece κ)} {t : Token κ}
    (h : t ∈ placed trims offset ps) :
    t.span.stop ≤ offset + Text.byteLength (Piece.concat ps) := by
  induction ps generalizing offset with
  | nil => cases h
  | cons p ps ih =>
    rw [Piece.concat_cons, Text.byteLength_append]
    rcases List.mem_cons.mp h with rfl | h
    · have hstop := (span_toToken_within trims offset p).2
      omega
    · have hstop := ih h
      omega

/-! ## Section 2: Scans with more rules -/

namespace Scanner

/-- The tokens that are cut until the text ends or no rule takes anything. -/
def tokensCut (s : Scanner κ) (text : String) : List (Token κ) :=
  placed s.trims 0 (cut s.rules text.toList).1

/-- `s'.Conserves s text`: on this text `s'` does what `s` does, and goes on where `s` is
stuck. -/
structure Conserves (s' s : Scanner κ) (text : String) : Prop where
  /-- Tokens stay the same. -/
  done : ∀ tokens, s.scan text = .ok tokens → s'.scan text = .ok tokens
  /-- Where `s` is stuck, its tokens are those of `s'` in front of this place, and `s'` comes
  to the end of the text or is stuck at a place not in front of this one. -/
  stuck : ∀ e, s.scan text = .error e → ∃ behind,
    s'.tokensCut text = s.tokensCut text ++ behind ∧
    (∀ t ∈ s.tokensCut text, t.span.stop ≤ e.position) ∧
    (∀ t ∈ behind, e.position ≤ t.span.start) ∧
    (s'.scan text = .ok (s.tokensCut text ++ behind) ∨
      ∃ e', s'.scan text = .error e' ∧ e.position ≤ e'.position)

variable {s s' : Scanner κ}

/-- **More rules conserve scans.** -/
theorem conserves_of_append (htrims : s'.trims = s.trims) (hrules : s'.rules = s.rules ++ more)
    (text : String) : s'.Conserves s text := by
  have hcut := cut_append_rules s.rules more text.toList
  rw [← hrules] at hcut
  constructor
  · intro tokens htokens
    obtain ⟨hrest, rfl⟩ := scan_ok_iff.mp htokens
    -- nothing is left, so nothing is cut behind the pieces
    rw [hrest, cut_nil, List.append_nil] at hcut
    rw [scan_ok_iff, hcut, htrims]
    exact ⟨rfl, rfl⟩
  · intro e he
    obtain ⟨-, rfl⟩ := scan_error_iff.mp he
    have htokens : s'.tokensCut text = s.tokensCut text ++
        placed s.trims (Text.byteLength (Piece.concat (cut s.rules text.toList).1))
          (cut s'.rules (cut s.rules text.toList).2).1 := by
      unfold tokensCut
      rw [hcut, htrims, placed_append, Nat.zero_add]
    refine ⟨_, htokens, ?_, fun t ht => le_start_of_mem_placed ht, ?_⟩
    · intro t ht
      have hstop := stop_le_of_mem_placed ht
      rwa [Nat.zero_add] at hstop
    · by_cases hrest : (cut s'.rules text.toList).2 = []
      · left
        rw [← htokens]
        exact scan_ok_iff.mpr ⟨hrest, rfl⟩
      · right
        refine ⟨_, scan_error_iff.mpr ⟨hrest, rfl⟩, ?_⟩
        dsimp only
        rw [hcut, Piece.concat_append, Text.byteLength_append]
        exact Nat.le_add_right ..

/-- **Adding a rule is conservative.** Whatever rule is added, and in particular one that is
given by a pattern, scans are conserved; the attempt to add a rule by something that is no
pattern leaves every scan as it is. -/
theorem conserves_addRule (s : Scanner κ) (text : String) :
    (∀ r, (s.addRule r).Conserves s text) ∧
    ∀ pattern kind,
      (∀ s', s.addPattern? pattern kind = some s' →
        s.attempt pattern kind = s' ∧ s'.Conserves s text) ∧
      (s.addPattern? pattern kind = none →
        (s.attempt pattern kind).scan text = s.scan text) := by
  have hrule (r : Rule κ) : (s.addRule r).Conserves s text := by
    have htrims : (s.addRule r).trims = s.trims := rfl
    have hrules : (s.addRule r).rules = s.rules ++ [r] := rfl
    exact conserves_of_append htrims hrules text
  refine ⟨hrule, fun pattern kind => ⟨?_, ?_⟩⟩
  · intro s' hs'
    obtain ⟨p, hp, rfl⟩ := Option.map_eq_some_iff.mp hs'
    refine ⟨?_, hrule _⟩
    unfold attempt
    rw [hp]
  · intro hnone
    have hp : Pattern.ofText? pattern = none := Option.map_eq_none_iff.mp hnone
    unfold attempt
    rw [hp]

/-- Digits that may be none, then a letter behind a blank: the added rule gets the scan past
the blank, up to a sign for which there is no rule. A bracket alone is no pattern. -/
theorem conserves_addRule_letters :
    let s : Scanner Nat := ⟨[⟨.many Digits.isDigit, 0⟩], true⟩
    let text := "12 é+"
    s.scan text = .error ⟨2, " é+"⟩ ∧
      (∃ s', s.addPattern? " ?[a-ö]+" 1 = some s' ∧ s'.scan text = .error ⟨5, "+"⟩ ∧
        ∃ behind, s'.tokensCut text = s.tokensCut text ++ behind ∧
          ∀ t ∈ behind, 2 ≤ t.span.start) ∧
      s.addPattern? "(" 1 = none ∧ (s.attempt "(" 1).scan text = s.scan text := by
  intro s text
  have hstuck : s.scan text = .error ⟨2, " é+"⟩ := by decide +kernel
  have hsome : (s.addPattern? " ?[a-ö]+" 1).isSome = true := by decide +kernel
  have hlater : (s.attempt " ?[a-ö]+" 1).scan text = .error ⟨5, "+"⟩ := by decide +kernel
  have hnone : (s.addPattern? "(" 1).isNone = true := by decide +kernel
  have hpatterns := (conserves_addRule s text).2
  obtain ⟨s', hs'⟩ := Option.isSome_iff_exists.mp hsome
  obtain ⟨rfl, hconserves⟩ := (hpatterns _ _).1 s' hs'
  obtain ⟨behind, htokens, -, hbehind, -⟩ := hconserves.stuck _ hstuck
  rw [Option.isNone_iff_eq_none] at hnone
  exact ⟨hstuck, ⟨_, hs', hlater, behind, htokens, hbehind⟩, hnone, (hpatterns _ _).2 hnone⟩

end Scanner

end extension

end PropertyFilter
