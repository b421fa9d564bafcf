import PropertyFilter.Pattern.Search
import PropertyFilter.Proofs.Token.Taking

/-!
  # Segmentations

  What a scanner computes, said without its loop. A segmentation cuts a text into pieces, each
  of which is what the first rule that takes anything takes at this place:

      text      = piece 1 ++ piece 2 ++ ... ++ piece n ++ rest
      piece i     not empty, taken by a rule in front of which all rules take nothing

  It is done when nothing is left, and stuck when something is left of which no rule takes
  anything. There is exactly one segmentation of a text that is either of these.

  Main statement: a scan gives tokens if and only if there is a segmentation that is done, and
  then these are its pieces in their places; otherwise it names the place where the
  segmentation is stuck (`scan_segmentation`).
-/

namespace PropertyFilter

/-! ## Section 1: What a rule takes -/

section rules
variable {κ : Type}

/-- The rule takes no more than there is. -/
def Rule.Within (r : Rule κ) : Prop := ∀ cs n, r.matcher cs = some n → n ≤ cs.length

/-- The rule takes nothing from the front of the text. -/
def Rule.Idle (r : Rule κ) (cs : List Char) : Prop := ∀ n, r.matcher cs = some n → n = 0

/-- The rule takes `front`, which is not empty, where `behind` follows it. -/
def Rule.TakesFront (r : Rule κ) (front behind : List Char) : Prop :=
  front ≠ [] ∧ r.matcher (front ++ behind) = some front.length

/-- Of the rules in their order, the first that is not idle is of kind `k`, and takes
`front`. -/
def FirstTakes (rules : List (Rule κ)) (k : κ) (front behind : List Char) : Prop :=
  ∃ ahead r more, rules = ahead ++ r :: more ∧ (∀ r' ∈ ahead, r'.Idle (front ++ behind)) ∧
    r.kind = k ∧ r.TakesFront front behind

variable {rules : List (Rule κ)} {cs front behind : List Char} {k : κ}

theorem Rule.length?_eq_some_iff {r : Rule κ} {n : Nat} :
    r.length? cs = some n ↔ r.matcher cs = some n ∧ 0 < n := by
  unfold Rule.length?
  rw [Option.filter_eq_some_iff, decide_eq_true_eq]

theorem Rule.length?_eq_none_iff {r : Rule κ} : r.length? cs = none ↔ r.Idle cs := by
  unfold Rule.length? Rule.Idle
  cases r.matcher cs with
  | none => simp
  | some n => simp

theorem Rule.within_of_takes {r : Rule κ} {P : List Char → Prop} (h : r.matcher.Takes P) :
    r.Within := by
  intro cs n htake
  obtain ⟨front, rest, rfl, rfl, -⟩ := h cs n htake
  simp

/-- A rule that is given by a pattern takes no more than there is. -/
theorem within_addPattern? {s s' : Scanner κ} {pattern : String}
    (hs : ∀ r ∈ s.rules, r.Within) (h : s.addPattern? pattern k = some s') :
    ∀ r ∈ s'.rules, r.Within := by
  obtain ⟨p, -, rfl⟩ := Option.map_eq_some_iff.mp h
  intro r hr
  rcases List.mem_append.mp hr with hr | hr
  · exact hs r hr
  · obtain rfl := List.mem_singleton.mp hr
    exact fun cs n htake => p.automaton.matcher_le htake

/-- There is no first match just if all rules are idle. -/
theorem firstMatch?_eq_none_iff : firstMatch? rules cs = none ↔ ∀ r ∈ rules, r.Idle cs := by
  unfold firstMatch?
  rw [List.findSome?_eq_none_iff]
  simp only [Option.map_eq_none_iff, Rule.length?_eq_none_iff]

/-- The first match is what the first rule takes that is not idle. -/
theorem firstMatch?_eq_some_iff :
    firstMatch? rules (front ++ behind) = some (k, front.length) ↔
      FirstTakes rules k front behind := by
  have htakes (r : Rule κ) :
      (r.length? (front ++ behind)).map (r.kind, ·) = some (k, front.length) ↔
        r.kind = k ∧ r.TakesFront front behind := by
    rw [Option.map_eq_some_iff]
    constructor
    · rintro ⟨n, hn, heq⟩
      obtain ⟨rfl, rfl⟩ := Prod.mk.inj heq
      obtain ⟨htake, hpos⟩ := Rule.length?_eq_some_iff.mp hn
      exact ⟨rfl, List.ne_nil_of_length_pos hpos, htake⟩
    · rintro ⟨rfl, hne, htake⟩
      exact ⟨_, Rule.length?_eq_some_iff.mpr ⟨htake, List.length_pos_iff.mpr hne⟩, rfl⟩
  unfold firstMatch? FirstTakes
  rw [List.findSome?_eq_some_iff]
  simp only [htakes, Option.map_eq_none_iff, Rule.length?_eq_none_iff]
  constructor
  · rintro ⟨ahead, r, more, hrules, ⟨hkind, htake⟩, hidle⟩
    exact ⟨ahead, r, more, hrules, hidle, hkind, htake⟩
  · rintro ⟨ahead, r, more, hrules, hidle, hkind, htake⟩
    exact ⟨ahead, r, more, hrules, ⟨hkind, htake⟩, hidle⟩

end rules

/-! ## Section 2: Segmentations -/

section segments
variable {κ : Type}

/-- `Segments rules pieces text rest`: the text begins with the pieces, each of which is taken
by the first rule that takes anything there, and `rest` is what is behind them. -/
inductive Segments (rules : List (Rule κ)) : List (Piece κ) → List Char → List Char → Prop
  | nil (rest : List Char) : Segments rules [] rest rest
  | cons {p : Piece κ} {ps : List (Piece κ)} {behind rest : List Char} :
      FirstTakes rules p.kind p.chars behind → Segments rules ps behind rest →
      Segments rules (p :: ps) (p.chars ++ behind) rest

/-- Something is left, of which no rule takes anything. -/
def Stuck (rules : List (Rule κ)) (rest : List Char) : Prop :=
  rest ≠ [] ∧ ∀ r ∈ rules, r.Idle rest

variable {rules : List (Rule κ)} {ps : List (Piece κ)} {cs rest : List Char}

/-- The pieces and the rest make up the text. -/
theorem Segments.concat (h : Segments rules ps cs rest) : Piece.concat ps ++ rest = cs := by
  induction h with
  | nil => rfl
  | cons _ _ ih => rw [Piece.concat_cons, List.append_assoc, ih]

/-- The pieces of a segmentation are cut off one by one, and then its rest is cut. -/
theorem Segments.cut_eq (h : Segments rules ps cs rest) :
    cut rules cs = (ps ++ (cut rules rest).1, (cut rules rest).2) := by
  induction h with
  | nil => rfl
  | cons hfirst _ ih => rw [cut_append (firstMatch?_eq_some_iff.mpr hfirst), ih, List.cons_append]

/-- **Only one segmentation comes to its end**: the one that is cut. -/
theorem Segments.cut_of_end (h : Segments rules ps cs rest) (hend : rest = [] ∨ Stuck rules rest) :
    cut rules cs = (ps, rest) := by
  have hrest : cut rules rest = ([], rest) := by
    rcases hend with rfl | ⟨-, hidle⟩
    · exact cut_nil rules
    · exact cut_of_none (firstMatch?_eq_none_iff.mpr hidle)
  rw [h.cut_eq, hrest, List.append_nil]

/-- **Every text has a segmentation**: the one that is cut. -/
theorem segments_cut (hrules : ∀ r ∈ rules, r.Within) (cs : List Char) :
    Segments rules (cut rules cs).1 cs (cut rules cs).2 := by
  fun_induction cut rules cs with
  | case1 => exact .nil []
  | case2 c cs k n hmatch pieces rest hcut ih =>
    rw [hcut] at ih
    obtain ⟨r, hr, -, htake⟩ := exists_rule_of_firstMatch? hmatch
    -- what is taken is there to be taken, so the piece is as long as the match says
    have hn : n ≤ cs.length := by simpa using hrules r hr _ _ htake
    have htext : c :: cs.take n ++ cs.drop n = c :: cs := by
      rw [List.cons_append, List.take_append_drop]
    have hlength : (c :: cs.take n).length = n + 1 := by simp [hn]
    have hfirst : FirstTakes rules k (c :: cs.take n) (cs.drop n) := by
      rw [← firstMatch?_eq_some_iff, htext, hlength]
      exact hmatch
    rw [← htext]
    exact .cons hfirst ih
  | case3 c cs => exact .nil (c :: cs)

/-- What is left of a text that is cut is nothing, or no rule takes anything of it. -/
theorem end_of_cut (rules : List (Rule κ)) (cs : List Char) :
    (cut rules cs).2 = [] ∨ Stuck rules (cut rules cs).2 := by
  by_cases hrest : (cut rules cs).2 = []
  · exact Or.inl hrest
  · have hnone := (left_of_cut rules cs).resolve_left hrest
    exact Or.inr ⟨hrest, firstMatch?_eq_none_iff.mp hnone⟩

end segments

/-! ## Section 3: Tokens in their places -/

section placement
variable {κ : Type}

/-- The part of a piece that its token shows. -/
def Piece.shown (trims : Bool) (p : Piece κ) : List Char :=
  if trims then Text.trim p.chars else p.chars

/-- The part of a text that a span covers. -/
def Span.Covers (s : Span) (text part : List Char) : Prop :=
  ∃ front behind, text = front ++ part ++ behind ∧ s = covering (Text.byteLength front) part

/-- The tokens of the pieces of a text, in their places. -/
structure Placement (trims : Bool) (text : List Char) (pieces : List (Piece κ))
    (tokens : List (Token κ)) : Prop where
  /-- Each piece is a token of its kind. -/
  kinds : tokens.map Token.kind = pieces.map Piece.kind
  /-- A token shows its piece, without the white space at its ends if these are trimmed. -/
  texts : tokens.map (fun t => t.text.toList) = pieces.map (Piece.shown trims)
  /-- The text in the span of a token is that of the token. -/
  covers : ∀ t ∈ tokens, t.span.Covers text t.text.toList
  /-- The span of a token lies within its piece. -/
  within : ∀ i t, tokens[i]? = some t →
    Text.byteLength (Piece.concat (pieces.take i)) ≤ t.span.start ∧
      t.span.stop ≤ Text.byteLength (Piece.concat (pieces.take (i + 1)))
  /-- The spans lie one behind the other. -/
  ordered : tokens.Pairwise fun t u => t.span.stop ≤ u.span.start
  /-- A character outside of all spans is white space that was trimmed. -/
  outside : ∀ front c behind, text = front ++ c :: behind →
    (∃ t ∈ tokens, t.span.start ≤ Text.byteLength front ∧
      Text.byteLength (front ++ [c]) ≤ t.span.stop) ∨
    (trims = true ∧ Text.isBlank c = true)

variable {trims : Bool} {offset : Nat} {p : Piece κ} {ps : List (Piece κ)}

theorem toToken_text (trims : Bool) (offset : Nat) (p : Piece κ) :
    (p.toToken trims offset).text.toList = p.shown trims := by
  cases trims with
  | false => exact String.toList_ofList
  | true => exact String.toList_ofList

/-- A piece is what its token shows, with trimmed white space around it. -/
theorem exists_around (trims : Bool) (offset : Nat) (p : Piece κ) :
    ∃ lead tail, p.chars = lead ++ p.shown trims ++ tail ∧
      (p.toToken trims offset).span =
        .covering (offset + Text.byteLength lead) (p.shown trims) ∧
      ∀ c ∈ lead ++ tail, trims = true ∧ Text.isBlank c = true := by
  cases trims with
  | false => exact ⟨[], [], by simp [Piece.shown], rfl, by simp⟩
  | true =>
    obtain ⟨tail, hchars, hblank⟩ := exists_trim_append p.chars
    exact ⟨Text.leadingBlanks p.chars, tail, hchars, rfl, fun c hc => ⟨rfl, hblank c hc⟩⟩

/-- The span of a token lies within its piece. -/
theorem span_toToken_within (trims : Bool) (offset : Nat) (p : Piece κ) :
    offset ≤ (p.toToken trims offset).span.start ∧
      (p.toToken trims offset).span.stop ≤ offset + Text.byteLength p.chars := by
  obtain ⟨lead, tail, hchars, hspan, -⟩ := exists_around trims offset p
  rw [hspan, hchars]
  simp only [Span.covering, Text.byteLength_append]
  omega

theorem texts_placed (trims : Bool) (offset : Nat) (ps : List (Piece κ)) :
    (placed trims offset ps).map (fun t => t.text.toList) = ps.map (Piece.shown trims) := by
  induction ps generalizing offset with
  | nil => rfl
  | cons p ps ih => rw [placed, List.map_cons, List.map_cons, toToken_text, ih]

/-- The text in the span of a token is that of the token. -/
theorem covers_placed (front : List Char) (ps : List (Piece κ)) :
    ∀ t ∈ placed trims (Text.byteLength front) ps,
      t.span.Covers (front ++ Piece.concat ps) t.text.toList := by
  induction ps generalizing front with
  | nil => simp [placed]
  | cons p ps ih =>
    intro t ht
    rw [placed, ← Text.byteLength_append] at ht
    rcases List.mem_cons.mp ht with rfl | ht
    · obtain ⟨lead, tail, hchars, hspan, -⟩ := exists_around trims (Text.byteLength front) p
      refine ⟨front ++ lead, tail ++ Piece.concat ps, ?_, ?_⟩
      · rw [toToken_text, Piece.concat_cons, hchars]
        simp only [List.append_assoc]
      · rw [toToken_text, hspan, Text.byteLength_append]
    · rw [Piece.concat_cons, ← List.append_assoc]
      exact ih (front ++ p.chars) t ht

theorem within_placed (offset : Nat) {i : Nat} {t : Token κ}
    (h : (placed trims offset ps)[i]? = some t) :
    offset + Text.byteLength (Piece.concat (ps.take i)) ≤ t.span.start ∧
      t.span.stop ≤ offset + Text.byteLength (Piece.concat (ps.take (i + 1))) := by
  induction ps generalizing offset i with
  | nil => simp [placed] at h
  | cons p ps ih =>
    cases i with
    | zero =>
      obtain rfl : p.toToken trims offset = t := Option.some.inj h
      have hwithin := span_toToken_within trims offset p
      simpa [Piece.concat] using hwithin
    | succ i =>
      have hmore := ih (offset + Text.byteLength p.chars) (i := i) h
      simp only [List.take_succ_cons, Piece.concat_cons, Text.byteLength_append]
      omega

/-- All spans begin behind the offset. -/
theorem le_start_of_mem_placed {t : Token κ} (h : t ∈ placed trims offset ps) :
    offset ≤ t.span.start := by
  obtain ⟨i, hi⟩ := List.mem_iff_getElem?.mp h
  exact Nat.le_trans (Nat.le_add_right ..) (within_placed offset hi).1

theorem ordered_placed (trims : Bool) (offset : Nat) (ps : List (Piece κ)) :
    (placed trims offset ps).Pairwise fun t u => t.span.stop ≤ u.span.start := by
  induction ps generalizing offset with
  | nil => exact .nil
  | cons p ps ih =>
    refine .cons (fun u hu => ?_) (ih _)
    exact Nat.le_trans (span_toToken_within trims offset p).2 (le_start_of_mem_placed hu)

/-- A character of two texts one behind the other is one of the first or of the second. -/
theorem character_of_append {xs ys front behind : List Char} {c : Char}
    (h : xs ++ ys = front ++ c :: behind) :
    (∃ more, xs = front ++ c :: more) ∨ ∃ rest, front = xs ++ rest ∧ ys = rest ++ c :: behind := by
  rcases List.append_eq_append_iff.mp h with ⟨rest, hfront, hys⟩ | ⟨more, hxs, hmore⟩
  · exact Or.inr ⟨rest, hfront, hys⟩
  · cases more with
    | nil => exact Or.inr ⟨[], by simpa using hxs.symm, by simpa using hmore.symm⟩
    | cons d more =>
      obtain ⟨rfl, -⟩ := List.cons.inj hmore
      exact Or.inl ⟨more, hxs⟩

/-- A character outside of all spans was trimmed. -/
theorem outside_placed (offset : Nat) {front behind : List Char} {c : Char}
    (h : Piece.concat ps = front ++ c :: behind) :
    (∃ t ∈ placed trims offset ps, t.span.start ≤ offset + Text.byteLength front ∧
      offset + Text.byteLength (front ++ [c]) ≤ t.span.stop) ∨
    (trims = true ∧ Text.isBlank c = true) := by
  induction ps generalizing offset front with
  | nil => simp at h
  | cons p ps ih =>
    rw [Piece.concat_cons] at h
    rcases character_of_append h with ⟨more, hp⟩ | ⟨rest, rfl, hps⟩
    · -- in the first piece, it is shown or around what is shown
      obtain ⟨lead, tail, hchars, hspan, hblank⟩ := exists_around trims offset p
      rw [hchars, List.append_assoc] at hp
      rcases character_of_append hp with ⟨_, hlead⟩ | ⟨inner, rfl, hinner⟩
      · exact Or.inr (hblank c (by simp [hlead]))
      · rcases character_of_append hinner with ⟨shown, hshown⟩ | ⟨_, -, htail⟩
        · refine Or.inl ⟨p.toToken trims offset, List.mem_cons_self .., ?_⟩
          rw [hspan, hshown]
          simp only [Span.covering, Text.byteLength_append, Text.byteLength_cons,
            Text.byteLength_nil]
          omega
        · exact Or.inr (hblank c (by simp [htail]))
    · refine (ih (offset + Text.byteLength p.chars) hps).imp_left ?_
      rintro ⟨t, ht, hstart, hstop⟩
      refine ⟨t, List.mem_cons_of_mem _ ht, ?_⟩
      simp only [Text.byteLength_append] at hstart hstop ⊢
      omega

/-- **Placed pieces are in their places.** -/
theorem placement_placed (trims : Bool) (ps : List (Piece κ)) :
    Placement trims (Piece.concat ps) ps (placed trims 0 ps) where
  kinds := map_kind_placed trims 0 ps
  texts := texts_placed trims 0 ps
  covers := covers_placed [] ps
  within i t h := by simpa using within_placed 0 h
  ordered := ordered_placed trims 0 ps
  outside front c behind h := by simpa using outside_placed 0 h

end placement

/-! ## Section 4: Scans -/

theorem scan_error_iff {κ : Type} {s : Scanner κ} {text : String} {e : ScanError} :
    s.scan text = .error e ↔
      (cut s.rules text.toList).2 ≠ [] ∧
        e = ⟨Text.byteLength (Piece.concat (cut s.rules text.toList).1),
          String.ofList (cut s.rules text.toList).2⟩ := by
  unfold Scanner.scan
  dsimp only
  by_cases hrest : (cut s.rules text.toList).2 = []
  · rw [if_pos (by simp [hrest])]
    simp [hrest]
  · rw [if_neg (by simp [hrest])]
    simp [hrest, eq_comm]

/-- **A scan is a segmentation.** Exactly one segmentation of a text comes to its end. If that
is the end of the text, the scan gives its pieces in their places, and otherwise the place
where no rule takes anything. -/
theorem scan_segmentation {κ : Type} (s : Scanner κ) (hrules : ∀ r ∈ s.rules, r.Within)
    (text : String) :
    (∃! seg : List (Piece κ) × List Char, Segments s.rules seg.1 text.toList seg.2 ∧
      (seg.2 = [] ∨ Stuck s.rules seg.2)) ∧
    ((∃ tokens, s.scan text = .ok tokens) ↔ ∃ ps, Segments s.rules ps text.toList []) ∧
    (∀ tokens ps, s.scan text = .ok tokens → Segments s.rules ps text.toList [] →
      Placement s.trims text.toList ps tokens) ∧
    ∀ e, s.scan text = .error e ↔
      ∃ ps rest, Segments s.rules ps text.toList rest ∧ Stuck s.rules rest ∧
        e = ⟨Text.byteLength (Piece.concat ps), String.ofList rest⟩ := by
  have hcut := segments_cut hrules text.toList
  refine ⟨⟨_, ⟨hcut, end_of_cut s.rules text.toList⟩, ?_⟩, ?_, ?_, ?_⟩
  · rintro ⟨ps, rest⟩ ⟨hps, hend⟩
    exact (hps.cut_of_end hend).symm
  · constructor
    · rintro ⟨tokens, htokens⟩
      obtain ⟨hrest, -⟩ := scan_ok_iff.mp htokens
      rw [hrest] at hcut
      exact ⟨_, hcut⟩
    · rintro ⟨ps, hps⟩
      exact ⟨_, scan_of_cut (hps.cut_of_end (Or.inl rfl))⟩
  · intro tokens ps htokens hps
    have hscan := scan_of_cut (hps.cut_of_end (Or.inl rfl))
    obtain rfl := Except.ok.inj (hscan.symm.trans htokens)
    have htext : Piece.concat ps = text.toList := by simpa using hps.concat
    rw [← htext]
    exact placement_placed s.trims ps
  · intro e
    rw [scan_error_iff]
    constructor
    · rintro ⟨hrest, rfl⟩
      exact ⟨_, _, hcut, (end_of_cut s.rules text.toList).resolve_left hrest, rfl⟩
    · rintro ⟨ps, rest, hps, hstuck, rfl⟩
      rw [hps.cut_of_end (Or.inr hstuck)]
      exact ⟨hstuck.1, rfl⟩

/-- A rule that may take nothing in front of the others, and white space of one, two and
three bytes: the piece of ideographic spaces alone becomes an empty token at its end. -/
theorem scan_segmentation_blanks :
    let rules : List (Rule Nat) :=
      [⟨.many Digits.isDigit, 0⟩, ⟨.word "+", 1⟩, ⟨.many1 (· ≠ '+'), 2⟩]
    let s : Scanner Nat := ⟨rules, true⟩
    let text := "12\u0085é +\u3000\u3000"
    let tokens : List (Token Nat) :=
      [⟨0, "12", ⟨0, 2⟩⟩, ⟨2, "é", ⟨4, 6⟩⟩, ⟨1, "+", ⟨7, 8⟩⟩, ⟨2, "", ⟨14, 14⟩⟩]
    (∀ r ∈ s.rules, r.Within) ∧ s.scan text = .ok tokens ∧
      ∃ ps, Segments s.rules ps text.toList [] ∧ Placement true text.toList ps tokens := by
  intro rules s text tokens
  have hrules : ∀ r ∈ s.rules, r.Within := by
    intro r hr
    simp only [s, rules, List.mem_cons, List.not_mem_nil, or_false] at hr
    rcases hr with rfl | rfl | rfl
    · exact Rule.within_of_takes (Matcher.takes_many _)
    · exact Rule.within_of_takes (Matcher.takes_word _)
    · exact Rule.within_of_takes (Matcher.takes_many1 _)
  have hscan : s.scan text = .ok tokens := by decide +kernel
  obtain ⟨-, hdone, hplaces, -⟩ := scan_segmentation s hrules text
  obtain ⟨ps, hps⟩ := hdone.mp ⟨tokens, hscan⟩
  exact ⟨hrules, hscan, ps, hps, hplaces tokens ps hscan hps⟩

end PropertyFilter
