import Mathlib.Data.List.Chain
import PropertyFilter.Filter.Star
import PropertyFilter.Proofs.Token.Placing

/-!
  # Stars and runs

  A text falls into its stars and the longest runs between them, in one way only. From
  this split the patterns of `like` are made, and here they are said of the characters of
  the text:

      wildcardPattern     every star is a %
      containsPattern     one star at the front and one at the end are left out, every
                          other star is a %, and a % stands at both ends

  Main statements: every text has this split, and no other (`starTokens_eq_iff`), and the two
  patterns are those (`toList_wildcardPattern`, `toList_containsPattern`). A text has more than one part
  exactly if it has a star and something else (`one_lt_length_starTokens`).
-/

namespace PropertyFilter

/-! ## Section 1: The split of a text -/

/-- `StarShaped p`: a single star, or a run of other characters that is not empty. -/
inductive StarShaped : Piece StarWord → Prop
  | star : StarShaped ⟨.star, ['*']⟩
  | run {cs : List Char} : cs ≠ [] → '*' ∉ cs → StarShaped ⟨.run, cs⟩

theorem StarShaped.ne_nil {p : Piece StarWord} (h : StarShaped p) : p.chars ≠ [] := by
  cases h with
  | star => simp
  | run hne => exact hne

theorem StarShaped.chars_of_star {p : Piece StarWord} (h : StarShaped p)
    (hstar : p.kind = .star) : p.chars = ['*'] := by
  cases h with
  | star => rfl
  | run => cases hstar

theorem StarShaped.free_of_run {p : Piece StarWord} (h : StarShaped p)
    (hrun : p.kind = .run) : '*' ∉ p.chars := by
  cases h with
  | star => cases hrun
  | run _ hfree => exact hfree

/-- Neighbours of which at least one is a star. -/
def Parted (p q : Piece StarWord) : Prop := p.kind = .star ∨ q.kind = .star

/-- A text with one more character in front, that is no star: the first run grows. -/
def extendRun (c : Char) : List (Piece StarWord) → List (Piece StarWord)
  | ⟨.run, cs⟩ :: ps => ⟨.run, c :: cs⟩ :: ps
  | ps => ⟨.run, [c]⟩ :: ps

/-- The stars of a text and the runs between them. -/
def starPieces : List Char → List (Piece StarWord)
  | [] => []
  | c :: cs => if c = '*' then ⟨.star, ['*']⟩ :: starPieces cs else extendRun c (starPieces cs)

theorem concat_extendRun (c : Char) (ps : List (Piece StarWord)) :
    Piece.concat (extendRun c ps) = c :: Piece.concat ps := by
  unfold extendRun
  split
  · rfl
  · rfl

theorem concat_starPieces (cs : List Char) : Piece.concat (starPieces cs) = cs := by
  induction cs with
  | nil => rfl
  | cons c cs ih =>
    rw [starPieces]
    by_cases hc : c = '*'
    · rw [if_pos hc, Piece.concat_cons, ih, hc]
      rfl
    · rw [if_neg hc, concat_extendRun, ih]

theorem starShaped_extendRun {c : Char} (hc : c ≠ '*') {ps : List (Piece StarWord)}
    (h : ∀ p ∈ ps, StarShaped p) : ∀ p ∈ extendRun c ps, StarShaped p := by
  intro p hp
  unfold extendRun at hp
  split at hp
  · next cs rest =>
    -- the run that was there has no star, and the character is none
    rcases List.mem_cons.mp hp with rfl | hp
    · have hfree : '*' ∉ cs := (h ⟨.run, cs⟩ (List.mem_cons_self ..)).free_of_run rfl
      exact .run (by simp) (by simp [Ne.symm hc, hfree])
    · exact h p (List.mem_cons_of_mem _ hp)
  · rcases List.mem_cons.mp hp with rfl | hp
    · exact .run (by simp) (by simpa using Ne.symm hc)
    · exact h p hp

/-- Only a star can be in front of a run, and it still is when the run grows. -/
theorem parted_extendRun {c : Char} {ps : List (Piece StarWord)} (h : ps.IsChain Parted) :
    (extendRun c ps).IsChain Parted := by
  unfold extendRun
  split
  · next cs rest =>
    obtain ⟨hnext, hrest⟩ := List.isChain_cons.mp h
    exact List.isChain_cons.mpr ⟨hnext, hrest⟩
  · next hrun =>
    -- a new run is begun only where there is no run already
    rw [List.isChain_cons]
    refine ⟨?_, h⟩
    intro q hq
    obtain ⟨rest, rfl⟩ := List.head?_eq_some_iff.mp hq
    obtain ⟨kind, cs⟩ := q
    cases kind with
    | star => exact Or.inr rfl
    | run => exact absurd rfl (hrun cs rest)

theorem starPieces_shaped (cs : List Char) :
    (∀ p ∈ starPieces cs, StarShaped p) ∧ (starPieces cs).IsChain Parted := by
  induction cs with
  | nil => exact ⟨by simp [starPieces], .nil⟩
  | cons c cs ih =>
    obtain ⟨hshape, hparted⟩ := ih
    rw [starPieces]
    by_cases hc : c = '*'
    · rw [if_pos hc]
      constructor
      · intro p hp
        rcases List.mem_cons.mp hp with rfl | hp
        · exact .star
        · exact hshape p hp
      · rw [List.isChain_cons]
        exact ⟨fun _ _ => Or.inl rfl, hparted⟩
    · rw [if_neg hc]
      exact ⟨starShaped_extendRun hc hshape, parted_extendRun hparted⟩

/-- A star or a run is what the rules take where it stands. -/
theorem firstMatch?_starRules {p : Piece StarWord} {rest : List Char} (hp : StarShaped p)
    (hrest : p.kind = .run → ∀ c ∈ rest.head?, c = '*') :
    firstMatch? starRules (p.chars ++ rest) = some (p.kind, p.chars.length) := by
  cases hp with
  | star => exact firstMatch?_cons_of_some (Matcher.word_append "*" rest) (by decide)
  | @run cs hne hfree =>
    obtain ⟨c, cs, rfl⟩ := List.exists_cons_of_ne_nil hne
    have hc : '*' ≠ c := by
      rintro rfl
      exact hfree (List.mem_cons_self ..)
    have hstar : Matcher.word "*" (c :: cs ++ rest) = none := Matcher.word_eq_none rfl hc
    have hall : ∀ d ∈ c :: cs, decide (d ≠ '*') = true := Matcher.ne_of_notMem hfree
    -- the run ends in front of a star, or with the text
    have hend : ∀ d ∈ rest.head?, decide (d ≠ '*') = false := by
      intro d hd
      rw [hrest rfl d hd]
      decide
    unfold starRules
    rw [firstMatch?_cons_of_none hstar]
    exact firstMatch?_cons_of_some (Matcher.many1_append (by simp) hall hend) (Nat.succ_pos _)

theorem matched_starRules {ps : List (Piece StarWord)} (hshape : ∀ p ∈ ps, StarShaped p)
    (hparted : ps.IsChain Parted) : Matched starRules ps := by
  induction ps with
  | nil => exact .nil
  | cons p ps ih =>
    have hrest : ∀ q ∈ ps, StarShaped q := fun q hq => hshape q (List.mem_cons_of_mem _ hq)
    have hp : StarShaped p := hshape p (List.mem_cons_self ..)
    obtain ⟨hnext, hparted⟩ := List.isChain_cons.mp hparted
    -- behind a run there is a star
    have hbehind : p.kind = .run → ∀ c ∈ (Piece.concat ps).head?, c = '*' := by
      intro hrun c hc
      cases ps with
      | nil => cases hc
      | cons q ps =>
        rcases hnext q rfl with hstar | hstar
        · rw [hrun] at hstar
          cases hstar
        · have hchars := (hrest q (List.mem_cons_self ..)).chars_of_star hstar
          rw [Piece.concat_cons, hchars] at hc
          exact (Option.some.inj hc).symm
    exact .cons (firstMatch?_starRules hp hbehind) (ih hrest hparted)

/-- **The split of a text**: its stars and the runs between them, and nothing is left. -/
theorem cut_starRules (cs : List Char) : cut starRules cs = (starPieces cs, []) := by
  obtain ⟨hshape, hparted⟩ := starPieces_shaped cs
  have hcut := cut_concat_eq (matched_starRules hshape hparted)
  rwa [concat_starPieces] at hcut

/-- **There is no other split** into stars and runs of which no two are neighbours. -/
theorem starPieces_concat {ps : List (Piece StarWord)} (hshape : ∀ p ∈ ps, StarShaped p)
    (hparted : ps.IsChain Parted) : starPieces (Piece.concat ps) = ps := by
  have hcut := cut_starRules (Piece.concat ps)
  rw [cut_concat_eq (matched_starRules hshape hparted)] at hcut
  exact (Prod.mk.inj hcut).1.symm

/-! ## Section 2: Tokens -/

theorem starTokens_eq (text : String) :
    starTokens text = placed false 0 (starPieces text.toList) := by
  have hscan : starScanner.scan text = .ok (placed false 0 (starPieces text.toList)) :=
    scan_of_cut (cut_starRules text.toList)
  unfold starTokens
  rw [hscan]

/-- The characters of some tokens. -/
def tokenChars (ts : List StarToken) : List Char := ts.flatMap fun t => t.text.toList

/-- A token that is a star or a run of other characters. -/
def IsStarToken (t : StarToken) : Prop := StarShaped ⟨t.kind, t.text.toList⟩

theorem starTokens_shaped (text : String) :
    (∀ t ∈ starTokens text, IsStarToken t) ∧ tokenChars (starTokens text) = text.toList := by
  have hpieces := map_toPiece_placed 0 (starPieces text.toList)
  rw [← starTokens_eq] at hpieces
  constructor
  · intro t ht
    have hmem : ⟨t.kind, t.text.toList⟩ ∈ starPieces text.toList := by
      rw [← hpieces]
      exact List.mem_map_of_mem ht
    exact (starPieces_shaped text.toList).1 _ hmem
  · have hconcat := concat_starPieces text.toList
    rw [← hpieces, Piece.concat, List.flatMap_map] at hconcat
    exact hconcat

/-- `IsStarSplit text tokens`: stars and runs of other characters, of which no two runs are
neighbours, make up the text one behind the other. -/
structure IsStarSplit (text : String) (tokens : List StarToken) : Prop where
  shaped : ∀ t ∈ tokens, IsStarToken t
  parted : tokens.IsChain fun t u => t.kind = .star ∨ u.kind = .star
  joined : String.join (tokens.map Token.text) = text
  contiguous : Contiguous 0 tokens

theorem scan_ok_iff_isStarSplit {text : String} {tokens : List StarToken} :
    starScanner.scan text = .ok tokens ↔ IsStarSplit text tokens := by
  have hscan : starScanner.scan text = .ok tokens ↔
      cut starRules text.toList = (tokens.map Token.toPiece, []) ∧ Contiguous 0 tokens :=
    scan_ok_iff_contiguous rfl
  have hshaped : (∀ p ∈ tokens.map Token.toPiece, StarShaped p) ↔ ∀ t ∈ tokens, IsStarToken t :=
    List.forall_mem_map
  have hparted : (tokens.map Token.toPiece).IsChain Parted ↔
      tokens.IsChain fun t u => t.kind = .star ∨ u.kind = .star :=
    List.isChain_map Token.toPiece
  rw [hscan, cut_starRules]
  constructor
  · rintro ⟨hcut, hplaces⟩
    have hpieces : starPieces text.toList = tokens.map Token.toPiece := (Prod.mk.inj hcut).1
    obtain ⟨hshape, hchain⟩ := starPieces_shaped text.toList
    have hconcat := concat_starPieces text.toList
    rw [hpieces] at hshape hchain hconcat
    exact ⟨hshaped.mp hshape, hparted.mp hchain, concat_toPiece.mp hconcat, hplaces⟩
  · -- there is no other split of the text that the tokens make up
    rintro ⟨hshape, hchain, htext, hplaces⟩
    have hpieces : starPieces (Piece.concat (tokens.map Token.toPiece)) = tokens.map Token.toPiece :=
      starPieces_concat (hshaped.mpr hshape) (hparted.mpr hchain)
    rw [concat_toPiece.mpr htext] at hpieces
    exact ⟨by rw [hpieces], hplaces⟩

/-- **The split is total and the only one.** Every text is scanned without an error, its tokens
are stars and runs that lie one behind the other from its first byte to its last, no two runs
are neighbours, and no other tokens are like that. -/
theorem starTokens_eq_iff (text : String) :
    starScanner.scan text = .ok (starTokens text) ∧
      (∀ t ∈ (starTokens text).getLast?, t.span.stop = text.utf8ByteSize) ∧
      ∀ tokens, starTokens text = tokens ↔ IsStarSplit text tokens := by
  have hscan : starScanner.scan text = .ok (starTokens text) := by
    rw [starTokens_eq]
    exact scan_of_cut (cut_starRules text.toList)
  have hsplit : IsStarSplit text (starTokens text) := scan_ok_iff_isStarSplit.mp hscan
  refine ⟨hscan, ?_, ?_⟩
  · intro t ht
    rw [hsplit.contiguous.stop_of_mem_getLast? ht, hsplit.joined, Nat.zero_add]
  · intro tokens
    rw [← scan_ok_iff_isStarSplit, hscan, Except.ok.injEq]

/-- A text has more than one part exactly if it has a star and something else. -/
theorem one_lt_length_starTokens (text : String) :
    1 < (starTokens text).length ↔ '*' ∈ text.toList ∧ text.toList ≠ ['*'] := by
  rw [starTokens_eq, length_placed]
  obtain ⟨hshape, hparted⟩ := starPieces_shaped text.toList
  have hconcat := concat_starPieces text.toList
  revert hshape hparted hconcat
  generalize starPieces text.toList = ps
  intro hshape hparted hconcat
  rw [← hconcat]
  match ps, hshape, hparted with
  | [], _, _ => simp
  | [p], hshape, _ =>
    cases hshape p (List.mem_cons_self ..) with
    | star => simp
    | run _ hfree => simp [hfree]
  | p :: q :: rest, hshape, hparted =>
    have hp := hshape p (List.mem_cons_self ..)
    have hq := hshape q (List.mem_cons_of_mem _ (List.mem_cons_self ..))
    apply iff_of_true (by simp)
    constructor
    · -- one of the two is a star
      rcases (List.isChain_cons.mp hparted).1 q rfl with hstar | hstar
      · simp [hp.chars_of_star hstar]
      · simp [hq.chars_of_star hstar]
    · -- two parts have two characters at least
      intro htext
      have hlength := congrArg List.length htext
      have hp := List.length_pos_of_ne_nil hp.ne_nil
      have hq := List.length_pos_of_ne_nil hq.ne_nil
      simp only [Piece.concat_cons, List.length_append, List.length_singleton] at hlength
      omega

/-! ## Section 3: Patterns -/

/-- A text with a `%` for every star. -/
def percents (cs : List Char) : List Char := cs.map fun c => if c = '*' then '%' else c

/-- A text without the star at its front, if there is one. -/
def withoutLeadingStar : List Char → List Char
  | '*' :: cs => cs
  | cs => cs

/-- A text without the star at its end, if there is one. -/
def withoutTrailingStar (cs : List Char) : List Char :=
  if cs.getLast? = some '*' then cs.dropLast else cs

theorem percents_append (as bs : List Char) :
    percents (as ++ bs) = percents as ++ percents bs := List.map_append

theorem percents_eq_self {cs : List Char} (h : '*' ∉ cs) : percents cs = cs := by
  induction cs with
  | nil => rfl
  | cons c cs ih =>
    have hc : c ≠ '*' := by
      rintro rfl
      exact h (List.mem_cons_self ..)
    have hcs : '*' ∉ cs := by
      intro hcs
      exact h (List.mem_cons_of_mem _ hcs)
    have hrest := ih hcs
    unfold percents at hrest ⊢
    rw [List.map_cons, if_neg hc, hrest]

theorem toList_pattern {t : StarToken} (h : IsStarToken t) :
    t.pattern.toList = percents t.text.toList := by
  unfold StarToken.pattern
  cases hk : t.kind with
  | star =>
    have hchars : t.text.toList = ['*'] := h.chars_of_star hk
    rw [hchars]
    show "%".toList = percents ['*']
    decide
  | run => exact (percents_eq_self (h.free_of_run hk)).symm

theorem toList_wildcardPattern_of {ts : List StarToken} (h : ∀ t ∈ ts, IsStarToken t) :
    (wildcardPattern ts).toList = percents (tokenChars ts) := by
  induction ts with
  | nil => rfl
  | cons t ts ih =>
    have ht := toList_pattern (h t (List.mem_cons_self ..))
    have hts := ih fun u hu => h u (List.mem_cons_of_mem _ hu)
    unfold wildcardPattern tokenChars at hts ⊢
    rw [List.map_cons, String.join_cons, String.toList_append, ht, hts, List.flatMap_cons,
      percents_append]

/-- **The pattern behind `=`**: every star is a `%`. -/
theorem toList_wildcardPattern (text : String) :
    (wildcardPattern (starTokens text)).toList = percents text.toList := by
  obtain ⟨hshape, hchars⟩ := starTokens_shaped text
  rw [toList_wildcardPattern_of hshape, hchars]

/-- The tokens without the first, if it is a star. -/
def dropFirstStar : List StarToken → List StarToken
  | t :: rest => if t.kind == .star then rest else t :: rest
  | [] => []

/-- The tokens without the last, if it is a star. -/
def dropLastStar (ts : List StarToken) : List StarToken :=
  match ts.getLast? with
  | some t => if t.kind == .star then ts.dropLast else ts
  | none => []

theorem withoutOuterStars_eq (ts : List StarToken) :
    withoutOuterStars ts = dropLastStar (dropFirstStar ts) := by
  cases ts <;> rfl

theorem dropFirstStar_sublist (ts : List StarToken) : (dropFirstStar ts).Sublist ts := by
  cases ts with
  | nil => exact .refl _
  | cons t ts =>
    rw [dropFirstStar]
    by_cases hstar : (t.kind == .star) = true
    · rw [if_pos hstar]
      exact List.sublist_cons_self t ts
    · rw [if_neg hstar]

theorem dropLastStar_sublist (ts : List StarToken) : (dropLastStar ts).Sublist ts := by
  unfold dropLastStar
  cases ts.getLast? with
  | none => exact List.nil_sublist ts
  | some t =>
    show (if t.kind == .star then ts.dropLast else ts).Sublist ts
    by_cases hstar : (t.kind == .star) = true
    · rw [if_pos hstar]
      exact List.dropLast_sublist ts
    · rw [if_neg hstar]

theorem tokenChars_dropFirstStar {ts : List StarToken} (h : ∀ t ∈ ts, IsStarToken t) :
    tokenChars (dropFirstStar ts) = withoutLeadingStar (tokenChars ts) := by
  cases ts with
  | nil => rfl
  | cons t ts =>
    have ht := h t (List.mem_cons_self ..)
    have htext : tokenChars (t :: ts) = t.text.toList ++ tokenChars ts := List.flatMap_cons
    cases hk : t.kind with
    | star =>
      have hchars : t.text.toList = ['*'] := ht.chars_of_star hk
      rw [htext, hchars, dropFirstStar, hk]
      rfl
    | run =>
      -- a run that is not empty begins with another character
      obtain ⟨c, cs, hchars⟩ := List.exists_cons_of_ne_nil ht.ne_nil
      have hfree := ht.free_of_run hk
      have hchars : t.text.toList = c :: cs := hchars
      have hc : c ≠ '*' := by
        rintro rfl
        rw [hchars] at hfree
        exact hfree (List.mem_cons_self ..)
      have hdrop : dropFirstStar (t :: ts) = t :: ts := by
        rw [dropFirstStar, hk]
        rfl
      rw [hdrop, htext, hchars, List.cons_append, withoutLeadingStar]
      intro rest hstar
      exact hc (List.cons.inj hstar).1

theorem tokenChars_dropLastStar {ts : List StarToken} (h : ∀ t ∈ ts, IsStarToken t) :
    tokenChars (dropLastStar ts) = withoutTrailingStar (tokenChars ts) := by
  unfold dropLastStar
  cases hlast : ts.getLast? with
  | none =>
    obtain rfl : ts = [] := List.getLast?_eq_none_iff.mp hlast
    rfl
  | some t =>
    obtain ⟨init, rfl⟩ := List.getLast?_eq_some_iff.mp hlast
    have ht := h t (List.mem_append_right _ (List.mem_singleton_self t))
    have htext : tokenChars (init ++ [t]) = tokenChars init ++ t.text.toList := by
      unfold tokenChars
      rw [List.flatMap_append, List.flatMap_singleton]
    unfold withoutTrailingStar
    cases hk : t.kind with
    | star =>
      have hchars : t.text.toList = ['*'] := ht.chars_of_star hk
      rw [htext, hchars, if_pos (by simp), List.dropLast_concat]
      simp [hk]
    | run =>
      -- a run that is not empty ends with another character
      have hfree : '*' ∉ t.text.toList := ht.free_of_run hk
      have hne : t.text.toList ≠ [] := ht.ne_nil
      have hend : (tokenChars init ++ t.text.toList).getLast? ≠ some '*' := by
        rw [List.getLast?_append_of_ne_nil _ hne]
        intro hstar
        exact hfree (List.mem_of_getLast? hstar)
      rw [htext, if_neg hend, ← htext]
      simp [hk]

/-- **The pattern behind `~`**: the text without a star at either end, every other star a
`%`, between two `%`. -/
theorem toList_containsPattern (text : String) :
    (containsPattern (starTokens text)).toList =
      '%' :: (percents (withoutTrailingStar (withoutLeadingStar text.toList)) ++ ['%']) := by
  obtain ⟨hshape, hchars⟩ := starTokens_shaped text
  have hfirst : ∀ t ∈ dropFirstStar (starTokens text), IsStarToken t :=
    fun t ht => hshape t ((dropFirstStar_sublist _).subset ht)
  have hlast : ∀ t ∈ dropLastStar (dropFirstStar (starTokens text)), IsStarToken t :=
    fun t ht => hfirst t ((dropLastStar_sublist _).subset ht)
  unfold containsPattern
  rw [String.toList_append, String.toList_append, withoutOuterStars_eq,
    toList_wildcardPattern_of hlast, tokenChars_dropLastStar hfirst,
    tokenChars_dropFirstStar hshape, hchars]
  rfl

end PropertyFilter
