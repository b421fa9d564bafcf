import PropertyFilter.Proofs.Condition.Json
import PropertyFilter.Proofs.Condition.Meaning
import PropertyFilter.Proofs.Condition.Placeholders

/-!
  # Converted filters written as JSON and read again

  A condition is read back if all of its floating point numbers are finite, with each of them
  scaled from its decimal in steps that round. So a converted filter comes back as

      itself             its texts and integers always do, and numbers with few digits
      with a neighbour   a number of many digits may be scaled to the one next to it
      refused            a number beyond all finite ones has no text but `null`

  Main statement: `convert_json_roundtrip`, of every filter that is converted.
-/

namespace PropertyFilter

open Json

/-! ## Section 1: Values that come back -/

section lists
variable {α β : Type} {f : α → Option β}

theorem mapM_eq_some_iff {xs : List α} {ys : List β} :
    xs.mapM f = some ys ↔ List.Forall₂ (fun x y => f x = some y) xs ys := by
  induction xs generalizing ys with
  | nil => simp [eq_comm]
  | cons x xs ih =>
    rw [List.mapM_cons]
    constructor
    · intro h
      obtain ⟨y, hy, hrest⟩ := Option.bind_eq_some_iff.mp h
      obtain ⟨zs, hzs, hcons⟩ := Option.bind_eq_some_iff.mp hrest
      obtain rfl := Option.some.inj hcons
      exact .cons hy (ih.mp hzs)
    · intro h
      cases h with
      | cons hy hys =>
        rw [hy, ih.mpr hys]
        rfl

theorem exists_mapM_iff {xs : List α} :
    (∃ ys, xs.mapM f = some ys) ↔ ∀ x ∈ xs, ∃ y, f x = some y := by
  simp only [mapM_eq_some_iff]
  induction xs with
  | nil => simp
  | cons x xs ih =>
    rw [List.forall_mem_cons, ← ih]
    constructor
    · rintro ⟨ys, hys⟩
      cases hys with
      | cons hy hrest => exact ⟨⟨_, hy⟩, _, hrest⟩
    · rintro ⟨⟨y, hy⟩, ys, hys⟩
      exact ⟨y :: ys, .cons hy hys⟩

end lists

namespace Binary64

/-- A number that is read back from its text: a finite one that is scaled to itself. -/
def ComesBack : Binary64 → Prop
  | .finite _ rank => rereadRank? rank = some rank.val
  | _ => False

/-- A finite number whose text shows few digits. -/
def IsShort : Binary64 → Prop
  | .finite _ rank => Short rank
  | _ => False

theorem IsShort.comesBack {x : Binary64} (h : x.IsShort) : x.ComesBack := by
  cases x with
  | finite negative rank => exact rereadRank?_of_short rank.isLt h
  | infinite negative => exact h
  | nan => exact h

end Binary64

namespace Param

variable {p : Param}

/-- A value is read at all unless it is a number that is not finite. -/
theorem exists_reread?_iff :
    (∃ q, p.reread? = some q) ↔ ∀ x, p = .float x → x.isFinite = true := by
  cases p with
  | int n => simp [reread?]
  | text s => simp [reread?]
  | float x =>
    cases x with
    | finite negative rank =>
      obtain ⟨s, -, hs⟩ := exists_rereadRank? rank.isLt
      simp [reread?, hs, Binary64.isFinite]
    | infinite negative => simp [reread?, Binary64.isFinite]
    | nan => simp [reread?, Binary64.isFinite]

/-- A value comes back unless it is a number that does not. -/
theorem reread?_eq_self_iff : p.reread? = some p ↔ ∀ x, p = .float x → x.ComesBack := by
  cases p with
  | int n => simp [reread?]
  | text s => simp [reread?]
  | float x =>
    cases x with
    | finite negative rank =>
      obtain ⟨s, hlt, hs⟩ := exists_rereadRank? rank.isLt
      have hrank : Binary64.ofRank negative s = .finite negative ⟨s, hlt⟩ := dif_pos hlt
      simp [reread?, hs, hrank, Fin.ext_iff, Binary64.ComesBack]
    | infinite negative => simp [reread?, Binary64.ComesBack]
    | nan => simp [reread?, Binary64.ComesBack]

end Param

/-! ## Section 2: Converted filters -/

namespace Param

variable {p : Param}

theorem ofNumber?_fits {number : String} (h : ofNumber? number = some p) : p.Fits := by
  unfold ofNumber? at h
  dsimp only at h
  split_ifs at h with hint
  · obtain rfl := Option.some.inj h
    intro n hn
    obtain rfl := Param.int.inj hn
    simp only [Bool.and_eq_true, decide_eq_true_eq] at hint
    unfold minInt
    omega
  · obtain ⟨x, -, rfl⟩ := Option.map_eq_some_iff.mp h
    rintro n ⟨⟩

theorem boundValue?_fits {operator : FilterWord} {t : FilterToken}
    (h : Predicate.boundValue? operator t = some p) : p.Fits := by
  unfold Predicate.boundValue? at h
  split at h
  · split_ifs at h
    · obtain rfl := Option.some.inj h
      rintro n ⟨⟩
    · exact ofNumber?_fits h
  · obtain rfl := Option.some.inj h
    rintro n ⟨⟩
  · cases h

theorem text_fits (s : String) : (Param.text s).Fits := by
  rintro n ⟨⟩

theorem operandValues_fits {operand : String} (h : some p ∈ operandValues operand) : p.Fits := by
  unfold operandValues at h
  split at h
  · obtain rfl := Option.some.inj (List.mem_singleton.mp h)
    exact text_fits operand
  · obtain ⟨t, -, ht⟩ := List.mem_map.mp h
    exact boundValue?_fits ht

theorem filterValues_fits {value : String} (h : some p ∈ filterValues value) : p.Fits := by
  unfold filterValues at h
  split at h
  · obtain rfl := Option.some.inj (List.mem_singleton.mp h)
    exact text_fits value
  · split at h
    · exact (List.mem_append.mp h).elim operandValues_fits operandValues_fits
    · exact operandValues_fits h

end Param

section roundtrip
variable {key value : String} {c : Condition}

/-- All integers of a converted filter are read as such. -/
theorem fits_of_convert (h : convert (.name key) value = .ok c) : ∀ p ∈ c.params, p.Fits := by
  intro p hp
  have hvalues := (Conversion.convert_ok_iff.mp h).params_eq
  exact Param.filterValues_fits (hvalues ▸ List.mem_map_of_mem hp)

/-- What is read from a condition's text has its expression, and its values read again. -/
theorem ofJsonText_ok_iff (hfits : ∀ p ∈ c.params, p.Fits) {back : Condition} :
    Condition.ofJsonText c.toJson.compact = .ok back ↔
      back.expression = c.expression ∧
        List.Forall₂ (fun p q => p.reread? = some q) c.params back.params := by
  have hoption : Condition.ofJsonText c.toJson.compact = .ok back ↔
      (Condition.ofJsonText c.toJson.compact).toOption = some back := by
    cases Condition.ofJsonText c.toJson.compact <;> simp [Except.toOption]
  rw [hoption, Condition.ofJsonText_toJson hfits, Option.map_eq_some_iff, ← mapM_eq_some_iff]
  constructor
  · rintro ⟨ps, hps, rfl⟩
    exact ⟨rfl, hps⟩
  · rintro ⟨hexpression, hps⟩
    exact ⟨back.params, hps, by rw [← hexpression]⟩

/-- A condition is read if all of its values are. -/
theorem exists_ofJsonText_iff (hfits : ∀ p ∈ c.params, p.Fits) :
    (∃ back, Condition.ofJsonText c.toJson.compact = .ok back) ↔
      ∀ p ∈ c.params, ∃ q, p.reread? = some q := by
  rw [← exists_mapM_iff]
  simp only [ofJsonText_ok_iff hfits, mapM_eq_some_iff]
  constructor
  · rintro ⟨back, -, hps⟩
    exact ⟨back.params, hps⟩
  · rintro ⟨ps, hps⟩
    exact ⟨⟨c.expression, ps⟩, rfl, hps⟩

/-- A condition comes back if all of its values do. -/
theorem ofJsonText_eq_self_iff (hfits : ∀ p ∈ c.params, p.Fits) :
    Condition.ofJsonText c.toJson.compact = .ok c ↔ ∀ p ∈ c.params, p.reread? = some p := by
  rw [ofJsonText_ok_iff hfits, List.forall₂_same]
  exact and_iff_right rfl

/-- What holds of every floating point number holds of the values that are one. -/
theorem forall_float_iff {P : Binary64 → Prop} {params : List Param} :
    (∀ p ∈ params, ∀ x, p = .float x → P x) ↔ ∀ x, .float x ∈ params → P x := by
  constructor
  · intro h x hx
    exact h _ hx x rfl
  · rintro h p hp x rfl
    exact h x hp

/-- **Converted filters written as JSON and read again.** A filter is read again just if its
floating point numbers are finite. What is read has the same expression and the values of the
filter in their order, each read again. It is the filter itself just if each floating point
number is scaled to itself, as those with few digits are. -/
theorem convert_json_roundtrip (h : convert (.name key) value = .ok c) :
    ((∃ back, Condition.ofJsonText c.toJson.compact = .ok back) ↔
      ∀ x, .float x ∈ c.params → x.isFinite = true) ∧
    (∀ back, Condition.ofJsonText c.toJson.compact = .ok back →
      back.expression = c.expression ∧
        List.Forall₂ (fun p q => p.reread? = some q) c.params back.params) ∧
    (Condition.ofJsonText c.toJson.compact = .ok c ↔ ∀ x, .float x ∈ c.params → x.ComesBack) ∧
    ((∀ x, .float x ∈ c.params → x.IsShort) →
      Condition.ofJsonText c.toJson.compact = .ok c) := by
  have hfits := fits_of_convert h
  have hself : Condition.ofJsonText c.toJson.compact = .ok c ↔
      ∀ x, .float x ∈ c.params → x.ComesBack := by
    rw [ofJsonText_eq_self_iff hfits]
    simp only [Param.reread?_eq_self_iff]
    exact forall_float_iff
  refine ⟨?_, ?_, hself, ?_⟩
  · rw [exists_ofJsonText_iff hfits]
    simp only [Param.exists_reread?_iff]
    exact forall_float_iff
  · intro back hback
    exact (ofJsonText_ok_iff hfits).mp hback
  · intro hshort
    exact hself.mpr fun x hx => (hshort x hx).comesBack

/-- An integer, a short number and a text of digits, each read as what it was. -/
theorem convert_json_roundtrip_list :
    let c : Condition := ⟨"size in(?,?,?)",
      [.int 5, .float (.finite false ⟨0x3FE0000000000000, by decide⟩), .text "7"]⟩
    convert (.name "size") "in(5,0.5,'7')" = .ok c ∧
      Condition.ofJsonText c.toJson.compact = .ok c := by
  intro c
  have hc : convert (.name "size") "in(5,0.5,'7')" = .ok c := by decide +kernel
  refine ⟨hc, (convert_json_roundtrip hc).2.2.2 fun x hx => ?_⟩
  have hx : x = .finite false ⟨0x3FE0000000000000, by decide⟩ := by simpa [c] using hx
  rw [hx]
  show Short 0x3FE0000000000000
  decide +kernel

/-- A number beyond all finite ones is converted, but written as `null`, which is no value of a
condition. -/
theorem convert_json_infinite :
    let value := String.ofList (List.replicate 310 '9')
    let c : Condition := ⟨"property = ?", [.float (.infinite false)]⟩
    convert (.name "property") value = .ok c ∧
      ∀ back, Condition.ofJsonText c.toJson.compact ≠ .ok back := by
  intro value c
  constructor
  · -- the filter is too long to be cut into words by computation
    obtain ⟨n, hn⟩ : ∃ n : NumberText, n =
      ⟨List.replicate 310 '9', none, by decide +kernel, by simp⟩ := ⟨_, rfl⟩
    have hparam : n.param = .float (.infinite false) := by
      rw [hn]
      decide +kernel
    have hvalue : (SimpleFilter.bare n).text = value := by
      rw [hn]
      rfl
    have hmeaning : (SimpleFilter.bare n).meaning "property" = c := by
      show (⟨"property = ?", [n.param]⟩ : Condition) = c
      rw [hparam]
    obtain ⟨tokens, hsplit, hsimple⟩ := (SimpleFilter.bare n).splitTokens_text
    have hderives := (SimpleFilter.bare n).derives "property"
    have hwords : Conversion.OperandConverts "property" _ _ :=
      .words (SimpleFilter.bare n).filterTokens_text
        (Predicate.ofTokens_ok_iff.mpr (Or.inr hderives))
    rw [← hvalue, ← hmeaning]
    exact Conversion.convert_ok_iff.mpr (.simple hsplit hsimple hwords)
  · intro back hback
    have hrefused : (Condition.ofJsonText c.toJson.compact).toOption = none := by decide +kernel
    rw [hback] at hrefused
    cases hrefused

end roundtrip

end PropertyFilter
