import Mathlib.Data.List.Infix
import PropertyFilter.Proofs.Filter.Stars

/-!
  # Matching

  A pattern of `like` matches a whole text, and says character by character what stands there:

      %        a run of any characters, which may be empty
      _        any one character
      other    this character

  With a `%` at both ends a pattern matches every text in which something stands that it
  matches without them (`like_between`). There another `%` at an end adds nothing, so that a
  star at an end can be left out of the pattern behind `~`.

  Main statement: the pattern behind `~` matches the texts that hold a stretch which the text
  matches with a `%` for every one of its stars (`like_containing`).
-/

namespace PropertyFilter

/-! ## Section 1: Patterns and texts -/

/-- `Like p t`: the pattern `p` matches the text `t`. -/
inductive Like : List Char → List Char → Prop
  | nil : Like [] []
  | run (front : List Char) {p t : List Char} : Like p t → Like ('%' :: p) (front ++ t)
  | any (c : Char) {p t : List Char} : Like p t → Like ('_' :: p) (c :: t)
  | same {c : Char} {p t : List Char} : c ≠ '%' → c ≠ '_' → Like p t → Like (c :: p) (c :: t)

/-- The same, computed: a `%` is tried at all ends of the text. -/
def likes : List Char → List Char → Bool
  | [], t => t.isEmpty
  | c :: p, t =>
    if c = '%' then t.tails.any (likes p)
    else t.head?.any (fun d => c = '_' || c = d) && likes p t.tail

section like
variable {p q t : List Char}

theorem likes_percent_iff :
    likes ('%' :: p) t = true ↔ ∃ front rest, t = front ++ rest ∧ likes p rest = true := by
  rw [likes, if_pos rfl, List.any_eq_true]
  constructor
  · rintro ⟨rest, hrest, hlikes⟩
    obtain ⟨front, htext⟩ := (List.mem_tails rest t).mp hrest
    exact ⟨front, rest, htext.symm, hlikes⟩
  · rintro ⟨front, rest, rfl, hlikes⟩
    exact ⟨rest, (List.mem_tails rest _).mpr (List.suffix_append front rest), hlikes⟩

theorem likes_iff : likes p t = true ↔ Like p t := by
  constructor
  · intro h
    induction p generalizing t with
    | nil =>
      obtain rfl : t = [] := List.isEmpty_iff.mp h
      exact .nil
    | cons c p ih =>
      by_cases hpercent : c = '%'
      · subst hpercent
        obtain ⟨front, rest, rfl, hrest⟩ := likes_percent_iff.mp h
        exact .run front (ih hrest)
      · rw [likes, if_neg hpercent] at h
        cases t with
        | nil => cases h
        | cons d t =>
          obtain ⟨hc, hrest⟩ := Bool.and_eq_true_iff.mp h
          by_cases hany : c = '_'
          · subst hany
            exact .any d (ih hrest)
          · obtain rfl : c = d := by simpa [hany] using hc
            exact .same hpercent hany (ih hrest)
  · intro h
    induction h with
    | nil => rfl
    | run front _ ih => exact likes_percent_iff.mpr ⟨front, _, rfl, ih⟩
    | any c _ ih =>
      rw [likes, if_neg (by decide)]
      exact ih
    | same hpercent _ _ ih =>
      rw [likes, if_neg hpercent]
      simp [ih]

instance (p t : List Char) : Decidable (Like p t) := decidable_of_iff _ likes_iff

theorem like_percent_iff :
    Like ('%' :: p) t ↔ ∃ front rest, t = front ++ rest ∧ Like p rest := by
  simp only [← likes_iff, likes_percent_iff]

/-- Two patterns one behind the other match two texts one behind the other. -/
theorem like_append_iff : Like (p ++ q) t ↔ ∃ u v, t = u ++ v ∧ Like p u ∧ Like q v := by
  constructor
  · intro h
    induction p generalizing t with
    | nil => exact ⟨[], t, rfl, .nil, h⟩
    | cons c p ih =>
      rw [List.cons_append] at h
      -- what stands for the first character goes to the front
      generalize hpattern : c :: (p ++ q) = pattern at h
      cases h with
      | nil => cases hpattern
      | run front h =>
        obtain ⟨rfl, rfl⟩ := List.cons.inj hpattern
        obtain ⟨u, v, rfl, hu, hv⟩ := ih h
        exact ⟨front ++ u, v, (List.append_assoc ..).symm, .run front hu, hv⟩
      | any d h =>
        obtain ⟨rfl, rfl⟩ := List.cons.inj hpattern
        obtain ⟨u, v, rfl, hu, hv⟩ := ih h
        exact ⟨d :: u, v, rfl, .any d hu, hv⟩
      | same hpercent hany h =>
        obtain ⟨rfl, rfl⟩ := List.cons.inj hpattern
        obtain ⟨u, v, rfl, hu, hv⟩ := ih h
        exact ⟨c :: u, v, rfl, .same hpercent hany hu, hv⟩
  · rintro ⟨u, v, rfl, hu, hv⟩
    induction hu with
    | nil => exact hv
    | run front _ ih =>
      rw [List.append_assoc]
      exact .run front ih
    | any c _ ih => exact .any c ih
    | same hpercent hany _ ih => exact .same hpercent hany ih

end like

/-! ## Section 2: Patterns that match a stretch -/

/-- A stretch of the text matches the pattern. -/
def LikeWithin (p t : List Char) : Prop := ∃ u w v, t = u ++ w ++ v ∧ Like p w

section within
variable {p t : List Char}

/-- **With a `%` at both ends** a pattern matches every text with a stretch that it matches. -/
theorem like_between : Like ('%' :: (p ++ ['%'])) t ↔ LikeWithin p t := by
  rw [like_percent_iff]
  constructor
  · rintro ⟨u, rest, rfl, hrest⟩
    obtain ⟨w, v, rfl, hw, -⟩ := like_append_iff.mp hrest
    exact ⟨u, w, v, (List.append_assoc ..).symm, hw⟩
  · rintro ⟨u, w, v, rfl, hw⟩
    have hv : Like ['%'] v := like_percent_iff.mpr ⟨v, [], (List.append_nil v).symm, .nil⟩
    exact ⟨u, w ++ v, List.append_assoc .., like_append_iff.mpr ⟨w, v, rfl, hw, hv⟩⟩

/-- What stands for a `%` at the front may as well be in front of the stretch. -/
theorem likeWithin_percent_cons : LikeWithin ('%' :: p) t ↔ LikeWithin p t := by
  constructor
  · rintro ⟨u, w, v, rfl, hw⟩
    obtain ⟨front, rest, rfl, hrest⟩ := like_percent_iff.mp hw
    exact ⟨u ++ front, rest, v, by simp only [List.append_assoc], hrest⟩
  · rintro ⟨u, w, v, rfl, hw⟩
    exact ⟨u, w, v, rfl, .run [] hw⟩

/-- What stands for a `%` at the end may as well be behind the stretch. -/
theorem likeWithin_percent_concat : LikeWithin (p ++ ['%']) t ↔ LikeWithin p t := by
  constructor
  · rintro ⟨u, w, v, rfl, hw⟩
    obtain ⟨front, rest, rfl, hfront, -⟩ := like_append_iff.mp hw
    exact ⟨u, front, rest ++ v, by simp only [List.append_assoc], hfront⟩
  · rintro ⟨u, w, v, rfl, hw⟩
    have hnone : Like ['%'] [] := .run [] .nil
    exact ⟨u, w, v, rfl, like_append_iff.mpr ⟨w, [], (List.append_nil w).symm, hw, hnone⟩⟩

end within

/-! ## Section 3: Stars at the ends -/

theorem likeWithin_withoutLeadingStar (cs t : List Char) :
    LikeWithin (percents (withoutLeadingStar cs)) t ↔ LikeWithin (percents cs) t := by
  unfold withoutLeadingStar
  split
  · next rest => exact likeWithin_percent_cons.symm
  · exact Iff.rfl

theorem likeWithin_withoutTrailingStar (cs t : List Char) :
    LikeWithin (percents (withoutTrailingStar cs)) t ↔ LikeWithin (percents cs) t := by
  unfold withoutTrailingStar
  split
  · next hstar =>
    obtain ⟨init, rfl⟩ := List.getLast?_eq_some_iff.mp hstar
    rw [List.dropLast_concat, percents_append]
    exact likeWithin_percent_concat.symm
  · exact Iff.rfl

/-- **The pattern behind `~`** matches the texts with a stretch that the text matches, each of
its stars a `%`: to leave out a star at either end loses nothing and adds nothing. -/
theorem like_containing (text : String) (t : List Char) :
    Like (containsPattern (starTokens text)).toList t ↔ LikeWithin (percents text.toList) t := by
  rw [toList_containsPattern, like_between, likeWithin_withoutTrailingStar,
    likeWithin_withoutLeadingStar]

end PropertyFilter
