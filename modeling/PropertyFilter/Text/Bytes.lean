/-!
  # Positions in bytes

  Positions in a text are counted in the bytes of its UTF-8 form, so that a span
  can be handed to any consumer of the encoded text.

  Main statements: lengths are additive over concatenation (`byteLength_append`),
  which is what makes running offsets right, and the length of a whole text is that
  of its encoding (`byteLength_toList`).
-/

namespace PropertyFilter.Text

/-- The number of bytes of a text in UTF-8. -/
def byteLength (cs : List Char) : Nat := cs.foldr (fun c n => c.utf8Size + n) 0

@[simp] theorem byteLength_nil : byteLength [] = 0 := rfl

@[simp] theorem byteLength_cons (c : Char) (cs : List Char) :
    byteLength (c :: cs) = c.utf8Size + byteLength cs := rfl

@[simp] theorem byteLength_append (as bs : List Char) :
    byteLength (as ++ bs) = byteLength as + byteLength bs := by
  induction as with
  | nil => simp
  | cons a as ih =>
    rw [List.cons_append, byteLength_cons, byteLength_cons, ih]
    omega

theorem length_le_byteLength (cs : List Char) : cs.length ≤ byteLength cs := by
  induction cs with
  | nil => simp
  | cons c cs ih =>
    have := c.utf8Size_pos
    simp only [byteLength_cons, List.length_cons]
    omega

/-- Two fronts of a text with the same number of bytes are the same front. -/
theorem append_inj_of_byteLength {as bs cs ds : List Char} (h : as ++ bs = cs ++ ds)
    (hlength : byteLength as = byteLength cs) : as = cs ∧ bs = ds := by
  have eq_nil {more : List Char} (hmore : byteLength more = 0) : more = [] := by
    have := length_le_byteLength more
    exact List.length_eq_zero_iff.mp (by omega)
  rcases List.append_eq_append_iff.mp h with ⟨more, rfl, rfl⟩ | ⟨more, rfl, rfl⟩
  · rw [byteLength_append] at hlength
    have hmore : more = [] := eq_nil (by omega)
    simp [hmore]
  · rw [byteLength_append] at hlength
    have hmore : more = [] := eq_nil (by omega)
    simp [hmore]

theorem byteLength_toList (s : String) : byteLength s.toList = s.utf8ByteSize := by
  have ofList (cs : List Char) : byteLength cs = (String.ofList cs).utf8ByteSize := by
    induction cs with
    | nil => simp
    | cons c cs ih =>
      -- a text of characters is its first character as a text, and the rest
      have split : String.ofList (c :: cs) = String.singleton c ++ String.ofList cs := by
        rw [String.singleton_eq_ofList, ← String.ofList_append, List.singleton_append]
      rw [byteLength_cons, ih, split, String.utf8ByteSize_append, String.utf8ByteSize_singleton]
  rw [ofList, String.ofList_toList]

end PropertyFilter.Text
