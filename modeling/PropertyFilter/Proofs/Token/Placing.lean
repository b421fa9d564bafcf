import PropertyFilter.Proofs.Token.Cutting

/-!
  # Tokens in their places

  A scanner that does not trim makes each piece a token as it is. The tokens then lie one
  behind the other, and their texts make up the text:

      =  '  a  '       pieces    =     'a'
      0  1  2  3  4    spans     0-1   1-4

  Main statement: such a scan gives the tokens of the pieces of the text, one behind the other
  from its first byte to its last (`scan_ok_iff_contiguous`).
-/

namespace PropertyFilter

section placing
variable {κ : Type} {offset : Nat} {tokens : List (Token κ)}

/-- The piece that a token is made from, if nothing was trimmed. -/
def Token.toPiece (t : Token κ) : Piece κ := ⟨t.kind, t.text.toList⟩

theorem map_toPiece_placed (offset : Nat) (ps : List (Piece κ)) :
    (placed false offset ps).map Token.toPiece = ps := by
  induction ps generalizing offset with
  | nil => rfl
  | cons p ps ih =>
    rw [placed, List.map_cons, ih]
    simp [Piece.toToken, Token.toPiece]

/-- The pieces of some tokens make up a text if their texts do. -/
theorem concat_toPiece {text : String} :
    Piece.concat (tokens.map Token.toPiece) = text.toList ↔
      String.join (tokens.map Token.text) = text := by
  rw [← String.toList_inj, String.toList_join, Piece.concat, List.flatMap_map, List.flatMap_map]
  rfl

/-- The first token begins at byte `offset`, each other one where the one in front ends. -/
def Contiguous (offset : Nat) : List (Token κ) → Prop
  | [] => True
  | t :: ts =>
    t.span = ⟨offset, offset + t.text.utf8ByteSize⟩ ∧
      Contiguous (offset + t.text.utf8ByteSize) ts

/-- Tokens one behind the other are the pieces of their texts in their places. -/
theorem contiguous_iff :
    Contiguous offset tokens ↔ tokens = placed false offset (tokens.map Token.toPiece) := by
  induction tokens generalizing offset with
  | nil => exact ⟨fun _ => rfl, fun _ => trivial⟩
  | cons t ts ih =>
    obtain ⟨kind, text, span⟩ := t
    have hsize : Text.byteLength text.toList = text.utf8ByteSize := Text.byteLength_toList text
    simp only [Contiguous, ih, List.map_cons, placed, Piece.toToken, Token.toPiece,
      String.ofList_toList, Span.covering, hsize, Bool.false_eq_true, if_false, List.cons.injEq,
      Token.mk.injEq, true_and]

/-- The last of them ends where the texts of all of them end. -/
theorem Contiguous.stop_of_mem_getLast? {t : Token κ} (h : Contiguous offset tokens)
    (ht : t ∈ tokens.getLast?) :
    t.span.stop = offset + (String.join (tokens.map Token.text)).utf8ByteSize := by
  induction tokens generalizing offset with
  | nil => cases ht
  | cons u rest ih =>
    obtain ⟨hspan, hrest⟩ := h
    rw [List.map_cons, String.join_cons, String.utf8ByteSize_append]
    cases rest with
    | nil =>
      obtain rfl : u = t := Option.some.inj ht
      rw [hspan]
      rfl
    | cons v rest =>
      rw [List.getLast?_cons_cons] at ht
      rw [ih hrest ht]
      omega

/-- **Scans without trimming** give tokens one behind the other, and of these only their
pieces count. -/
theorem scan_ok_iff_contiguous {s : Scanner κ} (hs : s.trims = false) {text : String} :
    s.scan text = .ok tokens ↔
      cut s.rules text.toList = (tokens.map Token.toPiece, []) ∧ Contiguous 0 tokens := by
  rw [scan_ok_iff, contiguous_iff, hs]
  constructor
  · rintro ⟨hrest, htokens⟩
    have hpieces : tokens.map Token.toPiece = (cut s.rules text.toList).1 := by
      rw [htokens]
      exact map_toPiece_placed 0 _
    refine ⟨?_, hpieces ▸ htokens⟩
    rw [hpieces]
    exact Prod.ext rfl hrest
  · rintro ⟨hcut, htokens⟩
    rw [hcut]
    exact ⟨rfl, htokens⟩

end placing

end PropertyFilter
