import Mathlib.Data.List.TakeWhile
import PropertyFilter.Text.Blank

/-!
  # Trimmed texts

  A text is its trimmed form with white space around it, and the trimmed form begins and ends
  with other characters, if there are any:

      lead        trim cs         tail
      all blank   ends no blank   all blank

  Main statements: trimming takes nothing but white space (`exists_trim_append`) and leaves
  none at the ends (`trimmed_trim`); a text without white space at its ends stays as it is
  (`Trimmed.trim_eq`).
-/

namespace PropertyFilter

/-! ## Section 1: What trimming takes -/

/-- What trimming at the end leaves, and what it takes away. -/
theorem trimEnd_append (cs : List Char) :
    Text.trimEnd cs ++ (cs.reverse.takeWhile Text.isBlank).reverse = cs := by
  rw [Text.trimEnd, ← List.reverse_append, List.takeWhile_append_dropWhile, List.reverse_reverse]

/-- Trimming takes blanks away at both ends and nothing else. -/
theorem exists_trim_append (cs : List Char) :
    ∃ tail, cs = Text.leadingBlanks cs ++ Text.trim cs ++ tail ∧
      ∀ c ∈ Text.leadingBlanks cs ++ tail, Text.isBlank c = true := by
  refine ⟨((Text.trimStart cs).reverse.takeWhile Text.isBlank).reverse, ?_, ?_⟩
  · rw [List.append_assoc, Text.trim, trimEnd_append, Text.leadingBlanks_append_trimStart]
  · intro c hc
    rcases List.mem_append.mp hc with hlead | htail
    · exact List.mem_takeWhile_imp hlead
    · exact List.mem_takeWhile_imp (List.mem_reverse.mp htail)

/-- Trimming makes no text longer. -/
theorem length_trim_le (cs : List Char) : (Text.trim cs).length ≤ cs.length := by
  obtain ⟨tail, hcs, -⟩ := exists_trim_append cs
  have hlength := congrArg List.length hcs
  simp only [List.length_append] at hlength
  omega

/-- No visible character of ASCII is white space. -/
theorem isBlank_of_visible {c : Char} (hlow : 0x21 ≤ c.toNat) (hhigh : c.toNat ≤ 0x7E) :
    Text.isBlank c = false := by
  unfold Text.isBlank
  simp only [Bool.or_eq_false_iff, Bool.and_eq_false_imp, decide_eq_true_eq,
    decide_eq_false_iff_not, beq_eq_false_iff_ne, ne_eq]
  omega

/-- Nothing is left of a text of blanks alone, and of no other. -/
theorem trim_eq_nil_iff (cs : List Char) :
    Text.trim cs = [] ↔ Text.isBlankText cs = true := by
  constructor
  · intro h
    obtain ⟨tail, hcs, hblank⟩ := exists_trim_append cs
    rw [h, List.append_nil] at hcs
    rw [Text.isBlankText, hcs, List.all_eq_true]
    exact hblank
  · exact Text.trim_eq_nil

/-! ## Section 2: Ends without white space -/

/-- A text with no white space at either end. -/
structure Trimmed (cs : List Char) : Prop where
  first : ∀ c ∈ cs.head?, Text.isBlank c = false
  last : ∀ c ∈ cs.getLast?, Text.isBlank c = false

theorem trimmed_iff {cs : List Char} :
    Trimmed cs ↔
      (cs.head?.all (!Text.isBlank ·) && cs.getLast?.all (!Text.isBlank ·)) = true := by
  simp only [Bool.and_eq_true, Option.all_eq_true, Bool.not_eq_true']
  exact ⟨fun h => ⟨h.first, h.last⟩, fun h => ⟨h.1, h.2⟩⟩

instance (cs : List Char) : Decidable (Trimmed cs) := decidable_of_iff _ trimmed_iff.symm

theorem Trimmed.append {as bs : List Char} (ha : Trimmed as) (hb : Trimmed bs) :
    Trimmed (as ++ bs) := by
  constructor
  · intro c hc
    rw [List.head?_append] at hc
    rcases Option.or_eq_some_iff.mp hc with hc | ⟨-, hc⟩
    · exact ha.first c hc
    · exact hb.first c hc
  · intro c hc
    rw [List.getLast?_append] at hc
    rcases Option.or_eq_some_iff.mp hc with hc | ⟨-, hc⟩
    · exact hb.last c hc
    · exact ha.last c hc

/-- A text that does not begin with a blank has none to lose there. -/
theorem trimStart_eq_self {cs : List Char} (h : ∀ c ∈ cs.head?, Text.isBlank c = false) :
    Text.trimStart cs = cs := by
  cases cs with
  | nil => rfl
  | cons c cs => exact List.dropWhile_cons_of_neg (by simp [h c rfl])

theorem trimEnd_eq (cs : List Char) : Text.trimEnd cs = (Text.trimStart cs.reverse).reverse := rfl

theorem trimStart_append {lead : List Char} (h : ∀ c ∈ lead, Text.isBlank c = true)
    (cs : List Char) : Text.trimStart (lead ++ cs) = Text.trimStart cs :=
  List.dropWhile_append_of_pos h

/-- Trimming takes away all white space that is put around such a text. -/
theorem Trimmed.trim_append {lead cs tail : List Char} (h : Trimmed cs)
    (hlead : ∀ c ∈ lead, Text.isBlank c = true) (htail : ∀ c ∈ tail, Text.isBlank c = true) :
    Text.trim (lead ++ cs ++ tail) = cs := by
  by_cases hne : cs = []
  · subst hne
    rw [trim_eq_nil_iff, Text.isBlankText, List.all_eq_true, List.append_nil]
    exact List.forall_mem_append.mpr ⟨hlead, htail⟩
  · have hstart : Text.trimStart (cs ++ tail) = cs ++ tail := by
      obtain ⟨c, cs, rfl⟩ := List.exists_cons_of_ne_nil hne
      exact trimStart_eq_self h.first
    have hend : Text.trimStart cs.reverse = cs.reverse := by
      apply trimStart_eq_self
      rw [List.head?_reverse]
      exact h.last
    rw [List.append_assoc, Text.trim, trimStart_append hlead, hstart, trimEnd_eq,
      List.reverse_append, trimStart_append (by simpa using htail), hend, List.reverse_reverse]

theorem Trimmed.trim_eq {cs : List Char} (h : Trimmed cs) : Text.trim cs = cs := by
  have htrim : Text.trim ([] ++ cs ++ []) = cs := h.trim_append (by simp) (by simp)
  rwa [List.nil_append, List.append_nil] at htrim

/-- **What is trimmed has no white space at its ends.** -/
theorem trimmed_trim (cs : List Char) : Trimmed (Text.trim cs) := by
  have hstart (bs : List Char) : ∀ c ∈ (Text.trimStart bs).head?, Text.isBlank c = false := by
    intro c hc
    obtain ⟨rest, hrest⟩ := List.head?_eq_some_iff.mp hc
    exact Text.trimStart_head hrest
  constructor
  · intro c hc
    apply hstart cs
    rw [← trimEnd_append (Text.trimStart cs), List.head?_append]
    exact Option.or_eq_some_iff.mpr (Or.inl hc)
  · intro c hc
    rw [Text.trim, trimEnd_eq, List.getLast?_reverse] at hc
    exact hstart _ c hc

/-- An end of a text without white space at its ends is not all white space. -/
theorem Trimmed.end_not_blank {as bs : List Char} (h : Trimmed (as ++ bs)) (hne : bs ≠ []) :
    Text.isBlankText bs = false := by
  rw [Bool.eq_false_iff]
  intro hblank
  have hlast : bs.getLast hne ∈ (as ++ bs).getLast? := by
    rw [List.getLast?_append, List.getLast?_eq_some_getLast hne]
    rfl
  have hend := List.all_eq_true.mp hblank _ (List.getLast_mem hne)
  rw [h.last _ hlast] at hend
  cases hend

/-! ## Section 3: Texts -/

/-- A text without the white space at its ends. -/
def trimmed (text : String) : String := String.ofList (Text.trim text.toList)

theorem trimmed_eq_empty_iff (text : String) :
    trimmed text = "" ↔ Text.isBlankText text.toList = true := by
  rw [trimmed, ← trim_eq_nil_iff, ← String.toList_inj, String.toList_ofList]
  rfl

end PropertyFilter
