/-!
  # Matchers

  A matcher looks at the front of a text and says how many characters it takes
  from there, or that it does not match. The matchers of this module never look past
  what they take: a match further on is no match. Matching nothing (`some 0`) differs
  from not matching (`none`), which matters when matchers are put in sequence.
-/

namespace PropertyFilter

/-- How many characters are taken from the front of a text, if any match. -/
abbrev Matcher := List Char → Option Nat

namespace Matcher

/-- Takes the text `word` and nothing else. -/
def word (word : String) : Matcher := fun cs =>
  if word.toList.isPrefixOf cs then some word.toList.length else none

/-- Takes as many characters of the class `p` as there are, possibly none. -/
def many (p : Char → Bool) : Matcher := fun cs =>
  some (cs.takeWhile p).length

/-- Takes as many characters of the class `p` as there are, at least one. -/
def many1 (p : Char → Bool) : Matcher := fun cs =>
  match cs.takeWhile p with
  | [] => none
  | run => some run.length

/-- Takes what `m` takes and then what `next` takes from the rest. -/
def followedBy (m next : Matcher) : Matcher := fun cs => do
  let n ← m cs
  let k ← next (cs.drop n)
  return n + k

/-- Takes what `m` takes, or nothing. -/
def orNothing (m : Matcher) : Matcher := fun cs => some ((m cs).getD 0)

end Matcher

/-! ## Section 1: Rules -/

/-- What the front of a text is, if the matcher takes something of it. -/
structure Rule (κ : Type) where
  matcher : Matcher
  kind : κ

/-- How much a rule takes from the front of a text. An empty match gets no scan
any further, so it counts as none. -/
def Rule.length? {κ : Type} (r : Rule κ) (cs : List Char) : Option Nat :=
  (r.matcher cs).filter (0 < ·)

/-- The kind and the length that the first rule with a non-empty match gives.
The order of the rules decides, not the length of what they take. -/
def firstMatch? {κ : Type} (rules : List (Rule κ)) (cs : List Char) : Option (κ × Nat) :=
  rules.findSome? fun r => (r.length? cs).map (r.kind, ·)

@[simp] theorem firstMatch?_nil {κ : Type} (cs : List Char) :
    firstMatch? ([] : List (Rule κ)) cs = none := rfl

theorem firstMatch?_cons {κ : Type} (r : Rule κ) (rules : List (Rule κ)) (cs : List Char) :
    firstMatch? (r :: rules) cs =
      match r.length? cs with
      | some n => some (r.kind, n)
      | none => firstMatch? rules cs := by
  simp only [firstMatch?, List.findSome?_cons]
  cases r.length? cs <;> rfl

/-- Rules added behind others are asked last. -/
theorem firstMatch?_append {κ : Type} (rules more : List (Rule κ)) (cs : List Char) :
    firstMatch? (rules ++ more) cs = (firstMatch? rules cs).or (firstMatch? more cs) := by
  simp [firstMatch?, List.findSome?_append]

theorem firstMatch?_pos {κ : Type} {rules : List (Rule κ)} {cs : List Char} {k : κ} {n : Nat}
    (h : firstMatch? rules cs = some (k, n)) : 0 < n := by
  induction rules with
  | nil => simp at h
  | cons r rules ih =>
    rw [firstMatch?_cons] at h
    cases hr : r.length? cs with
    | none => rw [hr] at h; exact ih h
    | some m =>
      rw [hr] at h
      obtain ⟨-, rfl⟩ : r.kind = k ∧ m = n := by simpa using h
      simpa using (Option.filter_eq_some_iff.1 hr).2

end PropertyFilter
