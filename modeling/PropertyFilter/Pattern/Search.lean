import PropertyFilter.Pattern.Automaton
import PropertyFilter.Pattern.Reader
import PropertyFilter.Token.Scanner

/-!
  # Searching with automata

  A search walks through a text once. At each place it holds the nodes that it has come
  to, the preferred ones first:

      explore   follows them as far as no character has to be taken
      advance   takes a character with those that are left

  A node is followed once at each place, the first time that it is met. So a repetition
  cannot go round without taking something, and the time at a place is bounded by the
  number of nodes. Where a stretch ends, all that is less preferred is given up; the
  search goes on with the rest for a stretch that is preferred to it.

  Unless an automaton is bound to the start, a stretch may begin further on, if none has
  been found that begins earlier. What counts is where it ends.
-/

namespace PropertyFilter

/-! ## Section 1: One place -/

/-- The exploration of one place: for each node the last place where it was met, the ways
that wait for a character (the last one first), and whether a stretch ends here. -/
structure Exploration where
  met : Array Nat
  waiting : List (CharClass × Nat) := []
  ended : Bool := false

namespace Automaton

/-- Follows nodes in their order. Every node is followed once and leads to two others at
most, which bounds the steps. Places are numbered from one. -/
def explore (a : Automaton) (before after : Option Char) (place : Nat) :
    Nat → List Nat → Exploration → Exploration
  | 0, _, e | _, [], e => e
  | fuel + 1, i :: rest, e =>
    if e.met[i]? = some place then a.explore before after place fuel rest e
    else
      let e := { e with met := e.met.setIfInBounds i place }
      match a.nodes[i]? with
      | some (.take k next) =>
        a.explore before after place fuel rest { e with waiting := (k, next) :: e.waiting }
      | some (.look l next) =>
        let rest := if l.holds before after then next :: rest else rest
        a.explore before after place fuel rest e
      | some (.fork first second) =>
        a.explore before after place fuel (first :: second :: rest) e
      | some .done => { e with ended := true }
      | some .stuck | none => a.explore before after place fuel rest e

/-- The nodes that are come to with a character. -/
def advance (c : Char) (waiting : List (CharClass × Nat)) : List Nat :=
  waiting.foldl (fun nodes (k, next) => if k.has c then next :: nodes else nodes) []

/-! ## Section 2: A whole text -/

/-- The nodes to follow at a place: those that have been led to, and behind them the start
if a stretch may begin here. -/
def entries (a : Automaton) (found : Option Nat) (place : Nat) (nodes : List Nat) : List Nat :=
  if found.isNone && (place = 0 || !a.bound) then nodes ++ [a.start] else nodes

/-- Searches the rest of a text from a place on, to which some nodes have led. `found` is
the place where the stretch ends that is preferred so far. -/
def searchFrom (a : Automaton) (met : Array Nat) (found : Option Nat) (before : Option Char)
    (place : Nat) (nodes : List Nat) (cs : List Char) : Option Nat :=
  let nodes := a.entries found place nodes
  if nodes.isEmpty then found
  else
    let e := a.explore before cs.head? (place + 1) (3 * a.nodes.size + 2) nodes { met }
    let found := if e.ended then some place else found
    match cs with
    | [] => found
    | c :: cs => a.searchFrom e.met found (some c) (place + 1) (advance c e.waiting) cs

/-- A place that is found is not further on than here. -/
theorem le_of_found {found : Option Nat} {place m : Nat} {ended : Bool}
    (hfound : ∀ m, found = some m → m ≤ place)
    (h : (if ended then some place else found) = some m) : m ≤ place := by
  cases ended with
  | true => simp only [if_true, Option.some.injEq] at h; omega
  | false => exact hfound m h

/-- A stretch ends within the text. -/
theorem searchFrom_le (a : Automaton) {met : Array Nat} {found : Option Nat}
    {before : Option Char} {place n : Nat} {nodes : List Nat} {cs : List Char}
    (hfound : ∀ m, found = some m → m ≤ place)
    (h : a.searchFrom met found before place nodes cs = some n) : n ≤ place + cs.length := by
  induction cs generalizing met found before place nodes with
  | nil =>
    rw [searchFrom] at h
    split at h
    · exact hfound n h
    · exact le_of_found hfound h
  | cons c cs ih =>
    rw [searchFrom] at h
    split at h
    · exact Nat.le_add_right_of_le (hfound n h)
    · have := ih (fun m hm => Nat.le_succ_of_le (le_of_found hfound hm)) h
      simp only [List.length_cons]
      omega

/-- The number of characters of a text up to the end of the stretch that is found. -/
def matcher (a : Automaton) : Matcher := fun cs =>
  a.searchFrom (Array.replicate a.nodes.size 0) none none 0 [] cs

/-- An automaton takes no more than there is. -/
theorem matcher_le (a : Automaton) {cs : List Char} {n : Nat} (h : a.matcher cs = some n) :
    n ≤ cs.length := by
  have := a.searchFrom_le (by simp) h
  omega

end Automaton

/-! ## Section 3: Rules given by patterns -/

namespace Scanner

/-- The scanner with one more rule, given by a pattern; none if there is no such
pattern. -/
def addPattern? {κ : Type} (s : Scanner κ) (pattern : String) (kind : κ) : Option (Scanner κ) :=
  (Pattern.ofText? pattern).map fun p => s.addRule ⟨p.automaton.matcher, kind⟩

/-- The scanner after an attempt to add a rule given by a pattern: it has one more rule, or
the rules that it had if there is no such pattern. -/
def attempt {κ : Type} (s : Scanner κ) (pattern : String) (kind : κ) : Scanner κ :=
  match Pattern.ofText? pattern with
  | some p => s.addRule ⟨p.automaton.matcher, kind⟩
  | none => s

end Scanner

end PropertyFilter
