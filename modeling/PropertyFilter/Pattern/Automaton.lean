import PropertyFilter.Pattern.Build

/-!
  # Automata

  An automaton is a list of nodes that refer to each other by number. Most nodes take no
  character:

      take k next    goes on behind one character of a class
      look l next    goes on if a condition holds here
      fork a b       goes on in two ways, the first of which is preferred
      done           a stretch ends here
      stuck          goes nowhere

  A pattern is built from its end to its front: `Part` adds the nodes of a pattern in
  front of a node that is there already, and gives the node to begin with. A loop holds
  its place by a stuck node until the nodes behind it are there.
-/

namespace PropertyFilter

/-- A node of an automaton. -/
inductive Node
  | take (k : CharClass) (next : Nat)
  | look (l : Look) (next : Nat)
  | fork (first second : Nat)
  | done
  | stuck
deriving DecidableEq, Repr

/-- An automaton. If `bound`, it begins at the start of a text only. -/
structure Automaton where
  nodes : Array Node
  start : Nat
  bound : Bool

/-- Adds nodes in front of a node, and gives the one to begin with. -/
abbrev Part := Nat → Array Node → Nat × Array Node

namespace Part

/-- Adds one node. -/
def ofNode (node : Nat → Node) : Part := fun next nodes => (nodes.size, nodes.push (node next))

/-- A fork between going on with one node and stopping with another. -/
def forkNode (reluctant : Bool) (goOn stop : Nat) : Node :=
  if reluctant then .fork stop goOn else .fork goOn stop

/-- Adds two parts one behind the other. -/
def followedBy (first second : Part) : Part := fun next nodes =>
  let (middle, nodes) := second next nodes
  first middle nodes

/-- Adds a part a number of times. -/
def times (part : Part) : Nat → Part
  | 0, next, nodes => (next, nodes)
  | n + 1, next, nodes =>
    let (front, nodes) := part next nodes
    times part n front nodes

/-- Adds a part that may be left out. -/
def optional (part : Part) (reluctant : Bool) : Part := fun next nodes =>
  let (goOn, nodes) := part next nodes
  ofNode (forkNode reluctant goOn) next nodes

/-- Adds a part at most a number of times, with forks that stop at one node. -/
def atMost (part : Part) (reluctant : Bool) (stop : Nat) : Nat → Part
  | 0, next, nodes => (next, nodes)
  | n + 1, next, nodes =>
    let (goOn, nodes) := part next nodes
    let (front, nodes) := ofNode (forkNode reluctant goOn) stop nodes
    atMost part reluctant stop n front nodes

/-- Adds a part with a way back to its front. Gives the front of the part, and the node
behind it that decides between going back and going on. -/
def loop (part : Part) (reluctant : Bool) (next : Nat) (nodes : Array Node) :
    Nat × Nat × Array Node :=
  let back := nodes.size
  let (front, nodes) := part back (nodes.push .stuck)
  (front, back, nodes.setIfInBounds back (forkNode reluctant front next))

/-- Adds a part one or more times. -/
def atLeastOnce (part : Part) (reluctant : Bool) : Part := fun next nodes =>
  let (front, _, nodes) := part.loop reluctant next nodes
  (front, nodes)

/-- Adds a part any number of times. A part that may be empty gets a fork of its own in
front of the loop, so that the first round is chosen like those behind it. -/
def anyTimes (part : Part) (reluctant takesSome : Bool) : Part := fun next nodes =>
  if takesSome then
    let (_, back, nodes) := part.loop reluctant next nodes
    (back, nodes)
  else
    (part.atLeastOnce reluctant).optional reluctant next nodes

/-- Adds a part as often as a repetition says. -/
def repeated (part : Part) (takesSome : Bool) (r : Repetition) : Part :=
  match r.least, r.most with
  | 0, none => part.anyTimes r.reluctant takesSome
  | n + 1, none => (part.times n).followedBy (part.atLeastOnce r.reluctant)
  | n, some m => (part.times n).followedBy fun next => part.atMost r.reluctant next (m - n) next

/-- Adds a literal. -/
def literal (text : List Char) : Part := fun next nodes =>
  text.foldr (fun c (next, nodes) => ofNode (.take (.single c)) next nodes) (next, nodes)

end Part

namespace Pattern

/-- Adds the nodes of a pattern. -/
def part : Pattern → Part
  | .empty => fun next nodes => (next, nodes)
  | .literal text => .literal text
  | .oneOf k => .ofNode (.take k)
  | .look l => .ofNode (.look l)
  | .group _ p => p.part
  | .rep p r => p.part.repeated p.takesSome r
  | .seq p q => p.part.followedBy q.part
  | .alt p q => fun next nodes =>
    let (second, nodes) := q.part next nodes
    let (first, nodes) := p.part next nodes
    Part.ofNode (fun _ => .fork first second) next nodes

/-- The automaton of a pattern. -/
def automaton (p : Pattern) : Automaton :=
  let (start, nodes) := p.part 0 #[.done]
  { nodes, start, bound := p.beginsWith .atStart }

end Pattern

end PropertyFilter
