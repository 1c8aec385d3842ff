import HeaderBindings.Pattern.CharTest

/-!
# Patterns

The parts a pattern is made of. A pattern is read once and then searched for in names; its groups
are numbered by their opening parentheses, from one.
-/

namespace HeaderBindings

namespace Pattern

/-- A place in a text that a pattern can ask for. -/
inductive Anchor where
  | textStart
  | textEnd
  /-- The start of the text, or of a line of it if lines count. -/
  | start
  /-- The end of the text, the place before a line feed that ends it, or the end of any line of it
      if lines count. -/
  | finish
  /-- A place between a word character and another character or an end of the text. -/
  | wordEdge
  /-- Any other place of a text that is not empty. -/
  | noWordEdge
  deriving Repr, DecidableEq

/-- Which number of repetitions is tried first. -/
inductive Greed where
  | greedy
  | lazy
  /-- The largest, and no other. -/
  | possessive
  deriving Repr, DecidableEq

/-- How many characters a part of a pattern takes: at least and at most, if that is bounded. -/
structure Width where
  least : Nat
  most : Option Nat
  deriving Repr, DecidableEq

inductive Node where
  | empty
  | one (test : CharTest)
  | anchor (place : Anchor)
  | seq (first second : Node)
  | alt (first second : Node)
  | group (index : Nat) (body : Node)
  | repeated (least : Nat) (most : Option Nat) (greed : Greed) (body : Node)
  | backreference (index : Nat)
  /-- A look at what follows, which takes nothing of it. -/
  | lookahead (negated : Bool) (body : Node)
  /-- A look at what stands before, from as many characters back as its body takes. -/
  | lookbehind (negated : Bool) (width : Width) (body : Node)
  /-- A part of which only the first match is tried. -/
  | atomic (body : Node)
  /-- One of two parts, by whether a group has matched. -/
  | conditional (index : Nat) (yes no : Node)
  /-- A part with flags of its own. -/
  | flagged (on off : List Flag) (body : Node)
  deriving Repr, DecidableEq

end Pattern

structure Pattern where
  source : String
  root : Pattern.Node
  groups : Nat
  /-- The names of its groups, in order of their numbers. -/
  names : List (String × Nat)
  flags : Pattern.Flags
  deriving Repr, DecidableEq

def Pattern.groupNamed? (pattern : Pattern) (name : String) : Option Nat :=
  pattern.names.lookup name

end HeaderBindings
