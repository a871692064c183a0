import Dialogue.Text.Case
import Dialogue.Text.White
/-!
# Sets of characters in patterns

The sets that classes denote, kept as they are written; `CharSet.mem` decides membership.
-/

namespace Dialogue.Pattern

/-- A set of characters. -/
inductive CharSet where
  | none
  | range (low high : Nat)
  | table (t : RangeTable)
  | word
  | digit
  | white
  | union (a b : CharSet)
  | inter (a b : CharSet)
  | compl (a : CharSet)
  /-- The characters with a case variant in the set. -/
  | fold (a : CharSet)
  /-- The characters with an ASCII case variant in the set. -/
  | foldAscii (a : CharSet)
  deriving DecidableEq, Repr, Inhabited

namespace CharSet

/-- The other case of an ASCII letter, or the character itself. -/
def otherCase (c : Char) : Char := if c.isUpper then c.toLower else c.toUpper

/-- Whether a character is in the set. -/
def mem (c : Char) : CharSet → Bool
  | .none => false
  | .range low high => low ≤ c.toNat && c.toNat ≤ high
  | .table t => t.contains c
  | .word => isWord c
  | .digit => isDecimalDigit c
  | .white => isWhite c
  | .union a b => mem c a || mem c b
  | .inter a b => mem c a && mem c b
  | .compl a => !mem c a
  | .fold a => (caseVariants c).any fun d => mem d a
  | .foldAscii a => mem c a || mem (otherCase c) a

/-- One character. -/
def single (c : Char) : CharSet := .range c.toNat c.toNat

/-- The union of some sets. -/
def unions : List CharSet → CharSet
  | [] => .none
  | [s] => s
  | s :: t :: rest => .union s (unions (t :: rest))

/-- The members of the first set that are not in the second. -/
def diff (a b : CharSet) : CharSet := .inter a (.compl b)

/-- The members of exactly one of two sets. -/
def symmDiff (a b : CharSet) : CharSet := .union (diff a b) (diff b a)

/-- The ASCII letters, digits and underscore. -/
def asciiWord : CharSet :=
  unions [.range 0x30 0x39, .range 0x41 0x5A, .range 0x5F 0x5F, .range 0x61 0x7A]

/-- The ASCII blanks. -/
def asciiWhite : CharSet := unions [.range 9 13, .range 32 32]

/-- The set a bracketed ASCII class name stands for. -/
def named? : String → Option CharSet
  | "alnum" => some (unions [.range 0x30 0x39, .range 0x41 0x5A, .range 0x61 0x7A])
  | "alpha" => some (unions [.range 0x41 0x5A, .range 0x61 0x7A])
  | "ascii" => some (.range 0 0x7F)
  | "blank" => some (unions [.range 9 9, .range 32 32])
  | "cntrl" => some (unions [.range 0 0x1F, .range 0x7F 0x7F])
  | "digit" => some (.range 0x30 0x39)
  | "graph" => some (.range 0x21 0x7E)
  | "lower" => some (.range 0x61 0x7A)
  | "print" => some (.range 0x20 0x7E)
  | "punct" =>
    some (unions [.range 0x21 0x2F, .range 0x3A 0x40, .range 0x5B 0x60, .range 0x7B 0x7E])
  | "space" => some asciiWhite
  | "upper" => some (.range 0x41 0x5A)
  | "word" => some asciiWord
  | "xdigit" => some (unions [.range 0x30 0x39, .range 0x41 0x46, .range 0x61 0x66])
  | _ => Option.none

end CharSet

end Dialogue.Pattern
