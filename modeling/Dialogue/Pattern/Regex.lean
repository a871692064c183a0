import Dialogue.Pattern.CharSet
/-!
# Regular expressions

A regular expression is matched by partial derivatives: the expressions that the rest of a text has
to match after one more character. Assertions look at the characters on both sides of a place in the
text, so whether an expression matches nothing, and its derivatives, depend on the place.

## Main definitions

- `Regex`, `Regex.nullable`, `Regex.derivatives`
- `Regex.search` — whether the expression matches somewhere in a text
-/

namespace Dialogue.Pattern

/-- A condition on a place in a text. -/
inductive Assertion where
  | textStart
  | textEnd
  | lineStart (crlf : Bool)
  | lineEnd (crlf : Bool)
  | wordBoundary (ascii : Bool)
  | notWordBoundary (ascii : Bool)
  | wordStart (ascii : Bool)
  | wordEnd (ascii : Bool)
  | wordStartHalf (ascii : Bool)
  | wordEndHalf (ascii : Bool)
  deriving DecidableEq, Repr, Inhabited

/-- A place in a text: the characters before and after it. -/
structure Place where
  before : Option Char
  after : Option Char

namespace Assertion

/-- Whether there is a character and it belongs to words. -/
def wordAt (ascii : Bool) (c : Option Char) : Bool :=
  match c with
  | some c => if ascii then CharSet.asciiWord.mem c else isWord c
  | none => false

/-- Whether the condition holds at a place. -/
def holds (p : Place) : Assertion → Bool
  | .textStart => p.before.isNone
  | .textEnd => p.after.isNone
  | .lineStart false => p.before.isNone || p.before == some '\n'
  | .lineStart true =>
    p.before.isNone || p.before == some '\n' || p.before == some '\r' && p.after != some '\n'
  | .lineEnd false => p.after.isNone || p.after == some '\n'
  | .lineEnd true =>
    p.after.isNone || p.after == some '\r' || p.after == some '\n' && p.before != some '\r'
  | .wordBoundary a => wordAt a p.before != wordAt a p.after
  | .notWordBoundary a => wordAt a p.before == wordAt a p.after
  | .wordStart a => !wordAt a p.before && wordAt a p.after
  | .wordEnd a => wordAt a p.before && !wordAt a p.after
  | .wordStartHalf a => !wordAt a p.before
  | .wordEndHalf a => !wordAt a p.after

end Assertion

/-- A regular expression. -/
inductive Regex where
  | nothing
  | one (s : CharSet)
  | look (a : Assertion)
  | seq (a b : Regex)
  | alt (a b : Regex)
  /-- At least `low` times, and at most `high` times if given. -/
  | times (a : Regex) (low : Nat) (high : Option Nat)
  deriving DecidableEq, Repr, Inhabited

namespace Regex

/-- Whether the expression matches the empty text at a place. -/
def nullable (p : Place) : Regex → Bool
  | .nothing => true
  | .one _ => false
  | .look a => a.holds p
  | .seq a b => nullable p a && nullable p b
  | .alt a b => nullable p a || nullable p b
  | .times a low _ => low == 0 || nullable p a

/-- The first expression followed by the second. -/
def followedBy : Regex → Regex → Regex
  | .nothing, b => b
  | a, .nothing => a
  | a, b => .seq a b

/-- Repetition, at most zero times being nothing. -/
def repeated (a : Regex) (low : Nat) : Option Nat → Regex
  | some 0 => .nothing
  | high => .times a low high

/-- The expressions that the rest of a text has to match after the character `c` at a place. -/
def derivatives (p : Place) (c : Char) : Regex → List Regex
  | .nothing => []
  | .one s => if s.mem c then [.nothing] else []
  | .look _ => []
  | .seq a b =>
    (derivatives p c a).map (·.followedBy b) ++ if a.nullable p then derivatives p c b else []
  | .alt a b => derivatives p c a ++ derivatives p c b
  | .times a low high =>
    if high = some 0 then []
    else
      let rest := repeated a (if a.nullable p then 0 else low - 1) (high.map (· - 1))
      (derivatives p c a).map (·.followedBy rest)

/-- Drop repetitions from a list of expressions. -/
def distinct : List Regex → List Regex
  | [] => []
  | r :: rest => let others := distinct rest; if others.contains r then others else r :: others

/-- Whether one of the expressions matches a front of the text, or `r` matches at a later place;
`before` is the character in front. -/
def searchFrom (r : Regex) (states : List Regex) (before : Option Char) : List Char → Bool
  | [] => states.any (nullable ⟨before, none⟩)
  | c :: rest =>
    let p : Place := ⟨before, some c⟩
    states.any (nullable p) ||
      searchFrom r (distinct (r :: states.flatMap (derivatives p c))) (some c) rest

/-- Whether the expression matches somewhere in a text. -/
def search (r : Regex) (s : String) : Bool := searchFrom r [r] none s.toList

end Regex

end Dialogue.Pattern
