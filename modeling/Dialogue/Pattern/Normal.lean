/-!
# Authored patterns

Authors write character classes in which `[`, `&` and `~` are plain characters and a dash beside a
class escape is a plain dash. Normalizing puts a backslash before each of these, so that the pattern
language reads them as characters; nothing else changes.

## Main definitions

- `Pattern.normalize` — the pattern with those characters escaped
-/

namespace Dialogue.Pattern

/-- The letters of escapes that stand for a whole class of characters. -/
def isClassLetter (c : Char) : Bool :=
  c == 'w' || c == 'W' || c == 'd' || c == 'D' || c == 's' || c == 'S'

/-- Whether an escape that stands for a whole class comes next. -/
def startsClassEscape : List Char → Bool
  | '\\' :: c :: _ => isClassLetter c
  | _ => false

/-- Normalize the rest of a pattern, given whether it starts inside a class and right after a class
escape there. -/
def normalizeFrom (inClass afterEscape : Bool) : List Char → List Char
  | [] => []
  | ['\\'] => ['\\']
  | '\\' :: e :: rest => '\\' :: e :: normalizeFrom inClass (inClass && isClassLetter e) rest
  | c :: rest =>
    if !inClass then
      if c = '[' then
        match rest with
        | '^' :: rest => '[' :: '^' :: normalizeFrom true false rest
        | rest => '[' :: normalizeFrom true false rest
      else c :: normalizeFrom false afterEscape rest
    else if c = ']' then ']' :: normalizeFrom false false rest
    else if c = '[' ∨ c = '&' ∨ c = '~' ∨ c = '-' ∧ (afterEscape || startsClassEscape rest) then
      '\\' :: c :: normalizeFrom true false rest
    else c :: normalizeFrom true false rest

/-- The pattern that says to the pattern language what the authored pattern says to its author. -/
def normalize (pattern : String) : String :=
  String.ofList (normalizeFrom false false pattern.toList)

end Dialogue.Pattern
