import Dialogue.Json.Printer
import Dialogue.Store.Basic
import Dialogue.Text.Property
/-!
# Templates

A placeholder is a path between double braces. Its path is a nonempty row of word characters, points
and brackets. A text is cut into placeholders and other characters once, from the left; expanding it
replaces each placeholder of a defined path by the text of the value, so inserted text is never
looked at again.

## Main definitions

- `Template.pieces` — a text cut into placeholders and other characters
- `Json.plain` — the text of a value inside a message
- `Store.expand`, `Store.expandValue` — texts and whole values with their placeholders replaced
-/

namespace Dialogue

namespace Json

mutual

/-- The text of a value inside a message: strings as they are, whole numbers without a fraction,
items joined by commas, objects as compact text. -/
def plainChars : Json → List Char
  | .text s => s.toList
  | .number (.whole n) => Number.text (.whole n)
  | .number (.real x) => x.plainText.toList
  | .array items => plainItems items
  | .object fields => compactChars (.object fields)
  | .null => ['n', 'u', 'l', 'l']
  | .bool b => compactChars (.bool b)

/-- The texts of the items, separated by commas. -/
def plainItems : List Json → List Char
  | [] => []
  | [item] => plainChars item
  | item :: next :: rest => plainChars item ++ ',' :: plainItems (next :: rest)

end

/-- The text of a value inside a message. -/
def plain (j : Json) : String := String.ofList (plainChars j)

end Json

namespace Template

/-- A part of a text: one character, or a placeholder with the path between its braces. -/
inductive Piece where
  | char (c : Char)
  | placeholder (path : List Char)
  deriving DecidableEq, Repr

/-- The characters that paths in placeholders are written with. -/
def isPathChar (c : Char) : Bool := isWord c || c == '.' || c == '[' || c == ']'

/-- The path and the rest after a placeholder that stands in front. -/
def placeholder? : List Char → Option (List Char × List Char)
  | '{' :: '{' :: rest =>
    let path := rest.takeWhile isPathChar
    match rest.dropWhile isPathChar with
    | '}' :: '}' :: after => if path.isEmpty then none else some (path, after)
    | _ => none
  | _ => none

theorem length_lt_of_placeholder? {cs path rest : List Char}
    (h : placeholder? cs = some (path, rest)) : rest.length < cs.length := by
  unfold placeholder? at h
  split at h
  · rename_i body
    dsimp only at h
    split at h
    · rename_i after hd
      split at h
      · simp at h
      · obtain ⟨-, rfl⟩ := Prod.mk.inj (Option.some.inj h)
        have hle : (body.dropWhile isPathChar).length ≤ body.length :=
          (List.dropWhile_sublist isPathChar).length_le
        rw [hd] at hle
        simp only [List.length_cons] at hle ⊢
        omega
    · simp at h
  · simp at h

/-- A text cut, from the left, into placeholders and other characters. -/
def pieces (cs : List Char) : List Piece :=
  match cs with
  | [] => []
  | c :: rest =>
    match _h : placeholder? (c :: rest) with
    | some (path, after) => .placeholder path :: pieces after
    | none => .char c :: pieces rest
termination_by cs.length
decreasing_by
  · exact length_lt_of_placeholder? (by assumption)
  · simp

/-- The path of a text that is one placeholder and nothing else. -/
def lone? (s : String) : Option (List Char) :=
  match pieces s.toList with
  | [.placeholder path] => some path
  | _ => none

/-- The characters of a placeholder with its braces. -/
def written (path : List Char) : List Char := '{' :: '{' :: (path ++ ['}', '}'])

/-- The characters that take the place of a piece. -/
def Piece.render (store : Store) : Piece → List Char
  | .char c => [c]
  | .placeholder path =>
    match store.get? (String.ofList path) with
    | some value => value.plainChars
    | none => written path

end Template

namespace Store

/-- A text with each placeholder of a defined path replaced by the text of its value. -/
def expand (store : Store) (s : String) : String :=
  String.ofList ((Template.pieces s.toList).flatMap (Template.Piece.render store))

/-- The value behind a text that is one placeholder of a defined path. -/
def lone? (store : Store) (s : String) : Option Json :=
  (Template.lone? s).bind fun path => store.get? (String.ofList path)

/-- A text as a value: the value behind it when it is one placeholder of a defined path, else the
expanded text. -/
def expandText (store : Store) (s : String) : Json :=
  match store.lone? s with
  | some value => value
  | none => .text (store.expand s)

mutual

/-- A value with every text inside expanded; member names stay as they are. -/
def expandValue (store : Store) : Json → Json
  | .text s => store.expandText s
  | .array items => .array (expandItems store items)
  | .object fields => .object (expandFields store fields)
  | .null => .null
  | .bool b => .bool b
  | .number n => .number n

/-- The items, each with every text inside expanded. -/
def expandItems (store : Store) : List Json → List Json
  | [] => []
  | item :: rest => expandValue store item :: expandItems store rest

/-- The members, each with every text inside expanded. -/
def expandFields (store : Store) : List (String × Json) → List (String × Json)
  | [] => []
  | (key, value) :: rest => (key, expandValue store value) :: expandFields store rest

end

end Store

end Dialogue
