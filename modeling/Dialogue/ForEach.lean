import Dialogue.Template
/-!
# Rendering lists

`forEach` renders a template once for every item of a list. Between two delimiters the template may
refer to the position of the item, counted from zero or from one, to the item, or to a value inside
it; a reference to nothing stays as it is written.

## Main definitions

- `ForEach.Reference`, `ForEach.reference?` — a reference at the front of a template
- `ForEach.render` — the template for one item
- `forEach` — the function with its arguments checked
-/

namespace Dialogue

namespace ForEach

/-- What a template refers to between two delimiters. -/
inductive Reference where
  | index
  | humanIndex
  | value
  /-- A value inside the item, by the text of its path. -/
  | inside (path : List Char)
  deriving DecidableEq, Repr

/-- Drop a given front. -/
def dropFront? (front cs : List Char) : Option (List Char) :=
  match front, cs with
  | [], cs => some cs
  | f :: front, c :: cs => if f = c then dropFront? front cs else none
  | _ :: _, [] => none

/-- The longest nonempty row of path characters after which the delimiter follows, and the rest
after that; `length` bounds the row. -/
def path? (delimiter : List Char) (cs : List Char) : Nat → Option (List Char × List Char)
  | 0 => none
  | length + 1 =>
    match dropFront? delimiter (cs.drop (length + 1)) with
    | some rest => some (cs.take (length + 1), rest)
    | none => path? delimiter cs length

/-- A reference to the item or a value inside it, after its first delimiter and the word `value`. -/
def valueReference? (delimiter cs : List Char) : Option (Reference × List Char) :=
  let inside := match cs with
    | '.' :: cs => path? delimiter cs (cs.takeWhile Template.isPathChar).length
    | _ => none
  match inside with
  | some (path, rest) => some (.inside path, rest)
  | none => (dropFront? delimiter cs).map (.value, ·)

/-- A reference that stands in front, and the rest after it. -/
def reference? (delimiter cs : List Char) : Option (Reference × List Char) :=
  match dropFront? delimiter cs with
  | none => none
  | some body =>
    let word (name : String) (reference : Reference) :=
      ((dropFront? name.toList body).bind (dropFront? delimiter)).map (reference, ·)
    (word "index" .index).or ((word "humanIndex" .humanIndex).or
      ((dropFront? "value".toList body).bind (valueReference? delimiter)))

/-- A part of a template: one character, or a reference and how it is written. -/
inductive Piece where
  | char (c : Char)
  | reference (r : Reference) (written : List Char)
  deriving DecidableEq, Repr

/-- Cut a template into references and other characters, from the left. The first `skip` characters
belong to a reference already cut. -/
def cut (delimiter : List Char) : Nat → List Char → List Piece
  | _, [] => []
  | skip + 1, _ :: rest => cut delimiter skip rest
  | 0, c :: rest =>
    match reference? delimiter (c :: rest) with
    | some (reference, after) =>
      .reference reference ((c :: rest).take (rest.length + 1 - after.length)) ::
        cut delimiter (rest.length - after.length) rest
    | none => .char c :: cut delimiter 0 rest

/-- Drop the words `value.` in front of a path; `fuel` bounds their number. -/
def dropValueWords : Nat → List Char → List Char
  | 0, path => path
  | fuel + 1, path =>
    match dropFront? "value.".toList path with
    | some rest => dropValueWords fuel rest
    | none => path

/-- The characters that take the place of a piece for one item. -/
def Piece.render (position : Nat) (item : Json) : Piece → List Char
  | .char c => [c]
  | .reference .index _ => decimalDigits position
  | .reference .humanIndex _ => decimalDigits (position + 1)
  | .reference .value _ => item.plainChars
  | .reference (.inside path) written =>
    let path := Path.parse (String.ofList (dropValueWords path.length path))
    match item.get? path with
    | some value => value.plainChars
    | none => written

/-- The template for one item. -/
def render (pieces : List Piece) (position : Nat) (item : Json) : List Char :=
  pieces.flatMap (Piece.render position item)

/-- The template for every item, in order. -/
def renderAll (delimiter template : String) (items : List Json) : String :=
  let pieces := cut delimiter.toList 0 template.toList
  String.ofList (items.zipIdx.flatMap fun (item, position) => render pieces position item)

/-- The delimiter when none is given. -/
def plainDelimiter : String := "%"

/-- Read the delimiter that may follow the template. -/
def delimiter : List Json → Except String String
  | [] => .ok plainDelimiter
  | .null :: _ => .ok plainDelimiter
  | .text "" :: _ =>
    .error "forEach() delimiter must be a non-empty string, got \"\""
  | .text delimiter :: _ => .ok delimiter
  | other :: _ =>
    .error ("forEach() delimiter must be a non-empty string, got " ++ other.compact)

end ForEach

/-- Render a template for every item of a list. The arguments are the list, the template and, if
given, the delimiter. -/
def forEach (args : List Json) : Except String Json :=
  match args with
  | .array items :: .text template :: rest => do
    let delimiter ← ForEach.delimiter rest
    return .text (ForEach.renderAll delimiter template items)
  | .array _ :: _ => .error "forEach() second argument must be a string (template)"
  | other :: _ => .error ("forEach() first argument must be an array, got " ++ other.compact)
  | [] => .error "forEach() requires a list and a template"

end Dialogue
