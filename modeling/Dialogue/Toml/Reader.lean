import Dialogue.Toml.Scalar
import Dialogue.Toml.Tree
/-!
# Reading TOML

A document is a row of lines, each blank, a comment, a key with its value, or the header of a table.
Values are words, strings of four kinds, arrays and inline tables; only strings of three quotes and
arrays may go over the end of a line.

## Main definitions

- `Toml.parse?` — the top-level members of a document
-/

namespace Dialogue.Toml

/-- A space or a tab. -/
def isBlank (c : Char) : Bool := c == ' ' || c == '\t'

/-- Drop spaces and tabs. -/
def skipBlanks (cs : List Char) : List Char := cs.dropWhile isBlank

/-- Drop the end of a line that stands in front. -/
def newline? : List Char → Option (List Char)
  | '\n' :: rest => some rest
  | '\r' :: '\n' :: rest => some rest
  | _ => none

/-- The characters that comments and strings are written with: no control characters but the tab. -/
def isVisible (c : Char) : Bool := c == '\t' || (32 ≤ c.toNat && c.toNat != 127)

/-- Drop a comment, if there is one. -/
def skipComment : List Char → List Char
  | '#' :: rest => rest.dropWhile isVisible
  | cs => cs

/-- Drop the end of a line with what may stand before it; the end of the document will do. -/
def endLine? (cs : List Char) : Option (List Char) :=
  match skipComment (skipBlanks cs) with
  | [] => some []
  | rest => newline? rest

/-- Drop blanks, comments and ends of lines; `fuel` bounds their number. -/
def skipSpace : Nat → List Char → List Char
  | 0, cs => cs
  | fuel + 1, cs =>
    let rest := skipComment (skipBlanks cs)
    match newline? rest with
    | some rest => skipSpace fuel rest
    | none => rest

/-- The character that hexadecimal digits denote. -/
def unicode? (digits : List Char) : Option Char :=
  if digits.all fun c => c.isDigit || ('a' ≤ c.toLower && c.toLower ≤ 'f') then
    let n := digits.foldl (fun n c => 16 * n + digitOf c) 0
    if n < 0xD800 ∨ (0xE000 ≤ n ∧ n < 0x110000) then some (Char.ofNat n) else none
  else none

/-- Read what follows a backslash. -/
def escape? : List Char → Option (Char × List Char)
  | 'b' :: rest => some (Char.ofNat 8, rest)
  | 't' :: rest => some ('\t', rest)
  | 'n' :: rest => some ('\n', rest)
  | 'f' :: rest => some (Char.ofNat 12, rest)
  | 'r' :: rest => some ('\r', rest)
  | '"' :: rest => some ('"', rest)
  | '\\' :: rest => some ('\\', rest)
  | 'u' :: rest =>
    if (rest.take 4).length = 4 then (unicode? (rest.take 4)).map (·, rest.drop 4) else none
  | 'U' :: rest =>
    if (rest.take 8).length = 8 then (unicode? (rest.take 8)).map (·, rest.drop 8) else none
  | _ => none

/-- Read a basic string after its quote; `done` holds the characters so far, last first. -/
def basicString? : Nat → List Char → List Char → Option (String × List Char)
  | 0, _, _ => none
  | fuel + 1, done, cs =>
    match cs with
    | '"' :: rest => some (String.ofList done.reverse, rest)
    | '\\' :: rest => do
      let (c, rest) ← escape? rest
      basicString? fuel (c :: done) rest
    | c :: rest => if isVisible c then basicString? fuel (c :: done) rest else none
    | [] => none

/-- Read a literal string after its quote. -/
def literalString? (cs : List Char) : Option (String × List Char) :=
  let body := cs.takeWhile fun c => c != '\'' && isVisible c
  match cs.drop body.length with
  | '\'' :: rest => some (String.ofList body, rest)
  | _ => none

/-- The number of quotes in front, five at most. -/
def quotes (quote : Char) (cs : List Char) : Nat := ((cs.take 5).takeWhile (· == quote)).length

/-- Drop blanks and ends of lines; `fuel` bounds the ends of lines. -/
def skipLines : Nat → List Char → List Char
  | 0, cs => cs
  | fuel + 1, cs =>
    match newline? (skipBlanks cs) with
    | some rest => skipLines fuel rest
    | none => skipBlanks cs

/-- Read a string of three quotes after them. Three quotes end it, and up to two more before them
belong to it. Only with escapes does a backslash at the end of a line drop all blanks after it. -/
def longString? (quote : Char) (escapes : Bool) :
    Nat → List Char → List Char → Option (String × List Char)
  | 0, _, _ => none
  | fuel + 1, done, cs =>
    match cs with
    | [] => none
    | c :: rest =>
      if c = quote then
        let n := quotes quote cs
        if 3 ≤ n then
          some (String.ofList (List.replicate (n - 3) quote ++ done).reverse, cs.drop n)
        else longString? quote escapes fuel (quote :: done) rest
      else if c = '\\' ∧ escapes then
        if (newline? (skipBlanks rest)).isSome then
          longString? quote escapes fuel done (skipLines rest.length rest)
        else do
          let (c, rest) ← escape? rest
          longString? quote escapes fuel (c :: done) rest
      else
        match newline? cs with
        | some rest => longString? quote escapes fuel ('\n' :: done) rest
        | none => if isVisible c then longString? quote escapes fuel (c :: done) rest else none

/-- Drop the end of a line right after three quotes. -/
def dropNewline (cs : List Char) : List Char := (newline? cs).getD cs

/-- Read a string, if a quote stands in front. -/
def string? : List Char → Option (String × List Char)
  | '"' :: '"' :: '"' :: rest => longString? '"' true (rest.length + 1) [] (dropNewline rest)
  | '\'' :: '\'' :: '\'' :: rest => longString? '\'' false (rest.length + 1) [] (dropNewline rest)
  | '"' :: rest => basicString? (rest.length + 1) [] rest
  | '\'' :: rest => literalString? rest
  | _ => none

/-- The characters of bare keys. -/
def isKeyChar (c : Char) : Bool := c.isAlphanum || c == '_' || c == '-'

/-- Read one part of a key. -/
def keyPart? : List Char → Option (String × List Char)
  | '"' :: rest => basicString? (rest.length + 1) [] rest
  | '\'' :: rest => literalString? rest
  | cs =>
    let name := cs.takeWhile isKeyChar
    if name.isEmpty then none else some (String.ofList name, cs.dropWhile isKeyChar)

/-- Read a key with points: the parts before the last one, last first, and the last one. -/
def key? : Nat → List String → List Char → Option ((List String × String) × List Char)
  | 0, _, _ => none
  | fuel + 1, path, cs => do
    let (part, rest) ← keyPart? (skipBlanks cs)
    match skipBlanks rest with
    | '.' :: rest => key? fuel (part :: path) rest
    | rest => some ((path.reverse, part), rest)

/-- How many parts a key may have, and how deep arrays and inline tables may nest. -/
def deepest : Nat := 80

/-- The characters of words. -/
def isWordChar (c : Char) : Bool :=
  c.isAlphanum || c == '_' || c == '-' || c == '+' || c == '.' || c == ':'

/-- The word in front. A date may be followed by a space and a time. -/
def word (cs : List Char) : List Char × List Char :=
  let first := cs.takeWhile isWordChar
  match cs.dropWhile isWordChar with
  | ' ' :: d :: rest =>
    if d.isDigit && first.length == 10 && (date? first).isSome then
      let second := (d :: rest).takeWhile isWordChar
      (first ++ ' ' :: second, (d :: rest).dropWhile isWordChar)
    else (first, ' ' :: d :: rest)
  | rest => (first, rest)

mutual

/-- Read a value; `room` more arrays and inline tables may open. -/
def value? : Nat → Nat → List Char → Option (LayerValue × List Char)
  | 0, _, _ => none
  | fuel + 1, room, cs =>
    match cs with
    | '"' :: _ => (string? cs).map fun (s, rest) => (.text s, rest)
    | '\'' :: _ => (string? cs).map fun (s, rest) => (.text s, rest)
    | '[' :: rest =>
      match room with
      | 0 => none
      | room + 1 => items? fuel room [] rest
    | '{' :: rest =>
      match room with
      | 0 => none
      | room + 1 =>
        match skipBlanks rest with
        | '\x7d' :: rest => some (.table [], rest)
        | rest => inline? fuel room [] rest
    | cs => do
      let (first, rest) := word cs
      return (← scalar? first, rest)

/-- Read the items of an array; `done` holds the items so far, last first. -/
def items? : Nat → Nat → List LayerValue → List Char → Option (LayerValue × List Char)
  | 0, _, _, _ => none
  | fuel + 1, room, done, cs =>
    match skipSpace cs.length cs with
    | ']' :: rest => some (.list done.reverse, rest)
    | cs => do
      let (item, rest) ← value? fuel room cs
      match skipSpace rest.length rest with
      | ',' :: rest => items? fuel room (item :: done) rest
      | ']' :: rest => some (.list (item :: done).reverse, rest)
      | _ => none

/-- Read the members of an inline table. -/
def inline? : Nat → Nat → Members → List Char → Option (LayerValue × List Char)
  | 0, _, _, _ => none
  | fuel + 1, room, done, cs => do
    let ((path, key), rest) ← key? deepest [] cs
    match rest with
    | '=' :: rest =>
      let (value, rest) ← value? fuel room (skipBlanks rest)
      let done ← done.putDotted path key value
      match skipBlanks rest with
      | ',' :: rest => inline? fuel room done rest
      | '\x7d' :: rest => some (.table done.value, rest)
      | _ => none
    | _ => none

end

/-- A document that is being read: what is there so far, and the table that keys go to. -/
structure Progress where
  members : Members
  current : List String

/-- Read a key with its value. -/
def keyLine? (p : Progress) (cs : List Char) : Option (Progress × List Char) := do
  let ((path, key), rest) ← key? deepest [] cs
  match rest with
  | '=' :: rest =>
    let (value, rest) ← value? (2 * rest.length + 2) deepest (skipBlanks rest)
    let members ← p.members.update (Members.putDotted path key value) p.current
    return ({ p with members }, rest)
  | _ => none

/-- Read a header after its opening brackets, of which there are one or two. -/
def headerLine? (p : Progress) (double : Bool) (cs : List Char) : Option (Progress × List Char) := do
  let ((path, key), rest) ← key? deepest [] cs
  match double, rest with
  | false, ']' :: rest =>
    return (⟨← p.members.openTable path key, path ++ [key]⟩, rest)
  | true, ']' :: ']' :: rest =>
    return (⟨← p.members.openItem path key, path ++ [key]⟩, rest)
  | _, _ => none

/-- Read lines to the end of a document; `fuel` bounds their number. -/
def lines? : Nat → Progress → List Char → Option Members
  | 0, _, _ => none
  | fuel + 1, p, cs =>
    match skipSpace cs.length cs with
    | [] => some p.members
    | '[' :: '[' :: rest => do
      let (p, rest) ← headerLine? p true rest
      lines? fuel p (← endLine? rest)
    | '[' :: rest => do
      let (p, rest) ← headerLine? p false rest
      lines? fuel p (← endLine? rest)
    | cs => do
      let (p, rest) ← keyLine? p cs
      lines? fuel p (← endLine? rest)

/-- Drop a byte order mark. -/
def dropMark : List Char → List Char
  | c :: rest => if c.toNat = 0xFEFF then rest else c :: rest
  | [] => []

/-- The top-level members of a document. -/
def parse? (text : String) : Option (List (String × LayerValue)) :=
  let cs := dropMark text.toList
  (lines? (cs.length + 1) ⟨[], []⟩ cs).map Members.value

end Dialogue.Toml
