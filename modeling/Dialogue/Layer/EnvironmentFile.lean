import Dialogue.Keyed
import Dialogue.Text.Property
import Dialogue.Text.White
/-!
# Environment files

A file of variables, a name and a value a line. Values may be quoted and may refer to other
variables by a dollar sign. A variable that the environment has already keeps its value. Reading
stops at the first malformed line.

## Main definitions

- `EnvironmentFile.lines` — the logical lines of a file
- `EnvironmentFile.readValue?` — the value that a text denotes
- `EnvironmentFile.extend` — an environment with the variables of a file
-/

namespace Dialogue.EnvironmentFile

/-- Where a scan over a line is. -/
inductive Scan where
  | plain
  | blank
  | escape
  | double
  | doubleEscape
  | single
  | singleEscape
  deriving DecidableEq, Repr, Inhabited

namespace Scan

/-- The state after a character outside quotes. -/
def start (c : Char) : Scan :=
  if c = '\\' then .escape
  else if c = '"' then .double
  else if c = '\'' then .single
  else .plain

/-- The state after a character. -/
def next (c : Char) : Scan → Scan
  | .plain => if isWhite c && c != '\n' && c != '\r' then .blank else start c
  | .blank => start c
  | .escape => .plain
  | .double => if c = '\\' then .doubleEscape else if c = '"' then .plain else .double
  | .doubleEscape => .double
  | .single => if c = '\\' then .singleEscape else if c = '\'' then .plain else .single
  | .singleEscape => .single

end Scan

/-- What scanning a physical line gives: how much of it is kept when it ends in a comment or a
blank, or the state at its end. -/
inductive Scanned where
  | cut (kept : Nat)
  | open (state : Scan)
  deriving DecidableEq, Repr, Inhabited

/-- Scan a physical line; `position` is the place of its next character. -/
def scan (state : Scan) (position : Nat) : List Char → Scanned
  | [] => if state = .blank then .cut (position - 1) else .open state
  | c :: rest =>
    if state = .blank ∧ c = '#' then .cut position else scan (state.next c) (position + 1) rest

/-- Split a text after each end of a line. -/
def physicalLines : List Char → List (List Char)
  | [] => []
  | '\n' :: rest => ['\n'] :: physicalLines rest
  | c :: rest =>
    match physicalLines rest with
    | [] => [[c]]
    | line :: lines => (c :: line) :: lines

/-- Drop the end of a line. -/
def chomp (line : List Char) : List Char :=
  match line.reverse with
  | '\n' :: '\r' :: rest => rest.reverse
  | '\n' :: rest => rest.reverse
  | _ => line

/-- The logical lines: a physical line with an open quote or escape goes on in the next one. Nothing
stands for a line that is still open at the end. -/
def joinLines (state : Scan) (front : List Char) : List (List Char) → List (Option (List Char))
  | [] => if front.isEmpty then [] else [none]
  | line :: rest =>
    let whole := front ++ line
    if (whole.dropWhile isWhite).head? = some '#' then some [] :: joinLines .plain [] rest
    else
      match scan state 0 line with
      | .cut kept => some (front ++ line.take kept) :: joinLines .plain [] rest
      | .open .plain => some (chomp whole) :: joinLines .plain [] rest
      | .open state => joinLines state whole rest

/-- The logical lines of a file. -/
def lines (text : String) : List (Option (List Char)) :=
  let cs := text.toList
  let cs := if cs.head?.map (·.toNat) = some 0xFEFF then cs.drop 1 else cs
  joinLines .plain [] (physicalLines cs)

/-- A reference to a variable that is being read: bare, or between braces. -/
inductive Reference where
  | none
  | bare (name : List Char)
  | braced (name : List Char)
  deriving DecidableEq, Repr, Inhabited

/-- The state of reading a value. -/
structure Reading where
  output : List Char := []
  single : Bool := false
  double : Bool := false
  escaped : Bool := false
  ended : Bool := false
  reference : Reference := .none

/-- Variables: those of the environment win over those that the file has set so far. -/
structure Variables where
  environment : Keyed String
  file : Keyed String := []

/-- The value of a variable, empty if there is none. -/
def Variables.value (v : Variables) (name : List Char) : List Char :=
  let name := String.ofList name
  (((Keyed.get? name v.environment).or (Keyed.get? name v.file)).getD "").toList

/-- Read a character inside a reference. -/
def readReference (v : Variables) (r : Reading) (c : Char) : Reading :=
  match r.reference with
  | .none => r
  | .bare name =>
    if isAlphabetic c || isNumeric c then { r with reference := .bare (name ++ [c]) }
    else if c = '{' ∧ name.isEmpty then { r with reference := .braced [] }
    else
      let output := r.output ++ v.value name
      if c = '$' then { r with output, reference := .bare [] }
      else { r with output := output ++ [c], reference := .none }
  | .braced name =>
    if c = '\x7d' then { r with output := r.output ++ v.value name, reference := .none }
    else { r with reference := .braced (name ++ [c]) }

/-- Read a character of a value; nothing when it may not stand there. The rest after a comment sign
does not count. -/
def readChar? (v : Variables) (r : Reading) (c : Char) : Option Reading :=
  if r.ended then
    if c = ' ' ∨ c = '\t' then some r else none
  else if r.escaped then
    if c = '\\' ∨ c = '\'' ∨ c = '"' ∨ c = '$' ∨ c = ' ' then
      some { r with output := r.output ++ [c], escaped := false }
    else if c = 'n' then some { r with output := r.output ++ ['\n'], escaped := false }
    else none
  else if r.single then
    some (if c = '\'' then { r with single := false } else { r with output := r.output ++ [c] })
  else if r.reference ≠ .none then some (readReference v r c)
  else if c = '$' then some { r with reference := .bare [] }
  else if r.double then
    some (if c = '"' then { r with double := false }
      else if c = '\\' then { r with escaped := true }
      else { r with output := r.output ++ [c] })
  else if c = '\'' then some { r with single := true }
  else if c = '"' then some { r with double := true }
  else if c = '\\' then some { r with escaped := true }
  else if c = ' ' ∨ c = '\t' then some { r with ended := true }
  else some { r with output := r.output ++ [c] }

/-- Read characters up to the end or to a comment sign after the value. -/
def readChars? (v : Variables) (r : Reading) : List Char → Option Reading
  | [] => some r
  | c :: rest =>
    if r.ended && c == '#' then some r
    else (readChar? v r c).bind fun r => readChars? v r rest

/-- The value that a text denotes. -/
def readValue? (v : Variables) (cs : List Char) : Option (List Char) := do
  let r ← readChars? v {} cs
  if r.single || r.double then none
  else
    match r.reference with
    | .none => some r.output
    | .bare name => some (r.output ++ v.value name)
    | .braced _ => none

/-- Read a name. -/
def readName? : List Char → Option (List Char × List Char)
  | [] => none
  | c :: rest =>
    let isNameChar (c : Char) := c.isAlphanum || c == '_' || c == '.'
    if c.isAlpha || c == '_' then
      some (c :: rest.takeWhile isNameChar, rest.dropWhile isNameChar)
    else none

/-- Drop the blanks in front. -/
def skipWhite (cs : List Char) : List Char := cs.dropWhile isWhite

/-- Read a name and the equals sign after it; the word `export` may stand in front. -/
def readTarget? (cs : List Char) : Option (List Char × List Char) := do
  let (name, rest) ← readName? cs
  match skipWhite rest with
  | '=' :: rest => return (name, rest)
  | rest =>
    if name = "export".toList then
      let (name, rest) ← readName? rest
      match skipWhite rest with
      | '=' :: rest => return (name, rest)
      | _ => none
    else none

/-- What a logical line holds: nothing, or a variable with its value; malformed lines give no
result. -/
def readLine? (v : Variables) (line : List Char) : Option (Option (String × String)) :=
  match skipWhite line with
  | [] => some none
  | '#' :: _ => some none
  | cs => do
    let (name, rest) ← readTarget? cs
    let value ← match skipWhite rest with
      | [] => some []
      | '#' :: _ => some []
      | rest => readValue? v rest
    return some (String.ofList name, String.ofList value)

/-- Take over the variables of logical lines, up to the first malformed one. -/
def extendFrom (v : Variables) : List (Option (List Char)) → Keyed String
  | [] => v.environment
  | none :: _ => v.environment
  | some line :: rest =>
    match readLine? v line with
    | none => v.environment
    | some none => extendFrom v rest
    | some (some (name, value)) =>
      extendFrom
        { environment :=
            if Keyed.contains name v.environment then v.environment
            else Keyed.insert name value v.environment
          file := Keyed.insert name value v.file } rest

/-- An environment with the variables of a file; those it has already stay. -/
def extend (environment : Keyed String) (text : String) : Keyed String :=
  extendFrom { environment } (lines text)

end Dialogue.EnvironmentFile
