import Dialogue.Number.Binary64
import Dialogue.Pattern.Property
import Dialogue.Pattern.Regex
/-!
# Reading patterns

The pattern language: alternatives, groups, repetitions, classes with set operations, escapes,
assertions and flags. Look-around and back-references are refused, a brace must open a repetition,
and an escaped letter or non-ASCII character must have a meaning.

## Main definitions

- `Defect` — why a text is no pattern
- `Regex.parse` — the expression that a text denotes
-/

namespace Dialogue.Pattern

/-- Why a text is no pattern. -/
inductive Defect where
  | backreference
  | badEscape
  | badHexadecimal
  | endsInEscape
  | lookAround
  | nothingToRepeat
  | badCount
  | countOrder
  | unclosedClass
  | badClassItem
  | badRange
  | unopenedGroup
  | unclosedGroup
  | badGroupName
  | repeatedGroupName
  | badFlag
  | repeatedFlag
  | unknownProperty
  | badBoundary
  | notAscii
  | tooDeep
  | tooLarge
  deriving DecidableEq, Repr, Inhabited

/-- A short text that says why. -/
def Defect.message : Defect → String
  | .backreference => "back-references are not supported"
  | .badEscape => "unrecognized escape sequence"
  | .badHexadecimal => "invalid hexadecimal escape"
  | .endsInEscape => "pattern ends inside an escape sequence"
  | .lookAround => "look-around is not supported"
  | .nothingToRepeat => "repetition operator has nothing to repeat"
  | .badCount => "invalid repetition count"
  | .countOrder => "repetition counts are out of order"
  | .unclosedClass => "unclosed character class"
  | .badClassItem => "invalid item in a character class"
  | .badRange => "invalid range in a character class"
  | .unopenedGroup => "unopened group"
  | .unclosedGroup => "unclosed group"
  | .badGroupName => "invalid group name"
  | .repeatedGroupName => "repeated group name"
  | .badFlag => "invalid flags"
  | .repeatedFlag => "repeated flag"
  | .unknownProperty => "unknown property"
  | .badBoundary => "invalid word boundary assertion"
  | .notAscii => "only ASCII is allowed here"
  | .tooDeep => "too much nesting"
  | .tooLarge => "pattern is too large"

/-- The flags in force at a place in a pattern. -/
structure Flags where
  ignoreCase : Bool := false
  multiLine : Bool := false
  dotAll : Bool := false
  crlf : Bool := false
  verbose : Bool := false
  ascii : Bool := false
  deriving DecidableEq, Repr, Inhabited

namespace Flags

/-- Switch the flag with a letter on or off. -/
def set? (flags : Flags) (on : Bool) : Char → Option Flags
  | 'i' => some { flags with ignoreCase := on }
  | 'm' => some { flags with multiLine := on }
  | 's' => some { flags with dotAll := on }
  | 'U' => some flags
  | 'u' => some { flags with ascii := !on }
  | 'R' => some { flags with crlf := on }
  | 'x' => some { flags with verbose := on }
  | _ => none

/-- Drop blanks and comments, given whether the text starts inside a comment. -/
def dropVerbose : Bool → List Char → List Char
  | _, [] => []
  | true, c :: rest => dropVerbose (c != '\n') rest
  | false, c :: rest =>
    if c = '#' then dropVerbose true rest
    else if isWhite c then dropVerbose false rest
    else c :: rest

/-- Drop what a verbose pattern may hold between its parts. -/
def skip (flags : Flags) (cs : List Char) : List Char :=
  if flags.verbose then dropVerbose false cs else cs

/-- Close a set under case variants when case is ignored. -/
def fold (flags : Flags) (s : CharSet) : CharSet :=
  if !flags.ignoreCase then s else if flags.ascii then .foldAscii s else .fold s

/-- The set of a character. -/
def single (flags : Flags) (c : Char) : CharSet := flags.fold (CharSet.single c)

/-- Whether a set holds none of the 128 code points above ASCII. -/
def isAscii (s : CharSet) : Bool := (List.range 128).all fun n => !s.mem (Char.ofNat (128 + n))

end Flags

/-- What an escape stands for: a character, written as two hexadecimal digits or not; a set; or an
assertion. -/
inductive Escape where
  | char (c : Char) (byte : Bool)
  | set (s : CharSet)
  | look (a : Assertion)

/-- The characters with a meaning of their own in patterns. -/
def isMeta (c : Char) : Bool :=
  ['\\', '.', '+', '*', '?', '(', ')', '|', '[', ']', '\x7b', '\x7d', '^', '$', '#', '&', '-',
    '~'].contains c

/-- Whether a backslash before the character gives the character itself. -/
def isPlainEscape (c : Char) : Bool :=
  isMeta c || c.toNat < 128 && !c.isAlphanum && c != '<' && c != '>'

/-- The value of a hexadecimal digit. -/
def hexDigit? (c : Char) : Option Nat :=
  if c.isDigit then some (c.toNat - '0'.toNat)
  else if 'a' ≤ c ∧ c ≤ 'f' then some (c.toNat - 'a'.toNat + 10)
  else if 'A' ≤ c ∧ c ≤ 'F' then some (c.toNat - 'A'.toNat + 10)
  else none

/-- The character with a code point. -/
def scalar? (n : Nat) : Except Defect Char :=
  if n.isValidChar then .ok (Char.ofNat n) else .error .badHexadecimal

/-- Read a fixed number of hexadecimal digits. -/
def readHexDigits (flags : Flags) : Nat → Nat → List Char → Except Defect (Char × List Char)
  | 0, value, cs => return (← scalar? value, cs)
  | count + 1, value, cs =>
    match flags.skip cs with
    | [] => .error .endsInEscape
    | c :: rest =>
      match hexDigit? c with
      | some d => readHexDigits flags count (16 * value + d) rest
      | none => .error .badHexadecimal

/-- Read hexadecimal digits up to a closing brace; `value?` is their value so far, if there are
any. -/
def readHexBraces (flags : Flags) (value? : Option Nat) :
    List Char → Except Defect (Char × List Char)
  | [] => .error .endsInEscape
  | c :: rest =>
    if c = '\x7d' then
      match value? with
      | some value => do return (← scalar? value, rest)
      | none => .error .badHexadecimal
    else if flags.verbose && isWhite c then readHexBraces flags value? rest
    else
      match hexDigit? c with
      | some d => readHexBraces flags (some (16 * value?.getD 0 + d)) rest
      | none => .error .badHexadecimal

/-- Read a hexadecimal escape after its letter. -/
def readHex (flags : Flags) (digits : Nat) (cs : List Char) : Except Defect (Char × List Char) :=
  match flags.skip cs with
  | [] => .error .endsInEscape
  | '\x7b' :: rest => readHexBraces flags none rest
  | cs => readHexDigits flags digits 0 cs

/-- Split a text at the first occurrence of another. -/
def splitAt? (separator : List Char) : List Char → Option (List Char × List Char)
  | [] => none
  | c :: rest =>
    if separator.isPrefixOf (c :: rest) then some ([], (c :: rest).drop separator.length)
    else (splitAt? separator rest).map fun (a, b) => (c :: a, b)

/-- The set of a property in braces: a name, or a property and a value. -/
def propertySet? (name : List Char) : Option CharSet :=
  match splitAt? ['!', '='] name with
  | some (property, value) => (CharSet.ofPropertyValue? property value).map .compl
  | none =>
    match splitAt? [':'] name with
    | some (property, value) => CharSet.ofPropertyValue? property value
    | none =>
      match splitAt? ['='] name with
      | some (property, value) => CharSet.ofPropertyValue? property value
      | none => CharSet.ofProperty? name

/-- Read a property after its letter. -/
def readProperty (flags : Flags) (negated : Bool) (cs : List Char) :
    Except Defect (Escape × List Char) := do
  let (name, rest) ← match flags.skip cs with
    | [] => throw .endsInEscape
    | '\x7b' :: rest =>
      let name := rest.takeWhile (· != '\x7d')
      match rest.dropWhile (· != '\x7d') with
      | [] => throw .endsInEscape
      | _ :: rest => pure (if flags.verbose then name.filter (!isWhite ·) else name, rest)
    | c :: rest => if c = '\\' then throw .unknownProperty else pure ([c], rest)
  if flags.ascii then throw .notAscii
  match propertySet? name with
  | none => throw .unknownProperty
  | some s =>
    let s := flags.fold s
    return (.set (if negated then .compl s else s), rest)

/-- The set of one of the classes `d`, `s` and `w`; the class of everything else has no ASCII
form. -/
def perlSet (flags : Flags) (negated : Bool) (unicode ascii : CharSet) :
    Except Defect (Escape × List Char → Escape × List Char) :=
  if flags.ascii then
    if negated then .error .notAscii else .ok fun (_, rest) => (.set ascii, rest)
  else .ok fun (_, rest) => (.set (if negated then .compl unicode else unicode), rest)

/-- Read the braces of a word boundary assertion, if a name in braces follows. -/
def readBoundary (flags : Flags) (cs : List Char) : Except Defect (Assertion × List Char) :=
  let plain := Assertion.wordBoundary flags.ascii
  match cs with
  | '\x7b' :: rest =>
    let isNameChar (c : Char) : Bool := c.isAlpha || c == '-'
    match flags.skip rest with
    | [] => .error .badBoundary
    | c :: more =>
      if !isNameChar c then .ok (plain, cs)
      else
        let body := if flags.verbose then (c :: more).filter (!isWhite ·) else c :: more
        let name := String.ofList (body.takeWhile isNameChar)
        match body.dropWhile isNameChar, name with
        | '\x7d' :: after, "start" => .ok (.wordStart flags.ascii, after)
        | '\x7d' :: after, "end" => .ok (.wordEnd flags.ascii, after)
        | '\x7d' :: after, "start-half" => .ok (.wordStartHalf flags.ascii, after)
        | '\x7d' :: after, "end-half" => .ok (.wordEndHalf flags.ascii, after)
        | _, _ => .error .badBoundary
  | cs => .ok (plain, cs)

/-- Read an escape after its backslash. -/
def readEscape (flags : Flags) : List Char → Except Defect (Escape × List Char)
  | [] => .error .endsInEscape
  | c :: rest => do
    let plain (d : Char) : Except Defect (Escape × List Char) := .ok (.char d false, rest)
    let look (a : Assertion) : Except Defect (Escape × List Char) := .ok (.look a, rest)
    let perl (negated : Bool) (unicode ascii : CharSet) : Except Defect (Escape × List Char) := do
      return (← perlSet flags negated unicode ascii) (.char c false, rest)
    match c with
    | 'x' => let (d, rest') ← readHex flags 2 rest; return (.char d (rest.head? != some '\x7b'), rest')
    | 'u' => let (d, rest) ← readHex flags 4 rest; return (.char d false, rest)
    | 'U' => let (d, rest) ← readHex flags 8 rest; return (.char d false, rest)
    | 'p' => readProperty flags false rest
    | 'P' => readProperty flags true rest
    | 'd' => perl false .digit (.range 0x30 0x39)
    | 'D' => perl true .digit .none
    | 's' => perl false .white CharSet.asciiWhite
    | 'S' => perl true .white .none
    | 'w' => perl false .word CharSet.asciiWord
    | 'W' => perl true .word .none
    | 'a' => plain (Char.ofNat 7)
    | 'f' => plain (Char.ofNat 12)
    | 't' => plain '\t'
    | 'n' => plain '\n'
    | 'r' => plain '\r'
    | 'v' => plain (Char.ofNat 11)
    | 'A' => look .textStart
    | 'z' => look .textEnd
    | 'b' => let (a, rest) ← readBoundary flags rest; return (.look a, rest)
    | 'B' => look (.notWordBoundary flags.ascii)
    | '<' => look (.wordStart flags.ascii)
    | '>' => look (.wordEnd flags.ascii)
    | c =>
      if c.isDigit then throw .backreference
      else if isPlainEscape c then plain c
      else throw .badEscape

/-- An operation on two sets in a class. -/
inductive SetOp where
  | inter
  | diff
  | symmDiff

/-- Apply an operation; both sides are closed under case variants when case is ignored. -/
def SetOp.apply (flags : Flags) (op : SetOp) (a b : CharSet) : CharSet :=
  let a := flags.fold a
  let b := flags.fold b
  match op with
  | .inter => .inter a b
  | .diff => CharSet.diff a b
  | .symmDiff => CharSet.symmDiff a b

/-- The operation that two equal characters in a class stand for. -/
def setOp? : List Char → Option (SetOp × List Char)
  | '&' :: '&' :: rest => some (.inter, rest)
  | '-' :: '-' :: rest => some (.diff, rest)
  | '~' :: '~' :: rest => some (.symmDiff, rest)
  | _ => none

/-- A set with the depth of its nesting. -/
structure Nested where
  set : CharSet
  height : Nat

/-- The state of a class that is being read: the left side of a pending operation, and the items
since then, last first. -/
structure OpenClass where
  pending : Option (SetOp × Nested)
  items : List Nested

namespace OpenClass

/-- Add an item. -/
def push (k : OpenClass) (item : Nested) : OpenClass := { k with items := item :: k.items }

/-- The items as one set. -/
def union (k : OpenClass) : Nested :=
  match k.items with
  | [] => ⟨.none, 0⟩
  | [item] => item
  | items => ⟨CharSet.unions (items.reverse.map (·.set)), (items.map (·.height)).foldl max 0 + 1⟩

/-- The set so far, the pending operation carried out. -/
def close (k : OpenClass) (flags : Flags) : Nested :=
  match k.pending with
  | none => k.union
  | some (op, left) =>
    let right := k.union
    ⟨op.apply flags left.set right.set, max left.height right.height + 1⟩

end OpenClass

/-- Read the name of an ASCII class in brackets and colons, after its opening bracket. -/
def readNamed? (cs : List Char) : Option (Bool × CharSet × List Char) :=
  match cs with
  | ':' :: rest =>
    let (negated, rest) := match rest with
      | '^' :: rest => (true, rest)
      | rest => (false, rest)
    match rest.dropWhile (· != ':') with
    | ':' :: ']' :: after =>
      (CharSet.named? (String.ofList (rest.takeWhile (· != ':')))).map fun s => (negated, s, after)
    | _ => none
  | _ => none

/-- Read a character or an escape in a class. -/
def readClassPart (flags : Flags) : List Char → Except Defect (Escape × List Char)
  | [] => .error .unclosedClass
  | '\\' :: rest => readEscape flags rest
  | c :: rest => .ok (.char c false, rest)

/-- The set of a part of a class. -/
def partSet (flags : Flags) : Escape → Except Defect CharSet
  | .char c _ => if flags.ascii && 128 ≤ c.toNat then .error .notAscii else .ok (CharSet.single c)
  | .set s => .ok s
  | .look _ => .error .badClassItem

/-- Read a part of a class, or a range between two characters. A dash before the closing bracket or
before another dash makes no range. -/
def readRange (flags : Flags) (cs : List Char) : Except Defect (CharSet × List Char) := do
  let (first, rest) ← readClassPart flags cs
  match flags.skip rest with
  | [] => throw .unclosedClass
  | '-' :: rest' =>
    match flags.skip rest' with
    | [] => throw .unclosedClass
    | ']' :: _ | '-' :: _ => return (← partSet flags first, '-' :: rest')
    | rest' =>
      let (last, rest') ← readClassPart flags rest'
      match first, last with
      | .char a _, .char b _ =>
        let _ ← partSet flags first
        let _ ← partSet flags last
        if a ≤ b then return (.range a.toNat b.toNat, rest') else throw .badRange
      | _, _ => throw .badRange
  | rest => return (← partSet flags first, rest)

/-- Read the dashes at the start of a class. -/
def readDashes (flags : Flags) : Nat → OpenClass → List Char → OpenClass × List Char
  | 0, k, cs => (k, cs)
  | fuel + 1, k, cs =>
    match cs with
    | '-' :: rest => readDashes flags fuel (k.push ⟨CharSet.single '-', 0⟩) (flags.skip rest)
    | cs => (k, cs)

/-- Read the start of a class: dashes, or a closing bracket that stands first and so is a plain
character. -/
def readClassStart (flags : Flags) (cs : List Char) : OpenClass × List Char :=
  match cs with
  | ']' :: rest => (⟨none, [⟨CharSet.single ']', 0⟩]⟩, flags.skip rest)
  | cs => readDashes flags (cs.length + 1) ⟨none, []⟩ cs

mutual

/-- Read a class after its opening bracket. -/
def readClass (flags : Flags) : Nat → List Char → Except Defect (Nested × List Char)
  | 0, _ => .error .unclosedClass
  | fuel + 1, cs => do
    let (negated, cs) := match flags.skip cs with
      | '^' :: rest => (true, flags.skip rest)
      | cs => (false, cs)
    let (k, cs) := readClassStart flags cs
    let (inner, rest) ← readClassItems flags fuel k cs
    let s := flags.fold inner.set
    return (⟨if negated then .compl s else s, inner.height + 1⟩, rest)

/-- Read the items of a class up to its closing bracket. -/
def readClassItems (flags : Flags) :
    Nat → OpenClass → List Char → Except Defect (Nested × List Char)
  | 0, _, _ => .error .unclosedClass
  | fuel + 1, k, cs =>
    match flags.skip cs with
    | [] => .error .unclosedClass
    | '[' :: rest =>
      match readNamed? rest with
      | some (negated, s, after) =>
        if flags.ascii && negated then .error .notAscii
        else
          let s := flags.fold s
          readClassItems flags fuel (k.push ⟨if negated then .compl s else s, 0⟩) after
      | none => do
        let (inner, rest) ← readClass flags fuel rest
        readClassItems flags fuel (k.push inner) rest
    | ']' :: rest => .ok (k.close flags, rest)
    | cs =>
      match setOp? cs with
      | some (op, rest) => readClassItems flags fuel ⟨some (op, k.close flags), []⟩ rest
      | none => do
        let (s, rest) ← readRange flags cs
        readClassItems flags fuel (k.push ⟨s, 0⟩) rest

end

/-- A part of a pattern with the depth of its nesting. Flags that are set for the rest of a group
are a part that cannot be repeated. -/
structure Part where
  regex : Regex
  height : Nat
  repeatable : Bool := true

namespace Part

/-- A part that nests nothing. -/
def leaf (r : Regex) : Part := ⟨r, 0, true⟩

/-- The parts of a sequence, last first, as one. -/
def sequence : List Part → Part
  | [] => leaf .nothing
  | [p] => p
  | ps =>
    ⟨ps.foldl (fun r p => p.regex.followedBy r) .nothing, (ps.map (·.height)).foldl max 0 + 1, true⟩

/-- Alternatives, last first, as one. -/
def choice : List Part → Part
  | [] => leaf .nothing
  | [p] => p
  | p :: ps =>
    ⟨ps.foldl (fun r q => .alt q.regex r) p.regex, ((p :: ps).map (·.height)).foldl max 0 + 1, true⟩

/-- Repeat the last part. -/
def repeatLast (low : Nat) (high : Option Nat) : List Part → Except Defect (List Part)
  | p :: ps =>
    if p.repeatable then
      .ok (⟨Regex.repeated p.regex low high, p.height + 1, true⟩ :: ps)
    else .error .nothingToRepeat
  | [] => .error .nothingToRepeat

end Part

/-- The greatest count of a repetition. -/
def largestCount : Nat := 2 ^ 32 - 1

/-- Read a count with blanks around it. -/
def readCount (flags : Flags) (cs : List Char) : Except Defect (Nat × List Char) :=
  let cs := cs.dropWhile isWhite
  let digits := (if flags.verbose then cs.filter (!isWhite ·) else cs).takeWhile Char.isDigit
  let rest := cs.dropWhile fun c => c.isDigit || flags.verbose && isWhite c
  let n := digits.foldl (fun n c => 10 * n + (c.toNat - '0'.toNat)) 0
  if digits.isEmpty || largestCount < n then .error .badCount
  else .ok (n, rest.dropWhile isWhite)

/-- Read the counts of a repetition after its opening brace. -/
def readCounts (flags : Flags) (cs : List Char) :
    Except Defect (Nat × Option Nat × List Char) := do
  let (low, rest) ← readCount flags (flags.skip cs)
  match rest with
  | '\x7d' :: rest => return (low, some low, rest)
  | ',' :: rest =>
    match flags.skip rest with
    | '\x7d' :: rest => return (low, none, rest)
    | rest =>
      let (high, rest) ← readCount flags rest
      match rest with
      | '\x7d' :: rest => if low ≤ high then return (low, some high, rest) else throw .countOrder
      | _ => throw .badCount
  | _ => throw .badCount

/-- Drop the question mark that makes a repetition lazy: it does not change whether a text
matches. -/
def dropLazy : List Char → List Char
  | '?' :: rest => rest
  | cs => cs

/-- Read flags up to the colon or bracket after them; `seen` holds the letters and the dash so
far, last first. -/
def readFlags (flags : Flags) (seen : List Char) : List Char → Except Defect (Flags × List Char)
  | [] => .error .badFlag
  | c :: rest =>
    if c = ':' ∨ c = ')' then
      if seen.head? = some '-' then .error .badFlag else .ok (flags, c :: rest)
    else if seen.contains c then .error .repeatedFlag
    else if c = '-' then readFlags flags (c :: seen) rest
    else
      match flags.set? (!seen.contains '-') c with
      | some flags => readFlags flags (c :: seen) rest
      | none => .error .badFlag

/-- Whether a character may stand in the name of a group. -/
def isNameChar (first : Bool) (c : Char) : Bool :=
  c == '_' || isAlphabetic c ||
    !first && (c == '.' || c == '[' || c == ']' || isNumeric c)

/-- Read the name of a group up to its closing angle. -/
def readName (cs : List Char) : Except Defect (List Char × List Char) :=
  let name := cs.takeWhile (· != '>')
  match name, cs.dropWhile (· != '>') with
  | first :: others, _ :: rest =>
    if isNameChar true first && others.all (isNameChar false) then .ok (name, rest)
    else .error .badGroupName
  | _, _ => .error .badGroupName

/-- How a group starts: with a name or not, with flags for the group, or with flags for the rest of
the group around it. -/
inductive GroupStart where
  | group (name : Option (List Char)) (flags : Flags)
  | setFlags (flags : Flags)

/-- Read the start of a group after its bracket. -/
def readGroupStart (flags : Flags) (cs : List Char) : Except Defect (GroupStart × List Char) := do
  match flags.skip cs with
  | '?' :: '=' :: _ | '?' :: '!' :: _ | '?' :: '<' :: '=' :: _ | '?' :: '<' :: '!' :: _ =>
    throw .lookAround
  | '?' :: 'P' :: '<' :: rest | '?' :: '<' :: rest =>
    let (name, rest) ← readName rest
    return (.group (some name) flags, rest)
  | ['?'] => throw .unclosedGroup
  | '?' :: ')' :: _ => throw .nothingToRepeat
  | '?' :: rest =>
    let (inner, rest) ← readFlags flags [] rest
    match rest with
    | ':' :: rest => return (.group none inner, rest)
    | rest => return (.setFlags inner, rest.drop 1)
  | rest => return (.group none flags, rest)

/-- Read a single part that is no group, class or repetition. -/
def readLeaf (flags : Flags) : List Char → Except Defect (Regex × List Char)
  | [] => .ok (.nothing, [])
  | '\\' :: rest => do
    let (escape, rest) ← readEscape flags rest
    match escape with
    | .char c byte =>
      if byte && flags.ascii && 128 ≤ c.toNat then throw .notAscii
      return (.one (flags.single c), rest)
    | .set s => return (.one s, rest)
    | .look a => return (.look a, rest)
  | '.' :: rest =>
    if flags.ascii then .error .notAscii
    else if flags.dotAll then .ok (.one (.range 0 0x10FFFF), rest)
    else if flags.crlf then
      .ok (.one (.compl (.union (CharSet.single '\n') (CharSet.single '\r'))), rest)
    else .ok (.one (.compl (CharSet.single '\n')), rest)
  | '^' :: rest => .ok (.look (if flags.multiLine then .lineStart flags.crlf else .textStart), rest)
  | '$' :: rest => .ok (.look (if flags.multiLine then .lineEnd flags.crlf else .textEnd), rest)
  | c :: rest => .ok (.one (flags.single c), rest)

/-- What reading alternatives gives: the part, the group names so far and the rest, which is empty
or starts with a closing bracket. -/
structure Alternatives where
  part : Part
  names : List (List Char)
  rest : List Char

/-- Read alternatives up to a closing bracket or the end. The alternatives read and the parts of the
current one come last first. -/
def readAlternatives : Nat → Flags → List (List Char) → List Part → List Part → List Char →
    Except Defect Alternatives
  | 0, _, _, _, _, _ => .error .tooDeep
  | fuel + 1, flags, names, alts, parts, cs =>
    match flags.skip cs with
    | [] => .ok ⟨Part.choice (Part.sequence parts :: alts), names, []⟩
    | ')' :: rest => .ok ⟨Part.choice (Part.sequence parts :: alts), names, ')' :: rest⟩
    | '|' :: rest => readAlternatives fuel flags names (Part.sequence parts :: alts) [] rest
    | '(' :: rest => do
      let (start, rest) ← readGroupStart flags rest
      match start with
      | .setFlags flags => readAlternatives fuel flags names alts (⟨.nothing, 0, false⟩ :: parts) rest
      | .group name inner =>
        let names ← match name with
          | some name => if names.contains name then throw .repeatedGroupName else pure (name :: names)
          | none => pure names
        let group ← readAlternatives fuel inner names [] [] rest
        match group.rest with
        | ')' :: rest =>
          let part : Part := ⟨group.part.regex, group.part.height + 1, true⟩
          readAlternatives fuel flags group.names alts (part :: parts) rest
        | _ => throw .unclosedGroup
    | '[' :: rest => do
      let (k, rest) ← readClass flags (2 * rest.length + 2) rest
      if flags.ascii && !Flags.isAscii k.set then throw .notAscii
      readAlternatives fuel flags names alts (⟨.one k.set, k.height, true⟩ :: parts) rest
    | '?' :: rest => do
      readAlternatives fuel flags names alts (← Part.repeatLast 0 (some 1) parts) (dropLazy rest)
    | '*' :: rest => do
      readAlternatives fuel flags names alts (← Part.repeatLast 0 none parts) (dropLazy rest)
    | '+' :: rest => do
      readAlternatives fuel flags names alts (← Part.repeatLast 1 none parts) (dropLazy rest)
    | '\x7b' :: rest => do
      let _ ← Part.repeatLast 0 none parts
      let (low, high, rest) ← readCounts flags rest
      readAlternatives fuel flags names alts (← Part.repeatLast low high parts)
        (dropLazy (flags.skip rest))
    | cs => do
      let (r, rest) ← readLeaf flags cs
      readAlternatives fuel flags names alts (Part.leaf r :: parts) rest

/-- How deep the parts of a pattern may nest. -/
def deepestNesting : Nat := 250

/-- How many bytes the automaton of a pattern may take. -/
def largestWeight : Nat := 10 * 2 ^ 20

/-- An estimate of the bytes that the automaton of a set takes. -/
def CharSet.weight : CharSet → Nat
  | .none => 32
  | .range low high => if high < 128 then 32 else if low = high then 128 else 256
  | .table t => 32 + 40 * t.bounds.size
  | .word => 48000
  | .digit => 4000
  | .white => 600
  | .union a b => a.weight + b.weight
  | .inter a b => max a.weight b.weight
  | .compl a => a.weight + 256
  | .fold a => a.weight + 64
  | .foldAscii a => a.weight

/-- An estimate of the bytes that the automaton of an expression takes: repetitions are written out
as often as they have to, or may, be taken. -/
def Regex.weight : Regex → Nat
  | .nothing => 32
  | .one s => s.weight
  | .look _ => 32
  | .seq a b => a.weight + b.weight
  | .alt a b => a.weight + b.weight + 40
  | .times a low none => (max low 1) * a.weight + 40
  | .times a low (some high) => low * a.weight + (high - low) * (a.weight + 40) + 32

/-- The expression that a text denotes. -/
def Regex.parse (pattern : String) : Except Defect Regex := do
  let cs := pattern.toList
  let all ← readAlternatives (cs.length + 1) {} [] [] [] cs
  if !all.rest.isEmpty then throw .unopenedGroup
  if deepestNesting < all.part.height then throw .tooDeep
  if largestWeight < all.part.regex.weight then throw .tooLarge
  return all.part.regex

end Dialogue.Pattern
