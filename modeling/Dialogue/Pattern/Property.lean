import Dialogue.Pattern.CharSet
import Dialogue.Text.Script
import Dialogue.Text.Emoji
/-!
# Named properties in patterns

The names under which patterns refer to general categories, scripts and other properties. Case,
blanks, dashes, underscores and a leading `is` do not matter.

## Main definitions

- `looseName` — a name with what does not matter left out
- `CharSet.ofProperty?`, `CharSet.ofPropertyValue?` — the set that a name, or a property and a value
  of it, stand for
-/

namespace Dialogue.Pattern

open Category

/-- A name in lower case without blanks, dashes, underscores and a leading `is`; what is not ASCII
is dropped. -/
def looseName (cs : List Char) : String :=
  let (hadIs, body) := match cs with
    | a :: b :: rest => if a.toLower = 'i' ∧ b.toLower = 's' then (true, rest) else (false, cs)
    | cs => (false, cs)
  let kept := (body.filter fun c => c.toNat < 128 && c != ' ' && c != '-' && c != '_').map Char.toLower
  if hadIs && kept == ['c'] then "isc" else String.ofList kept

namespace CharSet

/-- The union of some tables. -/
def tables (ts : List RangeTable) : CharSet := unions (ts.map .table)

/-- Upper-case, lower-case and title-case letters. -/
def casedLetter : List RangeTable := [uppercaseLetter, lowercaseLetter, titlecaseLetter]

/-- Letters of any kind. -/
def letter : List RangeTable := casedLetter ++ [modifierLetter, otherLetter]

/-- Marks of any kind. -/
def mark : List RangeTable := [nonspacingMark, spacingMark, enclosingMark]

/-- Numbers of any kind. -/
def numeral : List RangeTable := [decimalNumber, letterNumber, otherNumber]

/-- Punctuation of any kind. -/
def punctuation : List RangeTable :=
  [connectorPunctuation, dashPunctuation, openPunctuation, closePunctuation, initialPunctuation,
    finalPunctuation, otherPunctuation]

/-- Symbols of any kind. -/
def symbol : List RangeTable := [mathSymbol, currencySymbol, modifierSymbol, otherSymbol]

/-- Separators of any kind. -/
def separator : List RangeTable := [spaceSeparator, lineSeparator, paragraphSeparator]

/-- Every assigned code point. -/
def assigned : List RangeTable :=
  letter ++ mark ++ numeral ++ punctuation ++ symbol ++ separator ++ [control, format, privateUse]

/-- The names of the general categories and of their unions. -/
def categories : List (List String × CharSet) := [
  (["any"], .range 0 0x10FFFF),
  (["ascii"], .range 0 0x7F),
  (["assigned"], tables assigned),
  (["l", "letter"], tables letter),
  (["lc", "casedletter"], tables casedLetter),
  (["lu", "uppercaseletter"], .table uppercaseLetter),
  (["ll", "lowercaseletter"], .table lowercaseLetter),
  (["lt", "titlecaseletter"], .table titlecaseLetter),
  (["lm", "modifierletter"], .table modifierLetter),
  (["lo", "otherletter"], .table otherLetter),
  (["m", "mark", "combiningmark"], tables mark),
  (["mn", "nonspacingmark"], .table nonspacingMark),
  (["mc", "spacingmark"], .table spacingMark),
  (["me", "enclosingmark"], .table enclosingMark),
  (["n", "number"], tables numeral),
  (["nd", "decimalnumber", "digit"], .table decimalNumber),
  (["nl", "letternumber"], .table letterNumber),
  (["no", "othernumber"], .table otherNumber),
  (["p", "punctuation", "punct"], tables punctuation),
  (["pc", "connectorpunctuation"], .table connectorPunctuation),
  (["pd", "dashpunctuation"], .table dashPunctuation),
  (["ps", "openpunctuation"], .table openPunctuation),
  (["pe", "closepunctuation"], .table closePunctuation),
  (["pi", "initialpunctuation"], .table initialPunctuation),
  (["pf", "finalpunctuation"], .table finalPunctuation),
  (["po", "otherpunctuation"], .table otherPunctuation),
  (["s", "symbol"], tables symbol),
  (["sm", "mathsymbol"], .table mathSymbol),
  (["sc", "currencysymbol"], .table currencySymbol),
  (["sk", "modifiersymbol"], .table modifierSymbol),
  (["so", "othersymbol"], .table otherSymbol),
  (["z", "separator"], tables separator),
  (["zs", "spaceseparator"], .table spaceSeparator),
  (["zl", "lineseparator"], .table lineSeparator),
  (["zp", "paragraphseparator"], .table paragraphSeparator),
  (["c", "other"],
    .union (tables [control, format, privateUse]) (.compl (tables assigned))),
  (["cc", "control", "cntrl"], .table control),
  (["cf", "format"], .table format),
  (["cs", "surrogate"], .none),
  (["co", "privateuse"], .table privateUse),
  (["cn", "unassigned"], .compl (tables assigned))]

/-- Upper-case characters. -/
def uppercase : CharSet := tables [uppercaseLetter, otherUppercase]

/-- Lower-case characters. -/
def lowercase : CharSet := tables [lowercaseLetter, otherLowercase]

/-- Characters with case. -/
def cased : CharSet := unions [uppercase, lowercase, .table titlecaseLetter]

/-- The names of the other properties. -/
def properties : List (List String × CharSet) := [
  (["alphabetic", "alpha"],
    .union cased (tables [modifierLetter, otherLetter, letterNumber, otherAlphabetic])),
  (["uppercase", "upper"], uppercase),
  (["lowercase", "lower"], lowercase),
  (["cased"], cased),
  (["caseignorable", "ci"],
    tables [nonspacingMark, enclosingMark, format, modifierLetter, modifierSymbol,
      otherCaseIgnorable]),
  (["whitespace", "wspace", "space"], .white),
  (["joincontrol", "joinc"], .table joinControl),
  (["asciihexdigit", "ahex"], unions [.range 0x30 0x39, .range 0x41 0x46, .range 0x61 0x66]),
  (["hexdigit", "hex"],
    unions [.range 0x30 0x39, .range 0x41 0x46, .range 0x61 0x66, .range 0xFF10 0xFF19,
      .range 0xFF21 0xFF26, .range 0xFF41 0xFF46]),
  (["emoji"], .table Emoji.emoji),
  (["emojipresentation", "epres"], .table Emoji.emojiPresentation),
  (["extendedpictographic", "extpict"], .table Emoji.extendedPictographic)]

/-- The entry of a list that has the name. -/
def lookup? {α : Type} (name : String) (entries : List (List String × α)) : Option α :=
  (entries.find? (·.1.contains name)).map (·.2)

/-- The set of the script with a name. -/
def ofScript? (name : String) : Option CharSet := (lookup? name Script.all).map .table

/-- The set that a single name stands for: a property, a general category or a script. -/
def ofProperty? (name : List Char) : Option CharSet :=
  let name := looseName name
  (lookup? name properties).or ((lookup? name categories).or (ofScript? name))

/-- The set of the characters for which a property has a value. -/
def ofPropertyValue? (property value : List Char) : Option CharSet :=
  match looseName property with
  | "gc" | "generalcategory" => lookup? (looseName value) categories
  | "sc" | "script" | "scx" | "scriptextensions" => ofScript? (looseName value)
  | _ => Option.none

end CharSet

end Dialogue.Pattern
