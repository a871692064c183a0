import Dialogue.Document.Basic
import Dialogue.Json.Printer
import Dialogue.Step.Codec
/-!
# Reading documents

A document is an object with the members `pages`, `triggers` and `settings`, or an object in which
every name is a page id. A page is a row of steps or a single step. Inside a page object, a member
whose name starts with a slash is a child page, whose id is the id of the page followed by that name.

## Main definitions

- `LoadFault`, `LoadFault.message?`
- `Document.ofJson`, `Document.parse` — the document that a value or a text denotes
- `Document.toJson` — the canonical form
-/

namespace Dialogue

/-- Why a value or a text is no document. -/
inductive LoadFault where
  /-- The text is no JSON, or the triggers or settings are malformed. -/
  | malformed
  | missingPages
  | badPageId (id : String)
  /-- A page is malformed; if it is neither an object nor an array, it comes along. -/
  | badPage (id : String) (got : Option Json)
  deriving BEq, Repr, Inhabited

/-- The wording of a fault that has one of its own. -/
def LoadFault.message? : LoadFault → Option String
  | .malformed => none
  | .missingPages => some "flow document must be an object with a 'pages' object"
  | .badPageId id => some ("page id '" ++ id ++ "' must start with '/'")
  | .badPage _ none => none
  | .badPage id (some got) =>
    some ("page '" ++ id ++ "' is invalid: expected a step or a list of steps, got " ++ got.compact)

namespace DocumentSettings

/-- The names of the fields of the settings. -/
def fields : List (List String) :=
  [["caseSensitiveTrigger", "caseSensitiveTriggers"], ["idleAfterSeconds", "timeThresholdForIdle"]]

/-- The settings that a value denotes. -/
def ofJson? (j : Json) : Option DocumentSettings := do
  match ← Record.slots? fields j with
  | [caseSensitive, idleAfter] =>
    return {
      caseSensitiveTrigger := ← Record.optional Json.bool? caseSensitive
      idleAfterSeconds := ← Record.optional Json.real? idleAfter }
  | _ => none

/-- The canonical form of the settings. -/
def toJson (s : DocumentSettings) : Json := .record [
  ("caseSensitiveTrigger", s.caseSensitiveTrigger.map .bool),
  ("idleAfterSeconds", s.idleAfterSeconds.map .real)]

end DocumentSettings

namespace Document

/-- Whether a name starts with a slash, as page ids do. -/
def isPageId (name : String) : Bool := name.toList.head? == some '/'

/-- A page without its child pages. -/
def ownContent : Json → Json
  | .object fields => .object (fields.filter fun (key, _) => !isPageId key)
  | page => page

mutual

/-- The pages inside a page, each after the pages inside itself. -/
def childPages (id : String) : Json → List (String × Json)
  | .object fields => memberPages id fields
  | .null => []
  | .bool _ => []
  | .number _ => []
  | .text _ => []
  | .array _ => []

/-- The pages among the members of a page and inside them. -/
def memberPages (id : String) : List (String × Json) → List (String × Json)
  | [] => []
  | (key, child) :: rest =>
    (if isPageId key then childPages (id ++ key) child ++ [(id ++ key, ownContent child)] else []) ++
      memberPages id rest

end

/-- All pages of a page map, each after the pages inside it. -/
def flatten (pages : Keyed Json) : Except LoadFault (List (String × Json)) := do
  match pages.find? fun (id, _) => !isPageId id with
  | some (id, _) => throw (.badPageId id)
  | none => return pages.flatMap fun (id, page) => childPages id page ++ [(id, ownContent page)]

/-- The steps of a page. -/
def readPage (id : String) (page : Json) : Except LoadFault (List Step) :=
  let steps? : Option (List Step) := match page with
    | .array _ => page.items? Step.ofJson?
    | _ => (Step.ofJson? page).map ([·])
  match page, steps? with
  | .array _, some steps | .object _, some steps => .ok steps
  | .array _, none | .object _, none => .error (.badPage id none)
  | other, _ => .error (.badPage id (some other))

/-- The page map of a document, and the members that may hold triggers and settings. -/
def pageMap (fields : Keyed Json) : Except LoadFault (Keyed Json × Keyed Json) :=
  match Keyed.get? "pages" fields with
  | some (.object pages) => .ok (pages, fields)
  | some _ => .error .missingPages
  | none =>
    if !fields.isEmpty && fields.all (isPageId ·.1) then .ok (fields, [])
    else .error .missingPages

/-- Read a member that may be missing. -/
def readMember {α : Type} (default : α) (read : Json → Option α) (key : String)
    (fields : Keyed Json) : Except LoadFault α :=
  match Record.defaulted default read (Keyed.get? key fields) with
  | some value => .ok value
  | none => .error .malformed

/-- The document that a value denotes. Of two pages with one id the later wins. -/
def ofJson (j : Json) : Except LoadFault Document :=
  match j with
  | .object fields => do
    let (pages, rest) ← pageMap fields
    let pages ← (← flatten pages).mapM fun (id, page) => return (id, ← readPage id page)
    let triggers ← readMember [] (Json.keyed? Json.text?) "triggers" rest
    let settings ← readMember {} DocumentSettings.ofJson? "settings" rest
    return { pages := Keyed.ofList pages, triggers, settings }
  | _ => .error .missingPages

/-- The document that a text denotes. -/
def parse (source : String) : Except LoadFault Document :=
  match Json.parse? source with
  | some j => ofJson j
  | none => .error .malformed

/-- The canonical form of a document. -/
def toJson (document : Document) : Json := .record [
  ("pages", some (.object (document.pages.map fun (id, steps) =>
    (id, .array (steps.map Step.toJson))))),
  ("triggers", if document.hasTriggers then some (.texts document.triggers) else none),
  ("settings", some document.settings.toJson)]

end Document

end Dialogue
