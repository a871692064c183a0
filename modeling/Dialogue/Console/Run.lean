import Dialogue.Console.Arguments
import Dialogue.Console.Chat
import Dialogue.Document.Lint
import Dialogue.Document.Reader
import Dialogue.Layer.Configuration
import Dialogue.Layer.EnvironmentFile
/-!
# The command line

The command line reads its settings first, so that what is wrong with them is said first, and then
does what it is asked for: it talks to a document, checks one, or lists the rules.

## Main definitions

- `Console.Failure`, `Console.Job`
- `Console.prepare` — what an invocation comes down to
- `Console.run` — a whole run, with the lines of the user known beforehand
-/

namespace Dialogue.Console

/-- Why the command line gives up. -/
inductive Failure where
  | usage
  | configuration (fault : ConfigurationFault)
  | document (path : String)
  | ownVariables
  | sharedVariables
  /-- A check has found something. -/
  | issues (path : String) (errors warnings : Nat)
  deriving DecidableEq, Repr, Inhabited

/-- The wording of a failure. -/
def Failure.message : Failure → String
  | .usage => "usage"
  | .configuration fault => fault.message
  | .document path => "Failed to load flow " ++ path
  | .ownVariables => "Invalid --storage JSON"
  | .sharedVariables => "Invalid --global JSON"
  | .issues path errors warnings =>
    path ++ ": " ++ toString errors ++ " error(s), " ++ toString warnings ++ " warning(s)"

/-- The exit code of a failure. -/
def Failure.code : Failure → Nat
  | .usage => 2
  | _ => 1

/-- What an invocation comes down to. -/
inductive Job where
  /-- Print some lines, and perhaps give up after them. -/
  | report (prints : List Print) (failure : Option Failure)
  | chat (chat : Chat)

/-- A text followed by blanks up to a width. -/
def padRight (width : Nat) (s : String) : String :=
  s ++ String.ofList (List.replicate (width - s.length) ' ')

/-- The lines that list the rules. -/
def ruleLines : List Print :=
  Lint.Rule.all.map fun rule => .shown ("  " ++ padRight 18 rule.name ++ " " ++ rule.description)

/-- Check a document. -/
def check (path : String) (strict : Bool) (document : Document) : Job :=
  let issues := document.issues
  let errors := (issues.filter (·.severity == .error)).length
  let warnings := issues.length - errors
  let lines := issues.map fun issue => Print.shown ("  " ++ issue.line)
  if 0 < errors ∨ (strict ∧ 0 < warnings) then
    .report lines (some (.issues path errors warnings))
  else
    .report (lines ++ [.shown ("✓ " ++ path ++ ": " ++ toString document.pages.length ++
      " page(s), " ++ toString warnings ++ " warning(s)")]) none

/-- Read a value that may be left out. -/
def readValue (failure : Failure) (text : Option String) : Except Failure (Option Json) :=
  match text with
  | none => .ok none
  | some text =>
    match Json.parse? text with
    | some value => .ok (some value)
    | none => .error failure

/-- The variables that a chat begins with. -/
def initialStore (own shared : Option String) : Except Failure Store := do
  let own ← readValue .ownVariables own
  let shared ← readValue .sharedVariables shared
  return ⟨own.getD (.object []), shared⟩

/-- The document in a text that may be missing. -/
def readDocument (path : String) (source : Option String) : Except Failure Document :=
  match source.map Document.parse with
  | some (.ok document) => .ok document
  | _ => .error (.document path)

/-- The chat with a document whose text may be missing. -/
def openChat (path : String) (source own shared : Option String) (timestamps : Bool)
    (settings : Settings) : Except Failure Job := do
  let document ← readDocument path source
  let store ← initialStore own shared
  return .chat (.ofDocument document settings store timestamps)

/-- The file of variables. -/
def environmentFile : String := ".env"

section

variable {m : Type → Type} [Monad m]

/-- What a command comes down to, its settings given. -/
def prepareCommand (read : String → m (Option String)) (settings : Settings)
    (command : Command) : m (Except Failure Job) := do
  match command with
  | .rules => return .ok (.report ruleLines none)
  | .check flow strict => return (readDocument flow (← read flow)).map (check flow strict)
  | .run flow own shared timestamps =>
    let source ← read flow
    return openChat flow source own shared timestamps settings

/-- What arguments come down to, given how files are read and the environment. -/
def prepare (read : String → m (Option String)) (environment : Keyed String)
    (args : List String) : m (Except Failure Job) := do
  match Invocation.parse? args with
  | none => return .error .usage
  | some invocation =>
    let environment := match ← read environmentFile with
      | some text => EnvironmentFile.extend environment text
      | none => environment
    match ← Configuration.load read environment invocation.settings true with
    | .error fault => return .error (.configuration fault)
    | .ok configuration => prepareCommand read configuration.engine invocation.command

/-- A whole run: what is printed, and why it gave up if it did. -/
def run (read : String → m (Option String)) (environment : Keyed String) (args : List String)
    (lines : List String) : m (List Print × Option Failure) := do
  match ← prepare read environment args with
  | .error failure => return ([], some failure)
  | .ok (.report prints failure) => return (prints, failure)
  | .ok (.chat chat) => return (chat.play lines, none)

end

end Dialogue.Console
