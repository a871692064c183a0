import Dialogue.Conversation.Session
/-!
# Chats on a terminal

A chat is a session whose events are printed as they come: what the conversation says as plain
lines, and faults as marked lines for diagnosis.

## Main definitions

- `Console.Print` — a text for the terminal
- `Console.Chat`, `Chat.start`, `Chat.answer`, `Chat.finish`
- `Chat.play` — a whole chat, its lines known beforehand
- `Chat.request`, `Chat.comeTo`, `Chat.reply?` — the same calls for a user who takes time
-/

namespace Dialogue.Console

/-- A text for the terminal. -/
inductive Print where
  /-- A text of the conversation; it may be marked with the time. -/
  | said (text : String) (timestamp : Bool)
  /-- A line of a report. -/
  | shown (text : String)
  /-- A line for diagnosis. -/
  | warned (text : String)
  deriving DecidableEq, Repr, Inhabited

/-- A host without a network. -/
def offline : Host Unit where
  functions := Functions.standard
  send _ world := (.error "network is unavailable", world)

/-- A session on a terminal. -/
structure Chat where
  session : Session Unit
  timestamps : Bool
  /-- How many events have been printed. -/
  printed : Nat := 0

namespace Chat

/-- What an event prints. -/
def printOf (timestamps : Bool) : Event → Option Print
  | .output text => some (.said text timestamps)
  | .fault fault => some (.warned ("! " ++ fault.message))
  | _ => none

/-- Print the events that have come since the last time. -/
def flush (chat : Chat) : List Print × Chat :=
  let events := chat.session.conversation.events
  ((events.toList.drop chat.printed).filterMap (printOf chat.timestamps),
    { chat with printed := events.size })

/-- A chat with a document. -/
def ofDocument (document : Document) (settings : Settings) (store : Store) (timestamps : Bool) :
    Chat :=
  { session := .ofScript (Script.ofDocument document settings offline) store ()
    timestamps }

/-- Start the conversation. -/
def start (chat : Chat) : List Print × Chat :=
  flush { chat with session := chat.session.start.2 }

/-- What a line says that ends the chat. -/
def quitWord : String := "/quit"

/-- What is said of a line that comes at the wrong time. -/
def busyText : String := "(busy, input ignored)"

/-- A line as the conversation gets it: without the blanks at its end. -/
def lineText (line : String) : String := String.ofList (trimEnd line.toList)

/-- Answer with a line. -/
def answer (chat : Chat) (text : String) : List Print × Chat :=
  match chat.session.input text with
  | (.ok _, session) => flush { chat with session }
  | (.error _, session) => ([.warned busyText], { chat with session })

/-- Make a call that is answered as time passes. -/
def request (chat : Chat) (call : Call.Background) : Chat :=
  { chat with session := chat.session.inBackground call }

/-- Let time pass until the clock shows that many milliseconds. -/
def comeTo (chat : Chat) (clock : Nat) : List Print × Chat :=
  flush { chat with session := chat.session.sleep (clock - chat.session.clock) }

/-- Whether a call has not been answered yet. -/
def isPending (chat : Chat) : Bool := chat.session.joined < chat.session.calls.size

/-- What is printed on the reply to the oldest call, once the reply is there. -/
def reply? (chat : Chat) : Option (List Print × Chat) :=
  match chat.session.callResult? chat.session.joined with
  | none => none
  | some result =>
    let prints := match result with
      | .ok _ => []
      | .error _ => [.warned busyText]
    some (prints, { chat with session := chat.session.join.2 })

/-- When the conversation goes on by itself, if it does. -/
def alarm? (chat : Chat) : Option Nat := chat.session.conversation.alarm?

/-- End the chat. -/
def finish (chat : Chat) : List Print × Chat :=
  flush { chat with session := chat.session.stop }

/-- Answer with lines, up to the last one or the one that ends the chat. -/
def answerAll (chat : Chat) : List String → List Print × Chat
  | [] => ([], chat)
  | line :: rest =>
    let text := lineText line
    if text = quitWord then ([], chat)
    else
      let (first, chat) := chat.answer text
      let (others, chat) := chat.answerAll rest
      (first ++ others, chat)

/-- A whole chat, its lines known beforehand. -/
def play (chat : Chat) (lines : List String) : List Print :=
  let (opening, chat) := chat.start
  let (middle, chat) := chat.answerAll lines
  opening ++ middle ++ chat.finish.1

end Chat

end Dialogue.Console
