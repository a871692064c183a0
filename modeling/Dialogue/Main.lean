import Dialogue.Console.Run
import Std.Time
/-!
# The program

The program reads files, the environment and the lines of the user, and prints what the command line
has to say. Time on the clock of a chat is the time that really passes.
-/

namespace Dialogue.Console

/-- The text of a file, if it can be read. -/
def fileText (path : String) : IO (Option String) := do
  try
    return some (← IO.FS.readFile path)
  catch _ =>
    return none

/-- The variables of the environment. -/
def systemEnvironment : IO (Keyed String) := do
  let text := (← fileText "/proc/self/environ").getD ""
  return Keyed.ofList ((text.splitOn "\x00").filterMap fun entry =>
    match entry.splitOn "=" with
    | name :: value :: more => some (name, String.intercalate "=" (value :: more))
    | _ => none)

/-- Print one text. -/
def put : Print → IO Unit
  | .said text true => do
    let time ← Std.Time.PlainTime.now
    IO.println ("[" ++ time.format "HH:mm:ss" ++ "] " ++ text)
  | .said text false => IO.println text
  | .shown text => IO.println text
  | .warned text => IO.eprintln text

/-- Read a line in the background. -/
def readLine : IO (Task (Except IO.Error String)) := do
  IO.asTask (← IO.getStdin).getLine Task.Priority.dedicated

/-- How many milliseconds pass between two looks at the clock. -/
def tick : Nat := 10

/-- Sleep until the conversation may go on, but not for long. -/
def nap (chat : Chat) : IO Unit :=
  IO.sleep (min tick ((chat.alarm?.getD (chat.session.clock + tick)) - chat.session.clock)).toUInt32

/-- Let the clock of a chat show the time since `began`, and print what that brings. -/
def keepTime (began : Nat) (chat : Chat) : IO Chat := do
  let (prints, chat) := chat.comeTo ((← IO.monoMsNow) - began)
  prints.forM put
  return chat

/-- Chat with the user, who is writing a line; the clock of the chat showed zero when it `began`. -/
partial def converse (began : Nat) (chat : Chat) (line : Task (Except IO.Error String)) :
    IO Unit := do
  let chat ← keepTime began chat
  if chat.isPending then
    match chat.reply? with
    | some (prints, chat) =>
      prints.forM put
      converse began chat line
    | none =>
      nap chat
      converse began chat line
  else if chat.alarm?.isSome && !(← IO.hasFinished line) then
    nap chat
    converse began chat line
  else
    let text ← IO.ofExcept (← IO.wait line)
    let chat ← keepTime began chat
    if text.isEmpty || Chat.lineText text == Chat.quitWord then
      chat.finish.1.forM put
    else
      converse began (chat.request (.input (Chat.lineText text))) (← readLine)

/-- Say why the program gives up. -/
def giveUp (failure : Failure) : IO UInt32 := do
  IO.eprintln ("Error: " ++ failure.message)
  return failure.code.toUInt32

/-- Do what the arguments ask for. -/
def perform (args : List String) : IO UInt32 := do
  match ← prepare fileText (← systemEnvironment) args with
  | .error failure => giveUp failure
  | .ok (.report prints failure) =>
    prints.forM put
    failure.elim (pure 0) giveUp
  | .ok (.chat chat) =>
    converse (← IO.monoMsNow) (chat.request .start) (← readLine)
    return 0

end Dialogue.Console

/-- The program. -/
def main (args : List String) : IO UInt32 := Dialogue.Console.perform args
