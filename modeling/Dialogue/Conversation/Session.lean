import Dialogue.Conversation.Call
/-!
# Sessions

A session is a conversation with a clock and the calls that its host has made in the background. A
call that waits lets the conversation and the background calls run in the order in which they came
to be ready, and moves the clock ahead when nothing is ready, until the conversation has handed
control back.

## Main definitions

- `Session` — a conversation, its clock and its background calls
- `Session.start`, `Session.input`, `Session.pause`, `Session.stop`, `Session.sleep`,
  `Session.join` — calls that wait
- `Session.post`, `Session.inBackground` — calls that do not
-/

namespace Dialogue

/-- A call that a host can make in the background. -/
inductive Call.Background where
  | start
  | input (text : String)
  deriving DecidableEq, Repr, Inhabited

/-- How far a background call has come. -/
inductive CallState where
  | waiting (call : Call.Background)
  /-- The call is over when control has been handed back more often than this. -/
  | running (seen : Nat)
  | refused (fault : CallFault)
  deriving DecidableEq, Repr, Inhabited

/-- Something that is ready to run: the loop of the conversation, or a background call. -/
inductive Ready where
  | loop
  | call (number : Nat)
  deriving DecidableEq, Repr, Inhabited

/-- A conversation, its clock and its background calls. -/
structure Session (σ : Type) where
  script : Script σ
  conversation : Conversation σ
  /-- Milliseconds since the session began. -/
  clock : Nat := 0
  /-- The background calls, in the order they were made. -/
  calls : Array CallState := #[]
  /-- How many background calls have been waited for. -/
  joined : Nat := 0
  ready : List Ready := []

namespace Session

variable {σ : Type}

/-- A session at its beginning. -/
def ofScript (script : Script σ) (store : Store) (world : σ) : Session σ :=
  { script, conversation := .ofScript script store world }

/-- Make the loop ready, unless it is already. -/
def wake (s : Session σ) : Session σ :=
  if s.ready.contains .loop then s else { s with ready := s.ready ++ [.loop] }

/-- Change the conversation. -/
def withConversation (s : Session σ) (c : Conversation σ) : Session σ :=
  { s with conversation := c }

/-- Make a call on the conversation, which its loop then takes up. -/
def call (s : Session σ) (call : Call.Background) : Except CallFault (Session σ) :=
  let result := match call with
    | .start => s.conversation.start
    | .input text => s.conversation.input text
  result.map fun c => (s.withConversation c).wake

/-- Begin a background call. -/
def beginCall (s : Session σ) (number : Nat) : Session σ :=
  match s.calls[number]? with
  | some (.waiting call) =>
    let seen := s.conversation.yields
    match s.call call with
    | .ok s => { s with calls := s.calls.set! number (.running seen) }
    | .error fault => { s with calls := s.calls.set! number (.refused fault) }
  | _ => s

/-- Run what is ready, in order; `fuel` bounds how much. -/
def runReadyFrom : Nat → Session σ → Session σ
  | 0, s => s
  | fuel + 1, s =>
    match s.ready with
    | [] => s
    | .loop :: rest =>
      runReadyFrom fuel
        { s with ready := rest, conversation := s.conversation.settle s.script s.clock }
    | .call number :: rest => runReadyFrom fuel (beginCall { s with ready := rest } number)

/-- Run what is ready, in order. Every background call can make the loop ready once more. -/
def runReady (s : Session σ) : Session σ := runReadyFrom (2 * s.ready.length + 1) s

/-- Let things happen until a condition holds or the clock would have to pass `limit`; `fuel` bounds
how often the clock moves. -/
def runUntil (done : Session σ → Bool) (limit : Option Nat) : Nat → Session σ → Session σ
  | 0, s => s.runReady
  | fuel + 1, s =>
    let s := s.runReady
    if done s then s
    else
      match s.conversation.alarm? with
      | none => s
      | some time =>
        if limit.all (time ≤ ·) then
          runUntil done limit fuel { s with clock := max s.clock time }.wake
        else s

/-- How often the clock may move while a call waits. -/
def patience : Nat := 2 ^ 20

/-- Wait until the conversation has handed control back once more. -/
def awaitYield (s : Session σ) (seen : Nat) : Session σ :=
  runUntil (fun s => seen < s.conversation.yields) none patience s

/-- Make a call and wait until the conversation hands control back. -/
def callAndWait (s : Session σ) (call : Call.Background) : Except CallFault Unit × Session σ :=
  let seen := s.conversation.yields
  match s.call call with
  | .ok s => (.ok (), s.awaitYield seen)
  | .error fault => (.error fault, s)

/-- Start the conversation. -/
def start (s : Session σ) : Except CallFault Unit × Session σ := s.callAndWait .start

/-- Give the conversation an input. -/
def input (s : Session σ) (text : String) : Except CallFault Unit × Session σ :=
  s.callAndWait (.input text)

/-- Give the conversation an input without waiting; ignored unless it waits for one. -/
def post (s : Session σ) (text : String) : Session σ :=
  match s.call (.input text) with
  | .ok s => s
  | .error _ => s

/-- Make a call in the background. -/
def inBackground (s : Session σ) (call : Call.Background) : Session σ :=
  { s with
    calls := s.calls.push (.waiting call)
    ready := s.ready ++ [.call s.calls.size] }

/-- Tell the loop to end, wait until it has, and note that it has. -/
def endLoop (s : Session σ) : Session σ :=
  let running := s.conversation.isRunning
  let s := s.withConversation s.conversation.cancel
  let s := if running then s.wake.runReady else s
  s.withConversation s.conversation.markPaused

/-- Pause the conversation. -/
def pause (s : Session σ) : Session σ := s.endLoop

/-- Pause the conversation and announce that it is over. -/
def stop (s : Session σ) : Session σ :=
  let s := s.endLoop
  s.withConversation (s.conversation.emit .exit)

/-- Wait some milliseconds. -/
def sleep (s : Session σ) (ms : Nat) : Session σ :=
  let target := s.clock + ms
  let s := runUntil (fun _ => false) (some target) (ms + 1) s
  { s with clock := target }.runReady

/-- What a background call has given, if it is over. -/
def callResult? (s : Session σ) (number : Nat) : Option (Except CallFault Unit) :=
  match s.calls[number]? with
  | some (.running seen) => if seen < s.conversation.yields then some (.ok ()) else none
  | some (.refused fault) => some (.error fault)
  | _ => none

/-- Wait for the oldest background call that has not been waited for. -/
def join (s : Session σ) : Option (Except CallFault Unit) × Session σ :=
  let s := runUntil (fun s => (s.callResult? s.joined).isSome) none patience s
  (s.callResult? s.joined, { s with joined := s.joined + 1 })

/-- Move a conversation that is paused. -/
def navigate (s : Session σ) (target : Option Location) : Except CallFault (Session σ) :=
  (s.conversation.navigate s.script target).map s.withConversation

end Session

end Dialogue
