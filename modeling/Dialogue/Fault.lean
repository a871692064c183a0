import Dialogue.Location
import Dialogue.Number.Shortest
import Dialogue.Pattern.Reader
/-!
# Faults

What can go wrong while a conversation runs. A fault is reported and the conversation goes on.

## Main definitions

- `Fault`, `Fault.message`, `Fault.location?`
-/

namespace Dialogue

/-- A fault of a running conversation. -/
inductive Fault where
  /-- The target is no step of the document. -/
  | navigation (source : Option Location) (target : String)
  /-- A directive lacks a field that it cannot work without. -/
  | missingProperty (property : String) (location : Location)
  /-- The text is no location. -/
  | invalidLocation (text : String)
  /-- The pattern of a text input is no pattern. -/
  | invalidPattern (pattern : String) (location : Location) (defect : Pattern.Defect)
  | functionNotFound (name : String) (location : Location)
  | functionFailed (name : String) (location : Location) (reason : String)
  /-- A request without a body, by its method, has one. -/
  | getWithBody (location : Location)
  | requestFailed (url : String) (location : Location) (reason : String)
  /-- The delay is longer than can be waited. -/
  | invalidDelay (seconds : Binary64) (location : Location)
  /-- Too many steps in a row ran without waiting for the user. -/
  | freefall (limit : Nat) (location : Option Location)
  deriving DecidableEq, Repr, Inhabited

namespace Fault

/-- The text of a location that may be missing. -/
def locationText (location : Option Location) : String :=
  (location.map Location.text).getD "<none>"

/-- The wording of a fault, without what is wrong inside a pattern. -/
def summary : Fault → String
  | navigation source target =>
    "cannot navigate from '" ++ locationText source ++ "' to '" ++ target ++ "'"
  | missingProperty property location =>
    "missing property '" ++ property ++ "' at " ++ location.text
  | invalidLocation text => "invalid location '" ++ text ++ "'"
  | invalidPattern pattern location _ =>
    "invalid input pattern '" ++ pattern ++ "' at " ++ location.text
  | functionNotFound name location =>
    "function '" ++ name ++ "' not found (at " ++ location.text ++ ")"
  | functionFailed name location reason =>
    "function '" ++ name ++ "' failed at " ++ location.text ++ ": " ++ reason
  | getWithBody location =>
    "GET request with a body at " ++ location.text ++ "; use POST to send a body"
  | requestFailed url location reason =>
    "request to '" ++ url ++ "' failed at " ++ location.text ++ ": " ++ reason
  | invalidDelay seconds location =>
    "delay of " ++ seconds.plainText ++ " seconds at " ++ location.text ++ " is out of range"
  | freefall limit location =>
    "freefall: " ++ toString limit ++ " consecutive steps without input (last at " ++
      locationText location ++ ")"

/-- The wording of a fault. -/
def message (fault : Fault) : String :=
  match fault with
  | invalidPattern _ _ defect => fault.summary ++ ": " ++ defect.message
  | _ => fault.summary

/-- The location that a fault refers to. -/
def location? : Fault → Option Location
  | navigation source _ => source
  | freefall _ location => location
  | invalidLocation _ => none
  | missingProperty _ location => some location
  | invalidPattern _ location _ => some location
  | functionNotFound _ location => some location
  | functionFailed _ location _ => some location
  | getWithBody location => some location
  | requestFailed _ location _ => some location
  | invalidDelay _ location => some location

end Fault

/-- The location that a text denotes, or the fault that it is none. -/
def Location.read (s : String) : Except Fault Location :=
  match Location.parse? s with
  | some location => .ok location
  | none => .error (.invalidLocation s)

end Dialogue
