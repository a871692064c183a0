import Dialogue.Layer.Value
/-!
# Tables of a TOML document

A document is put together from headers and keys, and no table may be defined twice. A table is
defined by its header, implied by the header of a table inside it, or made by the points in a key;
only the last kind can be extended by points in another key, and only an implied table can get a
header later.

## Main definitions

- `Node`, `Members` — a document while it is put together
- `Members.putDotted` — give a dotted key a value
- `Members.openTable`, `Members.openItem` — begin the table of a header
- `Members.value` — the finished document
-/

namespace Dialogue.Toml

/-- How a table came to be. -/
inductive TableKind where
  | header
  | implied
  | dotted
  deriving DecidableEq, Repr, Inhabited

/-- A value, a table, or an array of tables while a document is put together. -/
inductive Node where
  | value (value : LayerValue)
  | table (kind : TableKind) (members : List (String × Node))
  | tables (items : List (List (String × Node)))
  deriving Repr, Inhabited

/-- The members of a table while a document is put together. -/
abbrev Members := List (String × Node)

namespace Members

/-- Give a dotted key a value, the part before the last point given first. -/
def putDotted (path : List String) (key : String) (value : LayerValue) (members : Members) :
    Option Members :=
  match path with
  | [] =>
    if Keyed.contains key members then none else some (members ++ [(key, .value value)])
  | first :: rest =>
    match Keyed.get? first members with
    | none =>
      (putDotted rest key value []).map fun inner => members ++ [(first, .table .dotted inner)]
    | some (.table .dotted inner) =>
      (putDotted rest key value inner).map fun inner =>
        Keyed.replace first (.table .dotted inner) members
    | some (.table .implied inner) =>
      if rest.isEmpty then none
      else (putDotted rest key value inner).map fun inner =>
        Keyed.replace first (.table .implied inner) members
    | some (.tables items) =>
      if rest.isEmpty then none
      else (putDotted rest key value (items.getLast?.getD [])).map fun last =>
        Keyed.replace first (.tables (items.dropLast ++ [last])) members
    | some (.table .header _) => none
    | some (.value _) => none

/-- Change the table at a path; of an array of tables, the last one. Tables on the way that are
missing are implied. -/
def update (change : Members → Option Members) (path : List String) (members : Members) :
    Option Members :=
  match path with
  | [] => change members
  | first :: rest =>
    match Keyed.get? first members with
    | none => (update change rest []).map fun inner => members ++ [(first, .table .implied inner)]
    | some (.table kind inner) =>
      (update change rest inner).map fun inner =>
        Keyed.replace first (.table kind inner) members
    | some (.tables items) =>
      (update change rest (items.getLast?.getD [])).map fun last =>
        Keyed.replace first (.tables (items.dropLast ++ [last])) members
    | some (.value _) => none

/-- Begin the table of a header. -/
def openTable (path : List String) (key : String) (members : Members) : Option Members :=
  update (fun parent =>
    match Keyed.get? key parent with
    | none => some (parent ++ [(key, .table .header [])])
    | some (.table .implied inner) => some (Keyed.replace key (.table .header inner) parent)
    | _ => none) path members

/-- Begin one more table of an array of tables. -/
def openItem (path : List String) (key : String) (members : Members) : Option Members :=
  update (fun parent =>
    match Keyed.get? key parent with
    | none => some (parent ++ [(key, .tables [[]])])
    | some (.tables items) => some (Keyed.replace key (.tables (items ++ [[]])) parent)
    | _ => none) path members

mutual

/-- The finished value of a node. -/
def nodeValue : Node → LayerValue
  | .value v => v
  | .table _ members => .table (membersValue members)
  | .tables items => .list (itemsValue items)

/-- The finished members of a table. -/
def membersValue : List (String × Node) → List (String × LayerValue)
  | [] => []
  | (key, node) :: rest => (key, nodeValue node) :: membersValue rest

/-- The finished tables of an array of tables. -/
def itemsValue : List (List (String × Node)) → List LayerValue
  | [] => []
  | members :: rest => .table (membersValue members) :: itemsValue rest

end

/-- The finished document. -/
def value (members : Members) : List (String × LayerValue) := membersValue members

end Members

end Dialogue.Toml
