import Dialogue.History.Codec
import Dialogue.Proofs.Conversation.History
import Dialogue.Proofs.History.Difference
import Dialogue.Proofs.Json.Record
import Dialogue.Proofs.Path
/-!
# Histories that are written and read again

Reading the JSON of a history gives the history back, so that replaying what was read leads where the
history leads. A name that reads as a number stays a name, since names are written as strings and
positions as numbers; and a value that is `null` stays, since it is written as a member of its patch.
Only a position too large for an index would be lost, and no difference of two values holds one when
every item of their arrays has an index.

## Main definitions

- `Segment.Addressable`, `Path.Addressable` — every position is an index
- `Json.Indexed` — every item of an array has an index
- `HistoryEntry.Recorded` — what the turns of a conversation leave

## Main statements

- `Json.addressable_of_mem_diff` — the paths of a difference
- `Patch.ofJson?_toJson`, `HistoryEntry.ofJson?_toJson` — reading what was written
- `HistoryEntry.history_survives`
-/

namespace Dialogue

/-- A position in the segment is an index. -/
def Segment.Addressable : Segment → Prop
  | .key _ => True
  | .index position => position < indexBound

/-- Every position on the path is an index. -/
def Path.Addressable (p : Path) : Prop := ∀ s ∈ p, s.Addressable

namespace Path.Addressable

variable {p : Path}

theorem key (h : Path.Addressable p) (name : String) : Path.Addressable (p ++ [.key name]) :=
  List.forall_mem_append.2 ⟨h, List.forall_mem_singleton.2 trivial⟩

theorem index (h : Path.Addressable p) {position : Nat} (hlt : position < indexBound) :
    Path.Addressable (p ++ [.index position]) :=
  List.forall_mem_append.2 ⟨h, List.forall_mem_singleton.2 hlt⟩

end Path.Addressable

namespace Json

/-! ### The paths of a difference -/

/-- Every item of an array in the value has an index, as in any value that a machine can hold. -/
inductive Indexed : Json → Prop where
  | null : Indexed .null
  | bool (b : Bool) : Indexed (.bool b)
  | number (n : Number) : Indexed (.number n)
  | text (s : String) : Indexed (.text s)
  | array {items : List Json} (hlength : items.length ≤ indexBound)
      (hitems : ∀ item ∈ items, Indexed item) : Indexed (.array items)
  | object {fields : List (String × Json)} (hfields : ∀ p ∈ fields, Indexed p.2) :
      Indexed (.object fields)

theorem addressable_of_mem_appendItems {path : Path} (hpath : Path.Addressable path)
    {position : Nat} {items : List Json} (h : position + items.length ≤ indexBound) :
    ∀ q ∈ appendItems path position items, Path.Addressable q.path := by
  induction items generalizing position with
  | nil => exact nofun
  | cons item rest ih =>
    rw [List.length_cons] at h
    exact List.forall_mem_cons.2 ⟨hpath.index (by omega), ih (by omega)⟩

theorem addressable_of_mem_dropItems {path : Path} (hpath : Path.Addressable path)
    {position count : Nat} (h : position + count ≤ indexBound) :
    ∀ q ∈ dropItems path position count, Path.Addressable q.path := by
  induction count with
  | zero => exact nofun
  | succ count ih => exact List.forall_mem_cons.2 ⟨hpath.index (by omega), ih (by omega)⟩

theorem addressable_of_mem_diffFields {path : Path} (hpath : Path.Addressable path)
    {rest : List (String × Json)} {new : Keyed Json} (hnew : ∀ p ∈ new, p.2.Indexed)
    (ih : ∀ p ∈ rest, ∀ path after, Path.Addressable path → after.Indexed →
      ∀ q ∈ diffAt path p.2 after, Path.Addressable q.path) :
    ∀ q ∈ diffFields path rest new, Path.Addressable q.path := by
  induction rest with
  | nil => exact nofun
  | cons p rest ihr =>
    obtain ⟨hp, hrest⟩ := List.forall_mem_cons.1 ih
    rw [diffFields]
    refine List.forall_mem_append.2 ⟨?_, ihr hrest⟩
    cases hget : Keyed.get? p.1 new with
    | none => exact List.forall_mem_singleton.2 (hpath.key p.1)
    | some value => exact hp _ _ (hpath.key p.1) (hnew _ (Keyed.mem_of_get? hget))

theorem addressable_of_mem_diffItems {path : Path} (hpath : Path.Addressable path)
    {olds news : List Json} {position : Nat} (holds : position + olds.length ≤ indexBound)
    (hnews : position + news.length ≤ indexBound) (hindexed : ∀ new ∈ news, new.Indexed)
    (ih : ∀ old ∈ olds, ∀ path after, Path.Addressable path → after.Indexed →
      ∀ q ∈ diffAt path old after, Path.Addressable q.path) :
    ∀ q ∈ diffItems path position olds news, Path.Addressable q.path := by
  induction olds generalizing position news with
  | nil =>
    rw [diffItems]
    exact addressable_of_mem_appendItems hpath hnews
  | cons old olds ihr =>
    cases news with
    | nil => exact addressable_of_mem_dropItems hpath holds
    | cons new news =>
      obtain ⟨hold, hrest⟩ := List.forall_mem_cons.1 ih
      obtain ⟨hnew, hothers⟩ := List.forall_mem_cons.1 hindexed
      rw [List.length_cons] at holds hnews
      rw [diffItems]
      exact List.forall_mem_append.2 ⟨hold _ _ (hpath.index (by omega)) hnew,
        ihr (by omega) (by omega) hothers hrest⟩

/-- Every path that a difference changes addresses the items on it by their indices. -/
theorem addressable_of_mem_diffAt {path : Path} (hpath : Path.Addressable path)
    {before after : Json} (hbefore : before.Indexed) (hafter : after.Indexed) :
    ∀ q ∈ diffAt path before after, Path.Addressable q.path := by
  have hreplace : ∀ {path : Path} {before after : Json}, Path.Addressable path →
      ∀ q ∈ (if before.same after then [] else [Patch.replace path after]),
        Path.Addressable q.path := by
    intro path before after hpath
    split
    · exact nofun
    · exact List.forall_mem_singleton.2 hpath
  induction hbefore generalizing path after with
  | null | bool | number | text =>
    rw [diffAt_of_not_alike rfl]
    exact hreplace hpath
  | @array olds hlength _ ih =>
    cases hafter with
    | @array news hnews hindexed =>
      exact addressable_of_mem_diffItems hpath (by omega) (by omega) hindexed
        fun old hold _ _ hpath hafter => ih old hold hpath hafter
    | null | bool | number | text | object =>
      rw [diffAt_of_not_alike rfl]
      exact hreplace hpath
  | @object olds _ ih =>
    cases hafter with
    | @object news hindexed =>
      rw [diffAt]
      refine List.forall_mem_append.2 ⟨addressable_of_mem_diffFields hpath hindexed
        fun p hp _ _ hpath hafter => ih p hp hpath hafter, fun q hq => ?_⟩
      obtain ⟨member, -, rfl⟩ := List.mem_map.1 hq
      exact hpath.key member.1
    | null | bool | number | text | array =>
      rw [diffAt_of_not_alike rfl]
      exact hreplace hpath

theorem addressable_of_mem_diff {before after : Json} (hbefore : before.Indexed)
    (hafter : after.Indexed) : ∀ q ∈ before.diff after, Path.Addressable q.path :=
  addressable_of_mem_diffAt (List.forall_mem_nil _) hbefore hafter

end Json

open Record

/-! ### Patches -/

/-- A segment is read back when it is a name, or when its position is an index. -/
theorem Segment.ofJson?_toJson {s : Segment} : ofJson? s.toJson = some s ↔ s.Addressable := by
  cases s with
  | key name => exact iff_of_true rfl trivial
  | index position => simp [ofJson?, toJson, Json.whole, Json.natural?, Addressable]

/-- Names and positions are written differently, whatever the name reads as. -/
theorem Segment.toJson_injective : Function.Injective toJson := by
  intro s t h
  cases s with
  | key name =>
    cases t with
    | key other => exact congrArg key (Json.text.inj h)
    | index => cases h
  | index position =>
    cases t with
    | key => cases h
    | index other =>
      exact congrArg index (Int.ofNat.inj (Number.whole.inj (Json.number.inj h)))

theorem Path.items?_toJson {p : Path} (h : Path.Addressable p) :
    Json.items? Segment.ofJson? (.array (p.map Segment.toJson)) = some p :=
  Json.items?_array_map fun s hs => Segment.ofJson?_toJson.2 (h s hs)

namespace Patch

/-- The kind of a change. -/
def kind : Patch → String
  | add .. => "add"
  | remove _ => "remove"
  | replace .. => "replace"

/-- A change is written as its kind, its path and its value, the value only when there is one. -/
theorem exists_toJson (p : Patch) :
    ∃ members, p.toJson = .object members ∧ Keyed.get? "op" members = some (.text p.kind) ∧
      Keyed.get? "path" members = some (.array (p.path.map Segment.toJson)) ∧
      Keyed.get? "value" members = p.value? := by
  cases p with
  | add path value | remove path | replace path value => exact ⟨_, rfl, rfl, rfl, rfl⟩

/-- **A change is read back** when the positions on its path are indices. -/
theorem ofJson?_toJson {p : Patch} (h : p.path.Addressable) : ofJson? p.toJson = some p := by
  obtain ⟨members, hrecord, hkind, hpath, hvalue⟩ := exists_toJson p
  rw [hrecord, ofJson?, hkind, hpath, hvalue]
  simp only [ofParts?, Option.bind_eq_bind, Option.bind_some, Path.items?_toJson h]
  cases p <;> rfl

end Patch

/-! ### Entries -/

theorem Line.ofJson?_toJson (line : Line) : ofJson? line.toJson = some line := by
  have hspells : Spells [["kind"], ["message"]] ["kind", "message"] := by decide
  rw [ofJson?, toJson, slots?_record hspells]
  cases line with
  | mk kind message => cases kind <;> rfl

namespace HistoryEntry

/-- What a turn of a conversation leaves: the changes between two values whose items have indices,
and no location or a step of a page that has a name. -/
structure Recorded (patches : List Patch) (location : Option Location) : Prop where
  patches : ∃ before after : Json, before.Indexed ∧ after.Indexed ∧ patches = before.diff after
  location : ∀ l, location = some l → l.page ≠ "" ∧ l.index < indexBound

theorem optional_location {location : Option Location}
    (h : ∀ l, location = some l → l.page ≠ "" ∧ l.index < indexBound) :
    Record.optional Location.ofJson? (some (Location.toJson location)) = some location := by
  cases location with
  | none => rfl
  | some l =>
    obtain ⟨hpage, hindex⟩ := h l rfl
    have hread : Location.ofJson? (.text l.text) = some l := Location.parse?_text hpage hindex
    simp [Record.optional, Location.toJson, hread]

/-- **An entry is read back.** -/
theorem ofJson?_toJson {entry : HistoryEntry} (h : Recorded entry.patches entry.location) :
    ofJson? entry.toJson = some entry := by
  obtain ⟨before, after, hbefore, hafter, hdiff⟩ := h.patches
  have hlines : Json.items? Line.ofJson? (.array (entry.lines.map Line.toJson)) =
      some entry.lines :=
    Json.items?_array_map fun line _ => Line.ofJson?_toJson line
  have hpatches : Json.items? Patch.ofJson? (.array (entry.patches.map Patch.toJson)) =
      some entry.patches :=
    Json.items?_array_map fun p hp => Patch.ofJson?_toJson
      (Json.addressable_of_mem_diff hbefore hafter p (hdiff ▸ hp))
  have hspells : Spells [["ios"], ["storage_patches"], ["location"]]
      ["ios", "storage_patches", "location"] := by
    decide
  rw [ofJson?, toJson, slots?_record hspells]
  · simp only [Keyed.values, List.map_cons, List.map_nil, Option.bind_eq_bind, Option.bind_some,
      required, hlines, hpatches, optional_location h.location]
    rfl
  · exact nofun

/-- Every entry stands for an event that ended a turn. -/
theorem exists_of_mem_ofEventsFrom {lines : List Line} {events : List Event} {entry : HistoryEntry}
    (h : entry ∈ ofEventsFrom lines events) :
    ∃ event ∈ events, event.endsTurn ∧ entry.patches = event.patches ∧
      entry.location = event.next := by
  induction events generalizing lines with
  | nil => cases h
  | cons event rest ih =>
    rw [ofEventsFrom_cons] at h
    by_cases hend : event.endsTurn
    · rw [if_pos hend, List.mem_cons] at h
      rcases h with rfl | h
      · exact ⟨event, List.mem_cons_self, hend, rfl, rfl⟩
      · obtain ⟨other, hmem, hother⟩ := ih h
        exact ⟨other, List.mem_cons_of_mem _ hmem, hother⟩
    · rw [if_neg hend] at h
      obtain ⟨other, hmem, hother⟩ := ih h
      exact ⟨other, List.mem_cons_of_mem _ hmem, hother⟩

theorem recorded_of_mem_ofEvents {events : List Event}
    (h : ∀ event ∈ events, event.endsTurn → Recorded event.patches event.next) :
    ∀ entry ∈ ofEvents events, Recorded entry.patches entry.location := by
  intro entry hentry
  obtain ⟨event, hevent, hend, hpatches, hlocation⟩ := exists_of_mem_ofEventsFrom hentry
  rw [hpatches, hlocation]
  exact h event hevent hend

/-- **A history survives being written and read.** What is read is the history that was written,
entry by entry, so replaying it gives the same state or the same fault over any variables; and so
does the history that the events of a conversation tell. Names and positions are written
differently, whatever the name reads as, and a change is written with a value exactly when it has
one, be it `null`. -/
theorem history_survives :
    (∀ entries : List HistoryEntry, (∀ e ∈ entries, Recorded e.patches e.location) →
      (∀ e ∈ entries, ofJson? e.toJson = some e) ∧
        Json.items? ofJson? (.array (entries.map toJson)) = some entries ∧
        ∀ own : Json, (Json.items? ofJson? (.array (entries.map toJson))).map
          (HistoryState.replay own) = some (HistoryState.replay own entries)) ∧
    (∀ events : List Event,
      (∀ event ∈ events, event.endsTurn → Recorded event.patches event.next) →
        ∀ e ∈ ofEvents events, Recorded e.patches e.location) ∧
    Function.Injective Segment.toJson ∧
    (∀ s : Segment, Segment.ofJson? s.toJson = some s ↔ s.Addressable) ∧
    ∀ p : Patch, ∃ members, p.toJson = .object members ∧
      Keyed.get? "value" members = p.value? := by
  refine ⟨fun entries h => ?_, fun _ => recorded_of_mem_ofEvents, Segment.toJson_injective,
    fun _ => Segment.ofJson?_toJson, fun p => ?_⟩
  · have heach : ∀ e ∈ entries, ofJson? e.toJson = some e := fun e he => ofJson?_toJson (h e he)
    have hread := Json.items?_array_map heach
    exact ⟨heach, hread, fun own => by rw [hread, Option.map_some]⟩
  · obtain ⟨members, hwritten, -, -, hvalue⟩ := Patch.exists_toJson p
    exact ⟨members, hwritten, hvalue⟩

/-- A member named by a number is added with the value `null`, and an item at a position goes. -/
theorem history_survives_numbered :
    let before := Json.object [("list", .array [.text "a", .null])]
    let after := Json.object [("0", .null), ("list", .array [.text "a"])]
    let entry : HistoryEntry := ⟨[⟨.input, "Ann"⟩], before.diff after, some ⟨"/start", 1⟩⟩
    entry.patches = [.remove [.key "list", .index 1], .add [.key "0"] .null] ∧
      Json.items? ofJson? (.array [entry.toJson]) = some [entry] := by
  intro before after entry
  have hbefore : before.Indexed := .object <| List.forall_mem_singleton.2 <|
    .array (by decide) <| List.forall_mem_cons.2 ⟨.text _, List.forall_mem_singleton.2 .null⟩
  have hafter : after.Indexed := .object <| List.forall_mem_cons.2 ⟨.null,
    List.forall_mem_singleton.2 <| .array (by decide) <| List.forall_mem_singleton.2 (.text _)⟩
  have hentry : Recorded entry.patches entry.location :=
    ⟨⟨before, after, hbefore, hafter, rfl⟩, fun l hl => Option.some.inj hl ▸ by decide⟩
  exact ⟨rfl, (history_survives.1 [entry] (List.forall_mem_singleton.2 hentry)).2.1⟩

end HistoryEntry

end Dialogue
