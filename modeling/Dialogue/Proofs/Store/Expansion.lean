import Dialogue.Proofs.Store.Tidy
import Dialogue.Proofs.Template
/-!
# Expanding values and texts

A value is expanded text by text. A text that is a lone placeholder becomes the stored value itself,
and any other one the text that takes its place in a message; both come to the same text. All else in
the value stays, and so does every text in which nothing that is defined is written.

## Main definitions

- `Json.leafTexts` — the texts inside a value
- `Json.Fits` — a value in which only texts have been replaced

## Main statements

- `Store.plain_expandText`, `Store.fits_expandValue`, `Store.expandValue_eq_self`
- `Store.expansions_agree`
-/

namespace Dialogue

namespace Json

mutual

/-- The texts inside a value, without the names of members. -/
def leafTexts : Json → List String
  | .text s => [s]
  | .array items => itemTexts items
  | .object fields => fieldTexts fields
  | .null => []
  | .bool _ => []
  | .number _ => []

/-- The texts inside the items. -/
def itemTexts : List Json → List String
  | [] => []
  | item :: rest => leafTexts item ++ itemTexts rest

/-- The texts inside the members. -/
def fieldTexts : List (String × Json) → List String
  | [] => []
  | (_, value) :: rest => leafTexts value ++ fieldTexts rest

end

theorem mem_itemTexts {s : String} {items : List Json} :
    s ∈ itemTexts items ↔ ∃ item ∈ items, s ∈ item.leafTexts := by
  induction items with
  | nil => simp [itemTexts]
  | cons item rest ih => simp [itemTexts, ih]

theorem mem_fieldTexts {s : String} {fields : List (String × Json)} :
    s ∈ fieldTexts fields ↔ ∃ p ∈ fields, s ∈ p.2.leafTexts := by
  induction fields with
  | nil => simp [fieldTexts]
  | cons p rest ih => simp [fieldTexts, ih]

/-- The second value is the first with other values in the place of its texts: the same primitive
values, arrays as long, and objects with the same names. -/
inductive Fits : Json → Json → Prop where
  | null : Fits .null .null
  | bool (b : Bool) : Fits (.bool b) (.bool b)
  | number (n : Number) : Fits (.number n) (.number n)
  | text (s : String) (value : Json) : Fits (.text s) value
  | array {items items' : List Json} (hitems : List.Forall₂ Fits items items') :
      Fits (.array items) (.array items')
  | object {fields fields' : Keyed Json} (hnames : Keyed.keys fields = Keyed.keys fields')
      (hvalues : List.Forall₂ Fits (Keyed.values fields) (Keyed.values fields')) :
      Fits (.object fields) (.object fields')

end Json

namespace Store

variable {store : Store} {s : String}

/-- **Typed and textual expansion agree**: as a text, the value that a text becomes is the text that it
becomes in a message. -/
theorem plain_expandText (store : Store) (s : String) :
    (store.expandText s).plain = store.expand s := by
  unfold expandText
  cases hlone : store.lone? s with
  | none => exact String.ofList_toList
  | some value =>
    obtain ⟨path, hpath, hvalue⟩ := Option.bind_eq_some_iff.1 hlone
    obtain ⟨hwritten, hs⟩ := Template.lone?_eq_some_iff.1 hpath
    have hread : Template.placeholder? s.toList = some (path, []) :=
      Template.placeholder?_eq_some_iff.2 ⟨hwritten, by rw [hs, List.append_nil]⟩
    -- The only piece is the placeholder, which is replaced by the text of the value.
    rw [expand, Template.pieces_of_placeholder? hread, Template.pieces, List.flatMap_singleton,
      Template.Piece.render, hvalue]
    rfl

/-- A text in which no defined placeholder is written stays. -/
theorem expandText_eq_self
    (h : ∀ path, Template.Occurs path s.toList → store.get? (String.ofList path) = none) :
    store.expandText s = .text s := by
  have hlone : store.lone? s = none := by
    refine Option.bind_eq_none_iff.2 fun path hpath => h path ?_
    obtain ⟨hwritten, hs⟩ := Template.lone?_eq_some_iff.1 hpath
    exact ⟨hwritten, hs ▸ List.infix_rfl⟩
  have hrender : ∀ piece ∈ Template.pieces s.toList, piece.render store = piece.written := by
    intro piece hpiece
    cases piece with
    | char c => rfl
    | placeholder path =>
      rw [Template.Piece.render, h path (Template.mem_pieces_iff.1 hpiece)]
      rfl
  rw [expandText, hlone, expand, List.flatMap_congr hrender, Template.flatMap_written_pieces,
    String.ofList_toList]

/-- **Expanding replaces nothing but texts.** -/
theorem fits_expandValue (store : Store) (value : Json) : value.Fits (store.expandValue value) := by
  induction value using Json.induction with
  | null => exact .null
  | bool b => exact .bool b
  | number n => exact .number n
  | text s => exact .text s _
  | array items ih =>
    rw [expandValue, expandItems_eq]
    exact .array (List.forall₂_map_right_iff.2 (List.forall₂_same.2 ih))
  | object fields ih =>
    rw [expandValue, expandFields_eq]
    refine .object ?_ ?_
    · rw [Keyed.keys, Keyed.keys, List.map_map]
      rfl
    · rw [Keyed.values, Keyed.values, List.map_map, List.forall₂_map_left_iff,
        List.forall₂_map_right_iff, List.forall₂_same]
      exact ih

/-- **A value in which no defined placeholder is written stays.** -/
theorem expandValue_eq_self {value : Json}
    (h : ∀ s ∈ value.leafTexts, ∀ path, Template.Occurs path s.toList →
      store.get? (String.ofList path) = none) : store.expandValue value = value := by
  induction value using Json.induction with
  | null => rfl
  | bool => rfl
  | number => rfl
  | text s => exact expandText_eq_self (h s (List.mem_singleton.2 rfl))
  | array items ih =>
    have hitems : ∀ item ∈ items, store.expandValue item = item := fun item hitem =>
      ih item hitem fun s hs => h s (Json.mem_itemTexts.2 ⟨item, hitem, hs⟩)
    rw [expandValue, expandItems_eq, List.map_congr_left hitems, List.map_id']
  | object fields ih =>
    have hfields : ∀ p ∈ fields, (p.1, store.expandValue p.2) = p := fun p hp =>
      congrArg (Prod.mk p.1) (ih p hp fun s hs => h s (Json.mem_fieldTexts.2 ⟨p, hp, hs⟩))
    rw [expandValue, expandFields_eq, List.map_congr_left hfields, List.map_id']

/-- **Expanding a text and expanding a value agree.** A text is a lone placeholder exactly when it is
two opening braces, a path and two closing braces. What a text becomes as a value comes to the text
that it becomes in a message. Expanding a value keeps the names of its objects, the lengths of its
arrays and all primitive values but its texts, and it changes nothing when every placeholder that is
written in a text of the value is undefined. -/
theorem expansions_agree (store : Store) :
    (∀ s, (Template.lone? s).isSome ↔
      ∃ path, Template.IsPath path ∧ s.toList = Template.written path) ∧
    (∀ s, (store.expandValue (.text s)).plain = store.expand s) ∧
    ∀ value : Json, value.Fits (store.expandValue value) ∧
      ((∀ s ∈ value.leafTexts, ∀ path, Template.Occurs path s.toList →
        store.get? (String.ofList path) = none) → store.expandValue value = value) := by
  refine ⟨fun s => ?_, plain_expandText store, fun value => ⟨fits_expandValue store value, ?_⟩⟩
  · rw [Option.isSome_iff_exists]
    exact exists_congr fun path => Template.lone?_eq_some_iff
  · exact expandValue_eq_self

/-- A guest of whom the name and the age are known, and the town is not. -/
def guest : Store where
  own := .object [("name", .text "Ada"), ("age", .whole 36)]
  shared := none

theorem expandValue_age_guest : guest.expandValue (.text "{{age}}") = .whole 36 := by
  have hread : Template.lone? "{{age}}" = some "age".toList := by decide +kernel
  show guest.expandText "{{age}}" = .whole 36
  rw [expandText, lone?, hread]
  rfl

theorem get?_town_guest (path : List Char) (h : Template.Occurs path "{{town}}".toList) :
    guest.get? (String.ofList path) = none := by
  have hread : Template.placeholder? "{{town}}".toList = some ("town".toList, []) := by decide +kernel
  rw [← Template.mem_pieces_iff, Template.pieces_of_placeholder? hread, Template.pieces,
    List.mem_singleton] at h
  rw [Template.Piece.placeholder.inj h]
  exact Option.isNone_iff_eq_none.1 (by decide +kernel)

/-- A lone placeholder becomes the number, whose text takes its place in a message. Within a text a
placeholder gives way to the name. What is written of the town stays as it is. -/
theorem expansions_agree_guest :
    (∃ path, Template.IsPath path ∧ "{{age}}".toList = Template.written path) ∧
    guest.expandValue (.text "{{age}}") = .whole 36 ∧ guest.expand "{{age}}" = "36" ∧
    (¬∃ path, Template.IsPath path ∧ "Hello {{name}}".toList = Template.written path) ∧
    (guest.expandValue (.text "Hello {{name}}")).plain = guest.expand "Hello {{name}}" ∧
    guest.expand "Hello {{name}}" = "Hello Ada" ∧
    (Json.array [.text "{{age}}", .text "{{town}}"]).Fits (.array [.whole 36, .text "{{town}}"]) ∧
    guest.expandValue (.array [.text "{{town}}", .whole 3]) = .array [.text "{{town}}", .whole 3] := by
  obtain ⟨hlone, hplain, hvalue⟩ := expansions_agree guest
  have hsame : guest.expand "{{age}}" = "36" := by
    rw [← hplain "{{age}}", expandValue_age_guest]
    decide +kernel
  have htown : guest.expandValue (.text "{{town}}") = .text "{{town}}" :=
    (hvalue (.text "{{town}}")).2 fun s hs => List.mem_singleton.1 hs ▸ get?_town_guest
  have hfits := (hvalue (.array [.text "{{age}}", .text "{{town}}"])).1
  rw [expandValue, expandItems, expandItems, expandItems, expandValue_age_guest, htown] at hfits
  refine ⟨(hlone _).1 (by decide +kernel), expandValue_age_guest, hsame, fun hwritten => ?_,
    hplain _, by decide +kernel, hfits, (hvalue _).2 fun s hs => ?_⟩
  · have hsome := (hlone "Hello {{name}}").2 hwritten
    exact absurd hsome (by decide +kernel)
  · exact List.mem_singleton.1 hs ▸ get?_town_guest

end Store

end Dialogue
