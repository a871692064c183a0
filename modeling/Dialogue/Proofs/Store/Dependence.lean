import Dialogue.Proofs.Store.Expansion
/-!
# What an expansion depends on

A text is cut into placeholders once, before anything is looked up, and what is put in the place of a
placeholder is not read again. So an expansion depends on the values at the paths that are written in
the text and on nothing else that is stored, whatever these values look like and whatever they would
spell together with the braces around them.

## Main definitions

- `Store.AgreesOn` — two stores hold the same at every path that is written in a text
- `Store.shown` — what is put in the place of a placeholder

## Main statements

- `Store.expand_append` — expanding a text around a placeholder
- `Store.expand_congr`, `Store.expandValue_congr`
- `Store.expands_in_one_pass`
-/

namespace Dialogue

open Template (Occurs IsPath Piece pieces)

/-- The text of a placeholder. -/
def Template.placeholder (path : String) : String := String.ofList (written path.toList)

namespace Store

variable {store store' : Store} {s : String}

/-- Both stores have the same value, or none, at every path of a placeholder that is written in the
text. -/
def AgreesOn (store store' : Store) (s : String) : Prop :=
  ∀ path, Occurs path s.toList → store.get? (String.ofList path) = store'.get? (String.ofList path)

/-- What takes the place of a placeholder: the text of the value at its path, or the placeholder
itself where there is none. -/
def shown (store : Store) (path : String) : String :=
  match store.get? path with
  | some value => value.plain
  | none => Template.placeholder path

/-! ### Texts -/

theorem render_placeholder (store : Store) (path : String) :
    Piece.render store (.placeholder path.toList) = (store.shown path).toList := by
  rw [Piece.render, String.ofList_toList, shown]
  cases store.get? path with
  | none => exact String.toList_ofList.symm
  | some value => exact String.toList_ofList.symm

/-- **Expanding goes on right behind each placeholder**: what stands in front of it and behind it is
expanded on its own, and what takes its place stays as it is. -/
theorem expand_append (store : Store) {path : String} (hpath : IsPath path.toList)
    (front rest : String) :
    store.expand (front ++ Template.placeholder path ++ rest) =
      store.expand front ++ store.shown path ++ store.expand rest := by
  have hpieces : pieces (front ++ Template.placeholder path ++ rest).toList =
      pieces front.toList ++ .placeholder path.toList :: pieces rest.toList := by
    rw [String.toList_append, String.toList_append, Template.placeholder, String.toList_ofList,
      List.append_assoc]
    exact Template.pieces_append_written hpath front.toList rest.toList
  apply String.toList_inj.1
  rw [expand, String.toList_ofList, hpieces, List.flatMap_append, List.flatMap_cons,
    render_placeholder, String.toList_append, String.toList_append, expand, expand,
    String.toList_ofList, String.toList_ofList, List.append_assoc]

/-- A piece that is no placeholder is the same over every store. -/
theorem render_congr {piece : Piece} (hagree : store.AgreesOn store' s)
    (hpiece : piece ∈ pieces s.toList) : piece.render store = piece.render store' := by
  cases piece with
  | char c => rfl
  | placeholder path =>
    have hoccurs : Occurs path s.toList := Template.mem_pieces_iff.1 hpiece
    rw [Piece.render, Piece.render, hagree path hoccurs]

/-- **A text expands to the same over stores that agree on it.** -/
theorem expand_congr (h : store.AgreesOn store' s) : store.expand s = store'.expand s := by
  unfold expand
  rw [List.flatMap_congr fun piece hpiece => render_congr h hpiece]

/-! ### Values -/

theorem lone?_congr (h : store.AgreesOn store' s) : store.lone? s = store'.lone? s := by
  unfold lone?
  apply Option.bind_congr
  intro path hpath
  obtain ⟨hwritten, hs⟩ := Template.lone?_eq_some_iff.1 hpath
  exact h path ⟨hwritten, hs ▸ List.infix_rfl⟩

theorem expandText_congr (h : store.AgreesOn store' s) : store.expandText s = store'.expandText s := by
  unfold expandText
  rw [lone?_congr h, expand_congr h]

/-- **A value expands to the same over stores that agree on the texts inside it.** -/
theorem expandValue_congr {value : Json} (h : ∀ s ∈ value.leafTexts, store.AgreesOn store' s) :
    store.expandValue value = store'.expandValue value := by
  induction value using Json.induction with
  | null => rfl
  | bool => rfl
  | number => rfl
  | text s => exact expandText_congr (h s (List.mem_singleton.2 rfl))
  | array items ih =>
    have hitems : ∀ item ∈ items, store.expandValue item = store'.expandValue item := by
      intro item hitem
      apply ih item hitem
      intro s hs
      exact h s (Json.mem_itemTexts.2 ⟨item, hitem, hs⟩)
    rw [expandValue, expandValue, expandItems_eq, expandItems_eq, List.map_congr_left hitems]
  | object fields ih =>
    have hfields : ∀ p ∈ fields,
        (p.1, store.expandValue p.2) = (p.1, store'.expandValue p.2) := by
      intro p hp
      rw [ih p hp fun s hs => h s (Json.mem_fieldTexts.2 ⟨p, hp, hs⟩)]
    rw [expandValue, expandValue, expandFields_eq, expandFields_eq, List.map_congr_left hfields]

/-- **Expansion takes one pass.** Two stores that agree on the paths written in a text expand it to the
same text, and two stores that agree on the texts inside a value expand it to the same value, however
they differ elsewhere and whatever the values hold. Every placeholder, wherever it is written, gives
way to the text of its value and nothing else: the text in front of it and the text behind it expand
as they do on their own. -/
theorem expands_in_one_pass (store store' : Store) :
    (∀ s, store.AgreesOn store' s → store.expand s = store'.expand s) ∧
    (∀ value : Json, (∀ s ∈ value.leafTexts, store.AgreesOn store' s) →
      store.expandValue value = store'.expandValue value) ∧
    ∀ front path rest : String, IsPath path.toList →
      store.expand (front ++ Template.placeholder path ++ rest) =
        store.expand front ++ store.shown path ++ store.expand rest := by
  refine ⟨fun s => expand_congr, fun value => expandValue_congr, ?_⟩
  intro front path rest hpath
  exact store.expand_append hpath front rest

/-- A text that greets by name between four braces. -/
def greeting : String := Template.placeholder "name" ++ "\x7d\x7d"

/-- A guest whose name spells a placeholder with the braces behind it. -/
def trickster (secret : String) : Store where
  own := .object [("name", .text "\x7b\x7bsecret"), ("secret", .text secret)]
  shared := none

theorem expands_in_one_pass_trickster :
    (trickster "rose").AgreesOn (trickster "thorn") greeting ∧
    (trickster "rose").expand greeting = (trickster "thorn").expand greeting ∧
    (trickster "rose").expand greeting = Template.placeholder "secret" := by
  obtain ⟨htexts, -, hplaceholder⟩ := expands_in_one_pass (trickster "rose") (trickster "thorn")
  have hname : IsPath "name".toList := ⟨by decide, List.all_eq_true.1 rfl⟩
  have hagree : (trickster "rose").AgreesOn (trickster "thorn") greeting := by
    intro path hpath
    have hread : Template.placeholder? greeting.toList = some ("name".toList, ['}', '}']) := by
      decide +kernel
    have hrest : pieces ['}', '}'] = [.char '}', .char '}'] :=
      Template.pieces_of_not_opens (by decide)
    rw [← Template.mem_pieces_iff, Template.pieces_of_placeholder? hread, hrest] at hpath
    obtain rfl : path = "name".toList := by simpa using hpath
    rfl
  have hfront : (trickster "rose").expand "" = "" := expand_of_not_mem _ (by decide)
  have hrest : (trickster "rose").expand "\x7d\x7d" = "\x7d\x7d" := expand_of_not_mem _ (by decide)
  refine ⟨hagree, htexts _ hagree, ?_⟩
  calc (trickster "rose").expand greeting
      = (trickster "rose").expand "" ++ (trickster "rose").shown "name" ++
          (trickster "rose").expand "\x7d\x7d" := hplaceholder "" "name" "\x7d\x7d" hname
    _ = "" ++ "\x7b\x7bsecret" ++ "\x7d\x7d" := by rw [hfront, hrest]; rfl
    _ = Template.placeholder "secret" := rfl

end Store

end Dialogue
