import Dialogue.Document.Reader
import Dialogue.Proofs.Except
import Dialogue.Proofs.Step.Codec
/-!
# Documents that are written and read again

A document that was loaded has its pages in order, each under an id that starts with a slash, and
holds steps that were read. Such a document is the one that its canonical form denotes: pages are
rows of steps there, and no page holds another.

## Main definitions

- `Document.WellFormed` — the shape of a document that was loaded

## Main statements

- `Document.wellFormed_of_ofJson` — loading gives a well-formed document
- `Document.ofJson_toJson` — reading what was written
- `Dialogue.canonical_roundTrip` — steps, steps laid over each other and documents
-/

namespace Dialogue

open Record

theorem DocumentSettings.ofJson?_toJson (settings : DocumentSettings) :
    ofJson? settings.toJson = some settings := by
  have hspells : Spells fields ["caseSensitiveTrigger", "idleAfterSeconds"] := by decide
  have hcase : optional Json.bool? (settings.caseSensitiveTrigger.map .bool) =
      some settings.caseSensitiveTrigger :=
    optional_map (fun _ _ => rfl) fun _ _ => Json.noConfusion
  have hidle : optional Json.real? (settings.idleAfterSeconds.map .real) =
      some settings.idleAfterSeconds :=
    optional_map (fun _ _ => rfl) fun _ _ => Json.noConfusion
  rw [ofJson?, toJson, slots?_record hspells]
  simp only [Keyed.values, List.map_cons, List.map_nil, Option.bind_eq_bind, Option.bind_some,
    hcase, hidle]
  rfl

namespace Document

/-! ### Page ids -/

/-- What starts with a slash starts with one whatever follows. -/
theorem isPageId_append {id : String} (h : isPageId id = true) (key : String) :
    isPageId (id ++ key) = true := by
  unfold isPageId at h ⊢
  rw [String.toList_append]
  cases hid : id.toList with
  | nil => rw [hid] at h; cases h
  | cons c cs => rw [hid] at h; exact h

mutual

/-- Pages inside a page start the way the page does. -/
theorem isPageId_of_mem_childPages {id : String} (hid : isPageId id = true) (page : Json)
    {p : String × Json} (hp : p ∈ childPages id page) : isPageId p.1 = true := by
  cases page with
  | object fields => exact isPageId_of_mem_memberPages hid fields hp
  | _ => cases hp

theorem isPageId_of_mem_memberPages {id : String} (hid : isPageId id = true)
    (fields : List (String × Json)) {p : String × Json} (hp : p ∈ memberPages id fields) :
    isPageId p.1 = true := by
  match fields with
  | [] => cases hp
  | (key, child) :: rest =>
    rw [memberPages, List.mem_append] at hp
    rcases hp with hp | hp
    · split at hp
      · rcases List.mem_append.1 hp with hp | hp
        · exact isPageId_of_mem_childPages (isPageId_append hid key) child hp
        · obtain rfl := List.mem_singleton.1 hp
          exact isPageId_append hid key
      · cases hp
    · exact isPageId_of_mem_memberPages hid rest hp

end

theorem isPageId_of_flatten {pages : Keyed Json} {flat : List (String × Json)}
    (h : flatten pages = .ok flat) {p : String × Json} (hp : p ∈ flat) : isPageId p.1 = true := by
  unfold flatten at h
  split at h
  · cases h
  · next hnone =>
    obtain rfl := Except.ok.inj h
    obtain ⟨⟨id, page⟩, hpage, hp⟩ := List.mem_flatMap.1 hp
    have hid : isPageId id = true := by
      simpa using List.find?_eq_none.1 hnone (id, page) hpage
    rcases List.mem_append.1 hp with hp | hp
    · exact isPageId_of_mem_childPages hid page hp
    · obtain rfl := List.mem_singleton.1 hp
      exact hid

/-! ### Loaded documents -/

/-- The shape of a document that was loaded. -/
structure WellFormed (document : Document) : Prop where
  sorted : Keyed.Sorted document.pages
  isPageId : ∀ p ∈ document.pages, isPageId p.1 = true
  noNullBody : ∀ p ∈ document.pages, ∀ step ∈ p.2, step.NoNullBody

/-- Each step of a page was read. -/
theorem exists_of_readPage {id : String} {page : Json} {steps : List Step}
    (h : readPage id page = .ok steps) : ∀ step ∈ steps, ∃ j, Step.ofJson? j = some step := by
  intro step hstep
  cases page with
  | array items =>
    cases hitems : items.mapM Step.ofJson? with
    | none =>
      simp only [readPage, Json.items?, hitems] at h
      cases h
    | some read =>
      simp only [readPage, Json.items?, hitems] at h
      obtain rfl := Except.ok.inj h
      obtain ⟨item, -, hread⟩ := Step.exists_of_mem_mapM hitems hstep
      exact ⟨item, hread⟩
  | object fields =>
    cases hone : Step.ofJson? (.object fields) with
    | none =>
      simp only [readPage, hone] at h
      cases h
    | some only =>
      simp only [readPage, hone] at h
      obtain rfl := Except.ok.inj h
      obtain rfl := List.mem_singleton.1 hstep
      exact ⟨_, hone⟩
  | _ => cases h

/-- Each page of a row is read, and goes under its id. -/
theorem exists_of_readPages {flat : List (String × Json)} {read : List (String × List Step)}
    (h : flat.mapM (fun p => return (p.1, ← readPage p.1 p.2)) = .ok read) :
    ∃ steps : String × Json → List Step, (∀ p ∈ flat, readPage p.1 p.2 = .ok (steps p)) ∧
      read = flat.map fun p => (p.1, steps p) := by
  refine ⟨fun p => (readPage p.1 p.2).toOption.getD [], ?_⟩
  induction flat generalizing read with
  | nil => exact ⟨fun p hp => (by cases hp), (Except.ok.inj h).symm⟩
  | cons first rest ih =>
    rw [List.mapM_cons] at h
    obtain ⟨page, hfirst, h⟩ := bind_eq_ok_iff.1 h
    obtain ⟨others, hothers, h⟩ := bind_eq_ok_iff.1 h
    obtain ⟨steps, hsteps, hpage⟩ := bind_eq_ok_iff.1 hfirst
    obtain rfl := Except.ok.inj hpage
    obtain rfl := Except.ok.inj h
    obtain ⟨hrest, rfl⟩ := ih hothers
    have hgetD : (readPage first.1 first.2).toOption.getD [] = steps := by rw [hsteps]; rfl
    refine ⟨List.forall_mem_cons.2 ⟨?_, hrest⟩, ?_⟩
    · exact hsteps.trans (congrArg Except.ok hgetD.symm)
    · simp only [List.map_cons, hgetD]

/-- **A document that was loaded is well-formed.** -/
theorem wellFormed_of_ofJson {j : Json} {document : Document} (h : ofJson j = .ok document) :
    document.WellFormed := by
  cases j with
  | object fields =>
    obtain ⟨⟨pages, rest⟩, -, h⟩ := bind_eq_ok_iff.1 h
    obtain ⟨flat, hflat, h⟩ := bind_eq_ok_iff.1 h
    obtain ⟨read, hread, h⟩ := bind_eq_ok_iff.1 h
    obtain ⟨triggers, -, h⟩ := bind_eq_ok_iff.1 h
    obtain ⟨settings, -, h⟩ := bind_eq_ok_iff.1 h
    obtain rfl := Except.ok.inj h
    obtain ⟨steps, hsteps, rfl⟩ := exists_of_readPages hread
    refine ⟨Keyed.Sorted.ofList _, fun p hp => ?_, fun p hp step hstep => ?_⟩
    · obtain ⟨page, hpage, rfl⟩ := List.mem_map.1 (Keyed.mem_ofList hp)
      exact isPageId_of_flatten hflat hpage
    · obtain ⟨page, hpage, rfl⟩ := List.mem_map.1 (Keyed.mem_ofList hp)
      obtain ⟨j, hj⟩ := exists_of_readPage (hsteps page hpage) step hstep
      exact Step.noNullBody_of_ofJson? hj
  | _ => cases h

/-! ### Reading what was written -/

theorem readPage_array {id : String} {steps : List Step} (h : ∀ step ∈ steps, step.NoNullBody) :
    readPage id (.array (steps.map Step.toJson)) = .ok steps := by
  have hread : Json.items? Step.ofJson? (.array (steps.map Step.toJson)) = some steps :=
    Json.items?_array_map fun step hstep => Step.ofJson?_toJson (h step hstep)
  simp only [readPage, hread]

/-- Rows of steps hold no page. -/
theorem flatten_rows {pages : Keyed (List Step)} (h : ∀ p ∈ pages, isPageId p.1 = true) :
    flatten (pages.map fun p => (p.1, .array (p.2.map Step.toJson))) =
      .ok (pages.map fun p => (p.1, .array (p.2.map Step.toJson))) := by
  have hnone : (pages.map fun p => (p.1, Json.array (p.2.map Step.toJson))).find?
      (fun p => !isPageId p.1) = none := by
    rw [List.find?_eq_none]
    intro q hq
    obtain ⟨p, hp, rfl⟩ := List.mem_map.1 hq
    simp [h p hp]
  unfold flatten
  rw [hnone]
  simp only [List.flatMap_map, childPages, ownContent, List.nil_append]
  rw [List.map_eq_flatMap]
  rfl

/-- Each page of a well-formed document is read from its row. -/
theorem readPages_rows {pages : Keyed (List Step)}
    (h : ∀ p ∈ pages, ∀ step ∈ p.2, step.NoNullBody) :
    (pages.map fun p => (p.1, Json.array (p.2.map Step.toJson))).mapM
      (fun p => return (p.1, ← readPage p.1 p.2)) = .ok pages := by
  induction pages with
  | nil => rfl
  | cons p rest ih =>
    obtain ⟨hp, hrest⟩ := List.forall_mem_cons.1 h
    rw [List.map_cons, List.mapM_cons, readPage_array hp, ih hrest]
    rfl

/-- **A well-formed document is the one that its canonical form denotes.** -/
theorem ofJson_toJson {document : Document} (h : document.WellFormed) :
    ofJson document.toJson = .ok document := by
  obtain ⟨members, htoJson, hget⟩ := Json.get?_record (show (Keyed.keys [
    ("pages", some (Json.object (document.pages.map fun p => (p.1, .array (p.2.map Step.toJson))))),
    ("triggers", if document.hasTriggers then some (.texts document.triggers) else none),
    ("settings", some document.settings.toJson)]).Nodup from
      show ["pages", "triggers", "settings"].Nodup by decide)
  have hpages : pageMap members =
      .ok (document.pages.map fun p => (p.1, .array (p.2.map Step.toJson)), members) := by
    rw [pageMap, hget]
    rfl
  have htriggers : readMember [] (Json.keyed? Json.text?) "triggers" members =
      .ok document.triggers := by
    rw [readMember, hget]
    cases htriggers : document.triggers with
    | nil => simp [hasTriggers, htriggers, Keyed.get?_cons, defaulted]
    | cons trigger rest => simp [hasTriggers, htriggers, Keyed.get?_cons, defaulted]
  have hsettings : readMember {} DocumentSettings.ofJson? "settings" members =
      .ok document.settings := by
    rw [readMember, hget]
    simp [Keyed.get?_cons, defaulted, DocumentSettings.ofJson?_toJson]
  rw [toJson, htoJson]
  refine bind_eq_ok_iff.2 ⟨_, hpages, ?_⟩
  refine bind_eq_ok_iff.2 ⟨_, flatten_rows h.isPageId, ?_⟩
  refine bind_eq_ok_iff.2 ⟨_, readPages_rows h.noNullBody, ?_⟩
  refine bind_eq_ok_iff.2 ⟨_, htriggers, ?_⟩
  refine bind_eq_ok_iff.2 ⟨_, hsettings, ?_⟩
  rw [h.sorted.ofList_eq_self]
  rfl

end Document

/-! ### Canonical forms -/

/-- **Canonical forms are read as what they were written from**: a step that was read, two such
steps laid over each other, and a document that was loaded. -/
theorem canonical_roundTrip :
    (∀ (j : Json) (step : Step), Step.ofJson? j = some step →
      Step.ofJson? step.toJson = some step) ∧
    (∀ (j k : Json) (upper lower : Step), Step.ofJson? j = some upper → Step.ofJson? k = some lower →
      Step.ofJson? (upper.onto lower).toJson = some (upper.onto lower)) ∧
    (∀ (j : Json) (document : Document), Document.ofJson j = .ok document →
      Document.ofJson document.toJson = .ok document) := by
  refine ⟨fun j step h => ?_, fun j k upper lower hupper hlower => ?_, fun j document h => ?_⟩
  · exact Step.ofJson?_toJson (Step.noNullBody_of_ofJson? h)
  · have hupper := Step.noNullBody_of_ofJson? hupper
    exact Step.ofJson?_toJson (hupper.onto (Step.noNullBody_of_ofJson? hlower))
  · exact Document.ofJson_toJson (Document.wellFormed_of_ofJson h)

/-- A step in an older spelling, with its input in positional form and steps inside its branch. -/
def olderSpelling : Json := .object [
  ("input", .array [.text "text", .text "name"]),
  ("msg", .text "Hello"),
  ("switch", .object [
    ("cases", .object [("yes", .object [("request", .object [("body", .null), ("url", .text "u")])])]),
    ("default", .object [("delay", .whole 2)]),
    ("var", .text "answer")])]

/-- The step in canonical spelling. -/
def olderSpellingStep : Step where
  message := some (.whole "Hello")
  input := some { kind := .text, variablePath := some "name" }
  switch := some {
    subject := "answer"
    cases := [("yes", { request := some { url := "u" } })]
    fallback := some { delay := some (Binary64.ofInt 2) } }

/-- A page that holds another page. -/
def nestedPage : Json := .object [
  ("/start", .object [("/more", .array [olderSpelling]), ("next", .text "/start/more")])]

/-- The document with both pages. -/
def nestedPageDocument : Document where
  pages := [("/start", [{ next := some "/start/more" }]), ("/start/more", [olderSpellingStep])]

theorem canonical_roundTrip_olderSpelling :
    (Step.ofJson? olderSpelling = some olderSpellingStep ∧
      Step.ofJson? olderSpellingStep.toJson = some olderSpellingStep) ∧
    Step.ofJson? (olderSpellingStep.onto olderSpellingStep).toJson =
      some (olderSpellingStep.onto olderSpellingStep) ∧
    (Document.ofJson nestedPage = .ok nestedPageDocument ∧
      Document.ofJson nestedPageDocument.toJson = .ok nestedPageDocument) := by
  have hstep : Step.ofJson? olderSpelling = some olderSpellingStep := by rfl
  have hdocument : Document.ofJson nestedPage = .ok nestedPageDocument := by rfl
  obtain ⟨hread, honto, hload⟩ := canonical_roundTrip
  exact ⟨⟨hstep, hread _ _ hstep⟩, honto _ _ _ _ hstep hstep, hdocument, hload _ _ hdocument⟩

end Dialogue
