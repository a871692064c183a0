import Dialogue.Proofs.Document.Codec
import Dialogue.Proofs.Json.Basic
import Mathlib.Data.Set.Card
/-!
# The pages of a loaded document

A page stands in a value at a route: the names of the members that lead to it, each of which starts
with a slash. Its id is its route written without a break, so that two routes may have one id; of
such pages a document keeps the one that is read last.

## Main definitions

- `Document.Holds`, `Document.routes` — the pages in a value, and where they stand
- `Document.ReadBefore` — the order in which the pages of a value are read

## Main statements

- `Document.childPages_eq`, `Document.mem_nested` — the pages in a value are the ones that are read
- `Document.pairwise_nested` — they are read in order
- `Document.loaded_pages` — what becomes of each page of a page map
-/

namespace Dialogue

namespace Document

/-- A page stands at a route in a value: under a member whose name is a page id, or in the value of
such a member. -/
inductive Holds : Json → List String → Json → Prop
  | member {fields : List (String × Json)} {key : String} {page : Json}
    (hmem : (key, page) ∈ fields) (hkey : isPageId key = true) : Holds (.object fields) [key] page
  | deeper {fields : List (String × Json)} {key : String} {child page : Json} {route : List String}
    (hmem : (key, child) ∈ fields) (hkey : isPageId key = true) (h : Holds child route page) :
    Holds (.object fields) (key :: route) page

/-- Where the pages of a value stand. -/
def routes (j : Json) : Set (List String) := {route | ∃ page, Holds j route page}

/-- The page at the first route is read before the page at the second: the pages in a page are read
before the page itself, and the members of a value in the order of their names. -/
def ReadBefore : List String → List String → Prop
  | [], _ => False
  | _ :: _, [] => True
  | key :: route, other :: route' => key < other ∨ key = other ∧ ReadBefore route route'

instance : ∀ route other : List String, Decidable (ReadBefore route other)
  | [], _ => inferInstanceAs (Decidable False)
  | _ :: _, [] => inferInstanceAs (Decidable True)
  | key :: route, other :: route' =>
    have := instDecidableReadBefore route route'
    inferInstanceAs (Decidable (key < other ∨ key = other ∧ ReadBefore route route'))

theorem ReadBefore.irrefl (route : List String) : ¬ ReadBefore route route := by
  induction route with
  | nil => exact id
  | cons key route ih =>
    rintro (h | ⟨-, h⟩)
    · exact String.lt_irrefl key h
    · exact ih h

/-! ### The pages that are read -/

/-- A page inside the member `key`. -/
def within (key : String) (p : List String × Json) : List String × Json := (key :: p.1, p.2)

mutual

/-- The pages in a value with their routes, in the order in which they are read. -/
def nested : Json → List (List String × Json)
  | .object fields => nestedAmong fields
  | .null => []
  | .bool _ => []
  | .number _ => []
  | .text _ => []
  | .array _ => []

/-- The pages among some members and inside them. -/
def nestedAmong : List (String × Json) → List (List String × Json)
  | [] => []
  | (key, child) :: rest =>
    (if isPageId key then (nested child).map (within key) ++ [([key], child)] else []) ++
      nestedAmong rest

end

/-- The id and the own content of a page inside the page of that id. -/
def flattened (id : String) (p : List String × Json) : String × Json :=
  (id ++ String.join p.1, ownContent p.2)

theorem flattened_within (id key : String) (p : List String × Json) :
    flattened id (within key p) = flattened (id ++ key) p := by
  simp only [flattened, within, String.join_cons, String.append_assoc]

theorem flattened_single (id key : String) (child : Json) :
    flattened id ([key], child) = (id ++ key, ownContent child) := by
  simp only [flattened, String.join_cons, String.join_nil, String.append_empty]

mutual

/-- The pages inside a page are the ones in its value. -/
theorem childPages_eq (id : String) (page : Json) :
    childPages id page = (nested page).map (flattened id) := by
  cases page with
  | object fields => exact memberPages_eq id fields
  | _ => rfl

theorem memberPages_eq (id : String) (fields : List (String × Json)) :
    memberPages id fields = (nestedAmong fields).map (flattened id) := by
  match fields with
  | [] => rfl
  | (key, child) :: rest =>
    rw [memberPages, nestedAmong, List.map_append, memberPages_eq id rest]
    by_cases hkey : isPageId key = true
    · simp only [hkey, if_true, List.map_append, List.map_map, List.map_cons, List.map_nil,
        flattened_single, childPages_eq (id ++ key) child]
      rw [show flattened id ∘ within key = flattened (id ++ key) from
        funext (flattened_within id key)]
    · rw [if_neg hkey, if_neg hkey, List.map_nil]

end

theorem mem_nestedAmong {fields : List (String × Json)} {q : List String × Json} :
    q ∈ nestedAmong fields ↔ ∃ p ∈ fields, isPageId p.1 = true ∧
      (q = ([p.1], p.2) ∨ ∃ r ∈ nested p.2, within p.1 r = q) := by
  induction fields with
  | nil => simp [nestedAmong]
  | cons p rest ih =>
    rw [nestedAmong, List.mem_append, ih, List.exists_mem_cons_iff]
    refine or_congr_left ?_
    by_cases hkey : isPageId p.1 = true
    · simp [hkey, or_comm]
    · simp [hkey]

/-- **The pages that are read are the pages in the value.** -/
theorem mem_nested {j page : Json} {route : List String} :
    (route, page) ∈ nested j ↔ Holds j route page := by
  induction j using Json.induction generalizing route page with
  | object fields ih =>
    rw [nested, mem_nestedAmong]
    constructor
    · rintro ⟨p, hp, hkey, h | ⟨r, hr, h⟩⟩
      · obtain ⟨rfl, rfl⟩ := Prod.mk.inj h
        exact .member hp hkey
      · obtain ⟨rfl, rfl⟩ := Prod.mk.inj h
        exact .deeper hp hkey ((ih p hp).1 hr)
    · intro h
      cases h with
      | member hmem hkey => exact ⟨_, hmem, hkey, .inl rfl⟩
      | deeper hmem hkey h => exact ⟨_, hmem, hkey, .inr ⟨_, (ih _ hmem).2 h, rfl⟩⟩
  | _ => exact ⟨fun h => (by cases h), fun h => (by cases h)⟩

theorem mem_routes {j : Json} {route : List String} :
    route ∈ routes j ↔ route ∈ (nested j).map (·.1) := by
  simp only [routes, Set.mem_ofPred_eq, List.mem_map, Prod.exists, exists_and_right, exists_eq_right,
    mem_nested]

/-- The first name of the route of a page is the name of a member. -/
theorem exists_of_mem_nestedAmong {fields : List (String × Json)} {q : List String × Json}
    (h : q ∈ nestedAmong fields) : ∃ key ∈ Keyed.keys fields, ∃ route, q.1 = key :: route := by
  obtain ⟨p, hp, -, rfl | ⟨r, -, rfl⟩⟩ := mem_nestedAmong.1 h
  · exact ⟨p.1, List.mem_map_of_mem hp, [], rfl⟩
  · exact ⟨p.1, List.mem_map_of_mem hp, r.1, rfl⟩

theorem readBefore_nil_of_mem_nested {j : Json} {q : List String × Json} (h : q ∈ nested j) :
    ReadBefore q.1 [] := by
  cases j with
  | object fields =>
    obtain ⟨key, -, route, hroute⟩ := exists_of_mem_nestedAmong h
    rw [hroute]
    trivial
  | _ => cases h

/-- The pages inside a member are read in order, and before the member itself. -/
theorem pairwise_within {key : String} {child : Json}
    (h : (nested child).Pairwise fun q r => ReadBefore q.1 r.1) :
    ((nested child).map (within key) ++ [([key], child)]).Pairwise
      fun q r => ReadBefore q.1 r.1 := by
  rw [List.pairwise_append, List.pairwise_map]
  refine ⟨h.imp fun hbefore => .inr ⟨rfl, hbefore⟩, List.pairwise_singleton _ _, ?_⟩
  intro q hq r hr
  obtain ⟨p, hp, rfl⟩ := List.mem_map.1 hq
  obtain rfl := List.mem_singleton.1 hr
  exact .inr ⟨rfl, readBefore_nil_of_mem_nested hp⟩

/-- The pages among members in order are read in order. -/
theorem pairwise_nestedAmong {fields : Keyed Json} (hsorted : Keyed.Sorted fields)
    (h : ∀ p ∈ fields, (nested p.2).Pairwise fun q r => ReadBefore q.1 r.1) :
    (nestedAmong fields).Pairwise fun q r => ReadBefore q.1 r.1 := by
  induction fields with
  | nil => exact List.Pairwise.nil
  | cons p rest ih =>
    obtain ⟨hp, hrest⟩ := List.forall_mem_cons.1 h
    rw [nestedAmong, List.pairwise_append]
    refine ⟨?_, ih hsorted.tail hrest, ?_⟩
    · split
      · exact pairwise_within hp
      · exact List.Pairwise.nil
    · intro q hq r hr
      have hown : q ∈ nestedAmong [p] := List.mem_append_left _ hq
      obtain ⟨first, hfirst, route, hroute⟩ := exists_of_mem_nestedAmong hown
      obtain rfl := List.mem_singleton.1 hfirst
      obtain ⟨key, hkey, route', hroute'⟩ := exists_of_mem_nestedAmong hr
      rw [hroute, hroute']
      exact .inl ((Keyed.Sorted.cons_iff.1 hsorted).1 key hkey)

/-- **The pages in a tidy value are read in order.** -/
theorem pairwise_nested {j : Json} (hj : j.Tidy) :
    (nested j).Pairwise fun q r => ReadBefore q.1 r.1 := by
  induction j using Json.induction with
  | object fields ih =>
    rw [Json.tidy_object] at hj
    exact pairwise_nestedAmong hj.1 fun p hp => ih p hp (hj.2 p hp)
  | _ => exact List.Pairwise.nil

/-! ### The pages that are kept -/

/-- A page map is flattened to the pages among its members. -/
theorem flatten_eq {pages : Keyed Json} {flat : List (String × Json)}
    (h : flatten pages = .ok flat) : flat = (nested (.object pages)).map (flattened "") := by
  rw [nested, ← memberPages_eq]
  unfold flatten at h
  split at h
  · cases h
  · next hnone =>
    obtain rfl := Except.ok.inj h
    rw [List.find?_eq_none] at hnone
    clear h
    induction pages with
    | nil => rfl
    | cons p rest ih =>
      obtain ⟨hp, hrest⟩ := List.forall_mem_cons.1 hnone
      have hkey : isPageId p.1 = true := by simpa using hp
      rw [List.flatMap_cons, ih hrest, memberPages, if_pos hkey, String.empty_append]

/-- The page map of a tidy value is tidy. -/
theorem tidy_of_pageMap {fields pages rest : Keyed Json} (hj : (Json.object fields).Tidy)
    (h : pageMap fields = .ok (pages, rest)) : (Json.object pages).Tidy := by
  unfold pageMap at h
  split at h
  · next hget =>
    obtain ⟨rfl, -⟩ := Prod.mk.inj (Except.ok.inj h)
    exact (Json.tidy_object.1 hj).2 _ (Keyed.mem_of_get? hget)
  · cases h
  · split at h
    · obtain ⟨rfl, -⟩ := Prod.mk.inj (Except.ok.inj h)
      exact hj
    · cases h

/-- The pages of a document come from the pages of its page map, each read under its id. -/
theorem exists_of_ofJson {j : Json} {document : Document} (h : ofJson j = .ok document) :
    ∃ fields pages rest, j = .object fields ∧ pageMap fields = .ok (pages, rest) ∧
      ∃ steps : List String × Json → List Step,
        (∀ q ∈ nested (.object pages),
          readPage (String.join q.1) (ownContent q.2) = .ok (steps q)) ∧
        document.pages =
          Keyed.ofList ((nested (.object pages)).map fun q => (String.join q.1, steps q)) := by
  cases j with
  | object fields =>
    obtain ⟨⟨pages, rest⟩, hpages, h⟩ := bind_eq_ok_iff.1 h
    obtain ⟨flat, hflat, h⟩ := bind_eq_ok_iff.1 h
    obtain ⟨read, hread, h⟩ := bind_eq_ok_iff.1 h
    obtain ⟨triggers, -, h⟩ := bind_eq_ok_iff.1 h
    obtain ⟨settings, -, h⟩ := bind_eq_ok_iff.1 h
    obtain rfl := Except.ok.inj h
    obtain rfl := flatten_eq hflat
    obtain ⟨steps, hsteps, rfl⟩ := exists_of_readPages hread
    refine ⟨fields, pages, rest, rfl, hpages, fun q => steps (flattened "" q), ?_, ?_⟩
    · intro q hq
      simpa [flattened] using hsteps _ (List.mem_map_of_mem hq)
    · simp [flattened, Function.comp_def]
  | _ => cases h

section

variable {root : Json} {document : Document} {steps : List String × Json → List Step}

/-- The ids of a document are those of the pages that were read. -/
theorem mem_keys_pages
    (h : document.pages = Keyed.ofList ((nested root).map fun q => (String.join q.1, steps q)))
    {id : String} : id ∈ Keyed.keys document.pages ↔ id ∈ String.join '' routes root := by
  rw [h, Keyed.mem_keys_ofList]
  simp [Keyed.keys, mem_routes]

/-- A page that was read is the page under its id, unless a page with that id is read later. -/
theorem page?_or_later (hroot : root.Tidy)
    (h : document.pages = Keyed.ofList ((nested root).map fun q => (String.join q.1, steps q)))
    {route : List String} {page : Json} (hpage : Holds root route page) :
    document.page? (String.join route) = some (steps (route, page)) ∨
      ∃ other ∈ routes root, other ≠ route ∧ ReadBefore route other ∧
        String.join other = String.join route := by
  obtain ⟨earlier, later, hsplit⟩ := List.append_of_mem (mem_nested.2 hpage)
  have hbefore : ∀ q ∈ later, ReadBefore route q.1 := by
    have hpairwise := pairwise_nested hroot
    rw [hsplit, List.pairwise_append, List.pairwise_cons] at hpairwise
    exact hpairwise.2.1.1
  -- Whether a later page has the id decides what is found under it: earlier ones are written over.
  by_cases hid : ∃ q ∈ later, String.join q.1 = String.join route
  · obtain ⟨q, hq, hid⟩ := hid
    refine .inr ⟨q.1, mem_routes.2 ?_, ?_, hbefore q hq, hid⟩
    · rw [hsplit]
      exact List.mem_map_of_mem (List.mem_append_right _ (List.mem_cons_of_mem _ hq))
    · rintro rfl
      exact ReadBefore.irrefl q.1 (hbefore q hq)
  · left
    rw [page?, h, hsplit, List.map_append, List.map_cons]
    refine Keyed.get?_ofList_append_cons ?_ _ _
    simpa [Keyed.keys] using hid

end

/-- **What becomes of each page.** A document has a page under the id of each page of the page map
and under no other id. There are as many as in the page map exactly where no two of those have one
id. Each is read from its own content, and is the page under its id unless a page with that id is
read later. -/
theorem loaded_pages {j : Json} {document : Document} (hj : j.Tidy)
    (h : ofJson j = .ok document) :
    ∃ fields pages rest, j = .object fields ∧ pageMap fields = .ok (pages, rest) ∧
      (routes (.object pages)).Finite ∧
      (∀ id, (document.page? id).isSome ↔ id ∈ String.join '' routes (.object pages)) ∧
      (document.pages.length = (routes (.object pages)).ncard ↔
        (routes (.object pages)).InjOn String.join) ∧
      ∀ route page, Holds (.object pages) route page →
        ∃ steps, readPage (String.join route) (ownContent page) = .ok steps ∧
          (document.page? (String.join route) = some steps ∨
            ∃ other ∈ routes (.object pages), other ≠ route ∧ ReadBefore route other ∧
              String.join other = String.join route) := by
  obtain ⟨fields, pages, rest, rfl, hpages, steps, hsteps, hdocument⟩ := exists_of_ofJson h
  have hfinite : (routes (.object pages)).Finite :=
    (List.finite_toSet _).subset fun route hroute => mem_routes.1 hroute
  have hids : String.join '' routes (.object pages) = ↑(Keyed.keys document.pages).toFinset := by
    ext id
    rw [← mem_keys_pages hdocument, List.coe_toFinset, Set.mem_ofPred_eq]
  have hlength : document.pages.length = (String.join '' routes (.object pages)).ncard := by
    rw [hids, Set.ncard_coe_finset,
      List.toFinset_card_of_nodup (wellFormed_of_ofJson h).sorted.nodup, Keyed.keys,
      List.length_map]
  -- As many pages as ids: so all pages are there exactly if ids are not shared.
  refine ⟨fields, pages, rest, rfl, hpages, hfinite, fun id => ?_, ?_, fun route page hpage => ?_⟩
  · exact Keyed.contains_iff_mem_keys.trans (mem_keys_pages hdocument)
  · rw [hlength, Set.ncard_image_iff hfinite]
  · exact ⟨steps (route, page), hsteps _ (mem_nested.2 hpage),
      page?_or_later (tidy_of_pageMap hj hpages) hdocument hpage⟩

/-- The members of a page map in which two pages have one id: one inside `/a`, and one beside it. -/
def doubled : Keyed Json := [
  ("/a", .object [("/b", .object [("message", .text "nested")]), ("message", .text "shop")]),
  ("/a/b", .object [("message", .text "flat")])]

/-- The document keeps the page that is read last. -/
def doubledDocument : Document where
  pages := [("/a", [{ message := some (.whole "shop") }]),
    ("/a/b", [{ message := some (.whole "flat") }])]

theorem loaded_pages_doubled : (Json.object doubled).Tidy ∧
    ofJson (.object doubled) = .ok doubledDocument ∧
    ["/a", "/b"] ∈ routes (.object doubled) ∧ ["/a/b"] ∈ routes (.object doubled) ∧
    doubledDocument.pages.length ≠ (routes (.object doubled)).ncard ∧
    doubledDocument.page? "/a/b" = some [{ message := some (.whole "flat") }] := by
  have htidy : (Json.object doubled).Tidy := by
    simp only [doubled, Json.Tidy, Json.TidyFields, and_true, Keyed.Sorted, Keyed.keys]
    decide
  have hload : ofJson (.object doubled) = .ok doubledDocument := by rfl
  have hinner : Holds (.object doubled) ["/a", "/b"] (.object [("message", .text "nested")]) :=
    .deeper List.mem_cons_self (by decide) (.member List.mem_cons_self (by decide))
  have hflat : Holds (.object doubled) ["/a/b"] (.object [("message", .text "flat")]) :=
    .member (List.mem_cons_of_mem _ List.mem_cons_self) (by decide)
  obtain ⟨fields, pages, rest, hfields, hpages, -, -, hlength, hcontent⟩ :=
    loaded_pages htidy hload
  obtain rfl := Json.object.inj hfields
  obtain rfl : doubled = pages := (Prod.mk.inj (Except.ok.inj hpages)).1
  refine ⟨htidy, hload, ⟨_, hinner⟩, ⟨_, hflat⟩, fun heq => ?_, ?_⟩
  · exact absurd (hlength.1 heq ⟨_, hinner⟩ ⟨_, hflat⟩ rfl) (by decide)
  · obtain ⟨steps, hsteps, hkept⟩ := hcontent _ _ hflat
    obtain rfl : [{ message := some (.whole "flat") }] = steps := Except.ok.inj hsteps
    have hlast : ∀ other ∈ (nested (.object doubled)).map (·.1),
        ReadBefore ["/a/b"] other → String.join other ≠ "/a/b" := by decide
    refine hkept.resolve_right ?_
    rintro ⟨other, hother, -, hbefore, hid⟩
    exact hlast other (mem_routes.1 hother) hbefore hid

end Document

end Dialogue
