import Dialogue.Proofs.Document.Codec
import Dialogue.Proofs.Path
/-!
# Texts of locations

Which texts denote a location is told by a grammar: a page alone, or a page and an unsigned literal
in the last pair of brackets. The page in front of the brackets may hold brackets itself. Every
location with a page has a text that reads back, so every step of a loaded document can be named.

## Main definitions

- `IsLiteral` — the unsigned decimal literals of a number
- `Location.Spells` — the texts of a location

## Main statements

- `trim_eq_iff`, `readIndex?_eq_some_iff`
- `Location.parse?_eq_some_iff`
- `Location.text_faithful`
-/

namespace Dialogue

/-! ### White space at the ends -/

theorem dropWhile_isWhite_eq_self {cs : List Char} (h : ∀ c ∈ cs, isWhite c = false) :
    cs.dropWhile isWhite = cs := by
  cases cs with
  | nil => rfl
  | cons c rest => exact List.dropWhile_cons_of_neg (by simp [h c List.mem_cons_self])

/-- Trimming leaves a text without white space exactly when white space is all that surrounds it. -/
theorem trim_eq_iff {cs inner : List Char} (hinner : ∀ c ∈ inner, isWhite c = false) :
    trim cs = inner ↔ ∃ front back, cs = front ++ inner ++ back ∧
      (∀ c ∈ front, isWhite c = true) ∧ ∀ c ∈ back, isWhite c = true := by
  constructor
  · rintro rfl
    have hfront : cs.takeWhile isWhite ++ cs.dropWhile isWhite = cs :=
      List.takeWhile_append_dropWhile
    -- What is left is cut from behind, in the order of the reversed text.
    generalize hrest : cs.dropWhile isWhite = rest at hfront
    have hback : (rest.reverse.dropWhile isWhite).reverse ++
        (rest.reverse.takeWhile isWhite).reverse = rest := by
      rw [← List.reverse_append, List.takeWhile_append_dropWhile, List.reverse_reverse]
    refine ⟨cs.takeWhile isWhite, (rest.reverse.takeWhile isWhite).reverse, ?_, ?_, ?_⟩
    · rw [trim, hrest, trimEnd, List.append_assoc, hback, hfront]
    · exact List.all_eq_true.1 List.all_takeWhile
    · intro c hc
      exact List.all_eq_true.1 List.all_takeWhile c (List.mem_reverse.1 hc)
  · rintro ⟨front, back, rfl, hfront, hback⟩
    have hreverse : ∀ c ∈ inner.reverse, isWhite c = false :=
      fun c hc => hinner c (List.mem_reverse.1 hc)
    rw [trim, List.append_assoc, List.dropWhile_append_of_pos hfront]
    cases inner with
    | nil =>
      -- Nothing is left but white space, which the first pass drops.
      have hnone : back.dropWhile isWhite = [] := by
        have h : (back ++ []).dropWhile isWhite = [].dropWhile isWhite :=
          List.dropWhile_append_of_pos hback
        rwa [List.append_nil] at h
      rw [List.nil_append, hnone]
      rfl
    | cons c rest =>
      have hstart : (c :: rest ++ back).dropWhile isWhite = c :: rest ++ back :=
        List.dropWhile_cons_of_neg (by simp [hinner c List.mem_cons_self])
      have hend : ∀ d ∈ back.reverse, isWhite d = true :=
        fun d hd => hback d (List.mem_reverse.1 hd)
      rw [hstart, trimEnd, List.reverse_append, List.dropWhile_append_of_pos hend,
        dropWhile_isWhite_eq_self hreverse, List.reverse_reverse]

/-! ### Literals -/

/-- The text is an unsigned decimal literal of the number: an optional plus sign, then digits, with
zeros in front or without. -/
def IsLiteral (cs : List Char) (n : Nat) : Prop :=
  ∃ digits : List Char, digits ≠ [] ∧ (∀ c ∈ digits, c.isDigit = true) ∧
    Nat.ofDigitChars 10 digits 0 = n ∧ (cs = digits ∨ cs = '+' :: digits)

theorem IsLiteral.isWhite_eq_false {cs : List Char} {n : Nat} (h : IsLiteral cs n) :
    ∀ c ∈ cs, isWhite c = false := by
  obtain ⟨digits, -, hdigits, -, rfl | rfl⟩ := h
  · exact fun c hc => isWhite_of_isDigit (hdigits c hc)
  · intro c hc
    rcases List.mem_cons.1 hc with rfl | hc
    · decide
    · exact isWhite_of_isDigit (hdigits c hc)

theorem readDigits?_eq_some_iff {cs : List Char} {n : Nat} :
    readDigits? cs = some n ↔ cs ≠ [] ∧ (∀ c ∈ cs, c.isDigit = true) ∧
      Nat.ofDigitChars 10 cs 0 = n ∧ n < indexBound := by
  unfold readDigits?
  by_cases hgood : cs ≠ [] ∧ ∀ c ∈ cs, c.isDigit = true
  · obtain ⟨hne, hall⟩ := hgood
    have hall' : cs.all Char.isDigit = true := List.all_eq_true.2 hall
    have hne' : cs.isEmpty = false := List.isEmpty_eq_false_iff.2 hne
    rw [if_neg (by simp [hall', hne'])]
    show (if Nat.ofDigitChars 10 cs 0 < indexBound then some (Nat.ofDigitChars 10 cs 0) else none) =
      some n ↔ _
    by_cases hlt : Nat.ofDigitChars 10 cs 0 < indexBound
    · rw [if_pos hlt, Option.some.injEq]
      exact ⟨fun h => ⟨hne, hall, h, h ▸ hlt⟩, fun h => h.2.2.1⟩
    · rw [if_neg hlt]
      exact ⟨fun h => (by cases h), fun h => absurd h.2.2.2 (h.2.2.1 ▸ hlt)⟩
  · rw [if_pos]
    · exact ⟨fun h => (by cases h), fun h => absurd ⟨h.1, h.2.1⟩ hgood⟩
    · by_contra hneither
      refine hgood ⟨?_, ?_⟩
      · rintro rfl
        simp at hneither
      · simp only [Bool.or_eq_true, not_or, Bool.not_eq_true', Bool.not_eq_false] at hneither
        exact List.all_eq_true.1 hneither.2

/-- **The texts that are read as an index** are the literals that are small enough. -/
theorem readIndex?_eq_some_iff {cs : List Char} {n : Nat} :
    readIndex? cs = some n ↔ IsLiteral cs n ∧ n < indexBound := by
  unfold readIndex?
  split
  · next digits =>
    rw [readDigits?_eq_some_iff]
    constructor
    · rintro ⟨hne, hdigits, hvalue, hlt⟩
      exact ⟨⟨digits, hne, hdigits, hvalue, .inr rfl⟩, hlt⟩
    · rintro ⟨⟨others, hne, hdigits, hvalue, heq | heq⟩, hlt⟩
      · have hplus := hdigits '+' (heq ▸ List.mem_cons_self)
        exact absurd hplus (by decide)
      · obtain rfl := (List.cons.inj heq).2
        exact ⟨hne, hdigits, hvalue, hlt⟩
  · next hunsigned =>
    rw [readDigits?_eq_some_iff]
    constructor
    · rintro ⟨hne, hdigits, hvalue, hlt⟩
      exact ⟨⟨cs, hne, hdigits, hvalue, .inl rfl⟩, hlt⟩
    · rintro ⟨⟨digits, hne, hdigits, hvalue, rfl | rfl⟩, hlt⟩
      · exact ⟨hne, hdigits, hvalue, hlt⟩
      · exact absurd rfl (hunsigned digits)

/-! ### Locations -/

namespace Location

/-- The texts of a location. A page alone stands for its first step; it then holds no opening
bracket and does not end in a closing one. An index stands in brackets, with white space around it
or none. -/
inductive Spells : String → Location → Prop where
  | bare {page : String} (hpage : page ≠ "") (hopen : '[' ∉ page.toList)
      (hclose : page.toList.getLast? ≠ some ']') : Spells page ⟨page, 0⟩
  | indexed {page : String} {front literal back : List Char} {index : Nat} (hpage : page ≠ "")
      (hfront : ∀ c ∈ front, isWhite c = true) (hliteral : IsLiteral literal index)
      (hback : ∀ c ∈ back, isWhite c = true) (hindex : index < indexBound) :
      Spells (page ++ "[" ++ String.ofList (front ++ literal ++ back) ++ "]") ⟨page, index⟩

theorem bracket_not_mem {front literal back : List Char} {index : Nat}
    (hfront : ∀ c ∈ front, isWhite c = true) (hliteral : IsLiteral literal index)
    (hback : ∀ c ∈ back, isWhite c = true) : '[' ∉ front ++ literal ++ back := by
  intro hmem
  rw [List.mem_append, List.mem_append] at hmem
  rcases hmem with (hmem | hmem) | hmem
  · exact absurd (hfront _ hmem) (by decide)
  · obtain ⟨digits, -, hdigits, -, rfl | rfl⟩ := hliteral
    · exact absurd (hdigits _ hmem) (by decide)
    · exact absurd (hdigits _ ((List.mem_cons.1 hmem).resolve_left (by decide))) (by decide)
  · exact absurd (hback _ hmem) (by decide)

theorem Spells.parse?_eq {s : String} {l : Location} (h : Spells s l) : parse? s = some l := by
  cases h with
  | bare hpage hopen hclose => exact parse?_eq_start_iff.2 ⟨hpage, hopen, hclose⟩
  | @indexed page front literal back index hpage hfront hliteral hback hindex =>
    have htrim : trim (front ++ literal ++ back) = literal :=
      (trim_eq_iff hliteral.isWhite_eq_false).2 ⟨front, back, rfl, hfront, hback⟩
    have hread : readIndex? literal = some index := readIndex?_eq_some_iff.2 ⟨hliteral, hindex⟩
    rw [parse?_indexed hpage (bracket_not_mem hfront hliteral hback), htrim, hread]
    rfl

/-- **The texts that denote a location** are the ones of the grammar. -/
theorem parse?_eq_some_iff {s : String} {l : Location} : parse? s = some l ↔ Spells s l := by
  refine ⟨fun h => ?_, Spells.parse?_eq⟩
  have hstart := @parse?_eq_start_iff s
  have hparse := h
  unfold parse? at h
  split at h
  · next body heq =>
    have hs : s.toList = body.reverse ++ [']'] := by
      rw [← List.reverse_reverse s.toList, heq, List.reverse_cons]
    split at h
    · next page inside hsplit =>
      split at h
      · cases h
      · next hpage =>
        obtain ⟨index, hread, rfl⟩ := Option.map_eq_some_iff.1 h
        obtain ⟨hliteral, hindex⟩ := readIndex?_eq_some_iff.1 hread
        obtain ⟨front, back, hinside, hfront, hback⟩ :=
          (trim_eq_iff hliteral.isWhite_eq_false).1 rfl
        have htext : s = String.ofList page ++ "[" ++
            String.ofList (front ++ trim inside ++ back) ++ "]" := by
          apply String.toList_injective
          simp [hs, eq_append_of_splitLast? hsplit, ← hinside]
        rw [htext]
        refine .indexed (fun hempty => hpage ?_) hfront hliteral hback hindex
        simpa using congrArg String.toList hempty
    · cases h
  · next hbody =>
    split at h
    · cases h
    · obtain rfl := Option.some.inj h
      obtain ⟨hne, hopen, hclose⟩ := hstart.1 hparse
      exact .bare hne hopen hclose

theorem Spells.page_ne_empty {s : String} {l : Location} (h : Spells s l) : l.page ≠ "" := by
  cases h with
  | bare hpage => exact hpage
  | indexed hpage => exact hpage

theorem Spells.index_lt {s : String} {l : Location} (h : Spells s l) : l.index < indexBound := by
  cases h with
  | bare => exact Nat.two_pow_pos 64
  | indexed _ _ _ _ hindex => exact hindex

end Location

namespace Document

/-- The id of a page that was loaded is not empty. -/
theorem page_ne_empty {j : Json} {document : Document} (h : ofJson j = .ok document) {l : Location}
    {step : Step} (hstep : document.step? l = some step) : l.page ≠ "" := by
  obtain ⟨steps, hpage, -⟩ := Option.bind_eq_some_iff.1 hstep
  have hslash := (wellFormed_of_ofJson h).isPageId _ (Keyed.mem_of_get? hpage)
  intro hempty
  have hslash' : isPageId "" = true := hempty ▸ hslash
  exact absurd hslash' (by decide)

end Document

namespace Location

/-- **Texts of locations are faithful.** The text of a location with a page and an index denotes it
again, whatever characters the page holds. The texts that denote a location are exactly those of the
grammar, and what a text denotes has a text that denotes the same. So each step of a loaded document
has a text from which one gets to exactly this step, wherever one comes from. -/
theorem text_faithful :
    (∀ l : Location, l.page ≠ "" → l.index < indexBound → parse? l.text = some l) ∧
    (∀ s l, parse? s = some l ↔ Spells s l) ∧
    (∀ s l, parse? s = some l → parse? l.text = some l) ∧
    ∀ j document, Document.ofJson j = .ok document → ∀ l step, document.step? l = some step →
      l.index < indexBound → ∀ source : Option Location,
        ((read l.text).bind fun target => document.navigate source (some target)) = .ok (some l) ∧
          document.current (some l) = .ok (some step) := by
  refine ⟨fun l => parse?_text, fun s l => parse?_eq_some_iff, fun s l h => ?_, ?_⟩
  · have hspells := parse?_eq_some_iff.1 h
    exact parse?_text hspells.page_ne_empty hspells.index_lt
  · intro j document hload l step hstep hindex source
    have hread : read l.text = .ok l := by
      rw [read, parse?_text (Document.page_ne_empty hload hstep) hindex]
    constructor
    · rw [hread]
      show document.navigate source (some l) = _
      rw [Document.navigate, hstep]
      rfl
    · rw [Document.current, hstep]

/-- A page whose id looks like a location, with two steps. -/
def bracketed : Json :=
  .object [("/a[1]",
    .array [.object [("message", .text "one")], .object [("message", .text "two")]])]

/-- The last pair of brackets holds the index, and only there a plus sign, zeros and blanks may
stand. -/
theorem text_faithful_bracketed :
    (∃ document, Document.ofJson bracketed = .ok document ∧ ∃ step,
      document.step? ⟨"/a[1]", 1⟩ = some step ∧
      ((read "/a[1][1]").bind fun target => document.navigate none (some target)) =
        .ok (some ⟨"/a[1]", 1⟩)) ∧
      parse? "/a[1][ +01 ]" = some ⟨"/a[1]", 1⟩ ∧ parse? "/a[1][1]" = some ⟨"/a[1]", 1⟩ := by
  obtain ⟨-, hgrammar, hagain, hloaded⟩ := text_faithful
  have hliteral : IsLiteral ['+', '0', '1'] 1 := ⟨['0', '1'], by simp, by simp, rfl, .inr rfl⟩
  have hspells : Spells ("/a[1]" ++ "[" ++ String.ofList ([' '] ++ ['+', '0', '1'] ++ [' ']) ++ "]")
      ⟨"/a[1]", 1⟩ :=
    .indexed (by decide) (by simp [isWhite]) hliteral (by simp [isWhite]) (by decide)
  have hblanks : parse? "/a[1][ +01 ]" = some ⟨"/a[1]", 1⟩ := (hgrammar _ _).2 hspells
  have hback := hloaded bracketed _ rfl ⟨"/a[1]", 1⟩ _ rfl (by decide) none
  exact ⟨⟨_, rfl, _, rfl, hback.1⟩, hblanks, hagain _ _ hblanks⟩

end Location

end Dialogue
