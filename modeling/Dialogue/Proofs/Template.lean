import Dialogue.Document.Lint
import Dialogue.Template
/-!
# Placeholders in texts

Cutting a text from the left finds every placeholder that is written anywhere in it, since no two of
them overlap: no opening brace stands behind the first two of a placeholder. A text in which no two
opening braces stand side by side holds no placeholder, and expanding it changes nothing, whatever is
stored.

## Main definitions

- `Template.IsPath` — the paths that stand in placeholders
- `Template.Occurs` — a placeholder is written somewhere in a text

## Main statements

- `Template.placeholder?_eq_some_iff`, `Template.lone?_eq_some_iff`
- `Template.flatMap_written_pieces`, `Template.mem_pieces_iff`, `Template.pieces_append_written`
- `Store.expand_of_not_occurs`, `Store.expand_of_not_opens`, `Store.expand_of_not_mem`
-/

namespace Dialogue

namespace Lint

/-- A text without an opening brace has no two of them. -/
theorem opensPlaceholder_of_not_mem {cs : List Char} (h : '{' ∉ cs) : opensPlaceholder cs = false := by
  induction cs with
  | nil => rfl
  | cons c rest ih =>
    rw [List.mem_cons, not_or] at h
    unfold opensPlaceholder
    split
    · next heq => exact absurd (List.cons.inj heq).1.symm h.1
    · next heq =>
      obtain ⟨-, rfl⟩ := List.cons.inj heq
      exact ih h.2
    · rfl

/-- What follows in a text without two opening braces has none either. -/
theorem opensPlaceholder_tail {c : Char} {rest : List Char}
    (h : opensPlaceholder (c :: rest) = false) : opensPlaceholder rest = false := by
  unfold opensPlaceholder at h
  split at h
  · cases h
  · next heq =>
    obtain ⟨-, rfl⟩ := List.cons.inj heq
    exact h
  · next heq => cases heq

end Lint

namespace Template

open Lint

/-- A placeholder starts with two opening braces. -/
theorem placeholder?_eq_none {cs : List Char} (h : opensPlaceholder cs = false) :
    placeholder? cs = none := by
  unfold placeholder?
  split
  · cases h
  · rfl

/-- Without two opening braces every character stands for itself. -/
theorem pieces_of_not_opens {cs : List Char} (h : opensPlaceholder cs = false) :
    pieces cs = cs.map .char := by
  induction cs with
  | nil => rw [pieces, List.map_nil]
  | cons c rest ih =>
    have hnone := placeholder?_eq_none h
    rw [pieces]
    split
    · next heq => rw [hnone] at heq; cases heq
    · rw [ih (opensPlaceholder_tail h), List.map_cons]

/-! ### Reading one placeholder -/

/-- A path as it stands in a placeholder: a nonempty row of word characters, points and brackets. -/
def IsPath (path : List Char) : Prop := path ≠ [] ∧ ∀ c ∈ path, isPathChar c = true

/-- A brace stands in no path. -/
theorem isPathChar_brace : isPathChar '{' = false ∧ isPathChar '}' = false := by decide +kernel

/-- **A placeholder is in front exactly when it is written there.** -/
theorem placeholder?_eq_some_iff {cs path rest : List Char} :
    placeholder? cs = some (path, rest) ↔ IsPath path ∧ cs = written path ++ rest := by
  constructor
  · intro h
    unfold placeholder? at h
    split at h
    · next body =>
      dsimp only at h
      split at h
      · next after hafter =>
        split at h
        · cases h
        · next hne =>
          obtain ⟨rfl, rfl⟩ := Prod.mk.inj (Option.some.inj h)
          have hsplit : body.takeWhile isPathChar ++ body.dropWhile isPathChar = body :=
            List.takeWhile_append_dropWhile
          rw [hafter] at hsplit
          refine ⟨⟨by simpa using hne, List.all_eq_true.1 List.all_takeWhile⟩, ?_⟩
          rw [written, List.cons_append, List.cons_append, List.append_assoc]
          exact congrArg (fun body => '{' :: '{' :: body) hsplit.symm
      · cases h
    · cases h
  · rintro ⟨⟨hne, hall⟩, rfl⟩
    have hclose := isPathChar_brace.2
    have hbody : written path ++ rest = '{' :: '{' :: (path ++ '}' :: '}' :: rest) := by
      simp [written]
    rw [hbody, placeholder?, List.takeWhile_append_of_pos hall, List.dropWhile_append_of_pos hall,
      List.takeWhile_cons_of_neg (by simp [hclose]), List.dropWhile_cons_of_neg (by simp [hclose]),
      List.append_nil]
    exact if_neg (by simpa using hne)

theorem pieces_of_placeholder? {cs path rest : List Char}
    (h : placeholder? cs = some (path, rest)) : pieces cs = .placeholder path :: pieces rest := by
  cases cs with
  | nil => cases h
  | cons c cs =>
    rw [pieces]
    split
    · next heq =>
      obtain ⟨rfl, rfl⟩ := Prod.mk.inj (Option.some.inj (heq.symm.trans h))
      rfl
    · next heq => cases heq.symm.trans h

theorem pieces_of_none {c : Char} {cs : List Char} (h : placeholder? (c :: cs) = none) :
    pieces (c :: cs) = .char c :: pieces cs := by
  rw [pieces]
  split
  · next heq => cases heq.symm.trans h
  · rfl

/-- What holds of the pieces of the empty text, and passes on from behind a placeholder or another
character in front, holds of the pieces of every text. -/
@[elab_as_elim]
theorem pieces_induction {motive : List Char → List Piece → Prop} (nil : motive [] [])
    (placeholder : ∀ path rest, IsPath path → motive rest (pieces rest) →
      motive (written path ++ rest) (.placeholder path :: pieces rest))
    (char : ∀ c rest, placeholder? (c :: rest) = none → motive rest (pieces rest) →
      motive (c :: rest) (.char c :: pieces rest))
    (cs : List Char) : motive cs (pieces cs) := by
  induction cs using pieces.induct with
  | case1 =>
    rw [pieces]
    exact nil
  | case2 c cs path rest h ih =>
    obtain ⟨hpath, hcs⟩ := placeholder?_eq_some_iff.1 h
    rw [pieces_of_placeholder? h, hcs]
    exact placeholder path rest hpath ih
  | case3 c cs h ih =>
    rw [pieces_of_none h]
    exact char c cs h ih

/-! ### Reading all placeholders -/

/-- The characters of a piece. -/
def Piece.written : Piece → List Char
  | .char c => [c]
  | .placeholder path => Template.written path

/-- **The pieces make up the text.** -/
theorem flatMap_written_pieces (cs : List Char) : (pieces cs).flatMap Piece.written = cs := by
  induction cs using pieces_induction with
  | nil => rfl
  | placeholder path rest _ ih => rw [List.flatMap_cons, ih, Piece.written]
  | char c rest _ ih =>
    rw [List.flatMap_cons, ih]
    rfl

/-- A placeholder is written somewhere in the text. -/
def Occurs (path cs : List Char) : Prop := IsPath path ∧ written path <:+: cs

/-- No placeholder starts where there is no opening brace. -/
theorem infix_of_infix_append {path front rest : List Char} (h : written path <:+: front ++ rest)
    (hfront : '{' ∉ front) : written path <:+: rest := by
  induction front with
  | nil => exact h
  | cons c front ih =>
    obtain ⟨hc, hfront⟩ := List.ne_and_not_mem_of_not_mem_cons hfront
    rcases List.infix_cons_iff.1 h with hstart | hlater
    · exact absurd (List.cons_prefix_cons.1 hstart).1 hc
    · exact ih hlater hfront

/-- Behind the first two braces of a placeholder no opening brace stands. -/
theorem IsPath.brace_not_mem {path : List Char} (h : IsPath path) : '{' ∉ path ++ ['}', '}'] := by
  intro hmem
  rcases List.mem_append.1 hmem with hpath | hclose
  · have hc := h.2 '{' hpath
    rw [isPathChar_brace.1] at hc
    cases hc
  · exact absurd hclose (by decide)

/-- **Placeholders do not overlap**: one that is written in a text with a placeholder in front is that
one or stands behind it. -/
theorem infix_written_append {path front rest : List Char} (hfront : IsPath front)
    (h : written path <:+: written front ++ rest) :
    written path <+: written front ++ rest ∨ written path <:+: rest := by
  rcases List.infix_cons_iff.1 h with hstart | hlater
  · exact .inl hstart
  · have hbody : written path <:+: (front ++ ['}', '}']) ++ rest := by
      rcases List.infix_cons_iff.1 hlater with hsecond | hbody
      · -- The second of its braces would be a character of the path in front.
        obtain ⟨c, cs, rfl⟩ := List.exists_cons_of_ne_nil hfront.1
        have hbrace := (List.cons_prefix_cons.1 (List.cons_prefix_cons.1 hsecond).2).1
        have hc := hfront.2 c List.mem_cons_self
        rw [← hbrace, isPathChar_brace.1] at hc
        cases hc
      · exact hbody
    exact .inr (infix_of_infix_append hbody hfront.brace_not_mem)

/-- **Cutting a text finds exactly the placeholders that are written in it.** -/
theorem mem_pieces_iff {path cs : List Char} : .placeholder path ∈ pieces cs ↔ Occurs path cs := by
  induction cs using pieces_induction with
  | nil => exact iff_of_false List.not_mem_nil fun h => nomatch List.infix_nil.1 h.2
  | placeholder front rest hfront ih =>
    rw [List.mem_cons, ih]
    constructor
    · rintro (hsame | ⟨hpath, hinfix⟩)
      · rw [Piece.placeholder.inj hsame]
        exact ⟨hfront, (List.prefix_append _ _).isInfix⟩
      · exact ⟨hpath, hinfix.trans (List.suffix_append _ _).isInfix⟩
    · rintro ⟨hpath, hinfix⟩
      rcases infix_written_append hfront hinfix with ⟨after, hstart⟩ | hlater
      · have hread := placeholder?_eq_some_iff.2 ⟨hpath, hstart.symm⟩
        rw [placeholder?_eq_some_iff.2 ⟨hfront, rfl⟩] at hread
        obtain ⟨rfl, -⟩ := Prod.mk.inj (Option.some.inj hread)
        exact .inl rfl
      · exact .inr ⟨hpath, hlater⟩
  | char c rest hnone ih =>
    rw [List.mem_cons, ih]
    constructor
    · rintro (hsame | ⟨hpath, hinfix⟩)
      · cases hsame
      · exact ⟨hpath, List.infix_cons hinfix⟩
    · rintro ⟨hpath, hinfix⟩
      rcases List.infix_cons_iff.1 hinfix with ⟨after, hstart⟩ | hlater
      · cases hnone.symm.trans (placeholder?_eq_some_iff.2 ⟨hpath, hstart.symm⟩)
      · exact .inr ⟨hpath, hlater⟩

/-- What is no placeholder in front does not become one by what follows, when that begins with two
opening braces. -/
theorem placeholder?_append_braces {c : Char} {cs : List Char}
    (h : placeholder? (c :: cs) = none) (rest : List Char) :
    placeholder? (c :: (cs ++ '{' :: '{' :: rest)) = none := by
  rw [Option.eq_none_iff_forall_ne_some]
  rintro ⟨path, after⟩ hsome
  obtain ⟨hpath, hwritten⟩ := placeholder?_eq_some_iff.1 hsome
  obtain ⟨rfl, hbody⟩ : c = '{' ∧ cs ++ '{' :: '{' :: rest = '{' :: ((path ++ ['}', '}']) ++ after) :=
    List.cons.inj hwritten
  cases cs with
  | nil =>
    -- The first character of the path would be a brace.
    obtain ⟨first, others, rfl⟩ := List.exists_cons_of_ne_nil hpath.1
    have hbrace : '{' = first := (List.cons.inj (List.cons.inj hbody).2).1
    exact hpath.brace_not_mem (hbrace ▸ List.mem_cons_self)
  | cons d cs =>
    obtain ⟨rfl, hpathBody⟩ := List.cons.inj hbody
    rcases List.append_eq_append_iff.1 hpathBody with ⟨between, hwritten, hrest⟩ | ⟨between, hcs, -⟩
    · cases between with
      | nil =>
        rw [List.append_nil] at hwritten
        have hread : placeholder? ('{' :: '{' :: cs) = some (path, []) :=
          placeholder?_eq_some_iff.2 ⟨hpath, by rw [← hwritten, written, List.append_nil]⟩
        cases h.symm.trans hread
      | cons brace between =>
        obtain ⟨rfl, -⟩ := List.cons.inj hrest
        exact hpath.brace_not_mem (hwritten ▸ List.mem_append_right _ List.mem_cons_self)
    · -- The placeholder would be in front already.
      have hread : placeholder? ('{' :: '{' :: cs) = some (path, between) :=
        placeholder?_eq_some_iff.2 ⟨hpath, by rw [hcs]; rfl⟩
      cases h.symm.trans hread

/-- **Cutting goes on right behind each placeholder**, and finds in front of it what it finds there
anyway. -/
theorem pieces_append_written {path : List Char} (hpath : IsPath path) (front rest : List Char) :
    pieces (front ++ (written path ++ rest)) = pieces front ++ .placeholder path :: pieces rest := by
  induction front using pieces_induction with
  | nil => exact pieces_of_placeholder? (placeholder?_eq_some_iff.2 ⟨hpath, rfl⟩)
  | placeholder first front hfirst ih =>
    rw [List.append_assoc, pieces_of_placeholder? (placeholder?_eq_some_iff.2 ⟨hfirst, rfl⟩), ih]
    rfl
  | char c front hnone ih =>
    have hnone' : placeholder? (c :: (front ++ (written path ++ rest))) = none :=
      placeholder?_append_braces hnone _
    rw [List.cons_append, pieces_of_none hnone', ih, List.cons_append]

/-- **A text is a lone placeholder exactly when it is written as one.** -/
theorem lone?_eq_some_iff {s : String} {path : List Char} :
    lone? s = some path ↔ IsPath path ∧ s.toList = written path := by
  constructor
  · intro h
    unfold lone? at h
    split at h
    · next only hpieces =>
      obtain rfl := Option.some.inj h
      have hpath : Occurs only s.toList :=
        mem_pieces_iff.1 (hpieces ▸ List.mem_singleton.2 rfl)
      refine ⟨hpath.1, ?_⟩
      rw [← flatMap_written_pieces s.toList, hpieces]
      exact List.append_nil _
    · cases h
  · rintro ⟨hpath, hs⟩
    have hread : placeholder? s.toList = some (path, []) :=
      placeholder?_eq_some_iff.2 ⟨hpath, by rw [hs, List.append_nil]⟩
    rw [lone?, pieces_of_placeholder? hread, pieces]

end Template

/-- A text without two opening braces holds no placeholder. -/
theorem Template.not_occurs_of_not_opens {cs : List Char} (h : Lint.opensPlaceholder cs = false)
    (path : List Char) : ¬ Occurs path cs := by
  rw [← mem_pieces_iff, pieces_of_not_opens h]
  intro hmem
  obtain ⟨c, -, heq⟩ := List.mem_map.1 hmem
  cases heq

/-- Expanding a text without a placeholder gives the text. -/
theorem Store.expand_of_not_occurs (store : Store) {s : String}
    (h : ∀ path, ¬ Template.Occurs path s.toList) : store.expand s = s := by
  have hrender : ∀ piece ∈ Template.pieces s.toList,
      Template.Piece.render store piece = Template.Piece.written piece := by
    intro piece hpiece
    cases piece with
    | char c => rfl
    | placeholder path => exact absurd (Template.mem_pieces_iff.1 hpiece) (h path)
  rw [expand, List.flatMap_def, List.map_congr_left hrender, ← List.flatMap_def,
    Template.flatMap_written_pieces, String.ofList_toList]

/-- Expanding a text without two opening braces gives the text. -/
theorem Store.expand_of_not_opens (store : Store) {s : String}
    (h : Lint.opensPlaceholder s.toList = false) : store.expand s = s :=
  store.expand_of_not_occurs (Template.not_occurs_of_not_opens h)

/-- Expanding a text without an opening brace gives the text. -/
theorem Store.expand_of_not_mem (store : Store) {s : String} (h : '{' ∉ s.toList) :
    store.expand s = s :=
  store.expand_of_not_opens (Lint.opensPlaceholder_of_not_mem h)

end Dialogue
