import Dialogue.Pattern.Reader
import Dialogue.Proofs.Except
import Mathlib.Data.List.TakeWhile
/-!
# What reading an escape takes

Behind its letter an escape may go on: with hexadecimal digits, or with a name in braces. Outside of
verbose patterns none of what it takes there is a backslash or a closing bracket, since no digit and no
name of a property is. So whoever looks for the end of a class need not read escapes to their ends.

## Main definitions

- `Takes` — reading took only characters that neither start an escape nor end a class

## Main statements

- `takes_of_readEscape`
-/

namespace Dialogue.Pattern

/-- Whether a character neither starts an escape nor ends a class. -/
def isInner (c : Char) : Bool := c != '\\' && c != ']'

/-- The second text is what is left of the first when some characters were taken off that neither
start an escape nor end a class. -/
inductive Takes : List Char → List Char → Prop
  | nothing (cs : List Char) : Takes cs cs
  | more {c : Char} {cs rest : List Char} : isInner c = true → Takes cs rest → Takes (c :: cs) rest

variable {flags : Flags} {cs rest : List Char}

theorem Flags.skip_eq (hverbose : flags.verbose = false) (cs : List Char) : flags.skip cs = cs := by
  rw [Flags.skip, hverbose]
  rfl

/-! ### Hexadecimal digits -/

theorem isInner_of_hexDigit? {c : Char} {d : Nat} (h : hexDigit? c = some d) :
    isInner c = true := by
  have hbackslash : hexDigit? '\\' = none := by decide
  have hbracket : hexDigit? ']' = none := by decide
  rw [isInner, Bool.and_eq_true, bne_iff_ne, bne_iff_ne]
  constructor
  · rintro rfl
    cases hbackslash.symm.trans h
  · rintro rfl
    cases hbracket.symm.trans h

theorem takes_of_readHexDigits (hverbose : flags.verbose = false) {count value : Nat} {c : Char}
    (h : readHexDigits flags count value cs = .ok (c, rest)) : Takes cs rest := by
  induction count generalizing value cs with
  | zero =>
    obtain ⟨c, -, h⟩ := bind_eq_ok_iff.1 h
    cases h
    exact .nothing _
  | succ count ih =>
    rw [readHexDigits, Flags.skip_eq hverbose] at h
    cases cs with
    | nil => cases h
    | cons c cs =>
      dsimp only at h
      cases hdigit : hexDigit? c with
      | none =>
        rw [hdigit] at h
        cases h
      | some d =>
        rw [hdigit] at h
        exact .more (isInner_of_hexDigit? hdigit) (ih h)

theorem takes_of_readHexBraces (hverbose : flags.verbose = false) {value? : Option Nat} {c : Char}
    (h : readHexBraces flags value? cs = .ok (c, rest)) : Takes cs rest := by
  induction cs generalizing value? with
  | nil => cases h
  | cons d cs ih =>
    rw [readHexBraces.eq_def] at h
    dsimp only at h
    rw [hverbose, Bool.false_and, if_neg Bool.false_ne_true] at h
    split at h
    · next hclose =>
      cases value? with
      | none => cases h
      | some value =>
        obtain ⟨c, -, h⟩ := bind_eq_ok_iff.1 h
        cases h
        rw [hclose]
        exact .more rfl (.nothing _)
    · cases hdigit : hexDigit? d with
      | none =>
        rw [hdigit] at h
        cases h
      | some value =>
        rw [hdigit] at h
        exact .more (isInner_of_hexDigit? hdigit) (ih h)

theorem takes_of_readHex (hverbose : flags.verbose = false) {digits : Nat} {c : Char}
    (h : readHex flags digits cs = .ok (c, rest)) : Takes cs rest := by
  rw [readHex, Flags.skip_eq hverbose] at h
  split at h
  · cases h
  · exact .more rfl (takes_of_readHexBraces hverbose h)
  · exact takes_of_readHexDigits hverbose h

/-! ### Properties -/

theorem eq_of_isInner_eq_false {c : Char} (h : isInner c = false) : c = '\\' ∨ c = ']' := by
  rw [isInner, Bool.and_eq_false_iff, bne_eq_false_iff_eq, bne_eq_false_iff_eq] at h
  exact h

theorem isInner_of_toLower {c : Char} (h : isInner c.toLower = true) : isInner c = true := by
  by_contra hc
  rcases eq_of_isInner_eq_false (Bool.eq_false_iff.2 hc) with rfl | rfl <;> cases h

/-- What a name is folded to, given whether a leading `is` was taken off and what is left. -/
def looseBody (hadIs : Bool) (body : List Char) : String :=
  let kept := (body.filter fun c => c.toNat < 128 && c != ' ' && c != '-' && c != '_').map Char.toLower
  if hadIs && kept == ['c'] then "isc" else String.ofList kept

theorem looseName_cons_cons (a b : Char) (rest : List Char) :
    looseName (a :: b :: rest) = if a.toLower = 'i' ∧ b.toLower = 's' then looseBody true rest
      else looseBody false (a :: b :: rest) := by
  unfold looseName
  dsimp only
  split <;> rfl

theorem all_isInner_of_looseBody {hadIs : Bool} {body : List Char}
    (h : (looseBody hadIs body).toList.all isInner = true) : body.all isInner = true := by
  have hkept : ((body.filter fun c => c.toNat < 128 && c != ' ' && c != '-' && c != '_').map
      Char.toLower).all isInner = true := by
    unfold looseBody at h
    dsimp only at h
    split at h
    · next heq =>
      rw [Bool.and_eq_true, beq_iff_eq] at heq
      rw [heq.2]
      rfl
    · rwa [String.toList_ofList] at h
  rw [List.all_eq_true] at hkept ⊢
  intro c hmem
  by_contra hc
  have hascii : (c.toNat < 128 && c != ' ' && c != '-' && c != '_') = true := by
    rcases eq_of_isInner_eq_false (Bool.eq_false_iff.2 hc) with rfl | rfl <;> decide
  exact hc (isInner_of_toLower (hkept _ (List.mem_map_of_mem (List.mem_filter.2 ⟨hmem, hascii⟩))))

/-- Folding a name loses no backslash and no closing bracket. -/
theorem all_isInner_of_looseName {name : List Char}
    (h : (looseName name).toList.all isInner = true) : name.all isInner = true := by
  match name with
  | [] => rfl
  | [_] => exact all_isInner_of_looseBody h
  | a :: b :: rest =>
    rw [looseName_cons_cons] at h
    split at h
    · next his =>
      have ha : isInner a.toLower = true := his.1 ▸ rfl
      have hb : isInner b.toLower = true := his.2 ▸ rfl
      rw [List.all_cons, List.all_cons, isInner_of_toLower ha, isInner_of_toLower hb,
        all_isInner_of_looseBody h]
      rfl
    · exact all_isInner_of_looseBody h

theorem all_isInner_of_lookup? {α : Type} {name : String} {entries : List (List String × α)} {v : α}
    (hentries : (entries.all fun entry => entry.1.all fun n => n.toList.all isInner) = true)
    (h : CharSet.lookup? name entries = some v) : name.toList.all isInner = true := by
  obtain ⟨entry, hfind, -⟩ := Option.map_eq_some_iff.1 h
  have hname := List.find?_some hfind
  exact List.all_eq_true.1 (List.all_eq_true.1 hentries entry (List.mem_of_find?_eq_some hfind))
    name (List.contains_iff_mem.1 hname)

theorem all_isInner_of_categories {name : String} {s : CharSet}
    (h : CharSet.lookup? name CharSet.categories = some s) : name.toList.all isInner = true :=
  all_isInner_of_lookup? (by decide +kernel) h

theorem all_isInner_of_scripts {name : String} {s : CharSet}
    (h : CharSet.ofScript? name = some s) : name.toList.all isInner = true := by
  obtain ⟨table, hlookup, -⟩ := Option.map_eq_some_iff.1 h
  exact all_isInner_of_lookup? (by decide +kernel) hlookup

theorem all_isInner_of_ofProperty? {name : List Char} {s : CharSet}
    (h : CharSet.ofProperty? name = some s) : name.all isInner = true := by
  apply all_isInner_of_looseName
  rw [CharSet.ofProperty?, Option.or_eq_some_iff, Option.or_eq_some_iff] at h
  rcases h with h | ⟨-, h | ⟨-, h⟩⟩
  · exact all_isInner_of_lookup? (by decide +kernel) h
  · exact all_isInner_of_categories h
  · exact all_isInner_of_scripts h

theorem all_isInner_of_ofPropertyValue? {property value : List Char} {s : CharSet}
    (h : CharSet.ofPropertyValue? property value = some s) :
    property.all isInner = true ∧ value.all isInner = true := by
  have hboth {known : String} (hproperty : looseName property = known)
      (hknown : known.toList.all isInner = true)
      (hvalue : (looseName value).toList.all isInner = true) :
      property.all isInner = true ∧ value.all isInner = true :=
    ⟨all_isInner_of_looseName (hproperty ▸ hknown), all_isInner_of_looseName hvalue⟩
  rw [CharSet.ofPropertyValue?] at h
  split at h
  · next hgc => exact hboth hgc rfl (all_isInner_of_categories h)
  · next hcategory => exact hboth hcategory rfl (all_isInner_of_categories h)
  · next hsc => exact hboth hsc rfl (all_isInner_of_scripts h)
  · next hscript => exact hboth hscript rfl (all_isInner_of_scripts h)
  · next hscx => exact hboth hscx rfl (all_isInner_of_scripts h)
  · next hextensions => exact hboth hextensions rfl (all_isInner_of_scripts h)
  · cases h

theorem eq_append_of_splitAt? {separator cs a b : List Char}
    (h : splitAt? separator cs = some (a, b)) : cs = a ++ separator ++ b := by
  induction cs generalizing a with
  | nil => cases h
  | cons c cs ih =>
    rw [splitAt?] at h
    split at h
    · next hstarts =>
      obtain ⟨rfl, rfl⟩ := Prod.mk.inj (Option.some.inj h)
      have hstarts : separator <+: c :: cs := by simpa using hstarts
      obtain ⟨rest, hrest⟩ := hstarts
      rw [← hrest, List.drop_left, List.nil_append]
    · obtain ⟨⟨a', b'⟩, hsplit, h⟩ := Option.map_eq_some_iff.1 h
      obtain ⟨rfl, rfl⟩ := Prod.mk.inj h
      rw [ih hsplit, List.cons_append, List.cons_append]

/-- The braces of a property that there is hold no backslash and no closing bracket. -/
theorem all_isInner_of_propertySet? {name : List Char} {s : CharSet}
    (h : propertySet? name = some s) : name.all isInner = true := by
  have hsplit {separator property value : List Char} (hseparator : separator.all isInner = true)
      (hname : splitAt? separator name = some (property, value))
      (hboth : property.all isInner = true ∧ value.all isInner = true) :
      name.all isInner = true := by
    rw [eq_append_of_splitAt? hname, List.all_append, List.all_append, hboth.1, hboth.2, hseparator]
    rfl
  rw [propertySet?] at h
  split at h
  · next hname =>
    obtain ⟨s, hvalue, -⟩ := Option.map_eq_some_iff.1 h
    exact hsplit rfl hname (all_isInner_of_ofPropertyValue? hvalue)
  · split at h
    · next hname => exact hsplit rfl hname (all_isInner_of_ofPropertyValue? h)
    · split at h
      · next hname => exact hsplit rfl hname (all_isInner_of_ofPropertyValue? h)
      · exact all_isInner_of_ofProperty? h

theorem takes_append {taken : List Char} (htaken : taken.all isInner = true) (rest : List Char) :
    Takes (taken ++ rest) rest := by
  induction taken with
  | nil => exact .nothing rest
  | cons c taken ih =>
    rw [List.all_cons, Bool.and_eq_true] at htaken
    exact .more htaken.1 (ih htaken.2)

/-- A property that is read to the end has a name that there is. -/
theorem all_isInner_of_named {negated : Bool} {name after : List Char} {escape : Escape}
    (h : (do
      if flags.ascii then throw .notAscii
      match propertySet? name with
      | none => throw .unknownProperty
      | some s =>
        let s := flags.fold s
        return (.set (if negated then .compl s else s), after) : Except Defect (Escape × List Char)) =
      .ok (escape, rest)) :
    name.all isInner = true ∧ after = rest := by
  dsimp only at h
  split at h
  · cases h
  · cases hset : propertySet? name with
    | none =>
      rw [hset] at h
      cases h
    | some s =>
      rw [hset] at h
      cases h
      exact ⟨all_isInner_of_propertySet? hset, rfl⟩

theorem takes_of_dropWhile {p : Char → Bool} {c : Char} {after : List Char}
    (hfront : (cs.takeWhile p).all isInner = true) (hc : isInner c = true)
    (h : cs.dropWhile p = c :: after) : Takes cs after := by
  rw [← List.takeWhile_append_dropWhile (p := p) (l := cs), h, List.append_cons]
  refine takes_append ?_ after
  rw [List.all_append, hfront, List.all_cons, hc]
  rfl

theorem takes_of_readProperty (hverbose : flags.verbose = false) {negated : Bool} {escape : Escape}
    (h : readProperty flags negated cs = .ok (escape, rest)) : Takes cs rest := by
  rw [readProperty, Flags.skip_eq hverbose, hverbose] at h
  split at h
  · cases h
  · next cs =>
    dsimp only at h
    split at h
    · cases h
    · next brace after hafter =>
      obtain ⟨hname, rfl⟩ := all_isInner_of_named h
      have hsome : cs.dropWhile (· != '\x7d') ≠ [] := by
        rw [hafter]
        exact List.cons_ne_nil brace after
      have hhead := List.head_dropWhile_not (· != '\x7d') hsome
      simp only [hafter, List.head_cons, bne_eq_false_iff_eq] at hhead
      exact .more rfl (takes_of_dropWhile hname (hhead ▸ rfl) hafter)
  · next c cs _ =>
    dsimp only at h
    split at h
    · cases h
    · obtain ⟨hname, rfl⟩ := all_isInner_of_named h
      rw [List.all_cons, Bool.and_eq_true] at hname
      exact .more hname.1 (.nothing _)

/-! ### Word boundaries -/

theorem takes_of_readBoundary (hverbose : flags.verbose = false) {a : Assertion}
    (h : readBoundary flags cs = .ok (a, rest)) : Takes cs rest := by
  unfold readBoundary at h
  dsimp only at h
  split at h
  · next cs =>
    rw [Flags.skip_eq hverbose, hverbose] at h
    split at h
    · cases h
    · next c more =>
      split at h
      · cases h
        exact .nothing _
      · have hname : ((c :: more).takeWhile fun c => c.isAlpha || c == '-').all isInner = true := by
          rw [List.all_eq_true]
          intro d hd
          by_contra hinner
          rcases eq_of_isInner_eq_false (Bool.eq_false_iff.2 hinner) with rfl | rfl <;>
            cases List.mem_takeWhile_imp hd
        rw [if_neg Bool.false_ne_true] at h
        split at h
        · next hafter _ =>
          cases h
          exact .more rfl (takes_of_dropWhile hname rfl hafter)
        · next hafter _ =>
          cases h
          exact .more rfl (takes_of_dropWhile hname rfl hafter)
        · next hafter _ =>
          cases h
          exact .more rfl (takes_of_dropWhile hname rfl hafter)
        · next hafter _ =>
          cases h
          exact .more rfl (takes_of_dropWhile hname rfl hafter)
        · cases h
  · cases h
    exact .nothing _

/-! ### Escapes -/

/-- **Behind its letter an escape takes neither a backslash nor a closing bracket.** -/
theorem takes_of_readEscape (hverbose : flags.verbose = false) {letter : Char} {escape : Escape}
    (h : readEscape flags (letter :: cs) = .ok (escape, rest)) : Takes cs rest := by
  have hletter {e : Escape} (h : (.ok (e, cs) : Except Defect _) = .ok (escape, rest)) :
      Takes cs rest := by
    cases h
    exact .nothing _
  have hperl {negated : Bool} {unicode ascii : CharSet} {e : Escape}
      (h : (do return (← perlSet flags negated unicode ascii) (e, cs)) = .ok (escape, rest)) :
      Takes cs rest := by
    obtain ⟨f, hf, h⟩ := bind_eq_ok_iff.1 h
    rw [perlSet] at hf
    split at hf
    · split at hf <;> cases hf
      cases h
      exact .nothing _
    · cases hf
      cases h
      exact .nothing _
  have hhex {digits : Nat} {e : Char × List Char → Escape}
      (h : (do let read ← readHex flags digits cs; return (e read, read.2)) =
        .ok (escape, rest)) : Takes cs rest := by
    obtain ⟨⟨d, after⟩, hhex, h⟩ := bind_eq_ok_iff.1 h
    cases h
    exact takes_of_readHex hverbose hhex
  unfold readEscape at h
  dsimp only at h
  split at h
  · exact hhex h
  · exact hhex h
  · exact hhex h
  · exact takes_of_readProperty hverbose h
  · exact takes_of_readProperty hverbose h
  · exact hperl h
  · exact hperl h
  · exact hperl h
  · exact hperl h
  · exact hperl h
  · exact hperl h
  · exact hletter h
  · exact hletter h
  · exact hletter h
  · exact hletter h
  · exact hletter h
  · exact hletter h
  · exact hletter h
  · exact hletter h
  · obtain ⟨⟨a, after⟩, hboundary, h⟩ := bind_eq_ok_iff.1 h
    cases h
    exact takes_of_readBoundary hverbose hboundary
  · exact hletter h
  · exact hletter h
  · exact hletter h
  · split at h
    · cases h
    · split at h
      · exact hletter h
      · cases h
end Dialogue.Pattern
