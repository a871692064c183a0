import Dialogue.Proofs.Pattern.Escape
import Dialogue.Proofs.Pattern.Normal
/-!
# Classes of normalized patterns

The pattern language knows classes within classes and operators on sets. In a normalized class every
inner bracket, ampersand and tilde is escaped, so that none of these is left, with one exception: two
dashes in a row behind an item are no neighbours of a class escape, stay as they are, and are read as a
difference. A class without such dashes is read as what it lists: characters, escapes and ranges.

This holds for classes that are not closed right where they open. There a normalized pattern and the
pattern language part ways: the bracket is the end of the class for the one and its first character for
the other. It holds outside of verbose patterns, whose comments only the pattern language skips.

## Main definitions

- `Meets`, `ClassMeets` — set syntax that reading a class comes upon
- `readPlainClass` — reading a class that has no set syntax
- `HoldsDashes` — the dashes in an authored pattern that come to be read as a difference

## Main statements

- `Meets.eq_diff` — the items of a class that normalizing leaves alone
- `set_syntax_is_two_dashes`
-/

namespace Dialogue.Pattern

/-- What a class may hold besides characters, escapes and ranges. -/
inductive SetSyntax where
  | nested
  | operator (op : SetOp)

/-- An item of a class comes next: no bracket and no operator. -/
def StartsItem (cs : List Char) : Prop :=
  (∀ rest, cs ≠ '[' :: rest) ∧ (∀ rest, cs ≠ ']' :: rest) ∧ setOp? cs = none

/-- Reading the items of a class comes upon set syntax, before or at the first class within it. -/
inductive Meets (flags : Flags) : SetSyntax → List Char → Prop
  | nested {cs rest : List Char} : flags.skip cs = '[' :: rest → Meets flags .nested cs
  | operator {cs rest : List Char} {op : SetOp} : setOp? (flags.skip cs) = some (op, rest) →
    Meets flags (.operator op) cs
  | behindOperator {x : SetSyntax} {cs rest : List Char} {op : SetOp} :
    setOp? (flags.skip cs) = some (op, rest) → Meets flags x rest → Meets flags x cs
  | behindItem {x : SetSyntax} {cs rest : List Char} {s : CharSet} : StartsItem (flags.skip cs) →
    readRange flags (flags.skip cs) = .ok (s, rest) → Meets flags x rest → Meets flags x cs

/-- Read the start of a class: whether it has a caret, the dashes or bracket first in it, and what is
left. -/
def readClassHead (flags : Flags) (cs : List Char) : Bool × OpenClass × List Char :=
  match flags.skip cs with
  | '^' :: rest => (true, readClassStart flags (flags.skip rest))
  | cs => (false, readClassStart flags cs)

/-- Reading a class, behind its opening bracket, comes upon set syntax. -/
def ClassMeets (flags : Flags) (x : SetSyntax) (body : List Char) : Prop :=
  Meets flags x (readClassHead flags body).2.2

/-- Read the items of a class that has no set syntax. -/
def readPlainItems (flags : Flags) :
    Nat → OpenClass → List Char → Except Defect (Nested × List Char)
  | 0, _, _ => .error .unclosedClass
  | fuel + 1, k, cs =>
    match flags.skip cs with
    | [] => .error .unclosedClass
    | ']' :: rest => .ok (k.close flags, rest)
    | cs => do
      let (s, rest) ← readRange flags cs
      readPlainItems flags fuel (k.push ⟨s, 0⟩) rest

/-- Read a class that has no set syntax, behind its opening bracket. -/
def readPlainClass (flags : Flags) : Nat → List Char → Except Defect (Nested × List Char)
  | 0, _ => .error .unclosedClass
  | fuel + 1, body => do
    let (negated, k, cs) := readClassHead flags body
    let (inner, rest) ← readPlainItems flags fuel k cs
    let s := flags.fold inner.set
    return (⟨if negated then .compl s else s, inner.height + 1⟩, rest)

variable {flags : Flags} {x : SetSyntax} {k : Spot} {cs rest body : List Char}

/-! ### Reading without set syntax -/

theorem setOp?_eq_some {op : SetOp} (h : setOp? cs = some (op, rest)) :
    cs = '&' :: '&' :: rest ∨ op = .diff ∧ cs = '-' :: '-' :: rest ∨ cs = '~' :: '~' :: rest := by
  unfold setOp? at h
  split at h
  · cases h
    exact .inl rfl
  · cases h
    exact .inr (.inl ⟨rfl, rfl⟩)
  · cases h
    exact .inr (.inr rfl)
  · cases h

theorem readClassItems_item (h : StartsItem (flags.skip cs)) (fuel : Nat) (k : OpenClass) :
    readClassItems flags (fuel + 1) k cs = (do
      let (s, rest) ← readRange flags (flags.skip cs)
      readClassItems flags fuel (k.push ⟨s, 0⟩) rest) := by
  obtain ⟨hopen, hclose, hop⟩ := h
  rw [readClassItems]
  split
  · next heq =>
    rw [heq]
    rfl
  · next heq => exact absurd heq (hopen _)
  · next heq => exact absurd heq (hclose _)
  · rw [hop]

theorem readPlainItems_item (h : ∀ rest, flags.skip cs ≠ ']' :: rest) (fuel : Nat) (k : OpenClass) :
    readPlainItems flags (fuel + 1) k cs = (do
      let (s, rest) ← readRange flags (flags.skip cs)
      readPlainItems flags fuel (k.push ⟨s, 0⟩) rest) := by
  rw [readPlainItems]
  split
  · next heq =>
    rw [heq]
    rfl
  · next heq => exact absurd heq (h _)
  · rfl

theorem readClassItems_eq_plain (h : ∀ x, ¬ Meets flags x cs) (fuel : Nat) (k : OpenClass) :
    readClassItems flags fuel k cs = readPlainItems flags fuel k cs := by
  induction fuel generalizing k cs with
  | zero => rw [readClassItems, readPlainItems]
  | succ fuel ih =>
    by_cases hclose : ∃ rest, flags.skip cs = ']' :: rest
    · obtain ⟨rest, hcs⟩ := hclose
      rw [readClassItems, readPlainItems, hcs]
      rfl
    · have hinside (rest : List Char) : flags.skip cs ≠ ']' :: rest := fun hcs => hclose ⟨rest, hcs⟩
      have hopen (rest : List Char) : flags.skip cs ≠ '[' :: rest := fun hcs => h .nested (.nested hcs)
      have hop : setOp? (flags.skip cs) = none := by
        cases hop : setOp? (flags.skip cs) with
        | none => rfl
        | some found => exact absurd (.operator hop) (h (.operator found.1))
      have hstarts : StartsItem (flags.skip cs) := ⟨hopen, hinside, hop⟩
      rw [readClassItems_item hstarts, readPlainItems_item hinside]
      cases hrange : readRange flags (flags.skip cs) with
      | error => rfl
      | ok read => exact ih (fun x hrest => h x (.behindItem hstarts hrange hrest)) _

theorem readClassHead_caret (h : flags.skip body = '^' :: rest) :
    readClassHead flags body = (true, readClassStart flags (flags.skip rest)) := by
  rw [readClassHead, h]
  rfl

theorem readClassHead_plain (h : ∀ rest, flags.skip body ≠ '^' :: rest) :
    readClassHead flags body = (false, readClassStart flags (flags.skip body)) := by
  rw [readClassHead]
  split
  · next heq => exact absurd heq (h _)
  · rfl

/-- A class without set syntax is read as though there were none. -/
theorem readClass_eq_plain (h : ∀ x, ¬ ClassMeets flags x body) (fuel : Nat) :
    readClass flags fuel body = readPlainClass flags fuel body := by
  cases fuel with
  | zero => rw [readClass, readPlainClass]
  | succ fuel =>
    have hitems := readClassItems_eq_plain h fuel (readClassHead flags body).2.1
    rw [readClass, readPlainClass]
    dsimp only
    rw [← hitems]
    split
    · next hcaret =>
      rw [readClassHead_caret hcaret]
    · next hcaret =>
      rw [readClassHead_plain hcaret]

/-! ### Where reading a class gets to -/

namespace Spot

theorem step_inside {c : Char} (hc : c ≠ '\\') (hclose : c ≠ ']') (b : Bool) :
    step (.inside b) c = .inside false := by
  rw [step, stepInClass, if_neg hc, if_neg hclose, ite_self]

/-- The place is in a class, and no dash or caret comes next that counts as standing first in it. -/
def Ready (k : Spot) (cs : List Char) : Prop :=
  k.inClass = true ∧
    ∀ c rest, cs = c :: rest → c ≠ '\\' → c ≠ ']' → k.step c = .inside false

theorem ready_inside (b : Bool) (cs : List Char) : Ready (.inside b) cs :=
  ⟨rfl, fun _ _ _ hc hclose => step_inside hc hclose b⟩

/-- What was read up to the rest ends inside of the class. -/
def StaysInside (k : Spot) (cs rest : List Char) : Prop :=
  ∃ taken b, cs = taken ++ rest ∧ taken.foldl step k = .inside b

theorem StaysInside.trans {mid : List Char} (h : k.StaysInside cs mid)
    (h' : ∀ b, StaysInside (.inside b) mid rest) : k.StaysInside cs rest := by
  obtain ⟨taken, b, rfl, htaken⟩ := h
  obtain ⟨taken', b', rfl, htaken'⟩ := h' b
  refine ⟨taken ++ taken', b', (List.append_assoc ..).symm, ?_⟩
  rw [List.foldl_append, htaken, htaken']

theorem staysInside_cons {c : Char} (hready : Ready k (c :: cs)) (hc : c ≠ '\\') (hclose : c ≠ ']') :
    k.StaysInside (c :: cs) cs :=
  ⟨[c], false, rfl, hready.2 c cs rfl hc hclose⟩

theorem staysInside_of_takes (h : Takes cs rest) (b : Bool) : StaysInside (.inside b) cs rest := by
  induction h generalizing b with
  | nothing cs => exact ⟨[], b, rfl, rfl⟩
  | more hc _ ih =>
    rw [isInner, Bool.and_eq_true, bne_iff_ne, bne_iff_ne] at hc
    exact (staysInside_cons (ready_inside b _) hc.1 hc.2).trans ih

theorem staysInside_of_readClassPart (hverbose : flags.verbose = false) (hready : Ready k cs)
    (hclose : ∀ rest, cs ≠ ']' :: rest) {part : Escape} (h : readClassPart flags cs = .ok (part, rest)) :
    k.StaysInside cs rest := by
  unfold readClassPart at h
  split at h
  · cases h
  · next after =>
    cases after with
    | nil => cases h
    | cons letter cs =>
      have hescape : k.StaysInside ('\\' :: letter :: cs) cs :=
        ⟨['\\', letter], isClassLetter letter, rfl, by
          rw [List.foldl_cons, step_backslash (isEscaped_of_inClass hready.1), hready.1]
          rfl⟩
      exact hescape.trans (staysInside_of_takes (takes_of_readEscape hverbose h))
  · next c cs hc =>
    cases h
    exact staysInside_cons hready hc fun heq => hclose _ (congrArg (· :: _) heq)

/-- **A range is read inside of the class that it stands in.** -/
theorem staysInside_of_readRange (hverbose : flags.verbose = false) (hready : Ready k cs)
    (hclose : ∀ rest, cs ≠ ']' :: rest) {s : CharSet} (h : readRange flags cs = .ok (s, rest)) :
    k.StaysInside cs rest := by
  obtain ⟨⟨first, after⟩, hfirst, h⟩ := bind_eq_ok_iff.1 h
  have hinside := staysInside_of_readClassPart hverbose hready hclose hfirst
  have hpart {e : Escape} {after : List Char}
      (h : (do return (← partSet flags e, after) : Except Defect (CharSet × List Char)) =
        .ok (s, rest)) : after = rest := by
    obtain ⟨s, -, h⟩ := bind_eq_ok_iff.1 h
    cases h
    rfl
  dsimp only at h
  rw [Flags.skip_eq hverbose] at h
  split at h
  · cases h
  · next behind =>
    rw [Flags.skip_eq hverbose] at h
    split at h
    · cases h
    · exact hpart h ▸ hinside
    · exact hpart h ▸ hinside
    · next hbracket _ =>
      -- Both ends of the range are read, with the dash between them.
      obtain ⟨⟨last, end'⟩, hlast, h⟩ := bind_eq_ok_iff.1 h
      have hdash (b : Bool) : StaysInside (.inside b) ('-' :: behind) behind :=
        staysInside_cons (ready_inside b _) (by decide) (by decide)
      have hend (b : Bool) : StaysInside (.inside b) behind end' :=
        staysInside_of_readClassPart hverbose (ready_inside b behind) hbracket hlast
      have hrest : end' = rest := by
        dsimp only at h
        split at h
        · obtain ⟨_, -, h⟩ := bind_eq_ok_iff.1 h
          obtain ⟨_, -, h⟩ := bind_eq_ok_iff.1 h
          split at h <;> cases h
          rfl
        · cases h
      exact hrest ▸ (hinside.trans hdash).trans hend
  · exact hpart h ▸ hinside

end Spot

/-! ### What a class that normalizing leaves alone holds -/

/-- In a class that stays as it is, no bracket, ampersand or tilde comes next. -/
theorem ne_of_fixed {c : Char} (hclass : k.inClass = true)
    (hfixed : k.normalizeAt (c :: rest) = c :: rest) : c ≠ '[' ∧ c ≠ '&' ∧ c ≠ '~' := by
  have hguards (hc : c ≠ '\\') : k.guards c rest ≠ true :=
    Bool.eq_false_iff.1 (Spot.guards_eq_false_of_fixed (Spot.isEscaped_of_inClass hclass) hc hfixed).1
  refine ⟨?_, ?_, ?_⟩ <;> rintro rfl
  · exact hguards (by decide) ((Spot.guards_iff rest).2 ⟨hclass, .inl rfl⟩)
  · exact hguards (by decide) ((Spot.guards_iff rest).2 ⟨hclass, .inr (.inl rfl)⟩)
  · exact hguards (by decide) ((Spot.guards_iff rest).2 ⟨hclass, .inr (.inr (.inl rfl))⟩)

/-- An operator there is a difference, and stands behind neither a class escape nor the start. -/
theorem setOp?_of_fixed {op : SetOp} (hready : k.Ready cs) (hfixed : k.normalizeAt cs = cs)
    (h : setOp? cs = some (op, rest)) :
    op = .diff ∧ cs = '-' :: '-' :: rest ∧ k = .inside false := by
  rcases setOp?_eq_some h with rfl | ⟨rfl, rfl⟩ | rfl
  · exact absurd rfl (ne_of_fixed hready.1 hfixed).2.1
  · refine ⟨rfl, rfl, ?_⟩
    have hguards := (Spot.guards_eq_false_of_fixed (Spot.isEscaped_of_inClass hready.1)
      (by decide) hfixed).1
    have hstep := hready.2 '-' ('-' :: rest) rfl (by decide) (by decide)
    cases k with
    | outside => cases hready.1
    | escaped => cases hready.1
    | opened => cases hstep
    | negated => cases hstep
    | leading => cases hstep
    | inside b =>
      cases b with
      | false => rfl
      | true => cases hguards
  · exact absurd rfl (ne_of_fixed hready.1 hfixed).2.2

/-- **In a class that stays as it is, the only set syntax is two dashes in a row.** -/
theorem Meets.eq_diff (hverbose : flags.verbose = false) (hready : k.Ready cs)
    (hfixed : k.normalizeAt cs = cs) (h : Meets flags x cs) :
    x = .operator .diff ∧ ∃ front after, cs = front ++ '-' :: '-' :: after ∧
      front.foldl Spot.step k = .inside false := by
  induction h generalizing k with
  | nested hopen =>
    rw [Flags.skip_eq hverbose] at hopen
    rw [hopen] at hfixed
    exact absurd rfl (ne_of_fixed hready.1 hfixed).1
  | operator hop =>
    rw [Flags.skip_eq hverbose] at hop
    obtain ⟨rfl, hdashes, hk⟩ := setOp?_of_fixed hready hfixed hop
    exact ⟨rfl, [], _, hdashes, hk⟩
  | @behindOperator _ _ rest _ hop _ ih =>
    rw [Flags.skip_eq hverbose] at hop
    obtain ⟨rfl, rfl, rfl⟩ := setOp?_of_fixed hready hfixed hop
    have hsecond : (Spot.inside false).normalizeAt ('-' :: rest) = '-' :: rest :=
      (Spot.guards_eq_false_of_fixed rfl (by decide) hfixed).2
    have hrest : (Spot.inside false).normalizeAt rest = rest :=
      (Spot.guards_eq_false_of_fixed rfl (by decide) hsecond).2
    obtain ⟨hx, front, after, rfl, hfront⟩ := ih (Spot.ready_inside false _) hrest
    exact ⟨hx, '-' :: '-' :: front, after, rfl, hfront⟩
  | behindItem hstarts hrange _ ih =>
    rw [Flags.skip_eq hverbose] at hstarts hrange
    obtain ⟨taken, b, rfl, htaken⟩ :=
      Spot.staysInside_of_readRange hverbose hready hstarts.2.1 hrange
    have hinside : (taken.foldl Spot.step k).isEscaped = false := by
      rw [htaken]
      rfl
    have hrest := Spot.fixed_of_append (Spot.isEscaped_of_inClass hready.1) hinside hfixed
    rw [htaken] at hrest
    obtain ⟨hx, front, after, rfl, hfront⟩ := ih (Spot.ready_inside b _) hrest
    refine ⟨hx, taken ++ front, after, (List.append_assoc ..).symm, ?_⟩
    rw [List.foldl_append, htaken, hfront]

/-! ### The start of a class -/

/-- Whether a closing bracket stands first in a class, or right behind its caret. -/
def startsClosed : List Char → Bool
  | ']' :: _ => true
  | '^' :: ']' :: _ => true
  | _ => false

theorem readDashes_spec (hverbose : flags.verbose = false) {fuel : Nat} (k : OpenClass)
    (hfuel : cs.length < fuel) :
    ∃ n, cs = List.replicate n '-' ++ (readDashes flags fuel k cs).2 ∧
      ∀ rest, (readDashes flags fuel k cs).2 ≠ '-' :: rest := by
  induction fuel generalizing k cs with
  | zero => exact absurd hfuel (Nat.not_lt_zero _)
  | succ fuel ih =>
    unfold readDashes
    split
    · next rest =>
      rw [Flags.skip_eq hverbose]
      obtain ⟨n, hrest, hdash⟩ := ih (k.push ⟨CharSet.single '-', 0⟩) (Nat.lt_of_succ_lt_succ hfuel)
      exact ⟨n + 1, congrArg ('-' :: ·) hrest, hdash⟩
    · next hdash => exact ⟨0, rfl, hdash⟩

/-- Behind the dashes at the start of a class its items begin. -/
theorem ready_of_dashes {n : Nat}
    (hk : k = .opened ∧ (∀ after, List.replicate n '-' ++ rest ≠ '^' :: after) ∨
      k = .negated ∨ k = .leading) (hdash : ∀ after, rest ≠ '-' :: after) :
    ((List.replicate n '-').foldl Spot.step k).Ready rest := by
  induction n generalizing k with
  | zero =>
    have hstep {c : Char} {after : List Char} (hrest : rest = c :: after) (hc : c ≠ '\\')
        (hclose : c ≠ ']') : Spot.stepInClass .leading c = .inside false := by
      have hne : c ≠ '-' := by
        rintro rfl
        exact hdash after hrest
      rw [Spot.stepInClass, if_neg hc, if_neg hclose, if_neg hne]
    rcases hk with ⟨rfl, hcaret⟩ | rfl | rfl
    · refine ⟨rfl, fun c after hrest hc hclose => ?_⟩
      have hne : c ≠ '^' := by
        rintro rfl
        exact hcaret after hrest
      exact (if_neg hne).trans (hstep hrest hc hclose)
    · exact ⟨rfl, fun c after hrest hc hclose => hstep hrest hc hclose⟩
    · exact ⟨rfl, fun c after hrest hc hclose => hstep hrest hc hclose⟩
  | succ n ih =>
    have hleading : k.step '-' = .leading := by
      rcases hk with ⟨rfl, -⟩ | rfl | rfl <;> rfl
    rw [List.replicate_succ, List.foldl_cons, hleading]
    exact ih (.inr (.inr rfl))

theorem ready_readClassStart (hverbose : flags.verbose = false) (hclose : ∀ rest, cs ≠ ']' :: rest)
    (hk : k = .opened ∧ (∀ rest, cs ≠ '^' :: rest) ∨ k = .negated) :
    ∃ front, cs = front ++ (readClassStart flags cs).2 ∧
      (front.foldl Spot.step k).Ready (readClassStart flags cs).2 := by
  unfold readClassStart
  split
  · exact absurd rfl (hclose _)
  · obtain ⟨n, hcs, hdash⟩ := readDashes_spec hverbose ⟨none, []⟩ (Nat.lt_succ_self cs.length)
    refine ⟨List.replicate n '-', hcs, ready_of_dashes ?_ hdash⟩
    rw [← hcs]
    exact hk.imp_right .inl

/-- The items of a class that is not closed at once begin inside of it. -/
theorem ready_readClassHead (hverbose : flags.verbose = false) (hfirst : startsClosed body = false) :
    ∃ front, body = front ++ (readClassHead flags body).2.2 ∧
      (front.foldl Spot.step .opened).Ready (readClassHead flags body).2.2 := by
  have hbracket (rest : List Char) : body ≠ ']' :: rest := by
    rintro rfl
    cases hfirst
  rw [readClassHead, Flags.skip_eq hverbose]
  split
  · next rest =>
    rw [Flags.skip_eq hverbose]
    have hbehind (after : List Char) : rest ≠ ']' :: after := by
      rintro rfl
      cases hfirst
    obtain ⟨front, hrest, hready⟩ := ready_readClassStart (k := .negated) hverbose hbehind (.inr rfl)
    exact ⟨'^' :: front, congrArg ('^' :: ·) hrest, hready⟩
  · next hcaret => exact ready_readClassStart hverbose hbracket (.inl ⟨rfl, hcaret⟩)

/-! ### Classes of normalized patterns -/

/-- Two dashes in a row inside of a class, behind something else than dashes and beside no class
escape. -/
def HoldsDashes (cs : List Char) : Prop :=
  ∃ front after, cs = front ++ '-' :: '-' :: after ∧ Spot.after front = .inside false ∧
    startsClassEscape after = false

theorem toList_normalize (p : String) :
    (normalize p).toList = Spot.outside.normalizeAt p.toList := String.toList_ofList

theorem holdsDashes_of_normalizeAt {front after : List Char}
    (h : Spot.outside.normalizeAt cs = front ++ '-' :: '-' :: after)
    (hfront : Spot.after front = .inside false) : HoldsDashes cs := by
  have hescaped : (Spot.after front).isEscaped = false := by
    rw [hfront]
    rfl
  obtain ⟨front', rest, rfl, hplace, -, hrest⟩ :=
    Spot.exists_of_normalizeAt_eq rfl rfl (.inl rfl) (by decide) hescaped h
  have hfront' : Spot.after front' = .inside false := hplace.trans hfront
  rw [← Spot.after, hfront'] at hrest
  obtain ⟨after', rfl, hguards, -⟩ := Spot.exists_cons_of_normalizeAt_eq rfl (by decide) hrest
  exact ⟨front', after', rfl, hfront', hguards⟩

/-- An unescaped bracket of a normalized pattern opens a class, which normalizing leaves alone. -/
theorem opens_of_normalizeAt {before : List Char}
    (h : Spot.outside.normalizeAt cs = before ++ '[' :: body)
    (hbefore : (Spot.after before).isEscaped = false) :
    Spot.after before = .outside ∧ Spot.opened.normalizeAt body = body := by
  have hfixed := Spot.normalizeAt_normalizeAt (k := .outside) rfl cs
  rw [h] at hfixed
  obtain ⟨hguards, hbody⟩ := Spot.guards_eq_false_of_fixed hbefore (by decide)
    (Spot.fixed_of_append rfl hbefore hfixed)
  have houtside : Spot.after before = .outside := by
    cases hafter : Spot.after before with
    | outside => rfl
    | escaped =>
      rw [hafter] at hbefore
      cases hbefore
    | _ =>
      rw [hafter] at hguards
      cases hguards
  rw [houtside] at hbody
  exact ⟨houtside, hbody⟩

/-- **What is left of set syntax in a normalized class is two dashes in a row.** A class that is not
closed where it opens holds no class and no operator but differences, and these come from dashes that
the authored pattern has in a row. Without such dashes the class is read as a plain list. -/
theorem set_syntax_is_two_dashes {p : String} {before : List Char} (hverbose : flags.verbose = false)
    (hclass : (normalize p).toList = before ++ '[' :: body)
    (hbefore : (Spot.after before).isEscaped = false) (hfirst : startsClosed body = false) :
    (∀ x, ClassMeets flags x body → x = .operator .diff ∧ HoldsDashes p.toList) ∧
      (¬ HoldsDashes p.toList →
        ∀ fuel, readClass flags fuel body = readPlainClass flags fuel body) := by
  rw [toList_normalize] at hclass
  obtain ⟨hbracket, hfixed⟩ := opens_of_normalizeAt hclass hbefore
  obtain ⟨head, hhead, hready⟩ := ready_readClassHead hverbose hfirst
  have hmeets (x : SetSyntax) (h : ClassMeets flags x body) :
      x = .operator .diff ∧ HoldsDashes p.toList := by
    have hitems : (head.foldl Spot.step .opened).normalizeAt (readClassHead flags body).2.2 =
        (readClassHead flags body).2.2 :=
      Spot.fixed_of_append rfl (Spot.isEscaped_of_inClass hready.1) (hhead ▸ hfixed)
    obtain ⟨hx, front, after, hdashes, hfront⟩ := Meets.eq_diff hverbose hready hitems h
    have hbody : before ++ '[' :: body = (before ++ '[' :: (head ++ front)) ++ '-' :: '-' :: after := by
      rw [hhead, hdashes]
      simp
    refine ⟨hx, holdsDashes_of_normalizeAt (hclass.trans hbody) ?_⟩
    rw [Spot.after_append, hbracket, List.foldl_cons, List.foldl_append]
    exact hfront
  exact ⟨hmeets, fun hdashes =>
    readClass_eq_plain fun x h => hdashes (hmeets x h).2⟩

/-- A single dash is no operator, whatever else is in the class. -/
theorem set_syntax_is_two_dashes_address :
    (∀ x, ¬ ClassMeets {} x "\\w\\-.\\&\\&\\[]+".toList) ∧
      readClass {} 16 "\\w\\-.\\&\\&\\[]+".toList =
        readPlainClass {} 16 "\\w\\-.\\&\\&\\[]+".toList := by
  have hclass : (normalize "^[\\w-.&&[]+").toList =
      ['^'] ++ '[' :: "\\w\\-.\\&\\&\\[]+".toList := by decide +kernel
  have hdashes : ¬ HoldsDashes "^[\\w-.&&[]+".toList := by
    rintro ⟨front, after, hcs, -⟩
    have hcount := congrArg (List.count '-') hcs
    have hone : "^[\\w-.&&[]+".toList.count '-' = 1 := by decide +kernel
    rw [hone, List.count_append, List.count_cons_self, List.count_cons_self] at hcount
    omega
  have hverbose : ({} : Flags).verbose = false := rfl
  obtain ⟨hmeets, hplain⟩ := set_syntax_is_two_dashes hverbose hclass rfl rfl
  exact ⟨fun x h => hdashes (hmeets x h).2, hplain hdashes 16⟩

end Dialogue.Pattern
