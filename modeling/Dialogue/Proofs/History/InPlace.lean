import Dialogue.Proofs.History.Settling
/-!
# Patches in place

A patch may be carried out on a value where it stands: the value to change is found along the path,
changed, and what has become of it is read back from the whole. A change that fails leaves something
behind as well, and what it leaves behind is the value as it was. A row of changes stops at the first
that does not fit, with everything before it done.

## Main definitions

- `InPlace`, `Patch.inPlace`, `Patch.allInPlace` — changes of a value where it stands
- `InPlace.whole` — a change that is made in whole or not at all
- `Json.vacant` — a place at which nothing is replaced by adding there

## Main statements

- `Patch.inPlace_eq_whole` — a change in place is made in whole or not at all
- `Patch.allInPlace_append`, `Patch.allInPlace_eq_error_iff` — rows of changes
- `Json.applyPatch_remove_of_add` — removing what was added
- `Patch.changes_whole_or_not_at_all`
-/

namespace Dialogue

/-- A change of a value where it stands, which leaves a value behind when it fails, too. -/
abbrev InPlace := EStateM PatchFault Json Unit

namespace InPlace

/-- A change that is made in whole, or fails and leaves the value as it was. -/
def whole (change : Json → Except PatchFault Json) : InPlace := fun root =>
  match change root with
  | .ok result => .ok () result
  | .error fault => .error fault root

/-- Put another value in the place of the whole. -/
def assign (value : Json) : InPlace := fun _ => .ok () value

/-- Change the value at a path. Whatever the change leaves behind stands at the path then, whether it
failed or not. -/
def within (missing : PatchFault) (change : InPlace) : Path → InPlace
  | [], root => change root
  | s :: rest, root =>
    match root.child? s with
    | none => .error missing root
    | some child =>
      match within missing change rest child with
      | .ok _ left => .ok () ((root.overwriteChild? s left).getD root)
      | .error fault left => .error fault ((root.overwriteChild? s left).getD root)

/-- Add a value directly inside. -/
def addInside (path : Path) (s : Segment) (value : Json) : InPlace
  | .object fields => .ok () (.object (Keyed.insert s.name value fields))
  | .array items =>
    match s.position? with
    | some position =>
      if position ≤ items.length then
        .ok () (.array (items.take position ++ value :: items.drop position))
      else .error (.pathNotFound path) (.array items)
    | none => .error (.pathNotFound path) (.array items)
  | root => .error (.notAContainer path) root

/-- Take out what stands directly inside at a segment. A member of an object is taken out first, and
only then is asked whether there was one. -/
def removeInside (path : Path) (s : Segment) : InPlace
  | .object fields =>
    let left := .object (Keyed.erase s.name fields)
    if (Keyed.get? s.name fields).isSome then .ok () left else .error (.pathNotFound path) left
  | .array items =>
    match s.position? with
    | some position =>
      if position < items.length then .ok () (.array (items.eraseIdx position))
      else .error (.pathNotFound path) (.array items)
    | none => .error (.pathNotFound path) (.array items)
  | root => .error (.pathNotFound path) root

/-- Replace what stands directly inside at a segment. -/
def replaceInside (path : Path) (s : Segment) (value : Json) : InPlace :=
  within (.pathNotFound path) (assign value) [s]

end InPlace

namespace Patch

/-- Carry out one change on the value around its place. -/
def inside (s : Segment) : Patch → InPlace
  | add path value => .addInside path s value
  | remove path => .removeInside path s
  | replace path value => .replaceInside path s value

/-- Carry out one change where the value stands. -/
def inPlace (p : Patch) : InPlace :=
  match Json.splitLast? p.path with
  | none => .assign (p.value?.getD .null)
  | some (parent, last) => .within (.pathNotFound p.path) (p.inside last) parent

/-- Carry out changes in order, up to the first that does not fit. -/
def allInPlace (ps : List Patch) : InPlace := forM ps inPlace

end Patch

namespace InPlace

/-! ### One change -/

theorem whole_of_ok {change : Json → Except PatchFault Json} {root result : Json}
    (h : change root = .ok result) : whole change root = .ok () result := by
  rw [whole, h]

theorem whole_of_error {change : Json → Except PatchFault Json} {root : Json} {fault : PatchFault}
    (h : change root = .error fault) : whole change root = .error fault root := by
  rw [whole, h]

theorem assign_eq_whole (value : Json) : assign value = whole fun _ => .ok value := rfl

theorem addInside_eq_whole (path : Path) (s : Segment) (value : Json) :
    addInside path s value = whole (Json.addChild path s value) := by
  funext root
  cases root with
  | object fields => rfl
  | array items =>
    cases hp : s.position? with
    | none => simp [addInside, whole, Json.addChild, hp]
    | some position =>
      by_cases hle : position ≤ items.length <;>
        simp [addInside, whole, Json.addChild, hp, hle]
  | null | bool | number | text => rfl

/-- Taking out a member that is not there takes out nothing. -/
theorem removeInside_eq_whole (path : Path) (s : Segment) :
    removeInside path s = whole (Json.removeChild path s) := by
  funext root
  cases root with
  | object fields =>
    cases hget : Keyed.get? s.name fields with
    | some value => simp [removeInside, whole, Json.removeChild, Keyed.contains, hget]
    | none =>
      simp [removeInside, whole, Json.removeChild, Keyed.contains, hget,
        Keyed.erase_eq_self hget]
  | array items =>
    cases hp : s.position? with
    | none => simp [removeInside, whole, Json.removeChild, hp]
    | some position =>
      by_cases hlt : position < items.length <;>
        simp [removeInside, whole, Json.removeChild, hp, hlt]
  | null | bool | number | text => rfl

/-- A change that fails inside fails in the value around it. -/
theorem updateAt_cons_of_error {missing fault : PatchFault}
    {change : Json → Except PatchFault Json} {s : Segment} {p : Path} {root child : Json}
    (hchild : root.child? s = some child)
    (hin : Json.updateAt missing change p child = .error fault) :
    Json.updateAt missing change (s :: p) root = .error fault := by
  simp only [Json.updateAt, hchild, hin, bind, Except.bind]

/-- **A change inside that is made in whole or not at all** is so in the value around it: what it
leaves behind when it fails is what stood there. -/
theorem within_whole (missing : PatchFault) (change : Json → Except PatchFault Json) (p : Path) :
    within missing (whole change) p = whole (Json.updateAt missing change p) := by
  induction p with
  | nil => rfl
  | cons s rest ih =>
    funext root
    cases hchild : root.child? s with
    | none => simp [within, whole, Json.updateAt, hchild]
    | some child =>
      simp only [within, hchild, ih]
      cases hin : Json.updateAt missing change rest child with
      | error fault =>
        rw [whole_of_error hin, whole_of_error (updateAt_cons_of_error hchild hin)]
        simp only [Json.overwriteChild?_eq_self hchild, Option.getD_some]
      | ok inner =>
        obtain ⟨outer, hover, -⟩ := Json.exists_overwriteChild? hchild inner
        rw [whole_of_ok hin, whole_of_ok (Json.updateAt_cons hchild hin hover)]
        simp only [hover, Option.getD_some]

/-- Where nothing is found nothing is replaced. -/
theorem overwriteChild?_eq_none {root : Json} {s : Segment} (h : root.child? s = none)
    (value : Json) : root.overwriteChild? s value = none := by
  by_contra hsome
  obtain ⟨outer, hover⟩ := Option.ne_none_iff_exists'.1 hsome
  obtain ⟨child, hchild⟩ := Json.exists_child?_of_overwriteChild? hover
  rw [h] at hchild
  cases hchild

theorem replaceInside_eq_whole (path : Path) (s : Segment) (value : Json) :
    replaceInside path s value = whole (Json.replaceChild path s value) := by
  rw [replaceInside, assign_eq_whole, within_whole]
  funext root
  cases hchild : root.child? s with
  | none =>
    simp [whole, Json.updateAt, Json.replaceChild, hchild, overwriteChild?_eq_none hchild value]
  | some child =>
    obtain ⟨outer, hover, -⟩ := Json.exists_overwriteChild? hchild value
    have hreplace : Json.replaceChild path s value root = .ok outer := by
      rw [Json.replaceChild, hover]
    rw [whole_of_ok hreplace, whole_of_ok (Json.updateAt_cons hchild rfl hover)]

end InPlace

namespace Patch

/-- **A change in place is made in whole or not at all.** -/
theorem inPlace_eq_whole (p : Patch) : p.inPlace = .whole (·.applyPatch p) := by
  cases hlast : Json.splitLast? p.path with
  | none =>
    rw [inPlace, hlast]
    cases p with
    | add path value | remove path | replace path value =>
      simp only [Json.applyPatch, show Json.splitLast? path = none from hlast]
      rfl
  | some ends =>
    rw [inPlace, hlast]
    cases p with
    | add path value | remove path | replace path value =>
      simp only [Json.applyPatch, show Json.splitLast? path = some ends from hlast, inside,
        InPlace.addInside_eq_whole, InPlace.removeInside_eq_whole,
        InPlace.replaceInside_eq_whole, InPlace.within_whole]
      rfl

theorem inPlace_eq_ok_iff {p : Patch} {root result : Json} :
    p.inPlace root = .ok () result ↔ root.applyPatch p = .ok result := by
  rw [inPlace_eq_whole, InPlace.whole]
  cases root.applyPatch p <;> simp

theorem inPlace_eq_error_iff {p : Patch} {root left : Json} {fault : PatchFault} :
    p.inPlace root = .error fault left ↔ left = root ∧ root.applyPatch p = .error fault := by
  rw [inPlace_eq_whole, InPlace.whole]
  cases root.applyPatch p <;> simp [and_comm, eq_comm]

/-! ### Rows of changes -/

theorem allInPlace_cons_of_ok {p : Patch} {rest : List Patch} {root next : Json}
    (h : p.inPlace root = .ok () next) : allInPlace (p :: rest) root = allInPlace rest next := by
  simp only [allInPlace, List.forM_cons, bind, EStateM.bind, h]

theorem allInPlace_cons_of_error {p : Patch} {rest : List Patch} {root left : Json}
    {fault : PatchFault} (h : p.inPlace root = .error fault left) :
    allInPlace (p :: rest) root = .error fault left := by
  simp only [allInPlace, List.forM_cons, bind, EStateM.bind, h]

/-- Carrying out two rows is carrying out the first, then the second. -/
theorem allInPlace_append (ps qs : List Patch) :
    allInPlace (ps ++ qs) = (do allInPlace ps; allInPlace qs) :=
  List.forM_append

/-- A row in place gives the value that the row gives. -/
theorem allInPlace_eq_ok_iff {ps : List Patch} {root result : Json} :
    allInPlace ps root = .ok () result ↔ root.patch ps = .ok result := by
  induction ps generalizing root with
  | nil => simp [allInPlace, Json.patch, pure, EStateM.pure]
  | cons p rest ih =>
    rw [Json.patch_cons]
    cases happly : root.applyPatch p with
    | ok next =>
      rw [allInPlace_cons_of_ok (inPlace_eq_ok_iff.2 happly)]
      exact ih
    | error fault =>
      rw [allInPlace_cons_of_error (inPlace_eq_error_iff.2 ⟨rfl, happly⟩)]
      simp [Except.bind]

/-- **A row that fails** stops before the first change that does not fit, and leaves the value that
the changes before it lead to. -/
theorem allInPlace_eq_error_iff {ps : List Patch} {root left : Json} {fault : PatchFault} :
    allInPlace ps root = .error fault left ↔
      ∃ front p rest, ps = front ++ p :: rest ∧ allInPlace front root = .ok () left ∧
        p.inPlace left = .error fault left := by
  constructor
  · intro h
    induction ps generalizing root with
    | nil => simp [allInPlace, pure, EStateM.pure] at h
    | cons p rest ih =>
      cases hp : p.inPlace root with
      | error first kept =>
        rw [allInPlace_cons_of_error hp] at h
        obtain ⟨rfl, rfl⟩ := EStateM.Result.error.inj h
        obtain ⟨rfl, -⟩ := inPlace_eq_error_iff.1 hp
        exact ⟨[], p, rest, rfl, rfl, hp⟩
      | ok _ next =>
        rw [allInPlace_cons_of_ok hp] at h
        obtain ⟨front, q, others, rfl, hfront, hq⟩ := ih h
        exact ⟨p :: front, q, others, rfl, by rw [allInPlace_cons_of_ok hp, hfront], hq⟩
  · rintro ⟨front, p, rest, rfl, hfront, hp⟩
    rw [allInPlace_append]
    simp only [bind, EStateM.bind, hfront]
    exact allInPlace_cons_of_error hp

end Patch

namespace Json

/-! ### Removing what was added -/

/-- A change of the value at a path that can be undone there can be undone in the whole. -/
theorem updateAt_undo {ε : Type} {missing missing' : ε} {change undo : Json → Except ε Json}
    {p : Path} {root result : Json}
    (hundo : ∀ child inner, root.get? p = some child → change child = .ok inner →
      undo inner = .ok child)
    (h : updateAt missing change p root = .ok result) :
    updateAt missing' undo p result = .ok root := by
  induction p generalizing root result with
  | nil => exact hundo root result rfl h
  | cons s rest ih =>
    obtain ⟨child, inner, hchild, hin, hover⟩ := exists_of_updateAt_cons h
    have hback : updateAt missing' undo rest inner = .ok child :=
      ih (fun deep left hdeep => hundo deep left (by rw [get?_cons, hchild]; exact hdeep)) hin
    obtain ⟨other, hother, hread⟩ := exists_overwriteChild? hchild inner
    obtain rfl : other = result := Option.some.inj (hother.symm.trans hover)
    refine updateAt_cons hread hback ?_
    rw [overwriteChild?_overwriteChild? hover, overwriteChild?_eq_self hchild]

/-- Adding directly inside at a segment replaces nothing: an item is put between the items, and a
member is new. -/
def vacantAt (s : Segment) : Json → Bool
  | object fields => !Keyed.contains s.name fields
  | array _ => true
  | _ => false

/-- Adding at a path replaces nothing: the path is a position of an array, or a member that is not
in its object. -/
def vacant (path : Path) (root : Json) : Bool :=
  match splitLast? path with
  | none => false
  | some (parent, last) => (root.get? parent).any (vacantAt last)

theorem removeChild_of_addChild {path path' : Path} {s : Segment} {value root result : Json}
    (hvacant : root.vacantAt s = true) (h : addChild path s value root = .ok result) :
    removeChild path' s result = .ok root := by
  cases root with
  | object fields =>
    obtain rfl := Except.ok.inj h
    have habsent : Keyed.get? s.name fields = none := by
      simpa [vacantAt, Keyed.contains] using hvacant
    rw [removeChild, if_pos (Keyed.contains_insert_self ..), Keyed.erase_insert habsent]
  | array items =>
    cases hp : s.position? with
    | none => simp [addChild, hp] at h
    | some position =>
      by_cases hle : position ≤ items.length
      · simp only [addChild, hp, hle, if_true, Except.ok.injEq] at h
        subst h
        have hlt : position < (items.take position ++ value :: items.drop position).length := by
          simp only [List.length_append, List.length_take, List.length_cons, List.length_drop]
          omega
        simp only [removeChild, hp, hlt, if_true, Except.ok.injEq, array.injEq]
        rw [List.eraseIdx_append_of_length_le (by simp [hle])]
        simp [hle]
      · simp [addChild, hp, hle] at h
  | null | bool | number | text => simp [vacantAt] at hvacant

/-- **Removing what was added** where nothing was replaced gives the value as it was. -/
theorem applyPatch_remove_of_add {path : Path} {value root result : Json}
    (hvacant : root.vacant path = true) (h : root.applyPatch (.add path value) = .ok result) :
    result.applyPatch (.remove path) = .ok root := by
  rw [vacant] at hvacant
  cases hlast : splitLast? path with
  | none => simp [hlast] at hvacant
  | some ends =>
    obtain ⟨parent, last⟩ := ends
    simp only [hlast] at hvacant
    simp only [applyPatch, hlast] at h ⊢
    refine updateAt_undo (fun child inner hread hadd => removeChild_of_addChild ?_ hadd) h
    rw [hread] at hvacant
    exact hvacant

end Json

namespace Patch

/-- **Changes are made in whole or not at all.** A change that does not fit leaves the value as it
was, and a row leaves the value that the changes before the first such change lead to; two rows in
one are the first row, then the second; and removing what was added where nothing was replaced
restores the value. -/
theorem changes_whole_or_not_at_all :
    (∀ (p : Patch) (root result : Json),
      p.inPlace root = .ok () result ↔ root.applyPatch p = .ok result) ∧
    (∀ (p : Patch) (root left : Json) (fault : PatchFault),
      p.inPlace root = .error fault left ↔ left = root ∧ root.applyPatch p = .error fault) ∧
    (∀ (ps : List Patch) (root result : Json),
      allInPlace ps root = .ok () result ↔ root.patch ps = .ok result) ∧
    (∀ (ps : List Patch) (root left : Json) (fault : PatchFault),
      allInPlace ps root = .error fault left ↔
        ∃ front p rest, ps = front ++ p :: rest ∧ allInPlace front root = .ok () left ∧
          p.inPlace left = .error fault left) ∧
    (∀ ps qs : List Patch, allInPlace (ps ++ qs) = (do allInPlace ps; allInPlace qs)) ∧
    ∀ (path : Path) (value root result : Json), root.vacant path = true →
      (add path value).inPlace root = .ok () result →
        (remove path).inPlace result = .ok () root := by
  refine ⟨fun _ _ _ => inPlace_eq_ok_iff, fun _ _ _ _ => inPlace_eq_error_iff,
    fun _ _ _ => allInPlace_eq_ok_iff, fun _ _ _ _ => allInPlace_eq_error_iff,
    allInPlace_append, fun path value root result hvacant hadd => ?_⟩
  exact inPlace_eq_ok_iff.2 (Json.applyPatch_remove_of_add hvacant (inPlace_eq_ok_iff.1 hadd))

/-- An item between two others, at a name that reads as a number; and a row whose second change looks
for a member of an array. -/
theorem changes_whole_or_not_at_all_nested :
    let root := Json.object [("pets", .array [.text "cat", .null])]
    let grown := Json.object [("pets", .array [.text "cat", .bool true, .null])]
    let path : Path := [.key "pets", .key "1"]
    (remove path).inPlace grown = .ok () root ∧
      allInPlace [add path (.bool true), remove [.key "pets", .key "name"], remove path] root =
        .error (.pathNotFound [.key "pets", .key "name"]) grown := by
  intro root grown path
  obtain ⟨-, -, -, hrow, -, hundo⟩ := changes_whole_or_not_at_all
  have hgrown : (add path (.bool true)).inPlace root = .ok () grown := rfl
  refine ⟨hundo path (.bool true) root grown rfl hgrown, (hrow _ _ _ _).2 ?_⟩
  exact ⟨[add path (.bool true)], remove [.key "pets", .key "name"], [remove path], rfl, hgrown, rfl⟩

end Patch

end Dialogue
