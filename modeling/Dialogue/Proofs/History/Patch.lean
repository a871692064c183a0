import Dialogue.History.Patch
import Dialogue.Proofs.Keyed
/-!
# Laws of patches

Changes are carried out one after the other, so a row of them can be cut anywhere. A change inside a
value that stands one segment deep in another is the same change with the segment put in front of
its path.

## Main statements

- `Json.patch_append`, `Json.patch_take` — cutting a row of changes
- `Json.exists_overwriteChild?`, `Json.overwriteChild?_overwriteChild?` — replacing what is inside
- `Json.patch_under` — a row of changes one segment deeper
-/

namespace Dialogue

namespace Patch

/-- The path a change is about. -/
def path : Patch → Path
  | add path _ => path
  | remove path => path
  | replace path _ => path

/-- The value that a change puts in. -/
def value? : Patch → Option Json
  | add _ value => some value
  | remove _ => none
  | replace _ value => some value

/-- The change inside a larger value, in which the value it was about stands at a path. -/
def under (front : Path) : Patch → Patch
  | add path value => add (front ++ path) value
  | remove path => remove (front ++ path)
  | replace path value => replace (front ++ path) value

@[simp] theorem under_add (front path : Path) (value : Json) :
    (add path value).under front = add (front ++ path) value := rfl

@[simp] theorem under_remove (front path : Path) :
    (remove path).under front = remove (front ++ path) := rfl

@[simp] theorem under_replace (front path : Path) (value : Json) :
    (replace path value).under front = replace (front ++ path) value := rfl

/-- A change that neither adds nor removes the whole value. -/
def Inner : Patch → Prop
  | add path _ => path ≠ []
  | remove path => path ≠ []
  | replace _ _ => True

end Patch

namespace Json

/-! ### Cutting a row of changes -/

theorem patch_cons (root : Json) (p : Patch) (rest : List Patch) :
    root.patch (p :: rest) = (root.applyPatch p).bind (·.patch rest) := rfl

/-- Carrying out two rows is carrying out the first, then the second. -/
theorem patch_append (root : Json) (ps qs : List Patch) :
    root.patch (ps ++ qs) = (root.patch ps).bind (·.patch qs) := by
  induction ps generalizing root with
  | nil => rfl
  | cons p ps ih =>
    rw [List.cons_append, patch_cons, patch_cons]
    cases root.applyPatch p with
    | error fault => rfl
    | ok next => exact ih next

/-- When a whole row fits, every front of it does. -/
theorem patch_take {root result : Json} {ps : List Patch} (h : root.patch ps = .ok result) (n : Nat) :
    ∃ between, root.patch (ps.take n) = .ok between := by
  rw [← List.take_append_drop n ps, patch_append] at h
  cases hfront : root.patch (ps.take n) with
  | error fault => rw [hfront] at h; cases h
  | ok between => exact ⟨between, rfl⟩

/-! ### Replacing what is inside -/

/-- Whatever is inside can be replaced, and the new value is read in its place. -/
theorem exists_overwriteChild? {root child : Json} {s : Segment} (h : root.child? s = some child)
    (value : Json) :
    ∃ result, root.overwriteChild? s value = some result ∧ result.child? s = some value := by
  cases root with
  | object fields =>
    have hkey : Keyed.contains s.name fields = true := by
      rw [Keyed.contains, show Keyed.get? s.name fields = some child from h, Option.isSome_some]
    exact ⟨object (Keyed.replace s.name value fields), by rw [overwriteChild?, if_pos hkey],
      Keyed.get?_replace_self hkey⟩
  | array items =>
    obtain ⟨position, hp, hget⟩ := Option.bind_eq_some_iff.1 h
    have hlt := (List.getElem?_eq_some_iff.1 hget).1
    exact ⟨array (items.set position value), by simp [overwriteChild?, hp, hlt],
      by simp [child?, hp, hlt]⟩
  | null | bool | number | text => simp [child?] at h

/-- The later of two replacements decides. -/
theorem overwriteChild?_overwriteChild? {root result : Json} {s : Segment} {u : Json}
    (h : root.overwriteChild? s u = some result) (v : Json) :
    result.overwriteChild? s v = root.overwriteChild? s v := by
  cases root with
  | object fields =>
    by_cases hkey : Keyed.contains s.name fields = true
    · rw [overwriteChild?, if_pos hkey] at h
      obtain rfl := Option.some.inj h
      simp [overwriteChild?, hkey, Keyed.replace_replace]
    · simp [overwriteChild?, hkey] at h
  | array items =>
    cases hp : s.position? with
    | none => simp [overwriteChild?, hp] at h
    | some position =>
      by_cases hlt : position < items.length
      · simp only [overwriteChild?, hp, Option.bind_eq_bind, Option.bind_some, hlt, if_true,
          Option.some.injEq] at h
        subst h
        simp [overwriteChild?, hp, hlt]
      · simp [overwriteChild?, hp, hlt] at h
  | null | bool | number | text => simp [overwriteChild?] at h

/-- Replacing a value by itself changes nothing. -/
theorem overwriteChild?_eq_self {root child : Json} {s : Segment} (h : root.child? s = some child) :
    root.overwriteChild? s child = some root := by
  cases root with
  | object fields =>
    have hget : Keyed.get? s.name fields = some child := h
    simp [overwriteChild?, Keyed.contains, hget, Keyed.replace_eq_self hget]
  | array items =>
    obtain ⟨position, hp, hget⟩ := Option.bind_eq_some_iff.1 h
    obtain ⟨hlt, rfl⟩ := List.getElem?_eq_some_iff.1 hget
    simp [overwriteChild?, hp, hlt]
  | null | bool | number | text => simp [child?] at h

/-! ### One segment deeper -/

/-- A change that fits at a path fits there whatever faults it would have reported. -/
theorem updateAt_mono {ε : Type} {missing missing' : ε} {change change' : Json → Except ε Json}
    (h : ∀ root result, change root = .ok result → change' root = .ok result) {p : Path}
    {root result : Json} (hup : updateAt missing change p root = .ok result) :
    updateAt missing' change' p root = .ok result := by
  induction p generalizing root result with
  | nil => exact h root result hup
  | cons s rest ih =>
    rw [updateAt] at hup ⊢
    cases hchild : root.child? s with
    | none => rw [hchild] at hup; cases hup
    | some child =>
      rw [hchild] at hup
      cases hrest : updateAt missing change rest child with
      | error fault => simp [hrest, bind, Except.bind] at hup
      | ok inner =>
        simp only [hrest, bind, Except.bind] at hup
        simp only [ih hrest, bind, Except.bind]
        cases hover : root.overwriteChild? s inner with
        | none => simp only [hover] at hup; cases hup
        | some outer => simpa only [hover] using hup

theorem addChild_mono {path path' : Path} {s : Segment} {value root result : Json}
    (h : addChild path s value root = .ok result) : addChild path' s value root = .ok result := by
  cases root with
  | object fields => exact h
  | array items =>
    cases hp : s.position? with
    | none => simp [addChild, hp] at h
    | some position =>
      by_cases hle : position ≤ items.length
      · simpa [addChild, hp, hle] using h
      · simp [addChild, hp, hle] at h
  | null | bool | number | text => simp [addChild] at h

theorem removeChild_mono {path path' : Path} {s : Segment} {root result : Json}
    (h : removeChild path s root = .ok result) : removeChild path' s root = .ok result := by
  cases root with
  | object fields =>
    by_cases hkey : Keyed.contains s.name fields = true
    · simpa [removeChild, hkey] using h
    · simp [removeChild, hkey] at h
  | array items =>
    cases hp : s.position? with
    | none => simp [removeChild, hp] at h
    | some position =>
      by_cases hlt : position < items.length
      · simpa [removeChild, hp, hlt] using h
      · simp [removeChild, hp, hlt] at h
  | null | bool | number | text => simp [removeChild] at h

theorem replaceChild_mono {path path' : Path} {s : Segment} {value root result : Json}
    (h : replaceChild path s value root = .ok result) :
    replaceChild path' s value root = .ok result := by
  unfold replaceChild at h ⊢
  cases hover : root.overwriteChild? s value with
  | none => simp [hover] at h
  | some outer => simpa [hover] using h

theorem splitLast?_append_singleton (parent : Path) (s : Segment) :
    splitLast? (parent ++ [s]) = some (parent, s) := by
  simp [splitLast?]

/-- Changing what stands one segment deep. -/
theorem updateAt_cons {ε : Type} {missing : ε} {change : Json → Except ε Json} {s : Segment}
    {p : Path} {root child inner outer : Json} (hchild : root.child? s = some child)
    (hin : updateAt missing change p child = .ok inner)
    (hout : root.overwriteChild? s inner = some outer) :
    updateAt missing change (s :: p) root = .ok outer := by
  simp only [updateAt, hchild, hin, hout, bind, Except.bind]
  rfl

/-- A change that fits the value inside fits the whole, one segment deeper. -/
theorem applyPatch_under {root child inner outer : Json} {s : Segment} {p : Patch} (hp : p.Inner)
    (hchild : root.child? s = some child) (hin : child.applyPatch p = .ok inner)
    (hout : root.overwriteChild? s inner = some outer) :
    root.applyPatch (p.under [s]) = .ok outer := by
  rcases List.eq_nil_or_concat p.path with hnil | ⟨parent, last, hpath⟩
  · cases p with
    | add path value => exact absurd hnil hp
    | remove path => exact absurd hnil hp
    | replace path value =>
      obtain rfl : path = [] := hnil
      obtain rfl : value = inner := Except.ok.inj hin
      simp only [Patch.under, List.append_nil, applyPatch]
      rw [← List.nil_append [s], splitLast?_append_singleton]
      simp [updateAt, replaceChild, hout]
  · rw [List.concat_eq_append] at hpath
    cases p with
    | add path value =>
      obtain rfl : path = parent ++ [last] := hpath
      simp only [Patch.under, ← List.append_assoc, applyPatch, splitLast?_append_singleton]
        at hin ⊢
      exact updateAt_cons hchild (updateAt_mono (fun _ _ => addChild_mono) hin) hout
    | remove path =>
      obtain rfl : path = parent ++ [last] := hpath
      simp only [Patch.under, ← List.append_assoc, applyPatch, splitLast?_append_singleton]
        at hin ⊢
      exact updateAt_cons hchild (updateAt_mono (fun _ _ => removeChild_mono) hin) hout
    | replace path value =>
      obtain rfl : path = parent ++ [last] := hpath
      simp only [Patch.under, ← List.append_assoc, applyPatch, splitLast?_append_singleton]
        at hin ⊢
      exact updateAt_cons hchild (updateAt_mono (fun _ _ => replaceChild_mono) hin) hout

/-- A row of changes that fits the value inside fits the whole, one segment deeper. -/
theorem patch_under {root child inner outer : Json} {s : Segment} {ps : List Patch}
    (hps : ∀ p ∈ ps, p.Inner) (hchild : root.child? s = some child)
    (hin : child.patch ps = .ok inner) (hout : root.overwriteChild? s inner = some outer) :
    root.patch (ps.map (Patch.under [s])) = .ok outer := by
  induction ps generalizing root child with
  | nil =>
    obtain rfl : child = inner := Except.ok.inj hin
    rw [overwriteChild?_eq_self hchild] at hout
    exact congrArg Except.ok (Option.some.inj hout)
  | cons p ps ih =>
    obtain ⟨hp, hps⟩ := List.forall_mem_cons.1 hps
    rw [patch_cons] at hin
    cases hfirst : child.applyPatch p with
    | error fault => rw [hfirst] at hin; cases hin
    | ok next =>
      rw [hfirst] at hin
      obtain ⟨middle, hover, hnext⟩ := exists_overwriteChild? hchild next
      rw [List.map_cons, patch_cons, applyPatch_under hp hchild hfirst hover]
      refine ih hps hnext hin ?_
      rw [overwriteChild?_overwriteChild? hover, hout]

end Json

end Dialogue
