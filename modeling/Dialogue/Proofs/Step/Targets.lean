import Dialogue.Document.Lint
import Mathlib.Data.List.Nodup
/-!
# Walking through a step

A step inside a step is reached by a row of ways, from each branch into one of its steps. The walk
that gathers the steps inside a step comes by every such row once, and the targets of a step are
those of its fields, once each.

## Main definitions

- `Lists` — a list holds exactly the pairs of a relation, no key twice
- `Step.inside?`, `Step.target?` — the steps inside a step and the targets of a step, by position
- `Step.visits`, `Step.named` — the steps and the targets with their positions

## Main statements

- `Lists.flatMap`, `Lists.append`, `Lists.map` — lists made out of lists
- `Step.visits_map_snd`, `Step.targets_eq_map_named` — the walks are those of the rules
- `Step.lists_visits`, `Step.lists_named` — every position is visited once
-/

namespace Dialogue

/-! ### Lists of what stands where -/

/-- The items of a list, each behind its index. -/
def numbered {α : Type} (l : List α) : List (Nat × α) := l.zipIdx.map Prod.swap

theorem map_snd_numbered {α : Type} (l : List α) : (numbered l).map (·.2) = l := by
  rw [numbered, List.map_map]
  exact List.zipIdx_map_fst 0 l

theorem flatMap_numbered {α β : Type} (f : α → List β) (l : List α) :
    ((numbered l).flatMap fun e => f e.2) = l.flatMap f := by
  conv => rhs; rw [← map_snd_numbered l, List.flatMap_map]

/-- The entries are the pairs of a relation, and no two of them have the same key. -/
structure Lists {κ α : Type} (Has : κ → α → Prop) (entries : List (κ × α)) : Prop where
  nodup : (entries.map (·.1)).Nodup
  mem_iff : ∀ key value, (key, value) ∈ entries ↔ Has key value

namespace Lists

variable {κ μ α β : Type} {Has : κ → α → Prop} {entries : List (κ × α)}

theorem congr {Has' : κ → α → Prop} (h : Lists Has entries)
    (hsame : ∀ key value, Has key value ↔ Has' key value) : Lists Has' entries where
  nodup := h.nodup
  mem_iff key value := (h.mem_iff key value).trans (hsame key value)

theorem nil : Lists (fun (_ : κ) (_ : α) => False) [] where
  nodup := List.nodup_nil
  mem_iff _ _ := iff_of_false List.not_mem_nil id

theorem singleton (key : κ) (value : α) :
    Lists (fun k a => k = key ∧ a = value) [(key, value)] where
  nodup := List.nodup_singleton key
  mem_iff k a := by rw [List.mem_singleton, Prod.mk.injEq]

theorem append {Has' : κ → α → Prop} {others : List (κ × α)} (h : Lists Has entries)
    (h' : Lists Has' others) (hdisjoint : ∀ key a b, Has key a → ¬ Has' key b) :
    Lists (fun key value => Has key value ∨ Has' key value) (entries ++ others) where
  nodup := by
    rw [List.map_append, List.nodup_append]
    refine ⟨h.nodup, h'.nodup, ?_⟩
    intro key hkey other hother heq
    obtain ⟨⟨_, a⟩, ha, rfl⟩ := List.mem_map.1 hkey
    obtain ⟨⟨_, b⟩, hb, rfl⟩ := List.mem_map.1 hother
    obtain rfl : _ = _ := heq
    exact hdisjoint _ a b ((h.mem_iff _ _).1 ha) ((h'.mem_iff _ _).1 hb)
  mem_iff key value := by rw [List.mem_append, h.mem_iff, h'.mem_iff]

/-- Entries gathered from under other entries, when no key comes up under two of them. -/
theorem flatMap {Inner : κ → α → μ → β → Prop} {inner : κ → α → List (μ × β)}
    (h : Lists Has entries)
    (hinner : ∀ key value, Has key value → Lists (Inner key value) (inner key value))
    (hkey : ∀ {k a k' a' m b b'}, Inner k a m b → Inner k' a' m b' → k = k') :
    Lists (fun m b => ∃ key value, Has key value ∧ Inner key value m b)
      (entries.flatMap fun e => inner e.1 e.2) where
  nodup := by
    rw [List.map_flatMap, List.nodup_flatMap]
    refine ⟨fun e he => (hinner e.1 e.2 ((h.mem_iff _ _).1 he)).nodup, ?_⟩
    have hkeys : entries.Pairwise fun e e' => e.1 ≠ e'.1 := List.pairwise_map.1 h.nodup
    refine (List.Pairwise.and_mem.1 hkeys).imp ?_
    rintro e e' ⟨he, he', hne⟩ m hm hm'
    obtain ⟨⟨_, b⟩, hb, rfl⟩ := List.mem_map.1 hm
    obtain ⟨⟨_, b'⟩, hb', heq⟩ := List.mem_map.1 hm'
    have hhas := ((hinner _ _ ((h.mem_iff _ _).1 he)).mem_iff _ _).1 hb
    have hhas' := ((hinner _ _ ((h.mem_iff _ _).1 he')).mem_iff _ _).1 hb'
    obtain rfl : _ = _ := heq
    exact hne (hkey hhas hhas')
  mem_iff m b := by
    rw [List.mem_flatMap]
    constructor
    · rintro ⟨⟨key, value⟩, he, hb⟩
      have hhas := (h.mem_iff _ _).1 he
      exact ⟨key, value, hhas, ((hinner _ _ hhas).mem_iff m b).1 hb⟩
    · rintro ⟨key, value, hhas, hb⟩
      exact ⟨(key, value), (h.mem_iff _ _).2 hhas, ((hinner _ _ hhas).mem_iff m b).2 hb⟩

/-- Entries with other keys and values, when the other keys tell the keys apart. -/
theorem map {f : κ → α → μ × β} (h : Lists Has entries)
    (hkey : ∀ {k a k' a'}, (f k a).1 = (f k' a').1 → k = k') :
    Lists (fun m b => ∃ key value, Has key value ∧ f key value = (m, b))
      (entries.map fun e => f e.1 e.2) := by
  have hsingle : ∀ key value, Has key value →
      Lists (fun m b => f key value = (m, b)) [f key value] := by
    intro key value _
    refine (singleton (f key value).1 (f key value).2).congr fun m b => ?_
    rw [Prod.ext_iff]
    exact and_congr eq_comm eq_comm
  have hflat := h.flatMap hsingle fun {k a k' a' m b b'} hb hb' =>
    hkey ((congrArg Prod.fst hb).trans (congrArg Prod.fst hb').symm)
  rwa [← List.map_eq_flatMap] at hflat

/-- The items of a list by their indices. -/
theorem numbered (l : List α) : Lists (fun (i : Nat) a => l[i]? = some a) (numbered l) where
  nodup := by
    have hkeys : (Dialogue.numbered l).map (·.1) = List.range' 0 l.length := by
      rw [Dialogue.numbered, List.map_map]
      exact List.zipIdx_map_snd 0 l
    rw [hkeys]
    exact List.nodup_range'
  mem_iff i a := by
    rw [Dialogue.numbered, List.mem_map]
    constructor
    · rintro ⟨⟨b, j⟩, hmem, heq⟩
      obtain ⟨rfl, rfl⟩ := Prod.mk.inj heq
      exact List.mem_zipIdx_iff_getElem?.1 hmem
    · intro hget
      exact ⟨(a, i), List.mem_zipIdx_iff_getElem?.2 hget, rfl⟩

/-- What may stand under one key. -/
theorem toList (key : κ) (value : Option α) :
    Lists (fun k a => k = key ∧ value = some a) (value.toList.map (key, ·)) := by
  cases value with
  | none => exact nil.congr fun _ _ => by simp
  | some value =>
    refine (singleton key value).congr fun k a => ?_
    rw [Option.some.injEq, eq_comm (a := a)]

end Lists

/-! ### Positions in a step -/

namespace Step

/-- A step in a branch: one of the cases, or the fallback. -/
inductive Way where
  | case (index : Nat)
  | fallback
  deriving DecidableEq, Repr

/-- The field of a step that names a target. -/
inductive Field where
  | next
  | link (index : Nat)
  | failNext
  deriving DecidableEq, Repr

/-- The name of a field in the issues about it. -/
def Field.name : Field → String
  | .next => "next"
  | .link _ => "link"
  | .failNext => "failNext"

/-- The target of a field. -/
def target? (step : Step) : Field → Option String
  | .next => step.next
  | .link index => (step.links.getD [])[index]?.map (·.2)
  | .failNext => step.request.bind (·.failNext)

/-- The step that a branch holds in one of its ways. -/
def way? (branch : Branch Step) : Way → Option Step
  | .case index => branch.cases[index]?.map (·.2)
  | .fallback => branch.fallback

/-- The step that a row of ways leads to, from one branch to the next. -/
def inside? (step : Step) : List Way → Option Step
  | [] => some step
  | way :: route => ((step.switch.bind (way? · way)).bind (inside? · route))

theorem inside?_cons_iff {step part : Step} {way : Way} {route : List Way} :
    step.inside? (way :: route) = some part ↔ ∃ branch, step.switch = some branch ∧
      ∃ inner, way? branch way = some inner ∧ inner.inside? route = some part := by
  rw [inside?, Option.bind_eq_some_iff]
  constructor
  · rintro ⟨inner, hinner, hinside⟩
    obtain ⟨branch, hbranch, hway⟩ := Option.bind_eq_some_iff.1 hinner
    exact ⟨branch, hbranch, inner, hway, hinside⟩
  · rintro ⟨branch, hbranch, inner, hway, hinside⟩
    exact ⟨inner, Option.bind_eq_some_iff.2 ⟨branch, hbranch, hway⟩, hinside⟩

/-- The targets of a step by their fields. -/
def named (step : Step) : List (Field × String) :=
  step.next.toList.map (Field.next, ·) ++
  ((numbered (step.links.getD [])).map fun e => (Field.link e.1, e.2.2)) ++
  (step.request.bind (·.failNext)).toList.map (Field.failNext, ·)

mutual

/-- The steps inside a step with the ways to them. -/
def visits : Step → List (List Way × Step)
  | step@⟨_, _, _, _, _, _, none, _, _⟩ => [([], step)]
  | step@⟨_, _, _, _, _, _, some ⟨_, cases, fallback⟩, _, _⟩ =>
    ([], step) :: (visitsCases 0 cases ++
      match fallback with
      | none => []
      | some other => (visits other).map fun v => (.fallback :: v.1, v.2))

/-- The steps inside some cases, the first of which has the index, with the ways to them. -/
def visitsCases (index : Nat) : List (String × Step) → List (List Way × Step)
  | [] => []
  | (_, step) :: rest =>
    (visits step).map (fun v => (.case index :: v.1, v.2)) ++ visitsCases (index + 1) rest

end

theorem visits_of_branch {step : Step} {branch : Branch Step} (h : step.switch = some branch) :
    step.visits = ([], step) :: (visitsCases 0 branch.cases ++
      match branch.fallback with
      | none => []
      | some other => other.visits.map fun v => (.fallback :: v.1, v.2)) := by
  obtain ⟨_, _, _, _, _, _, switch, _, _⟩ := step
  obtain ⟨_, cases, fallback⟩ := branch
  obtain rfl : switch = _ := h
  cases fallback <;> rw [visits]

mutual

theorem visits_map_snd : (step : Step) → step.visits.map (·.2) = step.authored
  | ⟨_, _, _, _, _, _, none, _, _⟩ => by rw [visits, authored]; rfl
  | ⟨_, _, _, _, _, _, some ⟨_, cases, none⟩, _, _⟩ => by
    rw [visits, authored, List.map_cons, List.map_append, visitsCases_map_snd 0 cases]
    rfl
  | ⟨_, _, _, _, _, _, some ⟨_, cases, some other⟩, _, _⟩ => by
    rw [visits, authored, List.map_cons, List.map_append, visitsCases_map_snd 0 cases,
      List.map_map]
    exact congrArg (fun steps => _ :: (_ ++ steps)) (visits_map_snd other)

theorem visitsCases_map_snd (index : Nat) : (cases : List (String × Step)) →
    (visitsCases index cases).map (·.2) = authoredCases cases
  | [] => rfl
  | (_, step) :: rest => by
    rw [visitsCases, authoredCases, List.map_append, List.map_map, ← visits_map_snd step,
      ← visitsCases_map_snd (index + 1) rest]
    rfl

end

mutual

/-- **The walk through a step comes by every position once**, with the step that stands there. -/
theorem lists_visits : (step : Step) →
    Lists (fun route part => step.inside? route = some part) step.visits
  | ⟨_, _, _, _, _, _, none, _, _⟩ => by
    rw [visits]
    refine (Lists.singleton _ _).congr fun route part => ?_
    cases route with
    | nil => simp [inside?, eq_comm]
    | cons way route => simp [inside?]
  | ⟨_, _, _, _, _, _, some ⟨subject, cases, fallback⟩, _, _⟩ => by
    have hfallback : Lists
        (fun route part => ∃ rest other, fallback = some other ∧
          other.inside? rest = some part ∧ route = .fallback :: rest)
        (match fallback with
          | none => []
          | some other => (visits other).map fun v => (Way.fallback :: v.1, v.2)) := by
      cases fallback with
      | none => exact Lists.nil.congr fun _ _ => by simp
      | some other =>
        have hother := (lists_visits other).map
          (f := fun route part => (Way.fallback :: route, part)) fun heq => (List.cons.inj heq).2
        refine hother.congr fun route part => ?_
        constructor
        · rintro ⟨rest, value, hinside, heq⟩
          obtain ⟨rfl, rfl⟩ := Prod.mk.inj heq
          exact ⟨rest, other, rfl, hinside, rfl⟩
        · rintro ⟨rest, _, heq, hinside, rfl⟩
          obtain rfl := Option.some.inj heq
          exact ⟨rest, part, hinside, rfl⟩
    have hbranch := (lists_visitsCases 0 cases).append hfallback (by
      rintro route a b ⟨i, rest, p, rfl, -⟩ ⟨_, _, _, _, heq⟩
      cases heq)
    rw [visits_of_branch rfl]
    refine ((Lists.singleton [] _).append hbranch ?_).congr fun route part => ?_
    · rintro _ a b ⟨rfl, -⟩ (⟨_, _, _, heq, -⟩ | ⟨_, _, _, _, heq⟩) <;> cases heq
    · constructor
      · rintro (⟨rfl, rfl⟩ | ⟨i, rest, case, rfl, hcase, hinside⟩ |
          ⟨rest, other, hother, hinside, rfl⟩)
        · rfl
        · rw [Nat.zero_add]
          exact inside?_cons_iff.2 ⟨_, rfl, case, hcase, hinside⟩
        · exact inside?_cons_iff.2 ⟨_, rfl, other, hother, hinside⟩
      · intro h
        cases route with
        | nil => exact .inl ⟨rfl, (Option.some.inj h).symm⟩
        | cons way rest =>
          obtain ⟨branch, hbranch, inner, hway, hinside⟩ := inside?_cons_iff.1 h
          obtain rfl := Option.some.inj hbranch
          cases way with
          | case i => exact .inr (.inl ⟨i, rest, inner, by rw [Nat.zero_add], hway, hinside⟩)
          | fallback => exact .inr (.inr ⟨rest, inner, hway, hinside, rfl⟩)

theorem lists_visitsCases (index : Nat) : (cases : List (String × Step)) →
    Lists (fun route part => ∃ i rest case, route = .case (index + i) :: rest ∧
      cases[i]?.map (·.2) = some case ∧ case.inside? rest = some part) (visitsCases index cases)
  | [] => Lists.nil.congr fun _ _ => by simp
  | (key, step) :: others => by
    have hfirst := (lists_visits step).map (f := fun route part => (Way.case index :: route, part))
      fun heq => (List.cons.inj heq).2
    have hothers := lists_visitsCases (index + 1) others
    rw [visitsCases]
    refine (hfirst.append hothers ?_).congr fun route part => ?_
    · rintro _ a b ⟨rest, value, -, heq⟩ ⟨i, rest', case, hroute, -⟩
      obtain ⟨rfl, -⟩ := Prod.mk.inj heq
      have hindex := Way.case.inj (List.cons.inj hroute).1
      omega
    · constructor
      · rintro (⟨rest, value, hinside, heq⟩ | ⟨i, rest, case, rfl, hget, hinside⟩)
        · obtain ⟨rfl, rfl⟩ := Prod.mk.inj heq
          exact ⟨0, rest, step, rfl, rfl, hinside⟩
        · refine ⟨i + 1, rest, case, ?_, hget, hinside⟩
          rw [Nat.add_right_comm, Nat.add_assoc]
      · rintro ⟨i, rest, case, rfl, hget, hinside⟩
        cases i with
        | zero =>
          obtain rfl := Option.some.inj hget
          exact .inl ⟨rest, part, hinside, rfl⟩
        | succ i =>
          refine .inr ⟨i, rest, case, ?_, hget, hinside⟩
          rw [Nat.add_right_comm, Nat.add_assoc]

end

/-- The fields of a step that name a target. -/
theorem lists_named (step : Step) :
    Lists (fun field target => step.target? field = some target) step.named := by
  have hlinks := (Lists.numbered (step.links.getD [])).map
    (f := fun i p => (Field.link i, p.2)) Field.link.inj
  refine (((Lists.toList Field.next step.next).append hlinks ?_).append
    (Lists.toList Field.failNext (step.request.bind (·.failNext))) ?_).congr fun field target => ?_
  · rintro _ a b ⟨rfl, -⟩ ⟨_, _, _, heq⟩
    cases (Prod.mk.inj heq).1
  · rintro _ a b (⟨rfl, -⟩ | ⟨_, _, _, heq⟩) ⟨hlast, -⟩
    · cases hlast
    · cases hlast.symm.trans (Prod.mk.inj heq).1.symm
  · cases field <;> simp [target?]

theorem targets_eq_map_named (step : Step) :
    step.targets = step.named.map fun e => (e.1.name, e.2) := by
  have hlinks := congrArg (List.map fun p : String × String => ("link", p.2))
    (map_snd_numbered (step.links.getD []))
  rw [targets, named, ← hlinks]
  simp only [List.map_append, List.map_map]
  rfl

end Step

end Dialogue
