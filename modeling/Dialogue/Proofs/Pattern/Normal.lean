import Dialogue.Pattern.Normal
import Mathlib.Data.List.Basic
/-!
# What normalizing changes

Whether a character of a pattern gets a backslash depends on where it stands: inside a class or not,
as the text in front of it tells, and beside a class escape or not. Normalizing puts a backslash in
front of exactly the characters that need one and keeps all others, and doing it again changes
nothing, since a backslash that was put in counts as an escape from then on.

## Main definitions

- `Spot`, `Spot.after` — where a pattern stands behind a text
- `Guarded` — the characters of a pattern that get a backslash
- `guardFrom` — a text with those backslashes put in

## Main statements

- `Spot.normalizeAt_cons`, `Spot.normalizeAt_escape` — normalizing from a place on
- `Spot.exists_of_normalizeAt_eq` — where a character of a normalized text comes from
- `normalizes_conservatively`
-/

namespace Dialogue.Pattern

/-- Where a pattern stands. -/
inductive Spot where
  /-- Outside of classes. -/
  | outside
  /-- Right behind the bracket that opens a class. -/
  | opened
  /-- Right behind the caret that stands first in a class. -/
  | negated
  /-- In a class that holds nothing but dashes so far. -/
  | leading
  /-- Further inside a class, right behind a class escape or not. -/
  | inside (behindEscape : Bool)
  /-- Right behind a backslash, in a class or not. -/
  | escaped (inClass : Bool)
  deriving DecidableEq, Repr

namespace Spot

/-- The place in a class behind one more character, given where a dash leads. -/
def stepInClass (onDash : Spot) (c : Char) : Spot :=
  if c = '\\' then .escaped true
  else if c = ']' then .outside
  else if c = '-' then onDash
  else .inside false

/-- The place behind one more character. An opening bracket outside of classes opens one, and the next
closing bracket closes it; a backslash takes its meaning from the character behind it. -/
def step (k : Spot) (c : Char) : Spot :=
  match k with
  | .outside =>
    if c = '\\' then .escaped false else if c = '[' then .opened else .outside
  | .opened => if c = '^' then .negated else stepInClass .leading c
  | .negated => stepInClass .leading c
  | .leading => stepInClass .leading c
  | .inside _ => stepInClass (.inside false) c
  | .escaped false => .outside
  | .escaped true => .inside (isClassLetter c)

/-- The place behind a text. -/
def after (before : List Char) : Spot := before.foldl step .outside

/-- Whether the next character lies inside a class and no backslash stands in front of it. -/
def inClass : Spot → Bool
  | .outside => false
  | .escaped _ => false
  | _ => true

/-- Whether a backslash stands right in front. -/
def isEscaped : Spot → Bool
  | .escaped _ => true
  | _ => false

/-- Normalize the rest of a pattern from a place on. -/
def normalizeAt (k : Spot) (cs : List Char) : List Char :=
  normalizeFrom k.inClass (k == .inside true) cs

/-- Whether normalizing puts a backslash in front of a character, given what comes behind it. -/
def guards (k : Spot) (c : Char) (after : List Char) : Bool :=
  k.inClass && (c == '[' || c == '&' || c == '~' ||
    c == '-' && (k == .inside true || startsClassEscape after))

variable {k k' : Spot} {c e : Char} {cs rest : List Char}

theorem after_append (before rest : List Char) :
    after (before ++ rest) = rest.foldl step (after before) := List.foldl_append

theorem after_append_singleton (before : List Char) (c : Char) :
    after (before ++ [c]) = (after before).step c := after_append before [c]

/-! ### Steps -/

theorem isEscaped_of_inClass (hk : k.inClass = true) : k.isEscaped = false := by
  cases k with
  | escaped => cases hk
  | _ => rfl

theorem step_backslash (hk : k.isEscaped = false) : k.step '\\' = .escaped k.inClass := by
  cases k with
  | escaped => cases hk
  | _ => rfl

theorem step_outside (hc : c ≠ '\\') : step .outside c = if c = '[' then .opened else .outside :=
  if_neg hc

theorem step_bracket (hk : k.inClass = true) : k.step ']' = .outside := by
  cases k with
  | outside => cases hk
  | escaped => cases hk
  | _ => rfl

/-- Any other character stays in the class. -/
theorem step_inClass (hk : k.inClass = true) (hc : c ≠ '\\') (hclose : c ≠ ']') :
    (k.step c).inClass = true ∧ k.step c ≠ .inside true := by
  have hstep (onDash : Spot) (h : onDash.inClass = true ∧ onDash ≠ .inside true) :
      (stepInClass onDash c).inClass = true ∧ stepInClass onDash c ≠ .inside true := by
    rw [stepInClass, if_neg hc, if_neg hclose]
    split
    · exact h
    · exact ⟨rfl, by decide⟩
  cases k with
  | outside => cases hk
  | escaped => cases hk
  | opened =>
    rw [step]
    split
    · exact ⟨rfl, by decide⟩
    · exact hstep .leading ⟨rfl, by decide⟩
  | negated => exact hstep .leading ⟨rfl, by decide⟩
  | leading => exact hstep .leading ⟨rfl, by decide⟩
  | inside b => exact hstep (.inside false) ⟨rfl, by decide⟩

theorem isEscaped_step (hk : k.isEscaped = false) (hc : c ≠ '\\') : (k.step c).isEscaped = false := by
  by_cases hclass : k.inClass = true
  · by_cases hclose : c = ']'
    · rw [hclose, step_bracket hclass]
      rfl
    · exact isEscaped_of_inClass (step_inClass hclass hc hclose).1
  · cases k with
    | outside =>
      rw [step_outside hc]
      split <;> rfl
    | escaped => cases hk
    | _ => exact absurd rfl hclass

theorem isEscaped_step_escape (hk : k.isEscaped = false) (e : Char) :
    ((k.step '\\').step e).isEscaped = false := by
  rw [step_backslash hk]
  cases k.inClass <;> rfl

/-- A class escape is the only thing behind which a place differs in what it makes of a dash. -/
theorem eq_inside_true_of_step (h : k.step c = .inside true) :
    k = .escaped true ∧ isClassLetter c = true := by
  have hstep (onDash : Spot) (h : stepInClass onDash c = .inside true) : onDash = .inside true := by
    unfold stepInClass at h
    split at h
    · cases h
    · split at h
      · cases h
      · split at h
        · exact h
        · cases h
  cases k with
  | escaped b =>
    cases b with
    | false => cases h
    | true => exact ⟨rfl, Spot.inside.inj h⟩
  | outside =>
    unfold step at h
    dsimp only at h
    split at h
    · cases h
    · split at h <;> cases h
  | opened =>
    unfold step at h
    dsimp only at h
    split at h
    · cases h
    · cases hstep _ h
  | negated => cases hstep _ h
  | leading => cases hstep _ h
  | inside b => cases hstep _ h

/-! ### Normalizing from a place -/

/-- Normalizing looks at no more of a place than these two. -/
theorem normalizeAt_congr (hclass : k.inClass = k'.inClass)
    (hbehind : (k == .inside true) = (k' == .inside true)) : k.normalizeAt = k'.normalizeAt := by
  funext cs
  rw [normalizeAt, normalizeAt, hclass, hbehind]

theorem normalizeAt_inside_false (hclass : k.inClass = true) (hbehind : k ≠ .inside true) :
    k.normalizeAt = (inside false).normalizeAt :=
  normalizeAt_congr hclass (beq_eq_false_iff_ne.2 hbehind)

@[simp] theorem normalizeAt_nil (k : Spot) : k.normalizeAt [] = [] := rfl

@[simp] theorem normalizeAt_trailing (k : Spot) : k.normalizeAt ['\\'] = ['\\'] := by
  rw [normalizeAt, normalizeFrom]

/-- An escape stays as it is. -/
theorem normalizeAt_escape (hk : k.isEscaped = false) (e : Char) (rest : List Char) :
    k.normalizeAt ('\\' :: e :: rest) =
      '\\' :: e :: ((k.step '\\').step e).normalizeAt rest := by
  rw [step_backslash hk, normalizeAt, normalizeFrom]
  cases k.inClass with
  | false => rfl
  | true =>
    have hbehind : (inside (isClassLetter e) == inside true) = isClassLetter e := by
      cases isClassLetter e <;> rfl
    rw [Bool.true_and, step, normalizeAt, hbehind]
    rfl

theorem normalizeFrom_inClass (hc : c ≠ '\\') (behindEscape : Bool) (rest : List Char) :
    normalizeFrom true behindEscape (c :: rest) =
      if c = ']' then ']' :: normalizeFrom false false rest
      else if c = '[' ∨ c = '&' ∨ c = '~' ∨ c = '-' ∧ (behindEscape || startsClassEscape rest) then
        '\\' :: c :: normalizeFrom true false rest
      else c :: normalizeFrom true false rest := by
  rw [normalizeFrom.eq_def]
  split
  · next h => cases h
  · next h => exact absurd (List.cons.inj h).1 hc
  · next h => exact absurd (List.cons.inj h).1 hc
  · next h =>
    obtain ⟨rfl, rfl⟩ := List.cons.inj h
    rfl

/-- A caret that stands first in a class is no different from other characters. -/
theorem normalizeFrom_outside (hc : c ≠ '\\') (behindEscape : Bool) (rest : List Char) :
    normalizeFrom false behindEscape (c :: rest) =
      if c = '[' then '[' :: normalizeFrom true false rest
      else c :: normalizeFrom false behindEscape rest := by
  rw [normalizeFrom.eq_def]
  split
  · next h => cases h
  · next h => exact absurd (List.cons.inj h).1 hc
  · next h => exact absurd (List.cons.inj h).1 hc
  · next h =>
    obtain ⟨rfl, rfl⟩ := List.cons.inj h
    rw [Bool.not_false, if_pos rfl]
    by_cases hopen : c = '['
    · rw [if_pos hopen, if_pos hopen]
      split
      · next rest =>
        rw [normalizeFrom_inClass (by decide), if_neg (by decide), if_neg (by simp)]
      · rfl
    · rw [if_neg hopen, if_neg hopen]

theorem guards_iff (after : List Char) : k.guards c after = true ↔ k.inClass = true ∧
    (c = '[' ∨ c = '&' ∨ c = '~' ∨ c = '-' ∧ (k == .inside true || startsClassEscape after)) := by
  simp [guards, or_assoc]

/-- Any other character stays, with a backslash in front when it is guarded. -/
theorem normalizeAt_cons (hk : k.isEscaped = false) (hc : c ≠ '\\') (rest : List Char) :
    k.normalizeAt (c :: rest) =
      (if k.guards c rest then ['\\', c] else [c]) ++ (k.step c).normalizeAt rest := by
  by_cases hclass : k.inClass = true
  · rw [normalizeAt, hclass, normalizeFrom_inClass hc]
    by_cases hclose : c = ']'
    · have hguards : k.guards c rest = false := by
        rw [← Bool.not_eq_true, guards_iff, hclose]
        simp
      rw [if_pos hclose, hguards, hclose, step_bracket hclass]
      rfl
    · obtain ⟨hstay, hbehind⟩ := step_inClass hclass hc hclose
      rw [if_neg hclose, normalizeAt_inside_false hstay hbehind]
      by_cases hguards : k.guards c rest = true
      · rw [if_pos hguards, if_pos ((guards_iff rest).1 hguards).2]
        rfl
      · rw [if_neg hguards, if_neg fun h => hguards ((guards_iff rest).2 ⟨hclass, h⟩)]
        rfl
  · obtain rfl : k = .outside := by
      cases k with
      | outside => rfl
      | escaped => cases hk
      | _ => exact absurd rfl hclass
    rw [normalizeAt, step_outside hc]
    have hout : inClass .outside = false := rfl
    rw [hout, normalizeFrom_outside hc]
    split
    · next hopen =>
      rw [hopen]
      rfl
    · rfl

theorem eq_escaped_true_of_step (h : k.step c = .escaped true) : c = '\\' ∧ k.inClass = true := by
  have hk : k.isEscaped = false := by
    cases k with
    | escaped b => cases b <;> cases h
    | _ => rfl
  by_cases hc : c = '\\'
  · subst hc
    rw [step_backslash hk] at h
    exact ⟨rfl, Spot.escaped.inj h⟩
  · have hstep := isEscaped_step hk hc
    rw [h] at hstep
    cases hstep

end Spot

/-- A pattern is read escape by escape and, outside of these, character by character; a backslash at
the very end is no escape. -/
@[elab_as_elim]
theorem escapes_induction {motive : List Char → Prop} (nil : motive []) (trailing : motive ['\\'])
    (escape : ∀ e rest, motive rest → motive ('\\' :: e :: rest))
    (char : ∀ c rest, c ≠ '\\' → motive rest → motive (c :: rest)) (cs : List Char) : motive cs := by
  induction hlength : cs.length using Nat.strongRecOn generalizing cs with
  | ind length ih =>
    subst hlength
    cases cs with
    | nil => exact nil
    | cons c rest =>
      by_cases hc : c = '\\'
      · subst hc
        cases rest with
        | nil => exact trailing
        | cons e rest =>
          exact escape e rest (ih rest.length (Nat.lt_succ_of_lt (Nat.lt_succ_self _)) rest rfl)
      · exact char c rest hc (ih rest.length (Nat.lt_succ_self _) rest rfl)

namespace Spot

variable {k : Spot} {c : Char}

/-! ### Normalizing twice -/

theorem ne_backslash_of_guards {after : List Char} (h : k.guards c after = true) :
    c ≠ '\\' ∧ c ≠ ']' ∧ isClassLetter c = false := by
  rcases ((guards_iff after).1 h).2 with rfl | rfl | rfl | ⟨rfl, -⟩ <;> decide

theorem startsClassEscape_cons (hc : c ≠ '\\') (rest : List Char) :
    startsClassEscape (c :: rest) = false := by
  unfold startsClassEscape
  split
  · next h => exact absurd (List.cons.inj h).1 hc
  · rfl

/-- In a class, a class escape comes next in the normalized rest exactly when it does in the rest. -/
theorem startsClassEscape_normalizeAt (hk : k.inClass = true) (cs : List Char) :
    startsClassEscape (k.normalizeAt cs) = startsClassEscape cs := by
  have hescaped := isEscaped_of_inClass hk
  induction cs using escapes_induction with
  | nil => rfl
  | trailing => rw [normalizeAt_trailing]
  | escape e rest => rw [normalizeAt_escape hescaped, startsClassEscape, startsClassEscape]
  | char c rest hc =>
    rw [normalizeAt_cons hescaped hc, startsClassEscape_cons hc]
    by_cases hguards : k.guards c rest = true
    · rw [if_pos hguards]
      exact (ne_backslash_of_guards hguards).2.2
    · rw [if_neg hguards]
      exact startsClassEscape_cons hc _

theorem guards_congr {after after' : List Char}
    (h : startsClassEscape after = startsClassEscape after') :
    k.guards c after = k.guards c after' := by
  rw [guards, guards, h]

theorem guards_normalizeAt (hc : c ≠ '\\') (rest : List Char) :
    k.guards c ((k.step c).normalizeAt rest) = k.guards c rest := by
  by_cases hclass : k.inClass = true
  · by_cases hclose : c = ']'
    · subst hclose
      simp [guards]
    · have hstay := (step_inClass hclass hc hclose).1
      exact guards_congr (startsClassEscape_normalizeAt hstay rest)
  · simp [guards, hclass]

/-- **Normalizing what is normalized changes nothing.** -/
theorem normalizeAt_normalizeAt (hk : k.isEscaped = false) (cs : List Char) :
    k.normalizeAt (k.normalizeAt cs) = k.normalizeAt cs := by
  induction cs using escapes_induction generalizing k with
  | nil => rfl
  | trailing => rw [normalizeAt_trailing, normalizeAt_trailing]
  | escape e rest ih =>
    have hstep := isEscaped_step_escape hk e
    rw [normalizeAt_escape hk, normalizeAt_escape hk, ih hstep]
  | char c rest hc ih =>
    have hstep : (k.step c).isEscaped = false := isEscaped_step hk hc
    rw [normalizeAt_cons hk hc]
    by_cases hguards : k.guards c rest = true
    · -- The backslash that was put in makes an escape, which is no class escape.
      obtain ⟨-, hclose, hletter⟩ := ne_backslash_of_guards hguards
      have hclass : k.inClass = true := ((guards_iff rest).1 hguards).1
      obtain ⟨hstay, hbehind⟩ := step_inClass hclass hc hclose
      have hsame : ((k.step '\\').step c).normalizeAt = (k.step c).normalizeAt := by
        rw [step_backslash hk, hclass, step, hletter, normalizeAt_inside_false hstay hbehind]
      rw [if_pos hguards, List.cons_append, List.singleton_append, normalizeAt_escape hk, hsame,
        ih hstep]
    · rw [if_neg hguards, List.singleton_append, normalizeAt_cons hk hc, guards_normalizeAt hc,
        if_neg hguards, ih hstep, List.singleton_append]

/-! ### Where a normalized character comes from -/

/-- A character that a normalized text starts with, other than a backslash, starts the text that was
normalized and needs no backslash there. -/
theorem exists_cons_of_normalizeAt_eq {cs out : List Char} (hk : k.isEscaped = false) (hc : c ≠ '\\')
    (h : k.normalizeAt cs = c :: out) :
    ∃ rest, cs = c :: rest ∧ k.guards c rest = false ∧ (k.step c).normalizeAt rest = out := by
  cases cs using escapes_induction with
  | nil => cases h
  | trailing =>
    rw [normalizeAt_trailing] at h
    exact absurd (List.cons.inj h).1.symm hc
  | escape e rest =>
    rw [normalizeAt_escape hk] at h
    exact absurd (List.cons.inj h).1.symm hc
  | char d rest hd =>
    rw [normalizeAt_cons hk hd] at h
    by_cases hguards : k.guards d rest = true
    · rw [if_pos hguards] at h
      exact absurd (List.cons.inj h).1.symm hc
    · rw [if_neg hguards] at h
      obtain ⟨rfl, hrest⟩ := List.cons.inj h
      exact ⟨rest, rfl, Bool.eq_false_iff.2 hguards, hrest⟩

/-- How the place in a normalized text relates to the place in the text it comes from: they are the
same, except between a dash that got a backslash and the class escape that it got it for. -/
def Tracks (k k' : Spot) (rest : List Char) : Prop :=
  k = k' ∨ k.inClass = true ∧ k'.inClass = true ∧ startsClassEscape rest = true

theorem Tracks.inClass_eq {rest : List Char} (h : Tracks k k' rest) : k.inClass = k'.inClass := by
  rcases h with rfl | ⟨hclass, hclass', -⟩
  · rfl
  · rw [hclass, hclass']

/-- Behind a character that got a backslash the places are the same, unless the character was a dash
at the start of a class and a class escape comes next. -/
theorem tracks_guarded {rest : List Char} (hguards : k.guards c rest = true) :
    Tracks (k.step c) ((k.step '\\').step c) rest := by
  obtain ⟨hclass, hc⟩ := (guards_iff rest).1 hguards
  obtain ⟨hbackslash, hclose, hletter⟩ := ne_backslash_of_guards hguards
  have hescape : (k.step '\\').step c = .inside false := by
    rw [step_backslash (isEscaped_of_inClass hclass), hclass, step, hletter]
  have hleading (h : c = '-' → startsClassEscape rest = true) :
      Tracks (stepInClass .leading c) (inside false) rest := by
    rw [stepInClass, if_neg hbackslash, if_neg hclose]
    split
    · next hdash => exact .inr ⟨rfl, rfl, h hdash⟩
    · exact .inl rfl
  have hdash (hbehind : (k == .inside true) = false) (h : c = '-') :
      startsClassEscape rest = true := by
    subst h
    rw [hbehind] at hc
    simpa using hc
  rw [hescape]
  cases k with
  | outside => cases hclass
  | escaped => cases hclass
  | opened =>
    have hcaret : c ≠ '^' := by
      rcases hc with rfl | rfl | rfl | ⟨rfl, -⟩ <;> decide
    rw [step, if_neg hcaret]
    exact hleading (hdash rfl)
  | negated => exact hleading (hdash rfl)
  | leading => exact hleading (hdash rfl)
  | inside b =>
    rw [step, stepInClass, if_neg hbackslash, if_neg hclose, ite_self]
    exact .inl rfl

/-- An unescaped character that stands behind the start of an escape stands behind its end. -/
theorem exists_behind_escape {e : Char} {before tail out : List Char} (hk : k.isEscaped = false)
    (hc : c ≠ '\\') (hplace : (before.foldl step k).isEscaped = false)
    (h : '\\' :: e :: tail = before ++ c :: out) :
    ∃ before', before = '\\' :: e :: before' ∧ tail = before' ++ c :: out := by
  obtain ⟨rfl, hhead⟩ | ⟨before, rfl, hrest⟩ := List.cons_eq_append_iff.1 h
  · exact absurd (List.cons.inj hhead).1 hc
  obtain ⟨rfl, -⟩ | ⟨before, rfl, htail⟩ := List.cons_eq_append_iff.1 hrest
  · rw [List.foldl_cons, step_backslash hk] at hplace
    cases hplace
  · exact ⟨before, rfl, htail⟩

/-- An unescaped character of a normalized text stands in the text that was normalized too, where it
needs no backslash, and what follows it is normalized from there on. -/
theorem exists_of_normalizeAt_eq {cs before out : List Char} (hk : k.isEscaped = false)
    (hk' : k'.isEscaped = false) (htracks : Tracks k k' cs) (hc : c ≠ '\\')
    (hplace : (before.foldl step k').isEscaped = false)
    (h : k.normalizeAt cs = before ++ c :: out) :
    ∃ front rest, cs = front ++ c :: rest ∧ front.foldl step k = before.foldl step k' ∧
      (front.foldl step k).guards c rest = false ∧
      ((front.foldl step k).step c).normalizeAt rest = out := by
  induction cs using escapes_induction generalizing k k' before with
  | nil =>
    rw [normalizeAt_nil] at h
    cases before <;> cases h
  | trailing =>
    rw [normalizeAt_trailing] at h
    obtain ⟨rfl, hhead⟩ | ⟨before, rfl, hrest⟩ := List.cons_eq_append_iff.1 h
    · exact absurd (List.cons.inj hhead).1 hc
    · cases before <;> cases hrest
  | escape e rest ih =>
    rw [normalizeAt_escape hk] at h
    obtain ⟨before, rfl, hrest⟩ := exists_behind_escape hk' hc hplace h
    have hstep := isEscaped_step_escape hk e
    have hsame : k'.step '\\' = k.step '\\' := by
      rw [step_backslash hk, step_backslash hk', htracks.inClass_eq]
    rw [List.foldl_cons, List.foldl_cons, hsame] at hplace ⊢
    obtain ⟨front, rest', rfl, hfront⟩ := ih hstep hstep (.inl rfl) hplace hrest
    exact ⟨'\\' :: e :: front, rest', rfl, hfront⟩
  | char d rest hd ih =>
    -- A class escape does not come next, so the places are the same here.
    obtain rfl : k = k' := by
      refine htracks.resolve_right fun h => ?_
      rw [startsClassEscape_cons hd] at h
      exact absurd h.2.2 (by decide)
    have hstep : (k.step d).isEscaped = false := isEscaped_step hk hd
    rw [normalizeAt_cons hk hd] at h
    by_cases hguards : k.guards d rest = true
    · rw [if_pos hguards] at h
      obtain ⟨before, rfl, hrest⟩ := exists_behind_escape hk hc hplace h
      obtain ⟨front, rest', rfl, hfront⟩ :=
        ih hstep (isEscaped_step_escape hk d) (tracks_guarded hguards) hplace hrest
      exact ⟨d :: front, rest', rfl, hfront⟩
    · rw [if_neg hguards] at h
      obtain ⟨rfl, hhead⟩ | ⟨before, rfl, hrest⟩ := List.cons_eq_append_iff.1 h
      · obtain ⟨rfl, rfl⟩ := List.cons.inj hhead
        exact ⟨[], rest, rfl, rfl, Bool.eq_false_iff.2 hguards, rfl⟩
      · obtain ⟨front, rest', rfl, hfront⟩ := ih hstep hstep (.inl rfl) hplace hrest
        exact ⟨d :: front, rest', rfl, hfront⟩

/-! ### Texts that normalizing leaves alone -/

/-- In a text that stays as it is, an unescaped character needs no backslash. -/
theorem guards_eq_false_of_fixed (hk : k.isEscaped = false) (hc : c ≠ '\\') {rest : List Char}
    (h : k.normalizeAt (c :: rest) = c :: rest) :
    k.guards c rest = false ∧ (k.step c).normalizeAt rest = rest := by
  obtain ⟨rest', hcs, hguards, hrest⟩ := exists_cons_of_normalizeAt_eq hk hc h
  obtain ⟨-, rfl⟩ := List.cons.inj hcs
  exact ⟨hguards, hrest⟩

/-- What stands behind a part of such a text stays as it is too. -/
theorem fixed_of_append (hk : k.isEscaped = false) {front rest : List Char}
    (hfront : (front.foldl step k).isEscaped = false)
    (h : k.normalizeAt (front ++ rest) = front ++ rest) :
    (front.foldl step k).normalizeAt rest = rest := by
  induction front using escapes_induction generalizing k with
  | nil => exact h
  | trailing =>
    rw [List.foldl_cons, step_backslash hk] at hfront
    cases hfront
  | escape e front ih =>
    have hstep := isEscaped_step_escape hk e
    rw [List.cons_append, List.cons_append, normalizeAt_escape hk] at h
    exact ih hstep hfront (List.cons.inj (List.cons.inj h).2).2
  | char c front hc ih =>
    exact ih (isEscaped_step hk hc) hfront (guards_eq_false_of_fixed hk hc h).2

end Spot

/-! ### Which characters are guarded -/

/-- A class escape inside a class stands right in front. -/
def EndsClassEscape (before : List Char) : Prop :=
  ∃ front e, before = front ++ ['\\', e] ∧ (Spot.after front).inClass = true ∧
    isClassLetter e = true

/-- The characters that get a backslash: inside a class, with no backslash in front, a bracket, an
ampersand, a tilde, or a dash that has a class escape for a neighbour. -/
def Guarded (before : List Char) (c : Char) (after : List Char) : Prop :=
  (Spot.after before).inClass = true ∧
    (c = '[' ∨ c = '&' ∨ c = '~' ∨
      c = '-' ∧ (EndsClassEscape before ∨ startsClassEscape after = true))

theorem after_eq_inside_true_iff {before : List Char} :
    Spot.after before = .inside true ↔ EndsClassEscape before := by
  constructor
  · intro h
    rcases before.eq_nil_or_concat' with rfl | ⟨before, e, rfl⟩
    · cases h
    rw [Spot.after_append_singleton] at h
    obtain ⟨hescaped, hletter⟩ := Spot.eq_inside_true_of_step h
    rcases before.eq_nil_or_concat' with rfl | ⟨front, c, rfl⟩
    · cases hescaped
    rw [Spot.after_append_singleton] at hescaped
    obtain ⟨rfl, hclass⟩ := Spot.eq_escaped_true_of_step hescaped
    exact ⟨front, e, by simp, hclass, hletter⟩
  · rintro ⟨front, e, rfl, hclass, hletter⟩
    have hescaped := Spot.isEscaped_of_inClass hclass
    rw [Spot.after_append, List.foldl_cons, List.foldl_cons, List.foldl_nil,
      Spot.step_backslash hescaped, hclass, Spot.step, hletter]

theorem guarded_iff {before after : List Char} {c : Char} :
    Guarded before c after ↔ (Spot.after before).guards c after = true := by
  rw [Spot.guards_iff, Guarded, Bool.or_eq_true, beq_iff_eq, after_eq_inside_true_iff]

instance (before : List Char) (c : Char) (after : List Char) : Decidable (Guarded before c after) :=
  decidable_of_iff _ guarded_iff.symm

theorem not_guarded_backslash (before after : List Char) : ¬ Guarded before '\\' after := by
  rw [guarded_iff]
  exact fun h => (Spot.ne_backslash_of_guards h).1 rfl

theorem not_guarded_escaped {before : List Char} (hk : (Spot.after before).isEscaped = false)
    (e : Char) (after : List Char) : ¬ Guarded (before ++ ['\\']) e after := by
  rintro ⟨hclass, -⟩
  rw [Spot.after_append_singleton, Spot.step_backslash hk] at hclass
  cases hclass

/-- A text that stands behind another one, with a backslash put in front of each of its characters
that is guarded there and nothing else changed. -/
def guardFrom (before : List Char) : List Char → List Char
  | [] => []
  | c :: after =>
    (if Guarded before c after then ['\\', c] else [c]) ++ guardFrom (before ++ [c]) after

theorem normalizeAt_eq_guardFrom {before : List Char}
    (hk : (Spot.after before).isEscaped = false) (cs : List Char) :
    (Spot.after before).normalizeAt cs = guardFrom before cs := by
  induction cs using escapes_induction generalizing before with
  | nil => rfl
  | trailing =>
    rw [Spot.normalizeAt_trailing, guardFrom, if_neg (not_guarded_backslash before [])]
    rfl
  | escape e rest ih =>
    have hafter : (Spot.after (before ++ ['\\'] ++ [e])).isEscaped = false := by
      rw [Spot.after_append_singleton, Spot.after_append_singleton]
      exact Spot.isEscaped_step_escape hk e
    have hrest := ih hafter
    rw [Spot.after_append_singleton, Spot.after_append_singleton] at hrest
    rw [Spot.normalizeAt_escape hk, hrest, guardFrom, if_neg (not_guarded_backslash before _),
      guardFrom, if_neg (not_guarded_escaped hk e rest)]
    rfl
  | char c rest hc ih =>
    have hafter : (Spot.after (before ++ [c])).isEscaped = false := by
      rw [Spot.after_append_singleton]
      exact Spot.isEscaped_step hk hc
    have hrest := ih hafter
    rw [Spot.after_append_singleton] at hrest
    rw [Spot.normalizeAt_cons hk hc, hrest, guardFrom]
    exact congrArg (· ++ _) (if_congr guarded_iff.symm rfl rfl)

/-- **Normalizing puts a backslash in front of the characters that need one, and does nothing else.**
Guarded are unescaped brackets, ampersands and tildes inside classes, and dashes there beside a class
escape; all that stands outside of classes, every escape and a trailing backslash stay as they are.
What is normalized stays as it is when it is normalized again. -/
theorem normalizes_conservatively (p : String) :
    (normalize p).toList = guardFrom [] p.toList ∧ normalize (normalize p) = normalize p := by
  have hnormal : (normalize p).toList = Spot.outside.normalizeAt p.toList := String.toList_ofList
  have houtside : (Spot.after []).isEscaped = false := rfl
  constructor
  · rw [hnormal]
    exact normalizeAt_eq_guardFrom houtside p.toList
  · have htwice := Spot.normalizeAt_normalizeAt houtside p.toList
    have hstart : Spot.after [] = .outside := rfl
    rw [hstart, ← hnormal] at htwice
    exact String.toList_injective (String.toList_ofList.trans htwice)

example : normalize "[^\\s-&\\-]-&" = "[^\\s\\-\\&\\-]-&" := by decide +kernel

end Dialogue.Pattern
