import Dialogue.Proofs.Turn.Errand
import Dialogue.Proofs.Turn.Verdict
/-!
# What a rejected answer leads to

A turn that ends with a rejected answer is not cut short: what comes after the answer is carried out as
if it had been taken. Inputs and links themselves do nothing but judge, so that all that happens then
is the call and the request of the step, and nothing at all when it has neither. When the step is
evaluated again until an answer is taken, it calls and sends once each time.

## Main definitions

- `Act.Indifferent` — a directive that does not look at whether the answer was taken
- `Round`, `Rounds` — a step that is evaluated again as long as the answer is rejected

## Main statements

- `Turn.Plays.exists_reader` — the directive that reads an answer which is rejected
- `Turn.Plays.indifferent` — the directives after it
- `Rounds.countP_errands` — how often a step calls and sends in all
- `Turn.rejected_answers`
-/

namespace Dialogue

variable {σ : Type} {host : Host σ}

/-! ### One directive -/

/-- The directive has just read an answer of the user and left the scene alone. -/
structure Act.ReadsIdly (host : Host σ) (act : Act σ) : Prop where
  answers : ∃ text, act.answers = [.ok text]
  reads : act.Reads host
  left : act.left host = act.scene

namespace Directive

variable {directive : Directive} {turn : Turn} {scene : Scene σ}

/-- Links leave the scene alone. -/
theorem scene_links (host : Host σ) (turn : Turn) (scene : Scene σ) :
    (run host .links turn scene).2.2 = scene := by
  rw [run]
  split
  · rfl
  · refine withInput_cases (fun answer _ => ?_) rfl rfl
    split
    · exact scene_goTo _ _ _
    · rfl

/-- A delay leaves the scene alone. -/
theorem scene_delay (host : Host σ) (turn : Turn) (scene : Scene σ) :
    (run host .delay turn scene).2.2 = scene := by
  rw [run]
  split
  · unfold runDelay
    split
    · rfl
    · split <;> rfl
  · rfl

/-- A directive that the step has nothing for leaves the scene alone. -/
theorem scene_of_lacks (h : turn.step.lacks directive) :
    (directive.run host turn scene).2.2 = scene := by
  cases directive with
  | switch => cases h
  | clear => rw [run, if_neg h]; rfl
  | links => exact scene_links host turn scene
  | delay => exact scene_delay host turn scene
  | message | next | input | execute | request =>
    simp only [Step.lacks] at h
    rw [run, h]
    rfl

/-- **The call and the request of a step** do not look at whether the answer was taken. -/
theorem scene_run_accept (h : directive = .execute ∨ directive = .request) :
    (directive.run host turn.accept scene).2.2 = (directive.run host turn scene).2.2 := by
  rcases h with rfl | rfl
  · rw [run, run, show turn.accept.step = turn.step from rfl]
    split
    · unfold runCall
      split
      · rfl
      · dsimp only
        split <;> rfl
    · rfl
  · rw [run, run, show turn.accept.step = turn.step from rfl]
    split
    · unfold runFetch
      dsimp only
      split
      · rfl
      · split
        · rfl
        · split
          · rw [scene_goTo, scene_goTo]
            rfl
          · rfl
    · rfl

theorem errand?_accept (host : Host σ) (directive : Directive) (turn : Turn) (scene : Scene σ) :
    directive.errand? host turn.accept scene = directive.errand? host turn scene := by
  cases directive <;> rfl

/-- Only inputs and links read the answer. -/
theorem input_or_links_of_reads (hreads : Reads host directive turn scene) :
    directive = .input ∨ directive = .links := by
  by_cases hinput : directive = .input
  · exact .inl hinput
  · by_cases hlinks : directive = .links
    · exact .inr hlinks
    · exact absurd hreads (goesOn_run host turn.unanswered scene hinput hlinks).not_ask

/-- **A directive that reads the answer** takes it or leaves the scene alone. -/
theorem accepted_or_scene_eq (hreads : Reads host directive turn scene) :
    (directive.run host turn scene).2.1.inputStatus = .accepted ∨
      (directive.run host turn scene).2.2 = scene := by
  rcases input_or_links_of_reads hreads with rfl | rfl
  · have h := run_does host .input turn scene
    generalize run host .input turn scene = r at h ⊢
    cases h with
    | set hinput hpath hne hkind =>
      -- A fixed value is stored without the user.
      simp [Reads, run, Turn.unanswered, hinput, hpath, hne, runInput, hkind, proceed] at hreads
    | choice | text =>
      refine withInput_cases (fun answer _ => ?_) (.inr rfl) (.inr rfl)
      split
      · exact .inl rfl
      · exact .inr rfl
    | nothing | unnamed | unlisted | unreadable => exact .inr rfl
  · exact .inr (scene_links host turn scene)

/-- Without an answer there is no verdict. -/
theorem Does.inputStatus_eq {r : Result σ} (h : Does host turn scene directive r)
    (hreply : ∀ text, turn.reply ≠ .text text) : r.2.1.inputStatus = turn.inputStatus := by
  cases h with
  | next | diverted => exact (sameVerdict_goTo _).inputStatus
  | choice | text | links =>
    exact withInput_cases (fun answer hanswer => absurd hanswer (hreply answer)) rfl rfl
  | _ => rfl

/-- An answer that is taken stays taken. -/
theorem Does.accepted {r : Result σ} (h : Does host turn scene directive r)
    (haccepted : turn.inputStatus = .accepted) : r.2.1.inputStatus = .accepted := by
  cases h with
  | next | diverted => exact (sameVerdict_goTo _).inputStatus.trans haccepted
  | choice | text =>
    refine withInput_cases (fun answer _ => ?_) haccepted haccepted
    split
    · rfl
    · exact if_pos haccepted
  | links =>
    refine withInput_cases (fun answer _ => ?_) haccepted haccepted
    split
    · exact (sameVerdict_goTo _).inputStatus.trans haccepted
    · exact if_pos haccepted
  | _ => exact haccepted

namespace Carries

variable {final turn' : Turn} {scene' : Scene σ} {answers : List (Except Interruption String)}
  {signal : Signal}

theorem accepted (h : Carries host directive turn scene answers final (signal, turn', scene'))
    (haccepted : turn.inputStatus = .accepted) : turn'.inputStatus = .accepted := by
  have hbefore : final.inputStatus = turn.inputStatus :=
    (congrArg Turn.inputStatus h.unanswered_eq : _)
  have hafter := (directive.run_does host final scene).accepted (hbefore.trans haccepted)
  rwa [h.run_eq] at hafter

theorem location_eq (h : Carries host directive turn scene answers final (signal, turn', scene')) :
    turn'.location = turn.location := by
  have hbefore : final.location = turn.location := (congrArg Turn.location h.unanswered_eq : _)
  have hkeeps := (directive.run_keeps host final scene).location
  rw [h.run_eq] at hkeeps
  exact hkeeps.trans hbefore

/-- **A directive that does not take the answer**: there is none and no verdict, or it has just read
the answer and leaves the scene alone. -/
theorem pending_or_readsIdly
    (h : Carries host directive turn scene answers final (signal, turn', scene'))
    (hreply : turn.reply = .pending) (hstatus : turn'.inputStatus ≠ .accepted)
    (cut : Option Interruption) :
    (turn'.inputStatus = turn.inputStatus ∧ (signal ≠ .halt → turn'.reply = .pending)) ∨
      Act.ReadsIdly host ⟨directive, final, scene, answers, cut⟩ := by
  rcases h.unsettled hreply with ⟨-, rfl, hrun, -⟩ | ⟨answer, rfl, hfinal, hrun, hreads⟩
  · have hnone : ∀ text, final.reply ≠ .text text := fun text htext => by cases hreply.symm.trans htext
    have hsame := (directive.run_does host final scene).inputStatus_eq hnone
    rw [hrun] at hsame
    exact .inl ⟨hsame, fun _ => h.reply_eq.trans hreply⟩
  · cases answer with
    | error reason =>
      obtain ⟨hhalt, -⟩ := h.eq_halt (List.mem_singleton_self _)
      cases hhalt
      exact .inl ⟨(congrArg Turn.inputStatus hfinal :), fun hgoes => absurd rfl hgoes⟩
    | ok text =>
      have hjudged := accepted_or_scene_eq hreads
      rw [hrun] at hjudged
      exact .inr ⟨⟨text, rfl⟩, hreads, (h.left_eq cut).trans (hjudged.resolve_left hstatus)⟩

/-- A directive that rejects the answer has just read it. -/
theorem readsIdly_of_rejected
    (h : Carries host directive turn scene answers final (signal, turn', scene'))
    (hreply : turn.reply = .pending) (hstatus : turn.inputStatus ≠ .rejected)
    (hrejected : turn'.inputStatus = .rejected) (cut : Option Interruption) :
    Act.ReadsIdly host ⟨directive, final, scene, answers, cut⟩ := by
  have hopen : turn'.inputStatus ≠ .accepted := by
    rw [hrejected]
    exact (by cases ·)
  rcases h.pending_or_readsIdly hreply hopen cut with ⟨hsame, -⟩ | hreader
  · exact absurd (hsame.symm.trans hrejected) hstatus
  · exact hreader

end Carries

end Directive

/-! ### A row of directives -/

namespace Turn.Plays

open Directive Act

variable {directives : List Directive} {turn : Turn} {scene : Scene σ} {acts : List (Act σ)}
  {ending : Option Fault × Turn × Scene σ}

theorem accepted (h : Plays host directives turn scene acts ending)
    (haccepted : turn.inputStatus = .accepted) : ending.2.1.inputStatus = .accepted := by
  induction h with
  | done => exact haccepted
  | next h hsignal hrest ih => exact ih (h.accepted haccepted)
  | halt h => exact h.accepted haccepted
  | fail h => exact h.accepted haccepted
  | cut h reason => exact h.accepted haccepted

/-- No directive moves its turn. -/
theorem location_eq (h : Plays host directives turn scene acts ending) :
    ending.2.1.location = turn.location := by
  induction h with
  | done => rfl
  | next h hsignal hrest ih => exact ih.trans h.location_eq
  | halt h => exact h.location_eq
  | fail h => exact h.location_eq
  | cut h reason => exact h.location_eq

/-- **An answer that is rejected in the end** was read by one of the directives, which has left the
scene alone. -/
theorem exists_reader (h : Plays host directives turn scene acts ending)
    (hreply : turn.reply = .pending) (hstatus : turn.inputStatus ≠ .rejected)
    (hrejected : ending.2.1.inputStatus = .rejected) :
    ∃ before reader after, acts = before ++ reader :: after ∧ reader.ReadsIdly host := by
  induction h with
  | done => exact absurd hrejected hstatus
  | @next directive rest turn final turn' scene scene' answers acts ending signal h hsignal hrest ih =>
    have hopen : turn'.inputStatus ≠ .accepted := by
      intro haccepted
      cases hrejected.symm.trans (hrest.accepted haccepted)
    rcases h.pending_or_readsIdly hreply hopen none with ⟨hsame, hpending⟩ | hreader
    · have hgoes : signal ≠ .halt := by
        rintro rfl
        cases hsignal
      obtain ⟨before, reader, after, rfl, hreader⟩ :=
        ih (hpending hgoes) (by rwa [hsame]) hrejected
      exact ⟨_ :: before, reader, after, rfl, hreader⟩
    · exact ⟨[], _, acts, rfl, hreader⟩
  | halt h => exact ⟨[], _, [], rfl, h.readsIdly_of_rejected hreply hstatus hrejected none⟩
  | fail h => exact ⟨[], _, [], rfl, h.readsIdly_of_rejected hreply hstatus hrejected none⟩
  | cut h reason =>
    exact ⟨[], _, [], rfl, h.readsIdly_of_rejected hreply hstatus hrejected (some reason)⟩

/-- The end of a play is a play of the end of the row. -/
theorem split (h : Plays host directives turn scene acts ending) {before after : List (Act σ)}
    {act : Act σ} (hacts : acts = before ++ act :: after) :
    ∃ directives' turn', Plays host directives' turn' act.scene (act :: after) ending := by
  induction before generalizing directives turn scene acts with
  | nil =>
    subst hacts
    have hscene : act.scene = scene := by cases h <;> rfl
    exact ⟨directives, turn, hscene ▸ h⟩
  | cons first before ih =>
    cases directives with
    | nil =>
      cases h
      cases hacts
    | cons directive rest =>
      obtain ⟨answers, final, cut, tail, signal, turn', scene', htail, -, hrest⟩ := h.uncons
      obtain ⟨-, hlater⟩ := List.cons.inj (hacts.symm.trans htail)
      rcases hrest with ⟨-, -, hplays⟩ | ⟨-, rfl⟩
      · exact ih hplays hlater.symm
      · exact absurd hlater (List.append_ne_nil_of_right_ne_nil _ (List.cons_ne_nil _ _))

/-- Directives that leave the scene alone, one like the other, leave it alone together. -/
theorem scene_eq (h : Plays host directives turn scene acts ending)
    (hleft : ∀ act ∈ acts, act.left host = act.scene) : ending.2.2 = scene := by
  induction h with
  | done => rfl
  | next h hsignal hrest ih =>
    obtain ⟨hfirst, hlater⟩ := List.forall_mem_cons.1 hleft
    exact (ih hlater).trans ((h.left_eq none).symm.trans hfirst)
  | halt h => exact (h.left_eq none).symm.trans (hleft _ (List.mem_singleton_self _))
  | fail h => exact (h.left_eq none).symm.trans (hleft _ (List.mem_singleton_self _))
  | cut h reason => exact (h.left_eq (some reason)).symm.trans (hleft _ (List.mem_singleton_self _))

end Turn.Plays

/-! ### The usual order -/

/-- A directive that does not look at whether the answer was taken: one that does nothing with the host
and the scene, or the call or the request of the step. -/
inductive Act.Indifferent (host : Host σ) (step : Step) (act : Act σ) : Prop where
  | idle (herrand : act.errand? host = none) (hleft : act.left host = act.scene)
  | same (hdirective : act.directive = .execute ∨ act.directive = .request)
      (hstep : act.turn.step = step)
      (herrand : Act.errand? host { act with turn := act.turn.accept } = act.errand? host)
      (hleft : Act.left host { act with turn := act.turn.accept } = act.left host)

namespace Turn.Plays

open Directive Act

variable {step : Step} {location : Location} {nextLink : Option Location} {scene : Scene σ}
  {acts before after : List (Act σ)} {reader : Act σ} {ending : Option Fault × Turn × Scene σ}

/-- What comes before the answer is read, and the reading itself, has no errands. -/
theorem errands_before_reader
    (h : Plays host standard (ofStep step location nextLink) scene acts ending)
    (hacts : acts = before ++ reader :: after) (hreads : reader.Reads host) :
    errands host (before ++ [reader]) = [] := by
  have hidle : ∀ {directive : Directive}, directive = .input ∨ directive = .links →
      ∀ {act : Act σ}, act.directive.Before directive ∨ act.directive = directive →
      act.errand? host = none := by
    intro directive hdirective act hact
    refine errand?_eq_none ?_ ?_ <;> intro hact' <;> rw [hact'] at hact
    all_goals rcases hdirective with rfl | rfl <;> exact absurd hact (by decide)
  have horder := h.pairwise_before
  rw [hacts, List.pairwise_append] at horder
  refine List.filterMap_eq_nil_iff.2 fun act hact => hidle (input_or_links_of_reads hreads) ?_
  rcases List.mem_append.1 hact with hact | hact
  · exact .inl (horder.2.2 act hact reader List.mem_cons_self)
  · exact .inr (congrArg Act.directive (List.mem_singleton.1 hact))

/-- **What comes after the answer is read** does not look at whether it was taken. -/
theorem indifferent
    (h : Plays host standard (ofStep step location nextLink) scene acts ending)
    (hacts : acts = before ++ reader :: after) (hreads : reader.Reads host) :
    ∀ later ∈ after, later.Indifferent host (Directive.branched scene.store step) := by
  intro later hlater
  have horder := h.pairwise_before
  rw [hacts, List.pairwise_append, List.pairwise_cons] at horder
  have hbefore : reader.directive.Before later.directive := horder.2.1.1 later hlater
  have hreader := input_or_links_of_reads hreads
  have hmem : later ∈ acts := hacts ▸ List.mem_append_right _ (List.mem_cons_of_mem _ hlater)
  have hsame : later.directive = .execute ∨ later.directive = .request →
      later.Indifferent host (Directive.branched scene.store step) := by
    intro hdirective
    have hswitch : later.directive ≠ .switch := by
      rcases hdirective with hdirective | hdirective <;> rw [hdirective] <;> decide
    exact .same hdirective (h.step_of_standard hmem hswitch) (errand?_accept host _ _ _)
      (scene_run_accept hdirective)
  cases hdirective : later.directive with
  | execute => exact hsame (.inl hdirective)
  | request => exact hsame (.inr hdirective)
  | links =>
    refine .idle ?_ ?_
    · rw [Act.errand?, hdirective]
      rfl
    · rw [Act.left, hdirective]
      exact scene_links host _ _
  | delay =>
    refine .idle ?_ ?_
    · rw [Act.errand?, hdirective]
      rfl
    · rw [Act.left, hdirective]
      exact scene_delay host _ _
  | switch | clear | message | next | input =>
    rw [hdirective] at hbefore
    rcases hreader with hreader | hreader <;> rw [hreader] at hbefore <;>
      exact absurd hbefore (by decide)

/-- **Without a call and a request** nothing happens after the answer is read. -/
theorem idle_of_rejected
    (h : Plays host standard (ofStep step location nextLink) scene acts ending)
    (hacts : acts = before ++ reader :: after) (hreader : reader.ReadsIdly host)
    (hexecute : (Directive.branched scene.store step).execute = none)
    (hrequest : (Directive.branched scene.store step).request = none) :
    errands host acts = [] ∧ ending.2.2 = reader.scene := by
  have hlater : ∀ later ∈ after, later.errand? host = none ∧ later.left host = later.scene := by
    intro later hlater
    rcases h.indifferent hacts hreader.reads later hlater with
      ⟨herrand, hleft⟩ | ⟨hdirective, hstep, -, -⟩
    · exact ⟨herrand, hleft⟩
    · have hlacks : later.turn.step.lacks later.directive := by
        rw [hstep]
        rcases hdirective with hdirective | hdirective <;> rw [hdirective]
        · exact hexecute
        · exact hrequest
      exact ⟨errand?_of_lacks hlacks, scene_of_lacks hlacks⟩
  obtain ⟨directives', turn', hplays⟩ := h.split hacts
  refine ⟨?_, hplays.scene_eq (List.forall_mem_cons.2 ⟨hreader.left, fun act hact => ?_⟩)⟩
  · have hsplit : acts = (before ++ [reader]) ++ after := by rw [hacts]; simp
    rw [hsplit, errands, List.filterMap_append, ← errands,
      h.errands_before_reader hacts hreader.reads, List.nil_append, List.filterMap_eq_nil_iff]
    exact fun act hact => (hlater act hact).1
  · exact (hlater act hact).2

end Turn.Plays

/-! ### Asking again -/

/-- One evaluation of a step: the scene that it finds, what is carried out, and how it ends. -/
structure Round (σ : Type) where
  found : Scene σ
  acts : List (Act σ)
  ending : Option Fault × Turn × Scene σ

/-- A round of the step is neither interrupted nor fails. -/
structure Round.IsWhole (host : Host σ) (step : Step) (location : Location)
    (nextLink : Option Location) (round : Round σ) : Prop where
  plays : Turn.Plays host Directive.standard (.ofStep step location nextLink) round.found round.acts
    round.ending
  fault : round.ending.1 = none
  free : round.ending.2.1.interrupted = none

/-- A step is evaluated again as long as the answer is rejected, each time with the store and the world
that the time before has left. -/
inductive Rounds (host : Host σ) (step : Step) (location : Location) (nextLink : Option Location) :
    List (Round σ) → Prop where
  | last {round : Round σ} (h : round.IsWhole host step location nextLink) :
      Rounds host step location nextLink [round]
  | again {round next : Round σ} {later : List (Round σ)}
      (h : round.IsWhole host step location nextLink)
      (hrejected : round.ending.2.1.inputStatus = .rejected)
      (hstore : next.found.store = round.ending.2.2.store)
      (hworld : next.found.world = round.ending.2.2.world)
      (hlater : Rounds host step location nextLink (next :: later)) :
      Rounds host step location nextLink (round :: next :: later)

namespace Rounds

variable {step : Step} {location : Location} {nextLink : Option Location} {rounds : List (Round σ)}

/-- What all rounds have the host do, in order. -/
def errands (host : Host σ) (rounds : List (Round σ)) : List Errand :=
  rounds.flatMap fun round => Act.errands host round.acts

/-- **A step calls and sends once in each round**, if it calls or sends at all with its branch taken. -/
theorem countP_errands (h : Rounds host step location nextLink rounds) :
    (errands host rounds).countP Errand.isCall =
        rounds.countP (fun round =>
          (Directive.branched round.found.store step).callsOut host) ∧
      (errands host rounds).countP Errand.isSend =
        rounds.countP (fun round => (Directive.branched round.found.store step).sendsOut) := by
  have hone : ∀ b : Bool, b.toNat = if b then 1 else 0 := by decide
  induction h with
  | last h =>
    obtain ⟨hcalls, hsends⟩ := h.plays.countP_errands h.fault h.free
    rw [errands, List.flatMap_singleton, hcalls, hsends, List.countP_singleton,
      List.countP_singleton, hone, hone]
    exact ⟨rfl, rfl⟩
  | @again round next later h hrejected hstore hworld hlater ih =>
    obtain ⟨hcalls, hsends⟩ := h.plays.countP_errands h.fault h.free
    have hcount : ∀ P : Round σ → Bool, (round :: next :: later).countP P =
        (P round).toNat + (next :: later).countP P := by
      intro P
      rw [List.countP_cons, hone, Nat.add_comm]
    rw [errands, List.flatMap_cons, ← errands, List.countP_append, List.countP_append, ih.1, ih.2,
      hcalls, hsends, hcount, hcount]
    exact ⟨rfl, rfl⟩

/-- The world after all rounds is what their errands have made of it. -/
theorem world_eq (h : Rounds host step location nextLink rounds) :
    ∀ first ∈ rounds.head?, ∀ last ∈ rounds.getLast?, last.ending.2.2.world =
      (errands host rounds).foldl (Errand.perform host) first.found.world := by
  induction h with
  | last h =>
    intro first hfirst last hlast
    obtain rfl := Option.some.inj hfirst
    obtain rfl := Option.some.inj hlast
    rw [errands, List.flatMap_singleton]
    exact h.plays.world_eq
  | again h hrejected hstore hworld hlater ih =>
    intro first hfirst last hlast
    obtain rfl := Option.some.inj hfirst
    rw [List.getLast?_cons_cons] at hlast
    rw [errands, List.flatMap_cons, ← errands, List.foldl_append, ← h.plays.world_eq, ← hworld]
    exact ih _ rfl last hlast

end Rounds

namespace Turn

open Directive Act

/-- **A rejected answer stops nothing.** When a turn with the directives in their usual order ends with
a rejected answer, it is to be evaluated again unless it failed; the directive that read the answer
and those before it had the host do nothing, and it left the scene alone itself. Of what came after it
only the call and the request of the step, with its branch taken, had the host do anything or changed
the scene, at most one call and then at most one request, and both did what they do when the answer is
taken. A step without both has done nothing since the answer was read. Evaluated again until an answer
is taken, the step calls and sends once in each of the rounds, rejected or not, and the world in the
end is what all of that has made of it. -/
theorem rejected_answers (host : Host σ) (step : Step) (location : Location)
    (nextLink : Option Location) :
    (∀ scene acts ending, Plays host standard (ofStep step location nextLink) scene acts ending →
      ending.2.1.inputStatus = .rejected →
      (ending.1 = none → ending.2.1.destination false = some location) ∧
      ending.2.2.world = (errands host acts).foldl (Errand.perform host) scene.world ∧
      errands host acts =
        (errandOf host acts .execute).toList ++ (errandOf host acts .request).toList ∧
      ∃ before reader after, acts = before ++ reader :: after ∧ reader.ReadsIdly host ∧
        errands host (before ++ [reader]) = [] ∧
        (∀ later ∈ after, later.Indifferent host (Directive.branched scene.store step)) ∧
        ((Directive.branched scene.store step).execute = none →
          (Directive.branched scene.store step).request = none →
          errands host acts = [] ∧ ending.2.2 = reader.scene)) ∧
    ∀ rounds, Rounds host step location nextLink rounds →
      (Rounds.errands host rounds).countP Errand.isCall =
        rounds.countP (fun round =>
          (Directive.branched round.found.store step).callsOut host) ∧
      (Rounds.errands host rounds).countP Errand.isSend =
        rounds.countP (fun round => (Directive.branched round.found.store step).sendsOut) ∧
      ∀ first ∈ rounds.head?, ∀ last ∈ rounds.getLast?, last.ending.2.2.world =
        (Rounds.errands host rounds).foldl (Errand.perform host) first.found.world := by
  refine ⟨fun scene acts ending h hrejected => ?_, fun rounds h => ?_⟩
  · obtain ⟨before, reader, after, hacts, hreader⟩ :=
      h.exists_reader rfl (by cases ·) hrejected
    refine ⟨fun hfault => ?_, h.world_eq, errands_eq h.pairwise_before, before, reader, after, hacts,
      hreader, h.errands_before_reader hacts hreader.reads, h.indifferent hacts hreader.reads,
      h.idle_of_rejected hacts hreader⟩
    have hisRejected : ending.2.1.isRejected false = true := by
      rw [isRejected, hrejected]
      rfl
    rw [destination, if_pos hisRejected, h.location_eq]
    rfl
  · exact ⟨h.countP_errands.1, h.countP_errands.2, h.world_eq⟩

/-- A host that counts the calls of one function. -/
def countingHost : Host Nat where
  functions := [("count", fun _ calls => (.ok (some (.whole (calls + 1))), calls + 1))]
  send _ calls := (.error "offline", calls)

/-- A vote that counts how often it is tried. -/
def poll : Step where
  input := some {
    kind := .choice, variablePath := some "vote", choices := some [("yes", .bool true)] }
  execute := some { function := "count", output := some "tries" }

/-- A turn of the vote. -/
def pollRound (answer : String) (found : Scene Nat) : Outcome Nat :=
  playOut countingHost standard (ofStep poll (.start "/poll") none) found
    { answers := [some answer] }

/-- Nobody has voted yet. -/
def unpolled : Scene Nat := { store := .empty, world := 0 }

/-- The scene after an answer that is no choice. -/
def polledOnce : Scene Nat := (pollRound "no" unpolled).scene

/-- A vote that is repeated for one rejected answer has called its function twice. -/
theorem rejected_answers_poll :
    (pollRound "no" unpolled).turn.inputStatus = .rejected ∧
      (pollRound "yes" polledOnce).turn.inputStatus = .accepted ∧
      ∃ rounds, Rounds countingHost poll (.start "/poll") none rounds ∧ rounds.length = 2 ∧
        (Rounds.errands countingHost rounds).countP Errand.isCall = 2 := by
  have hrejected : (pollRound "no" unpolled).ending.2.1.inputStatus = .rejected := by decide +kernel
  obtain ⟨acts, hno, -⟩ := playOut_plays countingHost standard (ofStep poll (.start "/poll") none)
    unpolled { answers := [some "no"] }
  obtain ⟨acts', hyes, -⟩ := playOut_plays countingHost standard (ofStep poll (.start "/poll") none)
    polledOnce { answers := [some "yes"] }
  have hwhole : (pollRound "no" unpolled).ending.1 = none ∧
      (pollRound "no" unpolled).ending.2.1.interrupted = none := by decide +kernel
  have hwhole' : (pollRound "yes" polledOnce).ending.1 = none ∧
      (pollRound "yes" polledOnce).ending.2.1.interrupted = none := by decide +kernel
  have hrounds : Rounds countingHost poll (.start "/poll") none
      [⟨unpolled, acts, (pollRound "no" unpolled).ending⟩,
        ⟨polledOnce, acts', (pollRound "yes" polledOnce).ending⟩] :=
    .again ⟨hno, hwhole.1, hwhole.2⟩ hrejected rfl rfl (.last ⟨hyes, hwhole'.1, hwhole'.2⟩)
  obtain ⟨-, hcount⟩ := rejected_answers countingHost poll (.start "/poll") none
  exact ⟨hrejected, by decide +kernel, _, hrounds, rfl, (hcount _ hrounds).1⟩

/-- **A rejected answer does have effects**: a turn that ends with one may have called a function and
stored what that gave after the answer was read. -/
theorem not_idle_of_rejected :
    ¬ ∀ (host : Host Nat) (step : Step) (location : Location) (nextLink : Option Location)
      (scene : Scene Nat) (acts : List (Act Nat)) (ending : Option Fault × Turn × Scene Nat),
      Plays host standard (ofStep step location nextLink) scene acts ending →
      ending.2.1.inputStatus = .rejected →
      errands host acts = [] ∧ ∀ before reader after text, acts = before ++ reader :: after →
        reader.answers = [.ok text] → ending.2.2.store = reader.scene.store := by
  intro hidle
  obtain ⟨acts, hno, -⟩ := playOut_plays countingHost standard (ofStep poll (.start "/poll") none)
    unpolled { answers := [some "no"] }
  have hrejected : (pollRound "no" unpolled).ending.2.1.inputStatus = .rejected := by decide +kernel
  obtain ⟨hnone, -⟩ := hidle countingHost poll (.start "/poll") none unpolled acts _ hno hrejected
  -- The function has been called.
  have hworld := hno.world_eq
  rw [hnone] at hworld
  exact absurd hworld (by decide +kernel)

end Turn

end Dialogue
