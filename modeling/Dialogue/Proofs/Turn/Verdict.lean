import Dialogue.Proofs.Turn.Standard
/-!
# Which answers are stored

An input that waits admits a text that matches its pattern, or one of its choices, and stores what the
answer stands for. Any other answer is rejected with a message and stores nothing. Links may reject the
same answer again, which changes the message; an answer that is taken stays taken.

## Main definitions

- `Input.Admits` — the answers that an input admits, each with the value to store
- `Input.rejection`, `Step.linksReject` — the message for other answers, and whether links reject one

## Main statements

- `Directive.run_input_of_text`, `Directive.run_links_of_text` — the two directives that judge answers
- `Directive.Does.sameVerdict`, `Turn.Plays.sameVerdict` — no other directive does
- `Turn.stores_admitted_answers`
-/

namespace Dialogue

variable {σ : Type} {host : Host σ}

namespace Input

/-- A text is a valid answer to an input that waits, and the value is what it stands for: the text
itself if it matches the pattern, or the value of the choice with that name. -/
inductive Admits (input : Input) (store : Store) (text : String) : Json → Prop where
  | typed (hkind : input.kind = .text)
      (hmatch : ∀ pattern ∈ input.pattern, ∃ regex, Pattern.compile pattern = .ok regex ∧
        regex.search text) :
      Admits input store text (.text text)
  | chosen {choices : Keyed Json} {value : Json} (hkind : input.kind = .choice)
      (hchoices : input.choices = some choices) (hvalue : Keyed.get? text choices = some value) :
      Admits input store text (if input.expandValue then store.expandValue value else value)

/-- An answer stands for one value. -/
theorem Admits.unique {input : Input} {store : Store} {text : String} {value value' : Json}
    (h : input.Admits store text value) (h' : input.Admits store text value') : value = value' := by
  cases h with
  | typed hkind =>
    cases h' with
    | typed => rfl
    | chosen hkind' => cases hkind.symm.trans hkind'
  | chosen hkind hchoices hvalue =>
    cases h' with
    | typed hkind' => cases hkind.symm.trans hkind'
    | chosen _ hchoices' hvalue' =>
      cases hchoices.symm.trans hchoices'
      cases hvalue.symm.trans hvalue'
      rfl

/-- What is said about an answer that is not admitted. -/
def rejection (input : Input) : String :=
  input.rejectMessage.getD
    (if input.kind = .choice then Directive.choiceRejection else Directive.patternRejection)

end Input

/-- Whether the step has links and none of this name. -/
def Step.linksReject (step : Step) (text : String) : Bool :=
  step.links.any fun targets => (Keyed.get? text targets).isNone

/-- The verdict on the answer is the same. -/
structure Turn.SameVerdict (turn after : Turn) : Prop where
  inputStatus : after.inputStatus = turn.inputStatus
  rejection : after.rejection = turn.rejection

theorem Turn.SameVerdict.trans {turn turn' turn'' : Turn} (h : turn.SameVerdict turn')
    (h' : turn'.SameVerdict turn'') : turn.SameVerdict turn'' :=
  ⟨h'.inputStatus.trans h.inputStatus, h'.rejection.trans h.rejection⟩

/-! ### One directive -/

namespace Directive

variable {directive : Directive} {turn : Turn} {scene : Scene σ} {text : String}

theorem withInput_of_text (h : turn.input = some text) (use : String → Result σ) :
    withInput turn scene use = use text := by
  rw [withInput, Turn.reply, h]

/-- An input that is judged: its answer is admitted and stored, or rejected and nothing is stored. -/
inductive Judges (input : Input) (path : String) (text : String) (turn : Turn) (scene : Scene σ) :
    Result σ → Prop where
  | takes {value : Json} (hadmits : input.Admits scene.store text value) :
      Judges input path text turn scene (proceed turn.accept (scene.set path value))
  | rejects (hadmits : ∀ value, ¬ input.Admits scene.store text value) :
      Judges input path text turn scene (proceed (turn.reject input.rejection) scene)

/-- A choice, once there is an answer. -/
theorem judges_choice {input : Input} (hkind : input.kind = .choice) (hready : input.isReady)
    (htext : turn.input = some text) (path : String) :
    Judges input path text turn scene (runInput input path turn scene) := by
  rw [Input.isReady, Bool.and_eq_true, hkind] at hready
  obtain ⟨choices, hchoices⟩ := Option.isSome_iff_exists.1 hready.2
  simp only [runInput, hkind, hchoices, withInput_of_text htext]
  split
  · next value hvalue => exact .takes (.chosen hkind hchoices hvalue)
  · next hnone =>
    have hrejection : input.rejectMessage.getD choiceRejection = input.rejection := by
      rw [Input.rejection, if_pos hkind]
    rw [hrejection]
    refine .rejects fun value hadmits => ?_
    cases hadmits with
    | typed hkind' => cases hkind.symm.trans hkind'
    | chosen _ hchoices' hvalue =>
      cases hchoices.symm.trans hchoices'
      cases hnone.symm.trans hvalue

/-- A text, once there is an answer. -/
theorem judges_text {input : Input} (hkind : input.kind = .text) (hready : input.isReady)
    (htext : turn.input = some text) (path : String) :
    Judges input path text turn scene (runInput input path turn scene) := by
  rw [Input.isReady, Bool.and_eq_true, hkind] at hready
  have hrejection : input.rejectMessage.getD patternRejection = input.rejection := by
    rw [Input.rejection, hkind]
    rfl
  cases hpattern : input.pattern with
  | none =>
    simp only [runInput, hkind, inputPattern, hpattern, withInput_of_text htext, Option.map_none,
      Option.getD_none, if_true]
    exact .takes (.typed hkind fun _ hsome => by cases hpattern.symm.trans hsome)
  | some pattern =>
    obtain ⟨-, hcompiles⟩ := hready
    rw [hpattern, Option.all_some] at hcompiles
    cases hcompile : Pattern.compile pattern with
    | error defect =>
      rw [hcompile] at hcompiles
      cases hcompiles
    | ok regex =>
      simp only [runInput, hkind, inputPattern, hpattern, hcompile, withInput_of_text htext,
        Option.map_some, Option.getD_some, hrejection]
      split
      · next hsearch =>
        refine .takes (.typed hkind fun pattern' hsome => ⟨regex, ?_, hsearch⟩)
        cases hpattern.symm.trans hsome
        exact hcompile
      · next hsearch =>
        refine .rejects fun value hadmits => ?_
        cases hadmits with
        | chosen hkind' => cases hkind.symm.trans hkind'
        | typed _ hmatch =>
          obtain ⟨regex', hcompile', hsearch'⟩ := hmatch pattern hpattern
          cases hcompile.symm.trans hcompile'
          exact hsearch hsearch'

/-- **An input that waits judges the answer**, once it is there. -/
theorem run_input_of_text (host : Host σ) {input : Input} {path : String}
    (hinput : turn.step.input = some input) (hpath : input.variablePath = some path)
    (hready : input.isReady) (hkind : input.kind ≠ .set) (htext : turn.input = some text) :
    Judges input path text turn scene (run host .input turn scene) := by
  have hne : path.isEmpty = false := by
    rw [Input.isReady, Bool.and_eq_true, hpath] at hready
    simpa using hready.1
  have hrun : run host .input turn scene = runInput input path turn scene := by
    simp only [run, hinput, hpath, hne, Bool.false_eq_true, if_false]
  rw [hrun]
  cases hcase : input.kind with
  | set => exact absurd hcase hkind
  | choice => exact judges_choice hcase hready htext path
  | text => exact judges_text hcase hready htext path

theorem sameVerdict_goTo (target : String) : turn.SameVerdict (goTo target turn scene).2.1 := by
  unfold goTo
  split <;> exact ⟨rfl, rfl⟩

/-- What links make of an answer: they reject one that names none of them. -/
def linked (text : String) (turn : Turn) : Turn :=
  if turn.step.linksReject text then turn.reject linkRejection else turn

/-- An answer that is taken stays taken, whatever links make of it. -/
theorem linked_accept (text : String) (turn : Turn) :
    (linked text turn.accept).inputStatus = .accepted ∧
      (linked text turn.accept).rejection =
        if turn.step.linksReject text then some linkRejection else turn.rejection := by
  rw [linked, show turn.accept.step = turn.step from rfl]
  split <;> exact ⟨rfl, rfl⟩

/-- An answer that is rejected stays so; links may have the last word. -/
theorem linked_reject (text : String) (h : turn.inputStatus ≠ .accepted) (message : String) :
    (linked text (turn.reject message)).inputStatus = .rejected ∧
      (linked text (turn.reject message)).rejection =
        some (if turn.step.linksReject text then linkRejection else message) := by
  have hrejected : ∀ turn : Turn, turn.inputStatus ≠ .accepted → ∀ message,
      (turn.reject message).inputStatus = .rejected := fun _ h _ => if_neg h
  rw [linked, show (turn.reject message).step = turn.step from rfl]
  split
  · exact ⟨hrejected _ (by rw [hrejected turn h]; exact (by cases ·)) _, rfl⟩
  · exact ⟨hrejected turn h message, rfl⟩

/-- **Links judge the answer**, once it is there. -/
theorem run_links_of_text (host : Host σ) (htext : turn.input = some text) :
    (linked text turn).SameVerdict (run host .links turn scene).2.1 := by
  rw [run, linked, Step.linksReject]
  cases hlinks : turn.step.links with
  | none => exact ⟨rfl, rfl⟩
  | some targets =>
    rw [Option.any_some]
    dsimp only
    rw [withInput_of_text htext]
    cases hget : Keyed.get? text targets with
    | none => exact ⟨rfl, rfl⟩
    | some target => exact sameVerdict_goTo _

/-- **Only inputs and links judge the answer.** -/
theorem Does.sameVerdict {r : Result σ} (h : Does host turn scene directive r)
    (hinput : directive ≠ .input) (hlinks : directive ≠ .links) : turn.SameVerdict r.2.1 := by
  cases h with
  | next | diverted => exact sameVerdict_goTo _
  | unnamed | set | unlisted | choice | unreadable | text => exact absurd rfl hinput
  | links => exact absurd rfl hlinks
  | _ => exact ⟨rfl, rfl⟩

/-- A directive that does not judge the answer leaves the verdict alone, however it is carried out. -/
theorem Carries.sameVerdict {answers : List (Except Interruption String)} {final turn' : Turn}
    {signal : Signal} {scene' : Scene σ}
    (h : Carries host directive turn scene answers final (signal, turn', scene'))
    (hinput : directive ≠ .input) (hlinks : directive ≠ .links) : turn.SameVerdict turn' := by
  have hbefore : turn.SameVerdict final :=
    ⟨(congrArg Turn.inputStatus h.unanswered_eq : _), (congrArg Turn.rejection h.unanswered_eq : _)⟩
  have hrun : final.SameVerdict (directive.run host final scene).2.1 :=
    (run_does host directive final scene).sameVerdict hinput hlinks
  rw [h.run_eq] at hrun
  exact hbefore.trans hrun

end Directive

/-! ### A row of directives -/

namespace Turn

open Directive

variable {directives rest : List Directive} {directive : Directive} {turn : Turn} {scene : Scene σ}
  {acts : List (Act σ)} {ending : Option Fault × Turn × Scene σ} {text : String}

/-- **Without inputs and links** a row of directives leaves the verdict alone. -/
theorem Plays.sameVerdict (h : Plays host directives turn scene acts ending)
    (hinput : .input ∉ directives) (hlinks : .links ∉ directives) :
    turn.SameVerdict ending.2.1 := by
  induction h with
  | done => exact ⟨rfl, rfl⟩
  | next h hsignal hrest ih =>
    have hfirst := h.sameVerdict (List.ne_of_not_mem_cons hinput).symm
      (List.ne_of_not_mem_cons hlinks).symm
    exact hfirst.trans
      (ih (List.not_mem_of_not_mem_cons hinput) (List.not_mem_of_not_mem_cons hlinks))
  | halt h =>
    exact h.sameVerdict (List.ne_of_not_mem_cons hinput).symm (List.ne_of_not_mem_cons hlinks).symm
  | fail h =>
    exact h.sameVerdict (List.ne_of_not_mem_cons hinput).symm (List.ne_of_not_mem_cons hlinks).symm
  | cut h reason =>
    have hfirst := h.sameVerdict (List.ne_of_not_mem_cons hinput).symm
      (List.ne_of_not_mem_cons hlinks).symm
    exact ⟨hfirst.inputStatus, hfirst.rejection⟩

/-- **Links judge the answer last.** -/
theorem Plays.sameVerdict_of_links (h : Plays host (.links :: rest) turn scene acts ending)
    (htext : turn.input = some text) (hinput : .input ∉ rest) (hlinks : .links ∉ rest) :
    (linked text turn).SameVerdict ending.2.1 := by
  have hreply : turn.reply ≠ .pending := by
    rw [reply, htext]
    exact (by cases ·)
  have hrun : (linked text turn).SameVerdict (Directive.run host .links turn scene).2.1 :=
    run_links_of_text host htext
  cases h with
  | next h hsignal hrest =>
    obtain ⟨-, rfl, hsame⟩ := h.settled hreply
    rw [hsame] at hrun
    exact hrun.trans (hrest.sameVerdict hinput hlinks)
  | halt h =>
    obtain ⟨-, rfl, hsame⟩ := h.settled hreply
    rwa [hsame] at hrun
  | fail h =>
    obtain ⟨-, rfl, hsame⟩ := h.settled hreply
    rwa [hsame] at hrun
  | cut h reason =>
    obtain ⟨-, rfl, hsame⟩ := h.settled hreply
    rw [hsame] at hrun
    exact ⟨hrun.inputStatus, hrun.rejection⟩

variable {step : Step} {location : Location} {nextLink : Option Location}

/-- The input directive, when it is carried out in the usual order: nothing was asked or judged
before, and links come next. -/
theorem Plays.input_of_standard
    (h : Plays host standard (ofStep step location nextLink) scene acts ending) {act : Act σ}
    (hact : act ∈ acts) (hdirective : act.directive = .input) :
    ∃ turn signal turn' scene' tail, turn.step = Directive.branched scene.store step ∧
      turn.reply = .pending ∧ turn.inputStatus = .none ∧ turn.rejection = none ∧
      Carries host .input turn act.scene act.answers act.turn (signal, turn', scene') ∧
      act.left host = scene' ∧ (signal = .proceed →
        Plays host [.links, .execute, .request, .delay] turn' scene' tail ending) := by
  obtain ⟨opening, acts', found, rfl, hopening, -, hplays⟩ := h.of_standard
  replace hact : act ∈ acts' := by
    rcases List.mem_append.1 hact with hact | hact
    · have hmem : act.directive ∈ opening.map (·.directive) := List.mem_map_of_mem hact
      rw [hopening, hdirective] at hmem
      exact absurd hmem (by decide)
    · exact hact
  -- The target of the step comes first.
  obtain ⟨_, final, _, tail, signal, turn, scene₁, rfl, hnext, hrest⟩ := hplays.uncons
  obtain ⟨-, rfl, hrun⟩ := hnext.eq_of_run (goesOn_run host _ found (by decide) (by decide)).not_ask
  have hverdict := hnext.sameVerdict (by decide) (by decide)
  have hkeeps := Directive.run_keeps host .next (branched step location nextLink scene.store) found
  have hstep := (Directive.run_effect host (branched step location nextLink scene.store) found
    (by decide : Directive.next ≠ .switch)).step
  rw [hrun] at hkeeps hstep
  rcases List.mem_cons.1 hact with rfl | hact
  · cases hdirective
  rcases hrest with ⟨-, -, hplays⟩ | ⟨-, rfl⟩
  · obtain ⟨answers, final, cut, tail', signal, turn', scene', rfl, hinput, hrest⟩ := hplays.uncons
    rcases List.mem_cons.1 hact with rfl | hlater
    · refine ⟨turn, signal, turn', scene', tail', hstep, ?_, hverdict.inputStatus,
        hverdict.rejection, hinput, hinput.left_eq cut, ?_⟩
      · exact reply_congr hkeeps.input hkeeps.interrupted
      · rintro rfl
        rcases hrest with ⟨-, -, hplays⟩ | ⟨hstops, -⟩
        · exact hplays
        · exact absurd rfl hstops
    · -- It does not come again.
      rcases hrest with ⟨-, -, hplays⟩ | ⟨-, rfl⟩
      · have hmem := hplays.directives_prefix.subset (List.mem_map_of_mem hlater)
        rw [hdirective] at hmem
        exact absurd hmem (by decide)
      · cases hlater
  · cases hact

/-- An input that waits, and in which nothing is missing or wrong, reads the answer. -/
theorem reads_of_ready {input : Input} (hinput : turn.step.input = some input)
    (hready : input.isReady) (hkind : input.kind ≠ .set) : Reads host .input turn scene := by
  have hall : turn.unanswered.step.input.all Input.isReady := by
    rw [show turn.unanswered.step = turn.step from rfl, hinput]
    exact hready
  rcases run_input host scene hall rfl with ⟨turn', hask⟩ | ⟨hset, -⟩
  · exact congrArg Prod.fst hask
  · rw [show turn.unanswered.step = turn.step from rfl, hinput, Option.all_some, beq_iff_eq] at hset
    exact absurd hset hkind

/-- What becomes of an input that waits, and in which nothing is missing or wrong: it is interrupted,
or it judges an answer, and only links judge the answer after it. -/
theorem Plays.judged {input : Input} {path : String}
    (hinput : (Directive.branched scene.store step).input = some input)
    (hpath : input.variablePath = some path) (hready : input.isReady) (hkind : input.kind ≠ .set)
    (h : Plays host standard (ofStep step location nextLink) scene acts ending) {act : Act σ}
    (hact : act ∈ acts) (hdirective : act.directive = .input) :
    (∃ reason, act.answers = [.error reason] ∧ ending.2.1.interrupted = some reason) ∨
      ∃ text turn', act.answers = [.ok text] ∧
        act.turn.step = Directive.branched scene.store step ∧ act.turn.inputStatus = .none ∧
        act.turn.rejection = none ∧
        Judges input path text act.turn act.scene (.proceed, turn', act.left host) ∧
        (linked text turn').SameVerdict ending.2.1 := by
  obtain ⟨turn, signal, turn', scene', tail, hstep, hpending, hstatus, hrejection, hcarries, rfl,
    hlinks⟩ := h.input_of_standard hact hdirective
  rw [← hstep] at hinput
  have hreads : Reads host .input turn act.scene := reads_of_ready hinput hready hkind
  rcases hcarries.unsettled hpending with ⟨-, -, -, hblind⟩ | ⟨answer, hanswers, hfinal, hrun, -⟩
  · exact absurd hreads hblind
  cases answer with
  | error reason =>
    obtain ⟨before, after, hacts⟩ := List.append_of_mem hact
    obtain ⟨-, -, hinterrupted, -⟩ := h.interrupted rfl hacts
      (.inl (by rw [hanswers]; exact List.mem_singleton_self _))
    exact .inl ⟨reason, hanswers, hinterrupted⟩
  | ok text =>
    have hjudges : Judges input path text act.turn act.scene (signal, turn', act.left host) := by
      rw [← hrun, hfinal]
      exact run_input_of_text host hinput hpath hready hkind rfl
    have hproceed : signal = .proceed := by
      generalize act.left host = left at hjudges
      cases hjudges <;> rfl
    subst hproceed
    have htext : turn'.input = some text := by
      have hkeeps := Directive.run_keeps host .input act.turn act.scene
      rw [hrun] at hkeeps
      rw [hkeeps.input, hfinal]
      rfl
    refine .inr ⟨text, turn', hanswers, ?_, ?_, ?_, hjudges,
      (hlinks rfl).sameVerdict_of_links htext (by decide) (by decide)⟩
    · rw [hfinal]
      exact hstep
    · rw [hfinal]
      exact hstatus
    · rw [hfinal]
      exact hrejection

/-- **An answer is stored exactly when it is admitted.** Whenever a turn with the directives in their
usual order comes to an input that waits and in which nothing is missing or wrong, the prompt is
consulted: an interruption there ends the turn, and otherwise there is an answer. In the end the
answer is taken if the input admits it and rejected if not, whatever links make of it and however the
turn ends. The directive stores what an admitted answer stands for and leaves the scene alone
otherwise. The message is that of the input for answers that are not admitted, unless links reject the
answer after it. -/
theorem stores_admitted_answers {input : Input} {path : String}
    (hinput : (Directive.branched scene.store step).input = some input)
    (hpath : input.variablePath = some path) (hready : input.isReady) (hkind : input.kind ≠ .set)
    (h : Plays host standard (ofStep step location nextLink) scene acts ending) {act : Act σ}
    (hact : act ∈ acts) (hdirective : act.directive = .input) :
    (∃ reason, act.answers = [.error reason] ∧ ending.2.1.interrupted = some reason) ∨
      ∃ text, act.answers = [.ok text] ∧
        (ending.2.1.inputStatus = .accepted ↔
          ∃ value, input.Admits act.scene.store text value) ∧
        (ending.2.1.inputStatus = .rejected ↔
          ¬ ∃ value, input.Admits act.scene.store text value) ∧
        (∀ value, input.Admits act.scene.store text value →
          act.left host = act.scene.set path value ∧
          ending.2.1.rejection =
            if (Directive.branched scene.store step).linksReject text then some linkRejection
            else none) ∧
        ((¬ ∃ value, input.Admits act.scene.store text value) →
          act.left host = act.scene ∧
          ending.2.1.rejection =
            some (if (Directive.branched scene.store step).linksReject text then linkRejection
              else input.rejection)) := by
  rcases h.judged hinput hpath hready hkind hact hdirective with hinterrupted |
    ⟨text, turn', hanswers, hstep, hstatus, hrejection, hjudges, hverdict⟩
  · exact .inl hinterrupted
  refine .inr ⟨text, hanswers, ?_⟩
  rw [← hstep]
  generalize act.left host = left at hjudges ⊢
  cases hjudges with
  | @takes value hadmits =>
    obtain ⟨haccept, hmessage⟩ := linked_accept text act.turn
    have htaken : ending.2.1.inputStatus = .accepted := hverdict.inputStatus.trans haccept
    refine ⟨by simpa [htaken] using ⟨value, hadmits⟩, by simpa [htaken] using ⟨value, hadmits⟩,
      fun value' hadmits' => ⟨?_, ?_⟩, fun hnone => absurd ⟨value, hadmits⟩ hnone⟩
    · rw [hadmits.unique hadmits']
    · rw [hverdict.rejection, hmessage, hrejection]
  | rejects hnone =>
    have hfree : act.turn.inputStatus ≠ .accepted := by
      rw [hstatus]
      exact (by cases ·)
    obtain ⟨hreject, hmessage⟩ := linked_reject text hfree input.rejection
    have hrejected : ending.2.1.inputStatus = .rejected := hverdict.inputStatus.trans hreject
    refine ⟨by simpa [hrejected] using hnone, by simpa [hrejected] using hnone,
      fun value hadmits => absurd hadmits (hnone value), fun _ => ⟨rfl, ?_⟩⟩
    rw [hverdict.rejection, hmessage]

/-- A turn that gets through all directives carries out the input directive, and what the user says
there is the one answer that the prompt has. -/
theorem exists_input_act (host : Host σ) (step : Step) (location : Location) (scene : Scene σ)
    {answer : String} {out : Outcome σ}
    (hout : playOut host standard (ofStep step location none) scene { answers := [some answer] } = out)
    (hfault : out.fault = none) (hfree : out.turn.interrupted = none) :
    ∃ acts act, Plays host standard (ofStep step location none) scene acts out.ending ∧
      act ∈ acts ∧ act.directive = .input ∧ ∀ text, act.answers = [.ok text] → text = answer := by
  obtain ⟨acts, h, htakes⟩ :=
    playOut_plays host standard (ofStep step location none) scene { answers := [some answer] }
  rw [hout] at h htakes
  obtain ⟨act, hact, hdirective⟩ : ∃ act ∈ acts, act.directive = .input := by
    have hmem : Directive.input ∈ acts.map (·.directive) := by
      rw [(h.directives_eq hfault hfree).1]
      decide
    exact List.mem_map.1 hmem
  refine ⟨acts, act, h, hact, hdirective, fun text hanswers => ?_⟩
  have hmem : Except.ok text ∈ Act.consulted acts :=
    List.mem_flatMap.2 ⟨act, hact, by rw [hanswers]; exact List.mem_singleton_self _⟩
  rcases htakes with ⟨hconsulted, -⟩ | ⟨hconsulted, -⟩ <;> rw [hconsulted] at hmem
  · cases hmem
  · exact Except.ok.inj (List.mem_singleton.1 hmem)

/-- A step whose choice the links do not know. -/
def ballot : Step where
  input := some {
    kind := .choice, variablePath := some "vote", choices := some [("yes", .bool true)] }
  links := some [("no", "/end")]

/-- A step that asks for a number. -/
def census : Step where
  input := some { kind := .text, variablePath := some "age", pattern := some "[0-9]+" }

/-- The scene before anything is stored. -/
def blank : Scene Unit := { store := .empty, world := () }

/-- What comes of the turn of a step when the user gives an answer. -/
def answered (step : Step) (answer : String) : Outcome Unit :=
  playOut silentHost standard (ofStep step (.start "/start") none) blank { answers := [some answer] }

/-- The input directive of the turn, to which the user gives an answer. -/
def InputAct (step : Step) (answer : String) (act : Act Unit) : Prop :=
  act.directive = .input ∧ act.answers = [.ok answer] ∧ ∃ acts, act ∈ acts ∧
    Plays silentHost standard (ofStep step (.start "/start") none) blank acts
      (answered step answer).ending

/-- A choice is stored though the links reject it, and the message is that of the links. To a step
with a pattern, an answer that matches is stored, and one that does not is not. -/
theorem stores_admitted_answers_ballot :
    (∃ input act, (Directive.branched blank.store ballot).input = some input ∧
      InputAct ballot "yes" act ∧ (answered ballot "yes").turn.inputStatus = .accepted ∧
      input.Admits act.scene.store "yes" (.bool true) ∧
      act.left silentHost = act.scene.set "vote" (.bool true) ∧
      (answered ballot "yes").turn.rejection = some "Input a valid link choice.") ∧
    (∃ input act, (Directive.branched blank.store census).input = some input ∧
      InputAct census "36" act ∧ (answered census "36").turn.inputStatus = .accepted ∧
      input.Admits act.scene.store "36" (.text "36") ∧
      act.left silentHost = act.scene.set "age" (.text "36") ∧
      (answered census "36").turn.rejection = none) ∧
    ∃ input act, (Directive.branched blank.store census).input = some input ∧
      InputAct census "old" act ∧ (answered census "old").turn.inputStatus = .rejected ∧
      (¬∃ value, input.Admits act.scene.store "old" value) ∧
      act.left silentHost = act.scene ∧
      (answered census "old").turn.rejection =
        some "Invalid input. The input doesn't match the required pattern." := by
  -- The three parts differ only in the step, the answer and the verdict on it.
  have hjudged (step : Step) (answer : String) {input : Input} {path : String}
      (hinput : (Directive.branched blank.store step).input = some input)
      (hpath : input.variablePath = some path) (hready : input.isReady) (hkind : input.kind ≠ .set)
      (hfault : (answered step answer).fault = none)
      (hfree : (answered step answer).turn.interrupted = none) :
      ∃ act, InputAct step answer act ∧
        ((answered step answer).turn.inputStatus = .accepted →
          ∃ value, input.Admits act.scene.store answer value ∧
            act.left silentHost = act.scene.set path value ∧
            (answered step answer).turn.rejection =
              if (Directive.branched blank.store step).linksReject answer then some linkRejection
              else none) ∧
        ((answered step answer).turn.inputStatus = .rejected →
          (¬∃ value, input.Admits act.scene.store answer value) ∧
            act.left silentHost = act.scene ∧
            (answered step answer).turn.rejection =
              some (if (Directive.branched blank.store step).linksReject answer then linkRejection
                else input.rejection)) := by
    obtain ⟨acts, act, h, hact, hdirective, hanswer⟩ :=
      exists_input_act silentHost step (.start "/start") blank rfl hfault hfree
    rcases stores_admitted_answers hinput hpath hready hkind h hact hdirective with
      ⟨reason, -, hinterrupted⟩ | ⟨text, hanswers, haccepted, hrejected, hstored, hkept⟩
    · cases hfree.symm.trans hinterrupted
    obtain rfl := hanswer text hanswers
    refine ⟨act, ⟨hdirective, hanswers, acts, hact, h⟩, fun hstatus => ?_, fun hstatus => ?_⟩
    · obtain ⟨value, hadmits⟩ := haccepted.1 hstatus
      exact ⟨value, hadmits, hstored value hadmits⟩
    · have hnone := hrejected.1 hstatus
      exact ⟨hnone, hkept hnone⟩
  refine ⟨?_, ?_, ?_⟩
  · obtain ⟨act, hact, htaken, -⟩ := hjudged ballot "yes" rfl rfl (by decide) (by decide)
      (by decide +kernel) (by decide +kernel)
    have hstatus : (answered ballot "yes").turn.inputStatus = .accepted := by decide +kernel
    obtain ⟨value, hadmits, hleft, hrejection⟩ := htaken hstatus
    cases hadmits with
    | typed hkind => cases hkind
    | chosen hkind hchoices hvalue =>
      obtain rfl := Option.some.inj hchoices
      obtain rfl := Option.some.inj hvalue
      exact ⟨_, act, rfl, hact, hstatus, .chosen hkind rfl rfl, hleft, hrejection.trans rfl⟩
  · obtain ⟨act, hact, htaken, -⟩ := hjudged census "36" rfl rfl (by decide +kernel) (by decide)
      (by decide +kernel) (by decide +kernel)
    have hstatus : (answered census "36").turn.inputStatus = .accepted := by decide +kernel
    obtain ⟨value, hadmits, hleft, hrejection⟩ := htaken hstatus
    cases hadmits with
    | typed hkind hmatch =>
      exact ⟨_, act, rfl, hact, hstatus, .typed hkind hmatch, hleft, hrejection.trans rfl⟩
    | chosen hkind => cases hkind
  · obtain ⟨act, hact, -, hkept⟩ := hjudged census "old" rfl rfl (by decide +kernel) (by decide)
      (by decide +kernel) (by decide +kernel)
    have hstatus : (answered census "old").turn.inputStatus = .rejected := by decide +kernel
    obtain ⟨hnone, hleft, hrejection⟩ := hkept hstatus
    exact ⟨_, act, rfl, hact, hstatus, hnone, hleft, hrejection.trans rfl⟩

end Turn

end Dialogue
