import Dialogue.Proofs.Turn.Answer
/-!
# A turn asks once

A turn is played to its end while its surroundings decide what the user answers and whether a while
passes. Whatever they decide, the user is asked at most once, every directive that reads the answer
reads the same one, and nothing is carried out after an interruption.

## Main definitions

- `Directive.Carries`, `Act` — a directive is carried out, and what is noted of it
- `Turn.Plays` — a row of directives is carried out

## Main statements

- `Turn.Plays.settled`, `Turn.Plays.asks` — with the answer known beforehand, and without
- `Turn.Plays.interrupted` — an interruption is the end
- `Turn.playOut_plays` — playing a turn out is such a play
- `Turn.asks_once`
-/

namespace Dialogue

variable {σ : Type} {host : Host σ}

namespace Directive

variable {directive : Directive} {turn : Turn} {scene : Scene σ}

/-- A directive is carried out: each time it asks, the prompt gives something and it is carried out
again. The third and fourth arguments are what the prompt has given and the turn with which the
directive got through. -/
inductive Carries (host : Host σ) (directive : Directive) :
    Turn → Scene σ → List (Except Interruption String) → Turn → Result σ → Prop where
  | through {turn : Turn} {scene : Scene σ} {r : Result σ}
      (hrun : directive.run host turn scene = r) (hthrough : r.1 ≠ .ask) :
      Carries host directive turn scene [] turn r
  | asked {turn asking final : Turn} {scene scene' : Scene σ} {answer : Except Interruption String}
      {answers : List (Except Interruption String)} {r : Result σ}
      (hrun : directive.run host turn scene = (.ask, asking, scene'))
      (hagain : Carries host directive (asking.heed answer) scene' answers final r) :
      Carries host directive turn scene (answer :: answers) final r

namespace Carries

variable {answers : List (Except Interruption String)} {final : Turn} {r : Result σ}

/-- A directive that does not ask gets through at once. -/
theorem eq_of_run (h : Carries host directive turn scene answers final r)
    (hrun : (directive.run host turn scene).1 ≠ .ask) :
    answers = [] ∧ final = turn ∧ directive.run host turn scene = r := by
  cases h with
  | through hthrough => exact ⟨rfl, rfl, hthrough⟩
  | asked hask => exact absurd (congrArg Prod.fst hask) hrun

/-- With the answer known beforehand the prompt is not consulted. -/
theorem settled (h : Carries host directive turn scene answers final r)
    (hreply : turn.reply ≠ .pending) :
    answers = [] ∧ final = turn ∧ directive.run host turn scene = r := by
  cases h with
  | through hrun hthrough => exact ⟨rfl, rfl, hrun⟩
  | asked hrun hagain => exact absurd (run_ask hrun).1 hreply

/-- Without an answer a directive that reads it consults the prompt once. -/
theorem unsettled (h : Carries host directive turn scene answers final r)
    (hreply : turn.reply = .pending) :
    (answers = [] ∧ final = turn ∧ directive.run host turn scene = r ∧
        ¬ Reads host directive turn scene) ∨
      ∃ answer, answers = [answer] ∧ final = turn.request.heed answer ∧
        directive.run host final scene = r ∧ Reads host directive final scene := by
  cases h with
  | through hrun hthrough =>
    refine .inl ⟨rfl, rfl, hrun, fun hreads => ?_⟩
    rcases directive.run_cases host turn scene with ⟨-, htext⟩ | ⟨-, ⟨⟨reason, h⟩, -⟩ | ⟨-, hask⟩⟩
    · obtain ⟨text, h⟩ := htext hreads
      cases hreply.symm.trans h
    · cases hreply.symm.trans h
    · exact hthrough (hrun ▸ congrArg Prod.fst hask)
  | @asked turn asking final scene scene' answer answers r hrun hagain =>
    obtain ⟨-, hreads, rfl, rfl⟩ := run_ask hrun
    have hanswered : (turn.request.heed answer).reply ≠ .pending := by
      rw [Turn.reply_heed hreply]
      exact Reply.ofAnswer_ne_pending answer
    obtain ⟨rfl, rfl, hrun'⟩ := hagain.settled hanswered
    refine .inr ⟨answer, rfl, rfl, hrun', ?_⟩
    cases answer <;> exact hreads

/-- The directive got through with its last turn, in the scene that it found. -/
theorem run_eq (h : Carries host directive turn scene answers final r) :
    directive.run host final scene = r := by
  by_cases hreply : turn.reply = .pending
  · rcases h.unsettled hreply with ⟨-, rfl, hrun, -⟩ | ⟨answer, -, -, hrun, -⟩ <;> exact hrun
  · obtain ⟨-, rfl, hrun⟩ := h.settled hreply
    exact hrun

/-- What was known of the answer when the directive got through stays known. -/
theorem reply_eq {signal : Signal} {turn' : Turn} {scene' : Scene σ}
    (h : Carries host directive turn scene answers final (signal, turn', scene')) :
    turn'.reply = final.reply := by
  have hkeeps := directive.run_keeps host final scene
  rw [h.run_eq] at hkeeps
  exact Turn.reply_congr hkeeps.input hkeeps.interrupted

/-- No directive interrupts its turn by itself. -/
theorem interrupted_eq {signal : Signal} {turn' : Turn} {scene' : Scene σ}
    (h : Carries host directive turn scene answers final (signal, turn', scene')) :
    turn'.interrupted = final.interrupted := by
  have hkeeps := directive.run_keeps host final scene
  rw [h.run_eq] at hkeeps
  exact hkeeps.interrupted

/-- A directive that is interrupted at its prompt gives way. -/
theorem eq_halt (h : Carries host directive turn scene answers final r) {reason : Interruption}
    (herror : .error reason ∈ answers) :
    r = (.halt, final, scene) ∧ final.interrupted = some reason := by
  have hreply : turn.reply = .pending := by
    refine Decidable.byContradiction fun hreply => ?_
    obtain ⟨rfl, -⟩ := h.settled hreply
    cases herror
  rcases h.unsettled hreply with ⟨rfl, -⟩ | ⟨answer, rfl, rfl, hrun, hreads⟩
  · cases herror
  · obtain rfl := List.mem_singleton.1 herror
    have hinterrupted := Turn.reply_heed hreply (.error reason)
    refine ⟨hrun.symm.trans ?_, Turn.interrupted_of_reply hinterrupted⟩
    rcases directive.run_cases host (turn.request.heed (.error reason)) scene with
      ⟨-, htext⟩ | ⟨-, ⟨-, hhalt⟩ | ⟨hpending, -⟩⟩
    · obtain ⟨text, htext⟩ := htext hreads
      cases hinterrupted.symm.trans htext
    · exact hhalt
    · cases hinterrupted.symm.trans hpending

/-- Unless it is interrupted at its prompt, a directive gets through uninterrupted. -/
theorem interrupted_eq_none (h : Carries host directive turn scene answers final r)
    (hfree : turn.interrupted = none) (hsignal : r.1 ≠ .halt) : final.interrupted = none := by
  by_cases hreply : turn.reply = .pending
  · rcases h.unsettled hreply with ⟨-, rfl, -⟩ | ⟨answer, rfl, rfl, -⟩
    · exact hfree
    · cases answer with
      | ok text => exact hfree
      | error reason =>
        obtain ⟨rfl, -⟩ := h.eq_halt (List.mem_singleton_self _)
        exact absurd rfl hsignal
  · obtain ⟨-, rfl, -⟩ := h.settled hreply
    exact hfree

end Carries

end Directive

/-- The turn goes on after the directive, at once or after a while. -/
def Signal.goesOn : Signal → Bool
  | .proceed => true
  | .rest _ => true
  | _ => false

/-- A directive that was carried out. -/
structure Act (σ : Type) where
  directive : Directive
  /-- The turn with which the directive got through. -/
  turn : Turn
  /-- The scene that the directive found. -/
  scene : Scene σ
  /-- What the prompt gave, each time that it was consulted. -/
  answers : List (Except Interruption String) := []
  /-- Why the while that the directive waited was cut short. -/
  cut : Option Interruption := none

namespace Act

/-- What the prompt gave. -/
def consulted (acts : List (Act σ)) : List (Except Interruption String) :=
  acts.flatMap (·.answers)

/-- The directive reads the answer. -/
def Reads (host : Host σ) (act : Act σ) : Prop := act.directive.Reads host act.turn act.scene

/-- The directive was interrupted, at its prompt or while it waited. -/
def InterruptedBy (act : Act σ) (reason : Interruption) : Prop :=
  .error reason ∈ act.answers ∨ act.cut = some reason

end Act

namespace Turn

/-- A row of directives is carried out. What the prompt gives and whether a while passes is up to the
surroundings. The last argument is how the turn ended. -/
inductive Plays (host : Host σ) : List Directive → Turn → Scene σ → List (Act σ) →
    Option Fault × Turn × Scene σ → Prop where
  | done {turn : Turn} {scene : Scene σ} : Plays host [] turn scene [] (none, turn, scene)
  /-- The turn goes on, at once or after a while. -/
  | next {directive : Directive} {rest : List Directive} {turn final turn' : Turn}
      {scene scene' : Scene σ} {answers : List (Except Interruption String)} {acts : List (Act σ)}
      {ending : Option Fault × Turn × Scene σ} {signal : Signal}
      (h : directive.Carries host turn scene answers final (signal, turn', scene'))
      (hsignal : signal.goesOn) (hrest : Plays host rest turn' scene' acts ending) :
      Plays host (directive :: rest) turn scene (⟨directive, final, scene, answers, none⟩ :: acts)
        ending
  | halt {directive : Directive} {rest : List Directive} {turn final turn' : Turn}
      {scene scene' : Scene σ} {answers : List (Except Interruption String)}
      (h : directive.Carries host turn scene answers final (.halt, turn', scene')) :
      Plays host (directive :: rest) turn scene [⟨directive, final, scene, answers, none⟩]
        (none, turn', scene')
  | fail {directive : Directive} {rest : List Directive} {turn final turn' : Turn}
      {scene scene' : Scene σ} {answers : List (Except Interruption String)} {fault : Fault}
      (h : directive.Carries host turn scene answers final (.fail fault, turn', scene')) :
      Plays host (directive :: rest) turn scene [⟨directive, final, scene, answers, none⟩]
        (some fault, turn', scene')
  /-- The while is cut short. -/
  | cut {directive : Directive} {rest : List Directive} {turn final turn' : Turn}
      {scene scene' : Scene σ} {answers : List (Except Interruption String)} {d : Duration}
      (h : directive.Carries host turn scene answers final (.rest d, turn', scene'))
      (reason : Interruption) :
      Plays host (directive :: rest) turn scene [⟨directive, final, scene, answers, some reason⟩]
        (none, turn'.interrupt reason, scene')

namespace Plays

open Directive Act

variable {directives : List Directive} {turn : Turn} {scene : Scene σ} {acts : List (Act σ)}
  {ending : Option Fault × Turn × Scene σ}

/-- **With the answer known beforehand** the prompt is never consulted, and the answer stays. -/
theorem settled (h : Plays host directives turn scene acts ending) (hreply : turn.reply ≠ .pending) :
    ∀ act ∈ acts, act.answers = [] ∧ act.turn.reply = turn.reply := by
  induction h with
  | done => exact List.forall_mem_nil _
  | next h hsignal hrest ih =>
    obtain ⟨rfl, rfl, -⟩ := h.settled hreply
    have hsame := h.reply_eq
    intro act hact
    rcases List.mem_cons.1 hact with rfl | hact
    · exact ⟨rfl, rfl⟩
    · obtain ⟨hanswers, hreply'⟩ := ih (hsame ▸ hreply) act hact
      exact ⟨hanswers, hreply'.trans hsame⟩
  | halt h =>
    obtain ⟨rfl, rfl, -⟩ := h.settled hreply
    exact List.forall_mem_singleton.2 ⟨rfl, rfl⟩
  | fail h =>
    obtain ⟨rfl, rfl, -⟩ := h.settled hreply
    exact List.forall_mem_singleton.2 ⟨rfl, rfl⟩
  | cut h =>
    obtain ⟨rfl, rfl, -⟩ := h.settled hreply
    exact List.forall_mem_singleton.2 ⟨rfl, rfl⟩

theorem consulted_of_settled (h : Plays host directives turn scene acts ending)
    (hreply : turn.reply ≠ .pending) : consulted acts = [] :=
  List.flatMap_eq_nil_iff.2 fun act hact => (h.settled hreply act hact).1

/-- What becomes of the answer in the course of a play. -/
inductive Asks (host : Host σ) (acts : List (Act σ)) : Prop where
  /-- Nothing is asked and nothing reads the answer. -/
  | never (hconsulted : consulted acts = []) (hreads : ∀ act ∈ acts, ¬ act.Reads host)
  /-- The prompt is consulted once, and whatever reads the answer has what it gave. -/
  | once (answer : Except Interruption String) (hconsulted : consulted acts = [answer])
      (hreads : ∀ act ∈ acts, act.Reads host → act.turn.reply = .ofAnswer answer)

/-- The only directive, when it is carried out without an answer. -/
theorem Asks.of_singleton {directive : Directive} {final : Turn} {r : Result σ}
    {answers : List (Except Interruption String)}
    (h : directive.Carries host turn scene answers final r) (hreply : turn.reply = .pending)
    (cut : Option Interruption) : Asks host [⟨directive, final, scene, answers, cut⟩] := by
  rcases h.unsettled hreply with ⟨rfl, rfl, -, hblind⟩ | ⟨answer, rfl, rfl, -⟩
  · exact .never rfl (List.forall_mem_singleton.2 hblind)
  · exact .once answer rfl (List.forall_mem_singleton.2 fun _ => reply_heed hreply answer)

/-- **Without an answer** the prompt is consulted at most once. -/
theorem asks (h : Plays host directives turn scene acts ending) (hreply : turn.reply = .pending) :
    Asks host acts := by
  induction h with
  | done => exact .never rfl (List.forall_mem_nil _)
  | @next directive rest turn final turn' scene scene' answers acts ending signal h hsignal hrest ih =>
    have hsame := h.reply_eq
    rcases h.unsettled hreply with ⟨rfl, rfl, -, hblind⟩ | ⟨answer, rfl, rfl, -⟩
    · rcases ih (hsame.trans hreply) with ⟨hconsulted, hreads⟩ | ⟨answer, hconsulted, hreads⟩
      · exact .never hconsulted (List.forall_mem_cons.2 ⟨hblind, hreads⟩)
      · exact .once answer hconsulted
          (List.forall_mem_cons.2 ⟨fun hread => absurd hread hblind, hreads⟩)
    · -- The answer is known to what follows.
      have hanswered : turn'.reply = .ofAnswer answer := hsame.trans (reply_heed hreply answer)
      have hsettled : turn'.reply ≠ .pending := hanswered ▸ Reply.ofAnswer_ne_pending answer
      refine .once answer ?_ (List.forall_mem_cons.2 ⟨fun _ => reply_heed hreply answer, ?_⟩)
      · exact congrArg (answer :: ·) (hrest.consulted_of_settled hsettled)
      · exact fun act hact _ => (hrest.settled hsettled act hact).2.trans hanswered
  | halt h => exact .of_singleton h hreply none
  | fail h => exact .of_singleton h hreply none
  | cut h reason => exact .of_singleton h hreply (some reason)

/-- **An interruption is the end**: nothing is carried out after it, and the directive that is
interrupted leaves the scene as it found it. -/
theorem interrupted (h : Plays host directives turn scene acts ending)
    (hfree : turn.interrupted = none) {before after : List (Act σ)} {act : Act σ}
    {reason : Interruption} (hacts : acts = before ++ act :: after) (hact : act.InterruptedBy reason) :
    after = [] ∧ ending.1 = none ∧ ending.2.1.interrupted = some reason ∧ ending.2.2 = act.scene := by
  have honly : ∀ {a : Act σ} {before : List (Act σ)}, [a] = before ++ act :: after →
      act = a ∧ after = [] := by
    intro a before h
    cases before with
    | nil => exact ⟨(List.cons.inj h).1.symm, (List.cons.inj h).2.symm⟩
    | cons b before => simp at h
  induction h generalizing before with
  | done => simp at hacts
  | @next directive rest turn final turn' scene scene' answers acts ending signal h hsignal hrest ih =>
    have hgoes : signal ≠ .halt := by
      rintro rfl
      cases hsignal
    cases before with
    | nil =>
      obtain ⟨rfl, rfl⟩ := List.cons.inj hacts
      rcases hact with herror | hcut
      · obtain ⟨hhalt, -⟩ := h.eq_halt herror
        exact absurd (congrArg Prod.fst hhalt) hgoes
      · cases hcut
    | cons b before =>
      have hfinal := h.interrupted_eq_none hfree hgoes
      exact ih (h.interrupted_eq.trans hfinal) (List.cons.inj hacts).2
  | halt h =>
    obtain ⟨rfl, rfl⟩ := honly hacts
    rcases hact with herror | hcut
    · obtain ⟨hhalt, hinterrupted⟩ := h.eq_halt herror
      cases hhalt
      exact ⟨rfl, rfl, hinterrupted, rfl⟩
    · cases hcut
  | fail h =>
    obtain ⟨rfl, rfl⟩ := honly hacts
    rcases hact with herror | hcut
    · obtain ⟨hhalt, -⟩ := h.eq_halt herror
      cases hhalt
    · cases hcut
  | cut h =>
    obtain ⟨rfl, rfl⟩ := honly hacts
    rcases hact with herror | hcut
    · obtain ⟨hhalt, -⟩ := h.eq_halt herror
      cases hhalt
    · obtain rfl := Option.some.inj hcut
      obtain ⟨rfl, rfl⟩ := run_rest h.run_eq
      refine ⟨rfl, rfl, ?_, rfl⟩
      rw [interrupt, h.interrupted_eq_none hfree (by simp)]
      rfl

end Plays

/-! ### Playing a turn out -/

open Directive Act

variable {directives left rest : List Directive} {turn turn' : Turn} {scene scene' : Scene σ}

/-- A play of what is left is the end of a play of everything; before that the prompt has given these
answers. -/
def Leads (host : Host σ) (directives : List Directive) (turn : Turn) (scene : Scene σ)
    (answers : List (Except Interruption String)) (left : List Directive) (turn' : Turn)
    (scene' : Scene σ) : Prop :=
  ∀ acts ending, Plays host left turn' scene' acts ending →
    ∃ acts', Plays host directives turn scene acts' ending ∧
      consulted acts' = answers ++ consulted acts

/-- Past a directive that lets the turn go on. -/
theorem leads_of_goesOn {directive : Directive} {signal : Signal} (hsignal : signal.goesOn)
    (h : directive.run host turn scene = (signal, turn', scene')) :
    Leads host (directive :: rest) turn scene [] rest turn' scene' := by
  intro acts ending hplays
  have hthrough : (signal, turn', scene').1 ≠ .ask := by
    rintro rfl
    cases hsignal
  exact ⟨_, .next (.through h hthrough) hsignal hplays, rfl⟩

/-- At a directive that asks, which is carried out again when the prompt has given something. -/
theorem leads_of_ask {directive : Directive}
    (h : directive.run host turn scene = (.ask, turn', scene'))
    (answer : Except Interruption String) :
    Leads host (directive :: rest) turn scene [answer] (directive :: rest) (turn'.heed answer)
      scene' := by
  obtain ⟨-, -, rfl, rfl⟩ := run_ask h
  intro acts ending hplays
  cases hplays with
  | next hcarries hsignal hrest => exact ⟨_, .next (.asked h hcarries) hsignal hrest, rfl⟩
  | halt hcarries => exact ⟨_, .halt (.asked h hcarries), rfl⟩
  | fail hcarries => exact ⟨_, .fail (.asked h hcarries), rfl⟩
  | cut hcarries reason => exact ⟨_, .cut (.asked h hcarries) reason, rfl⟩

theorem Leads.trans {left' : List Directive} {turn'' : Turn} {scene'' : Scene σ}
    {answers : List (Except Interruption String)}
    (h : Leads host directives turn scene [] left turn' scene')
    (h' : Leads host left turn' scene' answers left' turn'' scene'') :
    Leads host directives turn scene answers left' turn'' scene'' := by
  intro acts ending hplays
  obtain ⟨acts', hplays', hconsulted'⟩ := h' acts ending hplays
  obtain ⟨acts'', hplays'', hconsulted''⟩ := h acts' ending hplays'
  exact ⟨acts'', hplays'', hconsulted''.trans hconsulted'⟩

/-- Where a row of directives stops to go on at once: it has come to this end of the row. -/
structure Stops (host : Host σ) (directives : List Directive) (turn : Turn) (scene : Scene σ)
    (left : List Directive) (turn' : Turn) (scene' : Scene σ) : Prop where
  leads : Leads host directives turn scene [] left turn' scene'
  run_eq : turn.run host directives scene = turn'.run host left scene'
  not_proceed : ∀ directive rest, left = directive :: rest →
    (directive.run host turn' scene').1 ≠ .proceed
  length_le : left.length ≤ directives.length
  reply_eq : turn'.reply = turn.reply

/-- At its beginning. -/
theorem Stops.here (h : ∀ directive rest, directives = directive :: rest →
    (directive.run host turn scene).1 ≠ .proceed) :
    Stops host directives turn scene directives turn scene :=
  ⟨fun acts _ hplays => ⟨acts, hplays, rfl⟩, rfl, h, Nat.le_refl _, rfl⟩

/-- Every row of directives comes to an end of itself. -/
theorem exists_stops (host : Host σ) (directives : List Directive) (turn : Turn) (scene : Scene σ) :
    ∃ left turn' scene', Stops host directives turn scene left turn' scene' := by
  induction directives generalizing turn scene with
  | nil => exact ⟨[], turn, scene, .here nofun⟩
  | cons directive rest ih =>
    obtain ⟨signal, after, found, hrun⟩ : ∃ signal after found,
        directive.run host turn scene = (signal, after, found) := ⟨_, _, _, rfl⟩
    by_cases hproceed : signal = .proceed
    · subst hproceed
      obtain ⟨left, turn', scene', hleads, hsame, hstops, hlength, hreply⟩ := ih after found
      have hkeeps := directive.run_keeps host turn scene
      rw [hrun] at hkeeps
      refine ⟨left, turn', scene', (leads_of_goesOn rfl hrun).trans hleads, ?_, hstops,
        Nat.le_succ_of_le hlength, hreply.trans (reply_congr hkeeps.input hkeeps.interrupted)⟩
      rw [run, hrun]
      exact hsame
    · refine ⟨directive :: rest, turn, scene, .here fun _ _ hleft => ?_⟩
      obtain ⟨rfl, rfl⟩ := List.cons.inj hleft
      rw [hrun]
      exact hproceed

/-- How a turn has ended. -/
def Outcome.ending (out : Outcome σ) : Option Fault × Turn × Scene σ :=
  (out.fault, out.turn, out.scene)

/-- What a play has taken from a prompt: nothing, or what the prompt had to give next. -/
def Takes (prompt : Prompt) (acts : List (Act σ)) (out : Outcome σ) : Prop :=
  consulted acts = [] ∧ out.prompt.answers = prompt.answers ∨
    consulted acts = [prompt.take.1] ∧ out.prompt.answers = prompt.take.2.answers

/-- A play of what is left plays the turn out. -/
theorem Leads.exists_plays {out : Outcome σ} {prompt : Prompt}
    (h : Leads host directives turn scene [] left turn' scene') {acts : List (Act σ)}
    (hplays : Plays host left turn' scene' acts out.ending) (htakes : Takes prompt acts out) :
    ∃ acts, Plays host directives turn scene acts out.ending ∧ Takes prompt acts out := by
  obtain ⟨acts', hplays', hconsulted⟩ := h acts out.ending hplays
  refine ⟨acts', hplays', ?_⟩
  rw [Takes, hconsulted]
  exact htakes

/-- Time that passes changes nothing in what a prompt gives. -/
theorem Takes.of_elapsed {prompt : Prompt} {elapsed : Nat} {acts : List (Act σ)} {out : Outcome σ}
    (h : Takes { prompt with elapsed } acts out) : Takes prompt acts out := by
  obtain ⟨answers, cancelled, before⟩ := prompt
  cases answers with
  | nil => exact h
  | cons answer rest => cases answer <;> exact h

/-- How often a turn may still wait. -/
def waits (directives : List Directive) (turn : Turn) : Nat :=
  directives.length + if turn.reply = .pending then 1 else 0

/-- **Playing a turn out** is a play, if it may wait often enough. -/
theorem playOutFrom_plays (fuel : Nat) (directives : List Directive) (turn : Turn) (scene : Scene σ)
    (prompt : Prompt) (hfuel : waits directives turn < fuel) :
    ∃ acts, Plays host directives turn scene acts
        (playOutFrom host fuel directives turn scene prompt).ending ∧
      Takes prompt acts (playOutFrom host fuel directives turn scene prompt) := by
  -- Each round of the fuel is one wait: what goes on at once is passed over first.
  induction fuel generalizing directives turn scene prompt with
  | zero => exact absurd hfuel (Nat.not_lt_zero _)
  | succ fuel ih =>
    obtain ⟨left, turn', scene', hleads, hsame, hstops, hlength, hreply⟩ :=
      exists_stops host directives turn scene
    cases left with
    | nil =>
      simp only [playOutFrom, hsame, run]
      exact hleads.exists_plays .done (.inl ⟨rfl, rfl⟩)
    | cons directive rest =>
      obtain ⟨signal, after, found, hrun⟩ : ∃ signal after found,
          directive.run host turn' scene' = (signal, after, found) := ⟨_, _, _, rfl⟩
      cases signal with
      | proceed => exact absurd (congrArg Prod.fst hrun) (hstops directive rest rfl)
      | halt =>
        simp only [playOutFrom, hsame, run, hrun]
        exact hleads.exists_plays (.halt (.through hrun (by simp))) (.inl ⟨rfl, rfl⟩)
      | fail fault =>
        simp only [playOutFrom, hsame, run, hrun]
        exact hleads.exists_plays (.fail (.through hrun (by simp))) (.inl ⟨rfl, rfl⟩)
      | ask =>
        obtain ⟨hpending, -, rfl, rfl⟩ := run_ask hrun
        -- The same directive is left over; the answer that is there now pays for the round.
        have hsettled : (turn'.request.heed prompt.take.1).reply ≠ .pending := by
          rw [reply_heed hpending]
          exact Reply.ofAnswer_ne_pending _
        have hfewer : waits (directive :: rest) (turn'.request.heed prompt.take.1) < fuel := by
          rw [waits, if_neg hsettled]
          rw [waits, if_pos (hreply.symm.trans hpending)] at hfuel
          omega
        have hask : turn'.request.reply = .pending := hpending
        simp only [playOutFrom, hsame, run, hrun, ask_of_pending hask]
        obtain ⟨acts, hplays, htakes⟩ := ih _ _ found prompt.take.2 hfewer
        have hquiet := hplays.consulted_of_settled hsettled
        obtain ⟨acts', hplays', hconsulted⟩ :=
          hleads.trans (leads_of_ask hrun prompt.take.1) acts _ hplays
        -- What follows asks no more, so it has taken nothing.
        refine ⟨acts', hplays', .inr ⟨by rw [hconsulted, hquiet]; rfl, ?_⟩⟩
        rcases htakes with ⟨-, hleft⟩ | ⟨htaken, -⟩
        · exact hleft
        · cases hquiet.symm.trans htaken
      | rest d =>
        obtain ⟨rfl, rfl⟩ := run_rest hrun
        have hfewer : waits rest after < fuel := by
          rw [waits, hreply]
          rw [waits] at hfuel
          rw [List.length_cons] at hlength
          omega
        cases hcancelled : prompt.cancelled with
        | true =>
          have hsleep : prompt.sleep d = (some .aborted, prompt) := if_pos hcancelled
          simp only [playOutFrom, hsame, run, hrun, hsleep]
          exact hleads.exists_plays (.cut (.through hrun (by simp)) .aborted) (.inl ⟨rfl, rfl⟩)
        | false =>
          have hsleep : prompt.sleep d =
              (none, { prompt with elapsed := prompt.elapsed + d.wait }) :=
            if_neg (by rw [hcancelled]; exact Bool.false_ne_true)
          simp only [playOutFrom, hsame, run, hrun, hsleep]
          obtain ⟨acts, hplays, htakes⟩ :=
            ih rest after found { prompt with elapsed := prompt.elapsed + d.wait } hfewer
          exact (hleads.trans (leads_of_goesOn rfl hrun)).exists_plays hplays htakes.of_elapsed

/-- **Playing a whole turn out** is a play. -/
theorem playOut_plays (host : Host σ) (directives : List Directive) (turn : Turn) (scene : Scene σ)
    (prompt : Prompt) :
    ∃ acts, Plays host directives turn scene acts
        (turn.playOut host directives scene prompt).ending ∧
      Takes prompt acts (turn.playOut host directives scene prompt) := by
  refine playOutFrom_plays _ directives turn scene prompt ?_
  rw [waits]
  split <;> omega

end Turn

/-! ### Asking once -/

namespace Turn

open Act

/-- **A turn asks once.** However a row of directives is played from the beginning of a turn, the
prompt is consulted at most once, every directive that reads the answer has what the prompt gave, and
an interruption at the prompt or in a delay is the end: nothing is carried out after it, and the scene
stays as the interrupted directive found it. Playing a turn out against a prompt is such a play. What
is done with a turn by hand never changes what asking has given, the first interruption or that the
answer is taken, and keeps the last message about an answer that is not. -/
theorem asks_once (host : Host σ) (directives : List Directive) (step : Step) (location : Location)
    (nextLink : Option Location) (scene : Scene σ) :
    (∀ acts ending, Plays host directives (ofStep step location nextLink) scene acts ending →
      (consulted acts).length ≤ 1 ∧
      (∀ act ∈ acts, act.Reads host →
        ∃ answer, consulted acts = [answer] ∧ act.turn.reply = .ofAnswer answer) ∧
      ∀ before act after reason, acts = before ++ act :: after → act.InterruptedBy reason →
        after = [] ∧ ending.1 = none ∧ ending.2.1.interrupted = some reason ∧
          ending.2.2 = act.scene) ∧
    (∀ prompt, ∃ acts, Plays host directives (ofStep step location nextLink) scene acts
        (playOut host directives (ofStep step location nextLink) scene prompt).ending ∧
      Takes prompt acts (playOut host directives (ofStep step location nextLink) scene prompt)) ∧
    ∀ (turn : Turn) (prompt : Prompt) (deeds : List Deed),
      (let later := performAll deeds (turn.ask prompt).2;
        later.1.ask later.2 = ((turn.ask prompt).1, later)) ∧
      (∀ reason, turn.interrupted = some reason →
        (performAll deeds (turn, prompt)).1.interrupted = some reason) ∧
      (turn.inputStatus = .accepted →
        (performAll deeds (turn, prompt)).1.inputStatus = .accepted) ∧
      (performAll deeds (turn, prompt)).1.rejection =
        (deeds.filterMap Deed.rejection?).getLast?.or turn.rejection := by
  refine ⟨fun acts ending h => ?_, playOut_plays host directives _ scene, fun turn prompt deeds => ?_⟩
  · refine ⟨?_, ?_, fun before act after reason => h.interrupted rfl⟩
    · rcases h.asks rfl with ⟨hconsulted, -⟩ | ⟨answer, hconsulted, -⟩ <;> simp [hconsulted]
    · intro act hact hread
      rcases h.asks rfl with ⟨-, hreads⟩ | ⟨answer, hconsulted, hreads⟩
      · exact absurd hread (hreads act hact)
      · exact ⟨answer, hconsulted, hreads act hact hread⟩
  · exact ⟨ask_performAll turn prompt deeds,
      fun reason h => performAll_keeps (p := fun turn => turn.interrupted = some reason)
        (fun _ => interrupted_perform) h deeds,
      fun h => performAll_keeps (p := fun turn => turn.inputStatus = .accepted)
        (fun _ => accepted_perform) h deeds,
      rejection_performAll deeds (turn, prompt)⟩

/-- A host that offers nothing. -/
def silentHost : Host Unit := ⟨[], fun _ world => (.error "offline", world)⟩

/-- A step to go through. -/
def gate : Step := { message := some (.whole "Hello"), links := some [("go", "/start")] }

/-- The gate with its links twice and its message last, and a user with two answers to give. -/
def gateOutcome : Outcome Unit :=
  playOut silentHost [.links, .links, .message] (ofStep gate (.start "/start") none)
    { store := .empty, world := () } { answers := [some "go", some "stop"] }

theorem asks_once_gate :
    gateOutcome.prompt.answers = [some "stop"] ∧ gateOutcome.scene.notices = #[.printed "Hello"] ∧
      ∃ acts, Plays silentHost [.links, .links, .message] (ofStep gate (.start "/start") none)
          { store := .empty, world := () } acts gateOutcome.ending ∧
        (consulted acts).length ≤ 1 ∧ consulted acts = [.ok "go"] := by
  have hleft : gateOutcome.prompt.answers = [some "stop"] := by decide +kernel
  obtain ⟨honce, hplays, -⟩ := asks_once silentHost [.links, .links, .message] gate
    (.start "/start") none { store := .empty, world := () }
  obtain ⟨acts, h, htakes⟩ := hplays { answers := [some "go", some "stop"] }
  refine ⟨hleft, by decide +kernel, acts, h, (honce acts _ h).1, ?_⟩
  rcases htakes with ⟨-, hsame⟩ | ⟨hconsulted, -⟩
  · exact absurd (hleft.symm.trans hsame) (by decide)
  · exact hconsulted

end Turn

end Dialogue
