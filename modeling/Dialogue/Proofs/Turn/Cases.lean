import Dialogue.Turn.Directive
/-!
# What a directive does

A directive does nothing if the step has nothing for it. Otherwise it does one of a few things, each
under its own condition. What is kept, stored, told and read by directives follows by going through
these cases once.

## Main definitions

- `Step.lacks` — the step has nothing for a directive
- `Directive.Does` — what a directive may do

## Main statements

- `Directive.run_does` — carrying it out does one of these things
-/

namespace Dialogue

variable {σ : Type}

/-- The step has nothing for the directive. -/
def Step.lacks (step : Step) : Directive → Prop
  | .switch => False
  | .clear => step.clearVariables ≠ some true
  | .message => step.message = none
  | .next => step.next = none
  | .input => step.input = none
  | .links => step.links = none
  | .execute => step.execute = none
  | .request => step.request = none
  | .delay => step.delay = none

namespace Directive

/-- A request is not sent: it would get something with a body. -/
def Unsent (request : Request) : Prop := request.method = .get ∧ request.body.isSome

instance : DecidablePred Unsent := fun _ => inferInstanceAs (Decidable (_ ∧ _))

/-- What a directive does, with the turn and the scene that it finds. -/
inductive Does (host : Host σ) (turn : Turn) (scene : Scene σ) : Directive → Result σ → Prop where
  | nothing {directive : Directive} (hlacks : turn.step.lacks directive) :
      Does host turn scene directive (proceed turn scene)
  | switch : Does host turn scene .switch
      (proceed { turn with step := branched scene.store turn.step } scene)
  | clear (hclear : turn.step.clearVariables = some true) :
      Does host turn scene .clear (proceed turn { scene with store := scene.store.clear })
  | message {said : Message} (hsaid : turn.step.message = some said) :
      Does host turn scene .message (proceed turn (scene.print (scene.store.expand said.text)))
  | next {target : String} (htarget : turn.step.next = some target) :
      Does host turn scene .next (goTo target turn scene)
  /-- The input has no variable. -/
  | unnamed {input : Input} (hinput : turn.step.input = some input)
      (hpath : input.variablePath.all (·.isEmpty)) :
      Does host turn scene .input (fail (.missingProperty "variable" turn.location) turn scene)
  | set {input : Input} {path : String} (hinput : turn.step.input = some input)
      (hpath : input.variablePath = some path) (hne : path.isEmpty = false)
      (hkind : input.kind = .set) :
      Does host turn scene .input
        (proceed turn (scene.set path (inputValue scene.store input input.value)))
  /-- The choice has no choices. -/
  | unlisted {input : Input} (hinput : turn.step.input = some input) (hkind : input.kind = .choice)
      (hchoices : input.choices = none) :
      Does host turn scene .input (fail (.missingProperty "choices" turn.location) turn scene)
  | choice {input : Input} {path : String} {choices : Keyed Json}
      (hinput : turn.step.input = some input) (hpath : input.variablePath = some path)
      (hne : path.isEmpty = false) (hkind : input.kind = .choice)
      (hchoices : input.choices = some choices) :
      Does host turn scene .input (withInput turn scene fun text =>
        match Keyed.get? text choices with
        | some value => proceed turn.accept (scene.set path (inputValue scene.store input value))
        | none => proceed (turn.reject (input.rejectMessage.getD choiceRejection)) scene)
  /-- The pattern of the input cannot be read. -/
  | unreadable {input : Input} {fault : Fault} (hinput : turn.step.input = some input)
      (hkind : input.kind = .text) (hpattern : inputPattern input turn.location = .error fault) :
      Does host turn scene .input (fail fault turn scene)
  | text {input : Input} {path : String} {pattern : Option Pattern.Regex}
      (hinput : turn.step.input = some input) (hpath : input.variablePath = some path)
      (hne : path.isEmpty = false) (hkind : input.kind = .text)
      (hpattern : inputPattern input turn.location = .ok pattern) :
      Does host turn scene .input (withInput turn scene fun text =>
        if (pattern.map (·.search text)).getD true then
          proceed turn.accept (scene.set path (.text text))
        else proceed (turn.reject (input.rejectMessage.getD patternRejection)) scene)
  | links {targets : Keyed String} (htargets : turn.step.links = some targets) :
      Does host turn scene .links (withInput turn scene fun text =>
        match Keyed.get? text targets with
        | some target => goTo target turn scene
        | none => proceed (turn.reject linkRejection) scene)
  | unknown {call : Call} (hcall : turn.step.execute = some call)
      (hfunction : Keyed.get? call.function host.functions = none) :
      Does host turn scene .execute
        (proceed turn (scene.report (.functionNotFound call.function turn.location)))
  | returned {call : Call} {function : Function σ} {value : Json} {world : σ}
      (hcall : turn.step.execute = some call)
      (hfunction : Keyed.get? call.function host.functions = some function)
      (hresult : function (call.args.map (argument scene.store call.expandArgs)) scene.world =
        (.ok (some value), world)) :
      Does host turn scene .execute
        (proceed turn (storeAt call.output value { scene with world }))
  /-- The function has nothing to store. -/
  | finished {call : Call} {function : Function σ} {world : σ}
      (hcall : turn.step.execute = some call)
      (hfunction : Keyed.get? call.function host.functions = some function)
      (hresult : function (call.args.map (argument scene.store call.expandArgs)) scene.world =
        (.ok none, world)) :
      Does host turn scene .execute (proceed turn { scene with world })
  | broken {call : Call} {function : Function σ} {reason : String} {world : σ}
      (hcall : turn.step.execute = some call)
      (hfunction : Keyed.get? call.function host.functions = some function)
      (hresult : function (call.args.map (argument scene.store call.expandArgs)) scene.world =
        (.error reason, world)) :
      Does host turn scene .execute (proceed turn (Scene.report { scene with world }
        (.functionFailed call.function turn.location reason)))
  | unsent {fetch : Fetch} (hfetch : turn.step.request = some fetch)
      (hunsent : Unsent (expanded scene.store fetch)) :
      Does host turn scene .request (proceed turn (scene.report (.getWithBody turn.location)))
  | responded {fetch : Fetch} {text : String} {world : σ} (hfetch : turn.step.request = some fetch)
      (hsent : ¬ Unsent (expanded scene.store fetch))
      (hsend : host.send (expanded scene.store fetch) scene.world = (.ok text, world)) :
      Does host turn scene .request
        (proceed turn (storeAt fetch.output (Json.ofResponse text) { scene with world }))
  | failed {fetch : Fetch} {reason : String} {world : σ} (hfetch : turn.step.request = some fetch)
      (hsent : ¬ Unsent (expanded scene.store fetch))
      (hsend : host.send (expanded scene.store fetch) scene.world = (.error reason, world))
      (hnext : fetch.failNext = none) :
      Does host turn scene .request (proceed turn (Scene.report { scene with world }
        (.requestFailed (expanded scene.store fetch).url turn.location reason)))
  | diverted {fetch : Fetch} {reason target : String} {world : σ}
      (hfetch : turn.step.request = some fetch)
      (hsent : ¬ Unsent (expanded scene.store fetch))
      (hsend : host.send (expanded scene.store fetch) scene.world = (.error reason, world))
      (hnext : fetch.failNext = some target) :
      Does host turn scene .request (goTo target turn (Scene.report { scene with world }
        (.requestFailed (expanded scene.store fetch).url turn.location reason)))
  /-- There is no while to wait. -/
  | instant {seconds : Binary64} (hseconds : turn.step.delay = some seconds)
      (hwait : (seconds.isFinite && seconds.isPositive) = false) :
      Does host turn scene .delay (proceed turn scene)
  | rest {seconds : Binary64} {d : Duration} (hseconds : turn.step.delay = some seconds)
      (hwait : (seconds.isFinite && seconds.isPositive) = true)
      (hd : Duration.ofSeconds? seconds = some d) :
      Does host turn scene .delay (.rest d, turn, scene)
  /-- The while cannot be counted. -/
  | uncountable {seconds : Binary64} (hseconds : turn.step.delay = some seconds)
      (hwait : (seconds.isFinite && seconds.isPositive) = true)
      (hd : Duration.ofSeconds? seconds = none) :
      Does host turn scene .delay (fail (.invalidDelay seconds turn.location) turn scene)

variable {host : Host σ} {turn : Turn} {scene : Scene σ}

/-- A directive that reads the answer goes on with it, gives way or asks. -/
@[elab_as_elim]
theorem withInput_cases {motive : Result σ → Prop} {use : String → Result σ}
    (text : ∀ answer, turn.reply = .text answer → motive (use answer))
    (halt : motive (.halt, turn, scene)) (ask : motive (.ask, turn.request, scene)) :
    motive (withInput turn scene use) := by
  unfold withInput
  split
  · next answer hreply => exact text answer hreply
  · exact halt
  · exact ask

theorem does_runInput {input : Input} {path : String} (hinput : turn.step.input = some input)
    (hpath : input.variablePath = some path) (hne : path.isEmpty = false) :
    Does host turn scene .input (runInput input path turn scene) := by
  unfold runInput
  split
  · next hkind => exact .set hinput hpath hne hkind
  · next hkind =>
    split
    · next hchoices => exact .unlisted hinput hkind hchoices
    · next hchoices => exact .choice hinput hpath hne hkind hchoices
  · next hkind =>
    split
    · next hpattern => exact .unreadable hinput hkind hpattern
    · next hpattern => exact .text hinput hpath hne hkind hpattern

theorem does_runCall {call : Call} (hcall : turn.step.execute = some call) :
    Does host turn scene .execute (runCall host call turn scene) := by
  unfold runCall
  split
  · next hfunction => exact .unknown hcall hfunction
  · next function hfunction =>
    obtain ⟨result, world, hresult⟩ : ∃ result world,
        function (call.args.map (argument scene.store call.expandArgs)) scene.world =
          (result, world) := ⟨_, _, rfl⟩
    simp only [hresult]
    split
    · exact .returned hcall hfunction hresult
    · exact .finished hcall hfunction hresult
    · exact .broken hcall hfunction hresult

theorem does_runFetch {fetch : Fetch} (hfetch : turn.step.request = some fetch) :
    Does host turn scene .request (runFetch host fetch turn scene) := by
  obtain ⟨result, world, hsend⟩ : ∃ result world,
      host.send (expanded scene.store fetch) scene.world = (result, world) := ⟨_, _, rfl⟩
  simp only [runFetch, hsend]
  split
  · next hunsent => exact .unsent hfetch hunsent
  · next hsent =>
    split
    · exact .responded hfetch hsent hsend
    · split
      · next hnext => exact .diverted hfetch hsent hsend hnext
      · next hnext => exact .failed hfetch hsent hsend hnext

theorem does_runDelay {seconds : Binary64} (hseconds : turn.step.delay = some seconds) :
    Does host turn scene .delay (runDelay seconds turn scene) := by
  unfold runDelay
  cases hwait : seconds.isFinite && seconds.isPositive with
  | false => exact .instant hseconds hwait
  | true =>
    rw [Bool.not_true, if_neg Bool.false_ne_true]
    split
    · next hd => exact .rest hseconds hwait hd
    · next hd => exact .uncountable hseconds hwait hd

/-- **What carrying out a directive does.** -/
theorem run_does (host : Host σ) (directive : Directive) (turn : Turn) (scene : Scene σ) :
    Does host turn scene directive (directive.run host turn scene) := by
  cases directive with
  | switch => exact .switch
  | clear =>
    rw [run]
    split
    · next hclear => exact .clear hclear
    · next hclear => exact .nothing hclear
  | message =>
    rw [run]
    split
    · next hsaid => exact .message hsaid
    · next hsaid => exact .nothing hsaid
  | next =>
    rw [run]
    split
    · next htarget => exact .next htarget
    · next htarget => exact .nothing htarget
  | input =>
    rw [run]
    split
    · next hinput => exact .nothing hinput
    · next input hinput =>
      split
      · next hpath => exact .unnamed hinput (by rw [hpath]; rfl)
      · next path hpath =>
        split
        · next hempty => exact .unnamed hinput (by rw [hpath]; exact hempty)
        · next hne => exact does_runInput hinput hpath (by simpa using hne)
  | links =>
    rw [run]
    split
    · next htargets => exact .nothing htargets
    · next htargets => exact .links htargets
  | execute =>
    rw [run]
    split
    · next hcall => exact does_runCall hcall
    · next hcall => exact .nothing hcall
  | request =>
    rw [run]
    split
    · next hfetch => exact does_runFetch hfetch
    · next hfetch => exact .nothing hfetch
  | delay =>
    rw [run]
    split
    · next hseconds => exact does_runDelay hseconds
    · next hseconds => exact .nothing hseconds

end Directive

end Dialogue
