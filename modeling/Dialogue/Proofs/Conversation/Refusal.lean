import Dialogue.Proofs.Conversation.Session
/-!
# Calls that are refused

A host can call at any time, and what it may ask for depends on the status and on the loop. A call
that is refused leaves the whole session as it was, at a wait, in a delay, between two turns or
before the first start. A navigation moves the conversation and lets its row of steps start over, and
nothing that a host does afterwards gets in front of the step it leads to: the next loop begins with
this step, unless no step at all may run without the user.

## Main definitions

- `HostCall`, `Session.perform` — the calls of a host, and what they lead to
- `Conversation.Refuses` — the calls that are refused, each with its reason
- `Conversation.Meanwhile` — what a host may do besides starting and moving a conversation
- `Conversation.Aims` — a conversation that has been moved

## Main statements

- `Session.perform_of_refuses`, `Session.refuses_of_perform` — refused calls
- `Session.perform_navigate` — navigations
- `Conversation.Meanwhile.aims`, `Conversation.Aims.advance?_some` — what comes after a navigation
- `Session.refusals_change_nothing`
-/

namespace Dialogue

variable {σ : Type} {script : Script σ}

/-- A call that a host can make at any time. -/
inductive HostCall where
  | start
  /-- An input, and the host waits for what follows. -/
  | input (text : String)
  /-- An input, and the host goes on at once; it is ignored when nothing waits for it. -/
  | post (text : String)
  | navigate (target : Option Location)
  deriving DecidableEq, Repr

/-- What the host is told of a call that is refused. -/
def HostCall.answer (fault : CallFault) : HostCall → Except CallFault Unit
  | .post _ => .ok ()
  | _ => .error fault

/-- Make a call: what the host is told, and the session after it. -/
def Session.perform (s : Session σ) : HostCall → Except CallFault Unit × Session σ
  | .start => s.start
  | .input text => s.input text
  | .post text => (.ok (), s.post text)
  | .navigate target =>
    match s.navigate target with
    | .ok t => (.ok (), t)
    | .error fault => (.error fault, s)

namespace Conversation

variable {c d : Conversation σ} {target : Option Location}

/-- The calls that are refused, each with its reason. -/
inductive Refuses (script : Script σ) (c : Conversation σ) : HostCall → CallFault → Prop where
  | start (h : c.status ≠ .paused) : Refuses script c .start .alreadyRunning
  | input {text : String} (h : c.status ≠ .waitingInput) :
      Refuses script c (.input text) .notWaitingInput
  | post {text : String} (h : c.status ≠ .waitingInput) :
      Refuses script c (.post text) .notWaitingInput
  /-- The loop has not ended. -/
  | running {target : Option Location} (h : c.phase ≠ .off) :
      Refuses script c (.navigate target) .busy
  /-- The target is no step. -/
  | lost {l : Location} (hoff : c.phase = .off) (h : script.document.step? l = none) :
      Refuses script c (.navigate (some l)) (.invalidTarget l.text)

/-- A conversation that has been moved by its host. -/
def moved (c : Conversation σ) (target : Option Location) : Conversation σ :=
  { c with head := target, location := target, freeSteps := 0 }

/-! ### What the calls look at -/

theorem start_eq_error_iff (hsound : Sound script c) {fault : CallFault} :
    c.start = .error fault ↔ Refuses script c .start fault := by
  constructor
  · intro h
    unfold start at h
    split at h
    · next hbusy =>
      obtain rfl := Except.error.inj h
      refine .start fun hpaused => ?_
      -- A conversation that counts as paused has no loop.
      have hidle : c.isRunning = false := by rw [isRunning, hsound.off hpaused]; rfl
      simp [hidle, hpaused] at hbusy
    · cases h
  · intro h
    cases h with
    | start h => simp [start, h]

theorem input_eq_error_iff {text : String} {fault : CallFault} :
    c.input text = .error fault ↔ Refuses script c (.input text) fault := by
  constructor
  · intro h
    unfold input at h
    split at h
    · cases h
    · next hstatus =>
      obtain rfl := Except.error.inj h
      exact .input hstatus
  · intro h
    cases h with
    | input h => rw [Conversation.input, if_neg h]

theorem navigate_of_running (h : c.phase ≠ .off) (target : Option Location) :
    c.navigate script target = .error .busy := by
  have hphase : (c.phase != .off) = true := by
    by_contra hsame
    exact h (Phase.eq_off_of_bne (by simpa using hsame))
  rw [navigate, if_pos hphase]

theorem navigate_of_lost {l : Location} (hoff : c.phase = .off)
    (h : script.document.step? l = none) :
    c.navigate script (some l) = .error (.invalidTarget l.text) := by
  have hphase : (c.phase != .off) = false := by rw [hoff]; rfl
  simp [navigate, hphase, Document.navigate, h]

/-- **A navigation that is taken** changes the location and the row of steps, and nothing else. -/
theorem navigate_of_resolves (hoff : c.phase = .off)
    (h : ∀ l, target = some l → (script.document.step? l).isSome) :
    c.navigate script target = .ok (c.moved target) := by
  have hphase : (c.phase != .off) = false := by rw [hoff]; rfl
  cases target with
  | none => simp [navigate, hphase, Document.navigate, moved, place]
  | some l => simp [navigate, hphase, Document.navigate, h l rfl, moved, place]

theorem navigate_eq_error_iff {fault : CallFault} :
    c.navigate script target = .error fault ↔ Refuses script c (.navigate target) fault := by
  constructor
  · intro h
    by_cases hoff : c.phase = .off
    · by_cases hsteps : ∀ l, target = some l → (script.document.step? l).isSome
      · rw [navigate_of_resolves hoff hsteps] at h
        cases h
      · push Not at hsteps
        obtain ⟨l, rfl, hstep⟩ := hsteps
        have hlost : script.document.step? l = none := by simpa using hstep
        rw [navigate_of_lost hoff hlost] at h
        obtain rfl := Except.error.inj h
        exact .lost hoff hlost
    · rw [navigate_of_running hoff] at h
      obtain rfl := Except.error.inj h
      exact .running hoff
  · intro h
    cases h with
    | running h => exact navigate_of_running h target
    | lost hoff h => exact navigate_of_lost hoff h

/-! ### After a navigation -/

/-- What a host may do besides starting and moving a conversation. -/
inductive Meanwhile : Conversation σ → Conversation σ → Prop where
  | input {c d : Conversation σ} (text : String) (h : c.input text = .ok d) : Meanwhile c d
  | cancel (c : Conversation σ) : Meanwhile c c.cancel
  | markPaused {c : Conversation σ} (hphase : c.phase = .off) : Meanwhile c c.markPaused
  | exit (c : Conversation σ) : Meanwhile c (c.emit .exit)
  | write {c d : Conversation σ} {path : String} {value : Json}
      (h : c.setVariable path value = some d) : Meanwhile c d

/-- A conversation that has been moved to a target and has run no step since; its loop is over, or
about to begin. -/
structure Aims (target : Option Location) (phase : Phase) (c : Conversation σ) : Prop where
  head : c.head = target
  freeSteps : c.freeSteps = 0
  phase_eq : c.phase = phase
  idle : phase = .off ∨ phase = .ready

theorem aims_moved (hoff : c.phase = .off) (target : Option Location) :
    Aims target .off (c.moved target) :=
  ⟨rfl, rfl, hoff, .inl rfl⟩

namespace Aims

variable {phase : Phase}

/-- Whatever a host does meanwhile, the conversation is still about to begin at its target. -/
theorem meanwhile (h : Aims target phase c) (hstep : Meanwhile c d) : Aims target phase d := by
  cases hstep with
  | input text hinput =>
    obtain ⟨-, news, rfl, -⟩ := input_eq hinput
    exact ⟨h.head, h.freeSteps, h.phase_eq, h.idle⟩
  | cancel =>
    rcases cancel_eq c with hcancel | ⟨hbroken, -⟩ | hcancel
    · rwa [hcancel]
    · rcases h.idle with hidle | hidle <;>
      · rw [h.phase_eq, hidle] at hbroken
        cases hbroken
    · rw [hcancel]
      exact ⟨h.head, h.freeSteps, h.phase_eq, h.idle⟩
  | markPaused =>
    obtain ⟨news, hstatus, -⟩ := setStatus_eq c .paused
    rw [Conversation.markPaused, hstatus]
    exact ⟨h.head, h.freeSteps, h.phase_eq, h.idle⟩
  | exit => exact ⟨h.head, h.freeSteps, h.phase_eq, h.idle⟩
  | write hwrite =>
    obtain ⟨store, rfl⟩ := setVariable_eq hwrite
    exact ⟨h.head, h.freeSteps, h.phase_eq, h.idle⟩

/-- **However long the host goes on like this**, it is still so. -/
theorem meanwhiles (h : Aims target phase c) (hsteps : Relation.ReflTransGen Meanwhile c d) :
    Aims target phase d := by
  induction hsteps with
  | refl => exact h
  | tail _ hstep ih => exact ih.meanwhile hstep

theorem start (h : Aims target .off c) (hstart : c.start = .ok d) : Aims target .ready d := by
  obtain ⟨-, news, rfl, -⟩ := start_eq hstart
  exact ⟨h.head, h.freeSteps, rfl, .inr rfl⟩

/-- Without a target the loop begins by waiting for an input. -/
theorem advance?_none (h : Aims none .ready c) (hcancelled : c.cancelled = false) (now : Nat) :
    c.advance? script now = some { c.suspend .waitingInput with phase := .entering } := by
  simp [advance?, h.phase_eq, hcancelled, h.head]

/-- The freefall guard looks at nothing but the limit and the step. -/
theorem inFreefall_eq (h : Aims target phase c) (step : Step) :
    c.inFreefall script step =
      decide (script.settings.freefallLimit = 0 ∧ step.awaitsInput = false) := by
  simp [inFreefall, h.freeSteps, Bool.decide_and]

/-- **The loop begins with the target**: its turn is the one that opens. Only where no step may run
without the user, and the target is a step that cannot wait, a freefall is reported in its place. -/
theorem advance?_some {l : Location} {step : Step} (h : Aims (some l) .ready c)
    (hcancelled : c.cancelled = false) (hstep : script.document.step? l = some step) (now : Nat) :
    c.advance? script now = some (
      if script.settings.freefallLimit = 0 ∧ step.awaitsInput = false then
        (c.report (.freefall 0 (some l))).place none
      else c.carryOn script now (c.opening script step l).before script.directives
        (.ofStep step l (script.document.following? (some l)))) := by
  split
  · next hnone =>
    have hfall : c.inFreefall script step = true := by
      rw [h.inFreefall_eq]
      exact decide_eq_true hnone
    have hself : { c with freeSteps := 0 } = c := by rw [← h.freeSteps]
    have hbegin : c.advance? script now = some (c.beginStep script now l) := by
      simp [advance?, h.phase_eq, hcancelled, h.head]
    rw [hbegin, beginStep, hstep]
    dsimp only
    rw [if_pos hfall, hself, hnone.1]
  · next hsome =>
    have hfall : c.inFreefall script step = false := by
      rw [h.inFreefall_eq]
      exact decide_eq_false hsome
    exact advance?_of_ready h.phase_eq hcancelled h.head hstep hfall

end Aims

/-- The loop is about to begin. It has no choice but to take the step at the target from the top, or,
without a target, to wait for an input. -/
structure BeginsAt (script : Script σ) (target : Option Location) (c : Conversation σ) : Prop where
  head : c.head = target
  decided : ∀ now, Decided script now c
  waits : target = none → ∀ now,
    c.advance? script now = some { c.suspend .waitingInput with phase := .entering }
  takes : ∀ l, target = some l → ∃ step, script.document.step? l = some step ∧ ∀ now,
    c.advance? script now = some (
      if script.settings.freefallLimit = 0 ∧ step.awaitsInput = false then
        (c.report (.freefall 0 (some l))).place none
      else c.carryOn script now (c.opening script step l).before script.directives
        (.ofStep step l (script.document.following? (some l))))

theorem Aims.beginsAt (h : Aims target .ready c) (hcancelled : c.cancelled = false)
    (hsteps : ∀ l, target = some l → (script.document.step? l).isSome) :
    BeginsAt script target c where
  head := h.head
  decided _ := decided_of_ready h.phase_eq
  waits hnone := by
    subst hnone
    exact h.advance?_none hcancelled
  takes l hl := by
    subst hl
    obtain ⟨step, hstep⟩ := Option.isSome_iff_exists.1 (hsteps l rfl)
    exact ⟨step, hstep, h.advance?_some hcancelled hstep⟩

end Conversation

/-- The call that is made in the background. -/
def Call.Background.toHostCall : Call.Background → HostCall
  | .start => .start
  | .input text => .input text

namespace Session

open Conversation

variable {s : Session σ} {call : HostCall} {fault : CallFault}

theorem call_eq_error_iff (hc : Reachable script s.conversation) {call : Call.Background} :
    s.call call = .error fault ↔ Refuses script s.conversation call.toHostCall fault := by
  have hmap : ∀ result : Except CallFault (Conversation σ),
      result.map (fun c => (s.withConversation c).wake) = .error fault ↔ result = .error fault := by
    intro result
    cases result <;> simp [Except.map]
  cases call with
  | start => exact (hmap _).trans (start_eq_error_iff hc.sound)
  | input text => exact (hmap _).trans input_eq_error_iff

/-- A call that waits is refused before anything has happened. -/
theorem callAndWait_of_refuses (hc : Reachable s.script s.conversation) {call : Call.Background}
    (h : Refuses s.script s.conversation call.toHostCall fault) :
    s.callAndWait call = (.error fault, s) := by
  rw [callAndWait, (call_eq_error_iff hc).2 h]

/-- **A call that is refused** leaves the session as it was. -/
theorem perform_of_refuses (hc : Reachable s.script s.conversation)
    (h : Refuses s.script s.conversation call fault) : s.perform call = (call.answer fault, s) := by
  have hwaits : ∀ call : Call.Background, Refuses s.script s.conversation call.toHostCall fault →
      s.callAndWait call = (.error fault, s) := fun _ h => callAndWait_of_refuses hc h
  cases call with
  | start => exact hwaits .start h
  | input text => exact hwaits (.input text) h
  | post text =>
    have hinput : Refuses s.script s.conversation (Call.Background.input text).toHostCall fault := by
      cases h with
      | post h => exact .input h
    rw [perform, post, (call_eq_error_iff hc).2 hinput]
    rfl
  | navigate target =>
    rw [perform, Session.navigate, navigate_eq_error_iff.2 h]
    rfl

/-- **A call that fails** is one of those that are refused. -/
theorem refuses_of_perform (hc : Reachable s.script s.conversation)
    (h : (s.perform call).1 = .error fault) : Refuses s.script s.conversation call fault := by
  have hwaits : ∀ call : Call.Background, (s.callAndWait call).1 = .error fault →
      Refuses s.script s.conversation call.toHostCall fault := by
    intro call h
    rw [← call_eq_error_iff hc]
    unfold callAndWait at h
    dsimp only at h
    split at h
    · cases h
    · next heq => rw [heq, Except.error.inj h]
  cases call with
  | start => exact hwaits .start h
  | input text => exact hwaits (.input text) h
  | post text => cases h
  | navigate target =>
    rw [← navigate_eq_error_iff]
    rw [perform, Session.navigate] at h
    cases hnavigate : s.conversation.navigate s.script target with
    | ok c => rw [hnavigate] at h; cases h
    | error other => rw [hnavigate] at h; exact congrArg _ (Except.error.inj h)

/-- A navigation that is taken. -/
theorem perform_navigate {target : Option Location} (hoff : s.conversation.phase = .off)
    (h : ∀ l, target = some l → (s.script.document.step? l).isSome) :
    s.perform (.navigate target) = (.ok (), s.withConversation (s.conversation.moved target)) := by
  rw [perform, Session.navigate, navigate_of_resolves hoff h]
  rfl

/-- A call in the background that is refused leaves nothing behind but that it was. -/
theorem beginCall_of_refuses (hc : Reachable s.script s.conversation) {number : Nat}
    {call : Call.Background} (hcall : s.calls[number]? = some (.waiting call))
    (h : Refuses s.script s.conversation call.toHostCall fault) :
    s.beginCall number = { s with calls := s.calls.set! number (.refused fault) } := by
  rw [beginCall, hcall]
  dsimp only
  rw [(call_eq_error_iff hc).2 h]

/-- **Refused calls change nothing.** In every session whose conversation comes about, the calls that
fail are those that are refused: a start or a navigation while the loop runs, an input that nothing
waits for, and a navigation to what is no step. They leave the whole session as it was, as does an
input that is ignored; of a call in the background nothing is left but that it was refused. A
navigation that is taken changes the location and the row of steps alone, and whatever its host does
before and after the next start, the loop begins with the target. Only where no step may run without
the user, a target that cannot wait is not run, and a freefall is reported in its place. -/
theorem refusals_change_nothing (hc : Reachable s.script s.conversation) :
    (∀ call fault, (s.perform call).1 = .error fault →
      Refuses s.script s.conversation call fault) ∧
    (∀ call fault, Refuses s.script s.conversation call fault →
      s.perform call = (call.answer fault, s)) ∧
    (∀ number call fault, s.calls[number]? = some (.waiting call) →
      Refuses s.script s.conversation call.toHostCall fault →
      s.beginCall number = { s with calls := s.calls.set! number (.refused fault) }) ∧
    (s.conversation.phase ≠ .off → Refuses s.script s.conversation .start .alreadyRunning ∧
      ∀ target, Refuses s.script s.conversation (.navigate target) .busy) ∧
    ∀ target, s.conversation.phase = .off →
      (∀ l, target = some l → (s.script.document.step? l).isSome) →
      s.perform (.navigate target) = (.ok (), s.withConversation (s.conversation.moved target)) ∧
      ∀ before started c, Relation.ReflTransGen Meanwhile (s.conversation.moved target) before →
        before.start = .ok started → Relation.ReflTransGen Meanwhile started c →
        c.cancelled = false → BeginsAt s.script target c := by
  refine ⟨fun call fault => refuses_of_perform hc, fun call fault => perform_of_refuses hc,
    fun number call fault => beginCall_of_refuses hc, fun hrunning => ⟨.start ?_, fun target => ?_⟩,
    fun target hoff hsteps => ⟨perform_navigate hoff hsteps, ?_⟩⟩
  · exact fun hpaused => hrunning (hc.sound.off hpaused)
  · exact .running hrunning
  · intro before started c hbefore hstart hafter hcancelled
    have haims := (aims_moved hoff target).meanwhiles hbefore
    exact ((haims.start hstart).meanwhiles hafter).beginsAt hcancelled hsteps

/-- Inside a delay no call is taken; once the conversation is paused, a navigation is if it leads to
a step. -/
theorem refusals_change_nothing_inside :
    inside.perform .start = (.error .alreadyRunning, inside) ∧
      inside.perform (.post "stop") = (.ok (), inside) ∧
      inside.perform (.navigate none) = (.error .busy, inside) ∧
      inside.pause.perform (.navigate (some (.start "/exit"))) =
        (.error (.invalidTarget "/exit[0]"), inside.pause) ∧
      inside.pause.perform (.navigate (some (.start "/start"))) = (.ok (),
        inside.pause.withConversation (inside.pause.conversation.moved (some (.start "/start")))) := by
  have hreached : Reached airlock inside :=
    .sleep 0 (.post "go" (.input "stop" (.start (.initial _ _))))
  have hinside := hreached.sane
  have hpaused := hreached.pause.sane
  obtain ⟨-, hrefused, -, hrunning, -⟩ :=
    refusals_change_nothing (hinside.script_eq.symm ▸ hinside.reachable)
  obtain ⟨-, hlost, -, -, hmoved⟩ :=
    refusals_change_nothing (hpaused.script_eq.symm ▸ hpaused.reachable)
  have hphase : inside.conversation.phase ≠ .off := by
    intro hoff
    have hwaits : inside.conversation.phase.suspended?.isSome := by decide +kernel
    rw [hoff] at hwaits
    cases hwaits
  have hoff : inside.pause.conversation.phase = .off := Phase.eq_off_of_bne (by decide +kernel)
  obtain ⟨hstart, hbusy⟩ := hrunning hphase
  have hpost : Refuses inside.script inside.conversation (.post "stop") .notWaitingInput :=
    .post (by decide +kernel)
  have hexit : inside.pause.script.document.step? (.start "/exit") = none :=
    Option.isNone_iff_eq_none.1 (by decide +kernel)
  refine ⟨hrefused _ _ hstart, hrefused _ _ hpost, hrefused _ _ (hbusy none),
    hlost _ _ (.lost hoff hexit), (hmoved _ hoff fun l hl => ?_).1⟩
  obtain rfl := Option.some.inj hl
  decide +kernel

/-- A script that lets no step run without the user. -/
def standstill : Script Unit where
  document := { pages := [("/other", [{ message := some (.whole "elsewhere") }])] }
  settings := { freefallLimit := 0, recordOutputs := true }
  host := ⟨[], fun _ world => (.error "offline", world)⟩

/-- Where no step may run without the user, the loop does not begin with every target: the step that
the conversation was moved to prints nothing. -/
theorem not_always_taken :
    ¬ ∀ (script : Script Unit) (c d : Conversation Unit) (l : Location) (step : Step),
      Reachable script c → script.document.step? l = some step →
      c.navigate script (some l) = .ok (c.moved (some l)) → (c.moved (some l)).start = .ok d →
      d.advance? script 0 = some (d.carryOn script 0 (d.opening script step l).before
        script.directives (.ofStep step l (script.document.following? (some l)))) := by
  intro h
  have htaken := h standstill (.ofScript standstill .empty ()) _ (.start "/other") _
    (.initial .empty ()) rfl rfl rfl
  have hprinted := congrArg (Option.map (·.outputs)) htaken
  exact absurd hprinted (by decide +kernel)

end Session

end Dialogue
