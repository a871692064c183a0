import Dialogue.Proofs.Turn.Run
/-!
# The answer of a turn

A directive may read the answer of the user. Then it goes on with the answer if it is there, gives way
if the turn is interrupted, and asks if there is neither; a directive that does not read the answer
goes on anyway. What asking has given stays, whatever is done with the turn by hand.

## Main definitions

- `Turn.heed` — what the prompt has given becomes the answer
- `Directive.Reads` — the directives that read the answer
- `Deed`, `Turn.performAll` — what can be done with a turn by hand

## Main statements

- `Directive.run_cases` — what a directive does about the answer
- `Turn.ask_performAll` — what asking has given it gives again
-/

namespace Dialogue

variable {σ : Type} {host : Host σ}

/-! ### The answer of a turn -/

namespace Reply

/-- What the prompt has given. -/
def ofAnswer : Except Interruption String → Reply
  | .ok input => .text input
  | .error reason => .interrupted reason

theorem ofAnswer_inj {answer answer' : Except Interruption String}
    (h : ofAnswer answer = ofAnswer answer') : answer = answer' := by
  cases answer <;> cases answer' <;> cases h <;> rfl

theorem ofAnswer_ne_pending (answer : Except Interruption String) : ofAnswer answer ≠ .pending := by
  cases answer <;> exact (by cases ·)

end Reply

namespace Turn

variable {turn : Turn}

/-- Note what the prompt has given. -/
def heed (turn : Turn) : Except Interruption String → Turn
  | .ok text => turn.receive text
  | .error reason => turn.interrupt reason

/-- The turn before its prompt is consulted. -/
def unanswered (turn : Turn) : Turn :=
  { turn with input := none, interrupted := none, inputRequested := false }

theorem reply_pending_iff : turn.reply = .pending ↔ turn.input = none ∧ turn.interrupted = none := by
  unfold reply
  cases turn.input <;> cases turn.interrupted <;> simp

/-- What a turn has of its answer depends on two of its parts. -/
theorem reply_congr {turn' : Turn} (hinput : turn'.input = turn.input)
    (hinterrupted : turn'.interrupted = turn.interrupted) : turn'.reply = turn.reply := by
  unfold reply
  rw [hinput, hinterrupted]

/-- What the prompt has given is the answer from then on. -/
theorem reply_heed (h : turn.reply = .pending) (answer : Except Interruption String) :
    (turn.request.heed answer).reply = .ofAnswer answer := by
  obtain ⟨hinput, hinterrupted⟩ := reply_pending_iff.1 h
  cases answer <;> simp [heed, request, receive, interrupt, reply, Reply.ofAnswer, hinput,
    hinterrupted]

theorem interrupted_of_reply {reason : Interruption} (h : turn.reply = .interrupted reason) :
    turn.interrupted = some reason := by
  unfold reply at h
  split at h
  · cases h
  · next hinterrupted =>
    rw [hinterrupted, Reply.interrupted.inj h]
  · cases h

end Turn

/-! ### One directive -/

namespace Directive

variable {directive : Directive} {turn : Turn} {scene : Scene σ}

/-- The directive reads the answer: it would ask if there was none. -/
def Reads (host : Host σ) (directive : Directive) (turn : Turn) (scene : Scene σ) : Prop :=
  (directive.run host turn.unanswered scene).1 = .ask

/-- A directive that neither asks nor gives way; when it waits for a while it does nothing else. -/
structure GoesOn (turn : Turn) (scene : Scene σ) (r : Result σ) : Prop where
  not_ask : r.1 ≠ .ask
  not_halt : r.1 ≠ .halt
  rest : ∀ d, r.1 = .rest d → r.2 = (turn, scene)

/-- How a directive depends on the answer. -/
inductive Uses (host : Host σ) (directive : Directive) (turn : Turn) (scene : Scene σ) : Prop where
  /-- The answer is read. -/
  | answer (hreads : Reads host directive turn scene) (use : String → Result σ)
      (hrun : directive.run host turn scene = withInput turn scene use)
      (huse : ∀ text, GoesOn turn scene (use text))
  /-- The answer is not looked at. -/
  | nothing (hreads : ¬ Reads host directive turn scene)
      (hrun : GoesOn turn scene (directive.run host turn scene))

/-- A directive that goes on whatever the answer is. -/
theorem Uses.of_blind (h : ∀ t : Turn, t.step = turn.step → t.location = turn.location →
    GoesOn t scene (directive.run host t scene)) :
    Uses host directive turn scene :=
  .nothing (h turn.unanswered rfl rfl).not_ask (h turn rfl rfl)

/-- A directive that goes on with the answer. -/
theorem Uses.of_reading (use : Turn → String → Result σ)
    (h : ∀ t : Turn, t.step = turn.step → t.location = turn.location →
      directive.run host t scene = withInput t scene (use t))
    (huse : ∀ text, GoesOn turn scene (use turn text)) :
    Uses host directive turn scene :=
  .answer (by rw [Reads, h turn.unanswered rfl rfl]; rfl) (use turn) (h turn rfl rfl) huse

theorem goesOn_proceed (turn' : Turn) (scene' : Scene σ) :
    GoesOn turn scene (proceed turn' scene') := ⟨nofun, nofun, nofun⟩

theorem goesOn_fail (fault : Fault) (turn' : Turn) (scene' : Scene σ) :
    GoesOn turn scene (fail fault turn' scene') := ⟨nofun, nofun, nofun⟩

theorem goesOn_goTo (target : String) (turn' : Turn) (scene' : Scene σ) :
    GoesOn turn scene (goTo target turn' scene') := by
  unfold goTo
  split
  · exact goesOn_proceed _ _
  · exact goesOn_fail _ _ _

theorem uses_links : Uses host .links turn scene := by
  cases htargets : turn.step.links with
  | none =>
    refine .of_blind fun t hstep _ => ?_
    rw [run, hstep, htargets]
    exact goesOn_proceed _ _
  | some targets =>
    apply Uses.of_reading
    case h =>
      intro t hstep _
      simp only [run, hstep, htargets]
      rfl
    case huse =>
      intro text
      split
      · exact goesOn_goTo _ _ _
      · exact goesOn_proceed _ _

/-- An input directive that has a variable. -/
theorem uses_runInput {input : Input} {path : String}
    (hrun : ∀ t : Turn, t.step = turn.step → run host .input t scene = runInput input path t scene) :
    Uses host .input turn scene := by
  cases hkind : input.kind with
  | set =>
    refine .of_blind fun t hstep _ => ?_
    rw [hrun t hstep, runInput, hkind]
    exact goesOn_proceed _ _
  | choice =>
    cases hchoices : input.choices with
    | none =>
      refine .of_blind fun t hstep _ => ?_
      rw [hrun t hstep, runInput, hkind, hchoices]
      exact goesOn_fail _ _ _
    | some choices =>
      apply Uses.of_reading
      case h =>
        intro t hstep _
        simp only [hrun t hstep, runInput, hkind, hchoices]
        rfl
      case huse =>
        intro text
        split <;> exact goesOn_proceed _ _
  | text =>
    cases hpattern : inputPattern input turn.location with
    | error fault =>
      refine .of_blind fun t hstep hlocation => ?_
      rw [hrun t hstep, runInput, hkind, hlocation, hpattern]
      exact goesOn_fail _ _ _
    | ok pattern =>
      apply Uses.of_reading
      case h =>
        intro t hstep hlocation
        simp only [hrun t hstep, runInput, hkind, hlocation, hpattern]
        rfl
      case huse =>
        intro text
        split <;> exact goesOn_proceed _ _

theorem uses_input : Uses host .input turn scene := by
  cases hinput : turn.step.input with
  | none =>
    refine .of_blind fun t hstep _ => ?_
    rw [run, hstep, hinput]
    exact goesOn_proceed _ _
  | some input =>
    cases hpath : input.variablePath with
    | none =>
      refine .of_blind fun t hstep _ => ?_
      simp only [run, hstep, hinput, hpath]
      exact goesOn_fail _ _ _
    | some path =>
      cases hempty : path.isEmpty with
      | true =>
        refine .of_blind fun t hstep _ => ?_
        simp only [run, hstep, hinput, hpath, hempty, if_true]
        exact goesOn_fail _ _ _
      | false =>
        have hcheck : ∀ t : Turn, t.step = turn.step →
            run host .input t scene = runInput input path t scene := by
          intro t hstep
          simp only [run, hstep, hinput, hpath, hempty, Bool.false_eq_true, if_false]
        exact uses_runInput hcheck

/-- **Only inputs and links look at the answer.** Every other directive goes on anyway. -/
theorem Does.goesOn {r : Result σ} (h : Does host turn scene directive r) (hinput : directive ≠ .input)
    (hlinks : directive ≠ .links) : GoesOn turn scene r := by
  cases h with
  | next | diverted => exact goesOn_goTo _ _ _
  | unnamed | set | unlisted | choice | unreadable | text => exact absurd rfl hinput
  | links => exact absurd rfl hlinks
  | rest => exact ⟨nofun, nofun, fun _ _ => rfl⟩
  | uncountable => exact goesOn_fail _ _ _
  | _ => exact goesOn_proceed _ _

theorem goesOn_run (host : Host σ) (turn : Turn) (scene : Scene σ) (hinput : directive ≠ .input)
    (hlinks : directive ≠ .links) : GoesOn turn scene (directive.run host turn scene) :=
  (run_does host directive turn scene).goesOn hinput hlinks

/-- **How every directive depends on the answer.** -/
theorem run_uses (host : Host σ) (directive : Directive) (turn : Turn) (scene : Scene σ) :
    Uses host directive turn scene := by
  by_cases hinput : directive = .input
  · exact hinput ▸ uses_input
  · by_cases hlinks : directive = .links
    · exact hlinks ▸ uses_links
    · exact .of_blind fun t _ _ => goesOn_run host t scene hinput hlinks

/-- **What a directive does about the answer**: it goes on, or there is none and it asks, or gives
way to an interruption. -/
theorem run_cases (host : Host σ) (directive : Directive) (turn : Turn) (scene : Scene σ) :
    (GoesOn turn scene (directive.run host turn scene) ∧
        (Reads host directive turn scene → ∃ text, turn.reply = .text text)) ∨
      Reads host directive turn scene ∧
        ((∃ reason, turn.reply = .interrupted reason) ∧
            directive.run host turn scene = (.halt, turn, scene) ∨
          turn.reply = .pending ∧ directive.run host turn scene = (.ask, turn.request, scene)) := by
  rcases directive.run_uses host turn scene with ⟨hreads, use, hrun, huse⟩ | ⟨hblind, hgoes⟩
  · rw [hrun, withInput]
    cases hreply : turn.reply with
    | text answer => exact .inl ⟨huse answer, fun _ => ⟨answer, rfl⟩⟩
    | interrupted reason => exact .inr ⟨hreads, .inl ⟨⟨reason, rfl⟩, rfl⟩⟩
    | pending => exact .inr ⟨hreads, .inr ⟨rfl, rfl⟩⟩
  · exact .inl ⟨hgoes, fun hreads => absurd hreads hblind⟩

variable {turn' : Turn} {scene' : Scene σ}

/-- A directive asks only when it reads the answer and there is none, and does nothing else then. -/
theorem run_ask (h : directive.run host turn scene = (.ask, turn', scene')) :
    turn.reply = .pending ∧ Reads host directive turn scene ∧ turn' = turn.request ∧
      scene' = scene := by
  rcases directive.run_cases host turn scene with
    ⟨hgoes, -⟩ | ⟨hreads, ⟨-, hhalt⟩ | ⟨hpending, hask⟩⟩
  · exact absurd (by rw [h]) hgoes.not_ask
  · cases hhalt.symm.trans h
  · cases hask.symm.trans h
    exact ⟨hpending, hreads, rfl, rfl⟩

/-- A directive that waits for a while does nothing else. -/
theorem run_rest {d : Duration} (h : directive.run host turn scene = (.rest d, turn', scene')) :
    turn' = turn ∧ scene' = scene := by
  rcases directive.run_cases host turn scene with ⟨hgoes, -⟩ | ⟨-, ⟨-, hhalt⟩ | ⟨-, hask⟩⟩
  · have hsame := hgoes.rest d (by rw [h])
    rw [h] at hsame
    exact Prod.mk.inj hsame
  · cases hhalt.symm.trans h
  · cases hask.symm.trans h

end Directive

/-! ### By hand -/

/-- What can be done with the answer of a turn. -/
inductive Deed where
  | ask
  | accept
  | reject (message : String)
  | interrupt (reason : Interruption)
  deriving DecidableEq, Repr

/-- Why the answer is not taken. -/
def Deed.rejection? : Deed → Option String
  | .reject message => some message
  | _ => none

namespace Turn

variable {turn : Turn}

/-- Asking for an answer that is not there consults the prompt. -/
theorem ask_of_pending (h : turn.reply = .pending) (prompt : Prompt) :
    turn.ask prompt = (prompt.take.1, turn.request.heed prompt.take.1, prompt.take.2) := by
  rw [ask, h]
  obtain ⟨answer, prompt', htake⟩ : ∃ answer prompt', prompt.take = (answer, prompt') :=
    ⟨_, _, rfl⟩
  rw [htake]
  cases answer <;> rfl

/-- An answer that is there is given again. -/
theorem ask_of_settled (h : turn.reply ≠ .pending) (prompt : Prompt) :
    ∃ answer, turn.reply = .ofAnswer answer ∧ turn.ask prompt = (answer, turn, prompt) := by
  unfold ask
  cases hreply : turn.reply with
  | text input => exact ⟨.ok input, rfl, rfl⟩
  | interrupted reason => exact ⟨.error reason, rfl, rfl⟩
  | pending => exact absurd hreply h

/-- A turn and its prompt after a deed. -/
def perform (state : Turn × Prompt) : Deed → Turn × Prompt
  | .ask => (state.1.ask state.2).2
  | .accept => (state.1.accept, state.2)
  | .reject message => (state.1.reject message, state.2)
  | .interrupt reason => (state.1.interrupt reason, state.2)

/-- A turn and its prompt after a row of deeds. -/
def performAll (deeds : List Deed) (state : Turn × Prompt) : Turn × Prompt :=
  deeds.foldl perform state

/-- What every deed keeps a row of deeds keeps. -/
theorem performAll_keeps {p : Turn → Prop}
    (hkeeps : ∀ state : Turn × Prompt, p state.1 → ∀ deed, p (perform state deed).1)
    {state : Turn × Prompt} (h : p state.1) (deeds : List Deed) : p (performAll deeds state).1 := by
  induction deeds generalizing state with
  | nil => exact h
  | cons deed rest ih => exact ih (hkeeps state h deed)

/-- An answer that is there stays, whatever is done. -/
theorem reply_perform {state : Turn × Prompt} (h : state.1.reply ≠ .pending) (deed : Deed) :
    (perform state deed).1.reply = state.1.reply := by
  obtain ⟨turn, prompt⟩ := state
  cases deed with
  | ask =>
    obtain ⟨answer, -, hask⟩ := ask_of_settled h prompt
    rw [perform, hask]
  | accept => rfl
  | reject message => rfl
  | interrupt reason =>
    show (turn.interrupt reason).reply = turn.reply
    unfold interrupt reply
    cases hinput : turn.input with
    | some text => rfl
    | none =>
      cases hinterrupted : turn.interrupted with
      | some first => rfl
      | none => exact absurd (reply_pending_iff.2 ⟨hinput, hinterrupted⟩) h

theorem reply_performAll {state : Turn × Prompt} (h : state.1.reply ≠ .pending)
    (deeds : List Deed) : (performAll deeds state).1.reply = state.1.reply :=
  performAll_keeps (p := fun turn => turn.reply = state.1.reply)
    (fun _ hsame deed => (reply_perform (hsame ▸ h) deed).trans hsame) rfl deeds

/-- **Whatever asking gives it gives again**, after any deeds, and the prompt is not consulted. -/
theorem ask_performAll (turn : Turn) (prompt : Prompt) (deeds : List Deed) :
    let later := performAll deeds (turn.ask prompt).2
    later.1.ask later.2 = ((turn.ask prompt).1, later) := by
  -- What asking gives is from then on the answer of the turn.
  have hgiven : (turn.ask prompt).2.1.reply = .ofAnswer (turn.ask prompt).1 := by
    by_cases hpending : turn.reply = .pending
    · rw [ask_of_pending hpending]
      exact reply_heed hpending _
    · obtain ⟨answer, hreply, hask⟩ := ask_of_settled hpending prompt
      rw [hask, hreply]
  dsimp only
  generalize (turn.ask prompt).1 = answer at hgiven ⊢
  generalize (turn.ask prompt).2 = state at hgiven ⊢
  have hsettled : state.1.reply ≠ .pending := hgiven ▸ Reply.ofAnswer_ne_pending answer
  have hlater := reply_performAll hsettled deeds
  obtain ⟨answer', hreply, hask⟩ := ask_of_settled (hlater ▸ hsettled) (performAll deeds state).2
  rw [hask, Reply.ofAnswer_inj (hreply.symm.trans (hlater.trans hgiven))]

/-- A first interruption is never replaced. -/
theorem interrupted_perform {state : Turn × Prompt} {reason : Interruption}
    (h : state.1.interrupted = some reason) (deed : Deed) :
    (perform state deed).1.interrupted = some reason := by
  obtain ⟨turn, prompt⟩ := state
  cases deed with
  | ask =>
    have hsettled : turn.reply ≠ .pending := fun hpending => by
      cases (reply_pending_iff.1 hpending).2.symm.trans h
    obtain ⟨answer, -, hask⟩ := ask_of_settled hsettled prompt
    rw [perform, hask]
    exact h
  | accept => exact h
  | reject message => exact h
  | interrupt reason' => exact (congrArg (·.or (some reason')) h : _)

/-- Asking leaves alone whether the answer is taken. -/
theorem ask_keeps (turn : Turn) (prompt : Prompt) :
    (turn.ask prompt).2.1.inputStatus = turn.inputStatus ∧
      (turn.ask prompt).2.1.rejection = turn.rejection := by
  by_cases hpending : turn.reply = .pending
  · rw [ask_of_pending hpending]
    cases prompt.take.1 <;> exact ⟨rfl, rfl⟩
  · obtain ⟨answer, -, hask⟩ := ask_of_settled hpending prompt
    rw [hask]
    exact ⟨rfl, rfl⟩

/-- An answer that is taken stays taken. -/
theorem accepted_perform {state : Turn × Prompt} (h : state.1.inputStatus = .accepted) (deed : Deed) :
    (perform state deed).1.inputStatus = .accepted := by
  cases deed with
  | ask => exact (ask_keeps state.1 state.2).1.trans h
  | accept => rfl
  | reject message => exact if_pos h
  | interrupt reason => exact h

/-- The last message is kept. -/
theorem rejection_perform (state : Turn × Prompt) (deed : Deed) :
    (perform state deed).1.rejection = deed.rejection?.or state.1.rejection := by
  cases deed with
  | ask => exact (ask_keeps state.1 state.2).2
  | accept => rfl
  | reject message => rfl
  | interrupt reason => rfl

theorem rejection_performAll (deeds : List Deed) (state : Turn × Prompt) :
    (performAll deeds state).1.rejection =
      ((deeds.filterMap Deed.rejection?).getLast?).or state.1.rejection := by
  induction deeds generalizing state with
  | nil => rfl
  | cons deed rest ih =>
    rw [performAll, List.foldl_cons, ← performAll, ih, rejection_perform, List.filterMap_cons]
    cases deed.rejection? with
    | none => rfl
    | some message =>
      rw [List.getLast?_cons]
      cases (rest.filterMap Deed.rejection?).getLast? <;> rfl

end Turn

end Dialogue
