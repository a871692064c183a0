import Dialogue.Proofs.Conversation.Reachable
/-!
# How long a conversation runs without handing control back

While the loop does not hand control back, the turns it completes without having asked the user are
bounded: by the limit of the settings, if the steps that may wait for the user are not counted. Such
a step always gets to run, and when its branch leads elsewhere or a directive before its wait fails,
it is completed without a wait. Only where every step that may wait is sure to ask does the limit
bound all turns; a step that may wait and never does keeps the loop running for good.

## Main definitions

- `Conversation.Stretch` — a part of a run in which control is not handed back
- `freeTurns`, `exemptTurns` — the turns completed without asking, and those of steps that may wait
- `Conversation.Paced` — what holds all along a stretch

## Main statements

- `Conversation.Stretch.paced`
- `Conversation.freeTurns_le` — the bound
- `Conversation.not_freeTurns_bounded` — a document on which the loop never hands control back
-/

namespace Dialogue

variable {σ : Type} {script : Script σ} {clock : Nat}

/-- The turns that small steps complete. -/
def completedTurns (labels : List (Option Turn)) : List Turn := labels.filterMap id

/-- How many turns are completed without having asked the user. -/
def freeTurns (labels : List (Option Turn)) : Nat :=
  (completedTurns labels).countP (!·.inputRequested)

/-- How many turns of steps that may wait are completed without having asked the user. -/
def exemptTurns (script : Script σ) (labels : List (Option Turn)) : Nat :=
  (completedTurns labels).countP fun turn => !turn.inputRequested && script.mayAsk turn.location

/-- How many turns of steps that cannot wait are completed without having asked the user. -/
def guardedTurns (script : Script σ) (labels : List (Option Turn)) : Nat :=
  (completedTurns labels).countP fun turn => !turn.inputRequested && !script.mayAsk turn.location

/-- How many turns are completed that have asked the user. -/
def askedTurns (labels : List (Option Turn)) : Nat :=
  (completedTurns labels).countP (·.inputRequested)

@[simp] theorem completedTurns_concat_none (labels : List (Option Turn)) :
    completedTurns (labels ++ [none]) = completedTurns labels := by
  simp [completedTurns]

@[simp] theorem completedTurns_concat_some (labels : List (Option Turn)) (turn : Turn) :
    completedTurns (labels ++ [some turn]) = completedTurns labels ++ [turn] := by
  simp [completedTurns]

@[simp] theorem askedTurns_concat (labels : List (Option Turn)) (turn : Turn) :
    askedTurns (labels ++ [some turn]) =
      askedTurns labels + if turn.inputRequested then 1 else 0 := by
  simp [askedTurns]

@[simp] theorem guardedTurns_concat (script : Script σ) (labels : List (Option Turn)) (turn : Turn) :
    guardedTurns script (labels ++ [some turn]) = guardedTurns script labels +
      if !turn.inputRequested && !script.mayAsk turn.location then 1 else 0 := by
  simp [guardedTurns]

/-- Turns without a question are of steps that may wait or of steps that cannot. -/
theorem freeTurns_eq (script : Script σ) (labels : List (Option Turn)) :
    freeTurns labels = guardedTurns script labels + exemptTurns script labels := by
  unfold freeTurns guardedTurns exemptTurns
  induction completedTurns labels with
  | nil => rfl
  | cons turn rest ih =>
    simp only [List.countP_cons, ih]
    cases turn.inputRequested <;> cases script.mayAsk turn.location <;> simp <;> omega

/-- A completed turn has asked or has not. -/
theorem length_completedTurns (labels : List (Option Turn)) :
    (completedTurns labels).length = askedTurns labels + freeTurns labels := by
  simpa [askedTurns, freeTurns] using
    @List.length_eq_countP_add_countP Turn (·.inputRequested) (completedTurns labels)

namespace Conversation

/-- A part of a run in which the loop does not hand control back, with the labels of its small steps.
The host may make calls and write variables all along. -/
inductive Stretch (script : Script σ) (c : Conversation σ) :
    List (Option Turn) → Conversation σ → Prop where
  | refl : Stretch script c [] c
  | loop {labels : List (Option Turn)} {d e : Conversation σ} {clock : Nat} {label : Option Turn}
      (h : Stretch script c labels d) (hstep : Advances script clock d label e)
      (hyields : e.yields = d.yields) : Stretch script c (labels ++ [label]) e
  | call {labels : List (Option Turn)} {d e : Conversation σ} (h : Stretch script c labels d)
      (hcall : Calls script d e) : Stretch script c labels e
  | write {labels : List (Option Turn)} {d e : Conversation σ} {path : String} {value : Json}
      (h : Stretch script c labels d) (hwrite : d.setVariable path value = some e) :
      Stretch script c labels e

/-- A stretch leads to states that come about. -/
theorem Stretch.reachable {c d : Conversation σ} {labels : List (Option Turn)}
    (h : Stretch script c labels d) (hc : Reachable script c) : Reachable script d := by
  induction h with
  | refl => exact hc
  | loop _ hstep _ ih => exact ih.loop hstep
  | call _ hcall ih => exact ih.call hcall
  | write _ hwrite ih => exact ih.write hwrite

/-- How many small steps a phase allows for on top of those of complete turns. -/
def spent (script : Script σ) (c : Conversation σ) : Nat :=
  match c.phase with
  | .ready => if c.cancelled || c.head.isNone then script.directives.length + 3 else 2
  | .asking _ none => 1
  | .resting turn _ => script.directives.length - turn.left.length + 2
  | _ => 0

/-- Once a turn is completed, the loop goes on with a count of free steps that is at least `n`, or
has no step to go on with. -/
def GoesOn (n : Nat) (c : Conversation σ) : Prop :=
  match c.phase with
  | .ready => c.head = none ∨ n ≤ c.freeSteps
  | .resting turn _ => n ≤ c.freeSteps ∧ turn.turn.inputRequested = false
  | _ => False

/-- What holds all along a stretch. -/
structure Paced (script : Script σ) (labels : List (Option Turn)) (c : Conversation σ) : Prop where
  guarded_le : guardedTurns script labels ≤ script.settings.freefallLimit
  asked_le : askedTurns labels ≤ 1
  goesOn : completedTurns labels ≠ [] → c.GoesOn (guardedTurns script labels)
  length_le : labels.length ≤
    (completedTurns labels).length * (script.directives.length + 1) + c.spent script

theorem two_le_spent (script : Script σ) {c : Conversation σ} (h : c.phase = .ready) :
    2 ≤ c.spent script := by
  unfold spent
  rw [h]
  dsimp only
  split <;> omega

/-- A turn that waits is not the first one when the loop goes on. -/
theorem GoesOn.le_freeSteps {c : Conversation σ} {n : Nat} {turn : Suspended} (h : c.GoesOn n)
    (hphase : c.phase.suspended? = some turn) : n ≤ c.freeSteps := by
  unfold GoesOn at h
  split at h
  · next hready =>
    rw [hready] at hphase
    cases hphase
  · exact h.1
  · exact h.elim

theorem spent_le_of_suspended (script : Script σ) {c : Conversation σ} {turn : Suspended}
    (hphase : c.phase.suspended? = some turn) :
    c.spent script ≤ script.directives.length + 2 := by
  unfold spent
  split
  · next hready =>
    rw [hready] at hphase
    cases hphase
  all_goals omega

theorem spent_le_cancelled (script : Script σ) (c : Conversation σ) :
    c.spent script ≤ spent script { c with cancelled := true } := by
  unfold spent
  cases c.phase with
  | ready =>
    dsimp only
    split <;> simp
  | asking turn deadline => cases deadline <;> exact Nat.le_refl _
  | _ => exact Nat.le_refl _

/-- Before a turn is taken up, its phase has allowed for no more than the directives it has behind
it. -/
theorem Resumes.spent_le {c d : Conversation σ} {turn : Suspended}
    (h : Resumes script clock c turn d) :
    c.spent script ≤ script.directives.length - turn.left.length + 2 := by
  unfold spent
  cases h with
  | begin hphase hcancelled hhead hstep hfall =>
    simp [hphase, hcancelled, hhead]
  | @answer turn deadline text rest hphase hqueue =>
    rw [hphase]
    cases deadline <;> simp
  | wake hphase htime => simp only [hphase, Nat.le_refl]

/-- After a completed turn, the next one that is taken up was not asked for. -/
theorem Resumes.of_goesOn {c d : Conversation σ} {turn : Suspended} {n : Nat}
    (h : Resumes script clock c turn d) (hgoes : c.GoesOn n) :
    n ≤ c.freeSteps ∧ turn.turn.inputRequested = false := by
  unfold GoesOn at hgoes
  cases h with
  | begin hphase hcancelled hhead hstep hfall =>
    rw [hphase, hhead] at hgoes
    exact ⟨hgoes.resolve_left (by simp), rfl⟩
  | answer hphase hqueue =>
    rw [hphase] at hgoes
    exact hgoes.elim
  | wake hphase htime => rwa [hphase] at hgoes

/-- A small step that completes no turn. -/
theorem Paced.quiet {c c' : Conversation σ} {labels : List (Option Turn)}
    (hp : Paced script labels c)
    (hgoes : c.GoesOn (guardedTurns script labels) → c'.GoesOn (guardedTurns script labels))
    (hspent : c.spent script + 1 ≤ c'.spent script) : Paced script (labels ++ [none]) c' where
  guarded_le := by simpa [guardedTurns] using hp.guarded_le
  asked_le := by simpa [askedTurns] using hp.asked_le
  goesOn h := by
    rw [completedTurns_concat_none] at h
    simpa [guardedTurns] using hgoes (hp.goesOn h)
  length_le := by
    have hlength := hp.length_le
    rw [completedTurns_concat_none, List.length_append, List.length_singleton]
    omega

/-- A small step that completes a turn, but for the counts. -/
theorem Paced.length_completed_le {c d c' : Conversation σ} {labels : List (Option Turn)}
    {turn : Suspended} (hp : Paced script labels c) (h : Resumes script clock c turn d) (after : Turn)
    (hphase : c'.phase = .ready) : (labels ++ [some after]).length ≤
      (completedTurns (labels ++ [some after])).length * (script.directives.length + 1) +
        c'.spent script := by
  have hlength := hp.length_le
  have hbefore := h.spent_le
  have hspent := two_le_spent script hphase
  rw [completedTurns_concat_some, List.length_append, List.length_append, List.length_singleton,
    List.length_singleton, Nat.add_mul]
  omega

/-- A small step that completes a turn which has asked the user: before the stretch began, so this
is its first turn. -/
theorem Paced.completed_asked {c d c' : Conversation σ} {labels : List (Option Turn)}
    {turn : Suspended} {after : Turn} (hp : Paced script labels c) (h : Resumes script clock c turn d)
    (hasked : turn.turn.inputRequested) (hafter : after.inputRequested) (hphase : c'.phase = .ready) :
    Paced script (labels ++ [some after]) c' := by
  -- A turn that had asked before it was taken up cannot follow a completed one.
  have hnil : completedTurns labels = [] := by
    cases hturns : completedTurns labels with
    | nil => rfl
    | cons =>
      have hnot := (h.of_goesOn (hp.goesOn (by simp [hturns]))).2
      rw [hasked] at hnot
      cases hnot
  have hguarded : guardedTurns script (labels ++ [some after]) = 0 := by
    simp [guardedTurns, hnil, hafter]
  refine ⟨by omega, ?_, fun _ => ?_, hp.length_completed_le h after hphase⟩
  · simp [askedTurns, hnil, hafter]
  · rw [hguarded, GoesOn, hphase]
    exact .inr (Nat.zero_le _)

/-- A small step that completes a turn which has not asked the user. -/
theorem Paced.completed_free {c d c' : Conversation σ} {labels : List (Option Turn)}
    {turn : Suspended} {after : Turn} (hp : Paced script labels c) (h : Resumes script clock c turn d)
    (hlet : script.mayAsk after.location ∨ c.freeSteps < script.settings.freefallLimit)
    (hafter : after.inputRequested = false) (hphase : c'.phase = .ready)
    (hfree : c'.freeSteps = c.freeSteps + 1) : Paced script (labels ++ [some after]) c' := by
  have hcount : guardedTurns script labels ≤ c.freeSteps := by
    cases hturns : completedTurns labels with
    | nil => simp [guardedTurns, hturns]
    | cons => exact (h.of_goesOn (hp.goesOn (by simp [hturns]))).1
  have hguarded := guardedTurns_concat script labels after
  have hle : guardedTurns script (labels ++ [some after]) ≤ script.settings.freefallLimit ∧
      guardedTurns script (labels ++ [some after]) ≤ c'.freeSteps := by
    have hlimit := hp.guarded_le
    rw [hafter] at hguarded
    -- Only a turn of a step that cannot wait is counted, and such a turn was let to run below the limit.
    cases hmay : script.mayAsk after.location with
    | true =>
      rw [hmay] at hguarded
      simp only [Bool.not_true, Bool.and_false, Bool.false_eq_true, if_false] at hguarded
      omega
    | false =>
      have hbelow := hlet.resolve_left (by simp [hmay])
      rw [hmay] at hguarded
      simp only [Bool.not_false, Bool.and_self, if_true] at hguarded
      omega
  refine ⟨hle.1, ?_, fun _ => ?_, hp.length_completed_le h after hphase⟩
  · simpa [hafter] using hp.asked_le
  · rw [GoesOn, hphase]
    exact .inr hle.2

/-- **A small step that does not hand control back keeps the pace.** -/
theorem Advances.paced {c c' : Conversation σ} {label : Option Turn} {labels : List (Option Turn)}
    (h : Advances script clock c label c') (hc : Sound script c) (hp : Paced script labels c)
    (hyields : c'.yields = c.yields) : Paced script (labels ++ [label]) c' := by
  cases h with
  | stop hphase hcancelled =>
    obtain ⟨news, hend, -⟩ := endLoop_eq c
    rw [hend] at hyields
    exact absurd hyields (Nat.succ_ne_self _)
  | wait hphase hcancelled hhead =>
    obtain ⟨news, hsuspend, -⟩ := suspend_eq c .waitingInput
    rw [hsuspend] at hyields
    exact absurd hyields (Nat.succ_ne_self _)
  | lost hphase hcancelled hhead hstep =>
    refine hp.quiet (fun _ => ?_) ?_
    · simp [GoesOn, report, emit, place, hphase]
    · simp [spent, report, emit, place, hphase, hcancelled, hhead]
  | freefall hphase hcancelled hhead hstep hfall =>
    refine hp.quiet (fun _ => ?_) ?_
    · simp [GoesOn, report, emit, place, hphase]
    · simp [spent, report, emit, place, hphase, hcancelled, hhead]
  | @enter text rest hphase hqueue =>
    obtain ⟨head, location, freeSteps, inputs, news, henter, -⟩ :=
      enter_received_eq script text { c with queue := rest }
    rw [henter]
    refine hp.quiet (fun hgoes => ?_) ?_
    · rw [GoesOn, hphase] at hgoes
      exact hgoes.elim
    · have hspent : c.spent script = 0 := by rw [spent, hphase]
      rw [hspent]
      exact Nat.le_trans (by decide) (two_le_spent script rfl)
  | @idle turn deadline hphase hdeadline =>
    have hwithin := hc.within turn (Phase.suspended?_of_asking hphase)
    have hspent : c.spent script = 0 := by rw [spent, hphase]
    have hnot : ¬c.GoesOn (guardedTurns script labels) := by rw [GoesOn, hphase]; exact id
    obtain ⟨head, location, status, freeSteps, news, hidle, -⟩ | ⟨event, hidle, -⟩ :=
      goIdle_eq script hwithin.interrupted c
    · rw [hidle]
      refine hp.quiet (fun hgoes => absurd hgoes hnot) ?_
      rw [hspent]
      exact Nat.le_trans (by decide) (two_le_spent script rfl)
    · rw [hidle]
      refine hp.quiet (fun hgoes => absurd hgoes hnot) ?_
      rw [hspent]
      exact Nat.le_refl 1
  | @abandon turn hphase hcancelled =>
    obtain ⟨head, location, store, freeSteps, news, habandon, haborted, -⟩ :=
      abandon_eq script (hc.within turn hphase).interrupted .aborted c
    obtain ⟨-, -, rfl⟩ := haborted rfl
    rw [habandon]
    refine hp.quiet (fun hgoes => ?_) ?_
    · exact .inr (hgoes.le_freeSteps hphase)
    · have hspent := spent_le_of_suspended script hphase
      simp only [spent, hcancelled, Bool.true_or, if_true] at hspent ⊢
      omega
  | @complete d turn fault after scene h hrun =>
    obtain ⟨hinterrupted, -, hlet⟩ := h.within_run hc hrun
    have hrequested := (Turn.run_keeps script.host turn.left turn.turn
      { store := d.store, world := d.world }).inputRequested
    rw [hrun] at hrequested
    have hsame : after.inputRequested = turn.turn.inputRequested :=
      hrequested.trans (Bool.or_false _)
    obtain ⟨head, outputs, talk, news, hfinish, -⟩ :=
      finish_of_completed script turn.before hinterrupted fault (d.absorb script scene)
    rw [hfinish, absorb_eq]
    cases hreq : after.inputRequested with
    | true => exact hp.completed_asked h (hsame ▸ hreq) hreq rfl
    | false =>
      obtain ⟨status, queue, inputs, told, rfl, -⟩ := h.eq
      exact hp.completed_free h hlet hreq rfl rfl
  | @ask d turn left after scene h hrun =>
    obtain ⟨status, queue, inputs, told, rfl, -⟩ := h.eq
    rw [absorb_eq] at hyields
    obtain ⟨phase, news, hask, -⟩ := ask_eq script clock ⟨after, left, turn.before⟩ _
    rw [hask] at hyields
    exact absurd hyields (Nat.succ_ne_self _)
  | @rest d turn duration left after scene h hrun =>
    -- At least the directive that rests is gone, so the phase allows for one small step more.
    obtain ⟨-, hleft, -⟩ := h.within hc
    have hshort := Turn.left_run_lt (congrArg Prod.fst hrun)
    have hbefore := h.spent_le
    have hrequested := (Turn.run_keeps script.host turn.left turn.turn
      { store := d.store, world := d.world }).inputRequested
    rw [hrun] at hrequested
    obtain ⟨status, queue, inputs, told, rfl, -⟩ := h.eq
    rw [absorb_eq]
    refine hp.quiet (fun hgoes => ?_) ?_
    · obtain ⟨hcount, hfree⟩ := h.of_goesOn hgoes
      exact ⟨hcount, hrequested.trans ((Bool.or_false _).trans hfree)⟩
    · show c.spent script + 1 ≤ script.directives.length - left.length + 2
      omega

/-- Calls of the host keep the pace. -/
theorem Calls.paced {c c' : Conversation σ} {labels : List (Option Turn)} (h : Calls script c c')
    (hc : Sound script c) (hp : Paced script labels c) : Paced script labels c' := by
  obtain ⟨hguarded, hasked, hgoes, hlength⟩ := hp
  cases h with
  | start h =>
    obtain ⟨hpaused, news, rfl, -⟩ := start_eq h
    have hoff := hc.off hpaused
    refine ⟨hguarded, hasked, fun hne => ?_, Nat.le_trans hlength (Nat.add_le_add_left ?_ _)⟩
    · have hnot := hgoes hne
      rw [GoesOn, hoff] at hnot
      exact hnot.elim
    · rw [spent, hoff]
      exact Nat.zero_le _
  | input text h =>
    obtain ⟨-, news, rfl, -⟩ := input_eq h
    exact ⟨hguarded, hasked, hgoes, hlength⟩
  | navigate target h =>
    obtain ⟨hoff, head, rfl⟩ := navigate_eq h
    refine ⟨hguarded, hasked, fun hne => ?_, Nat.le_trans hlength (Nat.add_le_add_left ?_ _)⟩
    · have hnot := hgoes hne
      rw [GoesOn, hoff] at hnot
      exact hnot.elim
    · rw [spent, hoff]
      exact Nat.zero_le _
  | cancel =>
    rcases cancel_eq c with hcancel | ⟨hbroken, hcancel⟩ | hcancel
    · rw [hcancel]
      exact ⟨hguarded, hasked, hgoes, hlength⟩
    · rw [hcancel]
      refine ⟨hguarded, hasked, fun hne => ?_, Nat.le_trans hlength (Nat.add_le_add_left ?_ _)⟩
      · have hnot := hgoes hne
        rw [GoesOn, hbroken] at hnot
        exact hnot.elim
      · rw [spent, hbroken]
        exact Nat.zero_le _
    · rw [hcancel]
      have hspent := spent_le_cancelled script c
      exact ⟨hguarded, hasked, hgoes, Nat.le_trans hlength (Nat.add_le_add_left hspent _)⟩
  | markPaused hoff =>
    obtain ⟨news, hstatus, -⟩ := setStatus_eq c .paused
    rw [Conversation.markPaused, hstatus]
    exact ⟨hguarded, hasked, hgoes, hlength⟩
  | exit => exact ⟨hguarded, hasked, hgoes, hlength⟩

/-- **A stretch keeps the pace.** -/
theorem Stretch.paced {c d : Conversation σ} {labels : List (Option Turn)}
    (hc : Reachable script c) (h : Stretch script c labels d) : Paced script labels d := by
  induction h with
  | refl => exact ⟨Nat.zero_le _, Nat.zero_le _, fun hne => absurd rfl hne, Nat.zero_le _⟩
  | loop h hstep hyields ih => exact hstep.paced (h.reachable hc).sound ih hyields
  | call h hcall ih => exact hcall.paced (h.reachable hc).sound ih
  | write h hwrite ih =>
    obtain ⟨store, rfl⟩ := setVariable_eq hwrite
    exact ⟨ih.guarded_le, ih.asked_le, ih.goesOn, ih.length_le⟩

/-- No phase allows for more small steps than a turn may take. -/
theorem spent_le (script : Script σ) (c : Conversation σ) :
    c.spent script ≤ script.directives.length + 3 := by
  unfold spent
  split
  · split <;> omega
  all_goals omega

/-- Where every step that may wait is sure to ask, no turn of such a step is completed without having
asked. -/
theorem Stretch.exemptTurns_eq_zero {c d : Conversation σ} {labels : List (Option Turn)}
    (hc : Reachable script c) (h : Stretch script c labels d)
    (hdirectives : script.directives = Directive.standard)
    (hsure : ∀ location, script.mayAsk location → script.surelyAsks location) :
    exemptTurns script labels = 0 := by
  induction h with
  | refl => rfl
  | @loop labels d e clock label h hstep hyields ih =>
    have hreach := h.reachable hc
    cases label with
    | none => simpa [exemptTurns] using ih
    | some turn =>
      have hturn : (!turn.inputRequested && script.mayAsk turn.location) = false := by
        cases hmay : script.mayAsk turn.location with
        | false => exact Bool.and_false _
        | true =>
          cases hstep with
          | complete hresumes hrun =>
            rw [hresumes.requested hreach.sound hdirectives hrun (hsure _ hmay)]
            rfl
      have hzero : exemptTurns script labels = 0 := ih
      simp only [exemptTurns, completedTurns_concat_some, List.countP_append] at hzero ⊢
      simp [hzero, hturn]
  | call _ _ ih => exact ih
  | write _ _ ih => exact ih

/-- **The loop hands control back.** While it does not, the turns it completes without having asked
the user are at most the limit of the settings and those of steps that may wait and did not; so it
makes no more small steps than they allow for. Where every step that may wait is sure to ask, the
limit bounds them alone. -/
theorem freeTurns_le {c d : Conversation σ} {labels : List (Option Turn)}
    (hc : Reachable script c) (h : Stretch script c labels d) :
    freeTurns labels ≤ script.settings.freefallLimit + exemptTurns script labels ∧
      labels.length ≤ (freeTurns labels + 2) * (script.directives.length + 1) + 2 ∧
      (script.directives = Directive.standard →
        (∀ location, script.mayAsk location → script.surelyAsks location) →
        freeTurns labels ≤ script.settings.freefallLimit) := by
  obtain ⟨hguarded, hasked, -, hlength⟩ := h.paced hc
  have hfree := freeTurns_eq script labels
  refine ⟨by omega, ?_, fun hdirectives hsure => ?_⟩
  · have hspent := d.spent_le script
    have hturns : (completedTurns labels).length + 1 ≤ freeTurns labels + 2 := by
      rw [length_completedTurns]
      omega
    have hmul := Nat.mul_le_mul_right (script.directives.length + 1) hturns
    rw [Nat.add_mul, Nat.one_mul] at hmul
    omega
  · have hzero := h.exemptTurns_eq_zero hc hdirectives hsure
    omega

/-! ### A step that may wait and never does -/

/-- A step whose branch asks the user once a variable is set, which nothing does. -/
def restlessStep : Step where
  switch := some {
    subject := "done"
    cases := [("yes", { input := some { kind := .text, variablePath := some "answer" } })]
    fallback := none }

/-- A document of that step alone. -/
def restless : Script Unit where
  document := { pages := [("/start", [restlessStep])] }
  settings := {}
  host := ⟨[], fun _ world => (.error "offline", world)⟩

/-- The conversation at the top of its loop, after some turns. -/
def circling (turns : Nat) (events : Array Event) : Conversation Unit where
  store := .empty
  world := ()
  head := some (.start "/start")
  location := some (.start "/start")
  status := .busy
  freeSteps := turns
  phase := .ready
  events := events

/-- What becomes of each turn. -/
def circled : Turn where
  step := { restlessStep with switch := none }
  location := .start "/start"
  nextLink := none

/-- The conversation is started. -/
theorem reachable_circling : Reachable restless (circling 0 #[.status .busy]) :=
  .call (.initial .empty ()) (.start rfl)

/-- The step is never held back, since it may wait, and its turn does not wait. -/
theorem advances_circling (turns : Nat) (events : Array Event) :
    ∃ events', Advances restless 0 (circling turns events) (some circled)
      (circling (turns + 1) events') := by
  have hfall : (circling turns events).inFreefall restless restlessStep = false := by
    simp [inFreefall, restlessStep, Step.awaitsInput, Step.asksItself, Step.anyAwaitsInput]
  have hrun : Turn.run restless.host restless.directives
      (.ofStep restlessStep (.start "/start") none) { store := .empty, world := () } =
        (.done none, circled, { store := .empty, world := () }) := rfl
  exact ⟨_, .complete (.begin rfl rfl rfl rfl hfall) hrun⟩

/-- However many turns, the loop does not hand control back after them. -/
theorem stretch_circling (turns : Nat) :
    ∃ events, Stretch restless (circling 0 #[.status .busy]) (List.replicate turns (some circled))
      (circling turns events) := by
  induction turns with
  | zero => exact ⟨_, .refl⟩
  | succ turns ih =>
    obtain ⟨events, h⟩ := ih
    obtain ⟨events', hstep⟩ := advances_circling turns events
    rw [List.replicate_succ']
    exact ⟨events', h.loop hstep rfl⟩

/-- **No bound for this document.** A step that may wait and does not keeps the loop from handing
control back, whatever the limit of the settings. -/
theorem not_freeTurns_bounded : ¬∃ bound, ∀ c labels d, Reachable restless c →
    Stretch restless c labels d → freeTurns labels ≤ bound := by
  rintro ⟨bound, h⟩
  obtain ⟨events, hstretch⟩ := stretch_circling (bound + 1)
  have hle := h _ _ _ reachable_circling hstretch
  have hfree : freeTurns (List.replicate (bound + 1) (some circled)) = bound + 1 := by
    simp [freeTurns, completedTurns, List.countP_replicate, circled]
  omega

/-! ### Steps that do not wait, and one that asks -/

/-- A step that says something and does not wait. -/
def remark : Step where
  message := some (.whole "And on.")

/-- A document of three remarks and a question, of which two steps may run without the user. -/
def corridor : Script Unit where
  document := { pages := [("/start", [remark, remark, remark,
    { input := some { kind := .text, variablePath := some "answer" } }])] }
  settings := { freefallLimit := 2 }
  host := ⟨[], fun _ world => (.error "offline", world)⟩

/-- The conversation at the top of its loop, after some remarks. -/
def walking (remarks : Nat) (events : Array Event) : Conversation Unit where
  store := .empty
  world := ()
  head := some ⟨"/start", remarks⟩
  location := some ⟨"/start", remarks⟩
  status := .busy
  freeSteps := remarks
  phase := .ready
  events := events

/-- What becomes of the turn of a remark. -/
def remarked (remarks : Nat) : Turn :=
  .ofStep remark ⟨"/start", remarks⟩ (some ⟨"/start", remarks + 1⟩)

/-- The scene that the turn of a remark leaves behind. -/
def remarkScene (remarks : Nat) : Scene Unit :=
  (Turn.run corridor.host corridor.directives (remarked remarks)
    { store := .empty, world := () }).2.2

/-- The conversation once the turn of a remark is over. -/
def pastRemark (remarks : Nat) (events : Array Event) : Conversation Unit :=
  ((walking remarks events).absorb corridor (remarkScene remarks)).finish corridor none
    (remarked remarks) none

/-- The events that the host has learnt of once some remarks have been made. -/
def remarkEvents : Nat → Array Event
  | 0 => #[.status .busy]
  | remarks + 1 => (pastRemark remarks (remarkEvents remarks)).events

/-- The conversation is started. -/
theorem reachable_walking : Reachable corridor (walking 0 (remarkEvents 0)) :=
  .call (.initial .empty ()) (.start rfl)

/-- A remark is let to run while fewer than two have been made. -/
theorem advances_walking {remarks : Nat} (hlt : remarks < 2) (events : Array Event) :
    Advances corridor 0 (walking remarks events) (some (remarked remarks))
      (walking (remarks + 1) (pastRemark remarks events).events) := by
  have hrun : Turn.run corridor.host corridor.directives (remarked remarks)
      { store := .empty, world := () } = (.done none, remarked remarks, remarkScene remarks) := rfl
  have hstep : Advances corridor 0 (walking remarks events) (some (remarked remarks))
      (pastRemark remarks events) := by
    match remarks with
    | 0 => exact .complete (.begin rfl rfl rfl rfl rfl) hrun
    | 1 => exact .complete (.begin rfl rfl rfl rfl rfl) hrun
  -- Where the remark leads is looked up in the document, so each place is a case of its own.
  match remarks with
  | 0 => exact hstep
  | 1 => exact hstep

/-- What the guard makes of the third remark. -/
def heldBack : Conversation Unit :=
  ({ walking 2 (remarkEvents 2) with freeSteps := 0 }.report
    (.freefall corridor.settings.freefallLimit (some ⟨"/start", 2⟩))).place none

/-- The third remark is held back. -/
theorem advances_heldBack : Advances corridor 0 (walking 2 (remarkEvents 2)) none heldBack :=
  .freefall rfl rfl rfl rfl rfl

/-- Two remarks and what the guard makes of the third are a stretch. -/
theorem stretch_heldBack : Stretch corridor (walking 0 (remarkEvents 0))
    [some (remarked 0), some (remarked 1), none] heldBack :=
  ((Stretch.refl.loop (advances_walking Nat.zero_lt_two _) rfl).loop
    (advances_walking Nat.one_lt_two _) rfl).loop advances_heldBack rfl

/-- The bound for one turn of the step that may wait and does not, which counts as one of a step that
may wait; and the bound for a stretch that the guard ends, on a document whose question is sure to
ask. There the limit is reached. -/
theorem freeTurns_le_circling :
    (let labels := [some circled]
     freeTurns labels ≤ restless.settings.freefallLimit + exemptTurns restless labels ∧
       labels.length ≤ (freeTurns labels + 2) * (restless.directives.length + 1) + 2 ∧
       (restless.directives = Directive.standard →
         (∀ location, restless.mayAsk location → restless.surelyAsks location) →
         freeTurns labels ≤ restless.settings.freefallLimit)) ∧
    let labels := [some (remarked 0), some (remarked 1), none]
    corridor.mayAsk ⟨"/start", 3⟩ ∧
      (∀ location, corridor.mayAsk location → corridor.surelyAsks location) ∧
      Stretch corridor (walking 0 (remarkEvents 0)) labels heldBack ∧
      freeTurns labels ≤ corridor.settings.freefallLimit ∧
      freeTurns labels = corridor.settings.freefallLimit := by
  have hsure : ∀ location, corridor.mayAsk location → corridor.surelyAsks location :=
    Script.surelyAsks_of_mayAsk (by decide)
  refine ⟨?_, rfl, hsure, stretch_heldBack, ?_, rfl⟩
  · obtain ⟨events, hstretch⟩ := stretch_circling 1
    exact freeTurns_le reachable_circling hstretch
  · exact (freeTurns_le reachable_walking stretch_heldBack).2.2 rfl hsure

end Conversation

end Dialogue
