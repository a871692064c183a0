import Dialogue.Proofs.Conversation.Inbox
import Dialogue.Proofs.Number.Duration
/-!
# Waits of any length

Seconds are given by documents, by settings and by steps. Delays are converted with a check: one
that is too long is a fault of its step. The wait for the user is converted without one, so the loop
breaks down when a step begins to wait, exactly if its seconds are `2 ^ 63` or more; what the clock
reads at that moment is left out (`Conversation.clockBound`).

## Main definitions

- `DocumentSettings.idleSeconds?` — the seconds that the user is waited for
- `Patience.Meets`, `Directive.Delays`, `Conversation.Waits` — what becomes of a number of seconds

## Main statements

- `Settings.meets_patience`, `Settings.isCountable_patience_iff`
- `Directive.delays_run`
- `Conversation.waits_ask`, `Conversation.waits_counted`
-/

namespace Dialogue

/-! ### The wait for the user -/

/-- The seconds that the user is waited for; those of the document win. -/
def DocumentSettings.idle? (d : DocumentSettings) (s : Settings) : Option Binary64 :=
  d.idleAfterSeconds.or s.idleAfterSeconds

/-- The exact number of seconds that the user is waited for, when it is positive and finite. -/
def DocumentSettings.idleSeconds? (d : DocumentSettings) (s : Settings) : Option ℚ :=
  (d.idle? s).bind Binary64.positive?

/-- How long the user is waited for, given the seconds. -/
inductive Patience.Meets : Option ℚ → Patience → Prop
  | endless : Meets none .endless
  | limited {q : ℚ} {d : Duration} (hlt : q < 2 ^ 64) (hnear : d.IsNearest q) :
      Meets (some q) (.limited d)
  | uncountable {q : ℚ} (hle : 2 ^ 64 ≤ q) : Meets (some q) .uncountable

namespace Settings

variable {s : Settings} {d : DocumentSettings}

theorem patience_of_positive {x : Binary64} (hidle : d.idle? s = some x) {q : ℚ}
    (h : x.positive? = some q) : (s.withDocument d).patience =
      match Duration.ofSeconds? x with
      | some duration => .limited duration
      | none => .uncountable := by
  have hpositive : x.isFinite && x.isPositive := by
    rw [← Bool.not_eq_false, ← Binary64.positive?_eq_none_iff, h]
    exact (by cases ·)
  have hseconds : (s.withDocument d).idleAfterSeconds = some x := hidle
  rw [patience, hseconds]
  exact if_pos hpositive

theorem patience_of_not_positive (h : d.idleSeconds? s = none) :
    (s.withDocument d).patience = .endless := by
  have hseconds : (s.withDocument d).idleAfterSeconds = d.idle? s := rfl
  rw [patience, hseconds]
  cases hidle : d.idle? s with
  | none => rfl
  | some x =>
    rw [DocumentSettings.idleSeconds?, hidle] at h
    exact if_neg (Bool.eq_false_iff.1 (Binary64.positive?_eq_none_iff.1 h))

/-- **Every number of seconds is a patience.** -/
theorem meets_patience (hdouble : ∀ x, d.idle? s = some x → x.IsDouble) :
    (s.withDocument d).patience.Meets (d.idleSeconds? s) := by
  cases hseconds : d.idleSeconds? s with
  | none =>
    rw [patience_of_not_positive hseconds]
    exact .endless
  | some q =>
    obtain ⟨x, hidle, hvalue⟩ := Option.bind_eq_some_iff.1 hseconds
    rw [patience_of_positive hidle hvalue]
    rcases Duration.ofSeconds?_eq (hdouble x hidle) hvalue with
      ⟨hlt, duration, hsome, hnear⟩ | ⟨hle, hnone⟩
    · rw [hsome]
      exact .limited hlt hnear
    · rw [hnone]
      exact .uncountable hle

/-- The wait for the user can be counted up to `2 ^ 63` seconds. -/
theorem isCountable_patience_iff (hdouble : ∀ x, d.idle? s = some x → x.IsDouble) :
    (s.withDocument d).patience.isCountable ↔ ∀ q, d.idleSeconds? s = some q → q < 2 ^ 63 := by
  have hmeets := meets_patience hdouble
  cases hseconds : d.idleSeconds? s with
  | none =>
    rw [patience_of_not_positive hseconds]
    exact iff_of_true rfl (by simp)
  | some q =>
    obtain ⟨x, hidle, hvalue⟩ := Option.bind_eq_some_iff.1 hseconds
    rw [hseconds] at hmeets
    simp only [Option.some.injEq, forall_eq']
    generalize (s.withDocument d).patience = patience at hmeets ⊢
    cases hmeets with
    | limited hlt hnear =>
      have hiff := Duration.nanoseconds_lt_iff (hdouble x hidle) hvalue (by decide : 53 ≤ 63) hnear
      rw [Patience.isCountable, decide_eq_true_iff]
      exact hiff
    | uncountable hle =>
      refine iff_of_false Bool.false_ne_true ?_
      have hmore : (2 : ℚ) ^ 63 ≤ 2 ^ 64 := by norm_num
      linarith

end Settings

/-! ### Delays -/

/-- What a delay of some seconds comes to: it is skipped, waits, or is a fault of the step. -/
inductive Directive.Delays {σ : Type} (x : Binary64) (turn : Turn) (scene : Scene σ) :
    Directive.Result σ → Prop
  | skipped (hvalue : x.positive? = none) : Delays x turn scene (.proceed, turn, scene)
  | waits {q : ℚ} {d : Duration} (hvalue : x.positive? = some q) (hlt : q < 2 ^ 64)
      (hnear : d.IsNearest q) : Delays x turn scene (.rest d, turn, scene)
  | refused {q : ℚ} (hvalue : x.positive? = some q) (hle : 2 ^ 64 ≤ q) :
      Delays x turn scene (.fail (.invalidDelay x turn.location), turn, scene)

/-- **Every delay is skipped, waits or is a fault.** -/
theorem Directive.delays_run {σ : Type} (host : Host σ) {turn : Turn} {x : Binary64}
    (hdelay : turn.step.delay = some x) (hdouble : x.IsDouble) (scene : Scene σ) :
    Delays x turn scene (Directive.delay.run host turn scene) := by
  have hrun : Directive.delay.run host turn scene = runDelay x turn scene := by
    simp only [run, hdelay]
  rw [hrun, runDelay]
  cases hvalue : x.positive? with
  | none =>
    rw [Binary64.positive?_eq_none_iff.1 hvalue]
    exact .skipped hvalue
  | some q =>
    have hpositive : (x.isFinite && x.isPositive) = true := by
      rw [← Bool.not_eq_false, ← Binary64.positive?_eq_none_iff, hvalue]
      exact (by cases ·)
    rw [hpositive]
    rcases Duration.ofSeconds?_eq hdouble hvalue with ⟨hlt, d, hsome, hnear⟩ | ⟨hle, hnone⟩
    · rw [hsome]
      exact .waits hvalue hlt hnear
    · rw [hnone]
      exact .refused hvalue hle

/-! ### The loop -/

namespace Conversation

variable {σ : Type} {script : Script σ} {settings : Settings}

/-- Where the loop is when a turn has begun to wait for the user, given the seconds. -/
inductive Waits (clock : Nat) (turn : Suspended) : Option ℚ → Phase → Prop
  | endless : Waits clock turn none (.asking turn none)
  | limited {q : ℚ} {d : Duration} (hlt : q < 2 ^ 63) (hnear : d.IsNearest q) :
      Waits clock turn (some q) (.asking turn (some (clock + d.wait)))
  | broken {q : ℚ} (hle : 2 ^ 63 ≤ q) : Waits clock turn (some q) .broken

theorem status_ask (script : Script σ) (clock : Nat) (turn : Suspended) (c : Conversation σ) :
    (c.ask script clock turn).status = .waitingInput := by
  obtain ⟨phase, news, hask, -, -⟩ := ask_eq script clock turn c
  rw [hask]

/-- A wait that can be counted is held until its deadline, if it has one. -/
theorem phase_ask_of_isCountable (h : script.settings.patience.isCountable) (clock : Nat)
    (turn : Suspended) (c : Conversation σ) : (c.ask script clock turn).phase =
      .asking turn (match script.settings.patience with
        | .limited d => some (clock + d.wait)
        | _ => none) := by
  unfold ask
  cases hpatience : script.settings.patience with
  | endless => rfl
  | uncountable =>
    rw [hpatience] at h
    cases h
  | limited d =>
    rw [hpatience] at h
    have hbound : d.nanoseconds < clockBound * 10 ^ 9 := of_decide_eq_true h
    dsimp only
    rw [if_pos hbound]

/-- A turn that asks waits as long as the seconds say, or breaks the loop down. -/
theorem waits_ask (hsettings : script.settings = settings.withDocument script.document.settings)
    (hdouble : ∀ x, script.document.settings.idle? settings = some x → x.IsDouble) (clock : Nat)
    (turn : Suspended) (c : Conversation σ) :
    Waits clock turn (script.document.settings.idleSeconds? settings)
      (c.ask script clock turn).phase := by
  have hmeets := Settings.meets_patience hdouble
  have hcountable := Settings.isCountable_patience_iff hdouble
  rw [← hsettings] at hmeets hcountable
  cases hisCountable : script.settings.patience.isCountable with
  | true =>
    have hlt := hcountable.1 hisCountable
    rw [phase_ask_of_isCountable hisCountable]
    generalize script.document.settings.idleSeconds? settings = seconds at hmeets hlt ⊢
    generalize script.settings.patience = patience at hmeets hisCountable ⊢
    cases hmeets with
    | endless => exact .endless
    | limited _ hnear => exact .limited (hlt _ rfl) hnear
    | uncountable _ => cases hisCountable
  | false =>
    rw [(phase_ask script clock turn c).2 hisCountable]
    rw [hisCountable] at hcountable
    obtain ⟨q, hq, hle⟩ : ∃ q, script.document.settings.idleSeconds? settings = some q ∧
        2 ^ 63 ≤ q := by
      by_contra hnone
      refine Bool.false_ne_true (hcountable.2 fun q hq => ?_)
      by_contra hlt
      exact hnone ⟨q, hq, not_lt.1 hlt⟩
    rw [hq]
    exact .broken hle

/-- **What seconds do to a conversation.** Those of the document and of the settings make a wait for
the user that is endless, limited or uncountable, and those of a delay are skipped, waited or a
fault of the step. The loop breaks down only in a wait for the user of `2 ^ 63` seconds or more; in
any other wait the turn that asks is held until its deadline, if there is one, and the host sees
that input is waited for. The bound is that of a clock that reads zero (`clockBound`). -/
theorem waits_counted (script : Script σ) (settings : Settings)
    (hsettings : script.settings = settings.withDocument script.document.settings)
    (hdouble : ∀ x, script.document.settings.idle? settings = some x → x.IsDouble) :
    script.settings.patience.Meets (script.document.settings.idleSeconds? settings) ∧
      (∀ (turn : Turn) (x : Binary64) (scene : Scene σ), turn.step.delay = some x → x.IsDouble →
        Directive.Delays x turn scene (Directive.delay.run script.host turn scene)) ∧
      ∀ c : Conversation σ, Reachable script c →
        (c.phase = .broken →
          ∃ q, script.document.settings.idleSeconds? settings = some q ∧ 2 ^ 63 ≤ q) ∧
        ∀ clock turn d left after scene, Resumes script clock c turn d →
          turn.turn.run script.host turn.left { store := d.store, world := d.world } =
            (.asking left, after, scene) →
          ∃ c', c' = d.carryOn script clock turn.before turn.left turn.turn ∧
            Advances script clock c none c' ∧ c'.status = .waitingInput ∧
            Waits clock ⟨after, left, turn.before⟩
              (script.document.settings.idleSeconds? settings) c'.phase := by
  refine ⟨hsettings ▸ Settings.meets_patience hdouble,
    fun turn x scene hdelay hx => Directive.delays_run script.host hdelay hx scene,
    fun c hreach => ⟨fun hbroken => ?_, ?_⟩⟩
  · by_contra hnone
    have hcountable := Settings.isCountable_patience_iff hdouble
    rw [← hsettings] at hcountable
    refine hreach.phase_ne_broken (hcountable.2 fun q hq => ?_) hbroken
    by_contra hle
    exact hnone ⟨q, hq, not_lt.1 hle⟩
  · intro clock turn d left after scene hresumes hrun
    refine ⟨_, rfl, ?_, ?_, ?_⟩ <;> rw [carryOn_eq clock turn.before hrun]
    · exact .ask hresumes hrun
    · exact status_ask script clock _ _
    · exact waits_ask hsettings hdouble clock _ _

/-- More seconds than a duration holds. -/
def restSeconds : Binary64 := .ofNat (10 ^ 20)

/-- A step that asks for a link and then rests for too long. -/
def dawdle : Step where
  links := some [("go", "/start")]
  delay := some restSeconds

/-- Settings that wait too long for the user. -/
def dawdlingSettings : Settings := { idleAfterSeconds := some restSeconds }

/-- A document of that step under those settings, with the seconds that it waits for the user. -/
def dawdling (seconds : Option Binary64) : Script Unit := .ofDocument
  { pages := [("/start", [dawdle])], settings := { idleAfterSeconds := seconds } }
  dawdlingSettings ⟨[], fun _ world => (.error "offline", world)⟩

/-- The document waits five seconds for the user, whatever the settings say. -/
def brisk : Script Unit := dawdling (some (.ofNat 5))

/-- The document leaves the wait for the user to the settings. -/
def tardy : Script Unit := dawdling none

theorem idleSeconds?_brisk : brisk.document.settings.idleSeconds? dawdlingSettings = some 5 := by
  have hfive : Binary64.ofNat 5 = .finite false (5 * 2 ^ 50) (-50) := by decide +kernel
  have hvalue : (Binary64.ofNat 5).positive? = some 5 := by
    refine Binary64.positive?_eq_some_iff.2 ⟨_, _, hfive, by decide, ?_⟩
    norm_num
  exact hvalue

theorem positive?_restSeconds : restSeconds.positive? = some (10 ^ 20) := by
  have hlong : restSeconds = .finite false (6103515625 * 10 ^ 6) 14 := by decide +kernel
  refine Binary64.positive?_eq_some_iff.2 ⟨_, _, hlong, by decide, ?_⟩
  norm_num

theorem idleSeconds?_tardy :
    tardy.document.settings.idleSeconds? dawdlingSettings = some (10 ^ 20) :=
  positive?_restSeconds

/-- The conversation once it has been started. -/
def awake (script : Script Unit) : Conversation Unit :=
  { (ofScript script .empty ()).setStatus .busy with phase := .ready }

theorem reachable_awake (script : Script Unit) : Reachable script (awake script) :=
  .call (.initial .empty ()) (.start rfl)

/-- The turn of the step as it asks. -/
def beckoning : Suspended where
  turn := (Turn.ofStep dawdle (.start "/start") none).request
  left := [.links, .execute, .request, .delay]
  before := none

/-- Where five seconds are waited for the user, the loop never breaks down: the turn that asks is held
for them, and the rest behind it is a fault of its step. Where more seconds are waited than can be
counted, the loop breaks down as the turn asks. -/
theorem waits_counted_brisk :
    (∃ d, brisk.settings.patience = .limited d) ∧
    (∀ c, Reachable brisk c → c.phase ≠ .broken) ∧
    (∃ (d : Duration) (c : Conversation Unit), d.IsNearest 5 ∧
      Advances brisk 0 (awake brisk) none c ∧ c.status = .waitingInput ∧
      c.phase = .asking beckoning (some (0 + d.wait))) ∧
    (∀ scene, Directive.delay.run brisk.host beckoning.turn scene =
      (.fail (.invalidDelay restSeconds (.start "/start")), beckoning.turn, scene)) ∧
    ∃ c, Advances tardy 0 (awake tardy) none c ∧ c.status = .waitingInput ∧ c.phase = .broken := by
  have hrest : restSeconds.IsDouble := Binary64.isDouble_ofNat (10 ^ 20)
  obtain ⟨hmeets, hdelays, hloop⟩ := waits_counted brisk dawdlingSettings rfl
    fun x hx => Option.some.inj hx ▸ Binary64.isDouble_ofNat 5
  obtain ⟨-, -, hloop'⟩ := waits_counted tardy dawdlingSettings rfl
    fun x hx => Option.some.inj hx ▸ hrest
  rw [idleSeconds?_brisk] at hmeets
  refine ⟨?_, fun c hc hbroken => ?_, ?_, fun scene => ?_, ?_⟩
  · generalize brisk.settings.patience = patience at hmeets ⊢
    cases hmeets with
    | limited hlt hnear => exact ⟨_, rfl⟩
    | uncountable hle => norm_num at hle
  · obtain ⟨q, hq, hle⟩ := (hloop c hc).1 hbroken
    rw [idleSeconds?_brisk] at hq
    obtain rfl := Option.some.inj hq
    norm_num at hle
  · obtain ⟨c, -, hstep, hstatus, hwaits⟩ := (hloop _ (reachable_awake _)).2 0 _ _
      beckoning.left beckoning.turn _ (.begin rfl rfl rfl rfl rfl) rfl
    rw [idleSeconds?_brisk] at hwaits
    -- What becomes of the wait decides the phase, so the phase has to be a variable for the cases.
    generalize hphase : c.phase = phase at hwaits
    cases hwaits with
    | limited hlt hnear => exact ⟨_, c, hnear, hstep, hstatus, hphase⟩
    | broken hle => norm_num at hle
  · have hdelay := hdelays beckoning.turn _ scene rfl hrest
    generalize Directive.delay.run brisk.host _ scene = result at hdelay ⊢
    cases hdelay with
    | skipped hvalue => cases positive?_restSeconds.symm.trans hvalue
    | waits hvalue hlt =>
      obtain rfl := Option.some.inj (positive?_restSeconds.symm.trans hvalue)
      norm_num at hlt
    | refused => rfl
  · obtain ⟨c, -, hstep, hstatus, hwaits⟩ := (hloop' _ (reachable_awake _)).2 0 _ _
      beckoning.left beckoning.turn _ (.begin rfl rfl rfl rfl rfl) rfl
    rw [idleSeconds?_tardy] at hwaits
    generalize hphase : c.phase = phase at hwaits
    cases hwaits with
    | limited hlt => norm_num at hlt
    | broken => exact ⟨c, hstep, hstatus, hphase⟩

end Conversation

end Dialogue
