import Dialogue.Proofs.Turn.Asking
import Dialogue.Proofs.Turn.Play
import Dialogue.Proofs.Turn.Storing
/-!
# Directives in their usual order

What was carried out of a row of directives is a beginning of the row, and each directive finds the
scene that the one before it has left. With the directives in their usual order a branch is taken
first and the variables are dropped next, whatever follows; from then on the step stays as it is.

## Main definitions

- `Act.left`, `Act.isThrough` — the scene that a directive left, and that it got through
- `Turn.branched` — the beginning of a turn once a branch is taken

## Main statements

- `Turn.Plays.directives_prefix`, `Turn.Plays.directives_eq` — which directives are carried out
- `Turn.Plays.isThrough_dropLast` — every one but the last one got through
- `Turn.Plays.found` — each finds what the one before it has left
- `Turn.Plays.of_standard`, `Turn.Plays.step_of_standard` — the opening of a turn, and its step
-/

namespace Dialogue

variable {σ : Type} {host : Host σ}

/-! ### One directive -/

namespace Directive

variable {directive : Directive} {turn final : Turn} {scene : Scene σ}
  {answers : List (Except Interruption String)} {r : Result σ}

/-- Of its turn a directive that asks changes the answer only. -/
theorem Carries.unanswered_eq (h : Carries host directive turn scene answers final r) :
    final.unanswered = turn.unanswered := by
  by_cases hreply : turn.reply = .pending
  · rcases h.unsettled hreply with ⟨-, rfl, -⟩ | ⟨answer, -, rfl, -⟩
    · rfl
    · cases answer <;> rfl
  · obtain ⟨-, rfl, -⟩ := h.settled hreply
    rfl

theorem Carries.step_eq (h : Carries host directive turn scene answers final r) :
    final.step = turn.step := (congrArg Turn.step h.unanswered_eq : _)

/-- A directive that gives way does so to an interruption. -/
theorem interrupted_of_halt {turn' : Turn} {scene' : Scene σ}
    (h : directive.run host turn scene = (.halt, turn', scene')) : turn'.interrupted.isSome := by
  rcases directive.run_cases host turn scene with
    ⟨hgoes, -⟩ | ⟨-, ⟨⟨reason, hreply⟩, hhalt⟩ | ⟨-, hask⟩⟩
  · exact absurd (congrArg Prod.fst h) hgoes.not_halt
  · cases hhalt.symm.trans h
    rw [Turn.interrupted_of_reply hreply]
    rfl
  · cases hask.symm.trans h

end Directive

namespace Act

/-- The scene that the directive left. -/
def left (host : Host σ) (act : Act σ) : Scene σ :=
  (act.directive.run host act.turn act.scene).2.2

/-- The directive got through, so that the turn could go on. -/
def isThrough (host : Host σ) (act : Act σ) : Bool :=
  (act.directive.run host act.turn act.scene).1.goesOn && act.cut.isNone

end Act

namespace Directive.Carries

variable {directive : Directive} {turn final turn' : Turn} {scene scene' : Scene σ}
  {answers : List (Except Interruption String)} {signal : Signal}

theorem left_eq (h : directive.Carries host turn scene answers final (signal, turn', scene'))
    (cut : Option Interruption) :
    Act.left host ⟨directive, final, scene, answers, cut⟩ = scene' :=
  congrArg (·.2.2) h.run_eq

theorem isThrough_eq (h : directive.Carries host turn scene answers final (signal, turn', scene'))
    (cut : Option Interruption) :
    Act.isThrough host ⟨directive, final, scene, answers, cut⟩ = (signal.goesOn && cut.isNone) :=
  congrArg (fun r : Result σ => r.1.goesOn && cut.isNone) h.run_eq

end Directive.Carries

/-! ### A row of directives -/

namespace Turn.Plays

open Directive

variable {directives rest : List Directive} {directive : Directive} {turn turn' : Turn}
  {scene scene' : Scene σ} {acts : List (Act σ)} {ending : Option Fault × Turn × Scene σ}

/-- **A beginning of the row** is carried out. -/
theorem directives_prefix (h : Plays host directives turn scene acts ending) :
    acts.map (·.directive) <+: directives := by
  induction h with
  | done => exact List.nil_prefix
  | next h hsignal hrest ih => exact (List.prefix_cons_inj _).2 ih
  | halt h => exact List.prefix_append _ _
  | fail h => exact List.prefix_append _ _
  | cut h reason => exact List.prefix_append _ _

/-- **The whole row** is carried out unless it fails or is interrupted. -/
theorem directives_eq (h : Plays host directives turn scene acts ending) (hfault : ending.1 = none)
    (hfree : ending.2.1.interrupted = none) :
    acts.map (·.directive) = directives ∧ ∀ act ∈ acts, act.isThrough host := by
  induction h with
  | done => exact ⟨rfl, List.forall_mem_nil _⟩
  | next h hsignal hrest ih =>
    obtain ⟨hsame, hthrough⟩ := ih hfault hfree
    refine ⟨congrArg (_ :: ·) hsame, List.forall_mem_cons.2 ⟨?_, hthrough⟩⟩
    rw [h.isThrough_eq, hsignal]
    rfl
  | halt h =>
    have hinterrupted := interrupted_of_halt h.run_eq
    rw [hfree] at hinterrupted
    cases hinterrupted
  | fail h => cases hfault
  | @cut _ _ _ _ turn' _ _ _ _ h reason =>
    have hinterrupted : turn'.interrupted.or (some reason) = none := hfree
    cases hbefore : turn'.interrupted <;> simp [hbefore] at hinterrupted

/-- **Every directive but the last one** got through; the last one did not if the row fails. -/
theorem isThrough_dropLast (h : Plays host directives turn scene acts ending) :
    (∀ act ∈ acts.dropLast, act.isThrough host) ∧
      (ending.1.isSome → ∀ act ∈ acts.getLast?, act.isThrough host = false) := by
  induction h with
  | done => exact ⟨List.forall_mem_nil _, nofun⟩
  | @next directive rest turn final turn' scene scene' answers acts ending signal h hsignal hrest ih =>
    have hthrough : Act.isThrough host ⟨directive, final, scene, answers, none⟩ := by
      rw [h.isThrough_eq, hsignal]
      rfl
    cases hrest with
    | done => exact ⟨List.forall_mem_nil _, nofun⟩
    | _ => exact ⟨List.forall_mem_cons.2 ⟨hthrough, ih.1⟩, ih.2⟩
  | halt h => exact ⟨List.forall_mem_nil _, nofun⟩
  | fail h =>
    refine ⟨List.forall_mem_nil _, fun _ act hact => ?_⟩
    rw [← Option.some.inj hact]
    exact h.isThrough_eq none
  | cut h reason => exact ⟨List.forall_mem_nil _, nofun⟩

/-- **Each directive finds what the one before it has left**, and the first one what there was. -/
theorem found (h : Plays host directives turn scene acts ending) {act : Act σ} (hact : act ∈ acts) :
    (directives.head? = some act.directive ∧ act.scene = scene) ∨
      ∃ before ∈ acts, [before.directive, act.directive] <:+: directives ∧
        act.scene = before.left host := by
  induction h with
  | done => cases hact
  | @next directive rest turn final turn' scene scene' answers acts ending signal h hsignal hrest ih =>
    rcases List.mem_cons.1 hact with rfl | hact
    · exact .inl ⟨rfl, rfl⟩
    · refine .inr ?_
      rcases ih hact with ⟨hhead, hscene⟩ | ⟨before, hbefore, hinfix, hscene⟩
      · obtain ⟨later, rfl⟩ := List.head?_eq_some_iff.1 hhead
        exact ⟨_, List.mem_cons_self, List.prefix_append [directive, act.directive] later |>.isInfix,
          hscene.trans (h.left_eq none).symm⟩
      · exact ⟨before, List.mem_cons_of_mem _ hbefore, List.infix_cons hinfix, hscene⟩
  | halt h =>
    obtain rfl := List.mem_singleton.1 hact
    exact .inl ⟨rfl, rfl⟩
  | fail h =>
    obtain rfl := List.mem_singleton.1 hact
    exact .inl ⟨rfl, rfl⟩
  | cut h reason =>
    obtain rfl := List.mem_singleton.1 hact
    exact .inl ⟨rfl, rfl⟩

/-- The first directive of a row: the rest follows, or nothing does. -/
theorem uncons (h : Plays host (directive :: rest) turn scene acts ending) :
    ∃ answers final cut tail signal turn' scene',
      acts = ⟨directive, final, scene, answers, cut⟩ :: tail ∧
      directive.Carries host turn scene answers final (signal, turn', scene') ∧
      (signal.goesOn ∧ cut = none ∧ Plays host rest turn' scene' tail ending ∨
        signal ≠ .proceed ∧ tail = []) := by
  cases h with
  | next h hsignal hrest =>
    exact ⟨_, _, _, _, _, _, _, rfl, h, .inl ⟨hsignal, rfl, hrest⟩⟩
  | halt h => exact ⟨_, _, _, _, _, _, _, rfl, h, .inr ⟨(by cases ·), rfl⟩⟩
  | fail h => exact ⟨_, _, _, _, _, _, _, rfl, h, .inr ⟨(by cases ·), rfl⟩⟩
  | cut h reason => exact ⟨_, _, _, _, _, _, _, rfl, h, .inr ⟨(by cases ·), rfl⟩⟩

/-- Past a directive that lets the turn go on. -/
theorem cons_of_proceed (h : Plays host (directive :: rest) turn scene acts ending)
    (hrun : directive.run host turn scene = (.proceed, turn', scene')) :
    ∃ acts', acts = ⟨directive, turn, scene, [], none⟩ :: acts' ∧
      Plays host rest turn' scene' acts' ending := by
  have hask : (directive.run host turn scene).1 ≠ .ask := by
    rw [hrun]
    exact (by cases ·)
  obtain ⟨answers, final, cut, tail, signal, turn'', scene'', rfl, hcarries, hrest⟩ := h.uncons
  obtain ⟨rfl, rfl, hsame⟩ := hcarries.eq_of_run hask
  cases hrun.symm.trans hsame
  rcases hrest with ⟨-, rfl, hrest⟩ | ⟨hstops, -⟩
  · exact ⟨tail, rfl, hrest⟩
  · exact absurd rfl hstops

/-- **Without a branch to take** every directive has the same step. -/
theorem step_eq (h : Plays host directives turn scene acts ending) (hswitch : .switch ∉ directives) :
    ∀ act ∈ acts, act.turn.step = turn.step := by
  induction h with
  | done => exact List.forall_mem_nil _
  | @next directive rest turn final turn' scene scene' answers acts ending signal h hsignal hrest ih =>
    have hstep : turn'.step = final.step := by
      have heffect := (run_effect host final scene (List.ne_of_not_mem_cons hswitch).symm).step
      rwa [h.run_eq] at heffect
    refine List.forall_mem_cons.2 ⟨h.step_eq, fun act hact => ?_⟩
    exact (ih (List.not_mem_of_not_mem_cons hswitch) act hact).trans (hstep.trans h.step_eq)
  | halt h => exact List.forall_mem_singleton.2 h.step_eq
  | fail h => exact List.forall_mem_singleton.2 h.step_eq
  | cut h reason => exact List.forall_mem_singleton.2 h.step_eq

end Turn.Plays

/-! ### The usual order -/

namespace Turn

open Directive

variable {step : Step} {location : Location} {nextLink : Option Location} {scene : Scene σ}
  {acts : List (Act σ)} {ending : Option Fault × Turn × Scene σ}

/-- The beginning of a turn once a branch is taken. -/
def branched (step : Step) (location : Location) (nextLink : Option Location) (store : Store) : Turn :=
  .ofStep (Directive.branched store step) location nextLink

theorem run_switch (step : Step) (location : Location) (nextLink : Option Location)
    (scene : Scene σ) : Directive.run host .switch (ofStep step location nextLink) scene =
      (.proceed, branched step location nextLink scene.store, scene) := rfl

/-- **A turn takes its branch, drops the variables and says its message** before anything else, and
none of that can fail or wait. -/
theorem Plays.of_standard
    (h : Plays host standard (ofStep step location nextLink) scene acts ending) :
    ∃ opening acts' found, acts = opening ++ acts' ∧
      opening.map (·.directive) = [.switch, .clear, .message] ∧
      found.store = (Directive.branched scene.store step).cleared scene.store ∧
      Plays host [.next, .input, .links, .execute, .request, .delay]
        (branched step location nextLink scene.store) found acts' ending := by
  obtain ⟨cleared, hclear, hstore⟩ :=
    run_clear host scene (branched step location nextLink scene.store)
  obtain ⟨said, hmessage, hsame⟩ :=
    run_message host cleared (branched step location nextLink scene.store)
  obtain ⟨acts₁, rfl, h₁⟩ := h.cons_of_proceed (run_switch step location nextLink scene)
  obtain ⟨acts₂, rfl, h₂⟩ := h₁.cons_of_proceed hclear
  obtain ⟨acts₃, rfl, h₃⟩ := h₂.cons_of_proceed hmessage
  exact ⟨[_, _, _], acts₃, said, rfl, rfl, hsame.trans hstore, h₃⟩

/-- Every directive after the branch has the step that the branch gives. -/
theorem Plays.step_of_standard
    (h : Plays host standard (ofStep step location nextLink) scene acts ending) {act : Act σ}
    (hact : act ∈ acts) (hswitch : act.directive ≠ .switch) :
    act.turn.step = Directive.branched scene.store step := by
  obtain ⟨acts', rfl, hrest⟩ := h.cons_of_proceed (run_switch step location nextLink scene)
  rcases List.mem_cons.1 hact with rfl | hact
  · exact absurd rfl hswitch
  · exact hrest.step_eq (by decide) act hact

end Turn

end Dialogue
