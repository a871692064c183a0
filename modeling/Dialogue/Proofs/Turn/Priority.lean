import Dialogue.Proofs.Turn.Leading
import Dialogue.Proofs.Turn.Standard
/-!
# Which target a turn goes to

Three directives may lead a turn somewhere: the target of the step, the link that the answer names and
the target for a request that fails. Each overrides what was there before, and each target is read
with the variables that its directive finds. With the directives in their usual order that makes a
failed request come first, the link next and the target of the step last.

## Main definitions

- `Directive.target?`, `Act.lead?` — the target of a directive, and where it leads
- `Act.leadOf` — where the directive leads among those that were carried out

## Main statements

- `Directive.Does.follows` — one directive
- `Turn.Plays.nextLink_eq` — the last of a row that leads anywhere decides
- `Turn.branch_priority`
-/

namespace Dialogue

variable {σ : Type} {host : Host σ}

/-! ### One directive -/

namespace Directive

variable {directive : Directive} {turn : Turn} {scene : Scene σ}

/-- A request is sent and fails. -/
def requestFails (host : Host σ) (scene : Scene σ) (fetch : Fetch) : Bool :=
  !decide (Unsent (expanded scene.store fetch)) &&
    !(host.send (expanded scene.store fetch) scene.world).1.isOk

/-- The target that a directive names: the one of the step, the one of the link that the answer names,
or the one for a request that fails. -/
def target? (host : Host σ) (turn : Turn) (scene : Scene σ) : Directive → Option String
  | .next => turn.step.next
  | .links => turn.input.bind fun text => turn.step.links.bind (Keyed.get? text)
  | .request => turn.step.request.bind fun fetch =>
      if requestFails host scene fetch then fetch.failNext else none
  | _ => none

/-- Where the directive leads once it is through: what its target denotes, read with the variables
that it finds. -/
def lead? (host : Host σ) (directive : Directive) (turn : Turn) (scene : Scene σ) :
    Option Location :=
  (directive.target? host turn scene).bind fun target =>
    Location.parse? (scene.store.expand target)

/-- What a directive does with where its turn leads: without a target nothing, and with one it goes to
the target. -/
inductive Follows (target? : Option String) (turn : Turn) (scene : Scene σ) (r : Result σ) :
    Prop where
  | stays (htarget : target? = none) (hlink : r.2.1.nextLink = turn.nextLink)
  | goes {target : String} (htarget : target? = some target) {scene' : Scene σ}
      (hstore : scene'.store = scene.store) (hrun : r = goTo target turn scene')

/-- Without an answer there is no target. -/
theorem follows_withInput {use : String → Result σ} {target : String → Option String}
    (h : ∀ text, Follows (target text) turn scene (use text)) :
    Follows (turn.input.bind target) turn scene (withInput turn scene use) := by
  unfold withInput Turn.reply
  cases hinput : turn.input with
  | some text => exact h text
  | none => cases turn.interrupted <;> exact .stays rfl rfl

/-- A directive that the step has nothing for has no target. -/
theorem target?_of_lacks (h : turn.step.lacks directive) : directive.target? host turn scene = none := by
  cases directive with
  | next => exact h
  | links =>
    have hlinks : turn.step.links = none := h
    simp [target?, hlinks]
  | request =>
    have hrequest : turn.step.request = none := h
    simp [target?, hrequest]
  | _ => rfl

/-- **What becomes of where a turn leads**, whatever a directive does. -/
theorem Does.follows {r : Result σ} (h : Does host turn scene directive r) :
    Follows (directive.target? host turn scene) turn scene r := by
  cases h with
  | nothing hlacks => exact .stays (target?_of_lacks hlacks) rfl
  | next htarget => exact .goes htarget rfl rfl
  | choice | text =>
    rw [show target? host turn scene .input = turn.input.bind fun _ => none from
      (Option.bind_fun_none _).symm]
    refine follows_withInput fun text => ?_
    split <;> exact .stays rfl rfl
  | links htargets =>
    rw [target?, htargets]
    refine follows_withInput fun text => ?_
    split
    · next target htarget => exact .goes htarget rfl rfl
    · next htarget => exact .stays htarget rfl
  | unsent hfetch hunsent => exact .stays (by simp [target?, hfetch, requestFails, hunsent]) rfl
  | responded hfetch hsent hsend =>
    exact .stays (by simp [target?, hfetch, requestFails, hsend, Except.isOk, Except.toBool]) rfl
  | failed hfetch hsent hsend hnext => exact .stays (by simp [target?, hfetch, hnext]) rfl
  | @diverted fetch reason target world hfetch hsent hsend hnext =>
    have htarget : target? host turn scene .request = some target := by
      simp [target?, hfetch, requestFails, hsent, hsend, hnext, Except.isOk, Except.toBool]
    refine .goes htarget ?_ rfl
    rfl
  | _ => exact .stays rfl rfl

/-- **A directive that gets through** overrides where the turn leads, if it has a target. -/
theorem run_nextLink_of_goesOn (h : (directive.run host turn scene).1.goesOn) :
    (directive.run host turn scene).2.1.nextLink =
        (directive.lead? host turn scene).or turn.nextLink ∧
      ∀ target ∈ directive.target? host turn scene, (directive.lead? host turn scene).isSome := by
  rw [lead?]
  rcases (run_does host directive turn scene).follows with ⟨htarget, hlink⟩ | ⟨htarget, hstore, hrun⟩
  · rw [htarget]
    exact ⟨hlink, fun _ hnone => by cases hnone⟩
  · rw [hrun, goTo_eq, hstore] at h ⊢
    rw [htarget, Option.bind_some]
    split at h
    · next l hparse =>
      rw [hparse]
      exact ⟨rfl, fun _ _ => rfl⟩
    · cases h

/-- **A directive that does not get through** leads nowhere else. -/
theorem run_nextLink_of_stops (h : (directive.run host turn scene).1.goesOn = false) :
    (directive.run host turn scene).2.1.nextLink = turn.nextLink := by
  rcases (run_does host directive turn scene).follows with ⟨-, hlink⟩ | ⟨htarget, hstore, hrun⟩
  · exact hlink
  · rw [hrun, goTo_eq] at h ⊢
    split at h
    · cases h
    · rfl

end Directive

namespace Act

/-- Where a directive led that got through. -/
def lead? (host : Host σ) (act : Act σ) : Option Location :=
  if act.isThrough host then act.directive.lead? host act.turn act.scene else none

/-- Where the first of its kind led. -/
def leadOf (host : Host σ) (acts : List (Act σ)) (directive : Directive) : Option Location :=
  (acts.find? (·.directive = directive)).bind (lead? host)

/-- **A directive that got through** led where its target leads. -/
theorem lead?_of_isThrough {act : Act σ} (h : act.isThrough host) {target : String}
    (htarget : target ∈ act.directive.target? host act.turn act.scene) :
    ∃ l, Location.parse? (act.scene.store.expand target) = some l ∧ act.lead? host = some l := by
  rw [lead?, if_pos h]
  rw [isThrough, Bool.and_eq_true] at h
  obtain ⟨l, hlead⟩ := Option.isSome_iff_exists.1
    ((Directive.run_nextLink_of_goesOn h.1).2 target htarget)
  refine ⟨l, ?_, hlead⟩
  rwa [Directive.lead?, htarget, Option.bind_some] at hlead

end Act

/-! ### A row of directives -/

namespace Directive.Carries

variable {directive : Directive} {turn final turn' : Turn} {scene scene' : Scene σ}
  {answers : List (Except Interruption String)} {signal : Signal}

theorem nextLink_eq (h : directive.Carries host turn scene answers final (signal, turn', scene')) :
    turn'.nextLink =
      (Act.lead? host ⟨directive, final, scene, answers, none⟩).or turn.nextLink := by
  have hbefore : final.nextLink = turn.nextLink := (congrArg Turn.nextLink h.unanswered_eq : _)
  have hafter := h.run_eq
  rw [Act.lead?, h.isThrough_eq, ← hbefore]
  cases hsignal : signal.goesOn with
  | true =>
    have hlink := (run_nextLink_of_goesOn (by rw [hafter]; exact hsignal)).1
    rwa [hafter] at hlink
  | false =>
    have hlink := run_nextLink_of_stops (by rw [hafter]; exact hsignal)
    rwa [hafter] at hlink

end Directive.Carries

namespace Turn

open Directive Act

variable {directives : List Directive} {turn : Turn} {scene : Scene σ} {acts : List (Act σ)}
  {ending : Option Fault × Turn × Scene σ}

/-- **The last directive that leads anywhere** decides where a row of them leads. -/
theorem Plays.nextLink_eq (h : Plays host directives turn scene acts ending) :
    ending.2.1.nextLink = (acts.reverse.findSome? (lead? host)).or turn.nextLink := by
  induction h with
  | done => rfl
  | next h hsignal hrest ih =>
    rw [ih, h.nextLink_eq, List.reverse_cons, List.findSome?_append, Option.or_assoc,
      List.findSome?_singleton]
  | halt h =>
    rw [List.reverse_singleton, List.findSome?_singleton]
    exact h.nextLink_eq
  | fail h =>
    rw [List.reverse_singleton, List.findSome?_singleton]
    exact h.nextLink_eq
  | cut h reason =>
    -- A directive that waits for a while leads nowhere.
    obtain ⟨rfl, -⟩ := run_rest h.run_eq
    rw [List.reverse_singleton, List.findSome?_singleton, Act.lead?, h.isThrough_eq]
    exact (congrArg Turn.nextLink h.unanswered_eq : _)

end Turn

/-! ### The usual order -/

namespace Directive

/-- A directive stands before another one in the usual order. -/
def Before (directive later : Directive) : Prop :=
  standard.idxOf directive < standard.idxOf later

instance : DecidableRel Before := fun _ _ => inferInstanceAs (Decidable (_ < _))

theorem before_standard : standard.Pairwise Before := by decide

end Directive

namespace Act

variable {act : Act σ} {acts : List (Act σ)}

/-- A directive without a target leads nowhere. -/
theorem lead?_eq_none (h : act.directive.target? host act.turn act.scene = none) :
    act.lead? host = none := by
  rw [lead?, Directive.lead?, h]
  exact ite_self none

theorem leadOf_cons (directive : Directive) : leadOf host (act :: acts) directive =
    if act.directive = directive then act.lead? host else leadOf host acts directive := by
  by_cases h : act.directive = directive <;> simp [leadOf, h]

/-- A directive that stands in its place already does not come again. -/
theorem find?_eq_none (h : ∀ later ∈ acts, act.directive.Before later.directive)
    {directive : Directive} (hbefore : ¬ act.directive.Before directive) :
    acts.find? (·.directive = directive) = none := by
  refine List.find?_eq_none.2 fun later hlater hsame => hbefore ?_
  rw [← of_decide_eq_true hsame]
  exact h later hlater

theorem leadOf_eq_none (h : ∀ later ∈ acts, act.directive.Before later.directive)
    {directive : Directive} (hbefore : ¬ act.directive.Before directive) :
    leadOf host acts directive = none := by
  rw [leadOf, find?_eq_none h hbefore, Option.bind_none]

/-- **With the directives in their usual order** the last that leads anywhere is a failed request, or
else a link, or else the target of the step. -/
theorem findSome?_lead (h : acts.Pairwise fun act later => act.directive.Before later.directive) :
    acts.reverse.findSome? (lead? host) =
      (leadOf host acts .request).or ((leadOf host acts .links).or (leadOf host acts .next)) := by
  induction acts with
  | nil => rfl
  | cons act acts ih =>
    obtain ⟨hfirst, hrest⟩ := List.pairwise_cons.1 h
    have hgone : ∀ directive, ¬ act.directive.Before directive →
        leadOf host acts directive = none := fun _ => leadOf_eq_none hfirst
    rw [List.reverse_cons, List.findSome?_append, List.findSome?_singleton, ih hrest]
    simp only [leadOf_cons]
    cases hdirective : act.directive with
    | next =>
      rw [hdirective] at hgone
      simp [hgone .next (by decide), Option.or_assoc]
    | links =>
      rw [hdirective] at hgone
      simp [hgone .next (by decide), hgone .links (by decide)]
    | request =>
      rw [hdirective] at hgone
      simp [hgone .next (by decide), hgone .links (by decide), hgone .request (by decide)]
    | _ =>
      have hquiet : act.lead? host = none := lead?_eq_none (by rw [hdirective]; rfl)
      simp [hquiet]

end Act

namespace Turn

open Directive Act

variable {step : Step} {location : Location} {nextLink : Option Location} {scene : Scene σ}
  {acts : List (Act σ)} {ending : Option Fault × Turn × Scene σ}

/-- **A failed request comes first**, then the link that the answer names, then the target of the step,
and then where the step leads otherwise. -/
theorem Plays.nextLink_of_standard
    (h : Plays host standard (ofStep step location nextLink) scene acts ending) :
    ending.2.1.nextLink = (leadOf host acts .request).or
      ((leadOf host acts .links).or ((leadOf host acts .next).or nextLink)) := by
  have horder : acts.Pairwise fun act later => act.directive.Before later.directive :=
    List.pairwise_map.1 (before_standard.sublist h.directives_prefix.sublist)
  rw [h.nextLink_eq, findSome?_lead horder, Option.or_assoc, Option.or_assoc]
  rfl

/-- The target of the step is read once the branch is taken and the variables are dropped, and before
the answer is stored. -/
theorem Plays.store_of_next
    (h : Plays host standard (ofStep step location nextLink) scene acts ending) {act : Act σ}
    (hact : act ∈ acts) (hnext : act.directive = .next) :
    act.scene.store = (Directive.branched scene.store step).cleared scene.store := by
  obtain ⟨opening, acts', found, rfl, hopening, hstore, hrest⟩ := h.of_standard
  rcases List.mem_append.1 hact with hact | hact
  · have hmem : act.directive ∈ opening.map (·.directive) := List.mem_map_of_mem hact
    rw [hopening, hnext] at hmem
    exact absurd hmem (by decide)
  · rcases hrest.found hact with ⟨-, hscene⟩ | ⟨before, -, hstands, -⟩
    · rw [hscene, hstore]
    · -- Nothing stands before it any more.
      rw [hnext] at hstands
      exact absurd hstands (by cases before.directive <;> decide)

/-- A directive finds the scene that the one before it in the usual order has left. -/
theorem Plays.found_of_standard
    (h : Plays host standard (ofStep step location nextLink) scene acts ending) {act : Act σ}
    (hact : act ∈ acts) {directive before : Directive} (hdirective : act.directive = directive)
    (hfirst : directive ≠ .switch)
    (hstands : ∀ other, [other, directive] <:+: standard → other = before) :
    ∃ earlier ∈ acts, earlier.directive = before ∧ act.scene = earlier.left host := by
  subst hdirective
  rcases h.found hact with ⟨hhead, -⟩ | ⟨earlier, hearlier, hadjacent, hscene⟩
  · exact absurd (Option.some.inj hhead).symm hfirst
  · exact ⟨earlier, hearlier, hstands _ hadjacent, hscene⟩

/-- **Branch priority.** However a turn is played with the directives in their usual order, it leads to
the target for a failed request, or else to the one of the link that the answer names, or else to the
target of the step, or else where the step leads otherwise; only directives that got through count,
and each of them leads where its target leads. All have the step that the branch gives. The target of
the step is read once the variables are dropped, before the answer is stored; that of a link once it
is stored; and that for a failed request with what the function has stored. Every directive is carried
out and gets through unless the turn fails or is interrupted, and otherwise every one but the last. -/
theorem branch_priority (host : Host σ) (step : Step) (location : Location)
    (nextLink : Option Location) (scene : Scene σ) :
    (∀ acts ending, Plays host standard (ofStep step location nextLink) scene acts ending →
      ending.2.1.nextLink = (leadOf host acts .request).or
        ((leadOf host acts .links).or ((leadOf host acts .next).or nextLink)) ∧
      (∀ act ∈ acts, act.isThrough host →
        ∀ target ∈ act.directive.target? host act.turn act.scene,
          ∃ l, Location.parse? (act.scene.store.expand target) = some l ∧
            act.lead? host = some l) ∧
      (∀ act ∈ acts, act.directive ≠ .switch →
        act.turn.step = Directive.branched scene.store step) ∧
      (∀ act ∈ acts, act.directive = .next →
        act.scene.store = (Directive.branched scene.store step).cleared scene.store) ∧
      (∀ act ∈ acts, act.directive = .links →
        ∃ input ∈ acts, input.directive = .input ∧ act.scene = input.left host) ∧
      (∀ act ∈ acts, act.directive = .request →
        ∃ call ∈ acts, call.directive = .execute ∧ act.scene = call.left host) ∧
      (ending.1 = none → ending.2.1.interrupted = none →
        acts.map (·.directive) = standard ∧ ∀ act ∈ acts, act.isThrough host) ∧
      acts.map (·.directive) <+: standard ∧ (∀ act ∈ acts.dropLast, act.isThrough host) ∧
      (ending.1.isSome → ∀ act ∈ acts.getLast?, act.isThrough host = false)) ∧
    ∀ prompt, ∃ acts, Plays host standard (ofStep step location nextLink) scene acts
      (playOut host standard (ofStep step location nextLink) scene prompt).ending := by
  refine ⟨fun acts ending h => ?_, fun prompt => ?_⟩
  · have hlinks : ∀ other, [other, .links] <:+: standard → other = .input := by
      intro other
      cases other <;> decide
    have hrequest : ∀ other, [other, .request] <:+: standard → other = .execute := by
      intro other
      cases other <;> decide
    refine ⟨h.nextLink_of_standard, fun act _ hthrough target htarget => ?_,
      fun act hact => h.step_of_standard hact, fun act hact => h.store_of_next hact,
      fun act hact hdirective => h.found_of_standard hact hdirective (by decide) hlinks,
      fun act hact hdirective => h.found_of_standard hact hdirective (by decide) hrequest,
      h.directives_eq, h.directives_prefix, h.isThrough_dropLast⟩
    exact lead?_of_isThrough hthrough htarget
  · obtain ⟨acts, h, -⟩ := playOut_plays host standard (ofStep step location nextLink) scene prompt
    exact ⟨acts, h⟩

/-- A step with three ways on, which a case of its switch gives it. The targets have placeholders,
and what comes before their directives gives these other values. -/
def crossing : Step where
  switch := some {
    subject := "mood"
    cases := [("bold", {
      next := some "/{{way}}"
      links := some [("left", "/{{way}}"), ("astray", "/{{way}}")]
      request := some { url := "http://guide/{{way}}", failNext := some "/{{verdict}}[1]" } })]
    fallback := none }
  clearVariables := some true
  next := some "/ahead"
  input := some { kind := .text, variablePath := some "way" }
  execute := some { function := "judge", output := some "verdict" }

/-- A host that judges everybody lost and answers all requests but the one for the way astray. -/
def guide : Host Unit where
  functions := [("judge", fun _ world => (.ok (some (.text "lost")), world))]
  send request world := (if request.url = "http://guide/astray" then .error "lost" else .ok "", world)

/-- A bold user on the way out. Once the variables are dropped, the way is the shared one, home. -/
def bold : Scene Unit where
  store := {
    own := .object [("mood", .text "bold"), ("way", .text "out")]
    shared := some (.object [("way", .text "home")]) }
  world := ()

/-- What comes of an answer. -/
def crossingOutcome (answer : String) : Outcome Unit :=
  playOut guide standard (ofStep crossing (.start "/start") none) bold { answers := [some answer] }

/-- The answer makes the turn lead to a target. All directives are carried out, and the one with the
target of the step leads home, whether the turn goes there or not. -/
def CrossesTo (answer : String) (target : Location) : Prop :=
  (crossingOutcome answer).turn.nextLink = some target ∧
    ∃ acts, Plays guide standard (ofStep crossing (.start "/start") none) bold acts
        (crossingOutcome answer).ending ∧
      acts.map (·.directive) = standard ∧
      some target = (leadOf guide acts .request).or
        ((leadOf guide acts .links).or ((leadOf guide acts .next).or none)) ∧
      ∀ act ∈ acts, act.directive = .next → act.lead? guide = some (.start "/home")

/-- The target of the step is read before the answer is stored, that of a link once it is, and that
for a failed request with the result of the function. -/
theorem branch_priority_crossing :
    CrossesTo "astray" ⟨"/lost", 1⟩ ∧ CrossesTo "left" (.start "/left") ∧
      CrossesTo "on" (.start "/home") := by
  have hcrosses {answer : String} {target : Location}
      (hlink : (crossingOutcome answer).turn.nextLink = some target)
      (hfault : (crossingOutcome answer).fault = none)
      (hfree : (crossingOutcome answer).turn.interrupted = none) : CrossesTo answer target := by
    obtain ⟨hpriority, hplays⟩ := branch_priority guide crossing (.start "/start") none bold
    obtain ⟨acts, h⟩ := hplays { answers := [some answer] }
    obtain ⟨hnextLink, hleads, hsteps, hstores, -, -, hwhole, -⟩ := hpriority acts _ h
    obtain ⟨hdirectives, hthrough⟩ := hwhole hfault hfree
    refine ⟨hlink, acts, h, hdirectives, hlink.symm.trans hnextLink, fun act hact hnext => ?_⟩
    -- The target is that of the merged step, read once the user's own way is dropped.
    have hstep := hsteps act hact (by rw [hnext]; decide)
    have htarget : "/{{way}}" ∈ act.directive.target? guide act.turn act.scene := by
      rw [hnext]
      show act.turn.step.next = some "/{{way}}"
      rw [hstep]
      decide +kernel
    obtain ⟨l, hparse, hlead⟩ := hleads act hact (hthrough act hact) _ htarget
    have hhome : Location.parse?
        (((Directive.branched bold.store crossing).cleared bold.store).expand "/{{way}}") =
          some (.start "/home") := by decide +kernel
    rw [hstores act hact hnext, hhome] at hparse
    rw [hlead, hparse]
  exact ⟨hcrosses (by decide +kernel) (by decide +kernel) (by decide +kernel),
    hcrosses (by decide +kernel) (by decide +kernel) (by decide +kernel),
    hcrosses (by decide +kernel) (by decide +kernel) (by decide +kernel)⟩

end Turn

end Dialogue
