import Dialogue.Proofs.Turn.Priority
/-!
# What a turn has its host do

Two directives have the host do something: a function is called if the host knows it, and a request is
sent unless it would get something with a body. Nothing else changes the world of the host. With the
directives in their usual order there is at most one call and, after it, at most one request, and a
turn that is neither interrupted nor fails leaves none of them out.

## Main definitions

- `Errand`, `Errand.perform` — what a host is to do, and what that makes of its world
- `Directive.errand?`, `Act.errands` — the errand of a directive, and those of a row
- `Step.callsOut`, `Step.sendsOut` — whether a step has an errand

## Main statements

- `Directive.Does.world_eq`, `Turn.Plays.world_eq` — the world changes by errands alone
- `Act.errands_eq`, `Act.countP_errands` — the errands of directives in their usual order
- `Turn.Plays.countP_errands` — how many there are in a whole turn
-/

namespace Dialogue

variable {σ : Type} {host : Host σ}

/-- What a host is to do. -/
inductive Errand where
  | call (function : String) (args : List Json)
  | send (request : Request)

namespace Errand

/-- A function is to be called. -/
def isCall : Errand → Bool
  | .call _ _ => true
  | .send _ => false

/-- A request is to be sent. -/
def isSend : Errand → Bool
  | .call _ _ => false
  | .send _ => true

/-- What an errand makes of the world of the host. -/
def perform (host : Host σ) (world : σ) : Errand → σ
  | .call name args =>
    match Keyed.get? name host.functions with
    | some function => (function args world).2
    | none => world
  | .send request => (host.send request world).2

end Errand

/-- The step calls a function that the host knows. -/
def Step.callsOut (host : Host σ) (step : Step) : Bool :=
  step.execute.any fun call => Keyed.contains call.function host.functions

/-- The step sends a request: one that does not get something with a body. -/
def Step.sendsOut (step : Step) : Bool :=
  step.request.any fun fetch => !decide (fetch.method = .get ∧ fetch.body.isSome)

/-! ### One directive -/

namespace Directive

variable {directive : Directive} {turn : Turn} {scene : Scene σ}

/-- What a directive has the host do. -/
def errand? (host : Host σ) (turn : Turn) (scene : Scene σ) : Directive → Option Errand
  | .execute => turn.step.execute.bind fun call =>
      if Keyed.contains call.function host.functions then
        some (.call call.function (call.args.map (argument scene.store call.expandArgs)))
      else none
  | .request => turn.step.request.bind fun fetch =>
      if Unsent (expanded scene.store fetch) then none else some (.send (expanded scene.store fetch))
  | _ => none

/-- Only calls and requests are errands. -/
theorem errand?_eq_none (hexecute : directive ≠ .execute) (hrequest : directive ≠ .request) :
    directive.errand? host turn scene = none := by
  cases directive with
  | execute => exact absurd rfl hexecute
  | request => exact absurd rfl hrequest
  | _ => rfl

/-- A directive that the step has nothing for has no errand. -/
theorem errand?_of_lacks (h : turn.step.lacks directive) : directive.errand? host turn scene = none := by
  cases directive with
  | execute =>
    have hexecute : turn.step.execute = none := h
    rw [errand?, hexecute, Option.bind_none]
  | request =>
    have hrequest : turn.step.request = none := h
    rw [errand?, hrequest, Option.bind_none]
  | _ => rfl

theorem errand?_of_call {call : Call} {function : Function σ} (hcall : turn.step.execute = some call)
    (hfunction : Keyed.get? call.function host.functions = some function) :
    errand? host turn scene .execute =
      some (.call call.function (call.args.map (argument scene.store call.expandArgs))) := by
  rw [errand?, hcall, Option.bind_some, Keyed.contains, hfunction]
  rfl

theorem errand?_of_fetch {fetch : Fetch} (hfetch : turn.step.request = some fetch)
    (hsent : ¬ Unsent (expanded scene.store fetch)) :
    errand? host turn scene .request = some (.send (expanded scene.store fetch)) := by
  rw [errand?, hfetch, Option.bind_some, if_neg hsent]

/-- Going to a target leaves the scene alone. -/
theorem scene_goTo (target : String) (turn : Turn) (scene : Scene σ) :
    (goTo target turn scene).2.2 = scene := by
  unfold goTo
  split <;> rfl

theorem world_storeAt (path : Option String) (value : Json) (scene : Scene σ) :
    (storeAt path value scene).world = scene.world := by
  cases path <;> rfl

/-- What a call makes of the world. -/
theorem perform_call {name : String} {args : List Json} {function : Function σ} {world world' : σ}
    {result : Except String (Option Json)}
    (hfunction : Keyed.get? name host.functions = some function)
    (hresult : function args world = (result, world')) :
    Errand.perform host world (.call name args) = world' := by
  rw [Errand.perform, hfunction]
  exact congrArg Prod.snd hresult

/-- **The world changes by the errand of a directive alone.** -/
theorem Does.world_eq {r : Result σ} (h : Does host turn scene directive r) :
    r.2.2.world =
      (directive.errand? host turn scene).elim scene.world (Errand.perform host scene.world) := by
  cases h with
  | nothing hlacks => rw [errand?_of_lacks hlacks]; rfl
  | next => exact congrArg Scene.world (scene_goTo _ _ _)
  | choice | text =>
    refine withInput_cases (fun answer _ => ?_) rfl rfl
    split <;> rfl
  | links =>
    refine withInput_cases (fun answer _ => ?_) rfl rfl
    split
    · exact congrArg Scene.world (scene_goTo _ _ _)
    · rfl
  | unknown hcall hfunction =>
    rw [errand?, hcall, Option.bind_some, Keyed.contains, hfunction]
    rfl
  | returned hcall hfunction hresult =>
    rw [errand?_of_call hcall hfunction, Option.elim_some, perform_call hfunction hresult]
    exact world_storeAt _ _ _
  | finished hcall hfunction hresult =>
    rw [errand?_of_call hcall hfunction, Option.elim_some, perform_call hfunction hresult]
    rfl
  | broken hcall hfunction hresult =>
    rw [errand?_of_call hcall hfunction, Option.elim_some, perform_call hfunction hresult]
    rfl
  | unsent hfetch hunsent =>
    rw [errand?, hfetch, Option.bind_some, if_pos hunsent]
    rfl
  | responded hfetch hsent hsend =>
    rw [errand?_of_fetch hfetch hsent, Option.elim_some, Errand.perform, hsend]
    exact world_storeAt _ _ _
  | failed hfetch hsent hsend =>
    rw [errand?_of_fetch hfetch hsent, Option.elim_some, Errand.perform, hsend]
    rfl
  | diverted hfetch hsent hsend =>
    rw [errand?_of_fetch hfetch hsent, Option.elim_some, Errand.perform, hsend, scene_goTo]
    rfl
  | _ => rfl

/-- A function is called exactly if the host knows it. -/
theorem isSome_errand?_execute (host : Host σ) (turn : Turn) (scene : Scene σ) :
    (errand? host turn scene .execute).isSome = turn.step.callsOut host := by
  rw [errand?, Step.callsOut]
  cases turn.step.execute with
  | none => rfl
  | some call => cases hknown : Keyed.contains call.function host.functions <;> simp [hknown]

/-- Replacing placeholders leaves alone whether a request has a body. -/
theorem unsent_expanded_iff {store : Store} {fetch : Fetch} :
    Unsent (expanded store fetch) ↔ fetch.method = .get ∧ fetch.body.isSome := by
  have hbody : (expanded store fetch).body.isSome = fetch.body.isSome := by
    unfold expanded
    dsimp only
    split
    · exact Option.isSome_map
    · rfl
  rw [Unsent, hbody]
  rfl

/-- A request is sent unless it would get something with a body. -/
theorem isSome_errand?_request (host : Host σ) (turn : Turn) (scene : Scene σ) :
    (errand? host turn scene .request).isSome = turn.step.sendsOut := by
  rw [errand?, Step.sendsOut]
  cases turn.step.request with
  | none => rfl
  | some fetch =>
    rw [Option.bind_some, Option.any_some]
    by_cases hunsent : fetch.method = .get ∧ fetch.body.isSome
    · rw [if_pos (unsent_expanded_iff.2 hunsent), decide_eq_true hunsent]
      rfl
    · rw [if_neg (mt unsent_expanded_iff.1 hunsent), decide_eq_false hunsent]
      rfl

/-- What a call has the host do is a call. -/
theorem isCall_of_errand? {errand : Errand}
    (h : errand? host turn scene .execute = some errand) : errand.isCall ∧ errand.isSend = false := by
  obtain ⟨call, -, h⟩ := Option.bind_eq_some_iff.1 h
  split at h
  · rw [← Option.some.inj h]
    exact ⟨rfl, rfl⟩
  · cases h

/-- What a request has the host do is no call. -/
theorem isSend_of_errand? {errand : Errand}
    (h : errand? host turn scene .request = some errand) : errand.isCall = false ∧ errand.isSend := by
  obtain ⟨fetch, -, h⟩ := Option.bind_eq_some_iff.1 h
  split at h
  · cases h
  · rw [← Option.some.inj h]
    exact ⟨rfl, rfl⟩

end Directive

/-! ### A row of directives -/

namespace Act

open Directive

variable {act : Act σ} {acts : List (Act σ)}

/-- What the directive had the host do. -/
def errand? (host : Host σ) (act : Act σ) : Option Errand :=
  act.directive.errand? host act.turn act.scene

/-- What a row of directives had the host do, in order. -/
def errands (host : Host σ) (acts : List (Act σ)) : List Errand := acts.filterMap (errand? host)

/-- What the first of its kind had the host do. -/
def errandOf (host : Host σ) (acts : List (Act σ)) (directive : Directive) : Option Errand :=
  (acts.find? (·.directive = directive)).bind (errand? host)

theorem errands_cons (act : Act σ) (acts : List (Act σ)) :
    errands host (act :: acts) = (act.errand? host).toList ++ errands host acts := by
  rw [errands, List.filterMap_cons]
  cases act.errand? host <;> rfl

theorem errandOf_cons (directive : Directive) : errandOf host (act :: acts) directive =
    if act.directive = directive then act.errand? host else errandOf host acts directive := by
  by_cases h : act.directive = directive <;> simp [errandOf, h]

/-- A directive that stands in its place already does not come again. -/
theorem errandOf_eq_none (h : ∀ later ∈ acts, act.directive.Before later.directive)
    {directive : Directive} (hbefore : ¬ act.directive.Before directive) :
    errandOf host acts directive = none := by
  rw [errandOf, find?_eq_none h hbefore, Option.bind_none]

/-- **With the directives in their usual order** there is at most one call, and after it at most one
request. -/
theorem errands_eq (h : acts.Pairwise fun act later => act.directive.Before later.directive) :
    errands host acts =
      (errandOf host acts .execute).toList ++ (errandOf host acts .request).toList := by
  induction acts with
  | nil => rfl
  | cons act acts ih =>
    obtain ⟨hfirst, hrest⟩ := List.pairwise_cons.1 h
    have hgone : ∀ directive, ¬ act.directive.Before directive →
        errandOf host acts directive = none := fun _ => errandOf_eq_none hfirst
    rw [errands_cons, ih hrest]
    simp only [errandOf_cons]
    cases hdirective : act.directive with
    | execute =>
      rw [hdirective] at hgone
      simp [hgone .execute (by decide)]
    | request =>
      rw [hdirective] at hgone
      simp [hgone .execute (by decide), hgone .request (by decide)]
    | _ =>
      have hidle : act.errand? host = none := by
        rw [errand?, hdirective]
        rfl
      simp [hidle]

/-- What the first of its kind had the host do is its errand. -/
theorem exists_of_errandOf {directive : Directive} {errand : Errand}
    (h : errandOf host acts directive = some errand) :
    ∃ act ∈ acts, act.directive = directive ∧
      directive.errand? host act.turn act.scene = some errand := by
  obtain ⟨act, hfind, herrand⟩ := Option.bind_eq_some_iff.1 h
  have hdirective : act.directive = directive := of_decide_eq_true (List.find?_some hfind :)
  refine ⟨act, List.mem_of_find?_eq_some hfind, hdirective, ?_⟩
  rwa [errand?, hdirective] at herrand

/-- **How many calls and how many requests there are**: one where the first of its kind has an
errand, and none otherwise. -/
theorem countP_errands (host : Host σ)
    (h : acts.Pairwise fun act later => act.directive.Before later.directive) :
    (errands host acts).countP Errand.isCall = (errandOf host acts .execute).isSome.toNat ∧
      (errands host acts).countP Errand.isSend = (errandOf host acts .request).isSome.toNat := by
  have hcalls : ∀ errand ∈ (errandOf host acts .execute).toList,
      errand.isCall ∧ errand.isSend = false := by
    intro errand herrand
    obtain ⟨act, -, -, hsome⟩ := exists_of_errandOf (Option.mem_toList.1 herrand)
    exact isCall_of_errand? hsome
  have hsends : ∀ errand ∈ (errandOf host acts .request).toList,
      errand.isCall = false ∧ errand.isSend := by
    intro errand herrand
    obtain ⟨act, -, -, hsome⟩ := exists_of_errandOf (Option.mem_toList.1 herrand)
    exact isSend_of_errand? hsome
  have hlength : ∀ errand? : Option Errand, errand?.toList.length = errand?.isSome.toNat := by
    intro errand?
    cases errand? <;> rfl
  rw [errands_eq h, List.countP_append, List.countP_append]
  constructor
  · rw [List.countP_eq_length.2 fun errand he => (hcalls errand he).1,
      List.countP_eq_zero.2 fun errand he => by simp [(hsends errand he).1], hlength, Nat.add_zero]
  · rw [List.countP_eq_zero.2 fun errand he => by simp [(hcalls errand he).2],
      List.countP_eq_length.2 fun errand he => (hsends errand he).2, hlength, Nat.zero_add]

end Act

/-- Past a directive the world is what its errand has made of it. -/
theorem Directive.Carries.world_eq {directive : Directive} {turn final turn' : Turn}
    {scene scene' : Scene σ} {answers : List (Except Interruption String)} {signal : Signal}
    (h : directive.Carries host turn scene answers final (signal, turn', scene'))
    (cut : Option Interruption) :
    (Act.errands host [⟨directive, final, scene, answers, cut⟩]).foldl (Errand.perform host)
      scene.world = scene'.world := by
  have hworld := (directive.run_does host final scene).world_eq
  rw [h.run_eq] at hworld
  have herrand : Act.errand? host ⟨directive, final, scene, answers, cut⟩ =
      directive.errand? host final scene := rfl
  rw [Act.errands_cons, herrand, hworld]
  cases directive.errand? host final scene <;> rfl

namespace Turn

open Directive Act

variable {directives : List Directive} {turn : Turn} {scene : Scene σ} {acts : List (Act σ)}
  {ending : Option Fault × Turn × Scene σ}

/-- **The world changes by the errands of a row alone**, carried out one after the other. -/
theorem Plays.world_eq (h : Plays host directives turn scene acts ending) :
    ending.2.2.world = (errands host acts).foldl (Errand.perform host) scene.world := by
  induction h with
  | done => rfl
  | next h hsignal hrest ih =>
    rw [ih, ← h.world_eq none, ← List.foldl_append, errands_cons, errands_cons, List.append_assoc]
    rfl
  | halt h => exact (h.world_eq none).symm
  | fail h => exact (h.world_eq none).symm
  | cut h reason => exact (h.world_eq (some reason)).symm

/-! ### The usual order -/

variable {step : Step} {location : Location} {nextLink : Option Location}

theorem Plays.pairwise_before
    (h : Plays host standard (ofStep step location nextLink) scene acts ending) :
    acts.Pairwise fun act later => act.directive.Before later.directive :=
  List.pairwise_map.1 (before_standard.sublist h.directives_prefix.sublist)

/-- What a directive has the host do in a turn that is neither interrupted nor fails: it is carried
out, with the step that the branch gives. -/
theorem Plays.errandOf_eq
    (h : Plays host standard (ofStep step location nextLink) scene acts ending)
    (hfault : ending.1 = none) (hfree : ending.2.1.interrupted = none) (directive : Directive)
    (hmem : directive ∈ standard) (hswitch : directive ≠ .switch) :
    ∃ act ∈ acts, act.turn.step = Directive.branched scene.store step ∧
      errandOf host acts directive = directive.errand? host act.turn act.scene := by
  obtain ⟨act, hfind⟩ : ∃ act, acts.find? (·.directive = directive) = some act := by
    rw [← (h.directives_eq hfault hfree).1] at hmem
    obtain ⟨act, hact, hdirective⟩ := List.mem_map.1 hmem
    exact Option.isSome_iff_exists.1
      (List.find?_isSome.2 ⟨act, hact, decide_eq_true hdirective⟩)
  have hdirective : act.directive = directive := of_decide_eq_true (List.find?_some hfind :)
  have hact : act ∈ acts := List.mem_of_find?_eq_some hfind
  refine ⟨act, hact, h.step_of_standard hact (hdirective ▸ hswitch), ?_⟩
  rw [errandOf, hfind, Option.bind_some, Act.errand?, hdirective]

/-- **How many calls and requests there are** in a turn that is neither interrupted nor fails: as many
as its step has, with its branch taken. -/
theorem Plays.countP_errands
    (h : Plays host standard (ofStep step location nextLink) scene acts ending)
    (hfault : ending.1 = none) (hfree : ending.2.1.interrupted = none) :
    (errands host acts).countP Errand.isCall =
        ((Directive.branched scene.store step).callsOut host).toNat ∧
      (errands host acts).countP Errand.isSend =
        (Directive.branched scene.store step).sendsOut.toNat := by
  obtain ⟨call, -, hcall, hexecute⟩ :=
    h.errandOf_eq hfault hfree .execute (by decide) (by decide)
  obtain ⟨fetch, -, hfetch, hrequest⟩ :=
    h.errandOf_eq hfault hfree .request (by decide) (by decide)
  obtain ⟨hcalls, hsends⟩ := Act.countP_errands host h.pairwise_before
  rw [hcalls, hsends, hexecute, hrequest, isSome_errand?_execute, isSome_errand?_request, hcall,
    hfetch]
  exact ⟨rfl, rfl⟩

end Turn

end Dialogue
