import Dialogue.Proofs.Json.Record
import Dialogue.Proofs.Step.Authored
import Dialogue.Step.Codec
/-!
# Steps that are written and read again

Reading the canonical form of a step gives the step back, through all its branches. Only a request
whose body is `null` would be lost, since a body that is `null` is read as none; no step that was
read holds one, and neither does a step that is laid over another.

## Main definitions

- `Step.NoNullBody` — no request in the step has a body that is `null`

## Main statements

- `Step.read?_toJson`, `Step.ofJson?_toJson` — reading what was written
- `Step.noNullBody_of_ofJson?`, `Step.NoNullBody.onto` — the steps that come about
-/

namespace Dialogue

open Record

/-! ### The parts of a step -/

theorem Message.ofJson?_toJson (message : Message) : ofJson? message.toJson = some message := by
  cases message with
  | whole text => rfl
  | fragments parts =>
    have hread : Json.items? Json.text? (.array (parts.map .text)) = some parts :=
      Json.items?_array_map fun _ _ => rfl
    rw [toJson, ofJson?, hread]
    · rfl
    · intro s h
      cases h

theorem Message.toJson_ne_null (message : Message) : message.toJson ≠ .null := by
  cases message <;> exact Json.noConfusion

theorem InputKind.ofJson?_text (kind : InputKind) : ofJson? (.text kind.name) = some kind := by
  cases kind <;> rfl

theorem Method.ofJson?_text (method : Method) : ofJson? (.text method.name) = some method := by
  cases method <;> rfl

/-- Strings are written as they are. -/
theorem optional_text (value : Option String) : optional Json.text? (value.map .text) = some value :=
  optional_map (fun _ _ => rfl) fun _ _ => Json.noConfusion

theorem Input.ofJson?_toJson (input : Input) : ofJson? input.toJson = some input := by
  have hchoices : optional (Json.keyed? some) (input.choices.map .object) = some input.choices :=
    optional_map (fun choices _ => Json.keyed?_object choices) fun _ _ => Json.noConfusion
  have hvalue : (if input.value.isNull then none else some input.value).getD .null = input.value := by
    cases input.value <;> rfl
  have hspells : Spells fields ["type", "variable", "pattern", "choices", "value", "rejectMessage",
      "expandValue"] := by
    decide
  rw [ofJson?, toJson, slots?_record hspells]
  simp only [Keyed.values, List.map_cons, List.map_nil, Option.bind_eq_bind, Option.bind_some,
    optional_text, hchoices, hvalue, required, InputKind.ofJson?_text, defaulted, Json.bool?]
  rfl

theorem Call.ofJson?_toJson (call : Call) : ofJson? call.toJson = some call := by
  have hspells : Spells fields ["outputVariable", "function", "args", "expandArgs"] := by decide
  rw [ofJson?, toJson, slots?_record hspells]
  simp only [Keyed.values, List.map_cons, List.map_nil, Option.bind_eq_bind, Option.bind_some,
    optional_text, required, Json.text?, defaulted, Json.items?_array, Json.bool?]
  rfl

/-- A request is read back unless its body is `null`. -/
theorem Fetch.ofJson?_toJson {fetch : Fetch} (h : fetch.body ≠ some .null) :
    ofJson? fetch.toJson = some fetch := by
  have hbody : optional some fetch.body = some fetch.body := by
    cases hbody : fetch.body with
    | none => rfl
    | some body =>
      cases body with
      | null => exact absurd hbody h
      | _ => rfl
  have hheaders : defaulted [] (Json.keyed? Json.text?)
      (if fetch.headers.isEmpty then none else some (.texts fetch.headers)) =
        some fetch.headers := by
    cases fetch.headers with
    | nil => rfl
    | cons => exact Json.keyed?_texts _
  have hspells : Spells fields ["outputVariable", "url", "method", "headers", "body", "expandUrl",
      "expandBody", "failNext"] := by
    decide
  rw [ofJson?, toJson, slots?_record hspells]
  simp only [Keyed.values, List.map_cons, List.map_nil, Option.bind_eq_bind, Option.bind_some,
    optional_text, hbody, hheaders, required, Json.text?]
  simp only [defaulted, Method.ofJson?_text, Json.bool?, Option.bind_some]
  rfl

/-- A body that is read is not `null`. -/
theorem Fetch.body_ne_null {j : Json} {fetch : Fetch} (h : ofJson? j = some fetch) :
    fetch.body ≠ some .null := by
  have hoptional : ∀ {slot body : Option Json}, Record.optional some slot = some body →
      body ≠ some .null := by
    intro slot body hslot hbody
    unfold Record.optional at hslot
    split at hslot <;> simp_all
  obtain ⟨slots, -, h⟩ := Option.bind_eq_some_iff.1 h
  split at h
  · simp only [Option.bind_eq_bind, Option.bind_eq_some_iff] at h
    obtain ⟨_, -, _, -, _, -, _, -, body, hbody, _, -, _, -, _, -, h⟩ := h
    obtain rfl := Option.some.inj h
    exact hoptional hbody
  · cases h

namespace Step

/-! ### Branches -/

/-- The fields of the canonical form of a branch. -/
def branchWritten (branch : Branch Step) : Keyed (Option Json) := [
  ("variable", some (.text branch.subject)),
  ("cases", some (.object (branch.cases.map fun p => (p.1, p.2.toJson)))),
  ("default", branch.fallback.map toJson)]

/-- The canonical form of a branch. -/
def branchToJson (branch : Branch Step) : Json := .record (branchWritten branch)

theorem branchWritten_spells (branch : Branch Step) :
    Spells branchFields (Keyed.keys (branchWritten branch)) :=
  show Spells branchFields ["variable", "cases", "default"] by decide

theorem casesToJson_eq (cases : List (String × Step)) :
    casesToJson cases = cases.map fun p => (p.1, p.2.toJson) := by
  induction cases with
  | nil => rfl
  | cons p rest ih => rw [casesToJson, ih, List.map_cons]

/-- The fields of the canonical form of a step. -/
def written (step : Step) : Keyed (Option Json) := [
  ("message", step.message.map Message.toJson),
  ("links", step.links.map .texts),
  ("next", step.next.map .text),
  ("input", step.input.map Input.toJson),
  ("execute", step.execute.map Call.toJson),
  ("request", step.request.map Fetch.toJson),
  ("switch", step.switch.map branchToJson),
  ("delay", step.delay.map .real),
  ("clearVariables", step.clearVariables.map .bool)]

theorem written_spells (step : Step) : Spells fields (Keyed.keys step.written) :=
  show Spells fields ["message", "links", "next", "input", "execute", "request", "switch", "delay",
    "clearVariables"] by decide

theorem toJson_eq (step : Step) : step.toJson = .record step.written := by
  obtain ⟨_, _, _, _, _, _, switch, _, _⟩ := step
  cases switch with
  | none => rfl
  | some branch =>
    obtain ⟨_, cases, fallback⟩ := branch
    cases fallback <;> simp [toJson, written, branchToJson, branchWritten, casesToJson_eq]

/-- A branch is read back when its steps are. -/
theorem branchOfJson?_branchToJson {read : Json → Option Step} {branch : Branch Step}
    (hcases : ∀ p ∈ branch.cases, read p.2.toJson = some p.2)
    (hfallback : ∀ case ∈ branch.fallback, read case.toJson = some case) :
    branchOfJson? read (branchToJson branch) = some branch := by
  have hdefault : optional read (branch.fallback.map toJson) = some branch.fallback :=
    optional_map hfallback fun case _ => by rw [toJson_eq]; exact Json.noConfusion
  rw [branchOfJson?, branchToJson, slots?_record (branchWritten_spells branch)]
  simp only [branchWritten, Keyed.values, List.map_cons, List.map_nil, Option.bind_eq_bind, Option.bind_some,
    required, Json.text?, defaulted, Json.keyed?_object_map hcases, hdefault]
  rfl

/-! ### Steps without `null` as a body -/

/-- No request in the step has a body that is `null`. -/
def NoNullBody (step : Step) : Prop :=
  ∀ part ∈ step.authored, ∀ fetch ∈ part.request, fetch.body ≠ some .null

theorem noNullBody_iff {step : Step} : step.NoNullBody ↔
    (∀ fetch ∈ step.request, fetch.body ≠ some .null) ∧ ∀ branch ∈ step.switch,
      (∀ p ∈ branch.cases, p.2.NoNullBody) ∧ ∀ case ∈ branch.fallback, case.NoNullBody := by
  constructor
  · intro h
    refine ⟨h step (self_mem_authored step), fun branch hbranch => ⟨fun p hp part hpart => ?_,
      fun case hcase part hpart => ?_⟩⟩
    · exact h part (mem_authored.2 (.inr ⟨branch, hbranch, .inl ⟨p, hp, hpart⟩⟩))
    · exact h part (mem_authored.2 (.inr ⟨branch, hbranch, .inr ⟨case, hcase, hpart⟩⟩))
  · rintro ⟨hself, hbranches⟩ part hpart
    rcases mem_authored.1 hpart with rfl | ⟨branch, hbranch, ⟨p, hp, hpart⟩ | ⟨case, hcase, hpart⟩⟩
    · exact hself
    · exact (hbranches branch hbranch).1 p hp part hpart
    · exact (hbranches branch hbranch).2 case hcase part hpart

/-- A step laid over another holds the requests of both. -/
theorem NoNullBody.onto {upper lower : Step} (hupper : upper.NoNullBody)
    (hlower : lower.NoNullBody) : (upper.onto lower).NoNullBody := by
  rw [noNullBody_iff]
  refine ⟨fun fetch hfetch => ?_, fun branch hbranch => by cases hbranch⟩
  rcases Option.or_eq_some_iff.1 hfetch with hfetch | ⟨-, hfetch⟩
  · exact hupper upper (self_mem_authored upper) fetch hfetch
  · exact hlower lower (self_mem_authored lower) fetch hfetch

/-- What an optional field gives was read. -/
theorem exists_of_optional {α : Type} {read : Json → Option α} {slot : Option Json} {a : α}
    (h : Record.optional read slot = some (some a)) : ∃ j, read j = some a := by
  unfold Record.optional at h
  split at h
  · cases h
  · cases h
  · obtain ⟨b, hb, hsome⟩ := Option.map_eq_some_iff.1 h
    exact ⟨_, Option.some.inj hsome ▸ hb⟩

theorem exists_of_mem_mapM {α β : Type} {f : α → Option β} {as : List α} {bs : List β}
    (h : as.mapM f = some bs) {b : β} (hb : b ∈ bs) : ∃ a ∈ as, f a = some b := by
  induction as generalizing bs with
  | nil =>
    obtain rfl := Option.some.inj h
    cases hb
  | cons a as ih =>
    rw [List.mapM_cons] at h
    obtain ⟨first, hfirst, h⟩ := Option.bind_eq_some_iff.1 h
    obtain ⟨others, hothers, h⟩ := Option.bind_eq_some_iff.1 h
    obtain rfl := Option.some.inj h
    rcases List.mem_cons.1 hb with rfl | hb
    · exact ⟨a, List.mem_cons_self, hfirst⟩
    · obtain ⟨c, hc, hread⟩ := ih hothers hb
      exact ⟨c, List.mem_cons_of_mem _ hc, hread⟩

/-- Each case of a branch was read. -/
theorem exists_of_branchOfJson? {read : Json → Option Step} {j : Json} {branch : Branch Step}
    (h : branchOfJson? read j = some branch) :
    (∀ p ∈ branch.cases, ∃ j, read j = some p.2) ∧
      ∀ case ∈ branch.fallback, ∃ j, read j = some case := by
  obtain ⟨slots, -, h⟩ := Option.bind_eq_some_iff.1 h
  split at h
  · simp only [Option.bind_eq_bind, Option.bind_eq_some_iff] at h
    obtain ⟨_, -, cases, hcases, fallback, hfallback, h⟩ := h
    obtain rfl := Option.some.inj h
    refine ⟨fun p hp => ?_, fun case hcase => ?_⟩
    · unfold defaulted at hcases
      split at hcases
      · obtain rfl := Option.some.inj hcases
        cases hp
      · unfold Json.keyed? at hcases
        split at hcases
        · obtain ⟨q, -, hq⟩ := exists_of_mem_mapM hcases hp
          obtain ⟨case, hcase, rfl⟩ := Option.map_eq_some_iff.1 hq
          exact ⟨q.2, hcase⟩
        · cases hcases
    · obtain rfl : fallback = some case := hcase
      exact exists_of_optional hfallback
  · cases h

/-- What is read of a step: its request and its branch were read too. -/
theorem noNullBody_of_read? {fuel : Nat} {j : Json} {step : Step} (h : read? fuel j = some step) :
    step.NoNullBody := by
  -- The steps of a branch are read with one unit of fuel less.
  induction fuel generalizing j step with
  | zero => cases h
  | succ fuel ih =>
    rw [read?] at h
    obtain ⟨slots, -, h⟩ := Option.bind_eq_some_iff.1 h
    split at h
    · simp only [Option.bind_eq_bind, Option.bind_eq_some_iff] at h
      obtain ⟨_, -, _, -, _, -, _, -, _, -, request, hrequest, switch, hswitch, _, -, _, -, h⟩ := h
      obtain rfl := Option.some.inj h
      rw [noNullBody_iff]
      refine ⟨fun fetch hfetch => ?_, fun branch hbranch => ?_⟩
      · obtain rfl : request = some fetch := hfetch
        obtain ⟨_, hread⟩ := exists_of_optional hrequest
        exact Fetch.body_ne_null hread
      · obtain rfl : switch = some branch := hbranch
        obtain ⟨_, hread⟩ := exists_of_optional hswitch
        obtain ⟨hcases, hfallback⟩ := exists_of_branchOfJson? hread
        refine ⟨fun p hp => ?_, fun case hcase => ?_⟩
        · obtain ⟨_, hp⟩ := hcases p hp
          exact ih hp
        · obtain ⟨_, hcase⟩ := hfallback case hcase
          exact ih hcase
    · cases h

/-- **No step that was read has `null` as a body.** -/
theorem noNullBody_of_ofJson? {j : Json} {step : Step} (h : ofJson? j = some step) :
    step.NoNullBody :=
  noNullBody_of_read? h

/-! ### Reading what was written -/

/-- The steps of a branch nest less deep than the step. -/
theorem depth_lt_of_branch {step : Step} {branch : Branch Step} (h : step.switch = some branch) :
    (∀ p ∈ branch.cases, p.2.toJson.depth < step.toJson.depth) ∧
      ∀ case ∈ branch.fallback, case.toJson.depth < step.toJson.depth := by
  have hswitch : ("switch", some (branchToJson branch)) ∈ step.written := by simp [written, h]
  have hbranch : (branchToJson branch).depth < step.toJson.depth := by
    rw [toJson_eq]
    exact Json.depth_lt_of_record step.written_spells.1 hswitch
  have hspells := (branchWritten_spells branch).1
  refine ⟨fun p hp => ?_, fun case hcase => ?_⟩
  · have hcases : ("cases", some (.object (branch.cases.map fun p => (p.1, p.2.toJson)))) ∈
        branchWritten branch := by
      simp [branchWritten]
    have hmember : (p.1, p.2.toJson) ∈ branch.cases.map fun p => (p.1, p.2.toJson) :=
      List.mem_map_of_mem hp
    calc p.2.toJson.depth
      _ < (Json.object (branch.cases.map fun p => (p.1, p.2.toJson))).depth :=
        Json.depth_lt_of_mem hmember
      _ < (branchToJson branch).depth := Json.depth_lt_of_record hspells hcases
      _ < step.toJson.depth := hbranch
  · have hdefault : ("default", some case.toJson) ∈ branchWritten branch := by
      simp [branchWritten, Option.mem_def.1 hcase]
    exact Nat.lt_trans (Json.depth_lt_of_record hspells hdefault) hbranch

/-- With enough fuel, the canonical form of a step is read as the step. -/
theorem read?_toJson {fuel : Nat} {step : Step} (h : step.NoNullBody)
    (hfuel : step.toJson.depth < fuel) : read? fuel step.toJson = some step := by
  -- Fuel and depth shrink together: the steps of a branch nest less deep than the step.
  induction fuel generalizing step with
  | zero => cases hfuel
  | succ fuel ih =>
    obtain ⟨hrequest, hbranches⟩ := noNullBody_iff.1 h
    have hmessage : optional Message.ofJson? (step.message.map Message.toJson) = some step.message :=
      optional_map (fun message _ => message.ofJson?_toJson) fun message _ => message.toJson_ne_null
    have hlinks : optional (Json.keyed? Json.text?) (step.links.map .texts) = some step.links :=
      optional_map (fun links _ => Json.keyed?_texts links) fun _ _ => Json.noConfusion
    have hinput : optional Input.ofJson? (step.input.map Input.toJson) = some step.input :=
      optional_map (fun input _ => input.ofJson?_toJson) fun _ _ => Json.noConfusion
    have hexecute : optional Call.ofJson? (step.execute.map Call.toJson) = some step.execute :=
      optional_map (fun call _ => call.ofJson?_toJson) fun _ _ => Json.noConfusion
    have hfetch : optional Fetch.ofJson? (step.request.map Fetch.toJson) = some step.request :=
      optional_map (fun fetch hfetch => Fetch.ofJson?_toJson (hrequest fetch hfetch))
        fun _ _ => Json.noConfusion
    have hswitch : optional (branchOfJson? (read? fuel)) (step.switch.map branchToJson) =
        some step.switch := by
      refine optional_map (fun branch hbranch => ?_) fun _ _ => Json.noConfusion
      obtain ⟨hcases, hfallback⟩ := hbranches branch hbranch
      obtain ⟨hshallow, hshallow'⟩ := depth_lt_of_branch hbranch
      refine branchOfJson?_branchToJson (fun p hp => ?_) fun case hcase => ?_
      · exact ih (hcases p hp) (Nat.lt_of_lt_of_le (hshallow p hp) (Nat.le_of_lt_succ hfuel))
      · exact ih (hfallback case hcase)
          (Nat.lt_of_lt_of_le (hshallow' case hcase) (Nat.le_of_lt_succ hfuel))
    have hdelay : optional Json.real? (step.delay.map .real) = some step.delay :=
      optional_map (fun _ _ => rfl) fun _ _ => Json.noConfusion
    have hclear : optional Json.bool? (step.clearVariables.map .bool) = some step.clearVariables :=
      optional_map (fun _ _ => rfl) fun _ _ => Json.noConfusion
    rw [toJson_eq, read?, slots?_record step.written_spells]
    simp only [written, Keyed.values, List.map_cons, List.map_nil, Option.bind_eq_bind,
      Option.bind_some, hmessage, hlinks, optional_text, hinput, hexecute, hfetch, hswitch, hdelay,
      hclear]
    cases step
    rfl

/-- **Reading the canonical form of a step gives the step.** -/
theorem ofJson?_toJson {step : Step} (h : step.NoNullBody) : ofJson? step.toJson = some step :=
  read?_toJson h (Nat.lt_succ_self _)

end Step

end Dialogue
