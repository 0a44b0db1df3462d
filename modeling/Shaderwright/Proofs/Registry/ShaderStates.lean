import Mathlib.Data.List.DropRight
import Shaderwright.Material.Grid

/-!
The history of one material. Whether its shaders are built, stale or not built
yet is told by what was done to them, and a pair that is kept belongs to the
light counts that were set last (`shaders_follow_history`).
-/

namespace Shaderwright

/-! ## Histories -/

/-- What can be done to the shaders of a material, in the workshop of that
moment. -/
inductive ShadersAction where
  | setLightCounts (lights : LightCounts) (workshop : Workshop)
  | invalidate
  | rebuild (dialect : Dialect) (workshop : Workshop)

def ShadersAction.lights? : ShadersAction → Option LightCounts
  | .setLightCounts lights _ => some lights
  | _ => none

/-- The shaders of a material, and what is done to them next. -/
structure ShadersStep where
  shaders : MaterialShaders
  action : ShadersAction

namespace ShadersStep

/-- The shaders after the step. -/
def result (step : ShadersStep) : MaterialShaders :=
  match step.action with
  | .setLightCounts lights workshop =>
      (step.shaders.setLightCounts lights workshop).1.2
  | .invalidate => step.shaders.invalidate
  | .rebuild dialect workshop =>
      (step.shaders.rebuildIfStale dialect workshop).1.2

/-- The step is a rebuild that answers a pair. -/
def succeeds (step : ShadersStep) : Bool :=
  match step.action with
  | .rebuild dialect workshop =>
      (step.shaders.rebuildIfStale dialect workshop).1.1.isOk
  | _ => false

/-- The step invalidates the shaders, or sets light counts other than those of
that moment. -/
def outdates (step : ShadersStep) : Bool :=
  match step.action with
  | .setLightCounts lights _ => decide (lights ≠ step.shaders.lights)
  | .invalidate => true
  | .rebuild _ _ => false

end ShadersStep

/-- The shaders after a history. -/
def MaterialShaders.after (shaders : MaterialShaders)
    (actions : List ShadersAction) : MaterialShaders :=
  actions.foldl (fun before action => (ShadersStep.mk before action).result)
    shaders

/-- The steps of a history. -/
def MaterialShaders.steps (shaders : MaterialShaders) :
    List ShadersAction → List ShadersStep
  | [] => []
  | action :: rest =>
      ⟨shaders, action⟩ :: (ShadersStep.mk shaders action).result.steps rest

/-- The steps after the last rebuild that answered a pair; all of them where
none did. -/
def sinceLastSuccess (steps : List ShadersStep) : List ShadersStep :=
  steps.rtakeWhile fun step => !step.succeeds

/-- The light counts after a history: those that were set last. -/
def lightsAfter (lights : LightCounts) (actions : List ShadersAction) :
    LightCounts :=
  ((actions.filterMap ShadersAction.lights?).getLast?).getD lights

/-- What is compiled from a material that is built in a workshop. -/
def Material.compiledIn (material : Material) (dialect : Dialect)
    (lights : LightCounts) (workshop : Workshop) :
    Except LoweringError CompiledPair :=
  ((material.build lights workshop).1.compile dialect).1

section Histories

variable (shaders : MaterialShaders) (actions : List ShadersAction)
  (action : ShadersAction)

theorem MaterialShaders.after_concat :
    shaders.after (actions ++ [action]) =
      (ShadersStep.mk (shaders.after actions) action).result := by
  simp [MaterialShaders.after]

theorem MaterialShaders.steps_concat :
    shaders.steps (actions ++ [action]) =
      shaders.steps actions ++ [⟨shaders.after actions, action⟩] := by
  induction actions generalizing shaders with
  | nil =>
      rfl
  | cons first rest inductionHypothesis =>
      simp [MaterialShaders.steps, MaterialShaders.after,
        inductionHypothesis]

theorem lightsAfter_concat (lights : LightCounts) :
    lightsAfter lights (actions ++ [action]) =
      action.lights?.getD (lightsAfter lights actions) := by
  cases found : action.lights? <;> simp [lightsAfter, found]

theorem noSuccess_concat (steps : List ShadersStep) {step : ShadersStep}
    (other : step.succeeds = false) :
    (∀ listed ∈ steps ++ [step], listed.succeeds = false) ↔
      ∀ listed ∈ steps, listed.succeeds = false := by
  rw [List.forall_mem_append]
  simp [other]

theorem sinceLastSuccess_concat_succeeded (steps : List ShadersStep)
    {step : ShadersStep} (succeeded : step.succeeds = true) :
    sinceLastSuccess (steps ++ [step]) = [] := by
  simp [sinceLastSuccess, succeeded]

theorem sinceLastSuccess_concat (steps : List ShadersStep)
    {step : ShadersStep} (other : step.succeeds = false) :
    sinceLastSuccess (steps ++ [step]) =
      sinceLastSuccess steps ++ [step] := by
  simp [sinceLastSuccess, other]

end Histories

/-! ## One step -/

namespace MaterialShaders

variable {shaders : MaterialShaders}

/-- Kept shaders are answered as they are, and nothing is built. -/
theorem rebuildIfStale_of_compiled {pair : CompiledPair}
    (kept : shaders.compiled? = some pair) (dialect : Dialect)
    (workshop : Workshop) :
    shaders.rebuildIfStale dialect workshop =
      ((.ok pair, shaders), workshop) := by
  unfold rebuildIfStale
  rw [take_of_compiled kept]
  dsimp only
  rw [insert_taken kept]
  rfl

/-- Without a pair, one is compiled for the light counts, and kept unless
lowering fails. -/
theorem rebuildIfStale_of_missing (missing : shaders.compiled? = none)
    (dialect : Dialect) (workshop : Workshop) :
    (shaders.rebuildIfStale dialect workshop).1 =
      match shaders.material.compiledIn dialect shaders.lights workshop with
      | .error fault => (.error fault, shaders)
      | .ok pair =>
          (.ok pair, { shaders with compiled? := some pair, state := .built })
          := by
  unfold rebuildIfStale Material.compiledIn
  rw [take_of_missing missing]
  simp only [bind, StateT.bind]
  generalize shaders.material.build shaders.lights workshop = building
  obtain ⟨trees, later⟩ := building
  dsimp only
  generalize trees.compile dialect = compiling
  obtain ⟨outcome, events⟩ := compiling
  cases outcome <;> rfl

theorem rebuildIfStale_answer (missing : shaders.compiled? = none)
    (dialect : Dialect) (workshop : Workshop) :
    (shaders.rebuildIfStale dialect workshop).1.1 =
      shaders.material.compiledIn dialect shaders.lights workshop := by
  rw [rebuildIfStale_of_missing missing]
  cases shaders.material.compiledIn dialect shaders.lights workshop <;> rfl

/-- A rebuild that fails leaves everything as it was. -/
theorem rebuildIfStale_of_error {dialect : Dialect} {workshop : Workshop}
    {fault : LoweringError}
    (failed : (shaders.rebuildIfStale dialect workshop).1.1 =
      .error fault) :
    (shaders.rebuildIfStale dialect workshop).1.2 = shaders := by
  cases kept : shaders.compiled? with
  | some pair =>
      rw [rebuildIfStale_of_compiled kept]
  | none =>
      rw [rebuildIfStale_of_missing kept] at failed ⊢
      generalize shaders.material.compiledIn dialect shaders.lights workshop =
        answer at failed ⊢
      cases answer with
      | error =>
          rfl
      | ok pair =>
          cases failed

/-- The pair that a rebuild answers was kept before, and then nothing changes,
or it is compiled for the light counts, which stay, and kept from now on. -/
theorem rebuildIfStale_of_ok {dialect : Dialect} {workshop : Workshop}
    {pair : CompiledPair}
    (answered : (shaders.rebuildIfStale dialect workshop).1.1 = .ok pair) :
    (shaders.compiled? = some pair ∧
        (shaders.rebuildIfStale dialect workshop).1.2 = shaders) ∨
      (shaders.compiled? = none ∧
        shaders.material.compiledIn dialect shaders.lights workshop =
          .ok pair ∧
        (shaders.rebuildIfStale dialect workshop).1.2 =
          { shaders with compiled? := some pair, state := .built }) := by
  cases kept : shaders.compiled? with
  | some stored =>
      rw [rebuildIfStale_of_compiled kept] at answered ⊢
      cases answered
      exact .inl ⟨rfl, rfl⟩
  | none =>
      rw [rebuildIfStale_of_missing kept] at answered ⊢
      cases compiled :
          shaders.material.compiledIn dialect shaders.lights workshop with
      | error =>
          rw [compiled] at answered
          cases answered
      | ok new =>
          rw [compiled] at answered
          cases answered
          exact .inr ⟨rfl, rfl, rfl⟩

end MaterialShaders

/-- The light counts after the step. -/
def ShadersStep.lightsNext (step : ShadersStep) : LightCounts :=
  step.action.lights?.getD step.shaders.lights

/-- What a step can do to the shaders. -/
inductive ShadersStep.Effect (step : ShadersStep) : MaterialShaders → Prop
  | kept (other : step.succeeds = false) (current : step.outdates = false)
      (sameLights : step.lightsNext = step.shaders.lights) :
      Effect step step.shaders
  | outdated (other : step.succeeds = false)
      (outdates : step.outdates = true) :
      Effect step { step.shaders with lights := step.lightsNext }.invalidate
  | answered {dialect : Dialect} {workshop : Workshop} {pair : CompiledPair}
      (isRebuild : step.action = .rebuild dialect workshop)
      (succeeded : step.succeeds = true)
      (stored : step.shaders.compiled? = some pair) :
      Effect step step.shaders
  | rebuilt {dialect : Dialect} {workshop : Workshop} {pair : CompiledPair}
      (isRebuild : step.action = .rebuild dialect workshop)
      (succeeded : step.succeeds = true)
      (compiled : step.shaders.material.compiledIn dialect
        step.shaders.lights workshop = .ok pair) :
      Effect step
        { step.shaders with compiled? := some pair, state := .built }

theorem ShadersStep.effect (step : ShadersStep) :
    step.Effect step.result := by
  obtain ⟨shaders, action⟩ := step
  cases action with
  | setLightCounts lights workshop =>
      by_cases same : lights = shaders.lights
      · have unchanged :
            (ShadersStep.mk shaders (.setLightCounts lights workshop)).result =
              shaders := by
          simp only [result, MaterialShaders.setLightCounts, if_pos same]
          rfl
        rw [unchanged]
        exact .kept rfl (by simp [outdates, same]) same
      · have changed :
            (ShadersStep.mk shaders (.setLightCounts lights workshop)).result =
              { shaders with lights := lights }.invalidate := by
          simp only [result, MaterialShaders.setLightCounts, if_neg same]
          rfl
        rw [changed]
        exact .outdated rfl (by simp [outdates, same])
  | invalidate =>
      exact .outdated rfl rfl
  | rebuild dialect workshop =>
      let step := ShadersStep.mk shaders (.rebuild dialect workshop)
      cases answer : (shaders.rebuildIfStale dialect workshop).1.1 with
      | error fault =>
          have unchanged : step.result = shaders :=
            MaterialShaders.rebuildIfStale_of_error answer
          rw [unchanged]
          refine .kept ?_ rfl rfl
          simp [succeeds, answer, Except.isOk, Except.toBool]
      | ok pair =>
          have succeeded : step.succeeds = true := by
            simp [step, succeeds, answer, Except.isOk, Except.toBool]
          rcases MaterialShaders.rebuildIfStale_of_ok answer with
            ⟨stored, unchanged⟩ | ⟨_, compiled, changed⟩
          · have same : step.result = shaders := unchanged
            rw [same]
            exact .answered rfl succeeded stored
          · have later : step.result =
                { shaders with compiled? := some pair, state := .built } :=
              changed
            rw [later]
            exact .rebuilt rfl succeeded compiled

theorem MaterialShaders.invalidate_material (shaders : MaterialShaders) :
    shaders.invalidate.material = shaders.material := by
  cases kept : shaders.compiled? with
  | none =>
      rw [invalidate_of_missing kept]
  | some pair =>
      rw [invalidate_of_compiled kept]

theorem MaterialShaders.invalidate_lights (shaders : MaterialShaders) :
    shaders.invalidate.lights = shaders.lights := by
  cases kept : shaders.compiled? with
  | none =>
      rw [invalidate_of_missing kept]
  | some pair =>
      rw [invalidate_of_compiled kept]

theorem ShadersStep.result_material (step : ShadersStep) :
    step.result.material = step.shaders.material := by
  have effect := step.effect
  generalize step.result = later at effect
  cases effect with
  | outdated other outdates =>
      exact MaterialShaders.invalidate_material _
  | _ =>
      rfl

theorem ShadersStep.result_lights (step : ShadersStep) :
    step.result.lights = step.lightsNext := by
  have effect := step.effect
  generalize step.result = later at effect
  cases effect with
  | kept other current sameLights =>
      exact sameLights.symm
  | outdated other outdates =>
      exact MaterialShaders.invalidate_lights _
  | answered isRebuild succeeded stored =>
      simp [lightsNext, isRebuild, ShadersAction.lights?]
  | rebuilt isRebuild succeeded compiled =>
      simp [lightsNext, isRebuild, ShadersAction.lights?]

/-! ## The state of the shaders -/

/-- The state says whether there is a compiled pair. -/
def MaterialShaders.Coherent (shaders : MaterialShaders) : Prop :=
  shaders.state = .built ↔ shaders.compiled?.isSome = true

namespace MaterialShaders

variable {shaders : MaterialShaders}

theorem coherent_ofMaterial (material : Material) (lights : LightCounts) :
    (ofMaterial material lights).Coherent := by
  simp [Coherent, ofMaterial]

theorem compiled?_invalidate (shaders : MaterialShaders) :
    shaders.invalidate.compiled? = none := by
  cases kept : shaders.compiled? with
  | none =>
      rw [invalidate_of_missing kept, kept]
  | some pair =>
      rw [invalidate_of_compiled kept]

namespace Coherent

theorem state_of_compiled (coherent : shaders.Coherent)
    {pair : CompiledPair} (kept : shaders.compiled? = some pair) :
    shaders.state = .built :=
  coherent.mpr (by rw [kept]; rfl)

theorem state_of_missing (coherent : shaders.Coherent)
    (missing : shaders.compiled? = none) : shaders.state ≠ .built := by
  intro built
  have present := coherent.mp built
  rw [missing] at present
  cases present

theorem exists_pair (coherent : shaders.Coherent)
    (built : shaders.state = .built) :
    ∃ pair, shaders.compiled? = some pair :=
  Option.isSome_iff_exists.mp (coherent.mp built)

theorem compiled?_eq_none (coherent : shaders.Coherent)
    (missing : shaders.state ≠ .built) : shaders.compiled? = none := by
  cases kept : shaders.compiled? with
  | none =>
      rfl
  | some pair =>
      exact absurd (coherent.state_of_compiled kept) missing

theorem withLights (coherent : shaders.Coherent) (lights : LightCounts) :
    ({ shaders with lights := lights } : MaterialShaders).Coherent :=
  coherent

/-- Shaders become stale where they are built; they are no more built in any
case. -/
theorem state_invalidate (coherent : shaders.Coherent) :
    shaders.invalidate.state =
      if shaders.state = .built then .stale else shaders.state := by
  cases kept : shaders.compiled? with
  | none =>
      rw [invalidate_of_missing kept,
        if_neg (coherent.state_of_missing kept)]
  | some pair =>
      rw [invalidate_of_compiled kept,
        if_pos (coherent.state_of_compiled kept)]

protected theorem invalidate (coherent : shaders.Coherent) :
    shaders.invalidate.Coherent := by
  rw [Coherent, compiled?_invalidate, coherent.state_invalidate]
  split <;> simp [*]

/-- Shaders that were never built do not become stale. -/
theorem state_invalidate_unbuilt_iff (coherent : shaders.Coherent) :
    shaders.invalidate.state = .unbuilt ↔ shaders.state = .unbuilt := by
  rw [coherent.state_invalidate]
  split <;> simp [*]

theorem state_invalidate_stale_iff (coherent : shaders.Coherent) :
    shaders.invalidate.state = .stale ↔ ¬ shaders.state = .unbuilt := by
  rw [coherent.state_invalidate]
  cases shaders.state <;> simp

end Coherent

end MaterialShaders

/-- One step keeps the state and the compiled pair together. -/
theorem ShadersStep.coherent_result {step : ShadersStep}
    (coherent : step.shaders.Coherent) : step.result.Coherent := by
  have effect := step.effect
  generalize step.result = later at effect
  cases effect with
  | kept other current sameLights =>
      exact coherent
  | outdated other outdates =>
      exact (coherent.withLights step.lightsNext).invalidate
  | answered isRebuild succeeded stored =>
      exact coherent
  | rebuilt isRebuild succeeded compiled =>
      exact ⟨fun _ => rfl, fun _ => rfl⟩

/-- Any history keeps the state and the compiled pair together. -/
theorem MaterialShaders.Coherent.after {shaders : MaterialShaders}
    (coherent : shaders.Coherent) (actions : List ShadersAction) :
    (shaders.after actions).Coherent := by
  induction actions using List.reverseRecOn with
  | nil =>
      exact coherent
  | append_singleton earlier action inductionHypothesis =>
      rw [after_concat]
      exact ShadersStep.coherent_result inductionHypothesis

/-- The shaders are in the state that the steps so far lead to, and a pair
that is kept was compiled in one of them for the light counts of now. -/
structure MaterialShaders.Remembers (steps : List ShadersStep)
    (shaders : MaterialShaders) : Prop where
  unbuilt : shaders.state = .unbuilt ↔
    ∀ step ∈ steps, step.succeeds = false
  stale : shaders.state = .stale ↔
    (∃ step ∈ steps, step.succeeds = true) ∧
      ∃ step ∈ sinceLastSuccess steps, step.outdates = true
  origin : ∀ pair, shaders.compiled? = some pair →
    ∃ step ∈ steps, ∃ dialect workshop,
      step.action = .rebuild dialect workshop ∧
        shaders.material.compiledIn dialect shaders.lights workshop =
          .ok pair

theorem MaterialShaders.Remembers.start (material : Material)
    (lights : LightCounts) :
    (MaterialShaders.ofMaterial material lights).Remembers [] := by
  refine ⟨?_, ?_, ?_⟩
  · exact ⟨fun _ _ member => (List.not_mem_nil member).elim, fun _ => rfl⟩
  · constructor
    · intro impossible
      cases impossible
    · rintro ⟨⟨_, member, _⟩, _⟩
      exact (List.not_mem_nil member).elim
  · intro pair impossible
    cases impossible

/-- Behind a rebuild that answers a pair the shaders are built. -/
theorem MaterialShaders.Remembers.of_built {steps : List ShadersStep}
    {step : ShadersStep} {later : MaterialShaders}
    (succeeded : step.succeeds = true) (built : later.state = .built)
    (origin : ∀ pair, later.compiled? = some pair →
      ∃ source ∈ steps ++ [step], ∃ dialect workshop,
        source.action = .rebuild dialect workshop ∧
          later.material.compiledIn dialect later.lights workshop =
            .ok pair) :
    later.Remembers (steps ++ [step]) := by
  refine ⟨?_, ?_, origin⟩
  · rw [built]
    refine iff_of_false (by simp) fun none => ?_
    rw [none step (by simp)] at succeeded
    cases succeeded
  · rw [built, sinceLastSuccess_concat_succeeded steps succeeded]
    simp

/-- One more step. -/
theorem MaterialShaders.Remembers.step {steps : List ShadersStep}
    {step : ShadersStep} (coherent : step.shaders.Coherent)
    (remembers : step.shaders.Remembers steps) :
    step.result.Remembers (steps ++ [step]) := by
  obtain ⟨unbuilt, stale, origin⟩ := remembers
  have effect := step.effect
  generalize step.result = later at effect
  have earlier {pair : CompiledPair}
      (stored : step.shaders.compiled? = some pair) :
      ∃ source ∈ steps ++ [step], ∃ dialect workshop,
        source.action = .rebuild dialect workshop ∧
          step.shaders.material.compiledIn dialect step.shaders.lights
            workshop = .ok pair := by
    obtain ⟨source, member, compiled⟩ := origin pair stored
    exact ⟨source, List.mem_append_left _ member, compiled⟩
  cases effect with
  | kept other current =>
      refine ⟨?_, ?_, fun pair stored => earlier stored⟩
      · rw [unbuilt, noSuccess_concat steps other]
      · simp [stale, sinceLastSuccess_concat, other, current, or_and_right,
          exists_or]
  | outdated other outdates =>
      have recounted := coherent.withLights step.lightsNext
      refine ⟨?_, ?_, ?_⟩
      · rw [recounted.state_invalidate_unbuilt_iff, unbuilt,
          noSuccess_concat steps other]
      · have noticed : ∃ later ∈ sinceLastSuccess (steps ++ [step]),
            later.outdates = true := by
          refine ⟨step, ?_, outdates⟩
          simp [sinceLastSuccess_concat, other]
        rw [recounted.state_invalidate_stale_iff, unbuilt,
          and_iff_left noticed]
        simp [other]
      · intro pair stored
        rw [compiled?_invalidate] at stored
        cases stored
  | answered isRebuild succeeded stored =>
      exact .of_built succeeded (coherent.state_of_compiled stored)
        fun pair => earlier
  | rebuilt isRebuild succeeded compiled =>
      refine .of_built succeeded rfl fun pair stored => ?_
      cases stored
      exact ⟨step, by simp, _, _, isRebuild, compiled⟩

theorem MaterialShaders.Remembers.after (material : Material)
    (lights : LightCounts) (actions : List ShadersAction) :
    ((ofMaterial material lights).after actions).Remembers
      ((ofMaterial material lights).steps actions) := by
  induction actions using List.reverseRecOn with
  | nil =>
      exact .start material lights
  | append_singleton earlier action inductionHypothesis =>
      rw [after_concat, steps_concat]
      exact .step ((coherent_ofMaterial material lights).after earlier)
        inductionHypothesis

theorem MaterialShaders.after_material (shaders : MaterialShaders)
    (actions : List ShadersAction) :
    (shaders.after actions).material = shaders.material := by
  induction actions using List.reverseRecOn with
  | nil =>
      rfl
  | append_singleton earlier action inductionHypothesis =>
      rw [after_concat, ShadersStep.result_material]
      exact inductionHypothesis

theorem MaterialShaders.after_lights (shaders : MaterialShaders)
    (actions : List ShadersAction) :
    (shaders.after actions).lights = lightsAfter shaders.lights actions := by
  induction actions using List.reverseRecOn with
  | nil =>
      rfl
  | append_singleton earlier action inductionHypothesis =>
      rw [after_concat, ShadersStep.result_lights, lightsAfter_concat,
        ← inductionHypothesis]
      rfl

theorem MaterialShaders.mem_of_mem_steps {shaders : MaterialShaders}
    {actions : List ShadersAction} {step : ShadersStep}
    (member : step ∈ shaders.steps actions) : step.action ∈ actions := by
  induction actions generalizing shaders with
  | nil =>
      cases member
  | cons first rest inductionHypothesis =>
      rcases List.mem_cons.mp member with rfl | later
      · exact List.mem_cons_self
      · exact List.mem_cons_of_mem _ (inductionHypothesis later)

/-- After any history the shaders are in the state that it leads to. A rebuild
that finds no pair answers what is compiled for the light counts of now, and
changes nothing if that fails; one that finds a pair answers it and leaves the
workshop alone; and a pair that is kept was compiled for the light counts of
now, by a rebuild of the history. -/
theorem shaders_follow_history (material : Material) (lights : LightCounts)
    (actions : List ShadersAction) :
    let start := MaterialShaders.ofMaterial material lights
    let steps := start.steps actions
    let now := start.after actions
    (now.material = material ∧ now.lights = lightsAfter lights actions) ∧
      (now.state = .built ↔ now.compiled?.isSome = true) ∧
      (now.state = .unbuilt ↔ ∀ step ∈ steps, step.succeeds = false) ∧
      (now.state = .stale ↔
        (∃ step ∈ steps, step.succeeds = true) ∧
          ∃ step ∈ sinceLastSuccess steps, step.outdates = true) ∧
      (now.compiled? = none → ∀ dialect workshop,
        (now.rebuildIfStale dialect workshop).1.1 =
          material.compiledIn dialect now.lights workshop) ∧
      (∀ dialect workshop fault,
        (now.rebuildIfStale dialect workshop).1.1 = .error fault →
          (now.rebuildIfStale dialect workshop).1.2 = now) ∧
      (now.state = .built → ∃ pair, now.compiled? = some pair ∧
        (∀ dialect workshop,
          now.rebuildIfStale dialect workshop =
            ((.ok pair, now), workshop)) ∧
        ∃ dialect workshop, .rebuild dialect workshop ∈ actions ∧
          material.compiledIn dialect now.lights workshop = .ok pair) := by
  intro start steps now
  have sameMaterial : now.material = material := start.after_material actions
  have lastLights : now.lights = lightsAfter lights actions :=
    start.after_lights actions
  have coherent : now.Coherent :=
    (MaterialShaders.coherent_ofMaterial material lights).after actions
  have remembers : now.Remembers steps := .after material lights actions
  refine ⟨⟨sameMaterial, lastLights⟩, coherent, remembers.unbuilt,
    remembers.stale, ?_, ?_, ?_⟩
  · intro missing dialect workshop
    rw [MaterialShaders.rebuildIfStale_answer missing, sameMaterial]
  · intro dialect workshop fault failed
    exact MaterialShaders.rebuildIfStale_of_error failed
  · intro built
    obtain ⟨pair, kept⟩ := coherent.exists_pair built
    refine ⟨pair, kept, MaterialShaders.rebuildIfStale_of_compiled kept, ?_⟩
    obtain ⟨step, member, dialect, workshop, isRebuild, compiled⟩ :=
      remembers.origin pair kept
    rw [sameMaterial] at compiled
    refine ⟨dialect, workshop, ?_, compiled⟩
    exact isRebuild ▸ MaterialShaders.mem_of_mem_steps member

/-- Light counts that are set back do not bring back what was dropped. -/
example :
    ((MaterialShaders.ofMaterial (.grid "floor") {}).after
      [ .rebuild .glslEs100 .empty, .setLightCounts ⟨1, 0, 0⟩ .empty,
        .setLightCounts {} .empty ]).state = .stale := by
  decide +kernel

end Shaderwright
