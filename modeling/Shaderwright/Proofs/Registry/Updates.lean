import Shaderwright.Material.Grid
import Shaderwright.Proofs.Registry.Requests

/-!
The light counts in a registry. Every material has the light counts that were
set last, for itself or for the scene, identifiers are given out once, and
what is asked of one material changes no other one (`updates_kept`).
-/

namespace Shaderwright

/-! ## Registrations -/

namespace MaterialRegistry

/-- The identifiers that registrations are answered. -/
def identifiers (registry : MaterialRegistry) :
    List RegistryRequest → List Nat
  | [] => []
  | .register material :: rest =>
      (registry.register material).1 ::
        (registry.register material).2.identifiers rest
  | request :: rest => (registry.serve request).identifiers rest

end MaterialRegistry

/-- The last of some light counts, or those there were before. -/
def latestLights (before : LightCounts) (counts : List LightCounts) :
    LightCounts :=
  counts.getLast?.getD before

/-- The light counts of the scene after a list of requests. -/
def sceneLightsAfter (requests : List RegistryRequest) : LightCounts :=
  latestLights {} (requests.filterMap RegistryRequest.sceneLights?)

/-- The registration in a list of requests that gave an identifier out, where
no later request takes it back. -/
structure Registration (dialect : Dialect) (requests : List RegistryRequest)
    (id : Nat) where
  before : List RegistryRequest
  material : Material
  later : List RegistryRequest
  requests_eq : requests = before ++ .register material :: later
  issued :
    (((MaterialRegistry.empty dialect).serveAll before).register
      material).1 = id
  kept : ∀ request ∈ later, request ≠ .unregister id

/-- The light counts of a registered material: those that were set last, for
it or for the scene, and before that those of the scene at its
registration. -/
def Registration.lights {dialect : Dialect}
    {requests : List RegistryRequest} {id : Nat}
    (registration : Registration dialect requests id) : LightCounts :=
  latestLights (sceneLightsAfter registration.before)
    (registration.later.filterMap (RegistryRequest.lightsFor? id))

theorem latestLights_cons (before lights : LightCounts)
    (later : List LightCounts) :
    latestLights before (lights :: later) = latestLights lights later := by
  simp [latestLights, List.getLast?_cons]

theorem sceneLightsAfter_concat (requests : List RegistryRequest)
    (request : RegistryRequest) :
    sceneLightsAfter (requests ++ [request]) =
      request.sceneLights?.getD (sceneLightsAfter requests) := by
  cases found : request.sceneLights? <;>
    simp [sceneLightsAfter, latestLights, found]

namespace MaterialRegistry

variable {registry : MaterialRegistry}

/-! ## All requests -/

/-- A registered material that is never taken back has the light counts that
were set last. -/
theorem WellKept.find?_serveAll_of_some (wellKept : registry.WellKept)
    {requests : List RegistryRequest} {id : Nat} {shaders : MaterialShaders}
    (found : registry.find? id = some shaders)
    (kept : ∀ request ∈ requests, request ≠ .unregister id) :
    ∃ later, (registry.serveAll requests).find? id = some later ∧
      later.material = shaders.material ∧
      later.lights = latestLights shaders.lights
        (requests.filterMap (RegistryRequest.lightsFor? id)) := by
  induction requests generalizing registry shaders with
  | nil =>
      exact ⟨shaders, found, rfl, rfl⟩
  | cons request rest inductionHypothesis =>
      obtain ⟨keptNow, keptLater⟩ := List.forall_mem_cons.mp kept
      obtain ⟨next, next_eq, material, lights⟩ :=
        wellKept.find?_serve_of_some found keptNow
      obtain ⟨later, later_eq, laterMaterial, laterLights⟩ :=
        inductionHypothesis (wellKept.serve request) next_eq keptLater
      refine ⟨later, later_eq, laterMaterial.trans material, ?_⟩
      rw [laterLights, lights]
      cases set : request.lightsFor? id with
      | none =>
          rw [List.filterMap_cons_none set]
          rfl
      | some counts =>
          rw [List.filterMap_cons_some set, latestLights_cons]
          rfl

theorem lights_serve (registry : MaterialRegistry)
    (request : RegistryRequest) :
    (registry.serve request).lights =
      request.sceneLights?.getD registry.lights := by
  cases request with
  | setLightCounts id lights =>
      rw [serve]
      cases found : registry.find? id with
      | none =>
          simp only [setLightCounts, found]
          rfl
      | some shaders =>
          rw [setLightCounts_of_find? found]
          rfl
  | compiled id =>
      rw [serve]
      cases found : registry.find? id with
      | none =>
          simp only [compiled, found]
          rfl
      | some shaders =>
          rw [compiled_of_find? found]
          rfl
  | _ =>
      rfl

theorem serveAll_concat (registry : MaterialRegistry)
    (requests : List RegistryRequest) (request : RegistryRequest) :
    registry.serveAll (requests ++ [request]) =
      (registry.serveAll requests).serve request := by
  simp [serveAll]

/-- The light counts of the scene are those that were set last. -/
theorem lights_serveAll (dialect : Dialect)
    (requests : List RegistryRequest) :
    ((empty dialect).serveAll requests).lights =
      sceneLightsAfter requests := by
  induction requests using List.reverseRecOn with
  | nil =>
      rfl
  | append_singleton requests request inductionHypothesis =>
      rw [serveAll_concat, lights_serve, inductionHypothesis,
        sceneLightsAfter_concat]

/-- Every registration is answered the next identifier. -/
theorem identifiers_eq (registry : MaterialRegistry)
    (requests : List RegistryRequest) :
    registry.identifiers requests =
      List.range' registry.nextId
        (requests.countP RegistryRequest.isRegistration) := by
  induction requests generalizing registry with
  | nil =>
      rfl
  | cons request rest inductionHypothesis =>
      by_cases registers : request.isRegistration = true
      case pos =>
          cases request with
          | register material =>
              rw [identifiers, inductionHypothesis,
                List.countP_cons_of_pos registers, List.range'_succ]
              rfl
          | _ =>
              cases registers
      case neg =>
          have others : request.isRegistration = false :=
            Bool.eq_false_iff.mpr registers
          have next := (registry.keys_serve others).2
          have unanswered : registry.identifiers (request :: rest) =
              (registry.serve request).identifiers rest := by
            cases request with
            | register material =>
                cases others
            | _ =>
                rfl
          rw [unanswered, inductionHypothesis, next,
            List.countP_cons_of_neg registers]

/-- The next identifier counts the registrations. -/
theorem nextId_serveAll (registry : MaterialRegistry)
    (requests : List RegistryRequest) :
    (registry.serveAll requests).nextId =
      registry.nextId + requests.countP RegistryRequest.isRegistration := by
  induction requests using List.reverseRecOn with
  | nil =>
      rfl
  | append_singleton requests request inductionHypothesis =>
      rw [serveAll_concat, List.countP_append, ← Nat.add_assoc,
        ← inductionHypothesis]
      by_cases registers : request.isRegistration = true
      case pos =>
          cases request with
          | register material =>
              rfl
          | _ =>
              cases registers
      case neg =>
          rw [(keys_serve (Bool.eq_false_iff.mpr registers)).2,
            List.countP_singleton, if_neg registers, Nat.add_zero]

/-- With fewer registrations than there are words of 32 bits, the next
identifier is such a word, and so is each that was given out. -/
theorem nextId_lt_size (dialect : Dialect) {requests : List RegistryRequest}
    (few : requests.countP RegistryRequest.isRegistration < UInt32.size) :
    ((empty dialect).serveAll requests).nextId < UInt32.size ∧
      ∀ id ∈ (empty dialect).identifiers requests, id < UInt32.size := by
  have counted := nextId_serveAll (empty dialect) requests
  have start : (empty dialect).nextId = 0 := rfl
  rw [start, Nat.zero_add] at counted
  refine ⟨counted ▸ few, ?_⟩
  intro id given
  rw [identifiers_eq, start, List.mem_range'_1] at given
  omega

end MaterialRegistry

/-! ## Registered materials -/

section Registrations

open MaterialRegistry

variable {dialect : Dialect} {requests : List RegistryRequest} {id : Nat}

/-- A material that was registered, and not taken back, has the light counts
that were set last. -/
theorem Registration.exists_shaders
    (registration : Registration dialect requests id) :
    ∃ shaders,
      ((MaterialRegistry.empty dialect).serveAll requests).find? id =
        some shaders ∧
      shaders.material = registration.material ∧
      shaders.lights = registration.lights := by
  obtain ⟨before, material, later, rfl, issued, kept⟩ := registration
  have wellKept : ((empty dialect).serveAll before).WellKept :=
    (wellKept_empty dialect).serveAll before
  have registered := wellKept.find?_register material id
  rw [if_pos (show id = ((empty dialect).serveAll before).nextId from
    issued.symm)] at registered
  obtain ⟨shaders, found, sameMaterial, lights⟩ :=
    (wellKept.serve (.register material)).find?_serveAll_of_some
      registered kept
  refine ⟨shaders, ?_, sameMaterial, ?_⟩
  · rw [serveAll, List.foldl_append]
    exact found
  · rw [lights, Registration.lights]
    show latestLights ((empty dialect).serveAll before).lights _ = _
    rw [lights_serveAll]

/-- A material was registered by the last registration under its identifier,
and not taken back. -/
theorem exists_registration (dialect : Dialect)
    (requests : List RegistryRequest)
    (present :
      (((MaterialRegistry.empty dialect).serveAll requests).find?
        id).isSome) :
    Nonempty (Registration dialect requests id) := by
  induction requests using List.reverseRecOn with
  | nil =>
      cases present
  | append_singleton requests request inductionHypothesis =>
      have wellKept : ((empty dialect).serveAll requests).WellKept :=
        (wellKept_empty dialect).serveAll requests
      rw [serveAll_concat] at present
      by_cases earlier :
          (((empty dialect).serveAll requests).find? id).isSome
      case pos =>
          obtain ⟨before, material, later, requests_eq, issued, kept⟩ :=
            inductionHypothesis earlier
          have keptNow : request ≠ .unregister id := by
            rintro rfl
            rw [serve, find?_unregister, if_pos rfl] at present
            cases present
          refine ⟨before, material, later ++ [request], ?_, issued, ?_⟩
          · rw [requests_eq, List.append_assoc, List.cons_append]
          · exact List.forall_mem_append.mpr
              ⟨kept, List.forall_mem_singleton.mpr keptNow⟩
      case neg =>
          have missing := Option.not_isSome_iff_eq_none.mp earlier
          obtain ⟨material, rfl, rfl⟩ :=
            wellKept.find?_serve_of_none missing present
          exact ⟨requests, material, [], rfl, rfl,
            fun _ impossible => absurd impossible List.not_mem_nil⟩

theorem isSome_find?_iff_registration (dialect : Dialect)
    (requests : List RegistryRequest) (id : Nat) :
    (((MaterialRegistry.empty dialect).serveAll requests).find?
        id).isSome ↔
      Nonempty (Registration dialect requests id) := by
  constructor
  · exact exists_registration dialect requests
  · rintro ⟨registration⟩
    obtain ⟨shaders, found, _⟩ := registration.exists_shaders
    rw [found]
    rfl

end Registrations

/-! ## Updates -/

namespace MaterialRegistry

/-- Whether a request of one material can be answered depends on nothing but
whether it is registered, and a refused one changes nothing. -/
structure RefusesUnknown (registry : MaterialRegistry) (id : Nat) :
    Prop where
  state : ∀ other,
    registry.state id = .error (.unknownMaterial other) ↔
      other = id ∧ registry.find? id = none
  setLightCounts : ∀ lights other,
    (registry.setLightCounts id lights).1 =
        .error (.unknownMaterial other) ↔
      other = id ∧ registry.find? id = none
  compiled : ∀ other,
    (registry.compiled id).1 = .error (.unknownMaterial other) ↔
      other = id ∧ registry.find? id = none
  unchanged : registry.find? id = none →
    (∀ lights, (registry.setLightCounts id lights).2 = registry) ∧
      (registry.compiled id).2 = registry

/-- What new light counts of the scene do, where `changed` lists the
identifiers of the materials that had other ones. -/
structure SceneUpdate (registry : MaterialRegistry) (lights : LightCounts)
    (changed : List Nat) : Prop where
  distinct : changed.Nodup
  mem_iff : ∀ id, id ∈ changed ↔
    ∃ shaders, registry.find? id = some shaders ∧ shaders.lights ≠ lights
  count : (registry.setSceneLightCounts lights).1 = changed.length
  unknown : ∀ id, registry.find? id = none →
    (registry.setSceneLightCounts lights).2.find? id = none
  known : ∀ id shaders, registry.find? id = some shaders →
    ∃ later, (registry.setSceneLightCounts lights).2.find? id = some later ∧
      later.material = shaders.material ∧ later.lights = lights ∧
      later.compiled? =
        (if id ∈ changed then none else shaders.compiled?) ∧
      later.state =
        if id ∈ changed ∧ shaders.state = .built then .stale
        else shaders.state

/-- What is asked of one material leaves every other one as it was, with its
light counts, its state and its compiled pair. -/
def LeavesOthers (registry : MaterialRegistry) (id : Nat) : Prop :=
  ∀ other, other ≠ id →
    (∀ lights, (registry.setLightCounts id lights).2.find? other =
      registry.find? other) ∧
    (registry.compiled id).2.find? other = registry.find? other ∧
    (registry.unregister id).2.find? other = registry.find? other

variable {registry : MaterialRegistry}

theorem refusesUnknown (registry : MaterialRegistry) (id : Nat) :
    registry.RefusesUnknown id := by
  cases found : registry.find? id with
  | none =>
      constructor
      · simp [MaterialRegistry.state, found, eq_comm]
      · simp [MaterialRegistry.setLightCounts, found, eq_comm]
      · simp [MaterialRegistry.compiled, found, eq_comm]
      · intro _
        constructor
        · intro lights
          simp only [MaterialRegistry.setLightCounts, found]
        · simp only [MaterialRegistry.compiled, found]
  | some shaders =>
      constructor
      · simp [MaterialRegistry.state, found]
      · simp [setLightCounts_of_find? found, found]
      · intro other
        rw [compiled_of_find? found]
        cases (shaders.rebuildIfStale registry.dialect
          registry.workshop).1.1 <;> simp [Except.mapError, found]
      · intro missing
        cases found.symm.trans missing

theorem leavesOthers (registry : MaterialRegistry) (id : Nat) :
    registry.LeavesOthers id := by
  intro other different
  refine ⟨fun lights => ?_, find?_compiled_of_ne different, ?_⟩
  · rw [find?_setLightCounts, if_neg different]
  · rw [find?_unregister, if_neg different]

theorem WellKept.exists_sceneUpdate (wellKept : registry.WellKept)
    (lights : LightCounts) :
    ∃ changed, registry.SceneUpdate lights changed := by
  let counted := registry.materials.filter fun entry =>
    lights ≠ entry.2.lights
  have mem_iff (id : Nat) : id ∈ counted.map Prod.fst ↔
      ∃ shaders, registry.find? id = some shaders ∧
        shaders.lights ≠ lights := by
    simp only [find?, lookup_eq_some_iff wellKept.distinct, counted,
      List.mem_map, List.mem_filter, decide_eq_true_eq]
    constructor
    · rintro ⟨⟨_, shaders⟩, ⟨listed, other⟩, rfl⟩
      exact ⟨shaders, listed, Ne.symm other⟩
    · rintro ⟨shaders, listed, other⟩
      exact ⟨(id, shaders), ⟨listed, Ne.symm other⟩, rfl⟩
  refine ⟨counted.map Prod.fst, ?_, mem_iff, ?_, ?_, ?_⟩
  · exact (List.filter_sublist.map Prod.fst).nodup wellKept.distinct
  · have count :=
      congrArg Prod.fst (setEach_eq lights registry.materials registry.workshop)
    rw [List.length_map, ← List.countP_eq_length_filter]
    exact count
  · intro id missing
    rw [find?_setSceneLightCounts, missing]
    rfl
  · intro id shaders found
    have changes : id ∈ counted.map Prod.fst ↔ shaders.lights ≠ lights := by
      rw [mem_iff, found]
      simp
    refine ⟨shaders.recounted lights, ?_, shaders.recounted_material lights,
      shaders.recounted_lights lights, ?_, ?_⟩
    · rw [find?_setSceneLightCounts, found]
      rfl
    · simp only [shaders.recounted_compiled?, changes]
    · simp only [(wellKept.coherent_find? found).recounted_state, changes]

end MaterialRegistry

/-- After any requests, identifiers have been given out once each, and a
material is registered when the registration that gave its identifier out was
not taken back. What is asked of an unknown one is refused and changes nothing.
A material has the light counts that were set last for it, by itself or with
the scene. New light counts of the scene drop the pairs of those materials that
had other ones and count them, and what is asked of one material leaves all
others as they were. -/
theorem updates_kept (dialect : Dialect) (requests : List RegistryRequest) :
    let registry := (MaterialRegistry.empty dialect).serveAll requests
    (MaterialRegistry.empty dialect).identifiers requests =
        List.range (requests.countP RegistryRequest.isRegistration) ∧
    (∀ id, (registry.find? id).isSome ↔
      Nonempty (Registration dialect requests id)) ∧
    (∀ id, registry.RefusesUnknown id) ∧
    (∀ id (registration : Registration dialect requests id),
      ∃ shaders, registry.find? id = some shaders ∧
        shaders.material = registration.material ∧
        shaders.lights = registration.lights) ∧
    (∀ lights, ∃ changed, registry.SceneUpdate lights changed) ∧
    (∀ id, registry.LeavesOthers id) := by
  intro registry
  have wellKept : registry.WellKept :=
    (MaterialRegistry.wellKept_empty dialect).serveAll requests
  refine ⟨?_, isSome_find?_iff_registration dialect requests,
    registry.refusesUnknown, fun _ registration =>
      registration.exists_shaders, wellKept.exists_sceneUpdate,
    registry.leavesOthers⟩
  rw [MaterialRegistry.identifiers_eq, List.range_eq_range']
  rfl

section Examples

/-- An identifier that was taken back is not given out again, and a material
of its own light counts is reached by the scene again. -/
example :
    let requests : List RegistryRequest :=
      [ .register (.grid "floor"), .unregister 0, .register (.grid "wall"),
        .setLightCounts 1 ⟨1, 0, 0⟩, .setSceneLightCounts ⟨0, 2, 0⟩ ]
    let registry := (MaterialRegistry.empty .glslEs100).serveAll requests
    (MaterialRegistry.empty .glslEs100).identifiers requests = [0, 1] ∧
      registry.find? 0 = none ∧
      (registry.find? 1).map MaterialShaders.lights = some ⟨0, 2, 0⟩ :=
  ⟨rfl, rfl, rfl⟩

end Examples

end Shaderwright
