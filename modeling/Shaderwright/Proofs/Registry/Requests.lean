import Mathlib.Data.List.Nodup
import Shaderwright.Proofs.Registry.History
import Shaderwright.Proofs.Registry.ShaderStates

/-!
Requests to a registry. What one request leaves under each identifier is told
by the material that was there and by the light counts that the request sets
(`MaterialRegistry.WellKept.find?_serve_of_some`); only a registration fills
an identifier, the next one.
-/

namespace Shaderwright

/-! ## Requests -/

/-- What can be asked of a registry, with materials of any kind. -/
inductive RegistryRequest where
  | register (material : Material)
  | unregister (id : Nat)
  | state (id : Nat)
  | setLightCounts (id : Nat) (lights : LightCounts)
  | setSceneLightCounts (lights : LightCounts)
  | compiled (id : Nat)
  | rebuildAll

namespace RegistryRequest

def isRegistration : RegistryRequest → Bool
  | .register _ => true
  | _ => false

/-- The light counts that a request sets for the scene. -/
def sceneLights? : RegistryRequest → Option LightCounts
  | .setSceneLightCounts lights => some lights
  | _ => none

/-- The light counts that a request sets for a registered material, by itself
or with the scene. -/
def lightsFor? (id : Nat) : RegistryRequest → Option LightCounts
  | .setLightCounts other lights => if other = id then some lights else none
  | .setSceneLightCounts lights => some lights
  | _ => none

end RegistryRequest

namespace MaterialRegistry

/-- The registry after a request. -/
def serve (registry : MaterialRegistry) :
    RegistryRequest → MaterialRegistry
  | .register material => (registry.register material).2
  | .unregister id => (registry.unregister id).2
  | .state _ => registry
  | .setLightCounts id lights => (registry.setLightCounts id lights).2
  | .setSceneLightCounts lights => (registry.setSceneLightCounts lights).2
  | .compiled id => (registry.compiled id).2
  | .rebuildAll => registry.rebuildAll.2

/-- The registry after a list of requests. -/
def serveAll (registry : MaterialRegistry)
    (requests : List RegistryRequest) : MaterialRegistry :=
  requests.foldl serve registry

end MaterialRegistry

/-! ## Entries by identifier -/

section Lookup

variable {materials others : List (Nat × MaterialShaders)} {id other : Nat}

theorem lookup_cons_self (shaders : MaterialShaders)
    (rest : List (Nat × MaterialShaders)) (id : Nat) :
    ((id, shaders) :: rest).lookup id = some shaders := by
  simp

theorem lookup_cons_of_ne (shaders : MaterialShaders)
    (rest : List (Nat × MaterialShaders)) (different : other ≠ id) :
    ((id, shaders) :: rest).lookup other = rest.lookup other := by
  simp [List.lookup_cons, beq_eq_false_iff_ne.mpr different]

theorem lookup_map (change : MaterialShaders → MaterialShaders) (id : Nat) :
    (materials.map fun entry => (entry.1, change entry.2)).lookup id =
      (materials.lookup id).map change := by
  induction materials with
  | nil =>
      rfl
  | cons entry rest inductionHypothesis =>
      obtain ⟨known, shaders⟩ := entry
      by_cases same : id = known
      case pos =>
          subst same
          rw [List.map_cons, lookup_cons_self, lookup_cons_self]
          rfl
      case neg =>
          rw [List.map_cons, lookup_cons_of_ne _ _ same,
            lookup_cons_of_ne _ _ same, inductionHypothesis]

theorem lookup_replaced (shaders : MaterialShaders) (id other : Nat) :
    (materials.map fun entry =>
        if entry.1 = id then (id, shaders) else entry).lookup other =
      if other = id then (materials.lookup id).map fun _ => shaders
      else materials.lookup other := by
  induction materials with
  | nil =>
      by_cases same : other = id <;> simp [same]
  | cons entry rest inductionHypothesis =>
      obtain ⟨known, first⟩ := entry
      rw [List.map_cons]
      by_cases replaced : known = id
      case pos =>
          subst replaced
          rw [if_pos rfl]
          by_cases same : other = known
          case pos =>
              subst same
              rw [lookup_cons_self, lookup_cons_self, if_pos rfl]
              rfl
          case neg =>
              rw [lookup_cons_of_ne _ _ same, inductionHypothesis,
                if_neg same, if_neg same, lookup_cons_of_ne _ _ same]
      case neg =>
          rw [if_neg replaced, lookup_cons_of_ne _ _ (Ne.symm replaced)]
          by_cases found : other = known
          case pos =>
              subst found
              rw [lookup_cons_self, if_neg replaced, lookup_cons_self]
          case neg =>
              rw [lookup_cons_of_ne _ _ found, inductionHypothesis,
                lookup_cons_of_ne _ _ found]

theorem lookup_removed (id other : Nat) :
    (materials.filter fun entry => entry.1 != id).lookup other =
      if other = id then none else materials.lookup other := by
  induction materials with
  | nil =>
      simp
  | cons entry rest inductionHypothesis =>
      obtain ⟨known, shaders⟩ := entry
      by_cases removed : known = id
      case pos =>
          subst removed
          rw [List.filter_cons_of_neg (by simp), inductionHypothesis]
          by_cases same : other = known
          case pos =>
              rw [if_pos same, if_pos same]
          case neg =>
              rw [if_neg same, if_neg same, lookup_cons_of_ne _ _ same]
      case neg =>
          rw [List.filter_cons_of_pos (by simpa using removed)]
          by_cases found : other = known
          case pos =>
              subst found
              rw [lookup_cons_self, if_neg removed, lookup_cons_self]
          case neg =>
              rw [lookup_cons_of_ne _ _ found, inductionHypothesis,
                lookup_cons_of_ne _ _ found]

theorem lookup_eq_none_iff :
    materials.lookup id = none ↔ id ∉ materials.map Prod.fst := by
  rw [← lookup_isSome_iff, Option.not_isSome_iff_eq_none]

theorem lookup_appended (shaders : MaterialShaders) {id : Nat}
    (fresh : id ∉ materials.map Prod.fst) (other : Nat) :
    (materials ++ [(id, shaders)]).lookup other =
      if other = id then some shaders else materials.lookup other := by
  induction materials with
  | nil =>
      by_cases same : other = id
      case pos =>
          subst same
          simp
      case neg =>
          rw [List.nil_append, lookup_cons_of_ne _ _ same, if_neg same]
  | cons entry rest inductionHypothesis =>
      obtain ⟨known, first⟩ := entry
      rw [List.map_cons, List.mem_cons, not_or] at fresh
      obtain ⟨different, freshInRest⟩ := fresh
      rw [List.cons_append]
      by_cases found : other = known
      case pos =>
          subst found
          rw [lookup_cons_self, if_neg (Ne.symm different),
            lookup_cons_self]
      case neg =>
          rw [lookup_cons_of_ne _ _ found, lookup_cons_of_ne _ _ found,
            inductionHypothesis freshInRest]

theorem lookup_eq_some_iff (distinct : (materials.map Prod.fst).Nodup)
    {shaders : MaterialShaders} :
    materials.lookup id = some shaders ↔ (id, shaders) ∈ materials := by
  constructor
  · exact mem_of_lookup
  · intro member
    have listed : id ∈ materials.map Prod.fst :=
      List.mem_map.mpr ⟨(id, shaders), member, rfl⟩
    obtain ⟨found, found_eq⟩ :=
      Option.isSome_iff_exists.mp ((lookup_isSome_iff materials id).mpr listed)
    have sameEntry : (id, found) = (id, shaders) :=
      List.inj_on_of_nodup_map distinct (mem_of_lookup found_eq) member rfl
    rw [found_eq, (Prod.mk.inj sameEntry).2]

/-- Lists with the same identifiers, and with related materials under
them. -/
theorem lookup_of_forall₂
    {related : MaterialShaders → MaterialShaders → Prop}
    (entries : List.Forall₂
      (fun entry later => later.1 = entry.1 ∧ related entry.2 later.2)
      materials others) (id : Nat) :
    (materials.lookup id = none ∧ others.lookup id = none) ∨
      ∃ shaders later, materials.lookup id = some shaders ∧
        others.lookup id = some later ∧ related shaders later := by
  induction entries with
  | nil =>
      exact .inl ⟨rfl, rfl⟩
  | @cons entry later rest laterRest first _ inductionHypothesis =>
      obtain ⟨known, shaders⟩ := entry
      obtain ⟨laterKnown, laterShaders⟩ := later
      obtain ⟨rfl, holds⟩ := first
      by_cases found : id = laterKnown
      case pos =>
          subst found
          exact .inr ⟨shaders, laterShaders, lookup_cons_self ..,
            lookup_cons_self .., holds⟩
      case neg =>
          rw [lookup_cons_of_ne _ _ found, lookup_cons_of_ne _ _ found]
          exact inductionHypothesis

theorem keys_of_forall₂
    (entries : List.Forall₂ (fun entry later => later.1 = entry.1)
      materials others) :
    others.map Prod.fst = materials.map Prod.fst := by
  induction entries with
  | nil =>
      rfl
  | cons first _ inductionHypothesis =>
      rw [List.map_cons, List.map_cons, first, inductionHypothesis]

end Lookup

/-! ## One request -/

/-- The material for other light counts. What was compiled for others is
dropped. -/
def MaterialShaders.recounted (shaders : MaterialShaders)
    (lights : LightCounts) : MaterialShaders :=
  if lights = shaders.lights then shaders
  else { shaders with lights := lights }.invalidate

namespace MaterialShaders

variable (shaders : MaterialShaders) (lights : LightCounts)
  (dialect : Dialect) (workshop : Workshop)

theorem setLightCounts_eq :
    (shaders.setLightCounts lights workshop).1 =
      (decide (lights ≠ shaders.lights), shaders.recounted lights) := by
  unfold setLightCounts recounted
  by_cases same : lights = shaders.lights
  case pos =>
      simp [same]
      rfl
  case neg =>
      simp [same]
      rfl

@[simp]
theorem recounted_material :
    (shaders.recounted lights).material = shaders.material := by
  unfold recounted
  split
  · rfl
  · exact invalidate_material _

@[simp]
theorem recounted_lights : (shaders.recounted lights).lights = lights := by
  unfold recounted
  by_cases same : lights = shaders.lights
  case pos =>
      rw [if_pos same, same]
  case neg =>
      rw [if_neg same, invalidate_lights]

theorem recounted_compiled? :
    (shaders.recounted lights).compiled? =
      if shaders.lights ≠ lights then none else shaders.compiled? := by
  unfold recounted
  by_cases same : lights = shaders.lights
  case pos =>
      simp [same]
  case neg =>
      rw [if_neg same, if_pos (Ne.symm same)]
      exact compiled?_invalidate _

theorem Coherent.recounted_state {shaders : MaterialShaders}
    (coherent : shaders.Coherent) (lights : LightCounts) :
    (shaders.recounted lights).state =
      if shaders.lights ≠ lights ∧ shaders.state = .built then .stale
      else shaders.state := by
  unfold recounted
  by_cases same : lights = shaders.lights
  case pos =>
      simp [same]
  case neg =>
      have different : shaders.lights ≠ lights := Ne.symm same
      rw [if_neg same, (coherent.withLights lights).state_invalidate]
      simp only [different, ne_eq, not_false_eq_true, true_and]

theorem Coherent.recounted {shaders : MaterialShaders}
    (coherent : shaders.Coherent) (lights : LightCounts) :
    (shaders.recounted lights).Coherent := by
  unfold MaterialShaders.recounted
  split
  · exact coherent
  · exact (coherent.withLights lights).invalidate

theorem Coherent.rebuilt {shaders : MaterialShaders}
    (coherent : shaders.Coherent) (dialect : Dialect)
    (workshop : Workshop) :
    (shaders.rebuildIfStale dialect workshop).1.2.Coherent := by
  let step := ShadersStep.mk shaders (.rebuild dialect workshop)
  have known : step.shaders.Coherent := coherent
  exact ShadersStep.coherent_result known

/-- A rebuild changes neither the material nor its light counts. -/
theorem rebuildIfStale_keeps :
    (shaders.rebuildIfStale dialect workshop).1.2.material =
        shaders.material ∧
      (shaders.rebuildIfStale dialect workshop).1.2.lights =
        shaders.lights := by
  have material :=
    (ShadersStep.mk shaders (.rebuild dialect workshop)).result_material
  have lights :=
    (ShadersStep.mk shaders (.rebuild dialect workshop)).result_lights
  exact ⟨material, lights⟩

end MaterialShaders

namespace MaterialRegistry

variable {registry : MaterialRegistry}

/-- Changing the light counts of each material changes those that had other
ones, and counts them. -/
theorem setEach_eq (lights : LightCounts)
    (materials : List (Nat × MaterialShaders)) (workshop : Workshop) :
    (setEach lights materials workshop).1 =
      (materials.countP fun entry => lights ≠ entry.2.lights,
        materials.map fun entry => (entry.1, entry.2.recounted lights)) := by
  induction materials generalizing workshop with
  | nil =>
      rfl
  | cons entry rest inductionHypothesis =>
      obtain ⟨id, shaders⟩ := entry
      have first := shaders.setLightCounts_eq lights workshop
      have others := inductionHypothesis
        (shaders.setLightCounts lights workshop).2
      simp only [setEach, bind, StateT.bind]
      generalize shaders.setLightCounts lights workshop = changing
        at first others ⊢
      obtain ⟨⟨changed, later⟩, workshop'⟩ := changing
      cases first
      dsimp only at others ⊢
      generalize setEach lights rest workshop' = changingRest at others ⊢
      obtain ⟨⟨count, laterRest⟩, workshopEnd⟩ := changingRest
      cases others
      show ((if decide (lights ≠ shaders.lights) then 1 else 0) + _, _) = _
      rw [List.countP_cons, Nat.add_comm]
      rfl

/-- Rebuilding materials changes neither the materials nor their light
counts. -/
theorem rebuildEach_keeps (dialect : Dialect)
    (materials : List (Nat × MaterialShaders)) (workshop : Workshop) :
    List.Forall₂
      (fun entry later => later.1 = entry.1 ∧
        later.2.material = entry.2.material ∧
        later.2.lights = entry.2.lights)
      materials (rebuildEach dialect materials workshop).1.2 := by
  induction materials generalizing workshop with
  | nil =>
      exact .nil
  | cons entry rest inductionHypothesis =>
      obtain ⟨id, shaders⟩ := entry
      have first := shaders.rebuildIfStale_keeps dialect workshop
      simp only [rebuildEach, bind, StateT.bind]
      generalize shaders.rebuildIfStale dialect workshop = rebuilding
        at first ⊢
      obtain ⟨⟨outcome, later⟩, workshop'⟩ := rebuilding
      cases outcome with
      | error fault =>
          exact .cons ⟨rfl, first⟩
            (List.forall₂_same.mpr fun _ _ => ⟨rfl, rfl, rfl⟩)
      | ok pair =>
          exact .cons ⟨rfl, first⟩ (inductionHypothesis workshop')

/-- The identifiers are below the next one, and each has one material, whose
state says whether it has a compiled pair. -/
structure WellKept (registry : MaterialRegistry) : Prop where
  distinct : (registry.materials.map Prod.fst).Nodup
  below : ∀ id ∈ registry.materials.map Prod.fst, id < registry.nextId
  coherent : ∀ entry ∈ registry.materials, entry.2.Coherent

theorem wellKept_empty (dialect : Dialect) : (empty dialect).WellKept :=
  ⟨.nil, fun _ impossible => absurd impossible List.not_mem_nil,
    fun _ impossible => absurd impossible List.not_mem_nil⟩

theorem WellKept.coherent_find? (wellKept : registry.WellKept) {id : Nat}
    {shaders : MaterialShaders} (found : registry.find? id = some shaders) :
    shaders.Coherent :=
  wellKept.coherent (id, shaders) (mem_of_lookup found)

theorem find?_isSome_iff (id : Nat) :
    (registry.find? id).isSome ↔ id ∈ registry.materials.map Prod.fst :=
  lookup_isSome_iff registry.materials id

theorem WellKept.find?_nextId (wellKept : registry.WellKept) :
    registry.find? registry.nextId = none := by
  rw [find?, lookup_eq_none_iff]
  intro listed
  exact absurd (wellKept.below _ listed) (Nat.lt_irrefl _)

theorem WellKept.find?_register (wellKept : registry.WellKept)
    (material : Material) (id : Nat) :
    (registry.register material).2.find? id =
      if id = registry.nextId then
        some (.ofMaterial material registry.lights)
      else registry.find? id :=
  lookup_appended _ (lookup_eq_none_iff.mp wellKept.find?_nextId) id

theorem find?_unregister (id other : Nat) :
    (registry.unregister id).2.find? other =
      if other = id then none else registry.find? other :=
  lookup_removed id other

/-- What is built meanwhile has no part in which materials there are. -/
theorem find?_replace (workshop : Workshop) (id : Nat)
    (shaders : MaterialShaders) (other : Nat) :
    ({ registry with workshop := workshop }.replace id shaders).find? other =
      if other = id then (registry.find? id).map fun _ => shaders
      else registry.find? other :=
  lookup_replaced shaders id other

theorem setLightCounts_of_find? {id : Nat} {shaders : MaterialShaders}
    (found : registry.find? id = some shaders) (lights : LightCounts) :
    registry.setLightCounts id lights =
      (.ok (decide (lights ≠ shaders.lights)),
        { registry with
          workshop := (shaders.setLightCounts lights registry.workshop).2
        }.replace id (shaders.recounted lights)) := by
  have counted := shaders.setLightCounts_eq lights registry.workshop
  simp only [setLightCounts, found]
  generalize shaders.setLightCounts lights registry.workshop = changing
    at counted ⊢
  obtain ⟨⟨changed, later⟩, workshop⟩ := changing
  cases counted
  rfl

/-- What a change of the light counts of one material leaves behind. -/
theorem find?_setLightCounts (id : Nat) (lights : LightCounts)
    (other : Nat) :
    (registry.setLightCounts id lights).2.find? other =
      if other = id then (registry.find? id).map (·.recounted lights)
      else registry.find? other := by
  cases found : registry.find? id with
  | none =>
      simp only [setLightCounts, found]
      by_cases same : other = id
      case pos =>
          rw [if_pos same, same, found]
          rfl
      case neg =>
          rw [if_neg same]
  | some shaders =>
      rw [setLightCounts_of_find? found, find?_replace, found]
      rfl

theorem find?_setSceneLightCounts (lights : LightCounts) (id : Nat) :
    (registry.setSceneLightCounts lights).2.find? id =
      (registry.find? id).map (·.recounted lights) := by
  have counted := setEach_eq lights registry.materials registry.workshop
  simp only [setSceneLightCounts, find?]
  generalize setEach lights registry.materials registry.workshop = changing
    at counted ⊢
  obtain ⟨⟨count, materials⟩, workshop⟩ := changing
  cases counted
  exact lookup_map (fun shaders => shaders.recounted lights) id

theorem find?_compiled_of_ne {id other : Nat} (different : other ≠ id) :
    (registry.compiled id).2.find? other = registry.find? other := by
  cases found : registry.find? id with
  | none =>
      simp only [compiled, found]
  | some shaders =>
      rw [compiled_of_find? found, find?_replace, if_neg different]

/-- A material that was asked for is the same one for the same light
counts. -/
theorem find?_compiled_self {id : Nat} {shaders : MaterialShaders}
    (found : registry.find? id = some shaders) :
    ∃ later, (registry.compiled id).2.find? id = some later ∧
      later.material = shaders.material ∧ later.lights = shaders.lights := by
  have kept :=
    shaders.rebuildIfStale_keeps registry.dialect registry.workshop
  refine ⟨_, ?_, kept⟩
  rw [compiled_of_find? found, find?_replace, if_pos rfl, found]
  rfl

theorem find?_rebuildAll (id : Nat) :
    (registry.find? id = none ∧ registry.rebuildAll.2.find? id = none) ∨
      ∃ shaders later, registry.find? id = some shaders ∧
        registry.rebuildAll.2.find? id = some later ∧
        later.material = shaders.material ∧
        later.lights = shaders.lights :=
  lookup_of_forall₂
    (rebuildEach_keeps registry.dialect registry.materials
      registry.workshop) id

/-- A registered material stays, unless it is taken back, with the light counts
that the request sets for it. -/
theorem WellKept.find?_serve_of_some (wellKept : registry.WellKept)
    {request : RegistryRequest} {id : Nat} {shaders : MaterialShaders}
    (found : registry.find? id = some shaders)
    (kept : request ≠ .unregister id) :
    ∃ later, (registry.serve request).find? id = some later ∧
      later.material = shaders.material ∧
      later.lights = (request.lightsFor? id).getD shaders.lights := by
  cases request with
  | register material =>
      have older : id ≠ registry.nextId := by
        rintro rfl
        rw [wellKept.find?_nextId] at found
        cases found
      rw [serve, wellKept.find?_register, if_neg older]
      exact ⟨shaders, found, rfl, rfl⟩
  | unregister other =>
      have different : id ≠ other := by
        rintro rfl
        exact kept rfl
      rw [serve, find?_unregister, if_neg different]
      exact ⟨shaders, found, rfl, rfl⟩
  | state other =>
      exact ⟨shaders, found, rfl, rfl⟩
  | setLightCounts other lights =>
      rw [serve, find?_setLightCounts, RegistryRequest.lightsFor?]
      by_cases same : id = other
      case pos =>
          subst same
          rw [if_pos rfl, if_pos rfl, found]
          exact ⟨_, rfl, shaders.recounted_material lights,
            shaders.recounted_lights lights⟩
      case neg =>
          rw [if_neg same, if_neg (Ne.symm same)]
          exact ⟨shaders, found, rfl, rfl⟩
  | setSceneLightCounts lights =>
      rw [serve, find?_setSceneLightCounts, found]
      exact ⟨_, rfl, shaders.recounted_material lights,
        shaders.recounted_lights lights⟩
  | compiled other =>
      by_cases same : id = other
      case pos =>
          subst same
          exact find?_compiled_self found
      case neg =>
          rw [serve, find?_compiled_of_ne same]
          exact ⟨shaders, found, rfl, rfl⟩
  | rebuildAll =>
      rcases registry.find?_rebuildAll id with ⟨missing, _⟩ |
        ⟨known, later, known_eq, later_eq, material, lights⟩
      · rw [missing] at found
        cases found
      · obtain rfl : known = shaders :=
          Option.some.inj (known_eq.symm.trans found)
        exact ⟨later, later_eq, material, lights⟩

/-- What every rebuild keeps holds of all materials that are rebuilt in
turn. -/
theorem forall_rebuildEach {dialect : Dialect}
    {property : MaterialShaders → Prop}
    (rebuilt : ∀ shaders workshop, property shaders →
      property (shaders.rebuildIfStale dialect workshop).1.2)
    {materials : List (Nat × MaterialShaders)}
    (holds : ∀ entry ∈ materials, property entry.2) (workshop : Workshop) :
    ∀ entry ∈ (rebuildEach dialect materials workshop).1.2,
      property entry.2 := by
  induction materials generalizing workshop with
  | nil =>
      exact holds
  | cons entry rest inductionHypothesis =>
      obtain ⟨id, shaders⟩ := entry
      obtain ⟨known, others⟩ := List.forall_mem_cons.mp holds
      have first := rebuilt shaders workshop known
      simp only [rebuildEach, bind, StateT.bind]
      generalize shaders.rebuildIfStale dialect workshop = rebuilding
        at first ⊢
      obtain ⟨⟨outcome, later⟩, workshop'⟩ := rebuilding
      cases outcome with
      | error fault =>
          exact List.forall_mem_cons.mpr ⟨first, others⟩
      | ok pair =>
          exact List.forall_mem_cons.mpr
            ⟨first, inductionHypothesis others workshop'⟩

/-- What holds of a new material and is kept by new light counts and by
rebuilds holds of all materials behind a request. -/
theorem forall_serve {registry : MaterialRegistry}
    {property : MaterialShaders → Prop}
    (new : ∀ material lights,
      property (MaterialShaders.ofMaterial material lights))
    (recounted : ∀ shaders lights, property shaders →
      property (shaders.recounted lights))
    (rebuilt : ∀ shaders workshop, property shaders →
      property (shaders.rebuildIfStale registry.dialect workshop).1.2)
    (holds : ∀ entry ∈ registry.materials, property entry.2)
    (request : RegistryRequest) :
    ∀ entry ∈ (registry.serve request).materials, property entry.2 := by
  have replaced (id : Nat) {shaders : MaterialShaders}
      (other : property shaders) (workshop : Workshop) :
      ∀ entry ∈
          ({ registry with workshop := workshop }.replace id
            shaders).materials,
        property entry.2 := by
    intro entry member
    obtain ⟨before, listed, rfl⟩ := List.mem_map.mp member
    by_cases same : before.1 = id
    · rw [if_pos same]
      exact other
    · rw [if_neg same]
      exact holds before listed
  cases request with
  | register material =>
      intro entry member
      rcases List.mem_append.mp member with old | added
      · exact holds entry old
      · rw [List.mem_singleton.mp added]
        exact new material registry.lights
  | unregister id =>
      intro entry member
      exact holds entry (List.mem_of_mem_filter member)
  | state id =>
      exact holds
  | setLightCounts id lights =>
      rw [serve]
      cases found : registry.find? id with
      | none =>
          simp only [setLightCounts, found]
          exact holds
      | some shaders =>
          have known := holds _ (mem_of_lookup found)
          rw [setLightCounts_of_find? found]
          exact replaced id (recounted shaders lights known) _
  | setSceneLightCounts lights =>
      have counted := setEach_eq lights registry.materials registry.workshop
      have listed :
          (registry.serve (.setSceneLightCounts lights)).materials =
            registry.materials.map fun entry =>
              (entry.1, entry.2.recounted lights) :=
        congrArg Prod.snd counted
      rw [listed]
      intro entry member
      obtain ⟨before, known, rfl⟩ := List.mem_map.mp member
      exact recounted before.2 lights (holds before known)
  | compiled id =>
      rw [serve]
      cases found : registry.find? id with
      | none =>
          simp only [compiled, found]
          exact holds
      | some shaders =>
          have known := holds _ (mem_of_lookup found)
          rw [compiled_of_find? found]
          exact replaced id (rebuilt shaders _ known) _
  | rebuildAll =>
      exact forall_rebuildEach rebuilt holds registry.workshop

/-- A request that registers nothing adds no identifier. -/
theorem keys_serve {request : RegistryRequest}
    (noRegistration : request.isRegistration = false) :
    ((registry.serve request).materials.map Prod.fst).Sublist
        (registry.materials.map Prod.fst) ∧
      (registry.serve request).nextId = registry.nextId := by
  cases request with
  | register material =>
      cases noRegistration
  | unregister id =>
      exact ⟨List.filter_sublist.map Prod.fst, rfl⟩
  | state id =>
      exact ⟨.refl _, rfl⟩
  | setLightCounts id lights =>
      rw [serve]
      cases found : registry.find? id with
      | none =>
          simp only [setLightCounts, found]
          exact ⟨.refl _, trivial⟩
      | some shaders =>
          rw [setLightCounts_of_find? found, replace, keys_replace]
          exact ⟨.refl _, rfl⟩
  | setSceneLightCounts lights =>
      have counted := setEach_eq lights registry.materials registry.workshop
      have keys :
          (registry.setSceneLightCounts lights).2.materials.map Prod.fst =
            registry.materials.map Prod.fst := by
        show (setEach lights registry.materials registry.workshop).1.2.map
          Prod.fst = _
        rw [counted, List.map_map]
        rfl
      exact ⟨keys ▸ .refl _, rfl⟩
  | compiled id =>
      rw [serve]
      cases found : registry.find? id with
      | none =>
          simp only [compiled, found]
          exact ⟨.refl _, trivial⟩
      | some shaders =>
          rw [compiled_of_find? found, replace, keys_replace]
          exact ⟨.refl _, rfl⟩
  | rebuildAll =>
      have kept := rebuildEach_keeps registry.dialect registry.materials
        registry.workshop
      have keys : registry.rebuildAll.2.materials.map Prod.fst =
          registry.materials.map Prod.fst :=
        keys_of_forall₂ (kept.imp fun _ _ same => same.1)
      exact ⟨keys ▸ .refl _, rfl⟩

/-- Only a registration puts a material under an identifier without one. -/
theorem WellKept.find?_serve_of_none (wellKept : registry.WellKept)
    {request : RegistryRequest} {id : Nat}
    (missing : registry.find? id = none)
    (present : ((registry.serve request).find? id).isSome) :
    ∃ material, request = .register material ∧ id = registry.nextId := by
  by_cases registers : request.isRegistration = true
  case pos =>
      cases request with
      | register material =>
          refine ⟨material, rfl, ?_⟩
          by_contra other
          rw [MaterialRegistry.serve, wellKept.find?_register, if_neg other,
            missing] at present
          cases present
      | _ =>
          cases registers
  case neg =>
      obtain ⟨keys, _⟩ :=
        registry.keys_serve (Bool.eq_false_iff.mpr registers)
      rw [find?_isSome_iff] at present
      have listed := (find?_isSome_iff id).mpr (keys.mem present)
      rw [missing] at listed
      cases listed

/-- One request keeps the state of every material together with its pair. -/
theorem WellKept.coherent_serve (wellKept : registry.WellKept)
    (request : RegistryRequest) :
    ∀ entry ∈ (registry.serve request).materials, entry.2.Coherent := by
  apply forall_serve
  · exact MaterialShaders.coherent_ofMaterial
  · intro shaders lights coherent
    exact coherent.recounted lights
  · intro shaders workshop coherent
    exact coherent.rebuilt registry.dialect workshop
  · exact wellKept.coherent

/-- One request keeps the registry in good order. -/
theorem WellKept.serve (wellKept : registry.WellKept)
    (request : RegistryRequest) : (registry.serve request).WellKept := by
  have coherent := wellKept.coherent_serve request
  by_cases registers : request.isRegistration = true
  case pos =>
      cases request with
      | register material =>
          have fresh : registry.nextId ∉ registry.materials.map Prod.fst :=
            lookup_eq_none_iff.mp wellKept.find?_nextId
          have keys :
              (registry.register material).2.materials.map Prod.fst =
                registry.materials.map Prod.fst ++ [registry.nextId] :=
            List.map_append
          refine ⟨?_, ?_, coherent⟩
          · rw [MaterialRegistry.serve, keys]
            exact List.nodup_append_comm.mp
              (List.nodup_cons.mpr ⟨fresh, wellKept.distinct⟩)
          · intro id listed
            rw [MaterialRegistry.serve, keys, List.mem_append,
              List.mem_singleton] at listed
            show id < registry.nextId + 1
            rcases listed with old | rfl
            · exact Nat.lt_succ_of_lt (wellKept.below id old)
            · exact Nat.lt_succ_self _
      | _ =>
          cases registers
  case neg =>
      obtain ⟨keys, next⟩ :=
        registry.keys_serve (Bool.eq_false_iff.mpr registers)
      refine ⟨keys.nodup wellKept.distinct, ?_, coherent⟩
      intro id listed
      rw [next]
      exact wellKept.below id (keys.mem listed)

/-- Any requests keep the registry in good order. -/
theorem WellKept.serveAll (wellKept : registry.WellKept)
    (requests : List RegistryRequest) :
    (registry.serveAll requests).WellKept := by
  induction requests generalizing registry with
  | nil =>
      exact wellKept
  | cons request rest inductionHypothesis =>
      exact inductionHypothesis (wellKept.serve request)

end MaterialRegistry

end Shaderwright
