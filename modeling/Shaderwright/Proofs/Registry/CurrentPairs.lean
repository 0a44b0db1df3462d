import Shaderwright.Proofs.Registry.Attempts

/-!
What every request to a registry keeps: its materials stand in the order of
their identifiers, and a pair that is kept was compiled for the light counts
that its material has now (`MaterialRegistry.InOrder.serveAll`).
-/

namespace Shaderwright

namespace MaterialShaders

/-- A pair that is kept was compiled for the light counts. -/
def Current (dialect : Dialect) (shaders : MaterialShaders) : Prop :=
  ∀ pair, shaders.compiled? = some pair →
    ∃ workshop,
      shaders.material.compiledIn dialect shaders.lights workshop = .ok pair

/-- The material is built, by a pair that was compiled for its light
counts. -/
def BuiltFor (dialect : Dialect) (shaders : MaterialShaders) : Prop :=
  shaders.state = .built ∧ ∃ pair workshop, shaders.compiled? = some pair ∧
    shaders.material.compiledIn dialect shaders.lights workshop = .ok pair

variable {shaders : MaterialShaders} {dialect : Dialect}

theorem Current.builtFor (current : shaders.Current dialect)
    (coherent : shaders.Coherent) (built : shaders.state = .built) :
    shaders.BuiltFor dialect := by
  obtain ⟨pair, kept⟩ := coherent.exists_pair built
  obtain ⟨workshop, compiled⟩ := current pair kept
  exact ⟨built, pair, workshop, kept, compiled⟩

theorem current_ofMaterial (dialect : Dialect) (material : Material)
    (lights : LightCounts) :
    (MaterialShaders.ofMaterial material lights).Current dialect := by
  intro pair impossible
  cases impossible

theorem Current.recounted (current : shaders.Current dialect)
    (lights : LightCounts) : (shaders.recounted lights).Current dialect := by
  intro pair kept
  rw [recounted_compiled?] at kept
  by_cases same : shaders.lights = lights
  case pos =>
      rw [if_neg (not_not_intro same)] at kept
      rw [recounted_material, recounted_lights, ← same]
      exact current pair kept
  case neg =>
      rw [if_pos same] at kept
      cases kept

theorem Current.rebuilt (current : shaders.Current dialect)
    (workshop : Workshop) :
    (shaders.rebuildIfStale dialect workshop).1.2.Current dialect := by
  cases answer : (shaders.rebuildIfStale dialect workshop).1.1 with
  | error fault =>
      rw [rebuildIfStale_of_error answer]
      exact current
  | ok pair =>
      rcases rebuildIfStale_of_ok answer with
        ⟨_, unchanged⟩ | ⟨_, compiled, stored⟩
      · rw [unchanged]
        exact current
      · rw [stored]
        intro other kept
        cases kept
        exact ⟨workshop, compiled⟩

end MaterialShaders

namespace MaterialRegistry

theorem dialect_serve (registry : MaterialRegistry)
    (request : RegistryRequest) :
    (registry.serve request).dialect = registry.dialect := by
  cases request with
  | setLightCounts id lights =>
      rw [serve]
      cases found : registry.find? id with
      | none =>
          simp only [setLightCounts, found]
      | some shaders =>
          rw [setLightCounts_of_find? found]
          rfl
  | compiled id =>
      rw [serve]
      cases found : registry.find? id with
      | none =>
          simp only [compiled, found]
      | some shaders =>
          rw [compiled_of_find? found]
          rfl
  | _ =>
      rfl

/-- The materials stand in the order of their identifiers, and the pairs that
are kept belong to their light counts. -/
structure InOrder (registry : MaterialRegistry) : Prop where
  ordered : (registry.materials.map Prod.fst).Pairwise (· < ·)
  current : ∀ entry ∈ registry.materials, entry.2.Current registry.dialect

namespace InOrder

variable {registry : MaterialRegistry}

theorem start (dialect : Dialect) : (empty dialect).InOrder :=
  ⟨.nil, fun _ impossible => absurd impossible List.not_mem_nil⟩

theorem distinct (inOrder : registry.InOrder) :
    (registry.materials.map Prod.fst).Nodup :=
  inOrder.ordered.imp Nat.ne_of_lt

theorem serve (inOrder : registry.InOrder) (wellKept : registry.WellKept)
    (request : RegistryRequest) : (registry.serve request).InOrder := by
  constructor
  · by_cases registers : request.isRegistration = true
    case pos =>
        cases request with
        | register material =>
            have keys :
                (registry.register material).2.materials.map Prod.fst =
                  registry.materials.map Prod.fst ++ [registry.nextId] :=
              List.map_append
            rw [MaterialRegistry.serve, keys, List.pairwise_append]
            refine ⟨inOrder.ordered, List.pairwise_singleton _ _, ?_⟩
            intro id listed next isNext
            rw [List.mem_singleton.mp isNext]
            exact wellKept.below id listed
        | _ =>
            cases registers
    case neg =>
        obtain ⟨keys, _⟩ :=
          registry.keys_serve (Bool.eq_false_iff.mpr registers)
        exact inOrder.ordered.sublist keys
  · rw [dialect_serve]
    apply forall_serve
    · exact MaterialShaders.current_ofMaterial registry.dialect
    · intro shaders lights current
      exact current.recounted lights
    · intro shaders workshop current
      exact current.rebuilt workshop
    · exact inOrder.current

theorem serveAll (inOrder : registry.InOrder) (wellKept : registry.WellKept)
    (requests : List RegistryRequest) :
    (registry.serveAll requests).InOrder := by
  induction requests generalizing registry with
  | nil =>
      exact inOrder
  | cons request rest inductionHypothesis =>
      exact inductionHypothesis (inOrder.serve wellKept request)
        (wellKept.serve request)

end InOrder

end MaterialRegistry

end Shaderwright
