import Shaderwright.Material.Registry
import Shaderwright.Proofs.Registry.Scene
import Shaderwright.Proofs.Registry.ShaderStates
import Shaderwright.Proofs.Registry.SharedFunctions

/-!
The history of a registry. Whatever was done to a registry before, the compiled
pair of a material is the one that is compiled afresh, with an empty function
cache, for the light counts that were set last (`compiled_eq_afresh`).
-/

namespace Shaderwright

/-! ## Histories -/

/-- What can be done to a registry. -/
inductive RegistryAction where
  | register (material : SceneMaterial)
  | unregister (id : Nat)
  | setLightCounts (id : Nat) (lights : LightCounts)
  | setSceneLightCounts (lights : LightCounts)
  | compiled (id : Nat)
  | rebuildAll

/-- The registry after an action. -/
def MaterialRegistry.perform (registry : MaterialRegistry) :
    RegistryAction → MaterialRegistry
  | .register material => (registry.register material.material).2
  | .unregister id => (registry.unregister id).2
  | .setLightCounts id lights => (registry.setLightCounts id lights).2
  | .setSceneLightCounts lights => (registry.setSceneLightCounts lights).2
  | .compiled id => (registry.compiled id).2
  | .rebuildAll => registry.rebuildAll.2

/-- The registry after a history. -/
def MaterialRegistry.after (registry : MaterialRegistry)
    (actions : List RegistryAction) : MaterialRegistry :=
  actions.foldl MaterialRegistry.perform registry

def RegistryAction.registered? : RegistryAction → Option SceneMaterial
  | .register material => some material
  | _ => none

/-- The materials that a history registers. -/
def registeredIn (actions : List RegistryAction) : List SceneMaterial :=
  actions.filterMap RegistryAction.registered?

/-! ## A registry without caches -/

/-- A material with the light counts that were set for it last. -/
structure RosterEntry where
  material : SceneMaterial
  lights : LightCounts

/-- The registered materials with their light counts, and nothing that was
built. -/
structure Roster where
  lights : LightCounts
  entries : Nat → Option RosterEntry
  nextId : Nat

namespace Roster

def empty : Roster := ⟨{}, fun _ => none, 0⟩

/-- The roster with another entry for one identifier, or without one. -/
def withEntry (roster : Roster) (id : Nat) (newEntry : Option RosterEntry) :
    Roster :=
  { roster with
    entries := fun other =>
      if other = id then newEntry else roster.entries other }

@[simp]
theorem entries_withEntry (roster : Roster) (id : Nat)
    (newEntry : Option RosterEntry) :
    (roster.withEntry id newEntry).entries id = newEntry :=
  if_pos rfl

theorem entries_withEntry_of_ne {roster : Roster} {id other : Nat}
    {newEntry : Option RosterEntry} (different : other ≠ id) :
    (roster.withEntry id newEntry).entries other = roster.entries other :=
  if_neg different

/-- The entry that is there already. -/
theorem withEntry_eq_self {roster : Roster} {id : Nat}
    {newEntry : Option RosterEntry} (known : roster.entries id = newEntry) :
    roster.withEntry id newEntry = roster := by
  have entries :
      (roster.withEntry id newEntry).entries = roster.entries := by
    funext other
    by_cases same : other = id
    · rw [same, entries_withEntry, known]
    · exact entries_withEntry_of_ne same
  exact congrArg (fun entries => { roster with entries := entries }) entries

/-- The roster after an action. Building changes nothing in it. -/
def perform (roster : Roster) : RegistryAction → Roster
  | .register material =>
      { roster.withEntry roster.nextId (some ⟨material, roster.lights⟩) with
        nextId := roster.nextId + 1 }
  | .unregister id => roster.withEntry id none
  | .setLightCounts id lights =>
      roster.withEntry id <|
        (roster.entries id).map fun entry => { entry with lights := lights }
  | .setSceneLightCounts lights =>
      { roster with
        lights := lights
        entries := fun id =>
          (roster.entries id).map fun entry => { entry with lights := lights } }
  | .compiled _ => roster
  | .rebuildAll => roster

/-- The roster after a history. -/
def after (roster : Roster) (actions : List RegistryAction) : Roster :=
  actions.foldl perform roster

end Roster

/-- What is compiled from a material that is built with an empty function
cache. -/
def SceneMaterial.compiledAfresh (material : SceneMaterial)
    (dialect : Dialect) (lights : LightCounts) :
    Except LoweringError CompiledPair :=
  ((material.material.build lights .empty).1.compile dialect).1

/-- The answer of a registry without caches. -/
def Roster.compiled (roster : Roster) (dialect : Dialect) (id : Nat) :
    Except MaterialError CompiledPair :=
  match roster.entries id with
  | none => .error (.unknownMaterial id)
  | some entry =>
      (entry.material.compiledAfresh dialect entry.lights).mapError .lowering

/-! ## Materials that follow a roster -/

/-- A material as the roster has it, and built, if at all, to what is compiled
afresh. -/
structure MaterialShaders.Follows (dialect : Dialect)
    (scene : List SceneMaterial) (shaders : MaterialShaders)
    (entry : RosterEntry) : Prop where
  member : entry.material ∈ scene
  material : shaders.material = entry.material.material
  lights : shaders.lights = entry.lights
  built : ∀ pair, shaders.compiled? = some pair →
    entry.material.compiledAfresh dialect entry.lights = .ok pair

/-- The function cache holds what the materials of a scene ask for. -/
def Workshop.Sound (scene : List SceneMaterial) (workshop : Workshop) :
    Prop :=
  ∃ made, workshop.functions.Sound (SceneAsks scene) made

section Materials

variable {dialect : Dialect} {scene : List SceneMaterial}
  {shaders : MaterialShaders} {entry : RosterEntry} {workshop : Workshop}

theorem SceneAgrees.askedAlike (agrees : SceneAgrees scene) :
    AskedAlike (SceneAsks scene) :=
  ⟨fun _ _ => agrees.asked_naNFree, fun _ _ _ => agrees.asked_same⟩

/-- A material is compiled as if it were built afresh. -/
theorem SceneAgrees.compile_build_eq (agrees : SceneAgrees scene)
    {material : SceneMaterial} (member : material ∈ scene)
    (sound : workshop.Sound scene) (lights : LightCounts)
    (dialect : Dialect) :
    ((material.material.build lights workshop).1.compile dialect).1 =
        material.compiledAfresh dialect lights ∧
      Workshop.Sound scene (material.material.build lights workshop).2 := by
  obtain ⟨made, sound⟩ := sound
  obtain ⟨same, later, soundLater⟩ :=
    compile_run_eq agrees.askedAlike
      (agrees.construction_uniform member lights)
      (fun key function asks => ⟨material, member, lights, asks⟩) sound
      dialect
  unfold SceneMaterial.compiledAfresh
  rw [material.build_eq]
  exact ⟨congrArg Prod.fst same, later, soundLater⟩

theorem MaterialShaders.Follows.setLightCounts
    (follows : shaders.Follows dialect scene entry) (lights : LightCounts)
    (workshop : Workshop) :
    (shaders.setLightCounts lights workshop).1.2.Follows dialect scene
        { entry with lights := lights } ∧
      (shaders.setLightCounts lights workshop).2.functions =
        workshop.functions := by
  obtain ⟨member, material, known, built⟩ := follows
  unfold MaterialShaders.setLightCounts
  by_cases same : lights = shaders.lights
  · rw [if_pos same]
    have unchanged : lights = entry.lights := same.trans known
    subst unchanged
    exact ⟨⟨member, material, known, built⟩, rfl⟩
  · rw [if_neg same]
    refine ⟨⟨member, ?_, MaterialShaders.invalidate_lights _, ?_⟩, rfl⟩
    · exact (MaterialShaders.invalidate_material _).trans material
    -- A pair that was built is dropped, so nothing is built any more.
    · intro pair impossible
      have dropped := MaterialShaders.compiled?_invalidate
        { shaders with lights := lights }
      cases dropped.symm.trans impossible

/-- A rebuild answers what is compiled afresh, also where it fails, and the
material still follows the roster. -/
theorem MaterialShaders.Follows.rebuildIfStale
    (agrees : SceneAgrees scene)
    (follows : shaders.Follows dialect scene entry)
    (sound : workshop.Sound scene) :
    (shaders.rebuildIfStale dialect workshop).1.1 =
        entry.material.compiledAfresh dialect entry.lights ∧
      (shaders.rebuildIfStale dialect workshop).1.2.Follows dialect scene
        entry ∧
      (shaders.rebuildIfStale dialect workshop).2.Sound scene := by
  obtain ⟨afresh, soundLater⟩ :=
    agrees.compile_build_eq follows.member sound entry.lights dialect
  cases kept : shaders.compiled? with
  | some pair =>
      rw [MaterialShaders.rebuildIfStale_of_compiled kept]
      exact ⟨(follows.built pair kept).symm, follows, sound⟩
  | none =>
      obtain ⟨member, material, lights, built⟩ := follows
      unfold MaterialShaders.rebuildIfStale
      rw [MaterialShaders.take_of_missing kept]
      dsimp only
      rw [material, lights]
      simp only [bind, StateT.bind]
      generalize entry.material.material.build entry.lights workshop =
        building at afresh soundLater ⊢
      obtain ⟨trees, later⟩ := building
      dsimp only at afresh ⊢
      generalize trees.compile dialect = compiling at afresh ⊢
      obtain ⟨outcome, events⟩ := compiling
      cases outcome with
      | error fault =>
          exact ⟨afresh, ⟨member, material, lights, built⟩, soundLater⟩
      | ok pair =>
          refine ⟨afresh, ⟨member, rfl, rfl, ?_⟩, soundLater⟩
          intro other stored
          cases stored
          exact afresh.symm

end Materials

/-! ## Registries that follow a roster -/

/-- Every listed material follows its entry of the roster. -/
def EntriesFollow (dialect : Dialect) (scene : List SceneMaterial)
    (entries : Nat → Option RosterEntry)
    (materials : List (Nat × MaterialShaders)) : Prop :=
  ∀ listed ∈ materials, ∃ entry, entries listed.1 = some entry ∧
    listed.2.Follows dialect scene entry

/-- A registry with the materials of a roster and a sound function cache. -/
structure MaterialRegistry.Follows (dialect : Dialect)
    (scene : List SceneMaterial) (registry : MaterialRegistry)
    (roster : Roster) : Prop where
  sameDialect : registry.dialect = dialect
  lights : registry.lights = roster.lights
  nextId : registry.nextId = roster.nextId
  below : ∀ listed ∈ registry.materials, listed.1 < registry.nextId
  listed : EntriesFollow dialect scene roster.entries registry.materials
  complete : ∀ id, (roster.entries id).isSome →
    id ∈ registry.materials.map Prod.fst
  sound : registry.workshop.Sound scene

section Lists

variable {dialect : Dialect} {scene : List SceneMaterial}
  {entries : Nat → Option RosterEntry}
  {materials : List (Nat × MaterialShaders)} {workshop : Workshop}

theorem lookup_isSome_iff (materials : List (Nat × MaterialShaders))
    (id : Nat) :
    (materials.lookup id).isSome ↔ id ∈ materials.map Prod.fst := by
  induction materials with
  | nil =>
      simp
  | cons listed rest inductionHypothesis =>
      obtain ⟨known, shaders⟩ := listed
      rw [List.lookup_cons]
      by_cases same : id = known
      · simp [same]
      · simp [beq_eq_false_iff_ne.mpr same, same, inductionHypothesis]

theorem mem_of_lookup {shaders : MaterialShaders} {id : Nat}
    (found : materials.lookup id = some shaders) :
    (id, shaders) ∈ materials := by
  induction materials with
  | nil =>
      cases found
  | cons listed rest inductionHypothesis =>
      obtain ⟨known, first⟩ := listed
      rw [List.lookup_cons] at found
      by_cases same : id = known
      · simp only [same, BEq.rfl, Option.some.injEq] at found
        rw [found, same]
        exact List.mem_cons_self ..
      · simp only [beq_eq_false_iff_ne.mpr same] at found
        exact List.mem_cons_of_mem _ (inductionHypothesis found)

/-- Putting a material in the place of another one keeps the identifiers. -/
theorem keys_replace (materials : List (Nat × MaterialShaders)) (id : Nat)
    (shaders : MaterialShaders) :
    ((materials.map fun listed =>
        if listed.1 = id then (id, shaders) else listed).map Prod.fst) =
      materials.map Prod.fst := by
  rw [List.map_map]
  refine List.map_congr_left fun listed _ => ?_
  by_cases same : listed.1 = id <;> simp [same]

/-- Changing the light counts of all materials changes all entries. -/
theorem EntriesFollow.setEach
    (follow : EntriesFollow dialect scene entries materials)
    (lights : LightCounts) (workshop : Workshop) :
    EntriesFollow dialect scene
        (fun id => (entries id).map fun entry =>
          { entry with lights := lights })
        (MaterialRegistry.setEach lights materials workshop).1.2 ∧
      (MaterialRegistry.setEach lights materials workshop).1.2.map Prod.fst =
        materials.map Prod.fst ∧
      (MaterialRegistry.setEach lights materials workshop).2.functions =
        workshop.functions := by
  induction materials generalizing workshop with
  | nil =>
      refine ⟨?_, rfl, rfl⟩
      intro listed impossible
      cases impossible
  | cons listed rest inductionHypothesis =>
      obtain ⟨id, shaders⟩ := listed
      obtain ⟨⟨entry, known, follows⟩, others⟩ :=
        List.forall_mem_cons.mp follow
      obtain ⟨changed, kept⟩ := follows.setLightCounts lights workshop
      obtain ⟨later, keys, keptLater⟩ :=
        inductionHypothesis others (shaders.setLightCounts lights workshop).2
      refine ⟨List.forall_mem_cons.mpr ⟨⟨_, ?_, changed⟩, later⟩,
        congrArg (id :: ·) keys, keptLater.trans kept⟩
      exact congrArg (Option.map _) known

/-- Rebuilding materials, up to the first that fails, changes no entry. -/
theorem EntriesFollow.rebuildEach (agrees : SceneAgrees scene)
    (follow : EntriesFollow dialect scene entries materials)
    (sound : workshop.Sound scene) :
    EntriesFollow dialect scene entries
        (MaterialRegistry.rebuildEach dialect materials workshop).1.2 ∧
      (MaterialRegistry.rebuildEach dialect materials workshop).1.2.map
          Prod.fst =
        materials.map Prod.fst ∧
      (MaterialRegistry.rebuildEach dialect materials workshop).2.Sound
        scene := by
  induction materials generalizing workshop with
  | nil =>
      exact ⟨follow, rfl, sound⟩
  | cons listed rest inductionHypothesis =>
      obtain ⟨id, shaders⟩ := listed
      obtain ⟨⟨entry, known, follows⟩, others⟩ :=
        List.forall_mem_cons.mp follow
      obtain ⟨_, rebuilt, soundLater⟩ := follows.rebuildIfStale agrees sound
      simp only [MaterialRegistry.rebuildEach, bind, StateT.bind]
      generalize shaders.rebuildIfStale dialect workshop = rebuilding
        at rebuilt soundLater ⊢
      obtain ⟨⟨outcome, shaders'⟩, workshop'⟩ := rebuilding
      cases outcome with
      | error fault =>
          exact ⟨List.forall_mem_cons.mpr ⟨⟨entry, known, rebuilt⟩, others⟩,
            rfl, soundLater⟩
      | ok pair =>
          obtain ⟨later, keys, soundEnd⟩ :=
            inductionHypothesis others soundLater
          exact ⟨List.forall_mem_cons.mpr ⟨⟨entry, known, rebuilt⟩, later⟩,
            congrArg (id :: ·) keys, soundEnd⟩

end Lists

/-- The pair of a registered material is the answer of a rebuild. -/
theorem MaterialRegistry.compiled_of_find? {registry : MaterialRegistry}
    {id : Nat} {shaders : MaterialShaders}
    (found : registry.find? id = some shaders) :
    registry.compiled id =
      ((shaders.rebuildIfStale registry.dialect
          registry.workshop).1.1.mapError .lowering,
        { registry with
          workshop :=
            (shaders.rebuildIfStale registry.dialect registry.workshop).2
        }.replace id
          (shaders.rebuildIfStale registry.dialect
            registry.workshop).1.2) := by
  simp only [MaterialRegistry.compiled, found]
  rfl

namespace MaterialRegistry.Follows

variable {dialect : Dialect} {scene : List SceneMaterial}
  {registry : MaterialRegistry} {roster : Roster}

theorem start (dialect : Dialect) (scene : List SceneMaterial) :
    (MaterialRegistry.empty dialect).Follows dialect scene .empty where
  sameDialect := rfl
  lights := rfl
  nextId := rfl
  below := fun _ impossible => absurd impossible List.not_mem_nil
  listed := fun _ impossible => absurd impossible List.not_mem_nil
  complete := fun _ impossible => absurd impossible (by simp [Roster.empty])
  sound := ⟨_, .empty⟩

/-- A registered material has an entry in the roster, and the other way
round. -/
theorem find? (follows : registry.Follows dialect scene roster) (id : Nat) :
    (registry.find? id = none ∧ roster.entries id = none) ∨
      ∃ shaders entry, registry.find? id = some shaders ∧
        roster.entries id = some entry ∧
          shaders.Follows dialect scene entry := by
  cases found : registry.find? id with
  | none =>
      refine Or.inl ⟨rfl, ?_⟩
      by_contra known
      have listed := follows.complete id (Option.isSome_iff_ne_none.mpr known)
      rw [← lookup_isSome_iff, ← MaterialRegistry.find?, found] at listed
      cases listed
  | some shaders =>
      obtain ⟨entry, known, follow⟩ := follows.listed _ (mem_of_lookup found)
      exact Or.inr ⟨shaders, entry, rfl, known, follow⟩

/-- A material is put in the place of the one with its identifier. -/
theorem replace (follows : registry.Follows dialect scene roster)
    {id : Nat} {shaders : MaterialShaders} {entry : RosterEntry}
    (known : (roster.entries id).isSome)
    (follow : shaders.Follows dialect scene entry) {workshop : Workshop}
    (sound : workshop.Sound scene) :
    ({ registry with workshop := workshop }.replace id shaders).Follows
      dialect scene (roster.withEntry id (some entry)) := by
  refine ⟨follows.sameDialect, follows.lights, follows.nextId, ?_, ?_, ?_,
    sound⟩
  · intro listed member
    obtain ⟨old, oldMember, rfl⟩ := List.mem_map.mp member
    have bound := follows.below old oldMember
    by_cases same : old.1 = id
    · rw [if_pos same]
      exact same ▸ bound
    · rw [if_neg same]
      exact bound
  · intro listed member
    obtain ⟨old, oldMember, rfl⟩ := List.mem_map.mp member
    by_cases same : old.1 = id
    · rw [if_pos same]
      exact ⟨entry, if_pos rfl, follow⟩
    · rw [if_neg same]
      obtain ⟨other, otherKnown, otherFollow⟩ :=
        follows.listed old oldMember
      exact ⟨other, (if_neg same).trans otherKnown, otherFollow⟩
  · intro other present
    rw [MaterialRegistry.replace, keys_replace]
    refine follows.complete other ?_
    by_cases same : other = id
    · exact same ▸ known
    · rwa [Roster.entries_withEntry_of_ne same] at present

private theorem register (follows : registry.Follows dialect scene roster)
    {material : SceneMaterial} (member : material ∈ scene) :
    (registry.perform (.register material)).Follows dialect scene
      (roster.perform (.register material)) := by
  have next := follows.nextId
  refine ⟨follows.sameDialect, follows.lights,
    congrArg (· + 1) follows.nextId, ?_, ?_, ?_, follows.sound⟩
  · intro listed known
    rcases List.mem_append.mp known with old | new
    · exact Nat.lt_succ_of_lt (follows.below listed old)
    · rw [List.mem_singleton.mp new]
      exact Nat.lt_succ_self _
  · intro listed known
    rcases List.mem_append.mp known with old | new
    · have older : listed.1 ≠ roster.nextId :=
        Nat.ne_of_lt (next ▸ follows.below listed old)
      obtain ⟨entry, entryKnown, follow⟩ := follows.listed listed old
      exact ⟨entry, (if_neg older).trans entryKnown, follow⟩
    · rw [List.mem_singleton.mp new]
      refine ⟨⟨material, roster.lights⟩, if_pos next, member, rfl,
        follows.lights, ?_⟩
      intro pair impossible
      cases impossible
  · intro id present
    rw [MaterialRegistry.perform, MaterialRegistry.register,
      List.map_append, List.mem_append]
    by_cases same : id = roster.nextId
    · refine Or.inr ?_
      rw [same, ← next]
      exact List.mem_singleton.mpr rfl
    · refine Or.inl (follows.complete id ?_)
      rwa [Roster.perform, Roster.entries_withEntry_of_ne same] at present

private theorem unregister (follows : registry.Follows dialect scene roster)
    (id : Nat) :
    (registry.perform (.unregister id)).Follows dialect scene
      (roster.perform (.unregister id)) := by
  refine ⟨follows.sameDialect, follows.lights, follows.nextId, ?_, ?_, ?_,
    follows.sound⟩
  · intro listed member
    exact follows.below listed (List.mem_filter.mp member).1
  · intro listed member
    obtain ⟨old, other⟩ := List.mem_filter.mp member
    obtain ⟨entry, known, follow⟩ := follows.listed listed old
    exact ⟨entry, (if_neg (bne_iff_ne.mp other)).trans known, follow⟩
  · intro other present
    by_cases same : other = id
    · rw [Roster.perform, same, Roster.entries_withEntry] at present
      cases present
    · rw [Roster.perform, Roster.entries_withEntry_of_ne same] at present
      obtain ⟨listed, member, rfl⟩ :=
        List.mem_map.mp (follows.complete other present)
      exact List.mem_map_of_mem
        (List.mem_filter.mpr ⟨member, bne_iff_ne.mpr same⟩)

/-- What an action does to a registry, it does to the roster. -/
theorem perform (agrees : SceneAgrees scene)
    (follows : registry.Follows dialect scene roster)
    (action : RegistryAction)
    (registered : ∀ material, action.registered? = some material →
      material ∈ scene) :
    (registry.perform action).Follows dialect scene
      (roster.perform action) := by
  obtain rfl := follows.sameDialect
  cases action with
  | register material =>
      exact follows.register (registered material rfl)
  | unregister id =>
      exact follows.unregister id
  | setLightCounts id lights =>
      rcases follows.find? id with ⟨missing, unknown⟩ |
        ⟨shaders, entry, found, known, follow⟩
      · simpa [MaterialRegistry.perform, MaterialRegistry.setLightCounts,
          Roster.perform, missing, unknown,
          Roster.withEntry_eq_self unknown] using follows
      · obtain ⟨changed, kept⟩ :=
          follow.setLightCounts lights registry.workshop
        have sound :
            (shaders.setLightCounts lights registry.workshop).2.Sound
              scene := by
          rw [Workshop.Sound, kept]
          exact follows.sound
        have present : (roster.entries id).isSome := by
          rw [known]
          rfl
        have performed :
            registry.perform (.setLightCounts id lights) =
              { registry with
                workshop :=
                  (shaders.setLightCounts lights registry.workshop).2
              }.replace id
                (shaders.setLightCounts lights registry.workshop).1.2 := by
          simp only [MaterialRegistry.perform,
            MaterialRegistry.setLightCounts, found]
          rfl
        rw [performed, Roster.perform, known]
        exact follows.replace present changed sound
  | setSceneLightCounts lights =>
      obtain ⟨listed, keys, kept⟩ :=
        follows.listed.setEach lights registry.workshop
      refine ⟨rfl, rfl, follows.nextId, ?_, listed, ?_, ?_⟩
      · intro entry member
        have key := List.mem_map_of_mem (f := Prod.fst) member
        obtain ⟨old, oldMember, same⟩ := List.mem_map.mp (keys ▸ key)
        exact same ▸ follows.below old oldMember
      · intro id present
        have known : (roster.entries id).isSome := by
          simpa [Roster.perform] using present
        exact keys.symm ▸ follows.complete id known
      · obtain ⟨made, sound⟩ := follows.sound
        exact ⟨made, kept.symm ▸ sound⟩
  | compiled id =>
      rcases follows.find? id with ⟨missing, _⟩ |
        ⟨shaders, entry, found, known, follow⟩
      · simpa [MaterialRegistry.perform, MaterialRegistry.compiled,
          Roster.perform, missing] using follows
      · obtain ⟨_, rebuilt, sound⟩ :=
          follow.rebuildIfStale agrees follows.sound
        have present : (roster.entries id).isSome := by
          rw [known]
          rfl
        have replaced := follows.replace present rebuilt sound
        rw [Roster.withEntry_eq_self known] at replaced
        rw [MaterialRegistry.perform,
          MaterialRegistry.compiled_of_find? found]
        exact replaced
  | rebuildAll =>
      obtain ⟨listed, keys, sound⟩ :=
        follows.listed.rebuildEach agrees follows.sound
      refine ⟨rfl, follows.lights, follows.nextId, ?_, listed, ?_, sound⟩
      · intro entry member
        have key := List.mem_map_of_mem (f := Prod.fst) member
        obtain ⟨old, oldMember, same⟩ := List.mem_map.mp (keys ▸ key)
        exact same ▸ follows.below old oldMember
      · intro id present
        exact keys.symm ▸ follows.complete id present

/-- What a history does to a registry, it does to the roster. -/
theorem after (agrees : SceneAgrees scene)
    (follows : registry.Follows dialect scene roster)
    (actions : List RegistryAction)
    (registered : ∀ material ∈ registeredIn actions, material ∈ scene) :
    (registry.after actions).Follows dialect scene
      (roster.after actions) := by
  induction actions generalizing registry roster with
  | nil =>
      exact follows
  | cons action rest inductionHypothesis =>
      have now : ∀ material, action.registered? = some material →
          material ∈ scene := by
        intro material known
        refine registered material ?_
        exact List.mem_filterMap.mpr
          ⟨action, List.mem_cons_self .., known⟩
      have later : ∀ material ∈ registeredIn rest, material ∈ scene := by
        intro material member
        obtain ⟨other, inRest, known⟩ := List.mem_filterMap.mp member
        refine registered material ?_
        exact List.mem_filterMap.mpr
          ⟨other, List.mem_cons_of_mem _ inRest, known⟩
      exact inductionHypothesis (follows.perform agrees action now) later

/-- The answers of a registry are those of the roster. -/
theorem compiled_eq (agrees : SceneAgrees scene)
    (follows : registry.Follows dialect scene roster) (id : Nat) :
    (registry.compiled id).1 = roster.compiled dialect id := by
  obtain rfl := follows.sameDialect
  rcases follows.find? id with ⟨missing, unknown⟩ |
    ⟨shaders, entry, found, known, follow⟩
  · simp [MaterialRegistry.compiled, Roster.compiled, missing, unknown]
  · obtain ⟨answer, _⟩ := follow.rebuildIfStale agrees follows.sound
    rw [MaterialRegistry.compiled_of_find? found, answer, Roster.compiled,
      known]

end MaterialRegistry.Follows

/-! ## The cache is never wrong -/

/-- After any history the compiled pair of a material, or the fault that keeps
it from being compiled, is the one that is found with an empty function cache
for the light counts that were set last. -/
theorem compiled_eq_afresh (dialect : Dialect)
    (actions : List RegistryAction)
    (agrees : SceneAgrees (registeredIn actions)) (id : Nat) :
    (((MaterialRegistry.empty dialect).after actions).compiled id).1 =
      (Roster.empty.after actions).compiled dialect id := by
  have follows :=
    (MaterialRegistry.Follows.start dialect
      (registeredIn actions)).after agrees actions fun _ member => member
  exact follows.compiled_eq agrees id

/-! ## A scene with three materials -/

def toneFunction : ShaderFunction :=
  ⟨0, "tone", some .scalar, [], [.returnValue (.whole 1)]⟩

/-- A function that calls the one it is given. -/
def shadeWith (tone : ShaderFunction) : ShaderFunction :=
  ⟨0, "shade", some .scalar, [],
    [.returnValue (Operation.call tone [])]⟩

/-- A fragment stage that calls two functions. -/
def toneTrees (tone shade : ShaderFunction) : ShaderPair where
  vertex := Grid.vertexShader
  fragment := ⟨.fragment, some .medium, [.call shade [], .call tone []]⟩

/-- A function from the cache, called by a function that is not shared. -/
def toneConstruction : Construction :=
  .cached "tone" toneFunction fun tone =>
    .own (shadeWith tone) fun shade => .finish (toneTrees tone shade)

theorem toneConstruction_uniform : toneConstruction.Uniform := by
  intro related structural
  refine .cached (.of_noCallees rfl) fun tone tone' sameTone => ?_
  have bareTone : tone.relabeled .bare = tone'.relabeled .bare :=
    (structural tone tone' sameTone).bare
  refine .own ⟨?_, .cons sameTone .nil⟩ fun shade shade' sameShade => ?_
  · simp [shadeWith, ShaderFunction.relabeled, relabeledBody,
      Operation.relabeled, Operand.relabeled, bareTone]
  · have bareShade : shade.relabeled .bare = shade'.relabeled .bare :=
      (structural shade shade' sameShade).bare
    refine .finish (.of_noCallees rfl)
      ⟨?_, .cons sameShade (.cons sameTone .nil)⟩
    simp [toneTrees, Shader.bare, Shader.relabeled, relabeledBody,
      Operation.relabeled, bareTone, bareShade]

theorem asks_toneConstruction {key : String} {function : ShaderFunction}
    (asked : toneConstruction.Asks key function) :
    key = "tone" ∧ function = toneFunction := by
  cases asked with
  | here =>
      exact ⟨rfl, rfl⟩
  | afterCached later =>
      cases later with
      | afterOwn later =>
          cases later

/-- A diffuse material, a grid and a material with functions of its own. -/
def toneScene : List SceneMaterial :=
  [.lambert "plaster" .medium, .grid "floor",
    .other "tone" fun _ => toneConstruction]

theorem key_ne_tone (kind : Lambert.LightKind) (count : Nat) :
    kind.key count ≠ "tone" := by
  intro same
  have texts := congrArg String.toList same
  cases kind <;>
    simp [Lambert.LightKind.key, Lambert.LightKind.name] at texts

theorem asks_toneScene {material : SceneMaterial}
    (member : material ∈ toneScene) {lights : LightCounts}
    {function : ShaderFunction}
    (asked : (material.construction lights).Asks "tone" function) :
    function = toneFunction := by
  simp only [toneScene, List.mem_cons, List.not_mem_nil, or_false] at member
  rcases member with rfl | rfl | rfl
  · obtain ⟨kind, count, same, _⟩ := Lambert.asks_construction asked
    exact absurd same.symm (key_ne_tone kind count)
  · cases asked
  · exact (asks_toneConstruction asked).2

theorem toneScene_agrees : SceneAgrees toneScene := by
  have only {material : SceneMaterial} (member : material ∈ toneScene)
      (isOther : material.IsOther) (lights : LightCounts) :
      material.construction lights = toneConstruction := by
    simp only [toneScene, List.mem_cons, List.not_mem_nil, or_false]
      at member
    rcases member with rfl | rfl | rfl
    · exact isOther.elim
    · exact isOther.elim
    · rfl
  constructor
  · intro material member isOther lights
    rw [only member isOther lights]
    exact toneConstruction_uniform
  · intro material member isOther lights key function asked
    rw [only member isOther lights] at asked
    obtain ⟨_, rfl⟩ := asks_toneConstruction asked
    refine .of_noCallees ?_ rfl
    intro visit visited number written
    have numbers :
        (bodyVisits 1 toneFunction.body).flatMap Visit.numbers =
          [.ofInt 1] := rfl
    have one : number ∈ [Binary32.ofInt 1] :=
      numbers ▸ List.mem_flatMap.mpr ⟨visit, visited, written⟩
    rw [List.mem_singleton.mp one]
    decide +kernel
  · intro material member isOther lights key function asked other
      otherMember lights' function' asked'
    rw [only member isOther lights] at asked
    obtain ⟨rfl, rfl⟩ := asks_toneConstruction asked
    rw [asks_toneScene otherMember asked']

/-- A history in which functions are cached for other light counts, and for
another material, before the pair is asked for. -/
def toneHistory : List RegistryAction :=
  [ .register (.lambert "plaster" .medium), .register (.grid "floor"),
    .setSceneLightCounts ⟨2, 0, 1⟩, .rebuildAll,
    .register (.other "tone" fun _ => toneConstruction),
    .setLightCounts 0 ⟨1, 1, 1⟩, .compiled 0, .compiled 2,
    .setLightCounts 0 ⟨2, 0, 1⟩, .unregister 1 ]

/-- Two materials are compiled for their last light counts, with functions
that were cached before. -/
theorem toneHistory_compiled :
    (((MaterialRegistry.empty .glslEs100).after toneHistory).compiled
          0).1 =
        (SceneMaterial.compiledAfresh (.lambert "plaster" .medium) .glslEs100
          ⟨2, 0, 1⟩).mapError .lowering ∧
      (((MaterialRegistry.empty .glslEs100).after toneHistory).compiled
          2).1 =
        (SceneMaterial.compiledAfresh (.other "tone" fun _ =>
          toneConstruction) .glslEs100 ⟨2, 0, 1⟩).mapError .lowering ∧
      (SceneMaterial.compiledAfresh (.lambert "plaster" .medium) .glslEs100
        ⟨2, 0, 1⟩).toOption.isSome = true := by
  refine ⟨?_, ?_, ?_⟩
  · exact compiled_eq_afresh .glslEs100 toneHistory toneScene_agrees 0
  · exact compiled_eq_afresh .glslEs100 toneHistory toneScene_agrees 2
  · decide +kernel

end Shaderwright
