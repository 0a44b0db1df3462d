import Mathlib.Data.List.Nodup
import Shaderwright.Proofs.Registry.Scene
import Shaderwright.Proofs.Registry.SharedFunctions

/-!
The function cache of diffuse materials. Whatever light counts they have been
built for, the cache holds lighting functions under their own keys and under
handles of their own (`FilledByBuilds.holdsLighting`). So a build calls, for
each kind with lights, the function for their number (`exists_build`).
-/

namespace Shaderwright.Lambert

/-! ## Kinds with lights -/

namespace LightKind

/-- One of three values, by the kind. -/
def select {α : Type} (atDirectional atPoint atSpot : α) : LightKind → α
  | directional => atDirectional
  | point => atPoint
  | spot => atSpot

/-- How many lights of a kind there are. -/
def count (kind : LightKind) (lights : LightCounts) : Nat :=
  kind.select lights.directional lights.point lights.spot

/-- The operation that adds the light of a kind, by a function of the given
handle. -/
def lightCall (kind : LightKind) (count handle : Nat) : Operation :=
  .addTo light <|
    Operation.call ((kind.lighting count).withHandle handle)
      (kind.arguments count)

end LightKind

/-- The kinds that have lights, in the order in which their light is added. -/
def present (lights : LightCounts) : List LightKind :=
  [.directional, .point, .spot].filter fun kind => 0 < kind.count lights

theorem mem_present_iff {lights : LightCounts} {kind : LightKind} :
    kind ∈ present lights ↔ 0 < kind.count lights := by
  cases kind <;> simp [present]

theorem nodup_present (lights : LightCounts) : (present lights).Nodup :=
  (by decide : [LightKind.directional, .point, .spot].Nodup).filter _

/-! ## What the cache holds -/

/-- Function caches that nothing but diffuse materials have filled. -/
inductive FilledByBuilds : FunctionCache → Prop
  | empty : FilledByBuilds .empty
  | cleared {cache : FunctionCache} (filled : FilledByBuilds cache) :
      FilledByBuilds cache.clear
  | built {workshop : Workshop} (filled : FilledByBuilds workshop.functions)
      (name : String) (precision : Precision) (lights : LightCounts) :
      FilledByBuilds
        ((Material.lambert name precision).build lights
          workshop).2.functions

/-- Every entry is a lighting function under the key of its kind and number of
lights, and no two entries share a handle. -/
structure HoldsLighting (cache : FunctionCache) : Prop where
  entries : ∀ entry ∈ cache.functions,
    ∃ (kind : LightKind) (count : Nat) (handle : Nat),
      handle < cache.nextHandle ∧
        entry = (kind.key count, (kind.lighting count).withHandle handle)
  distinct : (cache.functions.map fun entry => entry.2.handle).Nodup

namespace HoldsLighting

variable {cache : FunctionCache}

theorem empty : HoldsLighting .empty :=
  ⟨fun _ impossible => absurd impossible List.not_mem_nil, List.nodup_nil⟩

theorem clear (cache : FunctionCache) : HoldsLighting cache.clear :=
  ⟨fun _ impossible => absurd impossible List.not_mem_nil, List.nodup_nil⟩

/-- A function that is found is that of the kind and of the number of
lights. -/
theorem exists_of_find? (holds : HoldsLighting cache) {kind : LightKind}
    {count : Nat} {known : ShaderFunction}
    (found : cache.find? (kind.key count) = some known) :
    ∃ handle, known = (kind.lighting count).withHandle handle ∧
      (kind.key count, known) ∈ cache.functions := by
  obtain ⟨before, after, listed, _⟩ := List.lookup_eq_some_iff.mp found
  have member : (kind.key count, known) ∈ cache.functions := by
    rw [listed]
    exact List.mem_append_right _ List.mem_cons_self
  obtain ⟨kind', count', handle, _, same⟩ := holds.entries _ member
  obtain ⟨sameKey, sameFunction⟩ := Prod.mk.inj same
  obtain ⟨rfl, rfl⟩ := LightKind.key_inj sameKey
  exact ⟨handle, sameFunction, member⟩

/-- One more function, under a fresh handle. -/
theorem withFresh (holds : HoldsLighting cache) (kind : LightKind)
    (count misses : Nat) :
    HoldsLighting
      { cache.freshHandle.2 with
        functions := cache.functions ++
          [(kind.key count,
            (kind.lighting count).withHandle cache.freshHandle.1)]
        misses := misses } := by
  constructor
  · intro entry member
    rcases List.mem_append.mp member with old | new
    · obtain ⟨kind', count', handle, below, same⟩ := holds.entries entry old
      exact ⟨kind', count', handle, Nat.lt_succ_of_lt below, same⟩
    · exact ⟨kind, count, _, Nat.lt_succ_self _, List.mem_singleton.mp new⟩
  · rw [List.map_append]
    refine List.nodup_append.mpr
      ⟨holds.distinct, List.nodup_singleton _, ?_⟩
    intro handle old fresh new
    rw [List.mem_singleton.mp new]
    obtain ⟨entry, member, rfl⟩ := List.mem_map.mp old
    obtain ⟨kind', count', handle, below, rfl⟩ := holds.entries entry member
    exact Nat.ne_of_lt below

/-- A request for the function of a kind is given this function, which is in
the cache from then on. -/
theorem request (holds : HoldsLighting cache) (kind : LightKind)
    (count : Nat) :
    ∃ handle,
      (cache.request (kind.key count)
          fun () => kind.lighting count).1.function =
        (kind.lighting count).withHandle handle ∧
      (kind.key count, (kind.lighting count).withHandle handle) ∈
        (cache.request (kind.key count)
          fun () => kind.lighting count).2.functions ∧
      cache.functions ⊆
        (cache.request (kind.key count)
          fun () => kind.lighting count).2.functions ∧
      HoldsLighting
        (cache.request (kind.key count) fun () => kind.lighting count).2 := by
  cases found : cache.find? (kind.key count) with
  | some known =>
      obtain ⟨handle, same, member⟩ := holds.exists_of_find? found
      subst same
      rw [FunctionCache.request_of_known found]
      exact ⟨handle, rfl, member, List.Subset.refl _, holds.entries,
        holds.distinct⟩
  | none =>
      rw [FunctionCache.request_of_missing found]
      exact ⟨_, rfl, List.mem_append_right _ List.mem_cons_self,
        List.subset_append_left _ _, holds.withFresh kind count _⟩

/-- Functions of the cache that share a handle are under one key. -/
theorem key_eq_of_handle (holds : HoldsLighting cache)
    {key key' : String} {function function' : ShaderFunction}
    (first : (key, function) ∈ cache.functions)
    (second : (key', function') ∈ cache.functions)
    (handles : function.handle = function'.handle) : key = key' :=
  congrArg Prod.fst
    (List.inj_on_of_nodup_map holds.distinct first second handles)

end HoldsLighting

/-! ## Builds -/

section Builds

variable {workshop : Workshop}

/-- The light of one kind is added by the function for the number of lights;
where there are none, nothing is added. -/
private theorem exists_run_lightConstruction
    (holds : HoldsLighting workshop.functions) (kind : LightKind)
    (count : Nat) (next : List Operation → Construction) :
    ∃ handle later,
      (lightConstruction kind count next).run workshop =
          (next (if 0 < count then [kind.lightCall count handle]
            else [])).run later ∧
        (0 < count →
          (kind.key count, (kind.lighting count).withHandle handle) ∈
            later.functions.functions) ∧
        workshop.functions.functions ⊆ later.functions.functions ∧
        HoldsLighting later.functions := by
  unfold lightConstruction
  by_cases dark : count = 0
  case pos =>
      subst dark
      exact ⟨0, workshop, rfl,
        fun impossible => absurd impossible (Nat.lt_irrefl 0),
        List.Subset.refl _, holds⟩
  case neg =>
      obtain ⟨handle, given, listed, grows, holdsLater⟩ :=
        holds.request kind count
      refine ⟨handle,
        (Building.function (kind.key count) (fun () => kind.lighting count)
          workshop).2, ?_, fun _ => listed, grows, holdsLater⟩
      rw [if_neg dark, if_pos (Nat.pos_of_ne_zero dark), LightKind.lightCall,
        ← given]
      rfl

/-- The fragment stage of a build calls a function for each kind with lights.
These are the functions of the cache for the numbers of lights, under handles
of their own. -/
theorem HoldsLighting.exists_build (holds : HoldsLighting workshop.functions)
    (name : String) (precision : Precision) (lights : LightCounts) :
    ∃ handles : LightKind → Nat,
      ((present lights).map handles).Nodup ∧
      ((Material.lambert name precision).build lights workshop).1 =
        trees precision ((present lights).map fun kind =>
          kind.lightCall (kind.count lights) (handles kind)) ∧
      HoldsLighting
        ((Material.lambert name precision).build lights
          workshop).2.functions := by
  obtain ⟨directional, workshop₁, run₁, listed₁, _, holds₁⟩ :=
    exists_run_lightConstruction holds .directional lights.directional
      fun directional =>
        lightConstruction .point lights.point fun point =>
          lightConstruction .spot lights.spot fun spot =>
            .finish (trees precision (directional ++ point ++ spot))
  obtain ⟨point, workshop₂, run₂, listed₂, grows₂, holds₂⟩ :=
    exists_run_lightConstruction holds₁ .point lights.point fun point =>
      lightConstruction .spot lights.spot fun spot =>
        .finish (trees precision (_ ++ point ++ spot))
  obtain ⟨spot, workshop₃, run₃, listed₃, grows₃, holds₃⟩ :=
    exists_run_lightConstruction holds₂ .spot lights.spot fun spot =>
      .finish (trees precision (_ ++ _ ++ spot))
  have ran := run₁.trans (run₂.trans run₃)
  have listed (kind : LightKind) (lit : 0 < kind.count lights) :
      (kind.key (kind.count lights),
        (kind.lighting (kind.count lights)).withHandle
          (kind.select directional point spot)) ∈
          workshop₃.functions.functions := by
    cases kind with
    | directional =>
        exact grows₃ (grows₂ (listed₁ lit))
    | point =>
        exact grows₃ (listed₂ lit)
    | spot =>
        exact listed₃ lit
  rw [← run_construction, construction, ran]
  refine ⟨LightKind.select directional point spot, ?_, ?_, holds₃⟩
  · refine (nodup_present lights).map_on fun kind lit kind' lit' same => ?_
    have keys := holds₃.key_eq_of_handle
      (listed kind (mem_present_iff.mp lit))
      (listed kind' (mem_present_iff.mp lit')) same
    exact (LightKind.key_inj keys).1
  · refine congrArg (trees precision) ?_
    by_cases directionalLit : 0 < lights.directional <;>
      by_cases pointLit : 0 < lights.point <;>
        by_cases spotLit : 0 < lights.spot <;>
          simp [present, LightKind.count, LightKind.select,
            directionalLit, pointLit, spotLit]

/-- A cache that diffuse materials have filled holds lighting functions. -/
theorem FilledByBuilds.holdsLighting {cache : FunctionCache}
    (filled : FilledByBuilds cache) : HoldsLighting cache := by
  induction filled with
  | empty =>
      exact .empty
  | @cleared cache _ _ =>
      exact .clear cache
  | built _ name precision lights inductionHypothesis =>
      obtain ⟨_, _, _, holds⟩ :=
        inductionHypothesis.exists_build name precision lights
      exact holds

end Builds

end Shaderwright.Lambert
