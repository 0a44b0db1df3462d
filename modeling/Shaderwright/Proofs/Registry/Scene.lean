import Shaderwright.Material.Grid
import Shaderwright.Material.Lambert
import Shaderwright.Proofs.Registry.Construction

/-!
The materials of a scene: diffuse ones, grids, and any others that build their
trees by constructions. Diffuse materials and grids do not look at handles and
ask for every key always with the same function, which is free of NaN.
-/

namespace Shaderwright

namespace Lambert

/-! ## Kinds of lights -/

inductive LightKind where
  | directional
  | point
  | spot
deriving DecidableEq, Repr

namespace LightKind

/-- The first part of the keys of a kind. -/
def name : LightKind → String
  | directional => "directional"
  | point => "point"
  | spot => "spot"

/-- The function that adds up the lights of a kind. -/
def lighting : LightKind → Nat → ShaderFunction
  | directional => directionalLighting
  | point => pointLighting
  | spot => spotLighting

/-- The arguments of the call of the function. -/
def arguments : LightKind → Nat → List Operand
  | directional, count =>
      [ unitNormal,
        arrayOf 60 "directionalDirections" count,
        arrayOf 61 "directionalColors" count ]
  | point, count =>
      [ unitNormal,
        worldPosition,
        arrayOf 62 "pointPositions" count,
        arrayOf 63 "pointColors" count ]
  | spot, count =>
      let cutoffs : Parameter :=
        ⟨67, "spotCutoffs", .scalar, .constant, count⟩
      [ unitNormal,
        worldPosition,
        arrayOf 64 "spotPositions" count,
        arrayOf 65 "spotDirections" count,
        arrayOf 66 "spotColors" count,
        cutoffs ]

/-- The key of the function for a number of lights. -/
def key (kind : LightKind) (count : Nat) : String :=
  kind.name ++ "_lighting/" ++ toString count

/-- A key tells the kind and the number of lights. -/
theorem key_inj {kind kind' : LightKind} {count count' : Nat}
    (same : kind.key count = kind'.key count') :
    kind = kind' ∧ count = count' := by
  have texts := congrArg String.toList same
  simp only [key, String.toList_append] at texts
  have kinds : kind = kind' := by
    cases kind <;> cases kind' <;>
      first
        | rfl
        | simp [name] at texts
  subst kinds
  have digits := List.append_cancel_left texts
  have counts := congrArg (fun text => Nat.ofDigitChars 10 text 0) digits
  refine ⟨rfl, ?_⟩
  simpa [Nat.toString_eq_ofList_toDigits] using counts

theorem bodyCallees_lighting (kind : LightKind) (count : Nat) :
    bodyCallees (kind.lighting count).body = [] := by
  cases kind <;> rfl

/-- The numbers that the function of a kind writes. -/
def numbers : LightKind → List Binary32
  | directional => [.ofInt 0, .ofInt 0, .ofInt 0, .ofInt 0]
  | point =>
      [.ofInt 0, .ofInt 0, .ofInt 0, .ofInt 1, .ofInt 1, .ofInt 0]
  | spot => [.ofInt 0, .ofInt 0, .ofInt 0, .ofInt 0]

theorem numbers_lighting (kind : LightKind) (count : Nat) :
    (bodyVisits 1 (kind.lighting count).body).flatMap Visit.numbers =
      kind.numbers := by
  cases kind <;> rfl

theorem numbers_naNFree (kind : LightKind) :
    ∀ number ∈ kind.numbers, number.isNaN = false := by
  cases kind <;> decide +kernel

/-- The functions of all kinds hold no NaN. -/
theorem lighting_naNFree (kind : LightKind) (count : Nat) :
    (kind.lighting count).NaNFree := by
  have own : BodyNaNFree (kind.lighting count).body := by
    intro visit member number written
    refine kind.numbers_naNFree number ?_
    rw [← kind.numbers_lighting count]
    exact List.mem_flatMap.mpr ⟨visit, member, written⟩
  exact .of_noCallees own (kind.bodyCallees_lighting count)

end LightKind

/-! ## Diffuse materials -/

/-- Adds the light of one kind and goes on with the operations for it. -/
def lightConstruction (kind : LightKind) (count : Nat)
    (next : List Operation → Construction) : Construction :=
  if count = 0 then
    next []
  else
    .cached (kind.key count) (kind.lighting count) fun function =>
      next
        [.addTo light (Operation.call function (kind.arguments count))]

/-- The operations of the fragment stage, around those for the lights. -/
def fragmentOperations (lighting : List Operation) : List Operation :=
  [ .introduce unitNormal (Operation.normalized normal),
    .introduce light ambientColor ] ++
  lighting ++
  [ .set BuiltInVariable.output <|
      Transform.point (Operation.times baseColor light) ]

def trees (precision : Precision) (lighting : List Operation) :
    ShaderPair where
  vertex := vertexShader
  fragment := ⟨.fragment, some precision, fragmentOperations lighting⟩

/-- How a diffuse material builds its trees. -/
def construction (precision : Precision) (lights : LightCounts) :
    Construction :=
  lightConstruction .directional lights.directional fun directional =>
    lightConstruction .point lights.point fun point =>
      lightConstruction .spot lights.spot fun spot =>
        .finish (trees precision (directional ++ point ++ spot))

private theorem run_lightConstruction (kind : LightKind) (count : Nat)
    (next : List Operation → Construction) :
    (lightConstruction kind count next).run =
      addLight kind.name count kind.lighting (kind.arguments count) >>=
        fun operations => (next operations).run := by
  unfold lightConstruction addLight
  by_cases dark : count = 0
  · simp [dark]
  · simp [dark, Construction.run, LightKind.key]

theorem run_construction (name : String) (precision : Precision)
    (lights : LightCounts) :
    (construction precision lights).run =
      (Material.lambert name precision).build lights := by
  have directional :
      addDirectionalLight lights.directional =
        addLight LightKind.directional.name lights.directional
          LightKind.directional.lighting
          (LightKind.directional.arguments lights.directional) := rfl
  have point :
      addPointLight lights.point =
        addLight LightKind.point.name lights.point LightKind.point.lighting
          (LightKind.point.arguments lights.point) := rfl
  have spot :
      addSpotLight lights.spot =
        addLight LightKind.spot.name lights.spot LightKind.spot.lighting
          (LightKind.spot.arguments lights.spot) := rfl
  unfold construction
  simp only [run_lightConstruction, Construction.run]
  simp [Material.lambert, fragmentShader, directional, point, spot, trees,
    fragmentOperations]

section Alike

variable {related : ShaderFunction → ShaderFunction → Prop}

/-- The call of a lighting function, with alike functions. -/
private theorem lightCall_alike (structural : Structural related)
    (kind : LightKind) (count : Nat) {function function' : ShaderFunction}
    (same : related function function') :
    BodiesAlike related
      [.addTo light (Operation.call function (kind.arguments count))]
      [.addTo light (Operation.call function' (kind.arguments count))] := by
  have callees (callee : ShaderFunction) :
      bodyCallees
          [.addTo light (Operation.call callee (kind.arguments count))] =
        [callee] := by
    cases kind <;> rfl
  constructor
  · have bare : function.relabeled .bare = function'.relabeled .bare :=
      (structural function function' same).bare
    simp only [relabeledBody, Operation.addTo, Operation.relabeled,
      Operand.relabeled, bare]
  · rw [callees, callees]
    exact .cons same .nil

private theorem lightConstruction_alike (structural : Structural related)
    (kind : LightKind) (count : Nat)
    {next next' : List Operation → Construction}
    (later : ∀ operations operations',
      BodiesAlike related operations operations' →
        (next operations).Alike related (next' operations')) :
    (lightConstruction kind count next).Alike related
      (lightConstruction kind count next') := by
  unfold lightConstruction
  split
  · exact later [] [] (.of_noCallees rfl)
  · refine .cached (.of_noCallees (kind.bodyCallees_lighting count)) ?_
    intro answer answer' same
    exact later _ _ (lightCall_alike structural kind count same)

private theorem trees_alike (precision : Precision)
    {lighting lighting' : List Operation}
    (same : BodiesAlike related lighting lighting') :
    (Construction.finish (trees precision lighting)).Alike related
      (.finish (trees precision lighting')) := by
  have whole :
      BodiesAlike related (fragmentOperations lighting)
        (fragmentOperations lighting') :=
    .append (.append (.of_noCallees rfl) same) (.of_noCallees rfl)
  refine .finish (.of_noCallees rfl) ⟨?_, whole.callees⟩
  exact congrArg (Shader.mk .fragment (some precision)) whole.bare

end Alike

/-- Diffuse materials do not look at handles. -/
theorem construction_uniform (precision : Precision)
    (lights : LightCounts) :
    (construction precision lights).Uniform := by
  intro related structural
  refine lightConstruction_alike structural .directional _
    fun directional directional' sameDirectional => ?_
  refine lightConstruction_alike structural .point _
    fun point point' samePoint => ?_
  refine lightConstruction_alike structural .spot _
    fun spot spot' sameSpot => ?_
  exact trees_alike precision
    (.append (.append sameDirectional samePoint) sameSpot)

private theorem asks_lightConstruction {kind : LightKind} {count : Nat}
    {next : List Operation → Construction} {key : String}
    {function : ShaderFunction}
    (asked : (lightConstruction kind count next).Asks key function) :
    (key = kind.key count ∧ function = kind.lighting count) ∨
      ∃ operations, (next operations).Asks key function := by
  unfold lightConstruction at asked
  split at asked
  · exact Or.inr ⟨_, asked⟩
  · cases asked with
    | here =>
        exact Or.inl ⟨rfl, rfl⟩
    | afterCached later =>
        exact Or.inr ⟨_, later⟩

/-- A diffuse material asks for the lighting functions under their keys. -/
theorem asks_construction {precision : Precision} {lights : LightCounts}
    {key : String} {function : ShaderFunction}
    (asked : (construction precision lights).Asks key function) :
    ∃ (kind : LightKind) (count : Nat),
      key = kind.key count ∧ function = kind.lighting count := by
  rcases asks_lightConstruction asked with found | ⟨_, asked⟩
  · exact ⟨_, _, found⟩
  rcases asks_lightConstruction asked with found | ⟨_, asked⟩
  · exact ⟨_, _, found⟩
  rcases asks_lightConstruction asked with found | ⟨_, asked⟩
  · exact ⟨_, _, found⟩
  · cases asked

end Lambert

/-! ## Materials of a scene -/

/-- A material of a scene: a diffuse one, a grid, or any other one that builds
its trees by constructions. -/
inductive SceneMaterial where
  | lambert (name : String) (precision : Precision)
  | grid (name : String)
  | other (name : String) (construction : LightCounts → Construction)

namespace SceneMaterial

/-- The material itself. -/
def material : SceneMaterial → Material
  | lambert name precision => .lambert name precision
  | grid name => .grid name
  | other name construction => ⟨name, fun lights => (construction lights).run⟩

/-- How the material builds its trees for given light counts. -/
def construction : SceneMaterial → LightCounts → Construction
  | lambert _ precision => Lambert.construction precision
  | grid _ => fun _ => .finish ⟨Grid.vertexShader, Grid.fragmentShader⟩
  | other _ construction => construction

/-- Neither a diffuse material nor a grid. -/
def IsOther : SceneMaterial → Prop
  | other .. => True
  | _ => False

/-- Materials of a scene build their trees by their constructions. -/
theorem build_eq (scene : SceneMaterial) (lights : LightCounts) :
    scene.material.build lights = (scene.construction lights).run := by
  cases scene with
  | lambert name precision =>
      exact (Lambert.run_construction name precision lights).symm
  | grid name =>
      rfl
  | other name construction =>
      rfl

end SceneMaterial

/-- The demands on the materials of a scene that are neither diffuse nor
grids: they do not look at handles, and they ask for a key always with the
same function, which holds no NaN, as does everything else that asks for the
key. -/
structure SceneAgrees (scene : List SceneMaterial) : Prop where
  uniform : ∀ other ∈ scene, other.IsOther → ∀ lights,
    (other.construction lights).Uniform
  naNFree : ∀ other ∈ scene, other.IsOther → ∀ lights key function,
    (other.construction lights).Asks key function → function.NaNFree
  same : ∀ other ∈ scene, other.IsOther → ∀ lights key function,
    (other.construction lights).Asks key function →
      ∀ material ∈ scene, ∀ lights' function',
        (material.construction lights').Asks key function' →
          function.bare = function'.bare

/-- What the materials of a scene ask the cache for. -/
def SceneAsks (scene : List SceneMaterial) (key : String)
    (function : ShaderFunction) : Prop :=
  ∃ material ∈ scene, ∃ lights,
    (material.construction lights).Asks key function

namespace SceneAgrees

variable {scene : List SceneMaterial}

/-- No material of the scene looks at handles. -/
theorem construction_uniform (agrees : SceneAgrees scene)
    {material : SceneMaterial} (member : material ∈ scene)
    (lights : LightCounts) : (material.construction lights).Uniform := by
  cases material with
  | lambert name precision =>
      exact Lambert.construction_uniform precision lights
  | grid name =>
      exact fun _ _ => .finish (.of_noCallees rfl) (.of_noCallees rfl)
  | other name construction =>
      exact agrees.uniform _ member trivial lights

theorem asked_naNFree (agrees : SceneAgrees scene) {key : String}
    {function : ShaderFunction} (asked : SceneAsks scene key function) :
    function.NaNFree := by
  obtain ⟨material, member, lights, asks⟩ := asked
  cases material with
  | lambert name precision =>
      obtain ⟨kind, count, _, rfl⟩ := Lambert.asks_construction asks
      exact kind.lighting_naNFree count
  | grid name =>
      cases asks
  | other name construction =>
      exact agrees.naNFree _ member trivial lights key function asks

/-- All that is asked under one key differs in handles only. -/
theorem asked_same (agrees : SceneAgrees scene) {key : String}
    {function function' : ShaderFunction}
    (asked : SceneAsks scene key function)
    (asked' : SceneAsks scene key function') :
    function.bare = function'.bare := by
  obtain ⟨material, member, lights, asks⟩ := asked
  obtain ⟨material', member', lights', asks'⟩ := asked'
  cases material with
  | grid name =>
      cases asks
  | other name construction =>
      exact agrees.same _ member trivial lights key function asks material'
        member' lights' function' asks'
  | lambert name precision =>
      cases material' with
      | grid name' =>
          cases asks'
      | other name' construction' =>
          exact (agrees.same _ member' trivial lights' key function' asks' _
            member lights function asks).symm
      | lambert name' precision' =>
          obtain ⟨kind, count, known, rfl⟩ :=
            Lambert.asks_construction asks
          obtain ⟨kind', count', known', rfl⟩ :=
            Lambert.asks_construction asks'
          obtain ⟨rfl, rfl⟩ :=
            Lambert.LightKind.key_inj (known.symm.trans known')
          rfl

end SceneAgrees

end Shaderwright
