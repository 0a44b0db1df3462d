import Shaderwright.Material
import Shaderwright.Proofs.Correspondence

/-!
Constructions: how a material builds its trees. A construction asks the cache
for functions, makes functions of its own and goes on with what it is given. A
uniform construction does not look at handles.
-/

namespace Shaderwright

/-! ## Constructions -/

/-- A function with a handle of its own that is not put into the cache. -/
def Building.ownFunction (function : ShaderFunction) :
    Building ShaderFunction := do
  let workshop ← get
  let (handle, functions) := workshop.functions.freshHandle
  set { workshop with functions := functions }
  return { function with handle := handle }

/-- How trees are built. `cached` asks the cache for the function of a key,
`own` makes a function that is not shared, and both go on with the function
that is given back. -/
inductive Construction where
  | finish (trees : ShaderPair)
  | cached (key : String) (function : ShaderFunction)
      (next : ShaderFunction → Construction)
  | own (function : ShaderFunction)
      (next : ShaderFunction → Construction)

namespace Construction

/-- Follows a construction in the workshop. -/
def run : Construction → Building ShaderPair
  | finish trees => pure trees
  | cached key function next => do
      let answer ← Building.function key fun () => function
      (next answer).run
  | own function next => do
      let answer ← Building.ownFunction function
      (next answer).run

/-- What a construction asks the cache for, if every function it asks for is
given back as it is. -/
inductive Asks : Construction → String → ShaderFunction → Prop
  | here {key : String} {function : ShaderFunction}
      {next : ShaderFunction → Construction} :
      Asks (cached key function next) key function
  | afterCached {key other : String} {function asked : ShaderFunction}
      {next : ShaderFunction → Construction}
      (later : Asks (next function) other asked) :
      Asks (cached key function next) other asked
  | afterOwn {key : String} {function asked : ShaderFunction}
      {next : ShaderFunction → Construction}
      (later : Asks (next function) key asked) :
      Asks (own function next) key asked

end Construction

/-! ## Constructions that do not look at handles -/

section Alike

variable (related : ShaderFunction → ShaderFunction → Prop)

/-- Bodies that differ in handles only, with related callees. -/
structure BodiesAlike (first second : List Operation) : Prop where
  bare : relabeledBody .bare first = relabeledBody .bare second
  callees :
    List.Forall₂ related (bodyCallees first) (bodyCallees second)

/-- Functions that differ in handles only, with related callees. -/
structure ShaderFunction.Alike (first second : ShaderFunction) :
    Prop where
  bare : first.bare = second.bare
  callees :
    List.Forall₂ related (bodyCallees first.body) (bodyCallees second.body)

/-- Shaders that differ in handles only, with related callees. -/
structure Shader.Alike (first second : Shader) : Prop where
  bare : first.bare = second.bare
  callees :
    List.Forall₂ related (bodyCallees first.operations)
      (bodyCallees second.operations)

/-- Constructions that ask for alike functions and build alike trees, as long
as they are given related functions. -/
inductive Construction.Alike : Construction → Construction → Prop
  | finish {trees trees' : ShaderPair}
      (vertex : trees.vertex.Alike related trees'.vertex)
      (fragment : trees.fragment.Alike related trees'.fragment) :
      Construction.Alike (.finish trees) (.finish trees')
  | cached {key : String} {function function' : ShaderFunction}
      {next next' : ShaderFunction → Construction}
      (asked : function.Alike related function')
      (later : ∀ answer answer', related answer answer' →
        Construction.Alike (next answer) (next' answer')) :
      Construction.Alike (.cached key function next)
        (.cached key function' next')
  | own {function function' : ShaderFunction}
      {next next' : ShaderFunction → Construction}
      (made : function.Alike related function')
      (later : ∀ answer answer', related answer answer' →
        Construction.Alike (next answer) (next' answer')) :
      Construction.Alike (.own function next) (.own function' next')

/-- Related functions differ in handles only, and their callees are
related. -/
def Structural : Prop :=
  ∀ first second, related first second → first.Alike related second

/-- A construction that treats functions alike that differ in handles only,
whatever the relation between them is. -/
def Construction.Uniform (construction : Construction) : Prop :=
  ∀ related, Structural related →
    construction.Alike related construction

end Alike

/-! ## Alike bodies -/

section Bodies

variable {related : ShaderFunction → ShaderFunction → Prop}

theorem relabeledBody_append (labels : Relabeling)
    (first second : List Operation) :
    relabeledBody labels (first ++ second) =
      relabeledBody labels first ++ relabeledBody labels second := by
  induction first with
  | nil =>
      rfl
  | cons operation rest inductionHypothesis =>
      simp [relabeledBody, inductionHypothesis]

theorem bodyVisits_append (level : Nat) (first second : List Operation) :
    bodyVisits level (first ++ second) =
      bodyVisits level first ++ bodyVisits level second := by
  induction first with
  | nil =>
      rfl
  | cons operation rest inductionHypothesis =>
      simp [bodyVisits, inductionHypothesis, List.append_assoc]

theorem bodyCallees_append (first second : List Operation) :
    bodyCallees (first ++ second) =
      bodyCallees first ++ bodyCallees second := by
  simp [bodyCallees, bodyVisits_append]

namespace BodiesAlike

theorem of_noCallees {body : List Operation}
    (noCallees : bodyCallees body = []) : BodiesAlike related body body := by
  refine ⟨rfl, ?_⟩
  rw [noCallees]
  exact .nil

theorem append {first second first' second' : List Operation}
    (before : BodiesAlike related first first')
    (after : BodiesAlike related second second') :
    BodiesAlike related (first ++ second) (first' ++ second') := by
  constructor
  · rw [relabeledBody_append, relabeledBody_append, before.bare, after.bare]
  · rw [bodyCallees_append, bodyCallees_append]
    exact List.rel_append before.callees after.callees

end BodiesAlike

theorem ShaderFunction.Alike.of_noCallees {function : ShaderFunction}
    (noCallees : bodyCallees function.body = []) :
    function.Alike related function := by
  refine ⟨rfl, ?_⟩
  rw [noCallees]
  exact .nil

theorem Shader.Alike.of_noCallees {shader : Shader}
    (noCallees : bodyCallees shader.operations = []) :
    shader.Alike related shader := by
  refine ⟨rfl, ?_⟩
  rw [noCallees]
  exact .nil

end Bodies

end Shaderwright
