import Shaderwright.Tree

/-!
Functions shared by the shaders of many materials, by key. A function is built
when its key is asked for first, and every later request for the key is given
the same function.
-/

namespace Shaderwright

/-- The functions built so far, with the number of requests that found one
and of those that did not. `nextHandle` is larger than every handle given out,
so that functions built at different times never share one. -/
structure FunctionCache where
  functions : List (String × ShaderFunction)
  hits : Nat
  misses : Nat
  nextHandle : Nat

namespace FunctionCache

def empty : FunctionCache := ⟨[], 0, 0, 0⟩

def find? (cache : FunctionCache) (key : String) : Option ShaderFunction :=
  cache.functions.lookup key

def size (cache : FunctionCache) : Nat :=
  cache.functions.length

def isEmpty (cache : FunctionCache) : Bool :=
  cache.functions.isEmpty

/-- A handle that no function has. -/
def freshHandle (cache : FunctionCache) : Nat × FunctionCache :=
  (cache.nextHandle, { cache with nextHandle := cache.nextHandle + 1 })

/-- What a request was given, and whether it had to be built. -/
structure Answer where
  function : ShaderFunction
  built : Bool

/-- The function of a key. If there is none yet, it is built, by a step that may
have effects, and gets a handle of its own. -/
def requestWith {m : Type → Type} [Monad m] (cache : FunctionCache)
    (key : String) (build : m ShaderFunction) :
    m (Answer × FunctionCache) :=
  match cache.find? key with
  | some known =>
      return (⟨known, false⟩, { cache with hits := cache.hits + 1 })
  | none => do
      let built ← build
      let (handle, cache) := cache.freshHandle
      let function := { built with handle := handle }
      return (⟨function, true⟩,
        { cache with
          functions := cache.functions ++ [(key, function)]
          misses := cache.misses + 1 })

/-- The function of a key, built if there is none yet. -/
def request (cache : FunctionCache) (key : String)
    (build : Unit → ShaderFunction) : Answer × FunctionCache :=
  let step : ReaderM Unit ShaderFunction := build
  (cache.requestWith key step).run ()

/-- Forgets the functions. The requests stay counted, and handles are not
given out again. -/
def clear (cache : FunctionCache) : FunctionCache :=
  { cache with functions := [] }

end FunctionCache

end Shaderwright
