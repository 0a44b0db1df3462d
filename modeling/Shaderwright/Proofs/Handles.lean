import Shaderwright.Proofs.Correspondence
import Shaderwright.Proofs.EqualFunctions

/-!
Lowering sees declarations, not handles. Shaders that differ only in which
handles their parameters and functions are, and in how these are shared, have
one outcome; and after changes of array lengths a shader is lowered like one
built anew with the final lengths (`lower_sees_declarations`).
-/

namespace Shaderwright

/-! ## Functions that differ in handles only -/

/-- No function called in a shader holds a NaN. -/
def Shader.CalleesNaNFree (shader : Shader) : Prop :=
  ∀ function, CalledFrom shader.operations function →
    BodyNaNFree function.body

theorem Shader.CalleesNaNFree.naNFree {shader : Shader}
    (free : shader.CalleesNaNFree) {function : ShaderFunction}
    (called : CalledFrom shader.operations function) : function.NaNFree :=
  ⟨free function called,
    fun callee below => free callee (called.trans below)⟩

/-- Where no function holds a NaN, one stands for another exactly when both
have one canonical form. -/
theorem Shader.HandlesAgree.standsFor_iff_canonical {shader : Shader}
    (agree : shader.HandlesAgree) {known function : ShaderFunction}
    (calledKnown : CalledFrom shader.operations known)
    (called : CalledFrom shader.operations function)
    (freeKnown : known.NaNFree) (free : function.NaNFree) :
    known.StandsFor function ↔ known.canonical = function.canonical := by
  constructor
  · exact agree.canonical_eq_of_standsFor calledKnown called
  · intro same
    have equal : known.equals function = true := by
      rw [ShaderFunction.equals_iff, ShaderFunction.equals_self_iff,
        ShaderFunction.equals_self_iff]
      exact ⟨freeKnown, free, same⟩
    exact Or.inr equal

/-- Functions of two shaders that differ in handles only. -/
structure CalledAlike (first second : Shader)
    (function function' : ShaderFunction) : Prop where
  bare : SameBare function function'
  calledFirst : CalledFrom first.operations function
  calledSecond : CalledFrom second.operations function'

section Shaders

variable {first second : Shader}

/-- Functions that differ in handles only correspond, if none holds a NaN. -/
theorem calledAlike_correspondence (handles : first.HandlesAgree)
    (handles' : second.HandlesAgree) (free : first.CalleesNaNFree) :
    Correspondence (CalledAlike first second) where
  bare := CalledAlike.bare
  callees := by
    intro function function' same
    refine forall₂_of_map_bare_eq same.bare.callees ?_
    intro callee called callee' called' sameCallee
    exact ⟨sameCallee, .through same.calledFirst called,
      .through same.calledSecond called'⟩
  standsFor := by
    have naNFree {function function' : ShaderFunction}
        (same : CalledAlike first second function function') :
        function.NaNFree ∧ function'.NaNFree := by
      have own := free.naNFree same.calledFirst
      exact ⟨own, same.bare.naNFree_iff.mp own⟩
    intro known known' function function' sameKnown same
    rw [handles.standsFor_iff_canonical sameKnown.calledFirst
        same.calledFirst (naNFree sameKnown).1 (naNFree same).1,
      handles'.standsFor_iff_canonical sameKnown.calledSecond
        same.calledSecond (naNFree sameKnown).2 (naNFree same).2,
      sameKnown.bare.canonical_eq, same.bare.canonical_eq]

/-- Shaders that differ in handles only have one outcome. -/
theorem lowerWithEvents_eq_of_bare_eq (handles : first.HandlesAgree)
    (handles' : second.HandlesAgree) (free : first.CalleesNaNFree)
    (same : first.bare = second.bare) (dialect : Dialect) :
    lowerWithEvents dialect first = lowerWithEvents dialect second := by
  have bodies :
      relabeledBody .bare first.operations =
        relabeledBody .bare second.operations :=
    congrArg Shader.operations same
  have callees :
      List.Forall₂ (CalledAlike first second)
        (bodyCallees first.operations) (bodyCallees second.operations) := by
    refine forall₂_of_map_bare_eq (bodyCallees_bare_eq bodies) ?_
    intro function called function' called' sameFunction
    exact ⟨sameFunction, .direct called, .direct called'⟩
  exact lowerWithEvents_eq_of_correspondence
    (calledAlike_correspondence handles handles' free) same callees dialect

end Shaders

/-! ## Changes of array lengths -/

/-- A shader after changes of array lengths, each for the symbol of a handle,
one after the other. -/
def Shader.withArrayLengths (changes : List (Nat × Nat)) (shader : Shader) :
    Shader :=
  changes.foldl
    (fun changed change => changed.withArrayLength change.1 change.2) shader

/-- The length that the last change for a handle has set. -/
def lastLength? (changes : List (Nat × Nat)) (handle : Nat) : Option Nat :=
  (changes.reverse.find? fun change => change.1 == handle).map Prod.snd

/-- A parameter with its final array length. -/
def Parameter.settled (changes : List (Nat × Nat)) (symbol : Parameter) :
    Parameter :=
  { symbol with
    arrayLength :=
      (lastLength? changes symbol.handle).getD symbol.arrayLength }

/-- The relabelling that gives every parameter its final array length. -/
def Relabeling.settled (changes : List (Nat × Nat)) : Relabeling where
  parameter := Parameter.settled changes
  number := id
  handle := id

/-- A shader in which every parameter has its final array length. -/
def Shader.settled (changes : List (Nat × Nat)) (shader : Shader) :
    Shader :=
  shader.relabeled (.settled changes)

theorem lastLength?_cons (handle length : Nat) (rest : List (Nat × Nat))
    (other : Nat) :
    lastLength? ((handle, length) :: rest) other =
      (lastLength? rest other).or
        (if handle = other then some length else none) := by
  unfold lastLength?
  rw [List.reverse_cons, List.find?_append]
  cases rest.reverse.find? fun change => change.1 == other with
  | none =>
      by_cases same : handle = other <;> simp [same]
  | some change =>
      simp

/-- The final length of a symbol is that of the later changes, after the first
one. -/
theorem Parameter.settled_cons (handle length : Nat)
    (rest : List (Nat × Nat)) (symbol : Parameter) :
    symbol.settled ((handle, length) :: rest) =
      (symbol.withArrayLength handle length).settled rest := by
  have last := lastLength?_cons handle length rest symbol.handle
  unfold Parameter.settled Parameter.withArrayLength
  rw [last]
  by_cases same : symbol.handle = handle
  · rw [if_pos same, if_pos same.symm]
    cases lastLength? rest symbol.handle <;> rfl
  · rw [if_neg same, if_neg (Ne.symm same), Option.or_none]

private theorem settled_cons_eq (handle length : Nat)
    (rest : List (Nat × Nat)) :
    Relabeling.settled ((handle, length) :: rest) =
      (Relabeling.arrayLength handle length).andThen (.settled rest) := by
  unfold Relabeling.settled Relabeling.arrayLength Relabeling.andThen
  congr
  exact funext (Parameter.settled_cons handle length rest)

theorem Shader.relabeled_relabeled (first second : Relabeling)
    (shader : Shader) :
    (shader.relabeled first).relabeled second =
      shader.relabeled (first.andThen second) := by
  rw [Shader.relabeled, Shader.relabeled, Shader.relabeled,
    relabeledBody_relabeled]

/-- After all changes every parameter has its final length. -/
theorem Shader.bare_withArrayLengths (changes : List (Nat × Nat))
    (shader : Shader) :
    (shader.withArrayLengths changes).bare =
      (shader.settled changes).bare := by
  induction changes generalizing shader with
  | nil =>
      rw [Shader.settled, Shader.bare, Shader.bare,
        Shader.relabeled_relabeled]
      rfl
  | cons change rest inductionHypothesis =>
      obtain ⟨handle, length⟩ := change
      have step :
          shader.withArrayLengths ((handle, length) :: rest) =
            (shader.withArrayLength handle length).withArrayLengths rest :=
        rfl
      rw [step, inductionHypothesis, Shader.settled, Shader.settled,
        Shader.withArrayLength_eq, Shader.relabeled_relabeled,
        settled_cons_eq]

theorem Shader.HandlesAgree.relabeled {shader : Shader}
    {labels : Relabeling} (keeps : labels.handle = id)
    (agree : shader.HandlesAgree) :
    (shader.relabeled labels).HandlesAgree := by
  intro first calledFirst second calledSecond handles
  obtain ⟨original, called, rfl⟩ :=
    (calledFrom_relabeled_iff labels).mp calledFirst
  obtain ⟨original', called', rfl⟩ :=
    (calledFrom_relabeled_iff labels).mp calledSecond
  rw [ShaderFunction.handle_relabeled, ShaderFunction.handle_relabeled,
    keeps] at handles
  rw [agree original called original' called' handles]

theorem Shader.CalleesNaNFree.relabeled {shader : Shader}
    {labels : Relabeling} (keeps : labels.number = id)
    (free : shader.CalleesNaNFree) :
    (shader.relabeled labels).CalleesNaNFree := by
  intro function called
  obtain ⟨original, reached, rfl⟩ :=
    (calledFrom_relabeled_iff labels).mp called
  rw [ShaderFunction.body_relabeled, bodyNaNFree_relabeled_iff keeps]
  exact free original reached

theorem Shader.HandlesAgree.withArrayLengths {shader : Shader}
    (agree : shader.HandlesAgree) (changes : List (Nat × Nat)) :
    (shader.withArrayLengths changes).HandlesAgree := by
  induction changes generalizing shader with
  | nil =>
      exact agree
  | cons change rest inductionHypothesis =>
      have changed :
          (shader.withArrayLength change.1 change.2).HandlesAgree := by
        rw [Shader.withArrayLength_eq]
        exact agree.relabeled rfl
      exact inductionHypothesis changed

theorem Shader.CalleesNaNFree.withArrayLengths {shader : Shader}
    (free : shader.CalleesNaNFree) (changes : List (Nat × Nat)) :
    (shader.withArrayLengths changes).CalleesNaNFree := by
  induction changes generalizing shader with
  | nil =>
      exact free
  | cons change rest inductionHypothesis =>
      have changed :
          (shader.withArrayLength change.1 change.2).CalleesNaNFree := by
        rw [Shader.withArrayLength_eq]
        exact free.relabeled rfl
      exact inductionHypothesis changed

/-! ## Declarations, not handles -/

/-- Shaders that differ in handles only have one outcome in every dialect, and
so have a shader after changes of array lengths and any shader built anew with
the final lengths. -/
theorem lower_sees_declarations (dialect : Dialect) {first second : Shader}
    (handles : first.HandlesAgree) (handles' : second.HandlesAgree)
    (free : first.CalleesNaNFree) :
    (first.bare = second.bare →
      lower dialect first = lower dialect second) ∧
      ∀ changes, (first.settled changes).bare = second.bare →
        lower dialect (first.withArrayLengths changes) =
          lower dialect second := by
  refine ⟨fun same => ?_, fun changes same => ?_⟩
  · have outcomes :=
      lowerWithEvents_eq_of_bare_eq handles handles' free same dialect
    exact congrArg Prod.fst outcomes
  · have changed :
        (first.withArrayLengths changes).bare = second.bare := by
      rw [Shader.bare_withArrayLengths, same]
    have outcomes :=
      lowerWithEvents_eq_of_bare_eq (handles.withArrayLengths changes)
        handles' (free.withArrayLengths changes) changed dialect
    exact congrArg Prod.fst outcomes

/-! ## A function with an array -/

/-- A function that reads an array of the stage. -/
def weightFunction (handle symbol length : Nat) : ShaderFunction :=
  ⟨handle, "weight", some .scalar, [],
    [.returnValue (.operation (.select
      (.parameter ⟨symbol, "weights", .scalar, .constant, length⟩)
      "[0]"))]⟩

/-- A fragment shader that calls the function twice, by two handles. -/
def weightShader (handle symbol handle' symbol' length : Nat) : Shader :=
  ⟨.fragment, none,
    [.call (weightFunction handle symbol length) [],
      .call (weightFunction handle' symbol' length) []]⟩

theorem calledFrom_weightShader
    {handle symbol handle' symbol' length : Nat} {function : ShaderFunction}
    (called : CalledFrom
      (weightShader handle symbol handle' symbol' length).operations
      function) :
    function = weightFunction handle symbol length ∨
      function = weightFunction handle' symbol' length := by
  have entryCallees :
      bodyCallees
          (weightShader handle symbol handle' symbol' length).operations =
        [weightFunction handle symbol length,
          weightFunction handle' symbol' length] := rfl
  have noCallees (handle symbol : Nat) :
      bodyCallees (weightFunction handle symbol length).body = [] := rfl
  induction called with
  | direct called =>
      rw [entryCallees] at called
      simpa using called
  | through _ called inductionHypothesis =>
      rcases inductionHypothesis with rfl | rfl <;>
        · rw [noCallees] at called
          cases called

theorem weightShader_handlesAgree {handle symbol handle' symbol' : Nat}
    (length : Nat) (shared : handle = handle' → symbol = symbol') :
    (weightShader handle symbol handle' symbol' length).HandlesAgree := by
  intro first calledFirst second calledSecond handles
  rcases calledFrom_weightShader calledFirst with rfl | rfl <;>
    rcases calledFrom_weightShader calledSecond with rfl | rfl
  · rfl
  · have same : handle = handle' := handles
    rw [same, shared same]
  · have same : handle = handle' := Eq.symm handles
    rw [same, shared same]
  · rfl

theorem weightShader_calleesNaNFree
    (handle symbol handle' symbol' length : Nat) :
    (weightShader handle symbol handle' symbol' length).CalleesNaNFree := by
  have noNumbers (handle symbol : Nat) :
      ∀ visit ∈ bodyVisits 1 (weightFunction handle symbol length).body,
        visit.numbers = [] := by
    simp [weightFunction, bodyVisits, Operation.visits, Operand.visits,
      Visit.numbers]
  intro function called visit member number written
  rcases calledFrom_weightShader called with rfl | rfl <;>
    · rw [noNumbers _ _ visit member] at written
      cases written

/-- One function with one array, and two functions with an array each. -/
theorem weightShader_sees_declarations :
    lower .glslEs100 (weightShader 1 7 1 7 2) =
        lower .glslEs100 (weightShader 1 3 2 4 2) ∧
      lower .glslEs100
          ((weightShader 1 7 1 7 2).withArrayLengths
            [(7, 6), (3, 5), (7, 4)]) =
        lower .glslEs100 (weightShader 1 3 2 4 4) ∧
      (lower .glslEs100 (weightShader 1 3 2 4 4)).toOption.isSome =
        true := by
  have shared := weightShader_handlesAgree 2 (fun _ : 1 = 1 => Eq.refl 7)
  have split (length : Nat) :
      (weightShader 1 3 2 4 length).HandlesAgree :=
    weightShader_handlesAgree length (by decide)
  have free := weightShader_calleesNaNFree 1 7 1 7 2
  refine ⟨?_, ?_, ?_⟩
  · exact (lower_sees_declarations .glslEs100 shared (split 2) free).1 rfl
  · exact (lower_sees_declarations .glslEs100 shared (split 4) free).2
      [(7, 6), (3, 5), (7, 4)] rfl
  · decide +kernel

end Shaderwright
