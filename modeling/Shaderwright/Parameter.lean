import Shaderwright.ShaderType
import Shaderwright.Text.Quoted

/-!
Parameters: the named, typed and qualified symbols that operands refer to.
-/

namespace Shaderwright

/-- A symbol with its declaration, as it is at one moment. An array length of
zero means that the parameter is not an array. Parameters that share a handle
are one symbol: at any moment they are declared alike, and they change their
array length together. -/
structure Parameter where
  handle : Nat
  name : String
  type : ShaderType
  qualifier : Qualifier
  arrayLength : Nat
deriving DecidableEq, Repr

namespace Parameter

def isArray (parameter : Parameter) : Bool :=
  decide (0 < parameter.arrayLength)

/-- Whether two parameters are one symbol. -/
def sharesHandle (first second : Parameter) : Bool :=
  first.handle == second.handle

/-- Whether two parameters show the same declaration. -/
def declaredAlike (first second : Parameter) : Bool :=
  first.name == second.name && first.type == second.type &&
    first.qualifier == second.qualifier &&
    first.arrayLength == second.arrayLength

/-- Parameters are equal when they are one symbol of one moment, and when they
are declared alike. -/
def equals (first second : Parameter) : Bool :=
  first == second || first.declaredAlike second

/-- Changes the array length of the symbol with the given handle, as seen from
any parameter. -/
def withArrayLength (handle length : Nat) (parameter : Parameter) :
    Parameter :=
  if parameter.handle = handle then
    { parameter with arrayLength := length }
  else
    parameter

/-- The parameters are of one moment: one symbol shows one declaration. -/
def OfOneMoment (parameters : List Parameter) : Prop :=
  ∀ first ∈ parameters, ∀ second ∈ parameters,
    first.sharesHandle second = true → first.declaredAlike second = true

/-- The declaration of a parameter, as it is shown to a reader. -/
def description (parameter : Parameter) : String :=
  "Parameter \x7b name: " ++ Text.quoted parameter.name ++
    ", ty: " ++ parameter.type.name ++
    ", qualifier: " ++ parameter.qualifier.name ++
    ", array_length: " ++ toString parameter.arrayLength ++ " \x7d"

section Equality

variable {first second : Parameter}

theorem declaredAlike_self (parameter : Parameter) :
    parameter.declaredAlike parameter = true := by
  simp [declaredAlike]

/-- One symbol is declared like itself, so declarations decide alone. -/
theorem equals_eq_declaredAlike (first second : Parameter) :
    first.equals second = first.declaredAlike second := by
  unfold equals
  by_cases same : first = second
  · rw [same, declaredAlike_self, Bool.or_true]
  · rw [beq_eq_false_iff_ne.mpr same, Bool.false_or]

/-- Among parameters of one moment the handles may be asked first: those of one
symbol are equal anyway. -/
theorem OfOneMoment.equals_eq {parameters : List Parameter}
    (moment : OfOneMoment parameters) (member : first ∈ parameters)
    (memberSecond : second ∈ parameters) :
    first.equals second =
      (first.sharesHandle second || first.declaredAlike second) := by
  rw [equals_eq_declaredAlike]
  cases shared : first.sharesHandle second with
  | true =>
      rw [moment first member second memberSecond shared, Bool.true_or]
  | false =>
      rw [Bool.false_or]

theorem handle_withArrayLength (handle length : Nat)
    (parameter : Parameter) :
    (parameter.withArrayLength handle length).handle = parameter.handle := by
  unfold withArrayLength
  split <;> rfl

/-- A new array length reaches every parameter of its symbol, so that they stay
of one moment. -/
theorem OfOneMoment.withArrayLength {parameters : List Parameter}
    (moment : OfOneMoment parameters) (handle length : Nat) :
    OfOneMoment (parameters.map (Parameter.withArrayLength handle length)) := by
  intro first member second memberSecond shared
  obtain ⟨before, listed, rfl⟩ := List.mem_map.mp member
  obtain ⟨other, listedOther, rfl⟩ := List.mem_map.mp memberSecond
  unfold sharesHandle at shared
  rw [handle_withArrayLength, handle_withArrayLength] at shared
  have alike := moment before listed other listedOther shared
  have sameHandle : before.handle = other.handle := beq_iff_eq.mp shared
  unfold Parameter.withArrayLength
  rw [sameHandle]
  split
  · simp only [declaredAlike, Bool.and_eq_true, beq_iff_eq] at alike ⊢
    exact ⟨alike.1, trivial⟩
  · exact alike

end Equality

end Parameter

end Shaderwright
