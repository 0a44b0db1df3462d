import Shaderwright.Lowering.Locals

/-!
Local variables as a map of declarations. Collecting succeeds exactly when
declarations of one name agree (`Locals.ofDeclarations_ok_iff`), and a name is
then local exactly when it is declared.
-/

namespace Shaderwright

theorem Parameter.equals_iff_symbol (first second : Parameter) :
    first.equals second = true ↔ first.symbol = second.symbol := by
  obtain ⟨_, name, type, qualifier, arrayLength⟩ := first
  obtain ⟨_, name', type', qualifier', arrayLength'⟩ := second
  simp only [Parameter.equals_eq_declaredAlike, Parameter.declaredAlike,
    Parameter.symbol, Bool.and_eq_true, beq_iff_eq, Symbol.mk.injEq]
  grind

theorem Parameter.name_of_symbol {first second : Parameter}
    (same : first.symbol = second.symbol) : first.name = second.name :=
  congrArg Symbol.name same

/-- Declarations of one name agree. -/
def DeclaredAlike (declarations : List Parameter) : Prop :=
  ∀ first ∈ declarations, ∀ second ∈ declarations,
    first.name = second.name → first.symbol = second.symbol

namespace Locals

/-- Local variables that stand for a list of declarations. -/
structure Collects (locals : Locals) (declarations : List Parameter) :
    Prop where
  declared : ∀ name known, locals.find? name = some known →
    known ∈ declarations
  found : ∀ symbol ∈ declarations,
    ∃ known, locals.find? symbol.name = some known ∧
      known.symbol = symbol.symbol

theorem find?_name {locals : Locals} {name : String} {known : Parameter}
    (found : locals.find? name = some known) : known.name = name := by
  simpa using List.find?_some found

theorem map_checkSame_ok_iff {α : Type} {known symbol : Parameter}
    {result : Unit → α} {value : α} :
    (checkSame known symbol).map result = .ok value ↔
      known.symbol = symbol.symbol ∧ result () = value := by
  have same := Parameter.equals_iff_symbol known symbol
  unfold checkSame
  by_cases equal : known.equals symbol = true
  · simp [equal, Except.map, same.mp equal]
  · have different : known.symbol ≠ symbol.symbol := fun equality =>
      equal (same.mpr equality)
    simp [equal, Except.map, different]

theorem insert_ok_iff {locals final : Locals} {symbol : Parameter} :
    locals.insert symbol = .ok final ↔
      (locals.find? symbol.name = none ∧
          ⟨locals.parameters ++ [symbol]⟩ = final) ∨
        (∃ known, locals.find? symbol.name = some known ∧
          known.symbol = symbol.symbol ∧ locals = final) := by
  unfold insert
  cases locals.find? symbol.name with
  | none =>
      simp
  | some known =>
      dsimp only
      rw [map_checkSame_ok_iff]
      simp

theorem find?_append_singleton (locals : Locals) (symbol : Parameter)
    (name : String) :
    find? ⟨locals.parameters ++ [symbol]⟩ name =
      (locals.find? name).or
        (if symbol.name = name then some symbol else none) := by
  unfold find?
  rw [List.find?_append]
  by_cases same : symbol.name = name <;> simp [same]

theorem collects_empty : empty.Collects [] := by
  constructor
  · intro name known found
    simp [empty, find?] at found
  · intro symbol member
    simp at member

theorem Collects.insert {locals final : Locals}
    {declarations : List Parameter} {symbol : Parameter}
    (collects : locals.Collects declarations)
    (inserted : locals.insert symbol = .ok final) :
    final.Collects (declarations ++ [symbol]) := by
  rcases insert_ok_iff.mp inserted with
    ⟨missing, rfl⟩ | ⟨known, found, same, rfl⟩
  · constructor
    · intro name known found
      rw [find?_append_singleton, Option.or_eq_some_iff] at found
      rcases found with old | ⟨_, new⟩
      · exact List.mem_append_left _ (collects.declared name known old)
      · split at new
        · cases new
          simp
        · cases new
    · intro other member
      rw [find?_append_singleton]
      rcases List.mem_append.mp member with old | new
      · obtain ⟨known, found, same⟩ := collects.found other old
        exact ⟨known, by rw [found]; rfl, same⟩
      · rw [List.mem_singleton.mp new, missing]
        exact ⟨symbol, by simp, rfl⟩
  · constructor
    · intro name other foundOther
      exact List.mem_append_left _ (collects.declared name other foundOther)
    · intro other member
      rcases List.mem_append.mp member with old | new
      · exact collects.found other old
      · rw [List.mem_singleton.mp new]
        exact ⟨known, found, same⟩

private theorem collects_foldlM :
    ∀ (declarations before : List Parameter) (locals final : Locals),
      locals.Collects before →
      declarations.foldlM Locals.insert locals = .ok final →
      final.Collects (before ++ declarations)
  | [], before, locals, final, collects, folded => by
      cases folded
      simpa using collects
  | symbol :: rest, before, locals, final, collects, folded => by
      rw [List.foldlM_cons] at folded
      cases inserted : locals.insert symbol with
      | ok next =>
          rw [inserted] at folded
          have whole :=
            collects_foldlM rest (before ++ [symbol]) next final
              (collects.insert inserted) folded
          simpa using whole
      | error fault =>
          rw [inserted] at folded
          cases folded

/-- What is collected is what was declared. -/
theorem collects_ofDeclarations {declarations : List Parameter}
    {locals : Locals} (collected : ofDeclarations declarations = .ok locals) :
    locals.Collects declarations := by
  simpa using
    collects_foldlM declarations [] empty locals collects_empty collected

theorem Collects.alike {locals : Locals} {declarations : List Parameter}
    (collects : locals.Collects declarations) :
    DeclaredAlike declarations := by
  intro first firstMember second secondMember named
  obtain ⟨known, found, same⟩ := collects.found first firstMember
  obtain ⟨other, foundOther, sameOther⟩ :=
    collects.found second secondMember
  rw [named, foundOther] at found
  cases found
  exact same.symm.trans sameOther

private theorem foldlM_of_alike :
    ∀ (declarations before : List Parameter) (locals : Locals),
      locals.Collects before →
      DeclaredAlike (before ++ declarations) →
      ∃ final, declarations.foldlM Locals.insert locals = .ok final
  | [], before, locals, collects, alike => ⟨locals, rfl⟩
  | symbol :: rest, before, locals, collects, alike => by
      have insertable : ∃ next, locals.insert symbol = .ok next := by
        cases found : locals.find? symbol.name with
        | none =>
            exact ⟨_, insert_ok_iff.mpr (Or.inl ⟨found, rfl⟩)⟩
        | some known =>
            have member := collects.declared symbol.name known found
            have same :=
              alike known (List.mem_append_left _ member) symbol (by simp)
                (find?_name found)
            exact ⟨_, insert_ok_iff.mpr (Or.inr ⟨known, found, same, rfl⟩)⟩
      obtain ⟨next, inserted⟩ := insertable
      obtain ⟨final, folded⟩ :=
        foldlM_of_alike rest (before ++ [symbol]) next
          (collects.insert inserted) (by simpa using alike)
      refine ⟨final, ?_⟩
      rw [List.foldlM_cons, inserted]
      exact folded

/-- Declarations can be collected exactly when those of one name agree. -/
theorem ofDeclarations_ok_iff {declarations : List Parameter} :
    (∃ locals, ofDeclarations declarations = .ok locals) ↔
      DeclaredAlike declarations := by
  constructor
  · rintro ⟨locals, collected⟩
    exact (collects_ofDeclarations collected).alike
  · intro alike
    exact foldlM_of_alike declarations [] empty collects_empty alike

section Lookup

variable {locals : Locals} {declarations : List Parameter}

theorem Collects.find?_eq_none_iff (collects : locals.Collects declarations)
    {name : String} :
    locals.find? name = none ↔
      ∀ known ∈ declarations, known.name ≠ name := by
  constructor
  · rintro missing known member rfl
    obtain ⟨other, found, _⟩ := collects.found known member
    rw [missing] at found
    cases found
  · intro undeclared
    cases found : locals.find? name with
    | none =>
        rfl
    | some known =>
        exact absurd (find?_name found)
          (undeclared known (collects.declared name known found))

theorem Collects.isLocal_eq_true_iff
    (collects : locals.Collects declarations) {symbol : Parameter} :
    locals.isLocal symbol = .ok true ↔
      ∃ known ∈ declarations, known.symbol = symbol.symbol := by
  unfold isLocal
  cases found : locals.find? symbol.name with
  | none =>
      have undeclared := collects.find?_eq_none_iff.mp found
      constructor
      · intro impossible
        cases impossible
      · rintro ⟨known, member, same⟩
        exact absurd (Parameter.name_of_symbol same)
          (undeclared known member)
  | some known =>
      dsimp only
      rw [map_checkSame_ok_iff]
      have member := collects.declared symbol.name known found
      constructor
      · rintro ⟨same, _⟩
        exact ⟨known, member, same⟩
      · rintro ⟨other, otherMember, same⟩
        have named :=
          (find?_name found).trans (Parameter.name_of_symbol same).symm
        exact ⟨(collects.alike known member other otherMember named).trans
          same, rfl⟩

theorem Collects.isLocal_eq_false_iff
    (collects : locals.Collects declarations) {symbol : Parameter} :
    locals.isLocal symbol = .ok false ↔
      ∀ known ∈ declarations, known.name ≠ symbol.name := by
  rw [← collects.find?_eq_none_iff]
  unfold isLocal
  cases locals.find? symbol.name with
  | none =>
      simp
  | some known =>
      dsimp only
      rw [map_checkSame_ok_iff]
      simp

/-- A use of a parameter passes exactly when it agrees with the declarations
of its name. -/
theorem Collects.isLocal_ok_iff (collects : locals.Collects declarations)
    {symbol : Parameter} :
    (∃ isLocal, locals.isLocal symbol = .ok isLocal) ↔
      ∀ known ∈ declarations, known.name = symbol.name →
        known.symbol = symbol.symbol := by
  unfold isLocal
  cases found : locals.find? symbol.name with
  | none =>
      have undeclared := collects.find?_eq_none_iff.mp found
      constructor
      · intro _ known member named
        exact absurd named (undeclared known member)
      · intro _
        exact ⟨false, rfl⟩
  | some known =>
      dsimp only
      simp only [map_checkSame_ok_iff]
      have member := collects.declared symbol.name known found
      constructor
      · rintro ⟨_, same, _⟩ other otherMember named
        have agree :=
          collects.alike other otherMember known member
            (named.trans (find?_name found).symm)
        exact agree.trans same
      · intro agree
        exact ⟨true, agree known member (find?_name found), rfl⟩

end Lookup

end Locals

end Shaderwright
