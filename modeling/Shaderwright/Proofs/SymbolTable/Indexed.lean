import Shaderwright.Proofs.Symbols

/-!
A symbol table with an index. The symbols stand in a list in the order in which
they were met, and the index holds the place of each name; the two are in step
by construction. Looking a name up through the index finds what searching the
list finds (`find?_table`), and insertions agree (`insert_table`).
-/

namespace Shaderwright

/-- Where a name has one symbol, this is the one that a search finds. -/
theorem SymbolTable.find?_eq_some_iff {table : SymbolTable}
    (unique : ∀ ⦃first⦄, first ∈ table.symbols →
      ∀ ⦃second⦄, second ∈ table.symbols →
        first.name = second.name → first = second)
    {name : String} {symbol : Symbol} :
    table.find? name = some symbol ↔
      symbol ∈ table.symbols ∧ symbol.name = name := by
  refine ⟨find?_some, fun ⟨member, named⟩ => ?_⟩
  cases searched : table.find? name with
  | none =>
      exact absurd named (find?_eq_none_iff.mp searched symbol member)
  | some other =>
      obtain ⟨memberOther, namedOther⟩ := find?_some searched
      exact congrArg some <|
        unique memberOther member (namedOther.trans named.symm)

/-- Symbols in the order in which they were met, and the place of each name.
A name has a place exactly where a symbol of that name stands. -/
structure IndexedTable where
  symbols : List Symbol
  places : List (String × Nat)
  inStep : ∀ (name : String) (place : Nat),
    places.lookup name = some place ↔
      ∃ symbol, symbols[place]? = some symbol ∧ symbol.name = name

namespace IndexedTable

/-! ## Lookups -/

theorem place_lt (table : IndexedTable) {name : String} {place : Nat}
    (found : table.places.lookup name = some place) :
    place < table.symbols.length := by
  obtain ⟨symbol, stands, _⟩ := (table.inStep name place).mp found
  exact (List.getElem?_eq_some_iff.mp stands).1

/-- The symbol at the place of a name. -/
def symbolAt (table : IndexedTable) {name : String} {place : Nat}
    (found : table.places.lookup name = some place) : Symbol :=
  table.symbols.get ⟨place, table.place_lt found⟩

/-- Looks a name up through the index. -/
def find? (table : IndexedTable) (name : String) : Option Symbol :=
  match found : table.places.lookup name with
  | some _ => some (table.symbolAt found)
  | none => none

def contains (table : IndexedTable) (name : String) : Bool :=
  (table.places.lookup name).isSome

def size (table : IndexedTable) : Nat :=
  table.symbols.length

def isEmpty (table : IndexedTable) : Bool :=
  table.symbols.isEmpty

/-- The symbols without the index. -/
def table (indexed : IndexedTable) : SymbolTable :=
  ⟨indexed.symbols⟩

section Lookups

variable (indexed : IndexedTable) {name : String}

theorem find?_of_lookup {place : Nat}
    (found : indexed.places.lookup name = some place) :
    indexed.find? name = some (indexed.symbolAt found) := by
  unfold find?
  split
  · next other foundOther =>
      have same : other = place :=
        Option.some.inj (foundOther.symm.trans found)
      subst same
      rfl
  · next missing =>
      exact absurd (missing.symm.trans found) (by simp)

/-- A symbol has the name at whose place it stands. -/
theorem symbolAt_mem {place : Nat}
    (found : indexed.places.lookup name = some place) :
    indexed.symbolAt found ∈ indexed.symbols ∧
      (indexed.symbolAt found).name = name := by
  obtain ⟨symbol, stands, named⟩ := (indexed.inStep name place).mp found
  obtain ⟨bounded, same⟩ := List.getElem?_eq_some_iff.mp stands
  refine ⟨List.get_mem .., ?_⟩
  rw [symbolAt, List.get_eq_getElem, same, named]

theorem find?_of_missing (missing : indexed.places.lookup name = none) :
    indexed.find? name = none := by
  unfold find?
  split
  · next place found =>
      exact absurd (missing.symm.trans found) (by simp)
  · rfl

theorem lookup_eq_none_iff :
    indexed.places.lookup name = none ↔
      ∀ symbol ∈ indexed.symbols, symbol.name ≠ name := by
  constructor
  · intro missing symbol member named
    obtain ⟨place, stands⟩ := List.mem_iff_getElem?.mp member
    have found := (indexed.inStep name place).mpr ⟨symbol, stands, named⟩
    rw [missing] at found
    cases found
  · intro absent
    by_contra present
    obtain ⟨place, found⟩ := Option.ne_none_iff_exists'.mp present
    obtain ⟨symbol, stands, named⟩ := (indexed.inStep name place).mp found
    exact absent symbol (List.mem_of_getElem? stands) named

/-- A symbol is the only one of its name. -/
theorem eq_of_name_eq ⦃first : Symbol⦄ (member : first ∈ indexed.symbols)
    ⦃second : Symbol⦄ (memberSecond : second ∈ indexed.symbols)
    (named : first.name = second.name) : first = second := by
  obtain ⟨place, stands⟩ := List.mem_iff_getElem?.mp member
  obtain ⟨other, standsOther⟩ := List.mem_iff_getElem?.mp memberSecond
  have found := (indexed.inStep _ place).mpr ⟨first, stands, named⟩
  have foundOther :=
    (indexed.inStep _ other).mpr ⟨second, standsOther, rfl⟩
  rw [found] at foundOther
  rw [Option.some.inj foundOther, standsOther] at stands
  exact (Option.some.inj stands).symm

/-- What stands at the place of a name is what a search finds. -/
theorem find?_table : indexed.table.find? name = indexed.find? name := by
  cases found : indexed.places.lookup name with
  | none =>
      rw [indexed.find?_of_missing found]
      exact SymbolTable.find?_eq_none_iff.mpr <|
        indexed.lookup_eq_none_iff.mp found
  | some place =>
      rw [indexed.find?_of_lookup found]
      exact (SymbolTable.find?_eq_some_iff indexed.eq_of_name_eq).mpr
        (indexed.symbolAt_mem found)

theorem contains_table :
    indexed.table.contains name = indexed.contains name := by
  rw [SymbolTable.contains, find?_table, contains]
  cases found : indexed.places.lookup name with
  | none =>
      rw [indexed.find?_of_missing found]
      rfl
  | some place =>
      rw [indexed.find?_of_lookup found]
      rfl

theorem size_table : indexed.table.size = indexed.size := rfl

theorem isEmpty_table : indexed.table.isEmpty = indexed.isEmpty := rfl

end Lookups

/-! ## Insertions -/

def empty : IndexedTable where
  symbols := []
  places := []
  inStep := by simp

/-- Appends a symbol of a new name, which gets the next place. -/
def append (table : IndexedTable) (symbol : Symbol)
    (isNew : table.places.lookup symbol.name = none) : IndexedTable where
  symbols := table.symbols ++ [symbol]
  places := table.places ++ [(symbol.name, table.symbols.length)]
  inStep := by
    intro name place
    rw [List.lookup_append, List.lookup_cons]
    by_cases same : name = symbol.name
    · subst same
      rw [isNew]
      simp only [beq_self_eq_true, Option.none_or, Option.some.injEq]
      constructor
      · rintro rfl
        exact ⟨symbol, by simp, rfl⟩
      · rintro ⟨other, stands, named⟩
        have noPlace := table.lookup_eq_none_iff.mp isNew
        rw [List.getElem?_append] at stands
        split at stands
        · exact absurd named (noPlace other (List.mem_of_getElem? stands))
        · have last := (List.getElem?_eq_some_iff.mp stands).1
          rw [List.length_singleton] at last
          omega
    · rw [beq_eq_false_iff_ne.mpr same]
      simp only [List.lookup_nil, Option.or_none, table.inStep]
      refine exists_congr fun other => and_congr_left fun named => ?_
      rw [List.getElem?_append]
      split
      · rfl
      · next beyond =>
          rw [List.getElem?_eq_none (Nat.le_of_not_lt beyond)]
          refine iff_of_false (by simp) fun stands => same ?_
          have member := List.mem_of_getElem? stands
          rw [List.mem_singleton.mp member] at named
          exact named.symm

/-- Records the declaration of a parameter. A name that has a place has to be
declared as the symbol at this place. -/
def insert (table : IndexedTable) (parameter : Parameter) :
    Except LoweringError (Bool × IndexedTable) :=
  let symbol := parameter.symbol
  match found : table.places.lookup symbol.name with
  | some _ =>
      let known := table.symbolAt found
      if known.shape = symbol.shape then
        .ok (false, table)
      else
        .error (.inconsistentSymbol symbol.name known.shape symbol.shape)
  | none => .ok (true, table.append symbol found)

section Insertions

variable (indexed : IndexedTable) {parameter : Parameter}

theorem insert_of_lookup {place : Nat}
    (found : indexed.places.lookup parameter.name = some place) :
    indexed.insert parameter =
      if (indexed.symbolAt found).shape = parameter.symbol.shape then
        .ok (false, indexed)
      else
        .error <| .inconsistentSymbol parameter.name
          (indexed.symbolAt found).shape parameter.symbol.shape := by
  unfold insert
  dsimp only
  split
  · next other foundOther =>
      have same : other = place :=
        Option.some.inj (foundOther.symm.trans found)
      subst same
      rfl
  · next missing =>
      exact absurd (missing.symm.trans found) (by simp)

theorem insert_of_missing
    (missing : indexed.places.lookup parameter.name = none) :
    indexed.insert parameter =
      .ok (true, indexed.append parameter.symbol missing) := by
  unfold insert
  dsimp only
  split
  · next place found =>
      exact absurd (missing.symm.trans found) (by simp)
  · rfl

/-- An insertion does what it does without the index. -/
theorem insert_table :
    indexed.table.insert parameter =
      (indexed.insert parameter).map fun (isNew, later) =>
        (isNew, later.table) := by
  have named : parameter.symbol.name = parameter.name := rfl
  unfold SymbolTable.insert
  dsimp only
  rw [find?_table, named]
  cases found : indexed.places.lookup parameter.name with
  | none =>
      rw [indexed.find?_of_missing found, indexed.insert_of_missing found]
      rfl
  | some place =>
      rw [indexed.find?_of_lookup found, indexed.insert_of_lookup found]
      dsimp only
      split <;> rfl

end Insertions

end IndexedTable

end Shaderwright
