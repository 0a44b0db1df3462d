import Mathlib.Data.List.Dedup
import Mathlib.Data.List.Induction
import Mathlib.Data.List.Nodup
import Shaderwright.Proofs.SymbolTable.Indexed

/-!
The history of a symbol table. Parameters are inserted by their handles, and
their array lengths change in between. The table keeps of each name the
declaration that was inserted first, and judges every later insertion by it
(`insertions_keep_first_declarations`).
-/

namespace Shaderwright

/-! ## Parameters by handle -/

/-- The parameters of a program by their handles, as they are declared now. -/
structure Declarations where
  of : Nat → Parameter
  handle_of : ∀ handle, (of handle).handle = handle

/-- What can be done to a symbol table and to the parameters in it. -/
inductive TableAction where
  | insert (handle : Nat)
  | resize (handle length : Nat)

/-- The array length that an action gives to a handle. -/
def TableAction.length? (handle : Nat) : TableAction → Option Nat
  | .insert _ => none
  | .resize other length => if other = handle then some length else none

namespace Declarations

/-- Changes the array length of a handle. -/
def resize (declared : Declarations) (handle length : Nat) :
    Declarations where
  of := fun other => (declared.of other).withArrayLength handle length
  handle_of := by
    intro other
    have own := declared.handle_of other
    unfold Parameter.withArrayLength
    split <;> exact own

def perform (declared : Declarations) : TableAction → Declarations
  | .insert _ => declared
  | .resize handle length => declared.resize handle length

/-- The parameters after a history. -/
def after (declared : Declarations) (history : List TableAction) :
    Declarations :=
  history.foldl perform declared

/-- The array length of a handle after a history: the one that was set
last. -/
def lengthAfter (declared : Declarations) (handle : Nat)
    (history : List TableAction) : Nat :=
  ((history.filterMap (TableAction.length? handle)).getLast?).getD
    (declared.of handle).arrayLength

/-- The symbols that a history inserts, as they are declared when it does. -/
def offered (declared : Declarations) : List TableAction → List Symbol
  | [] => []
  | .insert handle :: rest =>
      (declared.of handle).symbol :: declared.offered rest
  | .resize handle length :: rest =>
      (declared.resize handle length).offered rest

section Histories

variable (declared : Declarations) (history : List TableAction)

theorem after_concat (action : TableAction) :
    declared.after (history ++ [action]) =
      (declared.after history).perform action := by
  simp [after]

theorem offered_append (later : List TableAction) :
    declared.offered (history ++ later) =
      declared.offered history ++ (declared.after history).offered later := by
  induction history generalizing declared with
  | nil =>
      rfl
  | cons action rest inductionHypothesis =>
      cases action with
      | insert handle =>
          exact congrArg (List.cons _) (inductionHypothesis declared)
      | resize handle length =>
          exact inductionHypothesis (declared.resize handle length)

theorem lengthAfter_concat (handle : Nat) (action : TableAction) :
    declared.lengthAfter handle (history ++ [action]) =
      (action.length? handle).getD (declared.lengthAfter handle history) := by
  cases found : action.length? handle <;> simp [lengthAfter, found]

/-- Of a declaration only the array length changes. -/
theorem of_after (handle : Nat) :
    (declared.after history).of handle =
      { declared.of handle with
        arrayLength := declared.lengthAfter handle history } := by
  induction history using List.reverseRecOn with
  | nil =>
      rfl
  | append_singleton earlier action inductionHypothesis =>
      rw [after_concat, lengthAfter_concat]
      cases action with
      | insert other =>
          exact inductionHypothesis
      | resize other length =>
          have own := (declared.after earlier).handle_of handle
          simp only [perform, resize, Parameter.withArrayLength,
            TableAction.length?]
          by_cases same : handle = other
          · rw [if_pos (own.trans same), if_pos same.symm,
              inductionHypothesis]
            rfl
          · rw [if_neg fun changed => same (own.symm.trans changed),
              if_neg (Ne.symm same), inductionHypothesis]
            rfl

end Histories

end Declarations

/-! ## Tables -/

/-- The table after an insertion, which leaves it as it was if it fails. -/
def SymbolTable.offer (table : SymbolTable) (parameter : Parameter) :
    SymbolTable :=
  match table.insert parameter with
  | .ok (_, later) => later
  | .error _ => table

def IndexedTable.offer (table : IndexedTable) (parameter : Parameter) :
    IndexedTable :=
  match table.insert parameter with
  | .ok (_, later) => later
  | .error _ => table

theorem IndexedTable.table_offer (indexed : IndexedTable)
    (parameter : Parameter) :
    (indexed.offer parameter).table = indexed.table.offer parameter := by
  unfold offer SymbolTable.offer
  rw [insert_table]
  cases indexed.insert parameter <;> rfl

/-- A table, with and without an index, and the parameters in it. -/
structure TableSession where
  declared : Declarations
  table : SymbolTable
  indexed : IndexedTable

namespace TableSession

def start (declared : Declarations) : TableSession :=
  ⟨declared, .empty, .empty⟩

def perform (session : TableSession) : TableAction → TableSession
  | .insert handle =>
      { session with
        table := session.table.offer (session.declared.of handle)
        indexed := session.indexed.offer (session.declared.of handle) }
  | .resize handle length =>
      { session with declared := session.declared.resize handle length }

def after (session : TableSession) (history : List TableAction) :
    TableSession :=
  history.foldl perform session

theorem after_concat (session : TableSession) (history : List TableAction)
    (action : TableAction) :
    session.after (history ++ [action]) =
      (session.after history).perform action := by
  simp [after]

end TableSession

/-! ## Insertions -/

namespace SymbolTable

variable {table : SymbolTable} {parameter : Parameter}

/-- A name is new where no symbol has it. -/
theorem insert_new_iff :
    (∃ later, table.insert parameter = .ok (true, later)) ↔
      ∀ symbol ∈ table.symbols, symbol.name ≠ parameter.name := by
  rw [← find?_eq_none_iff]
  simp [insert_ok_iff]

theorem symbols_offer :
    (table.offer parameter).symbols =
      if ∀ symbol ∈ table.symbols, symbol.name ≠ parameter.name then
        table.symbols ++ [parameter.symbol]
      else
        table.symbols := by
  unfold offer
  split
  · next isNew later inserted =>
      rcases insert_ok_iff.mp inserted with
        ⟨_, missing, rfl⟩ | ⟨_, rfl, known, found, _⟩
      · rw [if_pos (find?_eq_none_iff.mp missing)]
      · refine (if_neg fun absent => ?_).symm
        rw [find?_eq_none_iff.mpr absent] at found
        cases found
  · next fault failed =>
      refine (if_neg fun absent => ?_).symm
      obtain ⟨later, inserted⟩ := insert_new_iff.mpr absent
      rw [failed] at inserted
      cases inserted

/-- A table with one symbol for each name accepts what it has and refuses
every other declaration of a name that it has. -/
theorem insert_of_mem
    (distinct : (table.symbols.map Symbol.name).Nodup) {known : Symbol}
    (member : known ∈ table.symbols) (named : known.name = parameter.name) :
    table.insert parameter =
      if known = parameter.symbol then
        .ok (false, table)
      else
        .error <| .inconsistentSymbol parameter.name known.shape
          parameter.symbol.shape := by
  have found :=
    (find?_eq_some_iff (List.inj_on_of_nodup_map distinct)).mpr
      ⟨member, named⟩
  have sameName : parameter.symbol.name = parameter.name := rfl
  have alike : known.shape = parameter.symbol.shape ↔
      known = parameter.symbol :=
    ⟨Symbol.eq_of_shape_eq named, congrArg Symbol.shape⟩
  unfold insert
  simp only [sameName, found, alike]

end SymbolTable

theorem firstOccurrences_concat (symbols : List Symbol) (symbol : Symbol) :
    firstOccurrences (symbols ++ [symbol]) =
      if ∀ known ∈ firstOccurrences symbols, known.name ≠ symbol.name then
        firstOccurrences symbols ++ [symbol]
      else
        firstOccurrences symbols := by
  have single : firstOccurrences [symbol] = [symbol] :=
    firstOccurrences_of_nodup (List.nodup_singleton _)
  have isNew :
      (∀ known ∈ firstOccurrences symbols, known.name ≠ symbol.name) ↔
        symbol.name ∉ symbols.map Symbol.name := by
    rw [← name_mem_firstOccurrences_iff]
    simp
  rw [firstOccurrences_append, single]
  by_cases known : symbol.name ∈ symbols.map Symbol.name
  · rw [if_neg (isNew.not_left.mpr known), List.filter_singleton]
    simp [known]
  · rw [if_pos (isNew.mpr known), List.filter_singleton]
    simp [known]

/-! ## Sessions -/

/-- A session in which a history has led to the parameters and to the table,
and in which the index says the same as the table. -/
structure TableSession.Follows (session : TableSession)
    (declared : Declarations) (history : List TableAction) : Prop where
  now : session.declared = declared.after history
  symbols : session.table.symbols =
    firstOccurrences (declared.offered history)
  indexed : session.indexed.table = session.table

namespace TableSession.Follows

variable {session : TableSession} {declared : Declarations}
  {history : List TableAction}

theorem perform (follows : session.Follows declared history)
    (action : TableAction) :
    (session.perform action).Follows declared (history ++ [action]) := by
  cases action with
  | insert handle =>
      refine ⟨?_, ?_, ?_⟩
      · rw [Declarations.after_concat]
        exact follows.now
      · rw [Declarations.offered_append, ← follows.now]
        refine Eq.trans ?_ (firstOccurrences_concat ..).symm
        rw [← follows.symbols]
        exact SymbolTable.symbols_offer
      · refine (IndexedTable.table_offer ..).trans ?_
        rw [follows.indexed]
        rfl
  | resize handle length =>
      refine ⟨?_, ?_, follows.indexed⟩
      · rw [Declarations.after_concat, ← follows.now]
        rfl
      · rw [Declarations.offered_append]
        exact follows.symbols.trans
          (congrArg firstOccurrences (List.append_nil _).symm)

theorem after (declared : Declarations) (history : List TableAction) :
    ((start declared).after history).Follows declared history := by
  induction history using List.reverseRecOn with
  | nil =>
      exact ⟨rfl, rfl, rfl⟩
  | append_singleton earlier action inductionHypothesis =>
      rw [after_concat]
      exact inductionHypothesis.perform action

end TableSession.Follows

/-- There are as many first occurrences as there are names. -/
theorem length_firstOccurrences (symbols : List Symbol) :
    (firstOccurrences symbols).length =
      (symbols.map Symbol.name).dedup.length := by
  have sameNames : List.Perm ((firstOccurrences symbols).map Symbol.name)
      (symbols.map Symbol.name).dedup := by
    rw [List.perm_ext_iff_of_nodup (nodup_firstOccurrences symbols)
      (List.nodup_dedup _)]
    intro name
    rw [name_mem_firstOccurrences_iff, List.mem_dedup]
  rw [← sameNames.length_eq, List.length_map]

theorem firstOccurrences_eq_nil_iff {symbols : List Symbol} :
    firstOccurrences symbols = [] ↔ symbols = [] := by
  rw [← List.length_eq_zero_iff, length_firstOccurrences,
    List.length_eq_zero_iff, List.dedup_eq_nil, List.map_eq_nil_iff]

/-- After any history the table lists, in order and once for each name, the
declarations as they were when their names were inserted first; of a handle
nothing but the array length changes. Its size is the number of names that were
inserted. A parameter that is inserted next is new exactly if nothing of its
name was inserted before. If something was, the table is left as it is, and
what it lists under the name decides: the same declaration is accepted, any
other one is refused with both shapes. The table with an index holds the same
list, finds in it what is listed, and answers insertions alike. -/
theorem insertions_keep_first_declarations (declared : Declarations)
    (history : List TableAction) :
    let session := (TableSession.start declared).after history
    let table := session.table
    let indexed := session.indexed
    (table.symbols = firstOccurrences (declared.offered history) ∧
        (table.symbols.map Symbol.name).Nodup) ∧
      (table.size =
          ((declared.offered history).map Symbol.name).dedup.length ∧
        (table.isEmpty = true ↔ declared.offered history = [])) ∧
      (∀ handle, session.declared.of handle =
        { declared.of handle with
          arrayLength := declared.lengthAfter handle history }) ∧
      (∀ handle,
        let offered := session.declared.of handle
        ((∃ later, table.insert offered = .ok (true, later)) ↔
            ∀ earlier ∈ declared.offered history,
              earlier.name ≠ offered.name) ∧
          (∀ known ∈ table.symbols, known.name = offered.name →
            table.offer offered = table ∧
              table.insert offered =
                if known = offered.symbol then
                  .ok (false, table)
                else
                  .error <| .inconsistentSymbol offered.name known.shape
                    offered.symbol.shape)) ∧
      (indexed.symbols = table.symbols ∧
        (indexed.size = table.size ∧ indexed.isEmpty = table.isEmpty) ∧
        (∀ name, indexed.find? name = table.find? name ∧
          indexed.contains name = table.contains name) ∧
        (∀ name symbol, indexed.find? name = some symbol ↔
          symbol ∈ table.symbols ∧ symbol.name = name) ∧
        (∀ name, indexed.contains name = true ↔
          name ∈ table.symbols.map Symbol.name) ∧
        ∀ parameter, table.insert parameter =
          (indexed.insert parameter).map fun (isNew, later) =>
            (isNew, later.table)) := by
  intro session table indexed
  have follows : session.Follows declared history := .after declared history
  have listed : table.symbols = firstOccurrences (declared.offered history) :=
    follows.symbols
  have distinct : (table.symbols.map Symbol.name).Nodup :=
    listed ▸ nodup_firstOccurrences _
  have sameTable : indexed.table = table := follows.indexed
  have finds (name : String) (symbol : Symbol) :
      indexed.find? name = some symbol ↔
        symbol ∈ table.symbols ∧ symbol.name = name := by
    rw [← indexed.find?_table, sameTable]
    exact SymbolTable.find?_eq_some_iff (List.inj_on_of_nodup_map distinct)
  refine ⟨⟨listed, distinct⟩, ⟨?_, ?_⟩, fun handle => ?_, fun handle =>
    ⟨?_, fun known member named => ?_⟩,
    congrArg SymbolTable.symbols sameTable, ⟨?_, ?_⟩, fun name => ⟨?_, ?_⟩,
    finds, fun name => ?_, fun parameter => ?_⟩
  · rw [SymbolTable.size, listed, length_firstOccurrences]
  · rw [SymbolTable.isEmpty, listed, List.isEmpty_iff,
      firstOccurrences_eq_nil_iff]
  · rw [follows.now]
    exact declared.of_after history handle
  · have sameNames :
        (session.declared.of handle).name ∈
            (firstOccurrences (declared.offered history)).map Symbol.name ↔
          (session.declared.of handle).name ∈
            (declared.offered history).map Symbol.name :=
      name_mem_firstOccurrences_iff
    rw [SymbolTable.insert_new_iff, listed]
    simpa using not_congr sameNames
  · have answer := SymbolTable.insert_of_mem distinct member named
    refine ⟨?_, answer⟩
    unfold SymbolTable.offer
    rw [answer]
    split_ifs <;> rfl
  · rw [← indexed.size_table, sameTable]
  · rw [← indexed.isEmpty_table, sameTable]
  · rw [← indexed.find?_table, sameTable]
  · rw [← indexed.contains_table, sameTable]
  · rw [← indexed.contains_table, SymbolTable.contains, indexed.find?_table,
      Option.isSome_iff_exists, List.mem_map]
    exact exists_congr fun symbol => finds name symbol
  · rw [← indexed.insert_table, sameTable]

/-- Every handle is an array of two lights. -/
def lightsDeclarations : Declarations where
  of := fun handle => ⟨handle, "lights", .vector3, .constant, 2⟩
  handle_of := fun _ => rfl

/-- The array grows after it has been inserted. -/
def lightsHistory : List TableAction :=
  [.insert 0, .resize 0 3]

theorem lightsHistory_keeps :
    let session := (TableSession.start lightsDeclarations).after lightsHistory
    let lights : Symbol := ⟨"lights", .constant, .vector3, 2⟩
    session.table.symbols = [lights] ∧
      session.table.size = 1 ∧
      (session.declared.of 0).arrayLength = 3 ∧
      session.table.insert (session.declared.of 0) =
        .error (.inconsistentSymbol "lights" lights.shape
          ⟨.constant, .vector3, 3⟩) ∧
      session.table.insert (session.declared.of 1) =
        .ok (false, session.table) ∧
      session.indexed.find? "lights" = some lights := by
  intro session lights
  obtain ⟨⟨listed, _⟩, ⟨size, _⟩, lengths, answers, _, _, _, finds, _⟩ :=
    insertions_keep_first_declarations lightsDeclarations lightsHistory
  have only : session.table.symbols = [lights] := listed.trans (by decide)
  have member : lights ∈ session.table.symbols := by simp [only]
  refine ⟨only, size.trans (by decide),
    congrArg Parameter.arrayLength (lengths 0), ?_, ?_,
    (finds "lights" lights).mpr ⟨member, rfl⟩⟩
  · exact ((answers 0).2 lights member rfl).2.trans (by decide)
  · exact ((answers 1).2 lights member rfl).2.trans (if_pos (by decide))

end Shaderwright
