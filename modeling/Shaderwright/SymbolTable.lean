import Shaderwright.LoweringError

/-!
Symbols in the order in which they were met, one for each name. A name keeps
the declaration it had when it was met first.
-/

namespace Shaderwright

/-- The symbols met so far, the first one first. -/
structure SymbolTable where
  symbols : List Symbol
deriving DecidableEq, Repr

namespace SymbolTable

def empty : SymbolTable := ⟨[]⟩

def find? (table : SymbolTable) (name : String) : Option Symbol :=
  table.symbols.find? fun symbol => symbol.name == name

def contains (table : SymbolTable) (name : String) : Bool :=
  (table.find? name).isSome

def size (table : SymbolTable) : Nat :=
  table.symbols.length

def isEmpty (table : SymbolTable) : Bool :=
  table.symbols.isEmpty

/-- Records the declaration of a parameter and tells whether its name is new.
A name that is known has to be declared as it was when it was met first. -/
def insert (table : SymbolTable) (parameter : Parameter) :
    Except LoweringError (Bool × SymbolTable) :=
  let symbol := parameter.symbol
  match table.find? symbol.name with
  | none => .ok (true, ⟨table.symbols ++ [symbol]⟩)
  | some known =>
      if known.shape = symbol.shape then
        .ok (false, table)
      else
        .error (.inconsistentSymbol symbol.name known.shape symbol.shape)

end SymbolTable

end Shaderwright
