import Shaderwright.Dialect
import Shaderwright.Json.Quote
import Shaderwright.Json.Reader

/-!
Dialects as JSON text. A dialect is written with all of its fields, in order.
Reading accepts any of the fields in any order and takes the others from the
default dialect; a table that is given replaces the default table as a whole.
-/

namespace Shaderwright.Dialect

open Json

/-! ## Writing -/

/-- The members of an object, one a line at the given depth. -/
def objectText (depth : Nat) (members : List (String × String)) : String :=
  let margin := String.ofList (List.replicate (2 * depth) ' ')
  let line := fun (member : String × String) =>
    margin ++ "  " ++ quote member.1 ++ ": " ++ member.2
  if members.isEmpty then
    "\x7b\x7d"
  else
    "\x7b\n" ++ ",\n".intercalate (members.map line) ++ "\n" ++ margin ++
      "\x7d"

/-- A keyword table as an object inside a dialect. -/
def tableText {α : Type} (name : α → String) (all : List α)
    (table : KeywordTable α) : String :=
  objectText 1 <|
    (table.entries all).map fun entry => (name entry.1, quote entry.2)

/-- The fields of a dialect with their written values, in order. -/
def memberTexts (dialect : Dialect) : List (String × String) :=
  [ ("name", quote dialect.name),
    ("types", tableText ShaderType.name ShaderType.all dialect.types),
    ("qualifiers",
      tableText Qualifier.name Qualifier.all dialect.qualifiers),
    ("precisions",
      tableText Precision.name Precision.all dialect.precisions),
    ("position_output", quote dialect.positionOutput),
    ("color_output", quote dialect.colorOutput),
    ("point_size", quote dialect.pointSize),
    ("frag_coord", quote dialect.fragCoord),
    ("point_coord", quote dialect.pointCoord),
    ("front_facing", quote dialect.frontFacing),
    ("texture_sample", quote dialect.textureSample),
    ("entry_point", quote dialect.entryPoint) ]

def toJson (dialect : Dialect) : String :=
  objectText 0 dialect.memberTexts

/-! ## Reading -/

/-- Reads one entry of a keyword table; a keyword given again replaces the
earlier one. -/
def readEntry {α : Type} [DecidableEq α] (member? : String → Option α)
    (table : KeywordTable α) (key : String) : Reader (KeywordTable α) :=
  fun text =>
    match member? key with
    | none => .error .shape
    | some member => do
        let ((), text) ← readMark ':' text
        let (word, rest) ← readString text
        return (table.set member word, rest)

/-- Reads a keyword table, which starts out empty. -/
def readTable {α : Type} [DecidableEq α] (member? : String → Option α) :
    Reader (KeywordTable α) :=
  readObject (readEntry member?) KeywordTable.empty

/-- A field that is read with `reader` and stored with `store`. -/
def field {α : Type} (name : String) (reader : Reader α)
    (store : Dialect → α → Dialect) : RecordField Dialect where
  name := name
  read := fun dialect text => do
    let (value, rest) ← reader text
    return (store dialect value, rest)

/-- The fields of a dialect, in the order in which they are written. -/
def fields : List (RecordField Dialect) :=
  [ field "name" readString fun d value => { d with name := value },
    field "types" (readTable (named? ShaderType.name ShaderType.all))
      fun d value => { d with types := value },
    field "qualifiers" (readTable (named? Qualifier.name Qualifier.all))
      fun d value => { d with qualifiers := value },
    field "precisions" (readTable (named? Precision.name Precision.all))
      fun d value => { d with precisions := value },
    field "position_output" readString
      fun d value => { d with positionOutput := value },
    field "color_output" readString
      fun d value => { d with colorOutput := value },
    field "point_size" readString
      fun d value => { d with pointSize := value },
    field "frag_coord" readString
      fun d value => { d with fragCoord := value },
    field "point_coord" readString
      fun d value => { d with pointCoord := value },
    field "front_facing" readString
      fun d value => { d with frontFacing := value },
    field "texture_sample" readString
      fun d value => { d with textureSample := value },
    field "entry_point" readString
      fun d value => { d with entryPoint := value } ]

def ofJson (text : String) : Except Fault Dialect :=
  readAll (readRecord fields glslEs100) text

end Shaderwright.Dialect
