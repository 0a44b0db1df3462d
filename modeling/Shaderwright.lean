import Shaderwright.Dialect.Json
import Shaderwright.Formula.Reader
import Shaderwright.Formula.ToCode
import Shaderwright.Material.Grid
import Shaderwright.Material.Lambert
import Shaderwright.Material.Registry
import Shaderwright.Tree.ArrayLength
import Shaderwright.Proofs.Walk
import Shaderwright.Proofs.WrittenText
import Shaderwright.Proofs.Run
import Shaderwright.Proofs.CanonicalTree
import Shaderwright.Proofs.CanonicalWalk
import Shaderwright.Proofs.NaNFree
import Shaderwright.Proofs.Progress
import Shaderwright.Proofs.Relabeling
import Shaderwright.Proofs.BareTree
import Shaderwright.Proofs.Conditions
import Shaderwright.Proofs.EqualFunctions
import Shaderwright.Proofs.LoweredShader
import Shaderwright.Proofs.Acceptance
import Shaderwright.Proofs.StageParameters
import Shaderwright.Proofs.SourceText
import Shaderwright.Proofs.Symbols
import Shaderwright.Proofs.Hoisting
import Shaderwright.Proofs.Expression.Token
import Shaderwright.Proofs.Expression.Grammar
import Shaderwright.Proofs.Expression.Reader
import Shaderwright.Proofs.Expression.Written
import Shaderwright.Proofs.Expression.RoundTrip
import Shaderwright.Proofs.Correspondence
import Shaderwright.Proofs.Handles
import Shaderwright.Proofs.Registry.Construction
import Shaderwright.Proofs.Registry.Scene
import Shaderwright.Proofs.Registry.SharedFunctions
import Shaderwright.Proofs.Registry.History
import Shaderwright.Proofs.Formula.Evaluation
import Shaderwright.Proofs.Formula.TextLiterals
import Shaderwright.Proofs.Formula.FactoryCalls
import Shaderwright.Proofs.Formula.Nodewise
import Shaderwright.Proofs.Formula.ReadPaths
import Shaderwright.Proofs.Formula.Rendering
import Shaderwright.Proofs.Scoping.Readings
import Shaderwright.Proofs.Scoping.Blocks
import Shaderwright.Proofs.Scoping.Places
import Shaderwright.Proofs.Scoping.Mentions
import Shaderwright.Proofs.Scoping.LocalDeclarations
import Shaderwright.Proofs.Scoping.Parts
import Shaderwright.Proofs.DialectChoice
import Shaderwright.Proofs.Registry.ShaderStates
import Shaderwright.Proofs.Scoping.DeclarationPlaces
import Shaderwright.Proofs.Scoping.DeclaredLengths
import Shaderwright.Proofs.Typing.ArithmeticChains
import Shaderwright.Proofs.Typing.Suffixes
import Shaderwright.Proofs.Typing.ExpressionTypes
import Shaderwright.Proofs.Typing.SplitSuffixes
import Shaderwright.Proofs.Scoping.BlockDeclarations
import Shaderwright.Proofs.NameClashes
import Shaderwright.Proofs.ZeroSigns
import Shaderwright.Proofs.EqualTexts
import Shaderwright.Proofs.OneDefinition
import Shaderwright.Proofs.Formula.Acceptance
import Shaderwright.Proofs.Registry.Requests
import Shaderwright.Proofs.Registry.Updates
import Shaderwright.Proofs.Registry.Attempts
import Shaderwright.Proofs.Registry.CurrentPairs
import Shaderwright.Proofs.Registry.Rebuilding
import Shaderwright.Proofs.Faults
import Shaderwright.Proofs.Typing.Constructors
import Shaderwright.Proofs.AdmissibleParts
import Shaderwright.Proofs.FlatShader
import Shaderwright.Proofs.Lambert.LightingCache
import Shaderwright.Proofs.Lambert.Stages
import Shaderwright.Proofs.Lambert.Specialization
import Shaderwright.Proofs.Json.Strings
import Shaderwright.Proofs.Json.Objects
import Shaderwright.Proofs.Json.Dialects
import Shaderwright.Proofs.Numeral.Rounding
import Shaderwright.Proofs.Numeral.Decimals
import Shaderwright.Proofs.Numeral.FloatLiterals
import Shaderwright.Proofs.Blocks.Lines
import Shaderwright.Proofs.Blocks.PlainTexts
import Shaderwright.Proofs.Blocks.Statements
import Shaderwright.Proofs.CacheHistory
import Shaderwright.Proofs.SymbolTable.Indexed
import Shaderwright.Proofs.SymbolTable.History
import Shaderwright.Proofs.RepeatedWalks
import Shaderwright.Proofs.Appending.Pass
import Shaderwright.Proofs.Appending.Agreement
import Shaderwright.Proofs.Appending.Growth
