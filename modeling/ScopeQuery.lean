import ScopeQuery.Compile.Condition
import ScopeQuery.Compile.Filling
import ScopeQuery.Compile.Scope
import ScopeQuery.Condition.Basic
import ScopeQuery.Condition.ConditionText
import ScopeQuery.Condition.Noted
import ScopeQuery.Condition.Subject
import ScopeQuery.Condition.ValueText
import ScopeQuery.Document.Basic
import ScopeQuery.Document.Json
import ScopeQuery.Document.Record
import ScopeQuery.Document.Yaml
import ScopeQuery.Document.Yaml.Meaning
import ScopeQuery.Document.Yaml.Node
import ScopeQuery.Document.Yaml.Place
import ScopeQuery.Document.Yaml.Scalar
import ScopeQuery.Document.Yaml.Tag
import ScopeQuery.Document.Yaml.Token
import ScopeQuery.Entity.Basic
import ScopeQuery.Entity.Related
import ScopeQuery.Error.Compile
import ScopeQuery.Error.Matching
import ScopeQuery.Error.Query
import ScopeQuery.Matching.Relation
import ScopeQuery.Matching.Row
import ScopeQuery.Matching.Wildcard
import ScopeQuery.Number.Basic
import ScopeQuery.Number.Layout
import ScopeQuery.Number.Numeral
import ScopeQuery.Number.Shortest
import ScopeQuery.Proofs.AlikeClauses
import ScopeQuery.Proofs.AlikeRendering
import ScopeQuery.Proofs.AlikeStatements
import ScopeQuery.Proofs.ArrayRule
import ScopeQuery.Proofs.AtomicNegation
import ScopeQuery.Proofs.AvoidedErrors
import ScopeQuery.Proofs.BackendAgreement
import ScopeQuery.Proofs.BareValues
import ScopeQuery.Proofs.BlankTexts
import ScopeQuery.Proofs.BoundLimits
import ScopeQuery.Proofs.BoundScalars
import ScopeQuery.Proofs.BracketTemplates
import ScopeQuery.Proofs.BuilderRuns
import ScopeQuery.Proofs.CertainRendering
import ScopeQuery.Proofs.CharacterSets
import ScopeQuery.Proofs.ClauseItems
import ScopeQuery.Proofs.ClauseReading
import ScopeQuery.Proofs.ColumnStorage
import ScopeQuery.Proofs.ComparisonAgreement
import ScopeQuery.Proofs.CountedRows
import ScopeQuery.Proofs.CutTemplates
import ScopeQuery.Proofs.DatabaseReading
import ScopeQuery.Proofs.DecimalNumerals
import ScopeQuery.Proofs.DocumentLeaves
import ScopeQuery.Proofs.DocumentParameters
import ScopeQuery.Proofs.DocumentReading
import ScopeQuery.Proofs.DualPredicates
import ScopeQuery.Proofs.EmptyTrees
import ScopeQuery.Proofs.FilledStatements
import ScopeQuery.Proofs.FragmentTruth
import ScopeQuery.Proofs.HopPaths
import ScopeQuery.Proofs.HopPredicates
import ScopeQuery.Proofs.ImpliedDefaults
import ScopeQuery.Proofs.ImposedConditions
import ScopeQuery.Proofs.ItemParts
import ScopeQuery.Proofs.LeafPredicates
import ScopeQuery.Proofs.LetterCase
import ScopeQuery.Proofs.LosslessTemplates
import ScopeQuery.Proofs.MembershipAgreement
import ScopeQuery.Proofs.Mirrored
import ScopeQuery.Proofs.NamedClauses
import ScopeQuery.Proofs.NamedColumns
import ScopeQuery.Proofs.NegatedPaths
import ScopeQuery.Proofs.NegatedScopes
import ScopeQuery.Proofs.NestedArrays
import ScopeQuery.Proofs.NestedDialects
import ScopeQuery.Proofs.NestedExists
import ScopeQuery.Proofs.NeutralEdits
import ScopeQuery.Proofs.OperatorNames
import ScopeQuery.Proofs.OperatorTexts
import ScopeQuery.Proofs.OppositePredicates
import ScopeQuery.Proofs.ParameterSubstitution
import ScopeQuery.Proofs.PassthroughFields
import ScopeQuery.Proofs.PlaceholderNames
import ScopeQuery.Proofs.PlaceholderOrder
import ScopeQuery.Proofs.PlaceholderValues
import ScopeQuery.Proofs.PlainCompilation
import ScopeQuery.Proofs.PredicateClauses
import ScopeQuery.Proofs.PrintedConditions
import ScopeQuery.Proofs.QuotedLiterals
import ScopeQuery.Proofs.QuotedNames
import ScopeQuery.Proofs.QuotedOperators
import ScopeQuery.Proofs.ReadingStatements
import ScopeQuery.Proofs.RearrangedScopes
import ScopeQuery.Proofs.RegexMeaning
import ScopeQuery.Proofs.RegroupedPredicates
import ScopeQuery.Proofs.RelationComplement
import ScopeQuery.Proofs.RenderedPieces
import ScopeQuery.Proofs.RepeatedInserts
import ScopeQuery.Proofs.RoundedIntegers
import ScopeQuery.Proofs.SettledRendering
import ScopeQuery.Proofs.ShippedCodecs
import ScopeQuery.Proofs.SimplifiedTrees
import ScopeQuery.Proofs.StandingNodes
import ScopeQuery.Proofs.StandingValues
import ScopeQuery.Proofs.SuppliedExpressions
import ScopeQuery.Proofs.TemplateTags
import ScopeQuery.Proofs.TracedPredicates
import ScopeQuery.Proofs.WildcardLanguage
import ScopeQuery.Proofs.WildcardSpelling
import ScopeQuery.Proofs.WrittenValues
import ScopeQuery.Regex.Basic
import ScopeQuery.Regex.Class
import ScopeQuery.Regex.Escape
import ScopeQuery.Regex.Flags
import ScopeQuery.Regex.Footprint
import ScopeQuery.Regex.Pattern
import ScopeQuery.Regex.Search
import ScopeQuery.Scope.Basic
import ScopeQuery.Scope.Document
import ScopeQuery.Scope.InPlace
import ScopeQuery.Scope.Reach
import ScopeQuery.Settings
import ScopeQuery.Sql.Builder
import ScopeQuery.Sql.Building
import ScopeQuery.Sql.Clause
import ScopeQuery.Sql.Depth
import ScopeQuery.Sql.Function
import ScopeQuery.Sql.Identifier
import ScopeQuery.Sql.ModeTemplate
import ScopeQuery.Sql.Placeholder
import ScopeQuery.Sql.Predicate
import ScopeQuery.Sql.Render
import ScopeQuery.Sql.Session
import ScopeQuery.Sql.Syntax
import ScopeQuery.Storage.Codec
import ScopeQuery.Storage.Encoder
import ScopeQuery.Template.Basic
import ScopeQuery.Template.Lexeme
import ScopeQuery.Template.Tokenize
import ScopeQuery.Text.Blank
import ScopeQuery.Text.Quoted
import ScopeQuery.Unicode.Age
import ScopeQuery.Unicode.Category
import ScopeQuery.Unicode.CharSet
import ScopeQuery.Unicode.Fold
import ScopeQuery.Unicode.Property
import ScopeQuery.Unicode.Script
import ScopeQuery.Unicode.Segmentation
import ScopeQuery.Unicode.Word
import ScopeQuery.Value.Basic
import ScopeQuery.Value.Text
import ScopeQuery.Vocabulary.Dialect
import ScopeQuery.Vocabulary.Junction
import ScopeQuery.Vocabulary.Mode
import ScopeQuery.Vocabulary.Operator
