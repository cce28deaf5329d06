import BeanGen.Bean.Basic
import BeanGen.Bean.Linking
import BeanGen.Bean.OfSource
import BeanGen.Bean.Registry
import BeanGen.CommandLine.Arguments
import BeanGen.CommandLine.Command
import BeanGen.CommandLine.Misuse
import BeanGen.CommandLine.Session
import BeanGen.Config.Basic
import BeanGen.Config.Table
import BeanGen.Config.Validation
import BeanGen.Config.Value
import BeanGen.Count
import BeanGen.Java.Name
import BeanGen.Java.StringLiteral
import BeanGen.Java.TypeExpr
import BeanGen.Java.Unit
import BeanGen.Json
import BeanGen.Main
import BeanGen.Place.DirMatch
import BeanGen.Place.FileTree
import BeanGen.Place.IgnoreRules
import BeanGen.Place.Path
import BeanGen.Place.Roots
import BeanGen.Proofs.Bean.Catalogue
import BeanGen.Proofs.Bean.Creation
import BeanGen.Proofs.Bean.Links
import BeanGen.Proofs.Bean.Order
import BeanGen.Proofs.Bean.Ownership
import BeanGen.Proofs.Bean.Registry
import BeanGen.Proofs.Bean.Separation
import BeanGen.Proofs.Java.Header
import BeanGen.Proofs.Java.Heritage
import BeanGen.Proofs.Java.Identifier
import BeanGen.Proofs.Java.Name
import BeanGen.Proofs.Java.StringLiteral
import BeanGen.Proofs.Java.Unit
import BeanGen.Proofs.Place.Common
import BeanGen.Proofs.Place.DirMatch
import BeanGen.Proofs.Place.FileTree
import BeanGen.Proofs.Place.Path
import BeanGen.Proofs.Place.Relocation
import BeanGen.Proofs.Place.Roots
import BeanGen.Proofs.Place.Segments
import BeanGen.Proofs.Place.TwoViews
import BeanGen.Proofs.Refine.Ancestry
import BeanGen.Proofs.Refine.BaseCount
import BeanGen.Proofs.Refine.Bases
import BeanGen.Proofs.Refine.Closure
import BeanGen.Proofs.Refine.EnumInterfaces
import BeanGen.Proofs.Refine.FieldTypes
import BeanGen.Proofs.Refine.FinalBases
import BeanGen.Proofs.Refine.FinalTypes
import BeanGen.Proofs.Refine.Frame
import BeanGen.Proofs.Refine.Links
import BeanGen.Proofs.Refine.Lookup
import BeanGen.Proofs.Refine.Mentions
import BeanGen.Proofs.Refine.Packages
import BeanGen.Proofs.Refine.PerBean
import BeanGen.Proofs.Refine.Precedence
import BeanGen.Proofs.Refine.Redeclared
import BeanGen.Proofs.Refine.RuleDirectories
import BeanGen.Proofs.Refine.TypeNames
import BeanGen.Proofs.Render.Bases
import BeanGen.Proofs.Render.Congruence
import BeanGen.Proofs.Render.DeclaredNames
import BeanGen.Proofs.Render.DistinctMembers
import BeanGen.Proofs.Render.EnumBounds
import BeanGen.Proofs.Render.EnumIntegers
import BeanGen.Proofs.Render.EnumNumbering
import BeanGen.Proofs.Render.Files
import BeanGen.Proofs.Render.Header
import BeanGen.Proofs.Render.Heritage
import BeanGen.Proofs.Render.Hints
import BeanGen.Proofs.Render.Kept
import BeanGen.Proofs.Render.Nesting
import BeanGen.Proofs.Render.Qualify
import BeanGen.Proofs.Render.Reference
import BeanGen.Proofs.Render.Relabeling
import BeanGen.Proofs.Render.Shown
import BeanGen.Proofs.Run.Discovery
import BeanGen.Proofs.Run.Document
import BeanGen.Proofs.Run.Failures
import BeanGen.Proofs.Run.Interference
import BeanGen.Proofs.Run.Links
import BeanGen.Proofs.Run.Relocation
import BeanGen.Proofs.Run.SourceOrder
import BeanGen.Proofs.Script.BrokenInterface
import BeanGen.Proofs.Script.BrokenMember
import BeanGen.Proofs.Script.Comments
import BeanGen.Proofs.Script.Declarations
import BeanGen.Proofs.Script.Enums
import BeanGen.Proofs.Script.Gaps
import BeanGen.Proofs.Script.Hint
import BeanGen.Proofs.Script.MemberLines
import BeanGen.Proofs.Script.Members
import BeanGen.Proofs.Script.Openings
import BeanGen.Proofs.Script.Printed
import BeanGen.Proofs.Script.Roundtrip
import BeanGen.Proofs.Script.Spaced
import BeanGen.Proofs.Script.StatementTexts
import BeanGen.Proofs.Script.Tokens
import BeanGen.Proofs.Script.Types
import BeanGen.Proofs.Script.Written
import BeanGen.Proofs.Script.WrittenLines
import BeanGen.Proofs.Source.Document
import BeanGen.Proofs.Source.Filter
import BeanGen.Proofs.Text.Blank
import BeanGen.Proofs.Text.Mention
import BeanGen.Proofs.Text.Slice
import BeanGen.Proofs.Text.Squeeze
import BeanGen.Proofs.TypeText.Arguments
import BeanGen.Proofs.TypeText.Arrays
import BeanGen.Proofs.TypeText.Balance
import BeanGen.Proofs.TypeText.Blanks
import BeanGen.Proofs.TypeText.Boxing
import BeanGen.Proofs.TypeText.Canonical
import BeanGen.Proofs.TypeText.Expressions
import BeanGen.Proofs.TypeText.Idempotence
import BeanGen.Proofs.TypeText.Kept
import BeanGen.Proofs.TypeText.Layout
import BeanGen.Proofs.TypeText.Mapping
import BeanGen.Proofs.TypeText.Mention
import BeanGen.Proofs.TypeText.Names
import BeanGen.Proofs.TypeText.Nesting
import BeanGen.Proofs.TypeText.Parentheses
import BeanGen.Proofs.TypeText.Pieces
import BeanGen.Proofs.TypeText.Printed
import BeanGen.Proofs.TypeText.Relabeled
import BeanGen.Proofs.TypeText.Slashes
import BeanGen.Proofs.TypeText.Substitution
import BeanGen.Proofs.TypeText.TextUnions
import BeanGen.Proofs.TypeText.Tree
import BeanGen.Proofs.TypeText.Unions
import BeanGen.Refine.Bases
import BeanGen.Refine.EnumInterfaces
import BeanGen.Refine.FieldTypes
import BeanGen.Refine.Packages
import BeanGen.Refine.Pass
import BeanGen.Refine.TypeNames
import BeanGen.Render.EnumBody
import BeanGen.Render.Unit
import BeanGen.Render.Writer
import BeanGen.Run.Failure
import BeanGen.Run.Generation
import BeanGen.Run.Settings
import BeanGen.Run.Sources
import BeanGen.Script.Character
import BeanGen.Script.Class
import BeanGen.Script.Expression
import BeanGen.Script.Follow
import BeanGen.Script.Grammar
import BeanGen.Script.Hint
import BeanGen.Script.Items
import BeanGen.Script.Lexeme
import BeanGen.Script.Member
import BeanGen.Script.Mending
import BeanGen.Script.Reader
import BeanGen.Script.Recovery
import BeanGen.Script.Salvage
import BeanGen.Script.Signature
import BeanGen.Script.Statement
import BeanGen.Script.Trivia
import BeanGen.Script.Type
import BeanGen.Source.Basic
import BeanGen.Source.Document
import BeanGen.Source.Filter
import BeanGen.Text.Base64
import BeanGen.Text.Blank
import BeanGen.Text.Digit
import BeanGen.Text.LetterCase
import BeanGen.Text.Lines
import BeanGen.Text.Printable
import BeanGen.Text.Shown
import BeanGen.Text.Similarity
import BeanGen.Text.Slice
import BeanGen.Text.WordChar
import BeanGen.TypeText.Mapping
import BeanGen.TypeText.Nesting
import BeanGen.TypeText.Normal
import BeanGen.TypeText.Outline
import BeanGen.TypeText.Substitution
import BeanGen.Yaml.Cursor
import BeanGen.Yaml.Meaning
import BeanGen.Yaml.Node
import BeanGen.Yaml.Number
import BeanGen.Yaml.Scalar
import BeanGen.Yaml.Timestamp
import BeanGen.Yaml.Token
