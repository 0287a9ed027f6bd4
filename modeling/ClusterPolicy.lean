import ClusterPolicy.Admission
import ClusterPolicy.Cedar.Authorization
import ClusterPolicy.Cedar.Entity
import ClusterPolicy.Cedar.Evaluation
import ClusterPolicy.Cedar.Expr
import ClusterPolicy.Cedar.Expr.Json
import ClusterPolicy.Cedar.Grammar
import ClusterPolicy.Cedar.Name
import ClusterPolicy.Cedar.Policy
import ClusterPolicy.Cedar.Policy.Json
import ClusterPolicy.Cedar.Quoted
import ClusterPolicy.Cedar.Token
import ClusterPolicy.Cedar.Token.Lexer
import ClusterPolicy.Cedar.Value
import ClusterPolicy.Cedar.Value.Json
import ClusterPolicy.Cel.Compilation
import ClusterPolicy.Cel.Expr
import ClusterPolicy.Cel.Grammar
import ClusterPolicy.Cel.Lexeme
import ClusterPolicy.Cel.Literal
import ClusterPolicy.Cel.Parser
import ClusterPolicy.Collection
import ClusterPolicy.Command.Arguments
import ClusterPolicy.Command.Authorization
import ClusterPolicy.Command.Conversion
import ClusterPolicy.Command.Error
import ClusterPolicy.Command.RequestFile
import ClusterPolicy.CompiledPolicy
import ClusterPolicy.CompiledPolicy.Text
import ClusterPolicy.Condition
import ClusterPolicy.Condition.Text
import ClusterPolicy.EntityBuilders
import ClusterPolicy.EntityType
import ClusterPolicy.Error
import ClusterPolicy.Json
import ClusterPolicy.Json.Reader
import ClusterPolicy.Json.Text
import ClusterPolicy.Main
import ClusterPolicy.Manifest
import ClusterPolicy.Manifest.Reading
import ClusterPolicy.Manifest.Shape
import ClusterPolicy.Manifest.Typed
import ClusterPolicy.Metrics
import ClusterPolicy.Number.Double
import ClusterPolicy.Number.Long
import ClusterPolicy.Number.Places
import ClusterPolicy.Number.Shortest
import ClusterPolicy.PolicyText
import ClusterPolicy.Proofs.Admission.Authorization
import ClusterPolicy.Proofs.Admission.Compilation
import ClusterPolicy.Proofs.Admission.Loading
import ClusterPolicy.Proofs.Admission.Match
import ClusterPolicy.Proofs.Admission.Meaning
import ClusterPolicy.Proofs.Admission.Naming
import ClusterPolicy.Proofs.Cedar.Chains
import ClusterPolicy.Proofs.Cedar.Evaluation
import ClusterPolicy.Proofs.Cedar.Graph
import ClusterPolicy.Proofs.Cedar.Json
import ClusterPolicy.Proofs.Cedar.Levels
import ClusterPolicy.Proofs.Cedar.Name
import ClusterPolicy.Proofs.Cedar.Operands
import ClusterPolicy.Proofs.Cedar.Outcome
import ClusterPolicy.Proofs.Cedar.Parser
import ClusterPolicy.Proofs.Cedar.Quoted
import ClusterPolicy.Proofs.Cedar.Scan
import ClusterPolicy.Proofs.Cel.Chains
import ClusterPolicy.Proofs.Cel.Levels
import ClusterPolicy.Proofs.Cel.Lexing
import ClusterPolicy.Proofs.Cel.Literal
import ClusterPolicy.Proofs.Cel.Meaning
import ClusterPolicy.Proofs.Cel.Operands
import ClusterPolicy.Proofs.Cel.RoundTrip
import ClusterPolicy.Proofs.Cel.Term
import ClusterPolicy.Proofs.Cel.Text
import ClusterPolicy.Proofs.Collection
import ClusterPolicy.Proofs.Collection.Loading
import ClusterPolicy.Proofs.Command.Loading
import ClusterPolicy.Proofs.Command.Manifests
import ClusterPolicy.Proofs.CompiledPolicy.Application
import ClusterPolicy.Proofs.CompiledPolicy.Spacing
import ClusterPolicy.Proofs.CompiledPolicy.Statement
import ClusterPolicy.Proofs.Condition.Answers
import ClusterPolicy.Proofs.Condition.Combination
import ClusterPolicy.Proofs.Condition.Connective
import ClusterPolicy.Proofs.Condition.Denotation
import ClusterPolicy.Proofs.Condition.Evaluation
import ClusterPolicy.Proofs.Condition.Pattern
import ClusterPolicy.Proofs.Condition.RoundTrip
import ClusterPolicy.Proofs.Condition.Spacing
import ClusterPolicy.Proofs.EntityBuilders
import ClusterPolicy.Proofs.Json.Reader
import ClusterPolicy.Proofs.Json.Scalar
import ClusterPolicy.Proofs.Manifest
import ClusterPolicy.Proofs.Metrics
import ClusterPolicy.Proofs.Number.Long
import ClusterPolicy.Proofs.PolicyText
import ClusterPolicy.Proofs.Rbac.Absorption
import ClusterPolicy.Proofs.Rbac.Accounting
import ClusterPolicy.Proofs.Rbac.Addition
import ClusterPolicy.Proofs.Rbac.Compilation
import ClusterPolicy.Proofs.Rbac.Extra
import ClusterPolicy.Proofs.Rbac.Gathering
import ClusterPolicy.Proofs.Rbac.Grant
import ClusterPolicy.Proofs.Rbac.Identity
import ClusterPolicy.Proofs.Rbac.Impersonation
import ClusterPolicy.Proofs.Rbac.Loading
import ClusterPolicy.Proofs.Rbac.Match
import ClusterPolicy.Proofs.Rbac.Meaning
import ClusterPolicy.Proofs.Rbac.Namespace
import ClusterPolicy.Proofs.Rbac.Path
import ClusterPolicy.Proofs.Rbac.Rule
import ClusterPolicy.Proofs.Rbac.Safety
import ClusterPolicy.Proofs.Rbac.Selection
import ClusterPolicy.Proofs.Rbac.Union
import ClusterPolicy.Proofs.Rbac.Widening
import ClusterPolicy.Proofs.SortedMap
import ClusterPolicy.Proofs.Store
import ClusterPolicy.Proofs.Store.Publication
import ClusterPolicy.Proofs.Text.Ascii
import ClusterPolicy.Proofs.Text.Digits
import ClusterPolicy.Proofs.Tier
import ClusterPolicy.Proofs.Tier.Exchange
import ClusterPolicy.Proofs.Tier.Precedence
import ClusterPolicy.Rbac.Compilation
import ClusterPolicy.Rbac.Impersonation
import ClusterPolicy.Rbac.Match
import ClusterPolicy.Rbac.Rule
import ClusterPolicy.Settings
import ClusterPolicy.Settings.Json
import ClusterPolicy.Settings.Yaml
import ClusterPolicy.SortedMap
import ClusterPolicy.Store
import ClusterPolicy.Text.Cut
import ClusterPolicy.Text.Debug
import ClusterPolicy.Text.Debug.Tables
import ClusterPolicy.Text.Digits
import ClusterPolicy.Text.LetterCase
import ClusterPolicy.Text.LetterCase.Tables
import ClusterPolicy.Text.Utf8
import ClusterPolicy.Tier
import ClusterPolicy.Yaml
import ClusterPolicy.Yaml.Document
import ClusterPolicy.Yaml.Flow
import ClusterPolicy.Proofs.Collection.Merging
import ClusterPolicy.Proofs.Admission.Accounting
import ClusterPolicy.Proofs.Condition.Plain
import ClusterPolicy.Proofs.Cel.Production
import ClusterPolicy.Proofs.Cel.Support
import ClusterPolicy.Proofs.Cel.Size
import ClusterPolicy.Proofs.Cel.Progress
import ClusterPolicy.Proofs.Cel.Numeral
import ClusterPolicy.Proofs.Cel.Recovery
import ClusterPolicy.Proofs.Cedar.Unnamed
