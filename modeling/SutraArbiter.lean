import SutraArbiter.Arrangement
import SutraArbiter.CommandLine.Argument
import SutraArbiter.CommandLine.Request
import SutraArbiter.CommandLine.Run
import SutraArbiter.Config
import SutraArbiter.Context
import SutraArbiter.Criteria
import SutraArbiter.Datum.Access
import SutraArbiter.Datum.Basic
import SutraArbiter.Datum.Fault
import SutraArbiter.Datum.Quantify
import SutraArbiter.Datum.Written
import SutraArbiter.Digest.Sha256
import SutraArbiter.Engine
import SutraArbiter.Envelope
import SutraArbiter.Evaluation
import SutraArbiter.Execution
import SutraArbiter.Failure
import SutraArbiter.Files
import SutraArbiter.Flags
import SutraArbiter.Json.Canonical
import SutraArbiter.Json.Indented
import SutraArbiter.Json.Reading
import SutraArbiter.Json.Scalar
import SutraArbiter.Json.Token
import SutraArbiter.Lexicon
import SutraArbiter.Logged
import SutraArbiter.Main
import SutraArbiter.Number.Double
import SutraArbiter.Number.Reading
import SutraArbiter.Number.Shortest
import SutraArbiter.Numeral
import SutraArbiter.Pack.Bundled
import SutraArbiter.Pack.Inspection
import SutraArbiter.Pack.Loading
import SutraArbiter.Pack.Source
import SutraArbiter.Payload
import SutraArbiter.Ranking
import SutraArbiter.Registry
import SutraArbiter.Rule.Basic
import SutraArbiter.Rule.Grammar
import SutraArbiter.Rule.Violation
import SutraArbiter.Script
import SutraArbiter.Selection
import SutraArbiter.Strategy
import SutraArbiter.Strategy.Attribute
import SutraArbiter.Strategy.Finding
import SutraArbiter.Strategy.Listing
import SutraArbiter.Strategy.Sameness
import SutraArbiter.Tags
import SutraArbiter.Text.Blank
import SutraArbiter.Text.CaseTable
import SutraArbiter.Text.Composition
import SutraArbiter.Text.Composition.Composites
import SutraArbiter.Text.Composition.Decompositions
import SutraArbiter.Text.Composition.MarkClasses
import SutraArbiter.Text.Digit
import SutraArbiter.Text.Half
import SutraArbiter.Text.Lower
import SutraArbiter.Text.Normal
import SutraArbiter.Text.Printable
import SutraArbiter.Text.Quoted
import SutraArbiter.Tier
import SutraArbiter.Word.Basic
import SutraArbiter.Word.Group
import SutraArbiter.Proofs.Answer
import SutraArbiter.Proofs.Arbitration
import SutraArbiter.Proofs.Arrangement
import SutraArbiter.Proofs.Arrangement.Certain
import SutraArbiter.Proofs.Arrangement.Failing
import SutraArbiter.Proofs.Coherence
import SutraArbiter.Proofs.Config.Loading
import SutraArbiter.Proofs.Config.Reading
import SutraArbiter.Proofs.Conformance
import SutraArbiter.Proofs.Containment
import SutraArbiter.Proofs.Criteria
import SutraArbiter.Proofs.Datum
import SutraArbiter.Proofs.Diagnostics
import SutraArbiter.Proofs.Evaluation
import SutraArbiter.Proofs.Flags
import SutraArbiter.Proofs.FlagsRead
import SutraArbiter.Proofs.Independence
import SutraArbiter.Proofs.Json.Canonical
import SutraArbiter.Proofs.Json.Token
import SutraArbiter.Proofs.Json.Value
import SutraArbiter.Proofs.Json.Word
import SutraArbiter.Proofs.Json.Writing
import SutraArbiter.Proofs.KeySpelling
import SutraArbiter.Proofs.Lexicon
import SutraArbiter.Proofs.Misbehaviour
import SutraArbiter.Proofs.NormalForm
import SutraArbiter.Proofs.Number.Share
import SutraArbiter.Proofs.Number.Written
import SutraArbiter.Proofs.Numeral
import SutraArbiter.Proofs.Pack.Answer
import SutraArbiter.Proofs.Pack.BreakingOff
import SutraArbiter.Proofs.Pack.Bundled
import SutraArbiter.Proofs.Pack.CanonicalText
import SutraArbiter.Proofs.Pack.Choosing
import SutraArbiter.Proofs.Pack.Compiled
import SutraArbiter.Proofs.Pack.Conformance
import SutraArbiter.Proofs.Pack.Filtering
import SutraArbiter.Proofs.Pack.Fingerprint
import SutraArbiter.Proofs.Pack.FlagsRead
import SutraArbiter.Proofs.Pack.Inspection
import SutraArbiter.Proofs.Pack.Lines
import SutraArbiter.Proofs.Pack.Loading
import SutraArbiter.Proofs.Pack.Order
import SutraArbiter.Proofs.Pack.Precedence
import SutraArbiter.Proofs.Pack.Problem
import SutraArbiter.Proofs.Pack.Profile
import SutraArbiter.Proofs.Pack.Reordering
import SutraArbiter.Proofs.Pack.Reporting
import SutraArbiter.Proofs.Pack.Solitary
import SutraArbiter.Proofs.Pack.Total
import SutraArbiter.Proofs.Pack.Warnings
import SutraArbiter.Proofs.Partition
import SutraArbiter.Proofs.Payload
import SutraArbiter.Proofs.Ranking
import SutraArbiter.Proofs.RegistrationOrder
import SutraArbiter.Proofs.Registry.Candidates
import SutraArbiter.Proofs.Registry.CanonicalText
import SutraArbiter.Proofs.Registry.Classification
import SutraArbiter.Proofs.Registry.History
import SutraArbiter.Proofs.Registry.Invariant
import SutraArbiter.Proofs.Registry.Rearrangement
import SutraArbiter.Proofs.Registry.Removal
import SutraArbiter.Proofs.Registry.Steady
import SutraArbiter.Proofs.Reordering
import SutraArbiter.Proofs.Resolution
import SutraArbiter.Proofs.Rule.Acceptance
import SutraArbiter.Proofs.Rule.BreakingOff
import SutraArbiter.Proofs.Rule.Form
import SutraArbiter.Proofs.Rule.Message
import SutraArbiter.Proofs.Rule.Parameters
import SutraArbiter.Proofs.Rule.Reordering
import SutraArbiter.Proofs.Rule.Wording
import SutraArbiter.Proofs.Ruling
import SutraArbiter.Proofs.Schema
import SutraArbiter.Proofs.Script.Alphabets
import SutraArbiter.Proofs.Script.Separators
import SutraArbiter.Proofs.Standing
import SutraArbiter.Proofs.Steps
import SutraArbiter.Proofs.Strategy
import SutraArbiter.Proofs.Strategy.Alike
import SutraArbiter.Proofs.Strategy.Division
import SutraArbiter.Proofs.Strategy.Listed
import SutraArbiter.Proofs.Strategy.NearMiss
import SutraArbiter.Proofs.Strategy.Pairing
import SutraArbiter.Proofs.Strategy.Selected
import SutraArbiter.Proofs.Strategy.Verdict
import SutraArbiter.Proofs.Text.Closure
import SutraArbiter.Proofs.Text.Composition
import SutraArbiter.Proofs.Text.Letters
import SutraArbiter.Proofs.Text.Lines
import SutraArbiter.Proofs.Text.Lower
import SutraArbiter.Proofs.Text.Recomposition
import SutraArbiter.Proofs.Text.Separators
import SutraArbiter.Proofs.Text.SnakeCase
import SutraArbiter.Proofs.Text.Tokens
import SutraArbiter.Proofs.Text.Trim
import SutraArbiter.Proofs.Word.Alike
import SutraArbiter.Proofs.Word.Attributes
import SutraArbiter.Proofs.Word.BreakingOff
import SutraArbiter.Proofs.Word.Joined
import SutraArbiter.Proofs.Word.Literal
import SutraArbiter.Proofs.Word.Reading
import SutraArbiter.Proofs.Word.Usable
import SutraArbiter.Proofs.WordOrder
import SutraArbiter.Proofs.Rule.Compilation
