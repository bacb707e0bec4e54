import FormSchema.Builder
import FormSchema.CommandLine
import FormSchema.Compiler
import FormSchema.Form.Dump
import FormSchema.Form.Reader
import FormSchema.Form.Scope
import FormSchema.Form.Structure
import FormSchema.Layout
import FormSchema.Main
import FormSchema.Policy.Check
import FormSchema.Policy.Source
import FormSchema.Proofs.Building
import FormSchema.Proofs.CommandLine
import FormSchema.Proofs.Draft07
import FormSchema.Proofs.Entries
import FormSchema.Proofs.Form.Attributes
import FormSchema.Proofs.Form.Bodies
import FormSchema.Proofs.Form.Composition
import FormSchema.Proofs.Form.Contents
import FormSchema.Proofs.Form.Erasure
import FormSchema.Proofs.Form.OptionLoading
import FormSchema.Proofs.Form.Options
import FormSchema.Proofs.Form.Placement
import FormSchema.Proofs.Form.Places
import FormSchema.Proofs.Form.Reordering
import FormSchema.Proofs.Form.Resolved
import FormSchema.Proofs.Form.RoundTrip
import FormSchema.Proofs.Form.Separation
import FormSchema.Proofs.Form.Structure
import FormSchema.Proofs.Form.Tree
import FormSchema.Proofs.Form.Unambiguous
import FormSchema.Proofs.Form.WellFormed
import FormSchema.Proofs.FrontEnds
import FormSchema.Proofs.Intake.Accepted
import FormSchema.Proofs.JsonPointer
import FormSchema.Proofs.Layout.Agreement
import FormSchema.Proofs.Layout.Controls
import FormSchema.Proofs.Layout.Pointers
import FormSchema.Proofs.Layout.Splicing
import FormSchema.Proofs.Layout.Tested
import FormSchema.Proofs.Layout.Visibility
import FormSchema.Proofs.Partitions
import FormSchema.Proofs.Policy.Discovery
import FormSchema.Proofs.Policy.Errors
import FormSchema.Proofs.Policy.Exactness
import FormSchema.Proofs.Policy.Notation
import FormSchema.Proofs.Policy.Strictness
import FormSchema.Proofs.Policy.Wrappers
import FormSchema.Proofs.Reports
import FormSchema.Proofs.Schema.Choices
import FormSchema.Proofs.Schema.Meaning
import FormSchema.Proofs.Schema.Members
import FormSchema.Proofs.Schema.Nodes
import FormSchema.Proofs.Schema.Reordering
import FormSchema.Proofs.Schema.Scopes
import FormSchema.Proofs.Schema.Size
import FormSchema.Proofs.Schema.Transparency
import FormSchema.Proofs.Service.Agreement
import FormSchema.Proofs.Service.Answers
import FormSchema.Proofs.Strict.Documents
import FormSchema.Proofs.Strict.Loaded
import FormSchema.Proofs.Strict.Lookup
import FormSchema.Proofs.Strict.Policy
import FormSchema.Proofs.Strict.Structure
import FormSchema.Schema.Compile
import FormSchema.Service.Health
import FormSchema.Service.Launch
