import FactoryBundler.Main
import FactoryBundler.Session
import FactoryBundler.Proofs.Text.Utf8
import FactoryBundler.Proofs.Encoding.Base64
import FactoryBundler.Proofs.Json.Strings
import FactoryBundler.Proofs.Json.Everywhere
import FactoryBundler.Proofs.Json.Members
import FactoryBundler.Proofs.Json.Layout
import FactoryBundler.Proofs.Json.Integers
import FactoryBundler.Proofs.Json.RoundTrip
import FactoryBundler.Proofs.Except
import FactoryBundler.Proofs.Json.Values
import FactoryBundler.Proofs.Bundle.Wire
import FactoryBundler.Proofs.Json.Reordering
import FactoryBundler.Proofs.Bundle.Fingerprint
import FactoryBundler.Proofs.Schema.Fields
import FactoryBundler.Proofs.Schema.Documents
import FactoryBundler.Proofs.Plan.Entries
import FactoryBundler.Proofs.Configuration.Build
import FactoryBundler.Proofs.Policy
import FactoryBundler.Proofs.Policy.Writer
import FactoryBundler.Proofs.Policy.Layout
import FactoryBundler.Proofs.Policy.Body
import FactoryBundler.Proofs.Policy.Containment
import FactoryBundler.Proofs.Policy.Ending
import FactoryBundler.Proofs.Policy.Exchange
import FactoryBundler.Proofs.Schema.Inputs
import FactoryBundler.Proofs.Schema.Listing
import FactoryBundler.Proofs.Schema.Consistency
import FactoryBundler.Proofs.Schema.Shadowing
import FactoryBundler.Proofs.Schema.Required
import FactoryBundler.Proofs.Compiler
import FactoryBundler.Proofs.Bundle.RoundTrip
import FactoryBundler.Proofs.Text.ByteOrder
import FactoryBundler.Proofs.Text.Letter
import FactoryBundler.Proofs.Text.Lines
import FactoryBundler.Proofs.Sorting
import FactoryBundler.Proofs.Text.Words
import FactoryBundler.Proofs.Files.Path
import FactoryBundler.Proofs.Files.Tree
import FactoryBundler.Proofs.Files.Workspace
import FactoryBundler.Proofs.Plan.Recording
import FactoryBundler.Proofs.Plan.Paths
import FactoryBundler.Proofs.Discovery.Sites
import FactoryBundler.Proofs.Discovery.Exact
import FactoryBundler.Proofs.Discovery.Reload
import FactoryBundler.Proofs.Discovery.Inference
import FactoryBundler.Proofs.CommandLine.Agreement
import FactoryBundler.Proofs.CommandLine.ExitCodes
import FactoryBundler.Proofs.CommandLine.Reading
import FactoryBundler.Proofs.CommandLine.Spelling
import FactoryBundler.Proofs.CommandLine.Requests
import FactoryBundler.Proofs.CommandLine.Failures
import FactoryBundler.Proofs.PolicyType.Name
import FactoryBundler.Proofs.PolicyType.Catalog
import FactoryBundler.Proofs.PolicyType.Spelling
import FactoryBundler.Proofs.Configuration.Filling
import FactoryBundler.Proofs.PolicyType.Writes
import FactoryBundler.Proofs.PolicyType.Directory
import FactoryBundler.Proofs.PolicyType.Relisting
import FactoryBundler.Proofs.Configuration.Congruence
import FactoryBundler.Proofs.Compiler.Outcomes
import FactoryBundler.Proofs.Compiler.Spelling
import FactoryBundler.Proofs.Compiler.Labels
import FactoryBundler.Proofs.Configuration.Coercion
import FactoryBundler.Proofs.Configuration.Admission
import FactoryBundler.Proofs.Configuration.Verdict
import FactoryBundler.Proofs.Configuration.Refusals
import FactoryBundler.Proofs.Configuration.Toggles
import FactoryBundler.Proofs.Configuration.Variables
import FactoryBundler.Proofs.Policy.Anchor
import FactoryBundler.Proofs.Compiler.Values
import FactoryBundler.Proofs.Json.Grammar
import FactoryBundler.Proofs.Json.ReadStrings
import FactoryBundler.Proofs.Json.ReadNumbers
import FactoryBundler.Proofs.Json.ReadLists
import FactoryBundler.Proofs.Json.ReadGrammar
import FactoryBundler.Proofs.Decimal.Nearest
import FactoryBundler.Proofs.Decimal.Shortest
import FactoryBundler.Proofs.Json.Doubles
import FactoryBundler.Proofs.Json.Pretty
import FactoryBundler.Proofs.Json.SkimGrammar
import FactoryBundler.Proofs.Bundle.Document
import FactoryBundler.Proofs.Bundle.Transport
