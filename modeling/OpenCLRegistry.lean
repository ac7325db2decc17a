import OpenCLRegistry.Main
import OpenCLRegistry.Session
import OpenCLRegistry.Proofs.Snapshot.RoundTrip
import OpenCLRegistry.Proofs.Registry.Flags
import OpenCLRegistry.Proofs.CommandLine.Arguments
import OpenCLRegistry.Proofs.CommandLine.LanguageChoice
import OpenCLRegistry.Proofs.Snapshot.Canonical
import OpenCLRegistry.Proofs.Language.Cplusplus
import OpenCLRegistry.Proofs.CommandLine.Outcome
import OpenCLRegistry.Proofs.CommandLine.Failure
import OpenCLRegistry.Proofs.CommandLine.Query
import OpenCLRegistry.Proofs.CommandLine.Configuration
import OpenCLRegistry.Proofs.Json.Numbers
import OpenCLRegistry.Proofs.Language.Text
import OpenCLRegistry.Proofs.CommandLine.Spellings
import OpenCLRegistry.Proofs.Registry.Adoption
import OpenCLRegistry.Proofs.Registry.Interleaving
import OpenCLRegistry.Proofs.Session.Failures
import OpenCLRegistry.Proofs.Registry.Restoration
import OpenCLRegistry.Proofs.FeatureList.Composition
import OpenCLRegistry.Proofs.FeatureList.Expressible
import OpenCLRegistry.Proofs.Registry.Support
import OpenCLRegistry.Proofs.Registry.CoreEnabling
import OpenCLRegistry.Proofs.Registry.Start
import OpenCLRegistry.Proofs.Registry.Clearing
import OpenCLRegistry.Proofs.Registry.Accounting
import OpenCLRegistry.Proofs.Language.Schema
import OpenCLRegistry.Proofs.Messages
import OpenCLRegistry.Proofs.CommandLine.Order
import OpenCLRegistry.Proofs.Registry.UnseenMetadata
import OpenCLRegistry.Proofs.FeatureList.Building
