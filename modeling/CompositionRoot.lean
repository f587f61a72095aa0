import CompositionRoot.Generator.Basic
import CompositionRoot.Generator.ConfigSource
import CompositionRoot.Manifest
import CompositionRoot.Proofs.FreshIdentifier
import CompositionRoot.Proofs.GraphConsistency
import CompositionRoot.Proofs.BuilderInvariant
import CompositionRoot.Proofs.Resolvability
import CompositionRoot.Proofs.Termination
import CompositionRoot.Proofs.Rollback
import CompositionRoot.Proofs.CycleReports
import CompositionRoot.Proofs.Dependencies
import CompositionRoot.Proofs.ReadFields
import CompositionRoot.Proofs.TopologicalOrder
import CompositionRoot.Proofs.LeastFirst
import CompositionRoot.Proofs.Construction
import CompositionRoot.Proofs.Emission
import CompositionRoot.Proofs.MissingFields
import CompositionRoot.Proofs.Synthesis
import CompositionRoot.Proofs.Sessions
import CompositionRoot.Proofs.CatalogExtension
import CompositionRoot.Proofs.FieldNames
import CompositionRoot.Proofs.CreatedExpressions
import CompositionRoot.Proofs.ClassMeaning
import CompositionRoot.Proofs.ReachedServices
import CompositionRoot.Proofs.DiscoveryOrder
import CompositionRoot.Proofs.ChosenEntries
import CompositionRoot.Proofs.RepeatedRequests
import CompositionRoot.Proofs.OrderIndependence
import CompositionRoot.Proofs.FieldUses
import CompositionRoot.Proofs.DispatchMeaning
import CompositionRoot.Proofs.ServiceErrors
import CompositionRoot.Proofs.TransparentScaffolding
import CompositionRoot.Proofs.SingleCreation
import CompositionRoot.Proofs.NamesInUse
import CompositionRoot.Proofs.FlatCase
import CompositionRoot.Proofs.IdentifierCharacters
import CompositionRoot.Proofs.CatalogRegistration
import CompositionRoot.Proofs.DependencyCount
import CompositionRoot.Proofs.ConfiguredNames
import CompositionRoot.Proofs.GeneratedSources
import CompositionRoot.Proofs.SimpleNames
import CompositionRoot.Proofs.FieldSearch
import CompositionRoot.Proofs.NestedCreation
