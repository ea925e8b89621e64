import NodeLifecycle.Generation
import NodeLifecycle.Proofs.FirstOccurrences
import NodeLifecycle.Proofs.Diagnostic.OrderedSet
import NodeLifecycle.Proofs.Lifecycle.DisposalPlan
import NodeLifecycle.Proofs.Lifecycle.HookCalls
import NodeLifecycle.Proofs.Execution.SlotMachine
import NodeLifecycle.Proofs.Lifecycle.TrackedProducers
import NodeLifecycle.Proofs.Lifecycle.ReleaseOrder
import NodeLifecycle.Proofs.Lifecycle.References
import NodeLifecycle.Proofs.Execution.NodeRun
import NodeLifecycle.Proofs.Execution.Leaks
import NodeLifecycle.Proofs.MethodTable.Dispatch
import NodeLifecycle.Proofs.MethodTable.Numbering
import NodeLifecycle.Proofs.MethodTable.Registration
import NodeLifecycle.Proofs.Lifecycle.CallOrder
import NodeLifecycle.Proofs.Lifecycle.Findings
import NodeLifecycle.Proofs.Symbol.Agreement
import NodeLifecycle.Proofs.Generation.Isolation
import NodeLifecycle.Proofs.Generation.Outcome
import NodeLifecycle.Proofs.Symbol.WellFormedNames
import NodeLifecycle.Proofs.Generation.Hints
import NodeLifecycle.Proofs.Generation.Reports
import NodeLifecycle.Proofs.Generation.UnrelatedTypes
import NodeLifecycle.Proofs.Lifecycle.Work
import NodeLifecycle.Proofs.MethodTable.Overrides
import NodeLifecycle.Proofs.Generation.Selection
import NodeLifecycle.Proofs.Text.Reading
import NodeLifecycle.Proofs.Source.Opening
import NodeLifecycle.Proofs.Source.SceneLookups
import NodeLifecycle.Proofs.Source.HookBodies
import NodeLifecycle.Proofs.MethodTable.PlainNames
import NodeLifecycle.Proofs.Source.Dispatcher
import NodeLifecycle.Proofs.Symbol.Listing
import NodeLifecycle.Proofs.Symbol.BaseChains
import NodeLifecycle.Proofs.Symbol.InterfaceSearch
import NodeLifecycle.Proofs.Generation.Failures
import NodeLifecycle.Proofs.Variant.NullableValues
import NodeLifecycle.Proofs.Lifecycle.GeneratedMembers
import NodeLifecycle.Proofs.Generation.FirstMarkings
import NodeLifecycle.Proofs.Generation.EngineParents
import NodeLifecycle.Proofs.Text.Sorting
import NodeLifecycle.Proofs.MethodTable.Arrangement
import NodeLifecycle.Proofs.Symbol.Growth
import NodeLifecycle.Proofs.MethodTable.Growth
import NodeLifecycle.Proofs.Lifecycle.DeclarationOrder
import NodeLifecycle.Proofs.Source.Updaters
import NodeLifecycle.Proofs.Framework.Namespaces
import NodeLifecycle.Proofs.MethodTable.PublishedNames
import NodeLifecycle.Proofs.Text.Literals
import NodeLifecycle.Proofs.Source.HelperTexts
import NodeLifecycle.Proofs.Symbol.ArrayLevels
import NodeLifecycle.Proofs.Lifecycle.SharedSlots
import NodeLifecycle.Proofs.Lifecycle.MemberRoles
import NodeLifecycle.Proofs.Lifecycle.PlanPositions
