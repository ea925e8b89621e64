import NodeLifecycle.Diagnostic.Basic
import NodeLifecycle.Lifecycle.Classification
import NodeLifecycle.Text.Sorting

/-!
# Disposal plans

The resources that the enter-tree and ready hooks of a class produce, or that are replaced on
demand, are released when the node leaves the tree.  The plan lists them in the order of their
declarations and in the order in which they are acquired; they are released in the reverse of the
latter.  Overloads share one resource.
-/

namespace NodeLifecycle

/-- The producer of a tracked resource. -/
structure DisposalEntry where
  /-- The producer's name. -/
  method : String
  /-- Whether the resource is replaced on demand. -/
  isAuto : Bool
  /-- The accessibility of the method that replaces the resource. -/
  updaterAccess : Accessibility
  /-- The producer's parameters. -/
  params : List Parameter
deriving DecidableEq

namespace DisposalEntry

def ofClassification (classification : Classification) : DisposalEntry where
  method := classification.method
  isAuto := classification.roles.isAutoDisposed
  updaterAccess := classification.updaterAccess
  params := classification.params

def slotName (entry : DisposalEntry) : String :=
  GeneratedName.slot entry.method

def resetName (entry : DisposalEntry) : String :=
  GeneratedName.reset entry.method entry.isAuto

/-- The method that replaces the resource, if it is replaced on demand. -/
def updaterName? (entry : DisposalEntry) : Option String :=
  if entry.isAuto then some (GeneratedName.updater entry.method) else none

@[simp] theorem method_ofClassification (classification : Classification) :
    (ofClassification classification).method = classification.method := rfl

end DisposalEntry

/-- The tracked resources of a class in two orders. -/
structure DisposalPlan where
  /-- The resources in the order in which their producers are declared. -/
  entries : List DisposalEntry
  /-- The positions of the entries in the order in which their resources are acquired. -/
  acquisition : List Nat
deriving DecidableEq

namespace DisposalPlan

/-- The classifications whose results are released on exit. -/
def eligible (classifications : List Classification) : List Classification :=
  classifications.filter fun classification => classification.roles.disposesOnExit

/-- The first classification of each method. -/
def firstPerMethod (classifications : List Classification) : List Classification :=
  classifications.eraseDupsBy fun left right => left.method == right.method

/-- The position of the first member with the given name; names that no member has come last. -/
def position (decl : TypeDecl) (name : String) : Nat :=
  decl.members.findIdx fun member => member.name == name

/-- The entries for the given classifications, in the order of the class's members. -/
def entriesOf (decl : TypeDecl) (classifications : List Classification) : List DisposalEntry :=
  (StableSort.sortBy (fun left right => position decl left.method ≤ position decl right.method)
    (firstPerMethod (eligible classifications))).map .ofClassification

/-- The producers that overrides call, in the order of the calls. -/
def hooked (classifications : List Classification) : List String :=
  ((eligible classifications).filter fun classification => classification.roles.isHook).map
    Classification.method

def indexOf? (entries : List DisposalEntry) (method : String) : Option Nat :=
  entries.findIdx? fun entry => entry.method == method

/-- The positions of the entries that overrides acquire, in the order of their first calls. -/
def acquiredByCalls (hooked : List String) (entries : List DisposalEntry) : List Nat :=
  (hooked.filterMap (indexOf? entries)).eraseDups

/-- Entries that overrides acquire come first, in the order of the calls; the others follow as they
are declared. -/
def acquire (hooked : List String) (entries : List DisposalEntry) : List Nat :=
  acquiredByCalls hooked entries ++
    (List.range entries.length).filter fun index =>
      !(acquiredByCalls hooked entries).contains index

/-- The plan for a class, from the classifications of the enter-tree pass and of the ready pass. -/
def merge (decl : TypeDecl) (enterTree ready : List Classification) : DisposalPlan where
  entries := entriesOf decl (enterTree ++ ready)
  acquisition := acquire (hooked (enterTree ++ ready)) (entriesOf decl (enterTree ++ ready))

/-- Whether a classification has other parameters than the first one of its method. -/
def isUntracked (tracked : List Classification) (classification : Classification) : Bool :=
  (tracked.find? fun other => other.method == classification.method).any fun first =>
    first.params != classification.params

/-- The overloads that are not tracked although their parameters differ from the tracked ones. -/
def notices (decl : TypeDecl) (enterTree ready : List Classification) : List Notice :=
  ((eligible (enterTree ++ ready)).filter (isUntracked (eligible (enterTree ++ ready)))).map
    fun classification => .sharedSlot decl.name classification.method

def isEmpty (plan : DisposalPlan) : Bool :=
  plan.entries.isEmpty

def size (plan : DisposalPlan) : Nat :=
  plan.entries.length

/-- The resources in the order in which they are acquired. -/
def acquisitionOrder (plan : DisposalPlan) : List DisposalEntry :=
  plan.acquisition.filterMap fun index => plan.entries[index]?

/-- The resources in the order in which they are released. -/
def disposalOrder (plan : DisposalPlan) : List DisposalEntry :=
  plan.acquisition.reverse.filterMap fun index => plan.entries[index]?

/-- The calls that release all resources, in order. -/
def resets (plan : DisposalPlan) : List String :=
  plan.disposalOrder.map DisposalEntry.resetName

theorem disposalOrder_eq_reverse (plan : DisposalPlan) :
    plan.disposalOrder = plan.acquisitionOrder.reverse :=
  List.filterMap_reverse

/-- Everything that is acquired is released, and nothing else. -/
theorem disposalOrder_perm (plan : DisposalPlan) :
    plan.disposalOrder.Perm plan.acquisitionOrder := by
  rw [disposalOrder_eq_reverse]
  exact List.reverse_perm _

end DisposalPlan
end NodeLifecycle
