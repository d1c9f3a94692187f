-- The registry of the command dispatcher. The base class keeps the actions of each domain, and the
-- derived one a scheduler for each domain that works on these. Objects that declare actions are
-- registered and deregistered whole.
import Chaos.DomainActions
import Chaos.Runs

namespace chaos.common.dispatcher

open runs chaos.common.action

abbrev DomainMap := AList fun _ : String => Nat

/-- `domains` are the `DomainActions` by their addresses, and `das_map` has for each scheduler the
one that it works on. `getActionDescriptors` has the descriptors of each object, and `registered`,
which is not in the code, the objects whose last call was a registration. -/
structure CommandDispatcher where
  getActionDescriptors : Nat → List Nat
  descriptors : Descriptors
  domains : Nat → DomainActions := fun _ => { domainName := "" }
  next : Nat := 0
  actionDomainExecutorMap : DomainMap := ∅
  das_map : DomainMap := ∅
  registered : List Nat := []

namespace CommandDispatcher

/-- The dispatcher before any registration. -/
def new (getActionDescriptors : Nat → List Nat) (descriptors : Descriptors) : CommandDispatcher :=
  { getActionDescriptors := getActionDescriptors, descriptors := descriptors }

def domainOf (s : CommandDispatcher) (action : Nat) : String := (s.descriptors action).actionDomain

def nameOf (s : CommandDispatcher) (action : Nat) : String := (s.descriptors action).actionName

/-- The actions of the domain, which are allocated if it is not there. -/
def getDomainActionsFromName (s : CommandDispatcher) (domain_name : String) :
    CommandDispatcher × Nat :=
  match s.actionDomainExecutorMap.lookup domain_name with
  | some p => (s, p)
  | none =>
    ({ s with
      domains := Function.update s.domains s.next { domainName := domain_name }
      next := s.next + 1
      actionDomainExecutorMap := s.actionDomainExecutorMap.insert domain_name s.next }, s.next)

/-! ## The base class -/

/-- One turn of the loop of `AbstractCommandDispatcher::registerAction`. -/
def addAction (s : CommandDispatcher) (action : Nat) : CommandDispatcher :=
  let (t, domainExecutor) := s.getDomainActionsFromName (s.domainOf action)
  { t with
    domains := Function.update t.domains domainExecutor
      ((t.domains domainExecutor).addActionDescriptor t.descriptors action) }

/-- One turn of the loop of `AbstractCommandDispatcher::deregisterAction`. A domain without actions
is erased. -/
def removeAction (s : CommandDispatcher) (action : Nat) : CommandDispatcher :=
  let (t, domainExecutor) := s.getDomainActionsFromName (s.domainOf action)
  let (left, descriptors) :=
    (t.domains domainExecutor).removeActionDescriptor t.descriptors action
  { t with
    domains := Function.update t.domains domainExecutor left
    descriptors := descriptors
    actionDomainExecutorMap :=
      if left.registeredActions = 0 then t.actionDomainExecutorMap.erase left.domainName
      else t.actionDomainExecutorMap }

/-! ## The derived class -/

/-- One turn of the loop of `DefaultCommandDispatcher::registerAction`. -/
def addScheduler (s : CommandDispatcher) (action : Nat) : CommandDispatcher :=
  let domainName := s.domainOf action
  if domainName ∈ s.das_map then s
  else
    let (t, container) := s.getDomainActionsFromName domainName
    { t with das_map := t.das_map.insert domainName container }

/-- One turn of the loop of `DefaultCommandDispatcher::deregisterAction`. -/
def removeScheduler (s : CommandDispatcher) (action : Nat) : CommandDispatcher :=
  let domain_name := s.domainOf action
  if domain_name ∈ s.das_map ∧ domain_name ∉ s.actionDomainExecutorMap then
    { s with das_map := s.das_map.erase domain_name }
  else s

def registerAction (s : CommandDispatcher) : Option Nat → CommandDispatcher
  | none => s
  | some declareActionClass =>
    let actions := s.getActionDescriptors declareActionClass
    let t := actions.foldl addScheduler (actions.foldl addAction s)
    { t with registered := declareActionClass :: t.registered }

def deregisterAction (s : CommandDispatcher) : Option Nat → CommandDispatcher
  | none => s
  | some declareActionClass =>
    let actions := s.getActionDescriptors declareActionClass
    let t := actions.foldl removeScheduler (actions.foldl removeAction s)
    { t with registered := t.registered.filter (· ≠ declareActionClass) }

/-- The action that is found by its domain and its name. -/
def findAction (s : CommandDispatcher) (domain name : String) : Option Nat :=
  (s.actionDomainExecutorMap.lookup domain).bind fun p => (s.domains p).getActionDescriptor name

inductive Label where
  | registerAction (declareActionClass : Option Nat)
  | deregisterAction (declareActionClass : Option Nat)
  deriving DecidableEq, Repr

def step (s : CommandDispatcher) : Label → Option CommandDispatcher
  | .registerAction declareActionClass => some (s.registerAction declareActionClass)
  | .deregisterAction declareActionClass => some (s.deregisterAction declareActionClass)

end CommandDispatcher

end chaos.common.dispatcher
