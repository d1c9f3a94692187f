-- The actions of a domain. A descriptor is shared by the object that declares the action and by the
-- domain, and is named by its address. It can fire while it is enabled.
import Mathlib.Data.List.AList

namespace chaos.common.action

structure AbstractActionDescriptor where
  actionDomain : String
  actionName : String
  fired : Bool := false
  enabled : Bool := true
  deriving DecidableEq, Repr

namespace AbstractActionDescriptor

/-- The flag that is stored, and returned. -/
def setFired (a : AbstractActionDescriptor) (fired : Bool) : Bool × AbstractActionDescriptor :=
  (fired && a.enabled, { a with fired := fired && a.enabled })

def setEnabled (a : AbstractActionDescriptor) (enabled : Bool) : AbstractActionDescriptor :=
  { a with enabled := enabled }

end AbstractActionDescriptor

abbrev Descriptors := Nat → AbstractActionDescriptor

structure DomainActions where
  domainName : String
  actionDescriptionsMap : AList fun _ : String => Nat := ∅

namespace DomainActions

/-- A name that is taken keeps its action. -/
def addActionDescriptor (s : DomainActions) (descriptors : Descriptors) (action : Nat) :
    DomainActions :=
  let a := descriptors action
  if a.actionDomain ≠ s.domainName ∨ a.actionName ∈ s.actionDescriptionsMap then s
  else { s with actionDescriptionsMap := s.actionDescriptionsMap.insert a.actionName action }

/-- The entry of the name is erased, whatever action it has. -/
def removeActionDescriptor (s : DomainActions) (descriptors : Descriptors) (action : Nat) :
    DomainActions × Descriptors :=
  let a := descriptors action
  if a.actionDomain ≠ s.domainName then (s, descriptors)
  else
    ({ s with actionDescriptionsMap := s.actionDescriptionsMap.erase a.actionName },
      Function.update descriptors action (a.setEnabled false))

def registeredActions (s : DomainActions) : Nat := s.actionDescriptionsMap.keys.length

/-- `hasActionName`, and the action of the name. -/
def getActionDescriptor (s : DomainActions) (actName : String) : Option Nat :=
  s.actionDescriptionsMap.lookup actName

end DomainActions

end chaos.common.action
