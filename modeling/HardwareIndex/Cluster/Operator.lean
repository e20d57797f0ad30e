import HardwareIndex.Cluster.Controller

/-!
# Operators

The indices of a cluster with the controllers that keep them current, on a time
of their own: what happens in the cluster is told to the controllers, which do
what is due when time passes. A controller that ends stops the operator.
-/

namespace HardwareIndex

/-- A site with the controllers that run on it. Times are in milliseconds. -/
structure Operator where
  site : Site
  controllers : PerKind fun R => Option (Controller R)
  now : Nat

namespace Operator

variable {R : Type} [Indexed R] [PerKind.Field R]

/-- With the site and the controller of a kind changed, if it runs. -/
def modify (p : Operator) (R : Type) [PerKind.Field R]
    (f : Site → Controller R → Site × Controller R) : Operator :=
  match p.controllers.get R with
  | none => p
  | some c =>
    let (site, c) := f p.site c
    { p with site, controllers := p.controllers.modify R fun _ => some c }

/-- Let the controller of a kind do what is to be done by a time. -/
def catchUp (p : Operator) (R : Type) [Indexed R] [PerKind.Field R] (limit : Nat) : Operator :=
  p.modify R fun s c =>
    c.catchUp limit (c.bound (limit - p.now) s.server.objects.length) s

/-- Let time pass. -/
def advance (p : Operator) (span : Nat) : Operator :=
  let limit := p.now + span
  let p := ((p.catchUp Machine limit).catchUp Bmc limit).catchUp MachineType limit
  { p with now := limit }

/-- Start the controller of a kind, which lists at once. -/
def start (p : Operator) (R : Type) [Indexed R] [PerKind.Field R] (space : Option String) :
    Operator :=
  let p := { p with
    controllers := p.controllers.modify R fun _ => some (Controller.new space p.now) }
  p.catchUp R p.now

/-- Tell the controller of a kind of an object. -/
def tell (p : Operator) (R : Type) [Indexed R] [PerKind.Field R] (isRemoved : Bool)
    (object : Json) : Operator :=
  let notice := Notice.ofObject (Observed.readers.get R) isRemoved object
  (p.modify R fun s c => (s, c.tell p.now notice)).catchUp R p.now

/-- Store an object and tell the controller of its kind. -/
def stored (p : Operator) (R : Type) [Indexed R] [PerKind.Field R] (name : ObjectName)
    (object : Json) : Operator :=
  { p with site.server := p.site.server.put (Indexed.kind R) name object }.tell R false object

/-- Remove an object and tell the controller of its kind. -/
def deleted (p : Operator) (R : Type) [Indexed R] [PerKind.Field R] (name : ObjectName)
    (object : Json) : Operator :=
  { p with site.server := p.site.server.remove (Indexed.kind R) name }.tell R true object

/-- Whether one of the controllers has ended. -/
def hasStopped (p : Operator) : Bool :=
  p.controllers.machines.any Controller.hasEnded ||
    p.controllers.bmcs.any Controller.hasEnded ||
    p.controllers.types.any Controller.hasEnded

/-- The requests and the warnings since they were last taken. -/
def takeReport (p : Operator) : Operator × List ClusterRequest × List Warning :=
  let (server, requests) := p.site.server.takeLog
  ({ p with site := { p.site with server, warnings := [] } }, requests, p.site.warnings)

/-- Set up the three indices, then start their controllers. A setup that fails ends it all. -/
def bootstrap (site : Site) (space : Option String) : Except StoreError Operator := do
  let (site, machines) := site.setupIndex Machine space
  let (site, bmcs) := site.setupIndex Bmc space
  let (site, types) := site.setupIndex MachineType space
  let _ ← machines
  let _ ← bmcs
  let _ ← types
  let p : Operator := ⟨site, ⟨none, none, none⟩, 0⟩
  return ((p.start Machine space).start Bmc space).start MachineType space

end Operator

end HardwareIndex
