import CommunicationPlanner.DataModel

namespace CommunicationPlanner

/-!
# The in-memory resource broker

`MemoryResourceBroker` checks every requested resource against its capacity
before it adds anything, and a release forgets whatever is held of the released
resources.  Amounts are 64-bit and wrap around.
-/

/-- `MemoryResourceBroker`: capacities, and what is held of them. -/
structure MemoryResourceBroker where
  defaultCap : UInt64 := 2 ^ 30
  caps : Map ResourceId UInt64 := ∅
  held : Map ResourceId UInt64 := ∅
  failAfter : Int := -1

namespace MemoryResourceBroker

/-- `capacity`: the default where none is set. -/
def capacity
    (broker : MemoryResourceBroker)
    (resource : ResourceId) : UInt64 :=
  broker.caps[resource]?.getD broker.defaultCap

/-- The check of one requested amount. -/
def exceeds
    (broker : MemoryResourceBroker)
    (resource : ResourceId)
    (size : Bytes) : Bool :=
  match broker.held[resource]? with
  | some held => broker.capacity resource < held + size.count
  | none => broker.capacity resource < size.count

/-- Add one amount to what is held. -/
def hold
    (held : Map ResourceId UInt64)
    (resource : ResourceId)
    (size : Bytes) : Map ResourceId UInt64 :=
  held.insert resource (held[resource]?.getD 0 + size.count)

/-- The outcome of an acquire: the broker after it, and the error if it failed. -/
def acquire
    (broker : MemoryResourceBroker)
    (resources : List ResourceId)
    (sizes : List Bytes) : MemoryResourceBroker × Option Text :=
  if broker.failAfter = 0 then
    (broker, some (ascii "broker scripted acquire failure"))
  else
    let broker :=
      if 0 < broker.failAfter then
        { broker with failAfter := broker.failAfter - 1 }
      else
        broker
    let requested := resources.zip sizes
    if requested.any fun (resource, size) => broker.exceeds resource size then
      (broker, some (ascii "insufficient capacity"))
    else
      ({ broker with
          held := requested.foldl (fun held (resource, size) =>
            hold held resource size) broker.held },
        none)

/-- `release`: all that is held of each resource. -/
def release
    (broker : MemoryResourceBroker)
    (resources : List ResourceId) : MemoryResourceBroker :=
  { broker with
    held := resources.foldl (fun held resource => held.erase resource)
      broker.held }

end MemoryResourceBroker

end CommunicationPlanner
