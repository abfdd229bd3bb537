import Mathlib.Order.Basic
import Mathlib.Order.Compare
import Mathlib.Order.Nat
import Mathlib.Data.Finset.Basic

namespace CommunicationPlanner

/-!
# Identities, generations, units and text

Identities and generations are 64-bit values tagged by what they identify, as
in the class templates `Id<Tag>` and `Generation<Tag>`: values of different
tags cannot be mixed.  Zero is the null value of both.  A `std::string` is the
list of its bytes.
-/

/-- The template `Id<Tag>`. -/
structure Id (Tag : Type) where
  value : UInt64
  deriving Inhabited

/-- The template `Generation<Tag>`. -/
structure Generation (Tag : Type) where
  value : UInt64
  deriving Inhabited

namespace Id

variable {Tag : Type}

/-- Zero is the null identity. -/
def isNull (id : Id Tag) : Bool :=
  id.value == 0

/-- Identities are compared by value. -/
instance : LinearOrder (Id Tag) :=
  LinearOrder.lift' (fun id => id.value.toNat) (by
    rintro ⟨first⟩ ⟨second⟩ same
    exact congrArg Id.mk (UInt64.toNat_inj.mp same))

/-- The comparison of identities is transitive, as the ordered maps keyed by
them ask for. -/
instance instTransCmpCompare :
    Std.TransCmp (compare : Id Tag → Id Tag → Ordering) :=
  inferInstance

/-- The test for equal identities is exact, as the search of a list asks for. -/
instance instLawfulBEq :
    LawfulBEq (Id Tag) :=
  inferInstance

@[simp] theorem isNull_iff
    {id : Id Tag} :
    id.isNull = true ↔ id = ⟨0⟩ := by
  rcases id with ⟨value⟩
  simp [isNull]

end Id

namespace Generation

variable {Tag : Type}

/-- Zero is the null generation. -/
def isNull (generation : Generation Tag) : Bool :=
  generation.value == 0

/-- The next generation, wrapping around at `2 ^ 64`. -/
def next (generation : Generation Tag) : Generation Tag :=
  ⟨generation.value + 1⟩

theorem next_ne
    (generation : Generation Tag) :
    generation.next ≠ generation := by
  rcases generation with ⟨value⟩
  simp [next]

/-- Generations are compared by value. -/
instance : LinearOrder (Generation Tag) :=
  LinearOrder.lift' (fun generation => generation.value.toNat) (by
    rintro ⟨first⟩ ⟨second⟩ same
    exact congrArg Generation.mk (UInt64.toNat_inj.mp same))

@[simp] theorem isNull_iff
    {generation : Generation Tag} :
    generation.isNull = true ↔ generation = ⟨0⟩ := by
  rcases generation with ⟨value⟩
  simp [isNull]

end Generation

structure CommunicationRequestIdTag
structure CommunicationPlanIdTag
structure PathIdTag
structure StageIdTag
structure EndpointIdTag
structure ResourceIdTag
structure DeviceIdTag
structure NodeIdTag
structure CpuDomainIdTag
structure MemoryDomainIdTag
structure NicIdTag
structure LinkIdTag
structure WorkerIdTag
structure SourceIdTag

abbrev CommunicationRequestId := Id CommunicationRequestIdTag
abbrev CommunicationPlanId := Id CommunicationPlanIdTag
abbrev PathId := Id PathIdTag
abbrev StageId := Id StageIdTag
abbrev EndpointId := Id EndpointIdTag
abbrev ResourceId := Id ResourceIdTag
abbrev DeviceId := Id DeviceIdTag
abbrev NodeId := Id NodeIdTag
abbrev CpuDomainId := Id CpuDomainIdTag
abbrev MemoryDomainId := Id MemoryDomainIdTag
abbrev NicId := Id NicIdTag
abbrev LinkId := Id LinkIdTag
abbrev WorkerId := Id WorkerIdTag
abbrev SourceId := Id SourceIdTag

structure CommunicationRequestGenerationTag
structure CommunicationPlanGenerationTag
structure PathGenerationTag
structure StageGenerationTag
structure EndpointGenerationTag
structure LinkGenerationTag
structure TopologyGenerationTag
structure CapabilityGenerationTag
structure HealthGenerationTag
structure CapacityGenerationTag
structure ReservationGenerationTag
structure CongestionGenerationTag
structure PlacementGenerationTag
structure PolicyGenerationTag
structure WorkerBootIdTag
structure SourceBootIdTag
structure CoordinatorEpochTag
structure AuthorityGenerationTag
structure RevalidationGenerationTag

abbrev CommunicationRequestGeneration :=
  Generation CommunicationRequestGenerationTag
abbrev CommunicationPlanGeneration :=
  Generation CommunicationPlanGenerationTag
abbrev PathGeneration := Generation PathGenerationTag
abbrev StageGeneration := Generation StageGenerationTag
abbrev EndpointGeneration := Generation EndpointGenerationTag
abbrev LinkGeneration := Generation LinkGenerationTag
abbrev TopologyGeneration := Generation TopologyGenerationTag
abbrev CapabilityGeneration := Generation CapabilityGenerationTag
abbrev HealthGeneration := Generation HealthGenerationTag
abbrev CapacityGeneration := Generation CapacityGenerationTag
abbrev ReservationGeneration := Generation ReservationGenerationTag
abbrev CongestionGeneration := Generation CongestionGenerationTag
abbrev PlacementGeneration := Generation PlacementGenerationTag
abbrev PolicyGeneration := Generation PolicyGenerationTag
abbrev WorkerBootId := Generation WorkerBootIdTag
abbrev SourceBootId := Generation SourceBootIdTag
abbrev CoordinatorEpoch := Generation CoordinatorEpochTag
abbrev AuthorityGeneration := Generation AuthorityGenerationTag
abbrev RevalidationGeneration := Generation RevalidationGenerationTag

structure Bytes where
  count : UInt64
  deriving DecidableEq, Repr, Inhabited

structure BytesPerSecond where
  count : UInt64
  deriving DecidableEq, Repr, Inhabited

structure DurationNs where
  count : UInt64
  deriving DecidableEq, Repr, Inhabited

/-- A `std::string`: any sequence of bytes. -/
abbrev Text := List UInt8

/-- The bytes of a string literal; every literal of the source is ASCII. -/
def ascii (literal : String) : Text :=
  literal.toList.map fun character => UInt8.ofNat character.toNat

/-- `std::to_string` of an unsigned value. -/
def decimal (value : Nat) : Text :=
  (Nat.toDigits 10 value).map fun character => UInt8.ofNat character.toNat

/-- `Id::str`. -/
def Id.str (id : Id Tag) : Text :=
  decimal id.value.toNat

end CommunicationPlanner
