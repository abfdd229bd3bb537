import CommunicationPlanner.BrokerHoldings

namespace CommunicationPlanner

open PooledHoldings

/-!
# The accounts of the in-memory broker

What the broker has granted is recorded here call by call, in unbounded numbers
and until its release, beside the 64-bit amounts that the broker itself keeps.
The account is balanced while the two agree and no capacity is exceeded.  The
check of an acquire looks at one item at a time, against the amounts before the
call and in 64 bits, and so it covers what the call asks for only when no
resource is overdrawn by several of its items together or by one that wraps
around.
-/

/-- A call of the broker; an acquire passes a size for every resource. -/
inductive BrokerCall where
  | acquire (requested : List (ResourceId × Bytes))
  | release (resources : List ResourceId)

/-- What a list of items asks for, in unbounded numbers. -/
def asked (requested : List (ResourceId × Bytes)) :
    List (Entry Unit ResourceId) :=
  requested.map fun item => ⟨(), item.1, item.2.count.toNat⟩

/-- The broker, and what it has granted and not been told to release since. -/
structure BrokerAccount where
  broker : MemoryResourceBroker
  granted : List (Entry Unit ResourceId)

namespace BrokerAccount

/-- The account behind one call; what is granted is what the broker says. -/
def after (account : BrokerAccount) : BrokerCall → BrokerAccount
  | .acquire requested =>
      let result :=
        account.broker.acquire (requested.map Prod.fst)
          (requested.map Prod.snd)
      { broker := result.1
        granted :=
          if result.2.isNone then
            account.granted ++ asked requested
          else
            account.granted }
  | .release resources =>
      { broker := account.broker.release resources
        granted := clear account.granted resources }

/-- The account behind a list of calls. -/
def run (broker : MemoryResourceBroker) (calls : List BrokerCall) :
    BrokerAccount :=
  calls.foldl after ⟨broker, []⟩

/-- The broker holds exactly what it has granted, and no more than it has. -/
structure Balanced (account : BrokerAccount) : Prop where
  within :
    ∀ resource,
      total account.granted resource ≤
        (account.broker.capacity resource).toNat
  held :
    ∀ resource,
      (account.broker.heldOf resource).toNat = total account.granted resource

end BrokerAccount

namespace MemoryResourceBroker

/-- Every item passes the check on its own. -/
def Admits
    (broker : MemoryResourceBroker)
    (requested : List (ResourceId × Bytes)) : Prop :=
  broker.failAfter ≠ 0 ∧
    ∀ item ∈ requested, broker.exceeds item.1 item.2 = false

/--
What a call asks for, if its items pass one by one, fits together as well: with
what is held it stays within the capacity of each of the resources.
-/
def Covers (broker : MemoryResourceBroker) : BrokerCall → Prop
  | .acquire requested =>
      broker.Admits requested →
        ∀ resource ∈ requested.map Prod.fst,
          (broker.heldOf resource).toNat + total (asked requested) resource ≤
            (broker.capacity resource).toNat
  | .release _ => True

variable
  {broker : MemoryResourceBroker}
  {resources : List ResourceId}
  {requested : List (ResourceId × Bytes)}

/-! ## One call -/

theorem capacity_acquire
    (broker : MemoryResourceBroker)
    (resources : List ResourceId)
    (sizes : List Bytes)
    (resource : ResourceId) :
    (broker.acquire resources sizes).1.capacity resource =
      broker.capacity resource := by
  unfold acquire
  simp only
  split_ifs <;> rfl

/-- The countdown of scripted failures changes nothing that the check reads. -/
private theorem exceeds_countdown
    (broker : MemoryResourceBroker)
    (resource : ResourceId)
    (size : Bytes) :
    exceeds
        (if 0 < broker.failAfter then
          { broker with failAfter := broker.failAfter - 1 }
        else
          broker) resource size =
      broker.exceeds resource size := by
  split <;> rfl

theorem zip_map_fst_snd
    (requested : List (ResourceId × Bytes)) :
    (requested.map Prod.fst).zip (requested.map Prod.snd) = requested := by
  rw [List.zip_map']
  simp

/-- An acquire is granted when every item passes the check on its own. -/
theorem isNone_acquire_iff :
    (broker.acquire (requested.map Prod.fst)
        (requested.map Prod.snd)).2.isNone = true ↔
      broker.Admits requested := by
  unfold acquire Admits
  simp only [zip_map_fst_snd, exceeds_countdown]
  by_cases scripted : broker.failAfter = 0
  · simp [scripted]
  · rw [if_neg scripted]
    by_cases refused :
        (requested.any fun item => broker.exceeds item.1 item.2) = true
    · rw [if_pos refused]
      simp only [List.any_eq_true] at refused
      obtain ⟨item, member, exceeded⟩ := refused
      simp only [Option.isNone_some, Bool.false_eq_true, ne_eq, scripted,
        not_false_eq_true, true_and, false_iff, not_forall]
      exact ⟨item, member, by simp [exceeded]⟩
    · rw [if_neg refused]
      simpa [scripted] using refused

theorem total_asked_of_notMem
    {resource : ResourceId}
    (absent : resource ∉ requested.map Prod.fst) :
    total (asked requested) resource = 0 := by
  have nothing :
      (asked requested).filter (fun entry => entry.key = resource) = [] := by
    refine List.filter_eq_nil_iff.mpr ?_
    intro entry member same
    obtain ⟨item, inRequest, rfl⟩ := List.mem_map.mp member
    rw [decide_eq_true_eq] at same
    exact absent (List.mem_map.mpr ⟨item, inRequest, same⟩)
  rw [total, nothing]
  rfl

/-- Of a resource that is named once, the call asks for that one size. -/
theorem total_asked_of_nodup
    {item : ResourceId × Bytes}
    (distinct : (requested.map Prod.fst).Nodup)
    (member : item ∈ requested) :
    total (asked requested) item.1 = item.2.count.toNat := by
  induction requested with
  | nil =>
      cases member
  | cons first rest inductionHypothesis =>
      rw [List.map_cons, List.nodup_cons] at distinct
      change total ([_] ++ asked rest) _ = _
      rw [total_append]
      rcases List.mem_cons.mp member with rfl | later
      · rw [total_asked_of_notMem distinct.1]
        simp [total]
      · have other : first.1 ≠ item.1 := by
          intro same
          exact distinct.1 (same ▸ List.mem_map_of_mem later)
        rw [inductionHypothesis distinct.2 later]
        simp [total, other]

/-- A call that names no resource twice is covered, unless a sum wraps around. -/
theorem covers_of_distinct
    (distinct : (requested.map Prod.fst).Nodup)
    (fits :
      ∀ item ∈ requested,
        (broker.heldOf item.1).toNat + item.2.count.toNat < 2 ^ 64) :
    broker.Covers (.acquire requested) := by
  intro admits resource named
  obtain ⟨item, member, rfl⟩ := List.mem_map.mp named
  have passed := admits.2 item member
  have room := fits item member
  rw [total_asked_of_nodup distinct member]
  unfold exceeds at passed
  unfold heldOf at room ⊢
  cases found : broker.held[item.1]? with
  | none =>
      simp only [found, Option.getD_none, UInt64.toNat_zero, Nat.zero_add,
        decide_eq_false_iff_not, UInt64.not_lt] at passed ⊢
      exact UInt64.le_iff_toNat_le.mp passed
  | some held =>
      simp only [found, Option.getD_some, decide_eq_false_iff_not,
        UInt64.not_lt, UInt64.le_iff_toNat_le, UInt64.toNat_add]
        at passed room ⊢
      rwa [Nat.mod_eq_of_lt room] at passed

/-- An acquire that fails leaves every held amount as it is. -/
theorem heldOf_of_failed
    (resource : ResourceId)
    (failed :
      (broker.acquire (requested.map Prod.fst)
        (requested.map Prod.snd)).2.isSome = true) :
    (broker.acquire (requested.map Prod.fst)
        (requested.map Prod.snd)).1.heldOf resource =
      broker.heldOf resource := by
  have notNone :
      (broker.acquire (requested.map Prod.fst)
        (requested.map Prod.snd)).2.isNone = false := by
    simpa using failed
  rw [heldOf_acquire _ _ _ _ (), notNone]
  rfl

end MemoryResourceBroker

namespace BrokerAccount

open MemoryResourceBroker

variable {account : BrokerAccount}

theorem Balanced.release
    (balanced : account.Balanced)
    (resources : List ResourceId) :
    (account.after (.release resources)).Balanced := by
  constructor
  · intro resource
    have within := balanced.within resource
    simp only [after, total_clear]
    split_ifs
    · exact Nat.zero_le _
    · exact within
  · intro resource
    have held := balanced.held resource
    simp only [after, total_clear, heldOf_release]
    split_ifs
    · rfl
    · exact held

/-- A refused acquire leaves the account as it is. -/
theorem Balanced.refused
    {requested : List (ResourceId × Bytes)}
    (balanced : account.Balanced)
    (refused : ¬account.broker.Admits requested) :
    (account.after (.acquire requested)).Balanced := by
  have notNone :
      (account.broker.acquire (requested.map Prod.fst)
        (requested.map Prod.snd)).2.isNone = false := by
    rw [← Bool.not_eq_true, isNone_acquire_iff]
    exact refused
  constructor
  · intro resource
    simp only [after, notNone, Bool.false_eq_true, if_false,
      capacity_acquire]
    exact balanced.within resource
  · intro resource
    simp only [after, notNone, Bool.false_eq_true, if_false]
    rw [heldOf_acquire _ _ _ _ (), notNone]
    exact balanced.held resource

/-- A granted acquire adds what it asks for to the account. -/
theorem granted_after
    {requested : List (ResourceId × Bytes)}
    (admits : account.broker.Admits requested) :
    (account.after (.acquire requested)).granted =
      account.granted ++ asked requested := by
  simp only [after, isNone_acquire_iff.mpr admits, if_true]

theorem heldOf_after
    {requested : List (ResourceId × Bytes)}
    (admits : account.broker.Admits requested)
    (resource : ResourceId) :
    (account.after (.acquire requested)).broker.heldOf resource =
      account.broker.heldOf resource +
        UInt64.ofNat (total (asked requested) resource) := by
  simp only [after]
  rw [heldOf_acquire _ _ _ _ (), isNone_acquire_iff.mpr admits,
    zip_map_fst_snd]
  rfl

theorem capacity_after
    (requested : List (ResourceId × Bytes))
    (resource : ResourceId) :
    (account.after (.acquire requested)).broker.capacity resource =
      account.broker.capacity resource :=
  capacity_acquire _ _ _ _

/-- A granted acquire keeps the balance when all it asks for fits together. -/
theorem Balanced.granted_iff
    {requested : List (ResourceId × Bytes)}
    (balanced : account.Balanced)
    (admits : account.broker.Admits requested) :
    (account.after (.acquire requested)).Balanced ↔
      ∀ resource,
        (account.broker.heldOf resource).toNat +
            total (asked requested) resource ≤
          (account.broker.capacity resource).toNat := by
  constructor
  · intro balancedAfter resource
    have within := balancedAfter.within resource
    rwa [granted_after admits, total_append, capacity_after,
      ← balanced.held resource] at within
  · intro fits
    constructor
    · intro resource
      rw [granted_after admits, total_append, capacity_after,
        ← balanced.held resource]
      exact fits resource
    · intro resource
      have bounded := (account.broker.capacity resource).toNat_lt
      have room := fits resource
      rw [heldOf_after admits, granted_after admits, total_append,
        UInt64.toNat_add, UInt64.toNat_ofNat', ← balanced.held resource,
        Nat.add_mod_mod, Nat.mod_eq_of_lt (by omega)]

/-- A call keeps a balanced account balanced exactly when the broker covers it. -/
theorem Balanced.after_iff
    (balanced : account.Balanced)
    (call : BrokerCall) :
    (account.after call).Balanced ↔ account.broker.Covers call := by
  cases call with
  | release resources =>
      exact iff_of_true (balanced.release resources) trivial
  | acquire requested =>
      by_cases admits : account.broker.Admits requested
      · rw [balanced.granted_iff admits]
        constructor
        · intro fits _ resource _
          exact fits resource
        · intro covers resource
          by_cases named : resource ∈ requested.map Prod.fst
          · exact covers admits resource named
          · rw [total_asked_of_notMem named, balanced.held]
            exact balanced.within resource
      · exact iff_of_true (balanced.refused admits)
          (fun admitted => absurd admitted admits)

/-! ## A whole run -/

theorem balanced_nil
    (defaultCap : UInt64)
    (caps : Map ResourceId UInt64)
    (failAfter : Int) :
    (run { defaultCap, caps, failAfter } []).Balanced := by
  constructor
  · intro resource
    exact Nat.zero_le _
  · intro resource
    rfl

theorem run_append_singleton
    (broker : MemoryResourceBroker)
    (calls : List BrokerCall)
    (call : BrokerCall) :
    run broker (calls ++ [call]) = (run broker calls).after call := by
  simp [run]

end BrokerAccount

open BrokerAccount MemoryResourceBroker

/--
From an empty broker, the account is balanced after every call exactly when
the broker covers every call it is given; and an acquire that fails never
changes a held amount.
-/
theorem broker_stays_balanced_iff
    (defaultCap : UInt64)
    (caps : Map ResourceId UInt64)
    (failAfter : Int)
    (calls : List BrokerCall) :
    let start : MemoryResourceBroker := { defaultCap, caps, failAfter }
    ((∀ earlier, earlier <+: calls → (run start earlier).Balanced) ↔
      ∀ earlier call, earlier ++ [call] <+: calls →
        (run start earlier).broker.Covers call) ∧
    ∀ earlier requested, earlier ++ [.acquire requested] <+: calls →
      ((run start earlier).broker.acquire (requested.map Prod.fst)
        (requested.map Prod.snd)).2.isSome = true →
      ∀ resource,
        (run start (earlier ++ [.acquire requested])).broker.heldOf resource =
          (run start earlier).broker.heldOf resource := by
  intro start
  refine ⟨⟨?_, ?_⟩, ?_⟩
  · intro everywhere earlier call isPrefix
    have before := everywhere earlier
      ((List.prefix_append earlier [call]).trans isPrefix)
    have after := everywhere _ isPrefix
    rw [run_append_singleton] at after
    exact (before.after_iff call).mp after
  · intro covers earlier isPrefix
    induction earlier using List.reverseRecOn with
    | nil =>
        exact balanced_nil defaultCap caps failAfter
    | append_singleton done call inductionHypothesis =>
        have before := inductionHypothesis
          ((List.prefix_append done [call]).trans isPrefix)
        rw [run_append_singleton]
        exact (before.after_iff call).mpr (covers done call isPrefix)
  · intro earlier requested _ failed resource
    rw [run_append_singleton]
    exact heldOf_of_failed resource failed

/-- A call that names a resource twice. -/
def doubledAcquire : List BrokerCall :=
  [.acquire [(⟨7⟩, ⟨600⟩), (⟨7⟩, ⟨600⟩)]]

/-- Two calls, of which the second wraps the amount held around. -/
def wrappedAcquire : List BrokerCall :=
  [.acquire [(⟨7⟩, ⟨1⟩)], .acquire [(⟨7⟩, ⟨18446744073709551615⟩)]]

/--
Of a capacity of 1000, two items of one call are granted 1200, and two calls
`2 ^ 64`, after which the broker holds nothing.
-/
theorem doubled_and_wrapped_acquires_are_granted :
    let start : MemoryResourceBroker := { defaultCap := 1000 }
    (total (run start doubledAcquire).granted ⟨7⟩ = 1200 ∧
      (run start doubledAcquire).broker.capacity ⟨7⟩ = 1000) ∧
    (total (run start wrappedAcquire).granted ⟨7⟩ = 2 ^ 64 ∧
      (run start wrappedAcquire).broker.heldOf ⟨7⟩ = 0 ∧
      (run start wrappedAcquire).broker.capacity ⟨7⟩ = 1000) := by
  decide +kernel

end CommunicationPlanner
