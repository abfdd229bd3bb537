import CommunicationPlanner.StoreRecovery

namespace CommunicationPlanner

open ByteCodec OrderedCollections TransitionRun

/-!
# Chains of restarts

What a reachable coordinator saves need not be accepted again.  A coordinator
that has recovered from a store is better off: it has nothing that the format
cannot hold and no plan that claims to be executable, so what it saves is
accepted, and the next process recovers the same plans.  Recovery distrusts a
plan once; restarting again and again changes the epoch and nothing else.
-/

/-! ## The size of a saved state -/

theorem length_writeItems
    {α : Type}
    (write : α → List UInt8)
    (items : List α) :
    (writeItems write items).length =
      (writeU32 (UInt32.ofNat items.length)).length +
        (items.map fun item => (write item).length).sum := by
  rw [writeItems, List.length_append, List.length_flatMap]

/-- The state of a plan takes one byte, whatever it is. -/
theorem length_writeRecord
    (plan : CommunicationPlan)
    (first second : PlanState) :
    (writeRecord ⟨plan, first⟩).length =
      (writeRecord ⟨plan, second⟩).length := by
  simp only [writeRecord, List.length_flatten, List.map_cons, List.map_nil,
    List.sum_cons, List.sum_nil]
  rfl

/-- States of the same plans in any order are written in the same size. -/
theorem length_writeBody_eq
    {first second : StoreState}
    (plans :
      (first.plans.map fun record => record.plan).Perm
        (second.plans.map fun record => record.plan))
    (supersessions : first.supersessions = second.supersessions)
    (requests : first.requests = second.requests) :
    (writeBody first).length = (writeBody second).length := by
  have sizes :
      ∀ records : List StoreRecord,
        (records.map fun record => (writeRecord record).length) =
          (records.map fun record => record.plan).map fun plan =>
            (writeRecord ⟨plan, .requested⟩).length := by
    intro records
    rw [List.map_map]
    refine List.map_congr_left ?_
    rintro ⟨plan, state⟩ _
    exact length_writeRecord plan state .requested
  have counts : first.plans.length = second.plans.length := by
    simpa using plans.length_eq
  have planBytes :
      (writeItems writeRecord first.plans).length =
        (writeItems writeRecord second.plans).length := by
    rw [length_writeItems, length_writeItems, sizes, sizes, counts,
      (plans.map _).sum_eq]
  simp only [writeBody, List.length_flatten, List.map_cons, List.map_nil,
    List.sum_cons, List.sum_nil, planBytes, supersessions, requests]
  rfl

namespace Coordinator

variable
  {bytes : List UInt8}
  {stored : StoreState}

/-! ## A process that has just recovered -/

/-- The next process, started on what this one saves. -/
def restarted (state : Coordinator) : Coordinator :=
  start state.save.store

theorem restarted_eq
    (state : Coordinator) :
    restarted state =
      start (some (serializeStore (state.ledger.storeState state.epoch))) :=
  rfl

theorem epoch_start_of_parse
    (parsed : parseStore bytes = .ok stored) :
    (start (some bytes)).epoch = stored.epoch.next := by
  simp [start, loadStoreIfAny_of_parse parsed]

/-- It saves the plans it recovered, in the order of their identities. -/
theorem perm_plans_storeState_start
    (parsed : parseStore bytes = .ok stored)
    (epoch : CoordinatorEpoch) :
    ((start (some bytes)).ledger.storeState epoch).plans.Perm
      (conservativeRecovery stored).plans := by
  have distinct :
      ((conservativeRecovery stored).plans.map fun record =>
        record.plan.id).Nodup := by
    have sameIds :
        ((conservativeRecovery stored).plans.map fun record =>
            record.plan.id) =
          stored.plans.map fun record => record.plan.id := by
      simp only [conservativeRecovery, List.map_map]
      exact List.map_congr_left fun _ _ => rfl
    rw [sameIds]
    exact nodup_of_validateStore (validateStore_of_parseStore parsed)
  have adoptedDistinct :
      (((conservativeRecovery stored).plans.map adopted).map fun record =>
        record.plan.id).Nodup := by
    rw [List.map_map]
    exact distinct
  have savedDistinct :=
    nodup_ids_storeState (keyed_start (some bytes)) epoch
  refine (List.perm_ext_iff_of_nodup (savedDistinct.of_map _)
    (distinct.of_map _)).mpr ?_
  intro record
  rw [mem_plans_storeState, ledger_start_of_parse parsed, plans_recover]
  constructor
  · rintro ⟨planId, known, found, rfl⟩
    obtain ⟨member, _⟩ := mem_of_getElem?_indexBy found
    obtain ⟨old, inStore, rfl⟩ := List.mem_map.mp member
    exact inStore
  · intro inStore
    have found :=
      getElem?_indexBy_of_mem adoptedDistinct (List.mem_map_of_mem inStore)
    exact ⟨_, adopted record, found, rfl⟩

/-- What it recovered is not executable. -/
theorem recovered_eq_self
    {planId : CommunicationPlanId}
    {record : PlanRecord}
    {store : Option (List UInt8)}
    (found : (start store).ledger.plans[planId]? = some record) :
    recovered record = record := by
  obtain ⟨_, _, old, _, _, _, _, rfl⟩ := record_of_start found
  have twice :
      ∀ state : PlanState,
        recoveredState (recoveredState state) = recoveredState state := by
    intro state
    cases state <;> rfl
  simp only [recovered, twice]

theorem withinLimits_start
    (parsed : parseStore bytes = .ok stored) :
    WithinLimits (start (some bytes)) := by
  have held := heldBy_of_parseStore parsed
  have samePlans := perm_plans_storeState_start parsed
    (start (some bytes)).epoch
  have ledger := ledger_start_of_parse parsed
  have inStore :
      ∀ record ∈ ((start (some bytes)).ledger.storeState
          (start (some bytes)).epoch).plans,
        ∃ old ∈ stored.plans, old.plan = record.plan := by
    intro record member
    have recoveredMember := samePlans.mem_iff.mp member
    obtain ⟨old, known, rfl⟩ := List.mem_map.mp recoveredMember
    exact ⟨old, known, rfl⟩
  refine ⟨?_, ?_⟩
  · exact
      { plans := by
          rw [samePlans.length_eq]
          simpa [conservativeRecovery] using held.fits.plans
        everyPlan := by
          intro record member
          obtain ⟨old, known, same⟩ := inStore record member
          exact same ▸ held.fits.everyPlan old known
        supersessions := by
          rw [ledger]
          exact held.fits.supersessions
        requests := by
          rw [ledger]
          exact held.fits.requests
        everyRequest := by
          rw [ledger]
          exact held.fits.everyRequest
        bytes := by
          refine lt_of_eq_of_lt
            (@length_writeBody_eq _ stored ?_ ?_ ?_) held.fits.bytes
          · refine (samePlans.map _).trans (.of_eq ?_)
            simp only [conservativeRecovery, List.map_map]
            exact List.map_congr_left fun _ _ => rfl
          · rw [ledger]
            rfl
          · rw [ledger]
            rfl }
  · intro planId record found
    obtain ⟨_, state, old, isSome, sameParse, member, rfl, _⟩ :=
      record_of_start found
    cases isSome
    rw [parsed] at sameParse
    cases sameParse
    exact held.identified old member

theorem recoverable_start
    (parsed : parseStore bytes = .ok stored) :
    Recoverable (start (some bytes)) where
  requests := by
    rw [ledger_start_of_parse parsed]
    have valid := validateStore_of_parseStore parsed
    unfold validateStore at valid
    split at valid
    · cases valid
    · split_ifs at valid with distinct
      exact distinct
  claims := by
    intro planId record found executable
    obtain ⟨_, _, old, _, _, _, _, rfl⟩ := record_of_start found
    cases isState : old.state <;> simp [recoveredState, isState] at executable <;>
      cases executable
  costs := by
    intro planId record found
    obtain ⟨_, _, old, _, sameParse, member, _, rfl⟩ := record_of_start found
    have passed := recordRejection_of_parseStore sameParse member
    by_contra infinite
    rw [Bool.not_eq_true] at infinite
    simp [recordRejection, infinite] at passed

/-- The requests of a recovered process are stored as they are. -/
theorem persisted_storeState_start
    (parsed : parseStore bytes = .ok stored)
    (epoch : CoordinatorEpoch) :
    ((start (some bytes)).ledger.storeState epoch).persisted =
      (start (some bytes)).ledger.storeState epoch := by
  have held := heldBy_of_parseStore parsed
  have sameRequests :
      stored.requests.map CommunicationRequest.persisted = stored.requests :=
    congrArg StoreState.requests held.persisted
  rw [ledger_start_of_parse parsed]
  exact congrArg
    (fun requests =>
      { (Ledger.recover (conservativeRecovery stored)).storeState epoch with
        requests := requests })
    sameRequests

/-- What a recovered process saves is accepted as it is. -/
theorem parseStore_saved_start
    (parsed : parseStore bytes = .ok stored) :
    parseStore
        (serializeStore
          ((start (some bytes)).ledger.storeState
            (start (some bytes)).epoch)) =
      .ok
        ((start (some bytes)).ledger.storeState (start (some bytes)).epoch) := by
  have keyed := keyed_start (some bytes)
  have limits := withinLimits_start parsed
  have idle : ProcessRun defaultConfig (some bytes) [] _ := .nil
  have valid :=
    (validateStore_saved_iff keyed (plansChecked_of_run idle) limits).mpr
      (recoverable_start parsed)
  rw [parseStore_saved keyed limits, valid, persisted_storeState_start parsed]

/-- Recovery finds nothing left to distrust. -/
theorem conservativeRecovery_storeState_start
    (store : Option (List UInt8))
    (epoch : CoordinatorEpoch) :
    conservativeRecovery ((start store).ledger.storeState epoch) =
      (start store).ledger.storeState epoch := by
  have same :
      ((start store).ledger.storeState epoch).plans.map
          (fun record =>
            { record with state := recoveredState record.state }) =
        ((start store).ledger.storeState epoch).plans := by
    refine (List.map_congr_left ?_).trans (List.map_id _)
    intro record member
    obtain ⟨planId, known, found, rfl⟩ := mem_plans_storeState.mp member
    have trusted := congrArg PlanRecord.state (recovered_eq_self found)
    simp only [recovered] at trusted
    simp only [trusted, id_eq]
  unfold conservativeRecovery
  rw [same]

/-- The ledger of the next process. -/
theorem ledger_restarted
    (parsed : parseStore bytes = .ok stored) :
    (restarted (start (some bytes))).ledger =
      Ledger.recover
        ((start (some bytes)).ledger.storeState
          (start (some bytes)).epoch) := by
  rw [restarted_eq, ledger_start_of_parse (parseStore_saved_start parsed),
    conservativeRecovery_storeState_start]

theorem plans_restarted
    (parsed : parseStore bytes = .ok stored) :
    (restarted (start (some bytes))).ledger.plans =
      (start (some bytes)).ledger.plans := by
  apply Std.ExtTreeMap.ext_getElem?
  intro planId
  have recovers := plans_recover_saved (keyed_start (some bytes)) planId
  rw [persisted_storeState_start parsed,
    conservativeRecovery_storeState_start] at recovers
  rw [ledger_restarted parsed, recovers]
  cases found : (start (some bytes)).ledger.plans[planId]? with
  | none => rfl
  | some record => rw [Option.map_some, recovered_eq_self found]

/-- After any number of restarts the process is one that has just recovered. -/
private theorem recovered_of_restarts
    (accepted : parseStore bytes = .ok stored)
    (count : Nat) :
    ∃ saved state,
      restarted^[count] (start (some bytes)) = start (some saved) ∧
      parseStore saved = .ok state ∧
      state.epoch = Generation.next^[count] stored.epoch ∧
      (start (some saved)).ledger.plans =
        (start (some bytes)).ledger.plans ∧
      (start (some saved)).ledger.supersessions = stored.supersessions ∧
      (start (some saved)).ledger.requests = stored.requests := by
  induction count with
  | zero =>
      refine ⟨bytes, stored, rfl, accepted, rfl, rfl, ?_, ?_⟩
      · rw [ledger_start_of_parse accepted]
        rfl
      · rw [ledger_start_of_parse accepted]
        rfl
  | succ count inductionHypothesis =>
      obtain ⟨saved, state, reached, parsed, epoch, plans, supersessions,
        requests⟩ := inductionHypothesis
      have next := restarted_eq (start (some saved))
      refine ⟨_, _, ?_, parseStore_saved_start parsed, ?_, ?_, ?_, ?_⟩
      · rw [Function.iterate_succ_apply', reached, next]
      · rw [Function.iterate_succ_apply', ← epoch,
          ← epoch_start_of_parse parsed, Ledger.storeState]
      · rw [← next, plans_restarted parsed, plans]
      · rw [← next, ledger_restarted parsed, ← supersessions]
        rfl
      · rw [← next, ledger_restarted parsed, ← requests]
        rfl

/--
A coordinator that recovered from a store can be restarted any number of times.
Each process recovers from what the one before it saved, and has the same plans
in the same states, the same supersessions and the same requests; its epoch is
the next one.  From the second process on the whole ledger is the same.
-/
theorem restarts_change_only_the_epoch
    (accepted : parseStore bytes = .ok stored)
    (count : Nat) :
    let first := start (some bytes)
    let last := restarted^[count] first
    (∃ state,
      parseStore
          (serializeStore (last.ledger.storeState last.epoch)) = .ok state) ∧
    last.epoch = Generation.next^[count] first.epoch ∧
    last.ledger.plans = first.ledger.plans ∧
    last.ledger.supersessions = stored.supersessions ∧
    last.ledger.requests = stored.requests ∧
    (0 < count → last.ledger = (restarted first).ledger) := by
  intro first last
  obtain ⟨saved, state, reached, parsed, epoch, plans, supersessions,
    requests⟩ := recovered_of_restarts accepted count
  have isLast : last = start (some saved) := reached
  refine ⟨⟨_, isLast ▸ parseStore_saved_start parsed⟩, ?_, isLast ▸ plans,
    isLast ▸ supersessions, isLast ▸ requests, ?_⟩
  · rw [isLast, epoch_start_of_parse parsed, epoch]
    simp only [first, epoch_start_of_parse accepted]
    rw [← Function.iterate_succ_apply, Function.iterate_succ_apply']
  · intro positive
    obtain ⟨earlier, rfl⟩ := Nat.exists_eq_add_one_of_ne_zero
      (Nat.ne_of_gt positive)
    obtain ⟨before, _, reachedBefore, parsedBefore, _, samePlans,
      sameSupersessions, sameRequests⟩ := recovered_of_restarts accepted earlier
    have step : last = restarted (start (some before)) := by
      simp only [last, first, Function.iterate_succ_apply', reachedBefore]
    rw [step, ledger_restarted parsedBefore, ledger_restarted accepted]
    unfold Ledger.storeState
    rw [samePlans, sameSupersessions, sameRequests,
      ledger_start_of_parse accepted]
    rfl

/-- A store with a committed plan: the second restart changes nothing more. -/
theorem stored_plans_survive_two_restarts :
    ∃ bytes stored,
      parseStore bytes = .ok stored ∧
      stored.plans.length = 2 ∧
      (restarted (restarted (start (some bytes)))).ledger.plans =
        (start (some bytes)).ledger.plans ∧
      (restarted (restarted (start (some bytes)))).ledger =
        (restarted (start (some bytes))).ledger := by
  have fits : storedState.Fits := by
    decide +kernel
  have verdict :=
    parseStore_serializeStore fits (by decide +kernel) (by decide +kernel)
  rw [validateStore_persisted,
    show validateStore storedState = none by decide +kernel] at verdict
  have two : storedState.persisted.plans.length = 2 := rfl
  simp only at verdict
  generalize serializeStore storedState = bytes at verdict
  generalize storedState.persisted = stored at verdict two
  have stable := restarts_change_only_the_epoch verdict 2
  refine ⟨bytes, stored, verdict, two, ?_⟩
  generalize start (some bytes) = first at stable ⊢
  simp only [Function.iterate_succ_apply, Function.iterate_zero_apply]
    at stable
  exact ⟨stable.2.2.1, stable.2.2.2.2.2 two_pos⟩

end Coordinator

end CommunicationPlanner
