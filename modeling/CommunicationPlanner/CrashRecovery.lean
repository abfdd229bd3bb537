import CommunicationPlanner.RestartChains

namespace CommunicationPlanner

open TransitionRun

/-!
# Crashes

A coordinator may die at any point.  The next one is started on the file as it
stands then: as the last save wrote it, or as this process found it when it
never saved.  A process that dies while it writes the file leaves the beginning
of what it was writing, which nobody takes for a store.
-/

namespace Coordinator

variable
  {config : Config}
  {store : Option (List UInt8)}
  {trace : List CoordinatorStep}
  {before after state saved final : Coordinator}
  {event : Event}
  {actions : List Action}

/-! ## The file during a run -/

/-- The event writes the file. -/
def writesStore : Event → Bool
  | .saveStore => true
  | .receive _ message => message.type = .save
  | _ => false

/-- The state that a step writes to the file. -/
def saved? (step : CoordinatorStep) : Option Coordinator :=
  if writesStore step.event then some step.before else none

/-- The state that the file was last written from. -/
def lastSaved (trace : List CoordinatorStep) : Option Coordinator :=
  latest? saved? trace

@[simp] theorem store_resume
    (state : Coordinator)
    (socket : Socket) :
    (state.resume socket).store = state.store := by
  unfold resume
  split
  · split_ifs <;> rfl
  · rfl

@[simp] theorem epoch_resume
    (state : Coordinator)
    (socket : Socket) :
    (state.resume socket).epoch = state.epoch := by
  unfold resume
  split
  · split_ifs <;> rfl
  · rfl

/-- Handling a message changes the file by a save alone, and never the epoch. -/
theorem persistent_handleMessage
    (state : Coordinator)
    (socket : Socket)
    (message : Message) :
    (handleMessage config state socket message).1.store =
        (if message.type = .save then state.save.store else state.store) ∧
      (handleMessage config state socket message).1.epoch = state.epoch := by
  unfold handleMessage
  cases message.type with
  | submitRequest =>
      simp only [submit]
      split <;> exact ⟨rfl, rfl⟩
  | commitRequest =>
      simp only [beginCommit]
      split <;> exact ⟨rfl, rfl⟩
  | _ => exact ⟨rfl, rfl⟩

/-- The file changes by a save alone. -/
theorem store_of_step?
    (stepped : step? config before event = some (after, actions)) :
    after.store =
      if writesStore event then before.save.store else before.store := by
  cases taken_of_step? stepped with
  | receive socket message listening =>
      rw [store_resume, (persistent_handleMessage _ _ _).1]
      simp [writesStore]
  | accept | undecodable | acquire | finish | disconnect | saveStore =>
      simp [writesStore]

/-- A process keeps the epoch that it started with. -/
theorem epoch_of_step?
    (stepped : step? config before event = some (after, actions)) :
    after.epoch = before.epoch := by
  cases taken_of_step? stepped with
  | receive socket message listening =>
      rw [epoch_resume, (persistent_handleMessage _ _ _).2]
  | accept | undecodable | acquire | finish | disconnect | saveStore =>
      simp [save]

theorem epoch_of_run
    (run : ProcessRun config store trace final) :
    final.epoch = (start store).epoch :=
  run.invariant (fun state => state.epoch = (start store).epoch) rfl
    fun _ _ stepped same => (epoch_of_step? stepped).trans same

/-- The file is as the last save wrote it, or as the process found it. -/
theorem store_of_run
    (run : ProcessRun config store trace final) :
    final.store =
      match lastSaved trace with
      | some saved => saved.save.store
      | none => store := by
  induction run with
  | nil =>
      rfl
  | snoc earlier last inductionHypothesis =>
      rw [store_of_step? last]
      simp only [lastSaved, latest?_snoc, saved?]
      split_ifs
      · rfl
      · exact inductionHypothesis

/-- What was last saved was reached. -/
theorem run_of_lastSaved
    (run : ProcessRun config store trace final)
    (isSaved : lastSaved trace = some saved) :
    ∃ past, ProcessRun config store past saved := by
  induction run with
  | nil =>
      cases isSaved
  | @snoc before _ past event _ earlier last inductionHypothesis =>
      simp only [lastSaved, latest?_snoc, saved?] at isSaved
      split_ifs at isSaved with writes
      · cases isSaved
        exact ⟨past, earlier⟩
      · exact inductionHypothesis isSaved

/-! ## The next process -/

/-- The process knows nothing of those before it. -/
structure Fresh (state : Coordinator) : Prop where
  ledger : state.ledger = {}
  epoch : state.epoch = ⟨1⟩

/--
The process has what the earlier one saved, with no plan left executable, and
the epoch after its epoch.
-/
structure TakesOver (saved next : Coordinator) : Prop where
  plans :
    ∀ planId : CommunicationPlanId,
      next.ledger.plans[planId]? = saved.ledger.plans[planId]?.map recovered
  supersessions : next.ledger.supersessions = saved.ledger.supersessions
  requests :
    next.ledger.requests =
      saved.ledger.requests.map CommunicationRequest.persisted
  epoch : next.epoch = saved.epoch.next

/-- The file after a crash in the middle of a save. -/
def torn (state : Coordinator) (count : Nat) : List UInt8 :=
  (serializeStore (state.ledger.storeState state.epoch)).take count

theorem fresh_of_refused
    {bytes : List UInt8}
    {error : PersistError}
    (refused : parseStore bytes = .error error) :
    Fresh (start (some bytes)) := by
  cases bytes with
  | nil =>
      exact ⟨rfl, rfl⟩
  | cons byte rest =>
      exact ⟨by simp [start, loadStoreIfAny, refused],
        by simp [start, loadStoreIfAny, refused]⟩

/-- What is left of a save that was cut short is refused. -/
theorem fresh_start_torn
    {count : Nat}
    (buffered :
      (serializeStore (state.ledger.storeState state.epoch)).length < 2 ^ 64)
    (short :
      count <
        (serializeStore (state.ledger.storeState state.epoch)).length) :
    Fresh (start (some (state.torn count))) := by
  cases verdict : parseStore (state.torn count) with
  | error error =>
      exact fresh_of_refused verdict
  | ok accepted =>
      obtain ⟨payload, isFrame, bounded, _⟩ := framed_of_parseStore verdict
      exact (not_framed_of_altered buffered (.cut count short) bounded
        isFrame).elim

/-- A saved state is taken over if it is recoverable, and else forgotten. -/
theorem takesOver_or_fresh
    (run : ProcessRun config store trace saved)
    (limits : WithinLimits saved) :
    (Recoverable saved → TakesOver saved (start saved.save.store)) ∧
    (¬Recoverable saved → Fresh (start saved.save.store)) := by
  have keyed := keyed_of_run run
  have parsed := parseStore_saved keyed limits
  have valid :=
    validateStore_saved_iff keyed (plansChecked_of_run run) limits
  constructor
  · intro recoverable
    rw [valid.mpr recoverable] at parsed
    have ledger :
        (start saved.save.store).ledger =
          Ledger.recover (conservativeRecovery
            (saved.ledger.storeState saved.epoch).persisted) :=
      ledger_start_of_parse parsed
    refine ⟨?_, ?_, ?_, epoch_start_of_parse parsed⟩
    · intro planId
      rw [ledger]
      exact plans_recover_saved keyed planId
    · rw [ledger]
      rfl
    · rw [ledger]
      rfl
  · intro unrecoverable
    cases verdict :
        validateStore (saved.ledger.storeState saved.epoch).persisted with
    | none =>
        exact (unrecoverable (valid.mp verdict)).elim
    | some error =>
        rw [verdict] at parsed
        exact fresh_of_refused parsed

end Coordinator

end CommunicationPlanner
