import CommunicationPlanner.HandoffFeasibility
import Mathlib.Logic.Relation

namespace CommunicationPlanner

open OrderedCollections TransitionRun

/-!
# Plans that replace one another

A newer plan of a request is meant to supersede the older ones.  Two handlers
bear on it.  `SUBMIT_REQUEST` makes the new plan the current one of its request
and leaves the older plans as they are.  `SUPERSEDE` closes the plan it names
and then, if the request has another current plan, closes that one too and
records the named plan as its successor; but the current plan of a request is
the one that was made last.
-/

/-- Neither done nor withdrawn. -/
def PlanState.unresolved : PlanState → Bool
  | .completed | .cancelled | .failed | .superseded | .retired => false
  | _ => true

namespace Coordinator

variable
  {config : Config}
  {store : Option (List UInt8)}
  {trace : List CoordinatorStep}
  {before after state final : Coordinator}
  {event : Event}
  {actions : List Action}

/-! ## The plan under an identity -/

/-- The plan in the table, without its state. -/
def plan?
    (state : Coordinator)
    (planId : CommunicationPlanId) : Option CommunicationPlan :=
  state.ledger.plans[planId]?.map fun record => record.plan

/-- The plan under an identity stays, unless the identity is drawn again. -/
theorem plan?_of_step?
    {planId : CommunicationPlanId}
    (stepped : step? config before event = some (after, actions))
    (undrawn : before.drawn? config event ≠ some planId) :
    after.plan? planId = before.plan? planId := by
  have change : PlanStep config before planId event
      after.ledger.plans[planId]? := planStep_of_step? stepped
  unfold plan?
  generalize after.ledger.plans[planId]? = result at change
  cases change with
  | same =>
      rfl
  | written old new known writes =>
      rw [known]
      rfl
  | entered socket message plan received kind produced open_ named drawn =>
      exact (undrawn drawn).elim

/-! ## The direction of supersessions -/

/-- The record that a `SUPERSEDE` adds about the current plan of its request. -/
def supersession?
    (state : Coordinator) : Event → Option SupersessionRecord
  | .receive _ message =>
      if message.type = .supersede then
        match state.ledger.currentByRequest[message.requestId]? with
        | none => none
        | some current =>
            if current ≠ message.planId ∧
                current ∈ state.ledger.plans then
              some ⟨current, message.planId⟩
            else
              none
      else
        none
  | _ => none

/-- Closing the named plan changes neither the plans held nor the records. -/
theorem supersedeNamed_frame
    (ledger : Ledger)
    (id : CommunicationPlanId) :
    let handled := (ledger.supersedeNamed id).1
    handled.currentByRequest = ledger.currentByRequest ∧
      handled.supersessions = ledger.supersessions ∧
      ∀ planId, planId ∈ handled.plans ↔ planId ∈ ledger.plans := by
  unfold Ledger.supersedeNamed
  split
  · simp
  · rename_i record found
    split
    · refine ⟨rfl, rfl, ?_⟩
      intro planId
      have held : id ∈ ledger.plans :=
        Std.ExtTreeMap.mem_iff_isSome_getElem?.mpr (by simp [found])
      simp only [Ledger.plans_release, Ledger.setState,
        Std.ExtTreeMap.mem_insert, Std.LawfulEqCmp.compare_eq_iff_eq]
      constructor
      · rintro (same | member)
        · exact same ▸ held
        · exact member
      · exact .inr
    · simp

private theorem supersessions_supersede
    {socket : Socket}
    {message : Message}
    (kind : message.type = .supersede) :
    (before.ledger.handleSupersede socket message).1.supersessions =
      before.ledger.supersessions ++
        (before.supersession? (.receive socket message)).toList := by
  obtain ⟨sameCurrent, sameRecords, sameIds⟩ :=
    supersedeNamed_frame before.ledger message.planId
  simp only [Ledger.handleSupersede, Ledger.supersedeOlder, supersession?,
    kind, if_true, sameCurrent]
  cases before.ledger.currentByRequest[message.requestId]? with
  | none =>
      simpa using sameRecords
  | some current =>
      by_cases isNamed : current = message.planId
      · simpa [isNamed] using sameRecords
      · have held := sameIds current
        simp only [isNamed, if_false, ne_eq, not_false_eq_true, true_and,
          ← held, Std.ExtTreeMap.mem_iff_isSome_getElem?]
        cases (before.ledger.supersedeNamed
            message.planId).1.plans[current]? with
        | none =>
            simpa using sameRecords
        | some record =>
            simp [sameRecords]

/-- Only a `SUPERSEDE` adds a record, and at most one. -/
theorem supersessions_of_step?
    (stepped : step? config before event = some (after, actions)) :
    after.ledger.supersessions =
      before.ledger.supersessions ++ (before.supersession? event).toList := by
  cases taken_of_step? stepped with
  | receive socket message listening =>
      rw [ledger_resume]
      by_cases supersedes : message.type = .supersede
      · simp only [handleMessage, supersedes, withLedger]
        exact supersessions_supersede supersedes
      have nothing :
          before.supersession? (.receive socket message) = none := by
        simp [supersession?, supersedes]
      rw [nothing, Option.toList_none, List.append_nil]
      by_cases cancels : message.type = .cancel
      · simp only [handleMessage, cancels, withLedger, Ledger.handleCancel]
        split
        · rfl
        · split <;> split <;> rfl
      · exact (ledger_frame_handleMessage cancels supersedes).2.2
  | finish socket commit failure busy =>
      rw [ledger_resume]
      simp only [Ledger.finishCommit, supersession?, Option.toList_none,
        List.append_nil]
      split
      · split <;> rfl
      · split
        · split <;> rfl
        · split <;> rfl
  | accept | undecodable =>
      rw [ledger_resume]
      simp [supersession?]
  | acquire | disconnect | saveStore =>
      simp [supersession?, save]

/-- The record leads from a plan to a later plan of the same request. -/
def PointsForward
    (state : Coordinator)
    (entry : SupersessionRecord) : Prop :=
  ∃ older newer,
    state.plan? entry.superseded = some older ∧
    state.plan? entry.newer = some newer ∧
    older.requestId = newer.requestId ∧
    older.generation < newer.generation

instance
    (state : Coordinator)
    (entry : SupersessionRecord) :
    Decidable (state.PointsForward entry) :=
  decidable_of_iff
    ((state.plan? entry.superseded).any (fun older =>
      (state.plan? entry.newer).any fun newer =>
        older.requestId = newer.requestId &&
          older.generation < newer.generation) = true)
    (by simp [PointsForward, Option.any_eq_true])

/-- A plan has been superseded by another one. -/
def SupersededBy
    (state : Coordinator)
    (superseded newer : CommunicationPlanId) : Prop :=
  ⟨superseded, newer⟩ ∈ state.ledger.supersessions

/-- No plan of the same request has a later generation. -/
def IsNewest
    (state : Coordinator)
    (plan : CommunicationPlan) : Prop :=
  ∀ planId other,
    state.plan? planId = some other →
    other.requestId = plan.requestId →
    other.generation ≤ plan.generation

/-- Supersessions lead from older plans to newer ones. -/
structure SupersessionsOrdered (state : Coordinator) : Prop where
  forward : ∀ entry ∈ state.ledger.supersessions, state.PointsForward entry
  acyclic : ∀ planId, ¬Relation.TransGen state.SupersededBy planId planId
  newest :
    ∀ entry ∈ state.ledger.supersessions, ∀ newest successor,
      state.plan? entry.superseded = some newest →
      state.IsNewest newest →
      state.planState? entry.superseded = some .superseded →
      state.plan? entry.newer = some successor →
      successor.requestId = newest.requestId →
      ¬successor.generation < newest.generation

/-- The generation under an identity; without a plan it does not matter. -/
def generationOf
    (state : Coordinator)
    (planId : CommunicationPlanId) : CommunicationPlanGeneration :=
  match state.plan? planId with
  | none => ⟨0⟩
  | some plan => plan.generation

theorem PointsForward.generationOf_lt
    {entry : SupersessionRecord}
    (forward : state.PointsForward entry) :
    state.generationOf entry.superseded < state.generationOf entry.newer := by
  obtain ⟨older, newer, olderFound, newerFound, _, later⟩ := forward
  simpa [generationOf, olderFound, newerFound] using later

/-- Records that all lead to later generations cannot close a circle. -/
theorem supersessionsOrdered_of_forward
    (forward :
      ∀ entry ∈ state.ledger.supersessions, state.PointsForward entry) :
    SupersessionsOrdered state := by
  refine ⟨forward, ?_, ?_⟩
  · intro planId circle
    have ascending :
        Relation.TransGen (fun earlier later => earlier < later)
          (state.generationOf planId) (state.generationOf planId) := by
      refine circle.lift state.generationOf ?_
      intro superseded newer recorded
      exact (forward _ recorded).generationOf_lt
    rw [Relation.transGen_eq_self] at ascending
    exact lt_irrefl _ ascending
  · intro entry member newest successor newestFound _ _ successorFound _ older
    obtain ⟨first, second, firstFound, secondFound, _, later⟩ :=
      forward entry member
    rw [newestFound] at firstFound
    rw [successorFound] at secondFound
    cases firstFound
    cases secondFound
    exact lt_asymm later older

/-- The step gives no identity away that a supersession names. -/
def keepsSuperseded (config : Config) (step : CoordinatorStep) : Bool :=
  step.before.ledger.supersessions.all fun entry =>
    step.before.drawn? config step.event ≠ some entry.superseded &&
      step.before.drawn? config step.event ≠ some entry.newer

/-- The direction of a record stays, unless one of its identities is drawn. -/
theorem pointsForward_of_step?
    {entry : SupersessionRecord}
    (stepped : step? config before event = some (after, actions))
    (supersededKept : before.drawn? config event ≠ some entry.superseded)
    (newerKept : before.drawn? config event ≠ some entry.newer) :
    after.PointsForward entry ↔ before.PointsForward entry := by
  unfold PointsForward
  rw [plan?_of_step? stepped supersededKept, plan?_of_step? stepped newerKept]

/-- A message that adds a record draws no identity. -/
theorem undrawn_of_supersession?
    {entry : SupersessionRecord}
    (adds : before.supersession? event = some entry)
    (planId : CommunicationPlanId) :
    before.drawn? config event ≠ some planId := by
  cases event with
  | receive socket message =>
      simp only [supersession?] at adds
      split_ifs at adds with supersedes
      simp [drawn?, supersedes]
  | accept | undecodable | acquire | finish | disconnect | saveStore =>
      simp [drawn?]

theorem forward_of_step?_iff
    {step : CoordinatorStep}
    (stepped :
      step? config step.before step.event = some (step.after, step.outputs))
    (kept : keepsSuperseded config step = true) :
    (∀ entry ∈ step.after.ledger.supersessions,
      step.after.PointsForward entry) ↔
    (∀ entry ∈ step.before.ledger.supersessions,
      step.before.PointsForward entry) ∧
    ∀ entry, step.before.supersession? step.event = some entry →
      step.before.PointsForward entry := by
  have old :
      ∀ entry ∈ step.before.ledger.supersessions,
        (step.after.PointsForward entry ↔
          step.before.PointsForward entry) := by
    intro entry member
    have undrawn := List.all_eq_true.mp kept entry member
    simp only [Bool.and_eq_true, decide_eq_true_eq] at undrawn
    exact pointsForward_of_step? stepped undrawn.1 undrawn.2
  have added :
      ∀ entry, step.before.supersession? step.event = some entry →
        (step.after.PointsForward entry ↔
          step.before.PointsForward entry) := by
    intro entry adds
    exact pointsForward_of_step? stepped
      (undrawn_of_supersession? adds _) (undrawn_of_supersession? adds _)
  rw [supersessions_of_step? stepped]
  simp only [List.mem_append, Option.mem_toList]
  constructor
  · intro forward
    refine ⟨?_, ?_⟩
    · intro entry member
      exact (old entry member).mp (forward entry (.inl member))
    · intro entry adds
      exact (added entry adds).mp (forward entry (.inr adds))
  · rintro ⟨oldForward, addedForward⟩ entry (member | adds)
    · exact (old entry member).mpr (oldForward entry member)
    · exact (added entry adds).mpr (addedForward entry adds)

/--
In a run that gives no superseded identity away, supersessions lead from older
plans to newer ones in every state exactly when the recovered ones do and every
`SUPERSEDE` that adds one names a later plan of the request.
-/
theorem supersessions_are_ordered_iff
    (run : ProcessRun config store trace final)
    (kept : ∀ step ∈ trace, keepsSuperseded config step = true) :
    (SupersessionsOrdered (start store) ∧
      ∀ step ∈ trace, SupersessionsOrdered step.after) ↔
    (∀ entry ∈ (start store).ledger.supersessions,
      (start store).PointsForward entry) ∧
    ∀ step ∈ trace, ∀ entry,
      step.before.supersession? step.event = some entry →
      step.before.PointsForward entry := by
  constructor
  · rintro ⟨initially, throughout⟩
    refine ⟨initially.forward, ?_⟩
    intro step member
    exact ((forward_of_step?_iff (run.step_of_mem member)
      (kept step member)).mp (throughout step member).forward).2
  · rintro ⟨initially, adds⟩
    refine ⟨supersessionsOrdered_of_forward initially, ?_⟩
    intro step member
    have beforeStep :
        ∀ entry ∈ step.before.ledger.supersessions,
          step.before.PointsForward entry := by
      refine run.invariant_before
        (fun state =>
          ∀ entry ∈ state.ledger.supersessions, state.PointsForward entry)
        initially ?_ member
      intro earlier inTrace stepped forward
      exact (forward_of_step?_iff stepped (kept earlier inTrace)).mpr
        ⟨forward, adds earlier inTrace⟩
    exact supersessionsOrdered_of_forward
      ((forward_of_step?_iff (run.step_of_mem member)
        (kept step member)).mpr ⟨beforeStep, adds step member⟩)

/--
A recovered plan has a later generation than the one that the new process makes
of its request, and supersedes it.
-/
theorem recovered_plan_supersedes_in_order :
    ∃ store trace final,
      ProcessRun defaultConfig store trace final ∧
      final.ledger.supersessions = [⟨⟨1⟩, ⟨2⟩⟩] ∧
      SupersessionsOrdered (start store) ∧
      ∀ step ∈ trace, SupersessionsOrdered step.after := by
  have checked :
      (replay? (step? defaultConfig) (start none)
        (deployment ⟨4⟩ ⟨1⟩ ++
          receiveAll ⟨4⟩
            [ CoordinatorClient.submitRequest (miscountedRequest ⟨7⟩),
              CoordinatorClient.submitRequest (directRequest ⟨5⟩),
              CoordinatorClient.save ])).any
        (fun saved =>
          (start saved.2.store).ledger.supersessions = [] &&
          (replay? (step? defaultConfig) (start saved.2.store)
            (deployment ⟨4⟩ ⟨1⟩ ++
              receiveAll ⟨4⟩
                [ CoordinatorClient.submitRequest (directRequest ⟨5⟩),
                  CoordinatorClient.supersede ⟨5⟩ ⟨2⟩ ])).any
            fun reached =>
              reached.2.ledger.supersessions = [⟨⟨1⟩, ⟨2⟩⟩] &&
              reached.1.all fun step =>
                keepsSuperseded defaultConfig step &&
                (step.before.supersession? step.event).all fun entry =>
                  decide (step.before.PointsForward entry)) = true := by
    decide +kernel
  obtain ⟨_, saved, _, holds⟩ := exists_run_of_replay? checked
  rw [Bool.and_eq_true, decide_eq_true_eq] at holds
  obtain ⟨noneRecovered, holds⟩ := holds
  obtain ⟨trace, final, run, holds⟩ := exists_run_of_replay? holds
  simp only [Bool.and_eq_true, decide_eq_true_eq, List.all_eq_true,
    Option.all_eq_true] at holds
  obtain ⟨recorded, each⟩ := holds
  refine ⟨saved.store, trace, final, run, recorded,
    (supersessions_are_ordered_iff run ?_).mpr ⟨?_, ?_⟩⟩
  · intro step member
    exact (each step member).1
  · rw [noneRecovered]
    simp
  · intro step member
    exact (each step member).2

/--
Two plans of one request: a message that names the older one supersedes the
newer one by it.  A third plan, of another request, closes a circle.
-/
theorem older_plan_supersedes_newest :
    ∃ trace final newest older,
      ProcessRun defaultConfig none trace final ∧
      ⟨⟨2⟩, ⟨1⟩⟩ ∈ final.ledger.supersessions ∧
      final.plan? ⟨2⟩ = some newest ∧
      final.IsNewest newest ∧
      final.planState? ⟨2⟩ = some .superseded ∧
      final.plan? ⟨1⟩ = some older ∧
      older.requestId = newest.requestId ∧
      older.generation < newest.generation ∧
      Relation.TransGen final.SupersededBy ⟨2⟩ ⟨2⟩ := by
  have checked :
      (replay? (step? defaultConfig) (start none)
        (deployment ⟨4⟩ ⟨1⟩ ++
          receiveAll ⟨4⟩
            [ CoordinatorClient.submitRequest (directRequest ⟨5⟩),
              CoordinatorClient.submitRequest (directRequest ⟨5⟩),
              CoordinatorClient.submitRequest (directRequest ⟨6⟩),
              CoordinatorClient.supersede ⟨5⟩ ⟨1⟩,
              CoordinatorClient.supersede ⟨5⟩ ⟨3⟩,
              CoordinatorClient.supersede ⟨6⟩ ⟨2⟩ ])).any
        (fun reached =>
          reached.2.ledger.supersessions =
            [⟨⟨2⟩, ⟨1⟩⟩, ⟨⟨2⟩, ⟨3⟩⟩, ⟨⟨3⟩, ⟨2⟩⟩] &&
          reached.2.planState? ⟨2⟩ = some .superseded &&
          (reached.2.plan? ⟨2⟩).any fun newest =>
            (reached.2.ledger.plans.toList.all fun entry =>
              entry.2.plan.requestId ≠ newest.requestId ||
                entry.2.plan.generation ≤ newest.generation) &&
            (reached.2.plan? ⟨1⟩).any fun older =>
              older.requestId = newest.requestId &&
                older.generation < newest.generation) = true := by
    decide +kernel
  obtain ⟨trace, final, run, holds⟩ := exists_run_of_replay? checked
  simp only [Bool.and_eq_true, decide_eq_true_eq] at holds
  obtain ⟨⟨recorded, closed⟩, holds⟩ := holds
  obtain ⟨newest, newestFound, holds⟩ := (Option.any_eq_true _ _).mp holds
  simp only [Bool.and_eq_true, List.all_eq_true, Bool.or_eq_true,
    decide_eq_true_eq] at holds
  obtain ⟨others, holds⟩ := holds
  obtain ⟨older, olderFound, holds⟩ := (Option.any_eq_true _ _).mp holds
  simp only [Bool.and_eq_true, decide_eq_true_eq] at holds
  refine ⟨trace, final, newest, older, run, by simp [recorded], newestFound,
    ?_, closed, olderFound, holds.1, holds.2, ?_⟩
  · intro planId other found sameRequest
    obtain ⟨record, inTable, rfl⟩ := Option.map_eq_some_iff.mp found
    have entry := others (planId, record)
      (Std.ExtTreeMap.mem_toList_iff_getElem?_eq_some.mpr inTable)
    exact entry.resolve_left fun different => different sameRequest
  · refine Relation.TransGen.trans
      (.single (b := ⟨3⟩) ?_) (.single ?_) <;>
      simp [SupersededBy, recorded]

/-! ## One unresolved plan for each request -/

/-- The plan of the request is in the table and neither done nor withdrawn. -/
def Unresolved
    (state : Coordinator)
    (planId : CommunicationPlanId)
    (request : CommunicationRequestId) : Prop :=
  ∃ record,
    state.ledger.plans[planId]? = some record ∧
    record.plan.requestId = request ∧
    record.state.unresolved = true

/-- No request has two unresolved plans. -/
def OneUnresolved (state : Coordinator) : Prop :=
  ∀ request first second,
    state.Unresolved first request →
    state.Unresolved second request →
    first = second

/--
The step leaves the plan unresolved, whatever its state was: it is the answer to
a submission, it is revalidated or handed off, or its commit is completed.
-/
inductive Opens
    (step : CoordinatorStep)
    (planId : CommunicationPlanId)
    (request : CommunicationRequestId) : Prop where
  | submission
      (submitted : CommunicationRequest)
      (plan : CommunicationPlan)
      (answered : submits step submitted plan)
      (named : plan.id = planId)
      (ofRequest : submitted.id = request)
  | revalidation
      (socket : Socket)
      (message : Message)
      (record : PlanRecord)
      (received : step.event = .receive socket message)
      (kind :
        message.type = .revalidate ∨ message.type = .executionHandoff)
      (named : message.planId = planId)
      (found : step.before.ledger.plans[planId]? = some record)
      (ofRequest : record.plan.requestId = request)
  | commit
      (socket : Socket)
      (commit : Commit)
      (record : PlanRecord)
      (finished : step.event = .finish socket)
      (busy :
        step.before.connections[socket]? = some (.acquired commit none))
      (named : commit.planId = planId)
      (found : step.before.ledger.plans[planId]? = some record)
      (kept : step.before.ledger.undoes record = false)
      (ofRequest : record.plan.requestId = request)

/-- A step that opens a plan writes it, unresolved, and no other plan. -/
theorem plans_of_opens
    {step : CoordinatorStep}
    {planId : CommunicationPlanId}
    {request : CommunicationRequestId}
    (stepped :
      step? config step.before step.event = some (step.after, step.outputs))
    (opens : Opens step planId request) :
    ∃ written,
      step.after.ledger.plans =
        step.before.ledger.plans.insert planId written ∧
      written.plan.requestId = request ∧
      written.state.unresolved = true := by
  rcases step with ⟨before, event, actions, after⟩
  change step? config before event = some (after, actions) at stepped
  cases opens with
  | submission submitted plan answered named ofRequest =>
      obtain ⟨produced, table⟩ := produced_of_submits _ stepped answered
      subst named ofRequest
      refine ⟨_, table, ?_, ?_⟩
      · rw [Ledger.plan_newRecord]
        exact produced.planned.requestId
      · rw [Ledger.state_newRecord]
        rfl
  | revalidation socket message record received kind named found ofRequest =>
      cases received
      subst named
      cases taken_of_step? stepped with
      | receive _ _ listening =>
          simp only [ledger_resume]
          rcases kind with kind | kind
          · simp only [handleMessage, kind, withLedger,
              Ledger.handleRevalidate, found]
            split
            · exact ⟨_, rfl, ofRequest, rfl⟩
            · exact ⟨_, rfl, ofRequest, rfl⟩
          · simp only [handleMessage, kind, withLedger,
              Ledger.handleExecutionHandoff, found]
            split
            · exact ⟨_, rfl, ofRequest, rfl⟩
            · exact ⟨_, rfl, ofRequest, rfl⟩
  | commit socket commit record finished busy named found kept ofRequest =>
      cases finished
      subst named
      cases taken_of_step? stepped with
      | finish _ taken failure isBusy =>
          simp only at busy
          rw [busy] at isBusy
          cases isBusy
          simp only [ledger_resume, Ledger.finishCommit, found, kept,
            Bool.false_eq_true, if_false]
          exact ⟨_, rfl, ofRequest, rfl⟩

/-- A plan that is unresolved after a step was so before, or is opened by it. -/
theorem unresolved_before_or_opens
    {step : CoordinatorStep}
    {planId : CommunicationPlanId}
    {request : CommunicationRequestId}
    (stepped :
      step? config step.before step.event = some (step.after, step.outputs))
    (unresolved : step.after.Unresolved planId request) :
    step.before.Unresolved planId request ∨ Opens step planId request := by
  obtain ⟨record, found, ofRequest, isOpen⟩ := unresolved
  have change : PlanStep config step.before planId step.event
      (some record) := found ▸ planStep_of_step? stepped
  generalize isSome : some record = changed at change
  cases change with
  | same =>
      exact .inl ⟨record, isSome.symm, ofRequest, isOpen⟩
  | written old new known writes =>
      cases isSome
      generalize isEvent : step.event = event at writes
      cases writes with
      | beginCommit socket message kind named committable open_ =>
          refine .inl ⟨old, known, ofRequest, ?_⟩
          rcases committable with ready | awaiting
          · rw [ready]
            rfl
          · rw [awaiting]
            rfl
      | commit socket commit busy named kept =>
          exact .inr (.commit socket commit old isEvent busy named known kept
            ofRequest)
      | revalidate socket message kind named passed =>
          exact .inr (.revalidation socket message old isEvent (.inl kind)
            named known ofRequest)
      | failRevalidation socket message kind named failed =>
          exact .inr (.revalidation socket message old isEvent kind named
            known ofRequest)
      | handoff socket message kind named passed =>
          exact .inr (.revalidation socket message old isEvent (.inr kind)
            named known ofRequest)
      | result socket message =>
          cases ok : message.ok <;>
            simp [ok, PlanState.unresolved] at isOpen
      | undo | refuse | cancel | supersede | supersedeOlder =>
          cases isOpen
  | entered socket message plan received kind produced open_ named =>
      rcases step with ⟨before, event, actions, after⟩
      cases received
      rcases submission_cases stepped kind with
        same | ⟨answer, submitted, table⟩
      · rw [same] at found
        exact .inl ⟨record, found, ofRequest, isOpen⟩
      · have answered := (produced_of_submits _ stepped submitted).1
        rw [table, Std.ExtTreeMap.getElem?_insert] at found
        split_ifs at found with isAnswer
        · cases found
          rw [Ledger.plan_newRecord, answered.planned.requestId] at ofRequest
          exact .inr (.submission message.request answer submitted
            (Std.LawfulEqCmp.compare_eq_iff_eq.mp isAnswer) ofRequest)
        · exact .inl ⟨record, found, ofRequest, isOpen⟩

/--
A step keeps requests to one unresolved plan if what it opens is alone; it opens
one plan, so that any other one was there before.
-/
theorem oneUnresolved_of_step?_iff
    {step : CoordinatorStep}
    (stepped :
      step? config step.before step.event = some (step.after, step.outputs))
    (beforeStep : OneUnresolved step.before) :
    OneUnresolved step.after ↔
      ∀ planId request,
        Opens step planId request →
        ∀ other, other ≠ planId → ¬step.before.Unresolved other request := by
  constructor
  · rintro afterStep planId request opens other different
      ⟨record, found, ofRequest, isOpen⟩
    obtain ⟨written, table, writtenRequest, writtenOpen⟩ :=
      plans_of_opens stepped opens
    refine different (afterStep request other planId ?_ ?_)
    · refine ⟨record, ?_, ofRequest, isOpen⟩
      rw [table, Std.ExtTreeMap.getElem?_insert, if_neg, found]
      rw [Std.LawfulEqCmp.compare_eq_iff_eq]
      exact different.symm
    · refine ⟨written, ?_, writtenRequest, writtenOpen⟩
      rw [table, Std.ExtTreeMap.getElem?_insert_self]
  · intro alone request first second firstOpen secondOpen
    by_contra different
    rcases unresolved_before_or_opens stepped firstOpen with
      firstBefore | firstOpened
    · rcases unresolved_before_or_opens stepped secondOpen with
        secondBefore | secondOpened
      · exact different
          (beforeStep request first second firstBefore secondBefore)
      · exact alone second request secondOpened first different firstBefore
    · rcases unresolved_before_or_opens stepped secondOpen with
        secondBefore | secondOpened
      · exact alone first request firstOpened second (Ne.symm different)
          secondBefore
      · obtain ⟨_, firstTable, _, _⟩ := plans_of_opens stepped firstOpened
        obtain ⟨record, found, ofRequest, isOpen⟩ := secondOpen
        refine alone first request firstOpened second (Ne.symm different)
          ⟨record, ?_, ofRequest, isOpen⟩
        rw [firstTable, Std.ExtTreeMap.getElem?_insert, if_neg] at found
        · exact found
        · rw [Std.LawfulEqCmp.compare_eq_iff_eq]
          exact different

/--
A submission that is answered with a plan supersedes the older unresolved plan
of its request, which then is neither committed nor handed off any more.
-/
def SupersedesOlder
    (step : CoordinatorStep)
    (later : List CoordinatorStep) : Prop :=
  ∀ request plan,
    submits step request plan →
    ∀ (older : CommunicationPlanId) (record : PlanRecord),
      older ≠ plan.id →
      step.before.ledger.plans[older]? = some record →
      record.plan.requestId = request.id →
      record.state.unresolved = true →
      step.after.planState? older = some .superseded ∧
      ∀ next ∈ later,
        commits next older = false ∧ ¬handoffSucceeds next record.plan

/--
Every request has at most one unresolved plan, and resubmissions supersede,
exactly when no step opens a plan while another plan of its request is
unresolved: no handler supersedes the older plan by itself.
-/
theorem one_unresolved_plan_iff
    (run : ProcessRun config store trace final) :
    (OneUnresolved (start store) ∧
      ∀ past step later,
        trace = past ++ step :: later →
        OneUnresolved step.after ∧ SupersedesOlder step later) ↔
    (OneUnresolved (start store) ∧
      ∀ step ∈ trace, ∀ planId request,
        Opens step planId request →
        ∀ other, other ≠ planId →
          ¬step.before.Unresolved other request) := by
  constructor
  · rintro ⟨initially, throughout⟩
    have beforeStep :
        ∀ step ∈ trace, OneUnresolved step.before := by
      intro step member
      refine run.invariant_before OneUnresolved initially ?_ member
      intro earlier inTrace _ _
      obtain ⟨leading, trailing, whole⟩ := List.append_of_mem inTrace
      exact (throughout leading earlier trailing whole).1
    refine ⟨initially, ?_⟩
    intro step member
    obtain ⟨leading, trailing, whole⟩ := List.append_of_mem member
    exact (oneUnresolved_of_step?_iff (run.step_of_mem member)
      (beforeStep step member)).mp (throughout leading step trailing whole).1
  · rintro ⟨initially, alone⟩
    have preserved :
        ∀ step ∈ trace, OneUnresolved step.before →
          OneUnresolved step.after := by
      intro step member beforeStep
      exact (oneUnresolved_of_step?_iff (run.step_of_mem member)
        beforeStep).mpr (alone step member)
    refine ⟨initially, ?_⟩
    rintro past step later rfl
    have member : step ∈ past ++ step :: later := by simp
    refine ⟨?_, ?_⟩
    · refine preserved step member ?_
      refine run.invariant_before OneUnresolved initially ?_ member
      intro earlier inTrace _ beforeStep
      exact preserved earlier inTrace beforeStep
    · intro request plan submitted older record different found ofRequest
        isOpen
      exact (alone step member plan.id request.id
        (.submission request plan submitted rfl rfl) older different
        ⟨record, found, ofRequest, isOpen⟩).elim

/-- A request is submitted again once its first plan is completed. -/
theorem completed_request_is_resubmitted :
    ∃ trace final,
      ProcessRun defaultConfig none trace final ∧
      final.planState? ⟨1⟩ = some .completed ∧
      final.planState? ⟨2⟩ = some .planReady ∧
      ∀ past step later,
        trace = past ++ step :: later →
        OneUnresolved step.after ∧ SupersedesOlder step later := by
  have checked :
      (replay? (step? defaultConfig) (start none)
        (deployment ⟨4⟩ ⟨1⟩ ++
          receiveAll ⟨4⟩
            [ CoordinatorClient.submitRequest (directRequest ⟨5⟩),
              CoordinatorClient.commitPlan ⟨1⟩ ] ++
          [.acquire ⟨4⟩, .finish ⟨4⟩] ++
          receiveAll ⟨4⟩
            [ CoordinatorClient.executionHandoff ⟨1⟩,
              CoordinatorClient.executionResult ⟨1⟩ true,
              CoordinatorClient.submitRequest (directRequest ⟨5⟩) ])).any
        (fun reached =>
          reached.2.planState? ⟨1⟩ = some .completed &&
          reached.2.planState? ⟨2⟩ = some .planReady &&
          reached.1.all fun step =>
            (step.before.ledger.plans.toList.all fun entry =>
              !entry.2.state.unresolved) ||
            (step.event.message?.all fun message =>
              message.type ≠ .submitRequest) &&
              step.before.ledger.plans.toList.all fun entry =>
                entry.1 = ⟨1⟩) = true := by
    decide +kernel
  obtain ⟨trace, final, run, holds⟩ := exists_run_of_replay? checked
  simp only [Bool.and_eq_true, decide_eq_true_eq, List.all_eq_true,
    Bool.or_eq_true, Bool.not_eq_true'] at holds
  obtain ⟨⟨completed, ready⟩, each⟩ := holds
  refine ⟨trace, final, run, completed, ready,
    ((one_unresolved_plan_iff run).mpr ⟨?_, ?_⟩).2⟩
  · rintro request first second ⟨record, found, _⟩ _
    simp [start, loadStoreIfAny] at found
  · rintro step member planId request opens other different
      ⟨record, found, ofRequest, isOpen⟩
    have entry :=
      Std.ExtTreeMap.mem_toList_iff_getElem?_eq_some.mpr found
    rcases each step member with resolved | ⟨noSubmission, onlyFirst⟩
    · rw [resolved _ entry] at isOpen
      cases isOpen
    · have isFirst := onlyFirst _ entry
      refine different ?_
      cases opens with
      | submission submitted plan answered named ofRequest =>
          obtain ⟨socket, message, received, kind, _⟩ := answered
          simp [received, kind] at noSubmission
      | revalidation socket message old received kind named known =>
          exact isFirst.trans (onlyFirst _
            (Std.ExtTreeMap.mem_toList_iff_getElem?_eq_some.mpr known)).symm
      | commit socket commit old finished busy named known =>
          exact isFirst.trans (onlyFirst _
            (Std.ExtTreeMap.mem_toList_iff_getElem?_eq_some.mpr known)).symm

/--
A request is submitted twice, and the older plan is committed and handed off
beside the newer one.
-/
theorem resubmission_leaves_older_plan :
    ∃ trace final,
      ProcessRun defaultConfig none trace final ∧
      final.Unresolved ⟨1⟩ ⟨5⟩ ∧
      final.Unresolved ⟨2⟩ ⟨5⟩ ∧
      (∃ step ∈ trace, commits step ⟨1⟩ = true) ∧
      final.planState? ⟨1⟩ = some .active ∧
      ¬OneUnresolved final := by
  have checked :
      (replay? (step? defaultConfig) (start none)
        (deployment ⟨4⟩ ⟨1⟩ ++
          receiveAll ⟨4⟩
            [ CoordinatorClient.submitRequest (directRequest ⟨5⟩),
              CoordinatorClient.submitRequest (directRequest ⟨5⟩),
              CoordinatorClient.commitPlan ⟨1⟩ ] ++
          [.acquire ⟨4⟩, .finish ⟨4⟩] ++
          receiveAll ⟨4⟩ [CoordinatorClient.executionHandoff ⟨1⟩])).any
        (fun reached =>
          (reached.1.any fun step => commits step ⟨1⟩) &&
          (reached.2.ledger.plans[(⟨1⟩ : CommunicationPlanId)]?.any
            fun record =>
              record.plan.requestId = ⟨5⟩ && record.state = .active) &&
          reached.2.ledger.plans[(⟨2⟩ : CommunicationPlanId)]?.any
            fun record =>
              record.plan.requestId = ⟨5⟩ && record.state.unresolved) =
        true := by
    decide +kernel
  obtain ⟨trace, final, run, holds⟩ := exists_run_of_replay? checked
  simp only [Bool.and_eq_true, List.any_eq_true, Option.any_eq_true,
    decide_eq_true_eq] at holds
  obtain ⟨⟨committed, first, firstFound, firstRequest, active⟩, second,
    secondFound, secondRequest, isOpen⟩ := holds
  have firstOpen : final.Unresolved ⟨1⟩ ⟨5⟩ :=
    ⟨first, firstFound, firstRequest, by rw [active]; rfl⟩
  have secondOpen : final.Unresolved ⟨2⟩ ⟨5⟩ :=
    ⟨second, secondFound, secondRequest, isOpen⟩
  refine ⟨trace, final, run, firstOpen, secondOpen, committed, ?_, ?_⟩
  · simp [planState?, firstFound, active]
  · intro alone
    cases alone ⟨5⟩ ⟨1⟩ ⟨2⟩ firstOpen secondOpen

end Coordinator

end CommunicationPlanner
