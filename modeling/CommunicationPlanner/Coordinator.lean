import CommunicationPlanner.PlanLedger
import CommunicationPlanner.TransitionRun

namespace CommunicationPlanner

open TransitionRun

/-!
# The coordinator as a machine

The coordinator serves every connection with a thread of its own; one mutex
guards the state, and every handler holds it for the whole of its work.  Only a
commit drops it, between its two critical sections, to call the broker.  So the
steps of the machine are: a connection is accepted; a decoded message is
handled (of a commit: its first critical section); the broker is called for a
commit; the second critical section of a commit runs; a connection ends; the
store is saved from outside.  While a commit is under way its thread reads no
further message.

An exception that escapes a thread ends the process, and a coordinator that is
stopping ends each thread when it would read its next message.
-/

/-- What the thread of a connection is doing. -/
inductive Connection where
  | receiving
  | acquiring (commit : Commit)
  | acquired (commit : Commit) (failure : Option Text)

/-- What a coordinator is configured with. -/
structure Config where
  weights : RankingWeights
  bounds : Bounds := {}

/-- The fields of the server, with its threads and its file. -/
structure Coordinator where
  registry : Registry := {}
  ledger : Ledger := {}
  epoch : CoordinatorEpoch := ⟨1⟩
  stopping : Bool := false
  connections : Map Socket Connection := ∅
  /-- The file at `storePath`. -/
  store : Option (List UInt8) := none
  terminated : Bool := false

/-- What may happen next: a thread acts, or `saveStore` is called. -/
inductive Event where
  | accept (socket : Socket)
  | receive (socket : Socket) (message : Message)
  | undecodable (socket : Socket) (detail : Text)
  | acquire (socket : Socket)
  | finish (socket : Socket)
  | disconnect (socket : Socket)
  | saveStore

/-- The message that the event brings. -/
def Event.message? : Event → Option Message
  | .receive _ message => some message
  | _ => none

@[simp] theorem Event.message?_receive
    (socket : Socket)
    (message : Message) :
    (Event.receive socket message).message? = some message :=
  rfl

namespace Coordinator

/-! ## Start -/

/-- The snapshot that the constructor sets up. -/
def initialSnapshot (epoch : CoordinatorEpoch) : EvidenceSnapshot :=
  { epoch := epoch
    authorityGeneration := ⟨1⟩
    topologyGeneration := ⟨1⟩
    capacityGeneration := ⟨1⟩
    reservationGeneration := ⟨1⟩
    congestionGeneration := ⟨1⟩
    capabilityGeneration := ⟨1⟩
    healthGeneration := ⟨1⟩
    placementGeneration := ⟨1⟩
    policyGeneration := ⟨1⟩ }

/-- The ledger and epoch after `loadStoreIfAny`; a store in error is ignored. -/
def loadStoreIfAny
    (store : Option (List UInt8)) : Ledger × CoordinatorEpoch :=
  match store with
  | none => ({}, ⟨1⟩)
  | some [] => ({}, ⟨1⟩)
  | some bytes =>
      match parseStore bytes with
      | .error _ => ({}, ⟨1⟩)
      | .ok state =>
          (Ledger.recover (conservativeRecovery state), state.epoch.next)

/-- A process that has just started on the store file. -/
def start (store : Option (List UInt8)) : Coordinator :=
  let (ledger, epoch) := loadStoreIfAny store
  { registry := { snap := initialSnapshot epoch }
    ledger := ledger
    epoch := epoch
    store := store }

/-! ## Handling a message -/

/-- Write the file at `storePath`. -/
def save (state : Coordinator) : Coordinator :=
  { state with
    store := some (serializeStore (state.ledger.storeState state.epoch)) }

/-- A handler that changes the registry sends one reply. -/
def withRegistry
    (state : Coordinator)
    (socket : Socket)
    (handled : Registry × Message) : Coordinator × List Action :=
  ({ state with registry := handled.1 }, [.send socket handled.2])

/-- A handler of the ledger says itself what it does. -/
def withLedger
    (state : Coordinator)
    (handled : Ledger × List Action) : Coordinator × List Action :=
  ({ state with ledger := handled.1 }, handled.2)

/-- Plan and enter a request; an exception ends the process. -/
def submit
    (config : Config)
    (state : Coordinator)
    (socket : Socket)
    (message : Message) : Coordinator × List Action :=
  match state.ledger.handleSubmitRequest state.registry.snap config.weights
      config.bounds message.request with
  | (ledger, some reply) =>
      ({ state with ledger := ledger }, [.send socket reply])
  | (ledger, none) =>
      ({ state with ledger := ledger, terminated := true }, [])

/-- The first critical section of a commit, after which the thread is busy. -/
def beginCommit
    (state : Coordinator)
    (socket : Socket)
    (message : Message) : Coordinator × List Action :=
  match state.ledger.beginCommit message.planId with
  | .error reply => (state, [.send socket reply])
  | .ok (ledger, commit) =>
      ({ state with
          ledger := ledger
          connections := state.connections.insert socket (.acquiring commit) },
        [])

/-- `handleMessage`, by the type of the message. -/
def handleMessage
    (config : Config)
    (state : Coordinator)
    (socket : Socket)
    (message : Message) : Coordinator × List Action :=
  let registry := state.registry
  let ledger := state.ledger
  match message.type with
  | .register =>
      state.withRegistry socket (registry.handleRegister socket message)
  | .publishEndpoint =>
      state.withRegistry socket (registry.handlePublishEndpoint message)
  | .publishLink =>
      state.withRegistry socket (registry.handlePublishLink message)
  | .publishCapacity =>
      state.withRegistry socket (registry.handlePublishCapacity message)
  | .publishCongestion =>
      state.withRegistry socket (registry.handlePublishCongestion message)
  | .queryPlan => (state, [.send socket (ledger.handleQueryPlan message)])
  | .submitRequest => submit config state socket message
  | .commitRequest => state.beginCommit socket message
  | .revalidate =>
      let (ledger, reply) :=
        ledger.handleRevalidate registry.snap message.planId
      state.withLedger (ledger, [.send socket reply])
  | .executionHandoff =>
      state.withLedger
        (ledger.handleExecutionHandoff registry socket message.planId)
  | .executionResult =>
      let (ledger, reply) := ledger.handleExecutionResult message
      state.withLedger (ledger, [.send socket reply])
  | .cancel => state.withLedger (ledger.handleCancel socket message)
  | .supersede => state.withLedger (ledger.handleSupersede socket message)
  | .save => (state.save, [.send socket (resultMessage true ⟨0⟩)])
  | .shutdown =>
      ({ state with stopping := true },
        [.send socket (resultMessage true ⟨0⟩)])
  | .hello | .publishTopology | .planResult | .commitResult | .execute
  | .error =>
      (state, [.send socket (errorMessage (ascii "unsupported message"))])

/-! ## Steps -/

/-- The head of a thread's loop: leave when the coordinator is stopping. -/
def resume (state : Coordinator) (socket : Socket) : Coordinator :=
  match state.connections[socket]? with
  | some .receiving =>
      if state.stopping then
        { state with connections := state.connections.erase socket }
      else
        state
  | _ => state

/--
A connection that arrives while the coordinator stops gets only its greeting.
-/
def accept (state : Coordinator) (socket : Socket) :
    Option (Coordinator × List Action) :=
  if socket = invalidSocket ∨ socket ∈ state.connections then
    none
  else
    let connected :=
      { state with
        connections := state.connections.insert socket .receiving }
    some
      (connected.resume socket,
        [.send socket { type := .hello, epoch := state.epoch }])

/-- The broker is called for the commit of a connection. -/
def acquire (state : Coordinator) (socket : Socket) :
    Option (Coordinator × List Action) :=
  match state.connections[socket]? with
  | some (.acquiring commit) =>
      let (broker, failure) :=
        state.ledger.broker.acquire commit.resources commit.sizes
      some
        ({ state with
            ledger := { state.ledger with broker := broker }
            connections :=
              state.connections.insert socket (.acquired commit failure) },
          [.acquire commit.planId commit.resources failure.isNone])
  | _ => none

/-- The second critical section of the commit of a connection. -/
def finish (state : Coordinator) (socket : Socket) :
    Option (Coordinator × List Action) :=
  match state.connections[socket]? with
  | some (.acquired commit failure) =>
      let (ledger, actions) :=
        state.ledger.finishCommit socket commit failure
      let freed :=
        { state with
          ledger := ledger
          connections := state.connections.insert socket .receiving }
      some (freed.resume socket, actions)
  | _ => none

/-- The thread of the connection is waiting for a message. -/
def listens (state : Coordinator) (socket : Socket) : Bool :=
  match state.connections[socket]? with
  | some .receiving => true
  | _ => false

/-- What an event does, where it can happen. -/
def step?
    (config : Config)
    (state : Coordinator)
    (event : Event) : Option (Coordinator × List Action) :=
  if state.terminated then
    none
  else
    match event with
    | .accept socket => state.accept socket
    | .receive socket message =>
        if state.listens socket then
          let (after, actions) := handleMessage config state socket message
          some (after.resume socket, actions)
        else
          none
    | .undecodable socket detail =>
        if state.listens socket then
          some
            (state.resume socket, [.send socket (errorMessage detail)])
        else
          none
    | .acquire socket => state.acquire socket
    | .finish socket => state.finish socket
    | .disconnect socket =>
        if state.listens socket then
          some
            ({ state with
                registry := state.registry.disconnect socket
                connections := state.connections.erase socket }, [])
        else
          none
    | .saveStore => some (state.save, [])

/-- A run of one coordinator process. -/
abbrev ProcessRun
    (config : Config)
    (store : Option (List UInt8))
    (trace : List (Step Coordinator Event Action))
    (state : Coordinator) : Prop :=
  Run (step? config) (start store) trace state

end Coordinator

end CommunicationPlanner
