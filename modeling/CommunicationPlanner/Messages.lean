import CommunicationPlanner.DataModel

namespace CommunicationPlanner

/-!
# Messages and what handling them does to the outside

A `Message` is the record that `decodeMessage` fills: one type and the fields
of all types, with the source's defaults.  An `Action` is one effect of a
handler outside the coordinator's state: a frame sent on a socket, or a call of
the broker on behalf of a plan.
-/

/-- What tells the handles of sockets from other identities. -/
structure SocketTag

/-- A `SOCKET` handle. -/
abbrev Socket := Id SocketTag

/-- `INVALID_SOCKET`. -/
def invalidSocket : Socket :=
  ⟨0xFFFFFFFFFFFFFFFF⟩

/-- The record of all messages: a type, and the fields of every type. -/
structure Message where
  type : MessageType := .hello
  epoch : CoordinatorEpoch := ⟨0⟩
  worker : WorkerId := ⟨0⟩
  boot : WorkerBootId := ⟨0⟩
  source : SourceId := ⟨0⟩
  sourceBoot : SourceBootId := ⟨0⟩
  name : Text := []
  endpoint : Endpoint := {}
  link : Link := {}
  request : CommunicationRequest := {}
  plan : CommunicationPlan := {}
  linkId : LinkId := ⟨0⟩
  capacity : Capacity := {}
  congestion : Congestion := {}
  planId : CommunicationPlanId := ⟨0⟩
  requestId : CommunicationRequestId := ⟨0⟩
  ok : Bool := false
  bytes : UInt64 := 0
  error : Text := []

/-- The message of `sendError`. -/
def errorMessage (detail : Text) : Message :=
  { type := .error, error := detail }

/-- The `COMMIT_RESULT` that answers most messages. -/
def resultMessage (ok : Bool) (planId : CommunicationPlanId) : Message :=
  { type := .commitResult, ok := ok, planId := planId }

/-- The message of `sendOk`: the identity travels in the plan's place. -/
def okMessage (id : UInt64) : Message :=
  resultMessage true ⟨id⟩

/-- What a handler does outside the state of the coordinator. -/
inductive Action where
  | send (socket : Socket) (message : Message)
  | acquire
      (plan : CommunicationPlanId)
      (resources : List ResourceId)
      (granted : Bool)
  | release (plan : CommunicationPlanId) (resources : List ResourceId)

/-- An `EXECUTE` frame for the plan. -/
def Action.executes (action : Action) (plan : CommunicationPlanId) : Bool :=
  match action with
  | .send _ message => message.type = .execute && message.planId = plan
  | _ => false

/-- What the action sends, and over which socket. -/
def Action.sent? : Action → Option (Socket × Message)
  | .send socket message => some (socket, message)
  | _ => none

/-- Only a frame that is sent is something sent. -/
theorem Action.eq_send_of_sent?
    {action : Action}
    {sent : Socket × Message}
    (found : action.sent? = some sent) :
    action = .send sent.1 sent.2 := by
  cases action with
  | send socket message =>
      cases found
      rfl
  | acquire plan resources granted =>
      cases found
  | release plan resources =>
      cases found

/-! ## The messages that `CoordinatorClient` sends -/

namespace CoordinatorClient

/-- A worker introduces itself under a boot. -/
def registerWorker
    (worker : WorkerId)
    (boot : WorkerBootId)
    (name : Text) : Message :=
  { type := .register, worker := worker, boot := boot, name := name }

/-- A worker publishes an endpoint under its boot. -/
def publishEndpoint
    (worker : WorkerId)
    (boot : WorkerBootId)
    (endpoint : Endpoint) : Message :=
  { type := .publishEndpoint
    worker := worker
    boot := boot
    endpoint := endpoint }

/-- A worker publishes a link under its boot. -/
def publishLink
    (worker : WorkerId)
    (boot : WorkerBootId)
    (link : Link) : Message :=
  { type := .publishLink, worker := worker, boot := boot, link := link }

/-- Somebody reports the capacity of a link. -/
def publishCapacity (link : LinkId) (capacity : Capacity) : Message :=
  { type := .publishCapacity, linkId := link, capacity := capacity }

/-- Somebody reports the congestion of a link. -/
def publishCongestion (link : LinkId) (congestion : Congestion) : Message :=
  { type := .publishCongestion, linkId := link, congestion := congestion }

/-- A request is to be planned. -/
def submitRequest (request : CommunicationRequest) : Message :=
  { type := .submitRequest, request := request }

/-- The claims of a plan are to be acquired. -/
def commitPlan (planId : CommunicationPlanId) : Message :=
  { type := .commitRequest, planId := planId }

/-- A plan is to be checked against what is known now. -/
def revalidate (planId : CommunicationPlanId) : Message :=
  { type := .revalidate, planId := planId }

/-- A plan is to be handed to its executor. -/
def executionHandoff (planId : CommunicationPlanId) : Message :=
  { type := .executionHandoff, planId := planId }

/-- An executor reports what became of a plan. -/
def executionResult (planId : CommunicationPlanId) (ok : Bool) : Message :=
  { type := .executionResult, planId := planId, ok := ok }

/-- A request and a plan of it are given up. -/
def cancel
    (requestId : CommunicationRequestId)
    (planId : CommunicationPlanId) : Message :=
  { type := .cancel, requestId := requestId, planId := planId }

/-- A plan takes the place of the current one of a request. -/
def supersede
    (requestId : CommunicationRequestId)
    (planId : CommunicationPlanId) : Message :=
  { type := .supersede, requestId := requestId, planId := planId }

/-- The ledger is to be written to the store. -/
def save : Message :=
  { type := .save }

/-- The coordinator is to stop. -/
def shutdown : Message :=
  { type := .shutdown }

end CoordinatorClient

end CommunicationPlanner
