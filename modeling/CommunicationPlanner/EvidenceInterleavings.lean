import CommunicationPlanner.EvidenceCells
import CommunicationPlanner.Interleavings
import CommunicationPlanner.PlanningIsolation

namespace CommunicationPlanner

open OrderedCollections TransitionRun Interleavings

/-!
# Interleaved evidence

Each party of a deployment has connections, workers, endpoints and links of its
own, and an event of one party leaves the cells of the others alone.  So it does
not matter to the planner how the parties' registrations, publications and ends
of connections were interleaved: what it plans from has the same cells and the
same generations.
-/

/-- A cell of the evidence, by what it is the cell of. -/
inductive EvidenceKey where
  | socket (socket : Socket)
  | worker (worker : WorkerId)
  | endpoint (id : EndpointId)
  | link (id : LinkId)

/-- What an event names. -/
def Event.evidenceKeys : Event → List EvidenceKey
  | .receive socket message =>
      match message.type with
      | .register => [.socket socket, .worker message.worker]
      | .publishEndpoint =>
          [.worker message.worker, .endpoint message.endpoint.id]
      | .publishLink => [.worker message.worker, .link message.link.id]
      | .publishCapacity | .publishCongestion =>
          if message.worker.isNull then
            [.link message.linkId]
          else
            [.worker message.worker, .link message.linkId]
      | _ => []
  | .disconnect socket => [.socket socket]
  | _ => []

/-- What an effect names. -/
def RegistryEffect.keys : RegistryEffect → List EvidenceKey
  | .nothing => []
  | .enrolled socket worker _ _ => [.socket socket, .worker worker]
  | .endpointPublished worker endpoint =>
      [.worker worker, .endpoint endpoint.id]
  | .linkPublished worker link => [.worker worker, .link link.id]
  | .capacityPublished link _ => [.link link]
  | .congestionPublished link _ => [.link link]
  | .disconnected socket worker => [.socket socket, .worker worker]

variable
  {Party : Type}
  {owner : EvidenceKey → Party}
  {who party : Party}

namespace EvidenceCells

/-- The cells of one party are the same. -/
structure SameFor
    (owner : EvidenceKey → Party)
    (who : Party)
    (first second : EvidenceCells) : Prop where
  endpoint :
    ∀ id, owner (.endpoint id) = who → first.endpoint id = second.endpoint id
  link : ∀ id, owner (.link id) = who → first.link id = second.link id
  info :
    ∀ worker,
      owner (.worker worker) = who → first.info worker = second.info worker
  boot :
    ∀ worker,
      owner (.worker worker) = who → first.boot worker = second.boot worker
  source :
    ∀ worker,
      owner (.worker worker) = who →
      first.source worker = second.source worker
  fenced :
    ∀ worker,
      owner (.worker worker) = who →
      first.fenced worker = second.fenced worker
  carried :
    ∀ socket,
      owner (.socket socket) = who →
      first.carried socket = second.carried socket

/-- Workers are registered over sockets of their party, and list endpoints and
links of their party. -/
structure Owned
    (owner : EvidenceKey → Party)
    (cells : EvidenceCells) : Prop where
  carried :
    ∀ {socket worker},
      cells.carried socket = some worker →
      owner (.socket socket) = owner (.worker worker)
  endpoints :
    ∀ {worker id},
      cells.listsEndpoint worker id = true →
      owner (.endpoint id) = owner (.worker worker)
  links :
    ∀ {worker id},
      cells.listsLink worker id = true →
      owner (.link id) = owner (.worker worker)

theorem equivalence_sameFor
    (owner : EvidenceKey → Party)
    (who : Party) :
    Equivalence (SameFor owner who) where
  refl _ :=
    { endpoint := fun _ _ => rfl
      link := fun _ _ => rfl
      info := fun _ _ => rfl
      boot := fun _ _ => rfl
      source := fun _ _ => rfl
      fenced := fun _ _ => rfl
      carried := fun _ _ => rfl }
  symm same :=
    { endpoint := fun id own => (same.endpoint id own).symm
      link := fun id own => (same.link id own).symm
      info := fun worker own => (same.info worker own).symm
      boot := fun worker own => (same.boot worker own).symm
      source := fun worker own => (same.source worker own).symm
      fenced := fun worker own => (same.fenced worker own).symm
      carried := fun socket own => (same.carried socket own).symm }
  trans first second :=
    { endpoint := fun id own =>
        (first.endpoint id own).trans (second.endpoint id own)
      link := fun id own => (first.link id own).trans (second.link id own)
      info := fun worker own =>
        (first.info worker own).trans (second.info worker own)
      boot := fun worker own =>
        (first.boot worker own).trans (second.boot worker own)
      source := fun worker own =>
        (first.source worker own).trans (second.source worker own)
      fenced := fun worker own =>
        (first.fenced worker own).trans (second.fenced worker own)
      carried := fun socket own =>
        (first.carried socket own).trans (second.carried socket own) }

section

variable
  {κ α : Type}
  [DecidableEq κ]
  {named : κ → EvidenceKey}
  {first second : κ → α}
  {key : κ}
  {value other : α}

/-- A change of another party's cell. -/
theorem update_apart
    (owns : owner (named key) = party)
    (apart : party ≠ who) :
    ∀ id,
      owner (named id) = who →
      first id = Function.update first key value id := by
  intro id own
  have different : id ≠ key := by
    rintro rfl
    exact apart (owns.symm.trans own)
  rw [Function.update_of_ne different]

/-- A change that depends on the party's own cells. -/
theorem update_alike
    (same : ∀ id, owner (named id) = who → first id = second id)
    (sameValue : value = other) :
    ∀ id,
      owner (named id) = who →
      Function.update first key value id =
        Function.update second key other id := by
  intro id own
  rw [Function.update_apply, Function.update_apply, same id own, sameValue]

end

variable
  {cells first second : EvidenceCells}
  {effect : RegistryEffect}

/-- An effect of one party leaves the cells of the others alone. -/
theorem sameFor_apply_of_apart
    (owned : cells.Owned owner)
    (own : ∀ key ∈ effect.keys, owner key = party)
    (apart : party ≠ who) :
    SameFor owner who cells (cells.apply effect) := by
  have same := (equivalence_sameFor owner who).refl cells
  cases effect with
  | nothing => exact same
  | enrolled socket worker boot name =>
      simp only [RegistryEffect.keys, List.forall_mem_cons] at own
      obtain ⟨ownsSocket, ownsWorker, _⟩ := own
      exact
        { same with
          info := update_apart ownsWorker apart
          boot := update_apart ownsWorker apart
          source := update_apart ownsWorker apart
          carried := update_apart ownsSocket apart }
  | endpointPublished worker endpoint =>
      simp only [RegistryEffect.keys, List.forall_mem_cons] at own
      obtain ⟨ownsWorker, ownsEndpoint, _⟩ := own
      exact
        { same with
          endpoint := update_apart ownsEndpoint apart
          info := update_apart ownsWorker apart }
  | linkPublished worker link =>
      simp only [RegistryEffect.keys, List.forall_mem_cons] at own
      obtain ⟨ownsWorker, ownsLink, _⟩ := own
      exact
        { same with
          link := update_apart ownsLink apart
          info := update_apart ownsWorker apart }
  | capacityPublished link capacity =>
      have ownsLink : owner (.link link) = party :=
        own _ (by simp [RegistryEffect.keys])
      exact { same with link := update_apart ownsLink apart }
  | congestionPublished link congestion =>
      have ownsLink : owner (.link link) = party :=
        own _ (by simp [RegistryEffect.keys])
      exact { same with link := update_apart ownsLink apart }
  | disconnected socket worker =>
      simp only [RegistryEffect.keys, List.forall_mem_cons] at own
      obtain ⟨ownsSocket, ownsWorker, _⟩ := own
      exact
        { info := update_apart ownsWorker apart
          boot := update_apart ownsWorker apart
          source := update_apart ownsWorker apart
          carried := update_apart ownsSocket apart
          endpoint := by
            intro id wanted
            have unlisted : ¬cells.listsEndpoint worker id = true :=
              fun listed =>
                apart (ownsWorker.symm.trans
                  ((owned.endpoints listed).symm.trans wanted))
            simp [apply, fence, unlisted]
          link := by
            intro id wanted
            have unlisted : ¬cells.listsLink worker id = true :=
              fun listed =>
                apart (ownsWorker.symm.trans
                  ((owned.links listed).symm.trans wanted))
            simp [apply, fence, unlisted]
          fenced := by
            intro other wanted
            have different : other ≠ worker := by
              intro isWorker
              rw [isWorker] at wanted
              exact apart (ownsWorker.symm.trans wanted)
            funext boot
            simp [apply, fence, different] }

/-- An effect of a party does the same to the same cells of the party. -/
theorem sameFor_apply
    (own : ∀ key ∈ effect.keys, owner key = who)
    (same : SameFor owner who first second) :
    SameFor owner who (first.apply effect) (second.apply effect) := by
  cases effect with
  | nothing => exact same
  | enrolled socket worker boot name =>
      exact
        { same with
          info := update_alike same.info rfl
          boot := update_alike same.boot rfl
          source := update_alike same.source rfl
          carried := update_alike same.carried rfl }
  | endpointPublished worker endpoint =>
      have sameInfo := same.info worker (own _ (by simp [RegistryEffect.keys]))
      exact
        { same with
          endpoint := update_alike same.endpoint rfl
          info := update_alike same.info (by rw [sameInfo]) }
  | linkPublished worker link =>
      have sameInfo := same.info worker (own _ (by simp [RegistryEffect.keys]))
      exact
        { same with
          link := update_alike same.link rfl
          info := update_alike same.info (by rw [sameInfo]) }
  | capacityPublished link capacity =>
      have sameLink := same.link link (own _ (by simp [RegistryEffect.keys]))
      exact
        { same with
          link := update_alike same.link (by rw [sameLink]) }
  | congestionPublished link congestion =>
      have sameLink := same.link link (own _ (by simp [RegistryEffect.keys]))
      exact
        { same with
          link := update_alike same.link (by rw [sameLink]) }
  | disconnected socket worker =>
      have sameInfo := same.info worker (own _ (by simp [RegistryEffect.keys]))
      exact
        { info := update_alike same.info (by rw [sameInfo])
          boot := update_alike same.boot rfl
          source := update_alike same.source rfl
          carried := update_alike same.carried rfl
          endpoint := by
            intro id wanted
            have lists :
                first.listsEndpoint worker id =
                  second.listsEndpoint worker id := by
              rw [listsEndpoint, listsEndpoint, sameInfo]
            simp only [apply, fence, lists, same.endpoint id wanted]
          link := by
            intro id wanted
            have lists :
                first.listsLink worker id = second.listsLink worker id := by
              rw [listsLink, listsLink, sameInfo]
            simp only [apply, fence, lists, same.link id wanted]
          fenced := by
            intro other wanted
            funext boot
            simp only [apply, fence, sameInfo, same.fenced other wanted] }

/-- Whatever is new in the cells belongs to one owner. -/
theorem owned_of_lists
    (owned : cells.Owned owner)
    {after : EvidenceCells}
    (carried :
      ∀ {socket worker},
        after.carried socket = some worker →
        cells.carried socket = some worker ∨
          owner (.socket socket) = owner (.worker worker))
    (endpoints :
      ∀ {worker id},
        after.listsEndpoint worker id = true →
        cells.listsEndpoint worker id = true ∨
          owner (.endpoint id) = owner (.worker worker))
    (links :
      ∀ {worker id},
        after.listsLink worker id = true →
        cells.listsLink worker id = true ∨
          owner (.link id) = owner (.worker worker)) :
    after.Owned owner where
  carried isCarried := (carried isCarried).elim owned.carried id
  endpoints listed := (endpoints listed).elim owned.endpoints id
  links listed := (links listed).elim owned.links id

/-- What holds of a worker's record after a change held of it before, or holds
by the change. -/
theorem any_info_updateInfo
    {worker other : WorkerId}
    {change : WorkerInfo → WorkerInfo}
    {test : WorkerInfo → Bool}
    (holds : ((cells.updateInfo worker change).info other).any test = true) :
    (cells.info other).any test = true ∨
      other = worker ∧
        ∃ info,
          cells.info worker = some info ∧ test (change info) = true := by
  simp only [updateInfo, Function.update_apply] at holds
  split_ifs at holds with same
  · obtain ⟨info, found, passed⟩ := (Option.any_eq_true _ _).mp holds
    obtain ⟨known, isKnown, rfl⟩ := Option.map_eq_some_iff.mp found
    exact .inr ⟨same, known, isKnown, passed⟩
  · exact .inl holds

theorem any_info_of_some
    {worker : WorkerId}
    {info : WorkerInfo}
    {test : WorkerInfo → Bool}
    (found : cells.info worker = some info)
    (passed : test info = true) :
    (cells.info worker).any test = true := by
  simp [found, passed]

/-- What one party does leaves everything with its owner. -/
theorem owned_apply
    (owned : cells.Owned owner)
    (own : ∀ key ∈ effect.keys, owner key = party) :
    (cells.apply effect).Owned owner := by
  cases effect with
  | nothing => exact owned
  | enrolled socket worker boot name =>
      simp only [RegistryEffect.keys, List.forall_mem_cons] at own
      obtain ⟨ownsSocket, ownsWorker, _⟩ := own
      refine owned_of_lists owned ?_ ?_ ?_
      · intro other carrier isCarried
        simp only [apply, Function.update_apply] at isCarried
        split_ifs at isCarried with same
        · cases isCarried
          rw [same]
          exact .inr (ownsSocket.trans ownsWorker.symm)
        · exact .inl isCarried
      · intro other id listed
        simp only [apply, listsEndpoint, Function.update_apply] at listed
        split_ifs at listed with same
        · simp at listed
        · exact .inl listed
      · intro other id listed
        simp only [apply, listsLink, Function.update_apply] at listed
        split_ifs at listed with same
        · simp at listed
        · exact .inl listed
  | endpointPublished worker endpoint =>
      simp only [RegistryEffect.keys, List.forall_mem_cons] at own
      obtain ⟨ownsWorker, ownsEndpoint, _⟩ := own
      refine owned_of_lists owned .inl ?_ ?_
      · intro other id listed
        rcases any_info_updateInfo listed with
          known | ⟨rfl, info, found, member⟩
        · exact .inl known
        · rcases List.mem_append.mp (of_decide_eq_true member) with
            member | added
          · exact .inl (any_info_of_some found (decide_eq_true member))
          · cases List.mem_singleton.mp added
            exact .inr (ownsEndpoint.trans ownsWorker.symm)
      · intro other id listed
        rcases any_info_updateInfo listed with
          known | ⟨rfl, info, found, member⟩
        · exact .inl known
        · exact .inl (any_info_of_some found member)
  | linkPublished worker link =>
      simp only [RegistryEffect.keys, List.forall_mem_cons] at own
      obtain ⟨ownsWorker, ownsLink, _⟩ := own
      refine owned_of_lists owned .inl ?_ ?_
      · intro other id listed
        rcases any_info_updateInfo listed with
          known | ⟨rfl, info, found, member⟩
        · exact .inl known
        · exact .inl (any_info_of_some found member)
      · intro other id listed
        rcases any_info_updateInfo listed with
          known | ⟨rfl, info, found, member⟩
        · exact .inl known
        · rcases List.mem_append.mp (of_decide_eq_true member) with
            member | added
          · exact .inl (any_info_of_some found (decide_eq_true member))
          · cases List.mem_singleton.mp added
            exact .inr (ownsLink.trans ownsWorker.symm)
  | capacityPublished | congestionPublished =>
      exact
        { carried := owned.carried
          endpoints := owned.endpoints
          links := owned.links }
  | disconnected socket worker =>
      refine owned_of_lists owned ?_ ?_ ?_
      · intro other carrier isCarried
        simp only [apply, Function.update_apply] at isCarried
        split_ifs at isCarried with same
        exact .inl isCarried
      · intro other id listed
        rcases any_info_updateInfo listed with
          known | ⟨rfl, info, found, member⟩
        · exact .inl known
        · exact .inl (any_info_of_some found member)
      · intro other id listed
        rcases any_info_updateInfo listed with
          known | ⟨rfl, info, found, member⟩
        · exact .inl known
        · exact .inl (any_info_of_some found member)

end EvidenceCells

namespace Registry

variable
  {registry first second : Registry}
  {event : Event}

/-- What an event does depends on its party's cells. -/
theorem effect_eq_of_sameFor
    (own : ∀ key ∈ event.evidenceKeys, owner key = who)
    (same : EvidenceCells.SameFor owner who first.cells second.cells) :
    first.effect event = second.effect event := by
  have sameWorkers :
      ∀ worker,
        owner (.worker worker) = who →
        first.workers[worker]? = second.workers[worker]? := same.info
  have sameAuthority :
      ∀ worker boot,
        owner (.worker worker) = who →
        first.authorized worker boot = second.authorized worker boot := by
    intro worker boot wanted
    unfold authorized
    rw [sameWorkers worker wanted]
  cases event with
  | receive socket message =>
      cases kind : message.type with
      | register =>
          have wanted : owner (.worker message.worker) = who :=
            own _ (by simp [Event.evidenceKeys, kind])
          have sameFenced :
              ((message.worker, message.boot) ∈ first.fenced) =
                ((message.worker, message.boot) ∈ second.fenced) :=
            congrFun (same.fenced _ wanted) message.boot
          have sameAdmission :
              first.admits message.worker message.boot =
                second.admits message.worker message.boot := by
            rw [Bool.eq_iff_iff, admits_iff, admits_iff, sameFenced]
          simp only [effect, kind, sameAdmission]
      | publishEndpoint =>
          have wanted : owner (.worker message.worker) = who :=
            own _ (by simp [Event.evidenceKeys, kind])
          simp only [effect, kind, sameAuthority _ _ wanted]
      | publishLink =>
          have wanted : owner (.worker message.worker) = who :=
            own _ (by simp [Event.evidenceKeys, kind])
          simp only [effect, kind, sameAuthority _ _ wanted]
      | publishCapacity | publishCongestion =>
          simp only [effect, kind]
          by_cases isNull : message.worker.isNull = true
          · simp [isNull]
          · have wanted : owner (.worker message.worker) = who :=
              own _ (by simp [Event.evidenceKeys, kind, isNull])
            simp only [sameAuthority _ _ wanted]
      | _ => simp only [effect, kind]
  | disconnect socket =>
      have wanted : owner (.socket socket) = who :=
        own _ (by simp [Event.evidenceKeys])
      have sameCarried :
          first.socketToWorker[socket]? = second.socketToWorker[socket]? :=
        same.carried socket wanted
      simp only [effect, sameCarried]
  | accept | undecodable | acquire | finish | saveStore => rfl

/-- An event of a party has an effect on the party. -/
theorem keys_effect
    (owned : registry.cells.Owned owner)
    (own : ∀ key ∈ event.evidenceKeys, owner key = who) :
    ∀ key ∈ (registry.effect event).keys, owner key = who := by
  have caused := registry.effectOf event
  generalize registry.effect event = effect at caused
  cases caused with
  | nothing => simp [RegistryEffect.keys]
  | enrolled socket message kind =>
      simpa [RegistryEffect.keys, Event.evidenceKeys, kind] using own
  | endpointPublished socket message kind =>
      simpa [RegistryEffect.keys, Event.evidenceKeys, kind] using own
  | linkPublished socket message kind =>
      simpa [RegistryEffect.keys, Event.evidenceKeys, kind] using own
  | capacityPublished socket message kind =>
      have wanted : owner (.link message.linkId) = who := by
        refine own _ ?_
        simp only [Event.evidenceKeys, kind]
        split_ifs <;> simp
      simpa [RegistryEffect.keys] using wanted
  | congestionPublished socket message kind =>
      have wanted : owner (.link message.linkId) = who := by
        refine own _ ?_
        simp only [Event.evidenceKeys, kind]
        split_ifs <;> simp
      simpa [RegistryEffect.keys] using wanted
  | disconnected socket worker registered =>
      have wanted : owner (.socket socket) = who :=
        own _ (by simp [Event.evidenceKeys])
      have sameOwner := owned.carried registered
      simp [RegistryEffect.keys, wanted, ← sameOwner]

/-! ## The registry as a machine of several parties -/

/-- What an event of the registry does. -/
def follow (registry : Registry) (event : Event) : Registry :=
  registry.apply (registry.effect event)

/-- The generations that an event advances. -/
structure Advances where
  topology : Bool := false
  capacity : Bool := false
  congestion : Bool := false

/-- The generations that an event advances, as its effect says. -/
def advances (registry : Registry) (event : Event) : Advances :=
  match registry.effect event with
  | .linkPublished _ _ => { topology := true }
  | .capacityPublished _ _ => { capacity := true }
  | .congestionPublished _ _ => { congestion := true }
  | .disconnected _ worker =>
      { topology := registry.workers[worker]?.isSome }
  | _ => {}

theorem advances_eq_of_sameFor
    (owned : first.cells.Owned owner)
    (own : ∀ key ∈ event.evidenceKeys, owner key = who)
    (same : EvidenceCells.SameFor owner who first.cells second.cells) :
    first.advances event = second.advances event := by
  have sameEffect := effect_eq_of_sameFor own same
  have ownEffect := keys_effect owned own
  unfold advances
  rw [← sameEffect]
  cases isEffect : first.effect event with
  | disconnected socket worker =>
      rw [isEffect] at ownEffect
      have sameWorker :
          first.workers[worker]? = second.workers[worker]? :=
        same.info worker (ownEffect _ (by simp [RegistryEffect.keys]))
      simp only [sameWorker]
  | _ => rfl

/-- The cells of the parties make the registry a machine of several parties. -/
theorem isLocal
    [DecidableEq Party]
    (owner : EvidenceKey → Party)
    (party : Event → Party) :
    Local follow advances party
      (fun event => ∀ key ∈ event.evidenceKeys, owner key = party event)
      (fun registry => DistinctIds registry.snap ∧ registry.cells.Owned owner)
      (fun who first second =>
        EvidenceCells.SameFor owner who first.cells second.cells) where
  equivalence who :=
    (EvidenceCells.equivalence_sameFor owner who).comap cells
  keeps isKept fits := by
    obtain ⟨distinct, owned⟩ := isKept
    refine ⟨distinctIds_apply distinct _, ?_⟩
    rw [follow, cells_apply distinct]
    exact EvidenceCells.owned_apply owned (keys_effect owned fits)
  apart isKept fits other := by
    obtain ⟨distinct, owned⟩ := isKept
    rw [follow, cells_apply distinct]
    exact EvidenceCells.sameFor_apply_of_apart owned
      (keys_effect owned fits) other
  alike isKept isKeptToo fits same := by
    obtain ⟨distinct, owned⟩ := isKept
    refine ⟨?_, advances_eq_of_sameFor owned fits same⟩
    rw [follow, follow, ← effect_eq_of_sameFor fits same,
      cells_apply distinct, cells_apply isKeptToo.1]
    exact EvidenceCells.sameFor_apply (keys_effect owned fits) same

end Registry

/-! ## Snapshots with the same cells -/

/-- Items of distinct keys that are found alike are the same items. -/
theorem perm_of_indexBy_eq
    {κ α : Type}
    [LinearOrder κ]
    {key : α → κ}
    {first second : List α}
    (distinct : (first.map key).Nodup)
    (distinctToo : (second.map key).Nodup)
    (same :
      ∀ wanted : κ,
        (indexBy key first)[wanted]? = (indexBy key second)[wanted]?) :
    first.Perm second := by
  refine (List.perm_ext_iff_of_nodup (List.Nodup.of_map _ distinct)
    (List.Nodup.of_map _ distinctToo)).mpr ?_
  intro item
  constructor
  · intro member
    have found := getElem?_indexBy_of_mem distinct member
    rw [same] at found
    exact (mem_of_getElem?_indexBy found).1
  · intro member
    have found := getElem?_indexBy_of_mem distinctToo member
    rw [← same] at found
    exact (mem_of_getElem?_indexBy found).1

/-- What no event changes of a snapshot. -/
def EvidenceSnapshot.setting (snapshot : EvidenceSnapshot) : EvidenceSnapshot :=
  { snapshot with
    topologyGeneration := ⟨0⟩
    capacityGeneration := ⟨0⟩
    congestionGeneration := ⟨0⟩
    endpoints := []
    links := []
    workerBoots := ∅
    sourceBoots := ∅ }

namespace Registry

variable
  {first second : Registry}

theorem setting_fenceWorker
    (registry : Registry)
    (worker : WorkerId) :
    (registry.fenceWorker worker).snap.setting = registry.snap.setting := by
  unfold fenceWorker
  split <;> rfl

/-- A fence advances the generation of the topology if it finds the worker. -/
theorem generations_fenceWorker
    (registry : Registry)
    (worker : WorkerId) :
    (registry.fenceWorker worker).snap.topologyGeneration =
        (if registry.workers[worker]?.isSome then
          registry.snap.topologyGeneration.next
        else
          registry.snap.topologyGeneration) ∧
      (registry.fenceWorker worker).snap.capacityGeneration =
        registry.snap.capacityGeneration ∧
      (registry.fenceWorker worker).snap.congestionGeneration =
        registry.snap.congestionGeneration := by
  unfold fenceWorker
  split
  · rename_i missing
    simp [missing, forgetBoots]
  · rename_i info found
    simp [found, withdraw, forgetBoots]

theorem setting_follow
    (registry : Registry)
    (event : Event) :
    (registry.follow event).snap.setting = registry.snap.setting := by
  unfold follow
  cases registry.effect event with
  | disconnected socket worker => exact setting_fenceWorker registry worker
  | _ => rfl

theorem setting_foldl
    (registry : Registry)
    (events : List Event) :
    (events.foldl follow registry).snap.setting = registry.snap.setting := by
  induction events generalizing registry with
  | nil => rfl
  | cons event events inductionHypothesis =>
      exact (inductionHypothesis _).trans (setting_follow registry event)

theorem topologyGeneration_follow
    (registry : Registry)
    (event : Event) :
    (registry.follow event).snap.topologyGeneration =
      if (registry.advances event).topology then
        registry.snap.topologyGeneration.next
      else
        registry.snap.topologyGeneration := by
  unfold follow advances
  cases registry.effect event with
  | disconnected socket worker =>
      exact (generations_fenceWorker registry worker).1
  | _ => rfl

theorem capacityGeneration_follow
    (registry : Registry)
    (event : Event) :
    (registry.follow event).snap.capacityGeneration =
      if (registry.advances event).capacity then
        registry.snap.capacityGeneration.next
      else
        registry.snap.capacityGeneration := by
  unfold follow advances
  cases registry.effect event with
  | disconnected socket worker =>
      exact (generations_fenceWorker registry worker).2.1
  | _ => rfl

theorem congestionGeneration_follow
    (registry : Registry)
    (event : Event) :
    (registry.follow event).snap.congestionGeneration =
      if (registry.advances event).congestion then
        registry.snap.congestionGeneration.next
      else
        registry.snap.congestionGeneration := by
  unfold follow advances
  cases registry.effect event with
  | disconnected socket worker =>
      exact (generations_fenceWorker registry worker).2.2
  | _ => rfl

/-- Registries with the same cells, generations and setting hold the same
evidence in some order. -/
theorem reordered_of_cells
    (distinct : DistinctIds first.snap)
    (distinctToo : DistinctIds second.snap)
    (cells : first.cells = second.cells)
    (setting : first.snap.setting = second.snap.setting)
    (topology :
      first.snap.topologyGeneration = second.snap.topologyGeneration)
    (capacity :
      first.snap.capacityGeneration = second.snap.capacityGeneration)
    (congestion :
      first.snap.congestionGeneration = second.snap.congestionGeneration) :
    Reordered first.snap second.snap := by
  have boots : first.snap.workerBoots = second.snap.workerBoots :=
    Std.ExtTreeMap.ext_getElem?
      (congrFun (congrArg EvidenceCells.boot cells))
  have sources : first.snap.sourceBoots = second.snap.sourceBoots :=
    Std.ExtTreeMap.ext_getElem? fun source =>
      congrFun (congrArg EvidenceCells.source cells) ⟨source.value⟩
  refine
    { endpoints := perm_of_indexBy_eq distinct.endpoints distinctToo.endpoints
        (congrFun (congrArg EvidenceCells.endpoint cells))
      links := perm_of_indexBy_eq distinct.links distinctToo.links
        (congrFun (congrArg EvidenceCells.link cells))
      reservations := ?_
      otherwise := ?_ }
  · have reservations :
        first.snap.reservations = second.snap.reservations := by
      simpa [EvidenceSnapshot.setting] using
        congrArg EvidenceSnapshot.reservations setting
    rw [reservations]
  · cases isFirst : first.snap
    cases isSecond : second.snap
    simp_all [EvidenceSnapshot.setting]

end Registry

namespace Coordinator

variable
  {config : Config}
  {firstStore secondStore : Option (List UInt8)}
  {firstPast secondPast : List CoordinatorStep}
  {firstFinal secondFinal : Coordinator}
  {request : CommunicationRequest}

/-- However the parties' events were interleaved, the evidence is the same. -/
theorem reordered_of_interleaved
    [DecidableEq Party]
    {party : Event → Party}
    (firstRun : ProcessRun config firstStore firstPast firstFinal)
    (secondRun : ProcessRun config secondStore secondPast secondFinal)
    (sameEpoch : (start firstStore).epoch = (start secondStore).epoch)
    (interleaved :
      Interleaved party (evidenceEvents firstPast)
        (evidenceEvents secondPast))
    (apart :
      ∀ event ∈ evidenceEvents firstPast,
        ∀ key ∈ event.evidenceKeys, owner key = party event) :
    Reordered firstFinal.registry.snap secondFinal.registry.snap := by
  have isLocal := Registry.isLocal owner party
  have isKept :
      DistinctIds (start firstStore).registry.snap ∧
        (start firstStore).registry.cells.Owned owner := by
    refine ⟨⟨List.nodup_nil, List.nodup_nil⟩, ?_⟩
    exact
      { carried := fun carried => by
          simp [Registry.cells, start] at carried
        endpoints := fun listed => by
          simp [Registry.cells, start, EvidenceCells.listsEndpoint] at listed
        links := fun listed => by
          simp [Registry.cells, start, EvidenceCells.listsLink] at listed }
  have firstRegistry :
      firstFinal.registry =
        (evidenceEvents firstPast).foldl Registry.follow
          (start firstStore).registry := registry_of_run firstRun
  have secondRegistry :
      secondFinal.registry =
        (evidenceEvents secondPast).foldl Registry.follow
          (start firstStore).registry := by
    rw [registry_of_start sameEpoch]
    exact registry_of_run secondRun
  have sameCells := isLocal.same_of_interleaved isKept apart interleaved
  refine Registry.reordered_of_cells (distinctIds_of_run firstRun)
    (distinctIds_of_run secondRun) ?_ ?_ ?_ ?_ ?_
  · rw [firstRegistry, secondRegistry]
    refine EvidenceCells.ext ?_ ?_ ?_ ?_ ?_ ?_ ?_
    · exact funext fun id => (sameCells _).endpoint id rfl
    · exact funext fun id => (sameCells _).link id rfl
    · exact funext fun worker => (sameCells _).info worker rfl
    · exact funext fun worker => (sameCells _).boot worker rfl
    · exact funext fun worker => (sameCells _).source worker rfl
    · exact funext fun worker => (sameCells _).fenced worker rfl
    · exact funext fun socket => (sameCells _).carried socket rfl
  · rw [firstRegistry, secondRegistry, Registry.setting_foldl,
      Registry.setting_foldl]
  · rw [firstRegistry, secondRegistry]
    exact isLocal.counter_of_interleaved isKept apart interleaved
      (fun registry => registry.snap.topologyGeneration) Generation.next
      Registry.Advances.topology Registry.topologyGeneration_follow
  · rw [firstRegistry, secondRegistry]
    exact isLocal.counter_of_interleaved isKept apart interleaved
      (fun registry => registry.snap.capacityGeneration) Generation.next
      Registry.Advances.capacity Registry.capacityGeneration_follow
  · rw [firstRegistry, secondRegistry]
    exact isLocal.counter_of_interleaved isKept apart interleaved
      (fun registry => registry.snap.congestionGeneration) Generation.next
      Registry.Advances.congestion Registry.congestionGeneration_follow

/--
Two coordinators of one epoch that have been told the same by each party, in the
party's order but interleaved in any way, plan a request alike, up to the
identities they draw.
-/
theorem planning_ignores_interleavings
    [DecidableEq Party]
    {party : Event → Party}
    {first second : CoordinatorStep}
    (firstRun :
      ProcessRun config firstStore (firstPast ++ [first]) firstFinal)
    (secondRun :
      ProcessRun config secondStore (secondPast ++ [second]) secondFinal)
    (sameEpoch : (start firstStore).epoch = (start secondStore).epoch)
    (interleaved :
      Interleaved party (evidenceEvents firstPast)
        (evidenceEvents secondPast))
    (apart :
      ∀ event ∈ evidenceEvents firstPast,
        ∀ key ∈ event.evidenceKeys, owner key = party event)
    (firstAsks : AsksToPlan first request)
    (secondAsks : AsksToPlan second request) :
    (∀ plan,
      submits first request plan →
      ∃ other,
        submits second request other ∧ other.anonymous = plan.anonymous) ∧
    ∀ plan,
      submits second request plan →
      ∃ other,
        submits first request other ∧ other.anonymous = plan.anonymous := by
  obtain ⟨firstRun, firstStepped, _⟩ := firstRun.cut
  obtain ⟨secondRun, secondStepped, _⟩ := secondRun.cut
  have reordered :=
    reordered_of_interleaved firstRun secondRun sameEpoch interleaved apart
  have samePlanning :=
    planCommunication_eq_of_reordered reordered (distinctIds_of_run firstRun)
      request config.weights config.bounds
  exact ⟨fun plan => submits_alike firstStepped secondStepped samePlanning
      secondAsks,
    fun plan => submits_alike secondStepped firstStepped samePlanning.symm
      firstAsks⟩

/-- A second worker, with an endpoint and a link of its own. -/
def neighbour : List Event :=
  .accept ⟨5⟩ ::
    receiveAll ⟨5⟩
      [ CoordinatorClient.registerWorker ⟨2⟩ ⟨1⟩ [],
        CoordinatorClient.publishEndpoint ⟨2⟩ ⟨1⟩
          (mkEndpoint ⟨3⟩ ⟨1⟩ .cpuMemory .tcp),
        CoordinatorClient.publishLink ⟨2⟩ ⟨1⟩
          (mkLink ⟨8⟩ ⟨1⟩ ⟨1⟩ ⟨2⟩ .tcp 2000) ]

/-- What is the second worker's. -/
def neighbourOwns : EvidenceKey → Bool
  | .socket socket => socket = ⟨5⟩
  | .worker worker => worker = ⟨2⟩
  | .endpoint id => id = ⟨3⟩
  | .link id => id = ⟨8⟩

/-- The event comes from the second worker. -/
def ofNeighbour : Event → Bool
  | .receive socket _ => socket = ⟨5⟩
  | .disconnect socket => socket = ⟨5⟩
  | _ => false

/-- One worker publishes before the other, or after it. -/
theorem planning_ignores_who_came_first :
    ∃ firstPast first firstFinal secondPast second secondFinal plan other,
      ProcessRun defaultConfig none (firstPast ++ [first]) firstFinal ∧
      ProcessRun defaultConfig none (secondPast ++ [second]) secondFinal ∧
      (first.before.registry.snap.links.map fun link => link.id) =
        [⟨7⟩, ⟨8⟩] ∧
      (second.before.registry.snap.links.map fun link => link.id) =
        [⟨8⟩, ⟨7⟩] ∧
      submits first (directRequest ⟨9⟩) plan ∧
      submits second (directRequest ⟨9⟩) other ∧
      other.anonymous = plan.anonymous := by
  let asks : Event :=
    .receive ⟨4⟩ (CoordinatorClient.submitRequest (directRequest ⟨9⟩))
  have checked :
      (replay? (step? defaultConfig) (start none)
        (deployment ⟨4⟩ ⟨1⟩ ++ neighbour)).any
        (fun reached =>
          (reached.2.registry.snap.links.map fun link => link.id) =
              [⟨7⟩, ⟨8⟩] &&
          (⟨9⟩ : CommunicationRequestId) ∉ reached.2.ledger.cancelled &&
          reached.2.planState? ⟨1⟩ = none &&
          (step? defaultConfig reached.2 asks).any
            fun submitted =>
              submitted.1.ledger.plans[(⟨1⟩ : CommunicationPlanId)]?.isSome) =
          true := by
    decide +kernel
  have checkedToo :
      (replay? (step? defaultConfig) (start none)
        (neighbour ++ deployment ⟨4⟩ ⟨1⟩)).any
        (fun reached =>
          (reached.2.registry.snap.links.map fun link => link.id) =
              [⟨8⟩, ⟨7⟩] &&
          (⟨9⟩ : CommunicationRequestId) ∉ reached.2.ledger.cancelled &&
          (step? defaultConfig reached.2 asks).isSome) = true := by
    decide +kernel
  obtain ⟨⟨firstPast, reached⟩, replayed, holds⟩ :=
    (Option.any_eq_true _ _).mp checked
  obtain ⟨⟨secondPast, reachedToo⟩, replayedToo, holdsToo⟩ :=
    (Option.any_eq_true _ _).mp checkedToo
  simp only [Bool.and_eq_true, decide_eq_true_eq] at holds holdsToo
  obtain ⟨⟨⟨links, open_⟩, absent⟩, holds⟩ := holds
  obtain ⟨⟨linksToo, openToo⟩, answered⟩ := holdsToo
  obtain ⟨⟨after, actions⟩, stepped, entered⟩ :=
    (Option.any_eq_true _ _).mp holds
  obtain ⟨record, entered⟩ := Option.isSome_iff_exists.mp entered
  obtain ⟨⟨afterToo, answers⟩, steppedToo⟩ :=
    Option.isSome_iff_exists.mp answered
  have planned := submits_of_entered stepped rfl entered (by
    rw [absent, planState?, entered]
    simp)
  have interleaved :
      Interleaved ofNeighbour (evidenceEvents firstPast)
        (evidenceEvents secondPast) := by
    unfold evidenceEvents
    rw [map_event_of_replay? replayed, map_event_of_replay? replayedToo]
    intro who
    cases who <;> rfl
  have apart :
      ∀ event ∈ evidenceEvents firstPast,
        ∀ key ∈ event.evidenceKeys,
          neighbourOwns key = ofNeighbour event := by
    unfold evidenceEvents
    rw [map_event_of_replay? replayed]
    decide +kernel
  obtain ⟨plansAlike, _⟩ :=
    planning_ignores_interleavings ((run_of_replay? replayed).snoc stepped)
      ((run_of_replay? replayedToo).snoc steppedToo) rfl interleaved apart
      ⟨_, _, rfl, rfl, rfl, open_⟩ ⟨_, _, rfl, rfl, rfl, openToo⟩
  obtain ⟨other, plannedToo, alike⟩ := plansAlike _ planned
  exact ⟨firstPast, _, after, secondPast, _, afterToo, record.plan, other,
    (run_of_replay? replayed).snoc stepped,
    (run_of_replay? replayedToo).snoc steppedToo, links, linksToo, planned,
    plannedToo, alike⟩

end Coordinator

end CommunicationPlanner
