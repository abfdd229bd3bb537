import CommunicationPlanner.Failover

namespace CommunicationPlanner

open OrderedCollections

/-!
# The evidence as cells

Abstractly the registry is a family of cells: one for each endpoint, link,
worker and socket.  An effect changes a few of them, and reads no others.  The
lists and maps of the registry represent the cells, whatever their order.
-/

/-- What is known under each identity. -/
@[ext] structure EvidenceCells where
  endpoint : EndpointId → Option Endpoint
  link : LinkId → Option Link
  info : WorkerId → Option WorkerInfo
  boot : WorkerId → Option WorkerBootId
  source : WorkerId → Option SourceBootId
  fenced : WorkerId → WorkerBootId → Prop
  carried : Socket → Option WorkerId

namespace EvidenceCells

/-- The worker lists the endpoint. -/
def listsEndpoint
    (cells : EvidenceCells)
    (worker : WorkerId)
    (id : EndpointId) : Bool :=
  (cells.info worker).any fun info => id ∈ info.endpoints

/-- The worker lists the link. -/
def listsLink
    (cells : EvidenceCells)
    (worker : WorkerId)
    (id : LinkId) : Bool :=
  (cells.info worker).any fun info => id ∈ info.links

/-- Only the cell of one link changes. -/
def updateLink
    (cells : EvidenceCells)
    (id : LinkId)
    (change : Link → Link) : EvidenceCells :=
  { cells with
    link := Function.update cells.link id ((cells.link id).map change) }

/-- Only the cell of one worker changes. -/
def updateInfo
    (cells : EvidenceCells)
    (worker : WorkerId)
    (change : WorkerInfo → WorkerInfo) : EvidenceCells :=
  { cells with
    info := Function.update cells.info worker ((cells.info worker).map change) }

/-- The worker's boots are forgotten, its incarnation is fenced, and what it
lists is withdrawn. -/
def fence
    (cells : EvidenceCells)
    (worker : WorkerId) : EvidenceCells :=
  { cells.updateInfo worker fun info => { info with alive := false } with
    endpoint := fun id =>
      (cells.endpoint id).map fun endpoint =>
        if cells.listsEndpoint worker id then
          { endpoint with reachable := false, ready := false }
        else
          endpoint
    link := fun id =>
      if cells.listsLink worker id then none else cells.link id
    boot := Function.update cells.boot worker none
    source := Function.update cells.source worker none
    fenced := fun other boot =>
      cells.fenced other boot ∨
        ∃ info,
          cells.info worker = some info ∧
          (other, boot) = (worker, info.boot) }

/-- What an effect does, cell by cell. -/
def apply (cells : EvidenceCells) : RegistryEffect → EvidenceCells
  | .nothing => cells
  | .enrolled socket worker boot name =>
      { cells with
        info :=
          Function.update cells.info worker
            (some { id := worker, boot := boot, name := name, sock := socket })
        boot := Function.update cells.boot worker (some boot)
        source := Function.update cells.source worker (some ⟨boot.value⟩)
        carried := Function.update cells.carried socket (some worker) }
  | .endpointPublished worker endpoint =>
      { cells.updateInfo worker fun info =>
          { info with endpoints := info.endpoints ++ [endpoint.id] } with
        endpoint :=
          Function.update cells.endpoint endpoint.id (some endpoint) }
  | .linkPublished worker link =>
      { cells.updateInfo worker fun info =>
          { info with links := info.links ++ [link.id] } with
        link := Function.update cells.link link.id (some link) }
  | .capacityPublished link capacity =>
      cells.updateLink link fun known =>
        { known with capacityEvidence := capacity }
  | .congestionPublished link congestion =>
      cells.updateLink link fun known =>
        { known with congestion := congestion }
  | .disconnected socket worker =>
      { cells.fence worker with
        carried := Function.update cells.carried socket none }

end EvidenceCells

/-! ## The cells of a registry -/

namespace Registry

/-- The registry, cell by cell. -/
def cells (registry : Registry) : EvidenceCells :=
  { endpoint := fun id => registry.snap.endpointMap[id]?
    link := fun id => registry.snap.linkMap[id]?
    info := fun worker => registry.workers[worker]?
    boot := fun worker => registry.snap.workerBoots[worker]?
    source := fun worker =>
      registry.snap.sourceBoots[(⟨worker.value⟩ : SourceId)]?
    fenced := fun worker boot => (worker, boot) ∈ registry.fenced
    carried := fun socket => registry.socketToWorker[socket]? }

variable
  {registry : Registry}

/-! ## Changes of one key -/

/-- An insertion is an update of one cell. -/
theorem getElem?_insert_eq_update
    {κ α : Type}
    [LinearOrder κ]
    (index : Map κ α)
    (key : κ)
    (value : α) :
    (fun wanted => (index.insert key value)[wanted]?) =
      Function.update (fun wanted => index[wanted]?) key (some value) := by
  funext wanted
  simp only [Function.update_apply, Std.ExtTreeMap.getElem?_insert,
    Std.LawfulEqCmp.compare_eq_iff_eq, eq_comm (a := wanted)]

/-- An erasure is an update of one cell. -/
theorem getElem?_erase_eq_update
    {κ α : Type}
    [LinearOrder κ]
    (index : Map κ α)
    (key : κ) :
    (fun wanted => (index.erase key)[wanted]?) =
      Function.update (fun wanted => index[wanted]?) key none := by
  funext wanted
  simp only [Function.update_apply, Std.ExtTreeMap.getElem?_erase,
    Std.LawfulEqCmp.compare_eq_iff_eq, eq_comm (a := wanted)]

/-- The boots of sources are kept by the numbers of their workers. -/
theorem sourceBoots_update
    {before after : Map SourceId SourceBootId}
    {worker : WorkerId}
    {boot : Option SourceBootId}
    (updated :
      (fun wanted : SourceId => after[wanted]?) =
        Function.update (fun wanted => before[wanted]?) ⟨worker.value⟩ boot) :
    (fun wanted : WorkerId => after[(⟨wanted.value⟩ : SourceId)]?) =
      Function.update
        (fun wanted : WorkerId => before[(⟨wanted.value⟩ : SourceId)]?) worker
        boot := by
  funext wanted
  have cell := congrFun updated ⟨wanted.value⟩
  rw [cell]
  by_cases same : wanted = worker
  · simp [same]
  · have other : (⟨wanted.value⟩ : SourceId) ≠ ⟨worker.value⟩ := by
      intro isSame
      have values := congrArg Id.value isSame
      exact same (by cases wanted; cases worker; simpa using values)
    simp [same, other]

/-- Listing an endpoint updates the cell of one worker. -/
theorem info_listEndpoint
    (workers : Map WorkerId WorkerInfo)
    (worker : WorkerId)
    (id : EndpointId) :
    (fun wanted => (listEndpoint workers worker id)[wanted]?) =
      Function.update (fun wanted => workers[wanted]?) worker
        (workers[worker]?.map fun info =>
          { info with endpoints := info.endpoints ++ [id] }) := by
  funext wanted
  rw [getElem?_listEndpoint, Function.update_apply]
  by_cases same : worker = wanted
  · simp [same]
  · simp [same, Ne.symm same]

/-- Listing a link updates the cell of one worker. -/
theorem info_listLink
    (workers : Map WorkerId WorkerInfo)
    (worker : WorkerId)
    (id : LinkId) :
    (fun wanted => (listLink workers worker id)[wanted]?) =
      Function.update (fun wanted => workers[wanted]?) worker
        (workers[worker]?.map fun info =>
          { info with links := info.links ++ [id] }) := by
  funext wanted
  rw [getElem?_listLink, Function.update_apply]
  by_cases same : worker = wanted
  · simp [same]
  · simp [same, Ne.symm same]

/-- A change of the links under one identity updates one cell. -/
theorem link_updateLinks
    (links : List Link)
    (id : LinkId)
    (change : Link → Link)
    (keeps : ∀ link, (change link).id = link.id) :
    (fun wanted =>
        (indexBy (fun link : Link => link.id)
          (updateLinks links id change))[wanted]?) =
      Function.update
        (fun wanted => (indexBy (fun link : Link => link.id) links)[wanted]?)
        id
        ((indexBy (fun link : Link => link.id) links)[id]?.map change) := by
  funext wanted
  have keepsKey :
      ∀ link : Link,
        (if link.id = id then change link else link).id = link.id := by
    intro link
    split_ifs
    · exact keeps link
    · rfl
  rw [updateLinks, getElem?_indexBy_map _ _ keepsKey, Function.update_apply]
  cases found : (indexBy (fun link : Link => link.id) links)[wanted]? with
  | none =>
      split_ifs with same
      · rw [← same, found]
        rfl
      · rfl
  | some link =>
      obtain ⟨_, isKey⟩ := mem_of_getElem?_indexBy found
      split_ifs with same
      · rw [← same, found]
        simp [isKey, same]
      · simp [isKey, same]

/-! ## Every effect -/

/-- A fence does to the cells what it does to the registry. -/
theorem cells_fenceWorker
    (registry : Registry)
    (worker : WorkerId) :
    (registry.fenceWorker worker).cells = registry.cells.fence worker := by
  have sourceBoots :
      (registry.fenceWorker worker).snap.sourceBoots =
        registry.snap.sourceBoots.erase ⟨worker.value⟩ := by
    unfold fenceWorker
    split <;> rfl
  have carried :
      (registry.fenceWorker worker).socketToWorker =
        registry.socketToWorker := by
    unfold fenceWorker
    split <;> rfl
  refine EvidenceCells.ext ?_ ?_ ?_ ?_ ?_ ?_ ?_
  · funext id
    exact endpointMap_fenceWorker registry worker id
  · funext id
    exact linkMap_fenceWorker registry worker id
  · funext wanted
    simp only [cells, EvidenceCells.fence, EvidenceCells.updateInfo,
      getElem?_workers_fenceWorker, Function.update_apply,
      eq_comm (a := wanted)]
    split_ifs with same
    · rw [same]
    · rfl
  · funext wanted
    simp only [cells, EvidenceCells.fence, getElem?_workerBoots_fenceWorker,
      Function.update_apply, eq_comm (a := wanted)]
  · exact sourceBoots_update
      (sourceBoots ▸ getElem?_erase_eq_update _ _)
  · funext other boot
    exact propext mem_fenced_fenceWorker
  · funext socket
    simp only [cells, carried]
    rfl

/-- An effect does to the lists and maps what it does to the cells. -/
theorem cells_apply
    (distinct : DistinctIds registry.snap)
    (effect : RegistryEffect) :
    (registry.apply effect).cells = registry.cells.apply effect := by
  cases effect with
  | nothing => rfl
  | enrolled socket worker boot name =>
      refine EvidenceCells.ext rfl rfl ?_ ?_ ?_ rfl ?_
      · exact getElem?_insert_eq_update _ _ _
      · exact getElem?_insert_eq_update _ _ _
      · exact sourceBoots_update (getElem?_insert_eq_update _ _ _)
      · exact getElem?_insert_eq_update _ _ _
  | endpointPublished worker endpoint =>
      refine EvidenceCells.ext ?_ rfl ?_ rfl rfl rfl rfl
      · funext wanted
        simp only [cells, apply, publishEndpoint, EvidenceCells.apply,
          EvidenceSnapshot.endpointMap, Function.update_apply,
          getElem?_indexBy_replaceOrAppend distinct.endpoints,
          eq_comm (a := wanted)]
      · exact info_listEndpoint _ _ _
  | linkPublished worker link =>
      refine EvidenceCells.ext rfl ?_ ?_ rfl rfl rfl rfl
      · funext wanted
        simp only [cells, apply, publishLink, EvidenceCells.apply,
          EvidenceSnapshot.linkMap, Function.update_apply,
          getElem?_indexBy_replaceOrAppend distinct.links,
          eq_comm (a := wanted)]
      · exact info_listLink _ _ _
  | capacityPublished link capacity =>
      refine EvidenceCells.ext rfl ?_ rfl rfl rfl rfl rfl
      exact link_updateLinks _ _ _ fun _ => rfl
  | congestionPublished link congestion =>
      refine EvidenceCells.ext rfl ?_ rfl rfl rfl rfl rfl
      exact link_updateLinks _ _ _ fun _ => rfl
  | disconnected socket worker =>
      have fenced := cells_fenceWorker registry worker
      have field {α : Type} (read : EvidenceCells → α) :
          read (registry.fenceWorker worker).cells =
            read (registry.cells.fence worker) :=
        congrArg read fenced
      refine EvidenceCells.ext ?_ ?_ ?_ ?_ ?_ ?_ ?_
      · exact field EvidenceCells.endpoint
      · exact field EvidenceCells.link
      · exact field EvidenceCells.info
      · exact field EvidenceCells.boot
      · exact field EvidenceCells.source
      · exact field EvidenceCells.fenced
      · exact getElem?_erase_eq_update _ _

end Registry

end CommunicationPlanner
