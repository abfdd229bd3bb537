import CommunicationPlanner.SimplePathSearch
import Mathlib.Data.List.Infix
import Mathlib.Logic.Relation

/-!
# Walks and the simple paths within them

A walk may come back to a vertex; cutting out what lies in between leaves a
simple path over some of its edges.  So whatever is asked of each edge, or of
each interior vertex, a walk has it if and only if a simple path does, and both
exist exactly when the destination is reachable by such edges.
-/

namespace SimplePathSearch

variable
  {V E : Type}
  {graph : SearchGraph V E}
  {source vertex destination : V}
  {path walk : List E}

/-- What is left of a simple path from one of its vertices on. -/
theorem exists_suffix_of_visited
    (leads : graph.Leads source path destination)
    (simple : (source :: path.map graph.target).Nodup)
    (visited : vertex ∈ source :: path.map graph.target) :
    ∃ rest,
      rest <:+ path ∧
      graph.Leads vertex rest destination ∧
      (vertex :: rest.map graph.target).Nodup := by
  induction path generalizing source with
  | nil =>
      rw [List.map_nil, List.mem_singleton] at visited
      subst visited
      exact ⟨[], List.suffix_rfl, leads, simple⟩
  | cons edge later inductionHypothesis =>
      rcases List.mem_cons.mp visited with rfl | onward
      · exact ⟨edge :: later, List.suffix_rfl, leads, simple⟩
      · obtain ⟨rest, isSuffix, restLeads, restSimple⟩ :=
          inductionHypothesis leads.2 (List.nodup_cons.mp simple).2 onward
        exact ⟨rest, isSuffix.trans (List.suffix_cons _ _), restLeads,
          restSimple⟩

/-- Loops can be cut out of a walk. -/
theorem exists_simplePath_of_leads
    [DecidableEq V]
    (leads : graph.Leads source walk destination)
    (apart : source ≠ destination) :
    ∃ path,
      path.Sublist walk ∧
      graph.SimplePath source destination path := by
  have erased :
      ∃ path : List E,
        path.Sublist walk ∧
        graph.Leads source path destination ∧
        (source :: path.map graph.target).Nodup := by
    clear apart
    induction walk generalizing source with
    | nil =>
        exact ⟨[], .slnil, leads, by simp⟩
    | cons edge later inductionHypothesis =>
        obtain ⟨path, within, pathLeads, simple⟩ :=
          inductionHypothesis leads.2
        by_cases returns :
            source ∈ graph.target edge :: path.map graph.target
        · obtain ⟨rest, isSuffix, restLeads, restSimple⟩ :=
            exists_suffix_of_visited pathLeads simple returns
          exact ⟨rest, (isSuffix.sublist.trans within).cons edge, restLeads,
            restSimple⟩
        · exact ⟨edge :: path, within.cons_cons edge, ⟨leads.1, pathLeads⟩,
            List.nodup_cons.mpr ⟨returns, simple⟩⟩
  obtain ⟨path, within, pathLeads, simple⟩ := erased
  refine ⟨path, within, ?_, pathLeads, simple⟩
  rintro rfl
  exact apart pathLeads

/-- A walk ends where its last edge does. -/
theorem target_getLast_of_leads
    (leads : graph.Leads source walk destination)
    (nonempty : walk ≠ []) :
    graph.target (walk.getLast nonempty) = destination := by
  induction walk generalizing source with
  | nil =>
      exact (nonempty rfl).elim
  | cons edge later inductionHypothesis =>
      cases later with
      | nil => exact leads.2
      | cons next rest =>
          rw [List.getLast_cons (List.cons_ne_nil next rest)]
          exact inductionHypothesis leads.2 (List.cons_ne_nil next rest)

/-- An edge of a walk that does not end at its destination is not the last. -/
theorem mem_dropLast_of_target_ne
    {edge : E}
    (leads : graph.Leads source walk destination)
    (member : edge ∈ walk)
    (elsewhere : graph.target edge ≠ destination) :
    edge ∈ walk.dropLast := by
  have nonempty := List.ne_nil_of_mem member
  rw [← List.dropLast_append_getLast nonempty, List.mem_append,
    List.mem_singleton] at member
  rcases member with inside | rfl
  · exact inside
  · exact (elsewhere (target_getLast_of_leads leads nonempty)).elim

namespace SearchGraph.SimplePath

/-- A simple path does not pass through its destination. -/
theorem target_ne_of_mem_dropLast
    (simplePath : graph.SimplePath source destination path)
    {edge : E}
    (member : edge ∈ path.dropLast) :
    graph.target edge ≠ destination := by
  intro arrived
  have simple := (List.nodup_cons.mp simplePath.simple).2
  rw [← List.dropLast_append_getLast simplePath.nonempty, List.map_append,
    List.map_singleton, List.nodup_append] at simple
  refine simple.2.2 _ (List.mem_map_of_mem member) _ (List.mem_singleton.mpr rfl)
    ?_
  rw [arrived, target_getLast_of_leads simplePath.leads simplePath.nonempty]

/-- A simple path has fewer edges than there are vertices. -/
theorem length_lt
    (simplePath : graph.SimplePath source destination path)
    {vertices : List V}
    (fromVertex : source ∈ vertices)
    (toVertices : ∀ edge ∈ path, graph.target edge ∈ vertices) :
    path.length < vertices.length := by
  have within : source :: path.map graph.target ⊆ vertices := by
    intro vertex member
    rcases List.mem_cons.mp member with rfl | later
    · exact fromVertex
    · obtain ⟨edge, inPath, rfl⟩ := List.mem_map.mp later
      exact toVertices edge inPath
  have counted := (List.subperm_of_subset simplePath.simple within).length_le
  rwa [List.length_cons, List.length_map, Nat.succ_le_iff] at counted

end SearchGraph.SimplePath

/-- One edge that may be taken leads from one vertex to the other. -/
def SearchGraph.StepsBy
    (graph : SearchGraph V E)
    (taken : E → Prop)
    (source target : V) : Prop :=
  ∃ edge ∈ graph.edges source, taken edge ∧ graph.target edge = target

/-- What can be reached by edges that may be taken is the end of a walk. -/
theorem reflTransGen_stepsBy_iff
    {taken : E → Prop} :
    Relation.ReflTransGen (graph.StepsBy taken) source destination ↔
      ∃ walk,
        graph.Leads source walk destination ∧ ∀ edge ∈ walk, taken edge := by
  constructor
  · intro reaches
    induction reaches using Relation.ReflTransGen.head_induction_on with
    | refl =>
        exact ⟨[], rfl, by simp⟩
    | head step _ inductionHypothesis =>
        obtain ⟨edge, isEdge, isTaken, rfl⟩ := step
        obtain ⟨walk, leads, allTaken⟩ := inductionHypothesis
        exact ⟨edge :: walk, ⟨isEdge, leads⟩,
          List.forall_mem_cons.mpr ⟨isTaken, allTaken⟩⟩
  · rintro ⟨walk, leads, allTaken⟩
    induction walk generalizing source with
    | nil =>
        rw [show source = destination from leads]
    | cons edge later inductionHypothesis =>
        rw [List.forall_mem_cons] at allTaken
        exact .head ⟨edge, leads.1, allTaken.1, rfl⟩
          (inductionHypothesis leads.2 allTaken.2)

end SimplePathSearch
