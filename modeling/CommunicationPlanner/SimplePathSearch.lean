import Mathlib.Data.List.Nodup
import Mathlib.Data.List.Perm.Basic

/-!
# Bounded enumeration of simple paths

`search` is a depth-first search that backtracks over a visited set, collects
the accepted trails that end in the goal, and stops collecting at a cap.
`allPaths` is the same search without the cap and without an accumulator.

* `search_eq_take`: the capped search returns the first paths of the uncapped
  one, as many as the cap allows.
* `mem_allPaths_iff`: the uncapped search finds exactly the accepted simple
  paths within the depth.
* `nodup_allPaths`: it finds each of them once.
-/

namespace SimplePathSearch

/--
A directed multigraph: the edges out of a vertex, in the order they are tried.
-/
structure SearchGraph (V E : Type) where
  edges : V → List E
  target : E → V

variable {V E : Type}

/-- The edges are consecutive and lead from one vertex to the other. -/
def SearchGraph.Leads (graph : SearchGraph V E) : V → List E → V → Prop
  | source, [], destination => source = destination
  | source, edge :: rest, destination =>
      edge ∈ graph.edges source ∧
        graph.Leads (graph.target edge) rest destination

/-- A path of at least one edge that visits no vertex twice. -/
structure SearchGraph.SimplePath
    (graph : SearchGraph V E)
    (source destination : V)
    (path : List E) : Prop where
  nonempty : path ≠ []
  leads : graph.Leads source path destination
  simple : (source :: path.map graph.target).Nodup

variable [DecidableEq V]

/-- The capped search, with the accumulator of what was found so far. -/
def search
    (graph : SearchGraph V E)
    (goal : V)
    (accept : List E → Bool)
    (cap : Nat) :
    (depth : Nat) →
    (current : V) →
    (visited : List V) →
    (trail : List E) →
    (found : List (List E)) →
    List (List E)
  | 0, _, _, _, found => found
  | depth + 1, current, visited, trail, found =>
      (graph.edges current).foldl (fun found edge =>
        if cap ≤ found.length then
          found
        else if graph.target edge ∈ visited then
          found
        else if graph.target edge = goal then
          if accept (trail ++ [edge]) then
            found ++ [trail ++ [edge]]
          else
            found
        else
          search graph goal accept cap depth (graph.target edge)
            (graph.target edge :: visited) (trail ++ [edge]) found) found

/-- The search without a cap. -/
def allPaths
    (graph : SearchGraph V E)
    (goal : V)
    (accept : List E → Bool) :
    (depth : Nat) →
    (current : V) →
    (visited : List V) →
    (trail : List E) →
    List (List E)
  | 0, _, _, _ => []
  | depth + 1, current, visited, trail =>
      (graph.edges current).flatMap fun edge =>
        if graph.target edge ∈ visited then
          []
        else if graph.target edge = goal then
          if accept (trail ++ [edge]) then [trail ++ [edge]] else []
        else
          allPaths graph goal accept depth (graph.target edge)
            (graph.target edge :: visited) (trail ++ [edge])

section

variable
  {graph : SearchGraph V E}
  {goal : V}
  {accept : List E → Bool}

/-- What a cap cut off stays behind the cap. -/
private theorem take_take_append
    {β : Type}
    (cap : Nat)
    (first second : List β) :
    (first.take cap ++ second).take cap = (first ++ second).take cap := by
  rcases Nat.le_total first.length cap with short | long
  · rw [List.take_of_length_le short]
  · have full : (first.take cap).length = cap := by
      simp [long]
    rw [List.take_append_of_le_length (by omega),
      List.take_append_of_le_length long, List.take_take, Nat.min_self]

/-- A loop whose body appends up to a cap appends everything up to the cap. -/
private theorem foldl_eq_take
    {α β : Type}
    {cap : Nat}
    {body : List β → α → List β}
    {additions : α → List β}
    (bodyTakes :
      ∀ found item, found.length ≤ cap →
        body found item = (found ++ additions item).take cap)
    (items : List α)
    (found : List β)
    (short : found.length ≤ cap) :
    items.foldl body found =
      (found ++ items.flatMap additions).take cap := by
  induction items generalizing found with
  | nil =>
      simp [List.take_of_length_le short]
  | cons item rest inductionHypothesis =>
      have shorter : ((found ++ additions item).take cap).length ≤ cap :=
        List.length_take_le _ _
      rw [List.foldl_cons, bodyTakes found item short,
        inductionHypothesis _ shorter, take_take_append, List.flatMap_cons,
        List.append_assoc]

/-- The cap only cuts off a suffix of what the search would find. -/
theorem search_eq_take
    (cap depth : Nat)
    (current : V)
    (visited : List V)
    (trail : List E)
    (found : List (List E))
    (short : found.length ≤ cap) :
    search graph goal accept cap depth current visited trail found =
      (found ++ allPaths graph goal accept depth current visited trail).take
        cap := by
  induction depth generalizing current visited trail found with
  | zero =>
      simp [search, allPaths, List.take_of_length_le short]
  | succ depth inductionHypothesis =>
      simp only [search, allPaths]
      apply foldl_eq_take _ _ _ short
      intro found edge short
      by_cases full : cap ≤ found.length
      · have exactly : found.length = cap := by
          omega
        rw [if_pos full, List.take_append_of_le_length full, ← exactly,
          List.take_length]
      · rw [if_neg full]
        split_ifs with visitedBefore reached accepted
        · simp [List.take_of_length_le short]
        · have room : (found ++ [trail ++ [edge]]).length ≤ cap := by
            simp only [List.length_append, List.length_singleton]
            omega
          rw [List.take_of_length_le room]
        · simp [List.take_of_length_le short]
        · exact inductionHypothesis _ _ _ _ short

omit [DecidableEq V] in
/-- A path that already left the goal cannot end there without revisiting it. -/
private theorem rest_eq_nil_of_leads_goal
    {rest : List E}
    (leads : graph.Leads goal rest goal)
    (fresh : goal ∉ rest.map graph.target) :
    rest = [] := by
  by_contra nonempty
  apply fresh
  have lastReached :
      ∀ (path : List E) (source : V),
        path ≠ [] → graph.Leads source path goal →
        goal ∈ path.map graph.target := by
    intro path
    induction path with
    | nil =>
        intro source empty
        exact absurd rfl empty
    | cons edge later inductionHypothesis =>
        intro source _ leads
        obtain ⟨_, leadsOn⟩ := leads
        by_cases finished : later = []
        · subst finished
          have reached : graph.target edge = goal := leadsOn
          simp [reached]
        · have member := inductionHypothesis _ finished leadsOn
          simp only [List.map_cons, List.mem_cons]
          exact Or.inr member
  exact lastReached rest goal nonempty leads

/-- What the uncapped search finds beyond a trail. -/
private theorem mem_allPaths_from_iff
    (depth : Nat)
    (current : V)
    (visited : List V)
    (trail path : List E) :
    path ∈ allPaths graph goal accept depth current visited trail ↔
      ∃ rest,
        path = trail ++ rest ∧ rest ≠ [] ∧ rest.length ≤ depth ∧
        graph.Leads current rest goal ∧
        (rest.map graph.target).Nodup ∧
        (∀ vertex ∈ rest.map graph.target, vertex ∉ visited) ∧
        accept path = true := by
  induction depth generalizing current visited trail with
  | zero =>
      simp only [allPaths, List.not_mem_nil, false_iff]
      rintro ⟨rest, _, nonempty, short, _⟩
      exact nonempty (List.length_eq_zero_iff.mp (Nat.le_zero.mp short))
  | succ depth inductionHypothesis =>
      simp only [allPaths, List.mem_flatMap]
      constructor
      · rintro ⟨edge, member, found⟩
        split_ifs at found with visitedBefore reached accepted
        · simp at found
        · rw [List.mem_singleton] at found
          subst found
          exact ⟨[edge], rfl, by simp, by simp, ⟨member, reached⟩, by simp,
            by simpa using visitedBefore, accepted⟩
        · simp at found
        · rw [inductionHypothesis] at found
          obtain ⟨rest, rfl, nonempty, short, leads, distinct, fresh,
            accepted⟩ := found
          refine ⟨edge :: rest, by simp, by simp, ?_, ⟨member, leads⟩, ?_, ?_,
            accepted⟩
          · simpa using short
          · rw [List.map_cons, List.nodup_cons]
            refine ⟨?_, distinct⟩
            intro revisited
            exact fresh _ revisited (by simp)
          · intro vertex onPath
            rw [List.map_cons, List.mem_cons] at onPath
            rcases onPath with rfl | later
            · exact visitedBefore
            · intro visitedVertex
              exact fresh vertex later (by simp [visitedVertex])
      · rintro ⟨rest, rfl, nonempty, short, leads, distinct, fresh, accepted⟩
        cases rest with
        | nil =>
            exact absurd rfl nonempty
        | cons edge rest =>
            obtain ⟨member, leadsOn⟩ := leads
            rw [List.map_cons, List.nodup_cons] at distinct
            refine ⟨edge, member, ?_⟩
            have unvisited : graph.target edge ∉ visited :=
              fresh _ (by simp)
            rw [if_neg unvisited]
            by_cases reached : graph.target edge = goal
            · have finished : rest = [] := by
                rw [reached] at leadsOn
                apply rest_eq_nil_of_leads_goal leadsOn
                rw [← reached]
                exact distinct.1
              subst finished
              rw [if_pos reached, if_pos accepted]
              simp
            · rw [if_neg reached, inductionHypothesis]
              refine ⟨rest, by simp, ?_, ?_, leadsOn, distinct.2, ?_,
                accepted⟩
              · rintro rfl
                exact reached leadsOn
              · simpa using short
              · intro vertex later
                rw [List.mem_cons, not_or]
                constructor
                · rintro rfl
                  exact distinct.1 later
                · exact fresh vertex (by simp only [List.map_cons,
                    List.mem_cons, later, or_true])

/--
The uncapped search finds exactly the accepted simple paths within the depth.
-/
theorem mem_allPaths_iff
    {depth : Nat}
    {source : V}
    {path : List E} :
    path ∈ allPaths graph goal accept depth source [source] [] ↔
      graph.SimplePath source goal path ∧
        path.length ≤ depth ∧ accept path = true := by
  rw [mem_allPaths_from_iff]
  constructor
  · rintro ⟨rest, rfl, nonempty, short, leads, distinct, fresh, accepted⟩
    refine ⟨⟨nonempty, leads, ?_⟩, short, accepted⟩
    rw [List.nodup_cons]
    refine ⟨?_, distinct⟩
    intro revisited
    exact fresh source revisited (by simp)
  · rintro ⟨⟨nonempty, leads, distinct⟩, short, accepted⟩
    rw [List.nodup_cons] at distinct
    refine ⟨path, rfl, nonempty, short, leads, distinct.2, ?_, accepted⟩
    rintro vertex onPath visitedBefore
    rw [List.mem_singleton] at visitedBefore
    subst visitedBefore
    exact distinct.1 onPath

/--
With distinct edges out of every vertex, each path is found once: paths through
different edges differ right after the trail.
-/
theorem nodup_allPaths
    (distinctEdges : ∀ vertex, (graph.edges vertex).Nodup)
    (depth : Nat)
    (current : V)
    (visited : List V)
    (trail : List E) :
    (allPaths graph goal accept depth current visited trail).Nodup := by
  induction depth generalizing current visited trail with
  | zero =>
      simp [allPaths]
  | succ depth inductionHypothesis =>
      simp only [allPaths]
      rw [List.nodup_flatMap]
      constructor
      · intro edge _
        split_ifs
        · exact List.nodup_nil
        · exact List.nodup_singleton _
        · exact List.nodup_nil
        · exact inductionHypothesis _ _ _
      · have through :
            ∀ edge path,
              path ∈
                (if graph.target edge ∈ visited then
                  []
                else if graph.target edge = goal then
                  if accept (trail ++ [edge]) then [trail ++ [edge]] else []
                else
                  allPaths graph goal accept depth (graph.target edge)
                    (graph.target edge :: visited) (trail ++ [edge])) →
              ∃ rest, path = trail ++ edge :: rest := by
          intro edge path found
          split_ifs at found
          · simp at found
          · exact ⟨[], by simpa using found⟩
          · simp at found
          · rw [mem_allPaths_from_iff] at found
            obtain ⟨rest, rfl, _⟩ := found
            exact ⟨rest, by simp⟩
        apply (distinctEdges current).imp
        intro first second different path foundFirst foundSecond
        obtain ⟨firstRest, firstShape⟩ := through first path foundFirst
        obtain ⟨secondRest, secondShape⟩ := through second path foundSecond
        rw [firstShape] at secondShape
        simp only [List.append_cancel_left_eq, List.cons.injEq] at secondShape
        exact different secondShape.1

end

end SimplePathSearch
