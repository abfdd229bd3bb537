import Mathlib.Data.List.Basic
import Mathlib.Logic.Function.Iterate

/-!
# Interleavings

Several parties act on one state, each on a part of its own: the event of a
party neither reads nor changes what is another's.  Then each part of the state
depends on the events of its party alone, and on how the parties' events were
interleaved nothing depends but the order of what they put out.
-/

namespace Interleavings

variable
  {Party Event State Output : Type}
  [DecidableEq Party]
  {party : Event → Party}
  {who : Party}
  {events first second : List Event}

/-- The events of a party, in their order. -/
def share
    (party : Event → Party)
    (who : Party)
    (events : List Event) : List Event :=
  events.filter fun event => party event = who

/-- Each party does the same in the same order. -/
def Interleaved
    (party : Event → Party)
    (first second : List Event) : Prop :=
  ∀ who, share party who first = share party who second

theorem share_cons_self
    (event : Event)
    (events : List Event) :
    share party (party event) (event :: events) =
      event :: share party (party event) events := by
  simp [share]

theorem share_cons_of_ne
    {event : Event}
    (other : party event ≠ who)
    (events : List Event) :
    share party who (event :: events) = share party who events := by
  simp [share, other]

theorem Interleaved.perm
    (interleaved : Interleaved party first second) :
    first.Perm second := by
  classical
  refine List.perm_iff_count.mpr ?_
  intro event
  have count_share (events : List Event) :
      (share party (party event) events).count event =
        events.count event :=
    List.count_filter (by simp)
  rw [← count_share first, interleaved, count_share second]

/-- What each event puts out. -/
def outputs
    (next : State → Event → State)
    (emit : State → Event → Output) :
    State → List Event → List (Event × Output)
  | _, [] => []
  | state, event :: events =>
      (event, emit state event) :: outputs next emit (next state event) events

/-- A counter that each event advances, or leaves, as its output says. -/
theorem counter_foldl
    {Value : Type}
    {next : State → Event → State}
    {emit : State → Event → Output}
    (read : State → Value)
    (advance : Value → Value)
    (counts : Output → Bool)
    (reads :
      ∀ state event,
        read (next state event) =
          if counts (emit state event) then
            advance (read state)
          else
            read state)
    (state : State)
    (events : List Event) :
    read (events.foldl next state) =
      advance^[(outputs next emit state events).countP
        fun output => counts output.2] (read state) := by
  induction events generalizing state with
  | nil => rfl
  | cons event events inductionHypothesis =>
      rw [List.foldl_cons, inductionHypothesis, reads, outputs,
        List.countP_cons]
      split_ifs with counted
      · rw [Function.iterate_add_apply]
        rfl
      · rfl

/--
A party's event acts on the party's part of the state.  `same who` says of two
states that the part of `who` is the same in both.
-/
structure Local
    (next : State → Event → State)
    (emit : State → Event → Output)
    (party : Event → Party)
    (fits : Event → Prop)
    (kept : State → Prop)
    (same : Party → State → State → Prop) : Prop where
  equivalence : ∀ who, Equivalence (same who)
  keeps :
    ∀ {state event}, kept state → fits event → kept (next state event)
  apart :
    ∀ {state event who},
      kept state → fits event → party event ≠ who →
      same who state (next state event)
  alike :
    ∀ {one other event},
      kept one → kept other → fits event → same (party event) one other →
      same (party event) (next one event) (next other event) ∧
        emit one event = emit other event

namespace Local

variable
  {next : State → Event → State}
  {emit : State → Event → Output}
  {fits : Event → Prop}
  {kept : State → Prop}
  {same : Party → State → State → Prop}
  {state one other : State}

/-- A party's part comes about by the party's events alone, and so does what
they put out. -/
theorem same_share
    (isLocal : Local next emit party fits kept same)
    (isKept : kept one)
    (isKeptToo : kept other)
    (isSame : same who one other)
    (fit : ∀ event ∈ events, fits event) :
    same who (events.foldl next one)
        ((share party who events).foldl next other) ∧
      share (fun output => party output.1) who
          (outputs next emit one events) =
        outputs next emit other (share party who events) := by
  induction events generalizing one other with
  | nil => exact ⟨isSame, rfl⟩
  | cons event events inductionHypothesis =>
      have fitsNow := fit event List.mem_cons_self
      have fitLater : ∀ later ∈ events, fits later :=
        fun later member => fit later (List.mem_cons_of_mem _ member)
      have keptNow := isLocal.keeps isKept fitsNow
      by_cases own : party event = who
      · subst own
        obtain ⟨sameNext, sameOutput⟩ :=
          isLocal.alike isKept isKeptToo fitsNow isSame
        obtain ⟨sameFinal, sameOutputs⟩ :=
          inductionHypothesis keptNow (isLocal.keeps isKeptToo fitsNow)
            sameNext fitLater
        rw [share_cons_self]
        refine ⟨sameFinal, ?_⟩
        simp only [outputs, share, List.filter_cons, decide_true, if_true,
          sameOutput]
        exact congrArg _ sameOutputs
      · have sameNext : same who (next one event) other :=
          (isLocal.equivalence who).trans
            ((isLocal.equivalence who).symm
              (isLocal.apart isKept fitsNow own))
            isSame
        obtain ⟨sameFinal, sameOutputs⟩ :=
          inductionHypothesis keptNow isKeptToo sameNext fitLater
        rw [share_cons_of_ne own]
        refine ⟨sameFinal, ?_⟩
        rw [← sameOutputs]
        simp [outputs, share, own]

/-- No part of the state depends on how the events were interleaved. -/
theorem same_of_interleaved
    (isLocal : Local next emit party fits kept same)
    (isKept : kept state)
    (fit : ∀ event ∈ first, fits event)
    (interleaved : Interleaved party first second)
    (who : Party) :
    same who (first.foldl next state) (second.foldl next state) := by
  have fitToo : ∀ event ∈ second, fits event :=
    fun event member => fit event (interleaved.perm.mem_iff.mpr member)
  have refl := (isLocal.equivalence who).refl state
  have alone := (isLocal.same_share isKept isKept refl fit).1
  have aloneToo := (isLocal.same_share isKept isKept refl fitToo).1
  rw [interleaved who] at alone
  exact (isLocal.equivalence who).trans alone
    ((isLocal.equivalence who).symm aloneToo)

/-- The same is put out, in some order. -/
theorem perm_outputs_of_interleaved
    (isLocal : Local next emit party fits kept same)
    (isKept : kept state)
    (fit : ∀ event ∈ first, fits event)
    (interleaved : Interleaved party first second) :
    (outputs next emit state first).Perm
      (outputs next emit state second) := by
  have fitToo : ∀ event ∈ second, fits event :=
    fun event member => fit event (interleaved.perm.mem_iff.mpr member)
  have outputsInterleaved :
      Interleaved (fun output : Event × Output => party output.1)
        (outputs next emit state first)
        (outputs next emit state second) := by
    intro who
    have refl := (isLocal.equivalence who).refl state
    rw [(isLocal.same_share isKept isKept refl fit).2,
      (isLocal.same_share isKept isKept refl fitToo).2, interleaved]
  exact outputsInterleaved.perm

/-- So all counters are the same, too. -/
theorem counter_of_interleaved
    {Value : Type}
    (isLocal : Local next emit party fits kept same)
    (isKept : kept state)
    (fit : ∀ event ∈ first, fits event)
    (interleaved : Interleaved party first second)
    (read : State → Value)
    (advance : Value → Value)
    (counts : Output → Bool)
    (reads :
      ∀ state event,
        read (next state event) =
          if counts (emit state event) then
            advance (read state)
          else
            read state) :
    read (first.foldl next state) = read (second.foldl next state) := by
  have permuted :=
    isLocal.perm_outputs_of_interleaved isKept fit interleaved
  rw [counter_foldl read advance counts reads,
    counter_foldl read advance counts reads, permuted.countP_eq]

end Local

end Interleavings
