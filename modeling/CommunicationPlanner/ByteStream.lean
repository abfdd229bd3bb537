import Mathlib.Data.List.Basic

/-!
# Reliable streams

The two ends of a stream move items by calls.  A call that succeeds moves some of
the items it is asked for, and how many is not up to the caller; the loops of
this module repeat the calls until all items are moved.  On a stream whose calls
do not fail the loops do not show how the items were split: what one end has
written is what the other end reads, in order.
-/

namespace ByteStream

variable {α : Type}

/-- The outcome of each call: one less than it moves at most, or a failure. -/
structure Calls where
  send : Nat → Option Nat
  recv : Nat → Option Nat

/-- No call fails. -/
structure Calls.Reliable (calls : Calls) : Prop where
  send : ∀ call, ∃ most, calls.send call = some most
  recv : ∀ call, ∃ most, calls.recv call = some most

/-- The items on their way, and the calls that were made. -/
structure Line (α : Type) where
  transit : List α := []
  sends : Nat := 0
  receives : Nat := 0

namespace Line

/-- A call of `send` puts items at the end of the line. -/
def push (line : Line α) (items : List α) : Line α :=
  { line with transit := line.transit ++ items, sends := line.sends + 1 }

/-- A call of `recv` takes items from the front of the line. -/
def pop (line : Line α) (count : Nat) : Line α :=
  { line with
    transit := line.transit.drop count
    receives := line.receives + 1 }

@[simp] theorem transit_push
    (line : Line α)
    (items : List α) :
    (line.push items).transit = line.transit ++ items :=
  rfl

@[simp] theorem transit_pop
    (line : Line α)
    (count : Nat) :
    (line.pop count).transit = line.transit.drop count :=
  rfl

end Line

/-- Call until every item is sent. -/
def writeAll
    (calls : Calls) :
    List α → Line α → Option (Line α)
  | [], line => some line
  | item :: items, line =>
      match calls.send line.sends with
      | none => none
      | some most =>
          let sent := (item :: items).take (most + 1)
          writeAll calls ((item :: items).drop (most + 1)) (line.push sent)
termination_by items => items.length
decreasing_by
  simp only [List.length_drop, List.length_cons]
  omega

/-- Call until the needed items are received; the other end has closed the
stream when a call returns nothing. -/
def readExact
    (calls : Calls)
    (need : Nat)
    (line : Line α) : Option (List α × Line α) :=
  if _ : need = 0 then
    some ([], line)
  else
    match calls.recv line.receives with
    | none => none
    | some most =>
        let received := line.transit.take (min (most + 1) need)
        if _ : received = [] then
          none
        else
          match
            readExact calls (need - received.length)
              (line.pop received.length) with
          | none => none
          | some (more, rest) => some (received ++ more, rest)
termination_by need
decreasing_by
  exact Nat.sub_lt (Nat.pos_of_ne_zero ‹_›) (List.length_pos_iff.mpr ‹_›)

/-- Whatever the calls do, what was read is what came first on the way. -/
theorem of_readExact_eq_some
    {calls : Calls}
    {need : Nat}
    {line after : Line α}
    {items : List α}
    (read : readExact calls need line = some (items, after)) :
    need ≤ line.transit.length ∧
      items = line.transit.take need ∧
      after.transit = line.transit.drop need := by
  induction need using Nat.strongRecOn generalizing line items with
  | ind need inductionHypothesis =>
      rw [readExact] at read
      by_cases done : need = 0
      · subst done
        simp only [dite_true, Option.some.injEq, Prod.mk.injEq] at read
        obtain ⟨rfl, rfl⟩ := read
        simp
      · simp only [done, dite_false] at read
        split at read
        · cases read
        · rename_i most moved
          split at read
          · cases read
          · rename_i some
            split at read
            · cases read
            · rename_i more rest readRest
              cases read
              have isTake :
                  line.transit.take (min (most + 1) need) =
                    line.transit.take
                      (line.transit.take (min (most + 1) need)).length := by
                rw [List.length_take]
                exact List.take_eq_take_min
              have bounded :
                  (line.transit.take (min (most + 1) need)).length ≤ need := by
                rw [List.length_take]
                omega
              generalize line.transit.take (min (most + 1) need) = received
                at some isTake bounded readRest
              have positive := List.length_pos_iff.mpr some
              obtain ⟨enough, isMore, transit⟩ :=
                inductionHypothesis _ (by omega) readRest
              rw [Line.transit_pop, List.length_drop] at enough
              rw [Line.transit_pop] at isMore transit
              have fits : received.length ≤ line.transit.length := by
                rw [isTake, List.length_take]
                exact Nat.min_le_right _ _
              refine ⟨by omega, ?_, ?_⟩
              · rw [← Nat.add_sub_cancel' bounded, List.take_add, ← isTake,
                  isMore]
              · rw [transit, List.drop_drop, Nat.add_sub_cancel' bounded]

/-- More than is on the way is not read. -/
theorem readExact_of_short
    {calls : Calls}
    {need : Nat}
    {line : Line α}
    (short : line.transit.length < need) :
    readExact calls need line = none := by
  cases read : readExact calls need line with
  | none => rfl
  | some result =>
      obtain ⟨enough, _⟩ := of_readExact_eq_some read
      omega

section Reliable

variable {calls : Calls}

/-- What is written is appended to what is on its way. -/
theorem writeAll_of_reliable
    (reliable : calls.Reliable)
    (items : List α)
    (line : Line α) :
    ∃ after,
      writeAll calls items line = some after ∧
      after.transit = line.transit ++ items := by
  induction items, line using writeAll.induct calls with
  | case1 line =>
      exact ⟨line, by rw [writeAll], by simp⟩
  | case2 item items line failed =>
      obtain ⟨most, succeeded⟩ := reliable.send line.sends
      rw [failed] at succeeded
      cases succeeded
  | case3 item items line most moved sent inductionHypothesis =>
      obtain ⟨after, written, transit⟩ := inductionHypothesis
      refine ⟨after, ?_, ?_⟩
      · rw [writeAll, moved]
        exact written
      · rw [transit, Line.transit_push, List.append_assoc,
          List.take_append_drop]

/-- What is read is what comes first on the way. -/
theorem readExact_of_reliable
    (reliable : calls.Reliable)
    (need : Nat)
    (line : Line α)
    (enough : need ≤ line.transit.length) :
    ∃ after,
      readExact calls need line = some (line.transit.take need, after) ∧
      after.transit = line.transit.drop need := by
  induction need using Nat.strongRecOn generalizing line with
  | ind need inductionHypothesis =>
      rw [readExact]
      by_cases done : need = 0
      · subst done
        exact ⟨line, by simp, by simp⟩
      · obtain ⟨most, moved⟩ := reliable.recv line.receives
        have isLength :
            (line.transit.take (min (most + 1) need)).length =
              min (most + 1) need := by
          rw [List.length_take]
          omega
        have some : line.transit.take (min (most + 1) need) ≠ [] := by
          rw [← List.length_pos_iff, isLength]
          omega
        obtain ⟨after, read, transit⟩ :=
          inductionHypothesis (need - min (most + 1) need) (by omega)
            (line.pop (min (most + 1) need))
            (by rw [Line.transit_pop, List.length_drop]; omega)
        refine ⟨after, ?_, ?_⟩
        · simp only [done, dite_false, moved, some, isLength, read]
          rw [Line.transit_pop, ← List.take_add]
          congr 3
          omega
        · rw [transit, Line.transit_pop, List.drop_drop]
          congr 1
          omega

end Reliable

end ByteStream
