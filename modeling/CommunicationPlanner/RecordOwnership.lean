import Mathlib.Data.List.Basic

/-!
# Owners that list their records

Owners come and go, and publish records under identities.  Each owner keeps a
list of what it published, and whoever withdraws an owner withdraws what is on
its list.  `Accounted` is the invariant under which this withdraws exactly the
records that the owner published last: a record that is present is on the list
of its live publisher, and a list that may still be withdrawn has only records
of its owner.
-/

namespace RecordOwnership

variable {Owner Identity : Type}

/-- The live owners, those that may be withdrawn, their lists, and the records. -/
structure Accounts (Owner Identity : Type) where
  live : Owner → Prop
  attached : Owner → Prop
  listed : Owner → Identity → Prop
  publisher : Identity → Option Owner
  present : Identity → Prop

/-- The lists account for what is present. -/
structure Accounted (accounts : Accounts Owner Identity) : Prop where
  complete :
    ∀ owner identity,
      accounts.publisher identity = some owner →
      accounts.present identity →
      accounts.live owner ∧ accounts.listed owner identity
  sound :
    ∀ owner identity,
      accounts.attached owner →
      accounts.listed owner identity →
      accounts.publisher identity = some owner

namespace Accounted

variable {before after : Accounts Owner Identity} {owner : Owner}

/-- Fewer attachments and fewer records, with nothing else changed. -/
theorem weaken
    (accounted : Accounted before)
    (live : ∀ other, before.live other → after.live other)
    (attached : ∀ other, after.attached other → before.attached other)
    (listed :
      ∀ other identity,
        after.listed other identity ↔ before.listed other identity)
    (publisher :
      ∀ identity, after.publisher identity = before.publisher identity)
    (present :
      ∀ identity, after.present identity → before.present identity) :
    Accounted after := by
  constructor
  · intro other identity published isPresent
    rw [publisher] at published
    obtain ⟨isLive, isListed⟩ :=
      accounted.complete other identity published (present _ isPresent)
    exact ⟨live other isLive, (listed other identity).mpr isListed⟩
  · intro other identity isAttached isListed
    rw [publisher]
    exact accounted.sound other identity (attached other isAttached)
      ((listed other identity).mp isListed)

/-- A live owner publishes what no other attached owner lists. -/
theorem publish
    (accounted : Accounted before)
    {published : Identity}
    (isLive : before.live owner)
    (unlisted :
      ∀ other, other ≠ owner → before.attached other →
        ¬before.listed other published)
    (live : ∀ other, after.live other ↔ before.live other)
    (attached : ∀ other, after.attached other ↔ before.attached other)
    (listed :
      ∀ other identity,
        after.listed other identity ↔
          before.listed other identity ∨
            other = owner ∧ identity = published)
    (publishedNow : after.publisher published = some owner)
    (publishedBefore :
      ∀ identity, identity ≠ published →
        after.publisher identity = before.publisher identity)
    (present :
      ∀ identity, after.present identity →
        identity = published ∨ before.present identity) :
    Accounted after := by
  constructor
  · intro other identity isPublisher isPresent
    rw [live, listed]
    by_cases same : identity = published
    · subst same
      rw [publishedNow] at isPublisher
      cases isPublisher
      exact ⟨isLive, .inr ⟨rfl, rfl⟩⟩
    · rw [publishedBefore identity same] at isPublisher
      obtain ⟨otherLive, isListed⟩ := accounted.complete other identity
        isPublisher ((present identity isPresent).resolve_left same)
      exact ⟨otherLive, .inl isListed⟩
  · intro other identity isAttached isListed
    rw [attached] at isAttached
    rw [listed] at isListed
    by_cases same : identity = published
    · subst same
      rw [publishedNow]
      rcases isListed with earlier | ⟨rfl, _⟩
      · by_contra notOwner
        exact unlisted other (fun isOwner => notOwner (by rw [isOwner]))
          isAttached earlier
      · rfl
    · rw [publishedBefore identity same]
      exact accounted.sound other identity isAttached
        (isListed.resolve_right fun now => same now.2)

/-- An owner enters with an empty list; if it was live, it lists nothing. -/
theorem enter
    (accounted : Accounted before)
    (unlisted :
      before.live owner → ∀ identity, ¬before.listed owner identity)
    (live :
      ∀ other, other ≠ owner → before.live other → after.live other)
    (attached :
      ∀ other, other ≠ owner → after.attached other →
        before.attached other)
    (emptied : ∀ identity, ¬after.listed owner identity)
    (listed :
      ∀ other identity, other ≠ owner →
        (after.listed other identity ↔ before.listed other identity))
    (publisher :
      ∀ identity, after.publisher identity = before.publisher identity)
    (present :
      ∀ identity, after.present identity → before.present identity) :
    Accounted after := by
  constructor
  · intro other identity published isPresent
    rw [publisher] at published
    obtain ⟨isLive, isListed⟩ :=
      accounted.complete other identity published (present _ isPresent)
    by_cases same : other = owner
    · subst same
      exact (unlisted isLive identity isListed).elim
    · exact ⟨live other same isLive, (listed other identity same).mpr
        isListed⟩
  · intro other identity isAttached isListed
    by_cases same : other = owner
    · subst same
      exact (emptied identity isListed).elim
    · rw [publisher]
      exact accounted.sound other identity (attached other same isAttached)
        ((listed other identity same).mp isListed)

/-- Withdrawing an owner withdraws what it lists. -/
theorem withdraw
    (accounted : Accounted before)
    (live :
      ∀ other, other ≠ owner → before.live other → after.live other)
    (attached : ∀ other, after.attached other → before.attached other)
    (listed :
      ∀ other identity,
        after.listed other identity ↔ before.listed other identity)
    (publisher :
      ∀ identity, after.publisher identity = before.publisher identity)
    (present :
      ∀ identity, after.present identity →
        before.present identity ∧ ¬before.listed owner identity) :
    Accounted after := by
  constructor
  · intro other identity published isPresent
    rw [publisher] at published
    obtain ⟨wasPresent, unlisted⟩ := present identity isPresent
    obtain ⟨isLive, isListed⟩ :=
      accounted.complete other identity published wasPresent
    refine ⟨live other ?_ isLive, (listed other identity).mpr isListed⟩
    rintro rfl
    exact unlisted isListed
  · intro other identity isAttached isListed
    rw [publisher]
    exact accounted.sound other identity (attached other isAttached)
      ((listed other identity).mp isListed)

/-- What another owner published is not on the list that is withdrawn. -/
theorem not_listed_of_published
    (accounted : Accounted before)
    (isAttached : before.attached owner)
    {other : Owner}
    {identity : Identity}
    (different : other ≠ owner)
    (published : before.publisher identity = some other) :
    ¬before.listed owner identity := by
  intro isListed
  have owned := accounted.sound owner identity isAttached isListed
  rw [published] at owned
  exact different (Option.some.inj owned)

end Accounted

end RecordOwnership
