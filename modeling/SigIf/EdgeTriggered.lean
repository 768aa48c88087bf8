import SigIf.Runs

/-!
# A source that announces its data by edges

Data that arrives at a source raises an edge. A reader that is told of the edge
is not told again of what it leaves unread: only new data raises the next one.
So it has to read until it learns that nothing is left.
-/

namespace SigIf.EdgeTriggered

variable {α : Type*}

/-- How a read can end without data: the stream is over, nothing is left for
now, the source is broken for good, or the read was cut short. -/
inductive Ending where
  | ended
  | empty
  | broken
  | interrupted
  deriving DecidableEq

/-- What is unread, whether an edge waits to be told, and whether the stream is
closed or the source broken. -/
structure Source (α : Type*) where
  unread : List α
  edge : Bool
  closed : Bool
  broken : Bool

/-- What comes from the other side. -/
inductive Arrival (α : Type*) where
  | data (elems : List α)
  | close

/-- What can happen to a source. -/
inductive Event (α : Type*) where
  | arrives (a : Arrival α)
  | delivers (elems : List α)
  | finishes (ending : Ending)

namespace Source

/-- A source that is watched from now on: what it has already counts as an edge. -/
def watched (unread : List α) : Source α := ⟨unread, !unread.isEmpty, false, false⟩

/-- The reader is told of the edge. -/
def wake (s : Source α) : Source α := { s with edge := false }

/-- A read delivers what comes first, and ends only as the source allows. -/
def step [DecidableEq α] (s : Source α) : Event α → Option (Source α)
  | .arrives (.data elems) =>
    if s.closed then none else some { s with unread := s.unread ++ elems, edge := true }
  | .arrives .close => some { s with closed := true, edge := true }
  | .delivers elems =>
    if elems <+: s.unread ∧ s.broken = false then
      some { s with unread := s.unread.drop elems.length }
    else none
  | .finishes .ended => if s.unread = [] ∧ s.closed = true then some s else none
  | .finishes .empty => if s.unread = [] then some s else none
  | .finishes .broken => some { s with broken := true }
  | .finishes .interrupted => some s

/-- Nothing that could be read is left without an edge that will tell of it. -/
def Announced (s : Source α) : Prop := s.unread = [] ∨ s.edge = true ∨ s.broken = true

theorem watched_announced (unread : List α) : (watched unread).Announced := by
  cases unread with
  | nil => exact Or.inl rfl
  | cons _ _ => exact Or.inr (Or.inl rfl)

variable [DecidableEq α]

/-- A read that ends changes nothing, and unless it was cut short there was
nothing left; or it finds the source broken. -/
theorem step_finishes {s next : Source α} {ending : Ending}
    (h : s.step (.finishes ending) = some next) :
    (next = s ∧ (ending = .interrupted ∨ s.unread = [])) ∨ next = { s with broken := true } := by
  cases ending with
  | ended =>
    simp only [step, Option.ite_none_right_eq_some, Option.some.injEq] at h
    obtain ⟨⟨hempty, _⟩, hsame⟩ := h
    exact Or.inl ⟨hsame.symm, Or.inr hempty⟩
  | empty =>
    simp only [step, Option.ite_none_right_eq_some, Option.some.injEq] at h
    obtain ⟨hempty, hsame⟩ := h
    exact Or.inl ⟨hsame.symm, Or.inr hempty⟩
  | broken => exact Or.inr (Option.some.inj h).symm
  | interrupted => exact Or.inl ⟨(Option.some.inj h).symm, Or.inl rfl⟩

/-- Nothing that happens to a source hides what is announced; only the reader
does, when it takes the edge. -/
theorem step_announced (s : Source α) (e : Event α) (next : Source α) (h : s.Announced)
    (hnext : s.step e = some next) : next.Announced := by
  cases e with
  | arrives a =>
    cases a with
    | data elems =>
      simp only [step, Option.ite_none_left_eq_some, Option.some.injEq] at hnext
      obtain ⟨_, rfl⟩ := hnext
      exact Or.inr (Or.inl rfl)
    | close =>
      obtain rfl := Option.some.inj hnext
      exact Or.inr (Or.inl rfl)
  | delivers elems =>
    simp only [step, Option.ite_none_right_eq_some, Option.some.injEq] at hnext
    obtain ⟨_, rfl⟩ := hnext
    refine h.imp_left ?_
    intro hempty
    simp [hempty]
  | finishes ending =>
    rcases step_finishes hnext with ⟨rfl, _⟩ | rfl
    · exact h
    · exact Or.inr (Or.inr rfl)

/-- A read that ends without being cut short has left nothing to announce. -/
theorem finishes_announced {s next : Source α} {ending : Ending} (h : ending ≠ .interrupted)
    (hnext : s.step (.finishes ending) = some next) : next.Announced := by
  rcases step_finishes hnext with ⟨rfl, hcut | hempty⟩ | rfl
  · exact absurd hcut h
  · exact Or.inl hempty
  · exact Or.inr (Or.inr rfl)

/-- So a round of events with such a read in it leaves everything announced,
whatever arrives during the round. -/
theorem run_announced {ending : Ending} (hending : ending ≠ .interrupted) {events : List (Event α)}
    (hmem : .finishes ending ∈ events) {s next : Source α}
    (hrun : Runs.run step s events = some next) : next.Announced := by
  induction events generalizing s with
  | nil => cases hmem
  | cons e events ih =>
    obtain ⟨mid, hmid, hrest⟩ := Option.bind_eq_some_iff.mp hrun
    rcases List.mem_cons.mp hmem with rfl | hlater
    · have hhere := finishes_announced hending hmid
      exact (Runs.always_of_invariant step_announced hhere events).last hrest
    · exact ih hlater hrest

end Source

end SigIf.EdgeTriggered
