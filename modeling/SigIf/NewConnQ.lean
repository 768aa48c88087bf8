import Mathlib.Data.List.Infix
import SigIf.Runs

/-!
# The queue of new connections

`NewConnQ` with the logs of what was pushed and what `Pop` returned. `Push` is
one critical section; `Pop` is two, the test of the size and the removal, and
anything may happen between them. The test has no effect, so a removal may
find the queue empty; calling `front` and `pop` then is undefined behaviour,
and nothing is known of the queue from there on.
-/

namespace SigIf.NewConnQ

variable {α : Type*}

/-- The queue, where its consumer is in `Pop`, and what went in and out. -/
structure ConnQueue (α : Type*) where
  ConnQ : List α
  /-- `Pop` has tested the size and has not taken the lock yet. -/
  tested : Bool
  /-- `front` and `pop` were called on the empty queue. -/
  undefined : Bool
  /-- The arguments of all pushes, oldest first. -/
  pushed : List α
  /-- The results of all pops, oldest first; none of them is null. -/
  popped : List α
  deriving DecidableEq

/-- The queue as constructed. -/
def ConnQueue.empty : ConnQueue α := ⟨[], false, false, [], []⟩

/-- `NewConnQ::Push`, which returns the new size. -/
def push (conn : α) (q : ConnQueue α) : ℕ × ConnQueue α :=
  let q := { q with ConnQ := q.ConnQ ++ [conn], pushed := q.pushed ++ [conn] }
  (q.ConnQ.length, q)

/-- The first step of `NewConnQ::Pop`: the body of `if(Size()==0)` is empty. -/
def popTest (q : ConnQueue α) : ConnQueue α := { q with tested := true }

/-- The locked section of `NewConnQ::Pop`. -/
def popLocked (q : ConnQueue α) : ConnQueue α :=
  match q.ConnQ with
  | conn :: rest => { q with ConnQ := rest, tested := false, popped := q.popped ++ [conn] }
  | [] => { q with undefined := true }

/-- What the two threads do with the queue: the producer pushes, the consumer
takes the next step of the `Pop` that it is in. -/
inductive QueueStep (α : Type*) where
  | push (conn : α)
  | pop
  deriving DecidableEq

/-- The next step of the consumer. -/
def popStep (q : ConnQueue α) : ConnQueue α := if q.tested then popLocked q else popTest q

/-- One step of either thread; there is none once the behaviour is undefined. -/
def step (q : ConnQueue α) (a : QueueStep α) : Option (ConnQueue α) :=
  if q.undefined then none
  else match a with
    | .push conn => some (push conn q).2
    | .pop => some (popStep q)

/-- Everything pushed has been returned, in push order, or is still there. -/
def Accounted (q : ConnQueue α) : Prop := q.popped ++ q.ConnQ = q.pushed

/-- The queue behaves as a queue should: what `Pop` returned is a prefix of
what was pushed, the queue holds the rest, and no removal found it empty. -/
def Safe (q : ConnQueue α) : Prop := q.undefined = false ∧ Accounted q

theorem push_accounted {q : ConnQueue α} (h : Accounted q) (conn : α) :
    Accounted (push conn q).2 := by
  unfold Accounted at h ⊢
  rw [push, ← h, List.append_assoc]

theorem popStep_accounted {q : ConnQueue α} (h : Accounted q) : Accounted (popStep q) := by
  unfold Accounted popStep at *
  cases q.tested with
  | false => exact h
  | true =>
    rw [if_pos rfl, popLocked]
    cases hq : q.ConnQ with
    | nil => simpa [hq] using h
    | cons conn rest => simpa [hq] using h

/-- A step of the consumer pushes nothing. -/
theorem popStep_pushed (q : ConnQueue α) : (popStep q).pushed = q.pushed := by
  unfold popStep popLocked popTest
  split
  · split <;> rfl
  · rfl

/-- What was returned before stays returned. -/
theorem popped_popStep {q : ConnQueue α} {conn : α} (h : conn ∈ q.popped) :
    conn ∈ (popStep q).popped := by
  unfold popStep popLocked popTest
  split
  · split
    · exact List.mem_append_left _ h
    · exact h
  · exact h

/-- What it returns was at the head of the queue. -/
theorem mem_popStep_popped {q : ConnQueue α} {conn : α} (h : conn ∈ (popStep q).popped) :
    conn ∈ q.popped ∨ q.tested = true ∧ ∃ rest, q.ConnQ = conn :: rest := by
  unfold popStep at h
  cases ht : q.tested with
  | false => exact Or.inl (by simpa [ht, popTest] using h)
  | true =>
    rw [ht, if_pos rfl, popLocked] at h
    cases hq : q.ConnQ with
    | nil => exact Or.inl (by simpa [hq] using h)
    | cons first rest =>
      rw [hq] at h
      rcases List.mem_append.mp h with hold | hnew
      · exact Or.inl hold
      · rw [List.mem_singleton.mp hnew]
        exact Or.inr ⟨rfl, rest, rfl⟩

theorem step_accounted (q : ConnQueue α) (a : QueueStep α) (next : ConnQueue α)
    (h : Accounted q) (hnext : step q a = some next) : Accounted next := by
  unfold step at hnext
  split at hnext
  · cases hnext
  · cases a with
    | push conn => exact Option.some.inj hnext ▸ push_accounted h conn
    | pop => exact Option.some.inj hnext ▸ popStep_accounted h

/-- No schedule loses, repeats or reorders a connection, whether or not the
consumer runs ahead. -/
theorem always_accounted (schedule : List (QueueStep α)) :
    Runs.Always step Accounted (.empty : ConnQueue α) schedule := by
  have hempty : Accounted (ConnQueue.empty : ConnQueue α) := rfl
  exact Runs.always_of_invariant step_accounted hempty schedule

/-- The pushes of a schedule. -/
def pushes (schedule : List (QueueStep α)) : ℕ :=
  schedule.countP fun | .push _ => true | .pop => false

/-- The steps of the consumer in a schedule; every second one is a removal. -/
def popSteps (schedule : List (QueueStep α)) : ℕ :=
  schedule.countP fun | .push _ => false | .pop => true

/-- The schedule takes no more than the queue holds and the schedule pushes. -/
def Afforded (q : ConnQueue α) (schedule : List (QueueStep α)) : Prop :=
  (popSteps schedule + q.tested.toNat) / 2 ≤ q.ConnQ.length + pushes schedule

theorem afforded_nil (q : ConnQueue α) : Afforded q [] := by
  have htested := q.tested.toNat_lt
  simp only [Afforded, popSteps, List.countP_nil]
  omega

/-- A push counts the same before and after it is made. -/
theorem afforded_push (q : ConnQueue α) (conn : α) (schedule : List (QueueStep α)) :
    Afforded q (.push conn :: schedule) ↔ Afforded (push conn q).2 schedule := by
  simp only [Afforded, push, popSteps, pushes, List.countP_cons, List.length_append,
    List.length_singleton, Bool.false_eq_true, if_false, if_true]
  omega

/-- So does a step of the consumer, unless it finds the queue empty. -/
theorem afforded_pop {q : ConnQueue α} (h : (popStep q).undefined = false)
    (schedule : List (QueueStep α)) :
    Afforded q (.pop :: schedule) ↔ Afforded (popStep q) schedule := by
  unfold popStep at h ⊢
  cases ht : q.tested with
  | false => simp [Afforded, popTest, popSteps, pushes, ht]
  | true =>
    rw [ht, if_pos rfl, popLocked] at h
    rw [if_pos rfl, popLocked]
    cases hq : q.ConnQ with
    | nil => simp [hq] at h
    | cons conn rest =>
      simp only [Afforded, popSteps, pushes, List.countP_cons, ht, hq, List.length_cons,
        Bool.toNat_true, Bool.toNat_false, Bool.false_eq_true, if_false, if_true]
      omega

/-- A removal from the empty queue is the step that takes too much. -/
theorem not_afforded_pop {q : ConnQueue α} (hdef : q.undefined = false)
    (h : (popStep q).undefined = true) : ¬ Afforded q [.pop] := by
  unfold popStep at h
  cases ht : q.tested with
  | false => simp [ht, popTest, hdef] at h
  | true =>
    rw [ht, if_pos rfl, popLocked] at h
    cases hq : q.ConnQ with
    | nil => simp [Afforded, popSteps, pushes, ht, hq]
    | cons conn rest => simp [hq, hdef] at h

theorem forall_prefix_cons {β : Type*} {p : List β → Prop} (a : β) (l : List β) :
    (∀ earlier, earlier <+: a :: l → p earlier) ↔
      p [] ∧ ∀ earlier, earlier <+: l → p (a :: earlier) := by
  constructor
  · intro h
    refine ⟨h [] (List.nil_prefix), ?_⟩
    intro earlier hpre
    exact h (a :: earlier) ((List.prefix_cons_inj a).mpr hpre)
  · rintro ⟨hnil, hcons⟩ earlier hpre
    rcases List.prefix_cons_iff.mp hpre with rfl | ⟨rest, rfl, hrest⟩
    · exact hnil
    · exact hcons rest hrest

/-- From any defined state, the queue stays safe exactly when no prefix of the
schedule takes more than there is. -/
theorem always_safe_iff {q : ConnQueue α} (hdef : q.undefined = false) (hacc : Accounted q)
    (schedule : List (QueueStep α)) :
    Runs.Always step Safe q schedule ↔ ∀ earlier, earlier <+: schedule → Afforded q earlier := by
  induction schedule generalizing q with
  | nil =>
    refine iff_of_true ⟨hdef, hacc⟩ ?_
    intro earlier hpre
    rw [List.prefix_nil.mp hpre]
    exact afforded_nil q
  | cons a schedule ih =>
    have hhead : Safe q ↔ Afforded q [] := iff_of_true ⟨hdef, hacc⟩ (afforded_nil q)
    rw [forall_prefix_cons]
    cases a with
    | push conn =>
      have hstep : step q (.push conn) = some (push conn q).2 := by simp [step, hdef]
      have hrest := ih (q := (push conn q).2) hdef (push_accounted hacc conn)
      rw [Runs.always_cons_iff hstep, hhead, hrest]
      simp only [afforded_push]
    | pop =>
      have hstep : step q .pop = some (popStep q) := by simp [step, hdef]
      rw [Runs.always_cons_iff hstep]
      cases hnext : (popStep q).undefined with
      | false =>
        rw [hhead, ih hnext (popStep_accounted hacc)]
        simp only [afforded_pop hnext]
      | true =>
        refine iff_of_false ?_ ?_
        · rintro ⟨_, hrest⟩
          exact Bool.noConfusion (hnext.symm.trans hrest.head.1)
        · rintro ⟨_, hrest⟩
          exact not_afforded_pop hdef hnext (hrest [] List.nil_prefix)

/-- Over any schedule of the two threads the queue is safe in every state
exactly when, at every point, at least as many pushes as removals were made. -/
theorem queue_safe_iff_pops_never_outrun (schedule : List (QueueStep α)) :
    Runs.Always step Safe .empty schedule ↔ ∀ earlier, earlier <+: schedule →
      popSteps earlier / 2 ≤ pushes earlier := by
  simpa [Afforded, ConnQueue.empty] using always_safe_iff (q := .empty) rfl rfl schedule

/-- The receiver may call `Pop` before the first client has come. -/
theorem pop_before_push_unsafe :
    ¬ Runs.Always step Safe (.empty : ConnQueue ℕ) [.pop, .pop, .push 7] := by
  intro h
  have hend := ((h.2 _ rfl).2 _ rfl).head.1
  simp [popStep, popLocked, popTest, ConnQueue.empty] at hend

end SigIf.NewConnQ
