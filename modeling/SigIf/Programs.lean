import Mathlib.Logic.Basic
import Mathlib.Order.Defs.Unbundled
import Mathlib.Tactic.Cases

/-!
# Programs that change a state and may throw

A program runs on a state and ends with a result or an exception; the changes
that it made before it threw stay. The lemmas run a program statement by
statement, and the triples are total correctness: no exception is thrown. What
a program does to its state whether it throws or not is a relation between the
two states, and the rules for it need no case on the result.
-/

namespace SigIf.Programs

/-- A program over a state. The state survives a throw. -/
abbrev Program (ε σ α : Type) := ExceptT ε (StateM σ) α

variable {ε σ α β : Type}

/-- Run a program on a state: its result or exception, and what it leaves. -/
def exec (program : Program ε σ α) (s : σ) : Except ε α × σ := program.run.run s

@[simp] theorem exec_pure (a : α) (s : σ) : exec (pure a : Program ε σ α) s = (.ok a, s) := rfl

@[simp] theorem exec_bind (first : Program ε σ α) (next : α → Program ε σ β) (s : σ) :
    exec (first >>= next) s =
      match exec first s with
      | (.ok a, s') => exec (next a) s'
      | (.error e, s') => (.error e, s') := by
  change (ExceptT.bind first next : Program ε σ β) s = _
  simp only [ExceptT.bind, ExceptT.mk, exec, ExceptT.run, StateT.run, bind, StateT.bind]
  rcases first s with ⟨result, s'⟩
  cases result <;> rfl

@[simp] theorem exec_map (f : α → β) (program : Program ε σ α) (s : σ) :
    exec (f <$> program) s = ((exec program s).1.map f, (exec program s).2) := by
  rw [← bind_pure_comp, exec_bind]
  rcases exec program s with ⟨result, s'⟩
  cases result <;> rfl

@[simp] theorem exec_get (s : σ) : exec (get : Program ε σ σ) s = (.ok s, s) := rfl

@[simp] theorem exec_modify (f : σ → σ) (s : σ) :
    exec (modify f : Program ε σ PUnit) s = (.ok ⟨⟩, f s) := rfl

/-- A computation without a state of its own as a program. -/
def attempt (result : Except ε α) : Program ε σ α := fun s => (result, s)

@[simp] theorem exec_attempt (result : Except ε α) (s : σ) :
    exec (attempt result : Program ε σ α) s = (result, s) := rfl

@[simp] theorem exec_throw (e : ε) (s : σ) :
    exec (throw e : Program ε σ α) s = (.error e, s) := rfl

/-- A sequence returns exactly when both of its parts do. -/
theorem exec_bind_eq_ok_iff {first : Program ε σ α} {next : α → Program ε σ β} {s s'' : σ}
    {b : β} : exec (first >>= next) s = (.ok b, s'') ↔
      ∃ a s', exec first s = (.ok a, s') ∧ exec (next a) s' = (.ok b, s'') := by
  rw [exec_bind]
  rcases exec first s with ⟨result, s'⟩
  cases result with
  | error e => simp
  | ok a =>
    constructor
    · intro h
      exact ⟨a, s', rfl, h⟩
    · rintro ⟨_, _, he, h⟩
      cases he
      exact h

theorem exec_attempt_eq_ok_iff {result : Except ε α} {s s' : σ} {a : α} :
    exec (attempt result : Program ε σ α) s = (.ok a, s') ↔ result = .ok a ∧ s = s' := by
  rw [exec_attempt, Prod.mk.injEq]

/-- The second test of a short-circuit disjunction runs only after a false. -/
theorem exec_orM (first second : Program ε σ Bool) (s : σ) :
    exec (first <||> second) s =
      match exec first s with
      | (.ok true, s') => (.ok true, s')
      | (.ok false, s') => exec second s'
      | (.error e, s') => (.error e, s') := by
  simp only [orM, exec_bind]
  rcases exec first s with ⟨result, s'⟩
  cases result with
  | error e => rfl
  | ok b => cases b <;> rfl

/-- Total correctness of a program: from every state that meets the
precondition it ends without an exception, and the result and the state it
leaves meet the postcondition. -/
def Triple (pre : σ → Prop) (program : Program ε σ α) (post : α → σ → Prop) : Prop :=
  ∀ s, pre s → ∃ a s', exec program s = (.ok a, s') ∧ post a s'

theorem Triple.pure {pre : σ → Prop} {a : α} {post : α → σ → Prop}
    (h : ∀ s, pre s → post a s) : Triple pre (pure a : Program ε σ α) post :=
  fun s hs => ⟨a, s, rfl, h s hs⟩

theorem Triple.bind {pre : σ → Prop} {first : Program ε σ α} {next : α → Program ε σ β}
    {post : β → σ → Prop} (mid : α → σ → Prop) (hfirst : Triple pre first mid)
    (hnext : ∀ a, Triple (mid a) (next a) post) : Triple pre (first >>= next) post := by
  intro s hs
  obtain ⟨a, s', he, hmid⟩ := hfirst s hs
  obtain ⟨b, s'', he', hpost⟩ := hnext a s' hmid
  exact ⟨b, s'', by simp [he, he'], hpost⟩

/-- The rule of short-circuit disjunction: the first test either decides, or
leaves what the second one needs. -/
theorem Triple.orM {pre : σ → Prop} {first second : Program ε σ Bool}
    {post : Bool → σ → Prop} (mid : σ → Prop)
    (hfirst : Triple pre first fun b s => if b = true then post true s else mid s)
    (hsecond : Triple mid second post) : Triple pre (first <||> second) post := by
  intro s hs
  obtain ⟨b, s', he, hb⟩ := hfirst s hs
  cases b with
  | true => exact ⟨true, s', by rw [exec_orM, he], by simpa using hb⟩
  | false =>
    obtain ⟨c, s'', he', hpost⟩ := hsecond s' (by simpa using hb)
    exact ⟨c, s'', by rw [exec_orM, he]; exact he', hpost⟩

/-- Whether the program returns or throws, the state that it leaves is related
to the state that it started in. -/
def Moves (rel : σ → σ → Prop) (program : Program ε σ α) : Prop :=
  ∀ s, rel s (exec program s).2

section Moves

variable {rel : σ → σ → Prop}

theorem Moves.of_eq [Std.Refl rel] {program : Program ε σ α}
    (h : ∀ s, (exec program s).2 = s) : Moves rel program := by
  intro s
  rw [h s]
  exact refl_of rel s

theorem Moves.pure [Std.Refl rel] (a : α) : Moves rel (pure a : Program ε σ α) :=
  .of_eq fun _ => rfl

theorem Moves.get [Std.Refl rel] : Moves rel (get : Program ε σ σ) := .of_eq fun _ => rfl

theorem Moves.throw [Std.Refl rel] (e : ε) : Moves rel (throw e : Program ε σ α) :=
  .of_eq fun _ => rfl

theorem Moves.attempt [Std.Refl rel] (result : Except ε α) :
    Moves rel (attempt result : Program ε σ α) := .of_eq fun _ => rfl

theorem Moves.modify {f : σ → σ} (h : ∀ s, rel s (f s)) :
    Moves rel (modify f : Program ε σ PUnit) := h

/-- The second part starts where the first one ends, or does not start. -/
theorem Moves.bind [IsTrans σ rel] {first : Program ε σ α} {next : α → Program ε σ β}
    (hfirst : Moves rel first) (hnext : ∀ a, Moves rel (next a)) :
    Moves rel (first >>= next) := by
  intro s
  have h := hfirst s
  rw [exec_bind]
  revert h
  rcases exec first s with ⟨result, s'⟩
  intro h
  cases result with
  | error e => exact h
  | ok a => exact trans_of rel h (hnext a s')

end Moves

end SigIf.Programs
