import Mathlib.Data.Nat.Init
import Mathlib.Logic.Basic

/-!
# Runs of partial step functions

A system is a step function from a state and an action to an optional next
state; `none` means that the action is not enabled and nothing happens. A
run is a list of actions. Properties of all visited states and guards on
all executed steps are defined by the recursion of the run itself, and the
rules below turn facts about one step into facts about every run.
-/

namespace SigIf.Runs

variable {σ α : Type*}

/-- The state after a run; a run with an action that is not enabled has none. -/
def run (step : σ → α → Option σ) : σ → List α → Option σ
  | s, [] => some s
  | s, a :: actions => (step s a).bind fun next => run step next actions

/-- Every state visited by the run is good. A run stops at its first
action that is not enabled. -/
def Always (step : σ → α → Option σ) (good : σ → Prop) : σ → List α → Prop
  | s, [] => good s
  | s, a :: actions => good s ∧ ∀ next, step s a = some next → Always step good next actions

/-- Every executed step of the run meets the guard, which sees the state
before the step and the action only. -/
def Guarded (step : σ → α → Option σ) (guard : σ → α → Prop) : σ → List α → Prop
  | _, [] => True
  | s, a :: actions => ∀ next, step s a = some next → guard s a ∧ Guarded step guard next actions

variable {step : σ → α → Option σ} {good inv : σ → Prop} {guard : σ → α → Prop}

/-- The first state of a run is one of its states. -/
theorem Always.head {s : σ} {actions : List α} (h : Always step good s actions) : good s := by
  cases actions with
  | nil => exact h
  | cons a actions => exact h.1

/-- So is its last one. -/
theorem Always.last {s last : σ} {actions : List α} (h : Always step good s actions)
    (hrun : run step s actions = some last) : good last := by
  induction actions generalizing s with
  | nil => exact Option.some.inj hrun ▸ h
  | cons a actions ih =>
    obtain ⟨next, hnext, hrest⟩ := Option.bind_eq_some_iff.mp hrun
    exact ih (h.2 next hnext) hrest

/-- What is good may be replaced by what follows from it. -/
theorem Always.imp {better : σ → Prop} (hmono : ∀ s, good s → better s) {s : σ}
    {actions : List α} (h : Always step good s actions) : Always step better s actions := by
  induction actions generalizing s with
  | nil => exact hmono s h
  | cons a actions ih => exact ⟨hmono s h.1, fun next hnext => ih (h.2 next hnext)⟩

/-- A run that starts with an enabled action goes on from the next state. -/
theorem always_cons_iff {s next : σ} {a : α} (hnext : step s a = some next) (actions : List α) :
    Always step good s (a :: actions) ↔ good s ∧ Always step good next actions := by
  simp [Always, hnext]

/-- An invariant of the single steps holds in every state of a run. -/
theorem always_of_invariant (hstep : ∀ s a next, inv s → step s a = some next → inv next)
    {s : σ} (hs : inv s) (actions : List α) : Always step inv s actions := by
  induction actions generalizing s with
  | nil => exact hs
  | cons a actions ih =>
    refine ⟨hs, ?_⟩
    intro next hn
    exact ih (hstep s a next hs hn)

/-- The run rule for a guarded invariant: a guard that each step needs and
that is enough for it decides the whole run. -/
theorem always_iff_guarded (hinv : ∀ s a next, inv s → step s a = some next → inv next)
    (hexact : ∀ s a next, inv s → good s → step s a = some next → (good next ↔ guard s a))
    {s : σ} (hs : inv s) (hg : good s) (actions : List α) :
    Always step good s actions ↔ Guarded step guard s actions := by
  induction actions generalizing s with
  | nil => exact ⟨fun _ => trivial, fun _ => hg⟩
  | cons a actions ih =>
    constructor
    · rintro ⟨_, hrest⟩ next hn
      -- the tail is good from its first state on, so the step met its guard
      have hgood : good next := (hrest next hn).head
      exact ⟨(hexact s a next hs hg hn).mp hgood,
        (ih (hinv s a next hs hn) hgood).mp (hrest next hn)⟩
    · intro hguard
      refine ⟨hg, ?_⟩
      intro next hn
      obtain ⟨ha, hrest⟩ := hguard next hn
      have hgood : good next := (hexact s a next hs hg hn).mpr ha
      exact (ih (hinv s a next hs hn) hgood).mpr hrest

/-- Where every step makes a measure smaller, every state has a run to one in
which no action is enabled. -/
theorem exists_run_to_quiet (measure : σ → ℕ)
    (hdrop : ∀ s a next, step s a = some next → measure next < measure s) (s : σ) :
    ∃ actions last, run step s actions = some last ∧ ∀ a, step last a = none := by
  induction hm : measure s using Nat.strong_induction_on generalizing s with
  | _ m ih =>
    by_cases hquiet : ∀ a, step s a = none
    · exact ⟨[], s, rfl, hquiet⟩
    · obtain ⟨a, ha⟩ := not_forall.mp hquiet
      obtain ⟨next, hnext⟩ := Option.ne_none_iff_exists'.mp ha
      obtain ⟨actions, last, hrun, hlast⟩ := ih (measure next) (hm ▸ hdrop s a next hnext) next rfl
      exact ⟨a :: actions, last, by rw [run, hnext]; exact hrun, hlast⟩

end SigIf.Runs
