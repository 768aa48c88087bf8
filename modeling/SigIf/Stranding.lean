import SigIf.ServerInvariant

/-!
# Whether a connection waits while the receiver sleeps

The receiver takes one connection a round and then waits without a time limit.
It is never woken for a connection: only an event on a descriptor that is
registered already ends the wait.
-/

namespace SigIf.Stranding

open Posix Handler NewConnQ Acceptor Receiver Epoll ServerInvariant

/-- The receiver is blocked, and nothing is ready. -/
def Idle (s : Server) : Prop := s.receiver.pc = .waiting ∧ ¬ s.receiver.epoll.Ready

/-- While the receiver sleeps the queue is empty, and every connection pushed so
far is registered, error codes aside. -/
def NoneStranded (s : Server) : Prop :=
  Idle s → s.world.connQ.ConnQ = [] ∧ ∀ conn ∈ s.world.connQ.pushed,
    0 ≤ fdOf s.world.memory conn → s.receiver.epoll.Registered (fdOf s.world.memory conn)

/-- The guard of a step. No connection may be pushed while the receiver sleeps,
and it may begin to wait only with the queue empty or something ready. -/
def Guard (s : Server) : ServerAction → Prop
  | .acceptor .push => ¬ Idle s
  | .receiver .wait => s.world.connQ.ConnQ = [] ∨ s.receiver.epoll.Ready
  | _ => True

/-- An empty queue has nothing left to register. -/
theorem noneStranded_iff {s : Server} (h : Queued s) :
    NoneStranded s ↔ (Idle s → s.world.connQ.ConnQ = []) := by
  constructor
  · intro hnone hidle
    exact (hnone hidle).1
  · intro hempty hidle
    refine ⟨hempty hidle, ?_⟩
    intro conn hc hfd
    have hpopped : s.world.connQ.popped = s.world.connQ.pushed := by
      have haccounted := h.accounted
      rwa [Accounted, hempty hidle, List.append_nil] at haccounted
    exact h.registered_of_pc (by simp [hidle.1]) (hpopped ▸ hc) hfd

/-- A receiver that is not waiting strands nobody yet. -/
theorem noneStranded_of_pc {s : Server} (h : s.receiver.pc ≠ .waiting) : NoneStranded s :=
  fun hidle => absurd hidle.1 h

/-- Each step keeps the connections from being stranded exactly when it meets
its guard. -/
theorem step_noneStranded_iff {setting : ServerSetting} {table : ℕ → Option OpenFile}
    (s : Server) (a : ServerAction) (next : Server) (hinv : Kept table s ∧ Queued s)
    (hgood : NoneStranded s) (hnext : step setting s a = some next) :
    NoneStranded next ↔ Guard s a := by
  have hqueued := step_queued s a next hinv.1 hinv.2 hnext
  rw [noneStranded_iff hqueued]
  have hbefore := (noneStranded_iff hinv.2).mp hgood
  cases step_moves hnext with
  | setAddr calls hs => exact iff_of_true hbefore trivial
  | listen ok hs => exact iff_of_true hbefore trivial
  | accept calls hs => exact iff_of_true hbefore trivial
  | push client_fd hfd =>
    constructor
    · intro hafter hidle
      have hempty := hafter hidle
      simp [pushClient, push] at hempty
    · intro hawake hidle
      exact absurd hidle hawake
  | wait hpc =>
    constructor
    · intro hafter
      by_cases hready : s.receiver.epoll.Ready
      · exact Or.inr hready
      · exact Or.inl (hafter ⟨rfl, hready⟩)
    · rintro (hempty | hready) ⟨_, hnot⟩
      · exact hempty
      · exact absurd hready hnot
  | arrive fd events =>
    refine iff_of_true ?_ trivial
    rintro ⟨hpc, hnot⟩
    exact hbefore ⟨hpc, fun hready => hnot (hready.arrive fd events)⟩
  | pop hpc =>
    refine iff_of_true (fun hidle => ?_) trivial
    rcases popNext_pc s with he | ⟨conn, he⟩
    all_goals
      have hwaiting := hidle.1
      simp [he] at hwaiting
  | handle event events hpc =>
    refine iff_of_true (fun hidle => ?_) trivial
    have hwaiting := hidle.1
    rcases handleEvent_cases setting event events s with ⟨_, he⟩ | ⟨_, out, he⟩
    all_goals
      rw [he] at hwaiting
      cases hwaiting
  | _ =>
    refine iff_of_true (fun hidle => ?_) trivial
    cases hidle.1

/-- In a run from the start no connection is ever stranded exactly when every
step meets its guard. -/
theorem none_stranded_iff_guarded (setting : ServerSetting) (table : ℕ → Option OpenFile)
    (actions : List ServerAction) :
    Runs.Always (step setting) NoneStranded (start table) actions ↔
      Runs.Guarded (step setting) Guard (start table) actions :=
  Runs.always_iff_guarded
    (fun s a next h hnext => ⟨step_kept s a next h.1 hnext, step_queued s a next h.1 h.2 hnext⟩)
    step_noneStranded_iff ⟨start_kept table, start_queued table⟩
    (noneStranded_of_pc (by simp [start])) actions

/-- A second client is accepted and pushed while the receiver waits. -/
def secondClient : List ServerAction :=
  oneClient ++ [.acceptor (.accept ⟨some 5, true⟩), .acceptor .push]

/-- The second client waits in the queue until the first one sends something. -/
theorem second_client_stranded :
    ¬ Runs.Always (step (exampleSetting 0)) NoneStranded (start fun _ => none) secondClient := by
  intro h
  have hend := h.last rfl
  exact absurd (hend ⟨rfl, by decide⟩).1 (by decide)

end SigIf.Stranding
