import SigIf.ServerInvariant

/-!
# Whether an event reaches the connection it belongs to

The connection for an event is built anew from the data of the event. It is
never the object that was popped for the descriptor, whatever the data is.
-/

namespace SigIf.Demultiplexing

open Posix Handler NewConnQ Acceptor Receiver Epoll ServerInvariant

/-- `HandleRead` was called once for each event handled, and on the object that
was popped for the descriptor of the event. -/
def Demultiplexed (s : Server) : Prop :=
  ∀ h ∈ s.handled, h.conn ∈ s.world.connQ.popped ∧ fdOf s.world.memory h.conn = h.source

/-- The guard of a step: it handles no event with `EPOLLIN`. -/
def Guard (s : Server) : ServerAction → Prop
  | .receiver .handle => ∀ event events,
    s.receiver.pc = .handling (event :: events) → event.events.epollin = false
  | _ => True

/-- A step that handles nothing. -/
theorem Demultiplexed.frame {s next : Server} (h : Demultiplexed s) (hqueued : Queued s)
    (hhandled : next.handled = s.handled)
    (hpopped : ∀ conn ∈ s.world.connQ.popped, conn ∈ next.world.connQ.popped)
    (hmem : Grows s.world.memory next.world.memory) : Demultiplexed next := by
  intro e he
  rw [hhandled] at he
  obtain ⟨hmember, hfd⟩ := h e he
  have halloc := hqueued.allocated e.conn (hqueued.pushed_of_popped hmember)
  exact ⟨hpopped e.conn hmember, (hmem.2 e.conn halloc).trans hfd⟩

/-- A connection built for an event was never popped. -/
theorem new_not_popped {s : Server} (h : Queued s) :
    s.world.memory.conns.length ∉ s.world.connQ.popped := by
  intro hmember
  have halloc := h.allocated _ (h.pushed_of_popped hmember)
  exact Nat.lt_irrefl _ halloc

/-- Each step keeps the events with their connections exactly when it meets its
guard. -/
theorem step_demultiplexed_iff {setting : ServerSetting} {table : ℕ → Option OpenFile}
    (s : Server) (a : ServerAction) (next : Server) (hinv : Kept table s ∧ Queued s)
    (hgood : Demultiplexed s) (hnext : step setting s a = some next) :
    Demultiplexed next ↔ Guard s a := by
  have hqueued := hinv.2
  have hmoves := step_moves hnext
  have hmem := moves_grows hmoves
  cases hmoves with
  | pop hpc =>
    exact iff_of_true
      (hgood.frame hqueued rfl (fun _ hc => popped_popStep hc) hmem) trivial
  | endBatch hpc =>
    exact iff_of_true (hgood.frame hqueued rfl (fun _ hc => hc) hmem)
      (forall_next_event_of_nil hpc fun e => e.events.epollin = false)
  | handle event events hpc =>
    have hguard : Guard s (.receiver .handle) ↔ event.events.epollin = false :=
      forall_next_event_iff hpc fun e => e.events.epollin = false
    rw [hguard]
    rcases handleEvent_cases setting event events s with ⟨hin, he⟩ | ⟨hin, out, he⟩
    · refine iff_of_false ?_ (by simp [hin])
      intro hafter
      rw [he] at hafter
      have hnew := hafter ⟨event.source, s.world.memory.conns.length⟩
        (List.mem_append_right _ (List.mem_singleton_self _))
      exact new_not_popped hqueued hnew.1
    · refine iff_of_true ?_ hin
      rw [he] at hmem ⊢
      exact hgood.frame hqueued rfl (fun _ hc => hc) hmem
  | _ => exact iff_of_true (hgood.frame hqueued rfl (fun _ hc => hc) hmem) trivial

/-- In a run from the start every event reaches the connection it belongs to
exactly when no event with `EPOLLIN` is handled. -/
theorem demultiplexed_iff_guarded (setting : ServerSetting) (table : ℕ → Option OpenFile)
    (actions : List ServerAction) :
    Runs.Always (step setting) Demultiplexed (start table) actions ↔
      Runs.Guarded (step setting) Guard (start table) actions :=
  Runs.always_iff_guarded
    (fun s a next h hnext => ⟨step_kept s a next h.1 hnext, step_queued s a next h.1 h.2 hnext⟩)
    step_demultiplexed_iff ⟨start_kept table, start_queued table⟩ (by simp [Demultiplexed, start])
    actions

/-- Even where the data is right by chance, the request is read into a new object. -/
theorem request_read_into_new_object :
    ¬ Runs.Always (step (exampleSetting 4)) Demultiplexed (start fun _ => none) oneRequest := by
  intro h
  have hend := h.last rfl ⟨4, 1⟩ (List.mem_singleton_self _)
  exact absurd hend.1 (by decide)

end SigIf.Demultiplexing
