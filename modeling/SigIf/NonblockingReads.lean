import SigIf.ServerInvariant

/-!
# Whether the receiver can block in a read

Nothing in the program sets `O_NONBLOCK` on any descriptor, and every read is
on the one descriptor that the events carry. So all depends on how that
descriptor was inherited.
-/

namespace SigIf.NonblockingReads

open Posix Handler NewConnQ Acceptor Receiver Epoll Inheritance ServerInvariant

/-- Every read was executed on a non-blocking descriptor. -/
def NeverBlocks (s : Server) : Prop := ∀ r ∈ s.reads, r.nonblocking = true

/-- The descriptor that the events carry was open and non-blocking at the start. -/
def InheritedNonblocking (setting : ServerSetting) (table : ℕ → Option OpenFile) : Prop :=
  Nonblocking ⟨table, []⟩ setting.general_ev_data

/-- The guard of a step: it handles no event with `EPOLLIN`, or the data of the
events is an inherited non-blocking descriptor. -/
def Guard (setting : ServerSetting) (table : ℕ → Option OpenFile) (s : Server) :
    ServerAction → Prop
  | .receiver .handle => ∀ event events, s.receiver.pc = .handling (event :: events) →
    event.events.epollin = true → InheritedNonblocking setting table
  | _ => True

/-- Every read so far was on that descriptor, and saw its inherited flag. -/
structure Recorded (setting : ServerSetting) (table : ℕ → Option OpenFile) (s : Server) :
    Prop where
  flag : ∀ r ∈ s.reads, r.nonblocking = true ↔ InheritedNonblocking setting table
  started : ∀ conn events, s.receiver.pc = .reading conn events → s.reads ≠ []

/-- What is known of every state. -/
structure Invariant (setting : ServerSetting) (table : ℕ → Option OpenFile) (s : Server) :
    Prop where
  kept : Kept table s
  marked : Marked setting s
  recorded : Recorded setting table s

/-- Going into a read on the marked descriptor records its inherited flag. -/
theorem enterRead_recorded {setting : ServerSetting} {table : ℕ → Option OpenFile} {s : Server}
    (hflag : ∀ r ∈ s.reads, r.nonblocking = true ↔ InheritedNonblocking setting table)
    (hos : Extends ⟨table, []⟩ s.world.os) {conn : ConnRef}
    (hfd : fdOf s.world.memory conn = setting.general_ev_data) (events : List ReadyEvent) :
    Recorded setting table (enterRead conn events s) := by
  refine ⟨?_, fun _ _ _ => by simp [enterRead]⟩
  intro r hr
  rcases List.mem_append.mp hr with hold | hnew
  · exact hflag r hold
  · rw [List.mem_singleton.mp hnew, decide_eq_true_eq, hfd]
    exact hos.nonblocking_iff _

/-- A step without a read. -/
theorem Recorded.frame {setting : ServerSetting} {table : ℕ → Option OpenFile} {s next : Server}
    (h : Recorded setting table s) (hreads : next.reads = s.reads)
    (hpc : ∀ conn events, next.receiver.pc = .reading conn events →
      s.receiver.pc = .reading conn events) : Recorded setting table next :=
  ⟨fun r hr => h.flag r (hreads ▸ hr), fun conn events hread =>
    hreads ▸ h.started conn events (hpc conn events hread)⟩

theorem step_invariant {setting : ServerSetting} {table : ℕ → Option OpenFile} (s : Server)
    (a : ServerAction) (next : Server) (h : Invariant setting table s)
    (hnext : step setting s a = some next) : Invariant setting table next := by
  refine ⟨step_kept s a next h.kept hnext, step_marked s a next h.marked hnext, ?_⟩
  cases step_moves hnext with
  | pop hpc =>
    refine h.recorded.frame rfl ?_
    intro conn events hread
    rcases popNext_pc s with he | ⟨other, he⟩
    all_goals
      rw [he] at hread
      cases hread
  | handle event events hpc =>
    have hdata : event.data = setting.general_ev_data :=
      h.marked.events event (by rw [hpc]; exact List.mem_cons_self)
    rcases handleEvent_cases setting event events s with ⟨_, he⟩ | ⟨_, out, he⟩
    · rw [he]
      have hfd := (fdOf_newConnection setting.toSetting event.data s.world).trans hdata
      apply enterRead_recorded
      · exact h.recorded.flag
      · exact h.kept.inherited
      · exact hfd
    · rw [he]
      exact h.recorded.frame rfl (fun conn events hread => nomatch hread)
  | readChunk conn events c hpc =>
    have hfd := (fdOf_appendChunk s.world.memory conn conn c.bytes).trans
      (h.marked.reading conn events hpc).2
    apply enterRead_recorded
    · exact h.recorded.flag
    · exact h.kept.inherited
    · exact hfd
  | setAddr | listen | accept | push | arrive => exact h.recorded.frame rfl fun _ _ hread => hread
  | _ => exact h.recorded.frame rfl fun _ _ hread => nomatch hread

/-- A read that is recorded blocks or not as its descriptor was inherited. -/
theorem neverBlocks_iff {setting : ServerSetting} {table : ℕ → Option OpenFile} {s : Server}
    (h : Recorded setting table s) (hreads : s.reads ≠ []) :
    NeverBlocks s ↔ InheritedNonblocking setting table := by
  obtain ⟨first, rest, he⟩ := List.exists_cons_of_ne_nil hreads
  have hmember : first ∈ s.reads := by rw [he]; exact List.mem_cons_self
  constructor
  · intro hnever
    exact (h.flag first hmember).mp (hnever first hmember)
  · intro hinherited r hr
    exact (h.flag r hr).mpr hinherited

/-- Each step keeps the reads from blocking exactly when it meets its guard. -/
theorem step_neverBlocks_iff {setting : ServerSetting} {table : ℕ → Option OpenFile}
    (s : Server) (a : ServerAction) (next : Server) (h : Invariant setting table s)
    (hgood : NeverBlocks s) (hnext : step setting s a = some next) :
    NeverBlocks next ↔ Guard setting table s a := by
  have hafter := (step_invariant s a next h hnext).recorded
  cases step_moves hnext with
  | handle event events hpc =>
    have hguard : Guard setting table s (.receiver .handle) ↔
        (event.events.epollin = true → InheritedNonblocking setting table) :=
      forall_next_event_iff hpc fun e => e.events.epollin = true → InheritedNonblocking setting table
    rw [hguard]
    rcases handleEvent_cases setting event events s with ⟨hin, he⟩ | ⟨hin, out, he⟩
    · rw [he] at hafter ⊢
      rw [neverBlocks_iff hafter (by simp [enterRead])]
      exact ⟨fun hi _ => hi, fun hi => hi hin⟩
    · rw [he]
      exact iff_of_true hgood fun htrue => by simp [hin] at htrue
  | readChunk conn events c hpc =>
    have hinherited := (neverBlocks_iff h.recorded (h.recorded.started conn events hpc)).mp hgood
    exact iff_of_true ((neverBlocks_iff hafter (by simp [readAgain, enterRead])).mpr hinherited)
      trivial
  | endBatch hpc =>
    exact iff_of_true hgood (forall_next_event_of_nil hpc
      fun e => e.events.epollin = true → InheritedNonblocking setting table)
  | _ => exact iff_of_true hgood trivial

/-- In a run from the start no read can block exactly when no event with
`EPOLLIN` is handled, or the data of the events is a descriptor that was
non-blocking before the program did anything. -/
theorem never_blocks_iff_guarded (setting : ServerSetting) (table : ℕ → Option OpenFile)
    (actions : List ServerAction) :
    Runs.Always (step setting) NeverBlocks (start table) actions ↔
      Runs.Guarded (step setting) (Guard setting table) (start table) actions := by
  refine Runs.always_iff_guarded step_invariant step_neverBlocks_iff ?_ ?_ actions
  · refine ⟨start_kept table, start_marked setting table, ?_, ?_⟩
    · simp [start]
    · intro conn events hread
      cases hread
  · simp [NeverBlocks, start]

/-- The data is the client's descriptor by chance, and the read on it blocks. -/
theorem read_on_client_blocks :
    ¬ Runs.Always (step (exampleSetting 4)) NeverBlocks (start fun _ => none) oneRequest := by
  intro h
  have hend := h.last rfl ⟨4, false⟩ (List.mem_singleton_self _)
  cases hend

end SigIf.NonblockingReads
