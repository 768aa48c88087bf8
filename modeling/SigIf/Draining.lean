import SigIf.Delivery
import SigIf.EdgeTriggered

/-!
# Whether the read handler drains its descriptor

Descriptors are watched edge-triggered, so a call of the read handler has to go
on until there is nothing left. Its loop ends at the first result that is not
positive, and an interrupted read is one.
-/

namespace SigIf.Draining

open Posix Handler EdgeTriggered

/-- What the end of the loop says about the descriptor. -/
def endingOf : ReadStop → Ending
  | .eof => .ended
  | .error .EAGAIN => .empty
  | .error .EINTR => .interrupted
  | .error .EBADF => .broken
  | .error (.other _) => .broken

/-- What happens while the handler runs: a read returns, or something arrives. -/
inductive During where
  | read (result : ReadResult readCapacity)
  | arrives (a : Arrival UInt8)

/-- The same for the source. -/
def During.event : During → Event UInt8
  | .read (.chunk c) => .delivers c.bytes
  | .read (.stop stop) => .finishes (endingOf stop)
  | .arrives a => .arrives a

/-- The results that the reads see. -/
def outcomes (during : List During) : List (ReadResult readCapacity) :=
  during.filterMap fun
    | .read result => some result
    | .arrives _ => none

/-- A watched descriptor, the memory, and what ended the last call. -/
structure Reader where
  source : Source UInt8
  mem : Memory
  last : Option ReadStop

/-- Something arrives between two calls, or a call runs from the edge that it
is told of to its return. -/
inductive Action where
  | arrives (a : Arrival UInt8)
  | call (conn : ConnRef) (during : List During)

/-- One step. A call that does not return has none. -/
def step (s : Reader) : Action → Option Reader
  | .arrives a => (s.source.step (.arrives a)).map fun source => { s with source := source }
  | .call conn during =>
    if s.source.edge then
      match handleRead conn (outcomes during) s.mem,
        Runs.run Source.step s.source.wake (during.map During.event) with
      | some (mem, stop, []), some source => some ⟨source, mem, some stop⟩
      | _, _ => none
    else none

/-- A descriptor that has just been registered, with what it has received so far. -/
def registered (unread : Bytes) (mem : Memory) : Reader := ⟨.watched unread, mem, none⟩

/-- The last call saw an end of stream, that nothing is left, or a permanent
error, and no bytes are unread without an edge to announce them. -/
structure Drained (s : Reader) : Prop where
  last : ∀ stop, s.last = some stop → endingOf stop ≠ .interrupted
  announced : s.source.Announced

/-- The first result that is not a chunk is an interrupted read. -/
def InterruptedFirst (results : List (ReadResult readCapacity)) : Prop :=
  ∃ (chunks : List (Chunk readCapacity)) (rest : List (ReadResult readCapacity)),
    results = chunks.map .chunk ++ .stop (.error .EINTR) :: rest

/-- The guard of a step. -/
def Guard (_ : Reader) : Action → Prop
  | .arrives _ => True
  | .call _ during => ¬ InterruptedFirst (outcomes during)

/-- The loop takes the chunks up to the first result that is none. -/
theorem readLoop_append (chunks : List (Chunk readCapacity)) (stop : ReadStop)
    (rest : List (ReadResult readCapacity)) (buffer : Bytes) :
    readLoop buffer (chunks.map .chunk ++ .stop stop :: rest) =
      some (buffer ++ chunks.flatMap (·.bytes), stop, rest) := by
  induction chunks generalizing buffer with
  | nil => simp [readLoop]
  | cons c chunks ih =>
    have hrest := ih (buffer ++ c.bytes)
    simpa [readLoop] using hrest

/-- If it ends it has taken them, and that result. -/
theorem readLoop_inv {results rest : List (ReadResult readCapacity)} {buffer after : Bytes}
    {stop : ReadStop} (h : readLoop buffer results = some (after, stop, rest)) :
    ∃ chunks : List (Chunk readCapacity), results = chunks.map .chunk ++ .stop stop :: rest := by
  induction results generalizing buffer with
  | nil => cases h
  | cons result results ih =>
    cases result with
    | chunk c =>
      obtain ⟨chunks, rfl⟩ := ih h
      exact ⟨c :: chunks, rfl⟩
    | stop s =>
      obtain ⟨_, rfl, rfl⟩ : buffer = after ∧ s = stop ∧ results = rest := by
        simpa [readLoop] using h
      exact ⟨[], rfl⟩

/-- What a call that returns has seen. -/
theorem handleRead_inv {conn : ConnRef} {results rest : List (ReadResult readCapacity)}
    {mem after : Memory} {stop : ReadStop}
    (h : handleRead conn results mem = some (after, stop, rest)) :
    ∃ chunks : List (Chunk readCapacity), results = chunks.map .chunk ++ .stop stop :: rest := by
  obtain ⟨info, _, h⟩ := Option.bind_eq_some_iff.mp h
  obtain ⟨⟨buffer, s, r⟩, hloop, hend⟩ := Option.bind_eq_some_iff.mp h
  obtain ⟨_, rfl, rfl⟩ : _ ∧ s = stop ∧ r = rest := by simpa using hend
  exact readLoop_inv hloop

/-- A call returns after an interrupted read exactly when that comes first. -/
theorem ends_interrupted_iff {conn : ConnRef} {results rest : List (ReadResult readCapacity)}
    {mem after : Memory} {stop : ReadStop}
    (h : handleRead conn results mem = some (after, stop, rest)) :
    endingOf stop = .interrupted ↔ InterruptedFirst results := by
  obtain ⟨chunks, hresults⟩ := handleRead_inv h
  constructor
  · intro hending
    have hstop : stop = .error .EINTR := by
      cases stop with
      | eof => cases hending
      | error e => cases e <;> first | rfl | cases hending
    exact ⟨chunks, rest, hstop ▸ hresults⟩
  · rintro ⟨others, rest', hfirst⟩
    have hloop := readLoop_append chunks stop rest []
    rw [← hresults, hfirst, readLoop_append] at hloop
    obtain ⟨_, rfl, _⟩ : _ ∧ ReadStop.error .EINTR = stop ∧ _ := by simpa using hloop
    rfl

/-- The result that ends a call is one of the things that happen to its source. -/
theorem finishes_mem_events {during : List During} {stop : ReadStop}
    (h : ReadResult.stop stop ∈ outcomes during) :
    Event.finishes (endingOf stop) ∈ during.map During.event := by
  obtain ⟨d, hd, hresult⟩ := List.mem_filterMap.mp h
  cases d with
  | read result =>
    obtain rfl := Option.some.inj hresult
    exact List.mem_map.mpr ⟨_, hd, rfl⟩
  | arrives a => cases hresult

/-- What a step can be. -/
theorem step_cases {s next : Reader} {a : Action} (h : step s a = some next) :
    (∃ arrival source, a = .arrives arrival ∧ s.source.step (.arrives arrival) = some source ∧
      next = { s with source := source }) ∨
    ∃ conn during mem stop source, a = .call conn during ∧
      handleRead conn (outcomes during) s.mem = some (mem, stop, []) ∧
      Runs.run Source.step s.source.wake (during.map During.event) = some source ∧
      next = ⟨source, mem, some stop⟩ := by
  cases a with
  | arrives arrival =>
    obtain ⟨source, hsource, rfl⟩ := Option.map_eq_some_iff.mp h
    exact Or.inl ⟨arrival, source, rfl, hsource, rfl⟩
  | call conn during =>
    simp only [step, Option.ite_none_right_eq_some] at h
    obtain ⟨_, h⟩ := h
    split at h
    · rename_i mem stop source hread hrun
      exact Or.inr ⟨conn, during, mem, stop, source, rfl, hread, hrun,
        (Option.some.inj h).symm⟩
    · cases h

/-- A step leaves the descriptor drained exactly when it meets its guard. -/
theorem step_drained_iff (s : Reader) (a : Action) (next : Reader) (h : Drained s)
    (hnext : step s a = some next) : Drained next ↔ Guard s a := by
  rcases step_cases hnext with ⟨arrival, source, rfl, hsource, rfl⟩ |
    ⟨conn, during, mem, stop, source, rfl, hread, hrun, rfl⟩
  · exact iff_of_true ⟨h.last, Source.step_announced _ _ _ h.announced hsource⟩ trivial
  · have hends := ends_interrupted_iff hread
    constructor
    · intro hafter hfirst
      exact hafter.last stop rfl (hends.mpr hfirst)
    · intro hguard
      have hending : endingOf stop ≠ .interrupted := mt hends.mp hguard
      refine ⟨?_, ?_⟩
      · intro other hother
        obtain rfl := Option.some.inj hother
        exact hending
      · obtain ⟨chunks, hresults⟩ := handleRead_inv hread
        have hstop : ReadResult.stop stop ∈ outcomes during := by simp [hresults]
        exact Source.run_announced hending (finishes_mem_events hstop) hrun

/-- From its registration on a descriptor is left drained by every call exactly
when no call sees an interrupted read before any other end of its loop. -/
theorem drained_iff_guarded (unread : Bytes) (mem : Memory) (actions : List Action) :
    Runs.Always step Drained (registered unread mem) actions ↔
      Runs.Guarded step Guard (registered unread mem) actions :=
  Runs.always_iff_guarded (fun _ _ _ (_ : True) _ => trivial)
    (fun s a next _ hs hnext => step_drained_iff s a next hs hnext) trivial
    ⟨by simp [registered], Source.watched_announced unread⟩ actions

/-- Two bytes arrive, and the call for them is interrupted after the first one. -/
def interruptedRead : List Action :=
  [.arrives (.data [65, 66]),
    .call 0 [.read (.chunk ⟨[65], by simp, by simp [readCapacity]⟩), .read (.stop (.error .EINTR))]]

/-- The second byte stays unread, and no edge will tell of it. -/
theorem interrupted_read_leaves_byte :
    ¬ Runs.Always step Drained (registered [] Delivery.oneClient) interruptedRead := by
  intro h
  have hlast := h.last rfl
  rcases hlast.announced with hread | hedge | hbroken
  · cases hread
  · cases hedge
  · cases hbroken

end SigIf.Draining
