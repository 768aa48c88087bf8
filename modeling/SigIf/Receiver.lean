import SigIf.Acceptor
import SigIf.Epoll
import SigIf.Runs

/-!
# The receiver thread beside the acceptor

`IOReceiver` step by step, interleaved with the acceptor and with whatever
happens on the clients' sides. The one `epoll_event` that every registration
passes has its events set and its data never; the data is what happens to be in
memory, and stays that. The run starts after `epoll_create`. Logs record the
reads and the handled events; no step depends on them. The workers, who take
from the other end of the task queue, have no part in this.
-/

namespace SigIf.Receiver

open Posix Handler NewConnQ Acceptor Epoll

/-- Where the receiver is in its loop. -/
inductive ReceiverPc where
  /-- In `Pop`. -/
  | popping
  /-- `Pop` has returned this connection. -/
  | popped (conn : ConnRef)
  /-- About to call `epoll_wait`. -/
  | registered
  /-- Blocked in `epoll_wait`. -/
  | waiting
  /-- In the loop over the events of a batch, with those left. -/
  | handling (events : List ReadyEvent)
  /-- In a read of `HandleRead` on this connection. -/
  | reading (conn : ConnRef) (events : List ReadyEvent)
  deriving DecidableEq

/-- The receiver thread. The keys of its map are the addresses of the stored
objects, so an insertion always adds an entry. -/
structure ReceiverThread where
  pc : ReceiverPc
  ipv4_conn_map : List ConnRef
  epoll : Instance
  out : List String

/-- One execution of `read(conn->fd,buffer,4096)`, with the status flag of the
descriptor at that time. -/
structure ReadRecord where
  fd : ℤ
  nonblocking : Bool

/-- An `EPOLLIN` event of a descriptor and the connection that `HandleRead` was
called on for it. -/
structure HandledEvent where
  source : ℤ
  conn : ConnRef

/-- Both threads, what they share, and the logs. -/
structure Server where
  acceptor : AcceptorThread
  receiver : ReceiverThread
  world : World
  reads : List ReadRecord
  handled : List HandledEvent

/-- What the threads are given, with the bytes in `general_ev.data`. -/
structure ServerSetting extends Setting where
  general_ev_data : ℤ

/-- The size of the array `active_ev`. -/
def maxEvents : ℕ := 1024

/-- The server when both threads start. -/
def start (table : ℕ → Option OpenFile) : Server where
  acceptor := .start
  receiver := ⟨.popping, [], .new, []⟩
  world := ⟨⟨table, []⟩, ⟨[], []⟩, .empty⟩
  reads := []
  handled := []

/-- `conn->fd`. -/
def fdOf (memory : Memory) (conn : ConnRef) : ℤ := (memory.conns[conn]?).elim (-1) (·.fd)

/-- The steps of the receiver, with what the system calls are to return. -/
inductive ReceiverStep where
  | pop
  | register
  | wait
  | wake (fds : List ℤ)
  | interrupt
  | handle
  | readChunk (c : Chunk readCapacity)
  | readStop (stop : ReadStop)

/-- The next step of `Pop`; its locked section hands a connection on. -/
def popNext (s : Server) : Server :=
  { s with
    world.connQ := popStep s.world.connQ
    receiver.pc := match s.world.connQ.tested, s.world.connQ.ConnQ with
      | true, conn :: _ => .popped conn
      | _, _ => .popping }

/-- The branch on a connection that is not null, which it never is. -/
def register (setting : ServerSetting) (conn : ConnRef) (s : Server) : Server :=
  { s with receiver :=
      { s.receiver with
        pc := .registered
        ipv4_conn_map := s.receiver.ipv4_conn_map ++ [conn]
        epoll := s.receiver.epoll.add s.world.os (fdOf s.world.memory conn)
          setting.general_ev_data } }

/-- Go into `read(conn->fd,buffer,4096)`. -/
def enterRead (conn : ConnRef) (events : List ReadyEvent) (s : Server) : Server :=
  { s with
    receiver.pc := .reading conn events
    reads := s.reads ++ [⟨fdOf s.world.memory conn,
      decide (Inheritance.Nonblocking s.world.os (fdOf s.world.memory conn))⟩] }

/-- The body of the loop over the events. -/
def handleEvent (setting : ServerSetting) (event : ReadyEvent) (events : List ReadyEvent)
    (s : Server) : Server :=
  let fd := event.data
  let (conn, world) := newConnection setting.toSetting fd s.world
  let s := { s with world := world }
  if event.events.epollin then
    enterRead conn events { s with handled := s.handled ++ [⟨event.source, conn⟩] }
  else if event.events.epollerr then { s with receiver.pc := .handling events }
  else { s with receiver :=
    { s.receiver with pc := .handling events, out := "Unknown Events" :: s.receiver.out } }

/-- The read returned a chunk, and the loop of `HandleRead` reads again. -/
def readAgain (conn : ConnRef) (bytes : Bytes) (events : List ReadyEvent) (s : Server) : Server :=
  enterRead conn events { s with world.memory := appendChunk conn bytes s.world.memory }

/-- The read returned anything else, and `HandleRead` queues its task. -/
def finishRead (conn : ConnRef) (stop : ReadStop) (events : List ReadyEvent) (s : Server) :
    Server :=
  { s with
    receiver := { s.receiver with
      pc := .handling events
      epoll := if stop = .error .EAGAIN then
          s.receiver.epoll.drain (fdOf s.world.memory conn)
        else s.receiver.epoll }
    world.memory := pushTask conn s.world.memory }

/-- The receiver takes its steps in the order of its text. -/
def receiverStep (setting : ServerSetting) (s : Server) (step : ReceiverStep) : Option Server :=
  match s.receiver.pc, step with
  | .popping, .pop => some (popNext s)
  | .popped conn, .register => some (register setting conn s)
  | .registered, .wait => some { s with receiver.pc := .waiting }
  | .waiting, .wake fds => (s.receiver.epoll.report maxEvents fds).map fun (events, epoll) =>
      { s with receiver := { s.receiver with pc := .handling events, epoll := epoll } }
  | .waiting, .interrupt => some { s with receiver.pc := .popping }
  | .handling [], .handle => some { s with receiver.pc := .popping }
  | .handling (event :: events), .handle => some (handleEvent setting event events s)
  | .reading conn events, .readChunk c => some (readAgain conn c.bytes events s)
  | .reading conn events, .readStop stop => some (finishRead conn stop events s)
  | _, _ => none

/-- The events that are still to be handled. -/
def ReceiverPc.events : ReceiverPc → List ReadyEvent
  | .handling events => events
  | .reading _ events => events
  | _ => []

/-- What is asked of the next event is asked of the first one in the batch. -/
theorem forall_next_event_iff {pc : ReceiverPc} {event : ReadyEvent} {events : List ReadyEvent}
    (hpc : pc = .handling (event :: events)) (p : ReadyEvent → Prop) :
    (∀ e rest, pc = .handling (e :: rest) → p e) ↔ p event := by
  constructor
  · exact fun h => h event events hpc
  · intro h e rest hnext
    rw [hpc] at hnext
    cases hnext
    exact h

/-- At the end of a batch nothing is asked. -/
theorem forall_next_event_of_nil {pc : ReceiverPc} (hpc : pc = .handling [])
    (p : ReadyEvent → Prop) (e : ReadyEvent) (rest : List ReadyEvent)
    (hnext : pc = .handling (e :: rest)) : p e := by
  rw [hpc] at hnext
  cases hnext

/-- What an event leads to: a read of the new connection, or just the next event. -/
theorem handleEvent_cases (setting : ServerSetting) (event : ReadyEvent)
    (events : List ReadyEvent) (s : Server) :
    (event.events.epollin = true ∧ handleEvent setting event events s =
      enterRead s.world.memory.conns.length events { s with
        world := (newConnection setting.toSetting event.data s.world).2
        handled := s.handled ++ [⟨event.source, s.world.memory.conns.length⟩] }) ∨
    (event.events.epollin = false ∧ ∃ out, handleEvent setting event events s = { s with
      world := (newConnection setting.toSetting event.data s.world).2
      receiver := { s.receiver with pc := .handling events, out := out } }) := by
  cases hin : event.events.epollin with
  | true =>
    refine Or.inl ⟨rfl, ?_⟩
    simp only [handleEvent, hin, if_true]
    rfl
  | false =>
    refine Or.inr ⟨rfl, ?_⟩
    cases herr : event.events.epollerr with
    | true => exact ⟨s.receiver.out, by simp [handleEvent, hin, herr]⟩
    | false => exact ⟨"Unknown Events" :: s.receiver.out, by simp [handleEvent, hin, herr]⟩

/-- Either way the acceptor and the registrations stay as they are. -/
theorem handleEvent_frame (setting : ServerSetting) (event : ReadyEvent)
    (events : List ReadyEvent) (s : Server) :
    (handleEvent setting event events s).acceptor = s.acceptor ∧
      (handleEvent setting event events s).receiver.epoll = s.receiver.epoll ∧
      (handleEvent setting event events s).receiver.pc.events = events ∧
      (handleEvent setting event events s).world =
        (newConnection setting.toSetting event.data s.world).2 := by
  rcases handleEvent_cases setting event events s with ⟨_, he⟩ | ⟨_, out, he⟩
  all_goals
    rw [he]
    exact ⟨rfl, rfl, rfl, rfl⟩

/-- What can happen next: a step of a thread, or something on a descriptor. -/
inductive ServerAction where
  | acceptor (step : AcceptorStep)
  | receiver (step : ReceiverStep)
  | arrive (fd : ℤ) (events : Events)

/-- One step of the server. There is none after undefined behaviour. -/
def step (setting : ServerSetting) (s : Server) (a : ServerAction) : Option Server :=
  if s.world.connQ.undefined then none
  else match a with
    | .acceptor step => (acceptorStep setting.toSetting s.acceptor s.world step).map
        fun (thread, world) => { s with acceptor := thread, world := world }
    | .receiver step => receiverStep setting s step
    | .arrive fd events => some { s with receiver.epoll := s.receiver.epoll.arrive fd events }

/-- The same steps as a relation, one case for each thing that can happen. -/
inductive Moves (setting : ServerSetting) (s : Server) : ServerAction → Server → Prop where
  | setAddr (calls : TcpWrap.SetAddrCalls) (h : s.acceptor.setAddrResult = none) :
    Moves setting s (.acceptor (.setAddr calls))
      { s with
        acceptor := (callSetAddr setting.toSetting calls s.acceptor s.world).1
        world := (callSetAddr setting.toSetting calls s.acceptor s.world).2 }
  | listen (ok : Bool) (h : s.acceptor.setAddrResult ≠ none ∧ s.acceptor.listenResult = none) :
    Moves setting s (.acceptor (.listen ok))
      { s with
        acceptor := (callListen ok s.acceptor s.world).1
        world := (callListen ok s.acceptor s.world).2 }
  | accept (calls : TcpWrap.AcceptCalls)
    (h : s.acceptor.listenResult ≠ none ∧ s.acceptor.client_fd = none) :
    Moves setting s (.acceptor (.accept calls))
      { s with
        acceptor := (callAccept calls s.acceptor s.world).1
        world := (callAccept calls s.acceptor s.world).2 }
  | push (client_fd : ℤ) (h : s.acceptor.client_fd = some client_fd) :
    Moves setting s (.acceptor .push)
      { s with
        acceptor := (pushClient setting.toSetting client_fd s.acceptor s.world).1
        world := (pushClient setting.toSetting client_fd s.acceptor s.world).2 }
  | pop (hpc : s.receiver.pc = .popping) : Moves setting s (.receiver .pop) (popNext s)
  | register (conn : ConnRef) (hpc : s.receiver.pc = .popped conn) :
    Moves setting s (.receiver .register) (register setting conn s)
  | wait (hpc : s.receiver.pc = .registered) :
    Moves setting s (.receiver .wait) { s with receiver.pc := .waiting }
  | wake (fds : List ℤ) (events : List ReadyEvent) (epoll : Instance)
    (hpc : s.receiver.pc = .waiting)
    (h : s.receiver.epoll.report maxEvents fds = some (events, epoll)) :
    Moves setting s (.receiver (.wake fds))
      { s with receiver := { s.receiver with pc := .handling events, epoll := epoll } }
  | interrupt (hpc : s.receiver.pc = .waiting) :
    Moves setting s (.receiver .interrupt) { s with receiver.pc := .popping }
  | endBatch (hpc : s.receiver.pc = .handling []) :
    Moves setting s (.receiver .handle) { s with receiver.pc := .popping }
  | handle (event : ReadyEvent) (events : List ReadyEvent)
    (hpc : s.receiver.pc = .handling (event :: events)) :
    Moves setting s (.receiver .handle) (handleEvent setting event events s)
  | readChunk (conn : ConnRef) (events : List ReadyEvent) (c : Chunk readCapacity)
    (hpc : s.receiver.pc = .reading conn events) :
    Moves setting s (.receiver (.readChunk c)) (readAgain conn c.bytes events s)
  | readStop (conn : ConnRef) (events : List ReadyEvent) (stop : ReadStop)
    (hpc : s.receiver.pc = .reading conn events) :
    Moves setting s (.receiver (.readStop stop)) (finishRead conn stop events s)
  | arrive (fd : ℤ) (events : Events) :
    Moves setting s (.arrive fd events)
      { s with receiver.epoll := s.receiver.epoll.arrive fd events }

/-- Every step is one of these. -/
theorem step_moves {setting : ServerSetting} {s next : Server} {a : ServerAction}
    (h : step setting s a = some next) : Moves setting s a next := by
  unfold step at h
  split at h
  · cases h
  cases a with
  | acceptor b =>
    cases b with
    | setAddr calls =>
      simp only [acceptorStep] at h
      split at h
      · rename_i hs
        cases h
        exact .setAddr calls hs
      · cases h
    | listen ok =>
      simp only [acceptorStep] at h
      split at h
      · rename_i hs
        cases h
        exact .listen ok hs
      · cases h
    | accept calls =>
      simp only [acceptorStep] at h
      split at h
      · rename_i hs
        cases h
        exact .accept calls hs
      · cases h
    | push =>
      cases hfd : s.acceptor.client_fd with
      | none => simp [acceptorStep, hfd] at h
      | some client_fd =>
        simp only [acceptorStep, hfd, Option.map_some] at h
        cases h
        exact .push client_fd hfd
  | receiver b =>
    simp only [receiverStep] at h
    split at h
    · cases h
      exact .pop ‹_›
    · cases h
      exact .register _ ‹_›
    · cases h
      exact .wait ‹_›
    · obtain ⟨⟨events, epoll⟩, hreport, he⟩ := Option.map_eq_some_iff.mp h
      cases he
      exact .wake _ events epoll ‹_› hreport
    · cases h
      exact .interrupt ‹_›
    · cases h
      exact .endBatch ‹_›
    · cases h
      exact .handle _ _ ‹_›
    · cases h
      exact .readChunk _ _ _ ‹_›
    · cases h
      exact .readStop _ _ _ ‹_›
    · cases h
  | arrive fd events =>
    cases h
    exact .arrive fd events

/-- The steps of the receiver in one uninterrupted call of `HandleRead`. -/
def readSteps (call : ReadCall) : List ServerAction :=
  call.chunks.map (fun c => .receiver (.readChunk c)) ++ [.receiver (.readStop call.stop)]

/-- They append the chunks and then queue the task. -/
theorem run_readSteps {setting : ServerSetting} {s : Server} {conn : ConnRef}
    {events : List ReadyEvent} (hdef : s.world.connQ.undefined = false)
    (hpc : s.receiver.pc = .reading conn events) (call : ReadCall) :
    ∃ s', Runs.run (step setting) s (readSteps call) = some s' ∧
      s'.receiver.pc = .handling events ∧
      s'.world.memory = pushTask conn
        (call.chunks.foldl (fun mem c => appendChunk conn c.bytes mem) s.world.memory) := by
  obtain ⟨chunks, stop⟩ := call
  induction chunks generalizing s with
  | nil =>
    have hstop : step setting s (.receiver (.readStop stop)) =
        some (finishRead conn stop events s) := by
      simp [step, hdef, receiverStep, hpc]
    exact ⟨finishRead conn stop events s, by simp [readSteps, Runs.run, hstop], rfl, rfl⟩
  | cons c chunks ih =>
    have hchunk : step setting s (.receiver (.readChunk c)) =
        some (readAgain conn c.bytes events s) := by
      simp [step, hdef, receiverStep, hpc]
    obtain ⟨s', hrun, hpc', hmem⟩ := ih (s := readAgain conn c.bytes events s) hdef rfl
    refine ⟨s', ?_, hpc', hmem⟩
    simpa [readSteps, Runs.run, hchunk] using hrun

/-- So the receiver does to the memory what `HandleRead` does. -/
theorem run_readSteps_handleRead {setting : ServerSetting} {s : Server} {conn : ConnRef}
    {events : List ReadyEvent} {info : ConnectionInfo} (hdef : s.world.connQ.undefined = false)
    (hpc : s.receiver.pc = .reading conn events)
    (hconn : s.world.memory.conns[conn]? = some info) (call : ReadCall) :
    ∃ s', Runs.run (step setting) s (readSteps call) = some s' ∧
      s'.receiver.pc = .handling events ∧
      handleRead conn call.results s.world.memory = some (s'.world.memory, call.stop, []) := by
  obtain ⟨s', hrun, hpc', hmem⟩ := @run_readSteps setting s conn events hdef hpc call
  refine ⟨s', hrun, hpc', ?_⟩
  rw [handleRead_steps hconn call, hmem]

/-- The wildcard address, written long enough to pass the length test, and some
data in `general_ev`. -/
def exampleSetting (general_ev_data : ℤ) : ServerSetting where
  inetAddr _ := 0
  fd2ConnectionInfo := .ofFd
  config := { Config.ConfigManager.new with listenAddr := c_str "0000.0000.0000.0000", port := 0 }
  general_ev_data := general_ev_data

/-- A client is accepted as descriptor four, queued and registered, and the
receiver waits. -/
def oneClient : List ServerAction :=
  [.acceptor (.setAddr ⟨some 3, true, true⟩), .acceptor (.listen true),
    .acceptor (.accept ⟨some 4, true⟩), .acceptor .push,
    .receiver .pop, .receiver .pop, .receiver .register, .receiver .wait]

/-- The client sends something, and the receiver handles the event. -/
def oneRequest : List ServerAction :=
  oneClient ++ [.arrive 4 ⟨true, false, false⟩, .receiver (.wake [4]), .receiver .handle]

end SigIf.Receiver
