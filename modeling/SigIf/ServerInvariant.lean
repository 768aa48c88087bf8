import SigIf.Receiver

/-!
# What holds in every state of the server

Three groups of facts: which descriptors are open and block, where a pushed
connection can be, and which data the events carry. The server keeps each group
from any state to the next, and all of them hold when it starts.
-/

namespace SigIf.ServerInvariant

open Posix Handler NewConnQ Acceptor Receiver Epoll Inheritance

/-- The descriptors that were open at the start are as they were, and the ones
opened since then block. -/
structure Kept (table : ℕ → Option OpenFile) (s : Server) : Prop where
  inherited : Extends ⟨table, []⟩ s.world.os
  fresh : s.acceptor.setAddrResult = none → s.acceptor.acceptor.status = .ORIGINAL

/-- No step changes what is open at the time. -/
theorem moves_extends {setting : ServerSetting} {table : ℕ → Option OpenFile} {s next : Server}
    {a : ServerAction} (hkept : Kept table s) (h : Moves setting s a next) :
    Extends s.world.os next.world.os := by
  cases h with
  | setAddr calls hs => exact setAddr_extends (hkept.fresh hs) _ _ _ calls s.world.os
  | listen ok => exact listen_extends _ ok _ s.world.os
  | accept calls => exact accept_extends calls _ s.world.os
  | handle event events =>
    rw [(handleEvent_frame setting event events s).2.2.2]
    exact .refl _
  | _ => exact .refl _

theorem step_kept {setting : ServerSetting} {table : ℕ → Option OpenFile} (s : Server)
    (a : ServerAction) (next : Server) (h : Kept table s) (hnext : step setting s a = some next) :
    Kept table next := by
  have hmoves := step_moves hnext
  refine ⟨h.inherited.trans (moves_extends h hmoves), ?_⟩
  cases hmoves with
  | setAddr calls hs =>
    intro hnone
    simp [callSetAddr] at hnone
  | listen ok hs =>
    intro hnone
    exact absurd hnone hs.1
  | accept calls hs =>
    intro hnone
    simpa [callAccept, accept_self] using h.fresh hnone
  | handle event events =>
    rw [(handleEvent_frame setting event events s).1]
    exact h.fresh
  | _ => exact h.fresh

/-- One memory has the objects of another, with the same descriptors. -/
def Grows (mem next : Memory) : Prop :=
  mem.conns.length ≤ next.conns.length ∧
    ∀ conn < mem.conns.length, fdOf next conn = fdOf mem conn

theorem Grows.refl (mem : Memory) : Grows mem mem := ⟨Nat.le_refl _, fun _ _ => rfl⟩

/-- A new object does not disturb the others. -/
theorem grows_newConnection (setting : Setting) (fd : ℤ) (world : World) :
    Grows world.memory (newConnection setting fd world).2.memory := by
  refine ⟨by simp [newConnection], ?_⟩
  intro conn hlt
  simp [newConnection, fdOf, List.getElem?_append_left hlt]

/-- It has the descriptor that it was built for. -/
theorem fdOf_newConnection (setting : Setting) (fd : ℤ) (world : World) :
    fdOf (newConnection setting fd world).2.memory (newConnection setting fd world).1 = fd := by
  simp [newConnection, fdOf, setting.fd2ConnectionInfo.fd_make]

/-- A chunk changes a buffer and no descriptor. -/
theorem fdOf_appendChunk (mem : Memory) (conn other : ConnRef) (bytes : Bytes) :
    fdOf (appendChunk conn bytes mem) other = fdOf mem other := by
  simp only [fdOf, appendChunk, List.getElem?_modify]
  cases mem.conns[other]? with
  | none => rfl
  | some info =>
    by_cases he : conn = other <;> simp [he]

theorem grows_appendChunk (mem : Memory) (conn : ConnRef) (bytes : Bytes) :
    Grows mem (appendChunk conn bytes mem) :=
  ⟨by simp [appendChunk], fun other _ => fdOf_appendChunk mem conn other bytes⟩

/-- Objects are never removed, and keep their descriptors. -/
theorem moves_grows {setting : ServerSetting} {s next : Server} {a : ServerAction}
    (h : Moves setting s a next) : Grows s.world.memory next.world.memory := by
  cases h with
  | push client_fd => exact grows_newConnection setting.toSetting client_fd s.world
  | handle event events =>
    rw [(handleEvent_frame setting event events s).2.2.2]
    exact grows_newConnection setting.toSetting event.data s.world
  | readChunk conn events c => exact grows_appendChunk s.world.memory conn c.bytes
  | _ => exact .refl _

/-- Every pushed connection is still queued, just popped, or registered with
epoll; error codes pushed as connections are left out. -/
structure Queued (s : Server) : Prop where
  accounted : Accounted s.world.connQ
  client : ∀ fd, s.acceptor.client_fd = some fd → 0 ≤ fd → s.world.os.IsOpen fd
  allocated : ∀ conn ∈ s.world.connQ.pushed, conn < s.world.memory.conns.length
  isOpen : ∀ conn ∈ s.world.connQ.pushed, 0 ≤ fdOf s.world.memory conn →
    s.world.os.IsOpen (fdOf s.world.memory conn)
  registered : ∀ conn ∈ s.world.connQ.popped, 0 ≤ fdOf s.world.memory conn →
    s.receiver.pc = .popped conn ∨ s.receiver.epoll.Registered (fdOf s.world.memory conn)

/-- What was popped had been pushed. -/
theorem Queued.pushed_of_popped {s : Server} (h : Queued s) {conn : ConnRef}
    (hc : conn ∈ s.world.connQ.popped) : conn ∈ s.world.connQ.pushed := by
  rw [← h.accounted]
  exact List.mem_append_left _ hc

/-- Away from the place after `Pop`, everything popped is registered. -/
theorem Queued.registered_of_pc {s : Server} (h : Queued s)
    (hpc : ∀ conn, s.receiver.pc ≠ .popped conn) {conn : ConnRef}
    (hc : conn ∈ s.world.connQ.popped) (hfd : 0 ≤ fdOf s.world.memory conn) :
    s.receiver.epoll.Registered (fdOf s.world.memory conn) :=
  (h.registered conn hc hfd).resolve_left (hpc conn)

/-- A step that leaves the queue alone needs to care only for the client held
and for the registrations. -/
theorem Queued.frame {s next : Server} (h : Queued s)
    (hq : next.world.connQ = s.world.connQ) (hos : Extends s.world.os next.world.os)
    (hmem : Grows s.world.memory next.world.memory)
    (hclient : ∀ fd, next.acceptor.client_fd = some fd → 0 ≤ fd → next.world.os.IsOpen fd)
    (hreg : ∀ conn ∈ s.world.connQ.popped, 0 ≤ fdOf s.world.memory conn →
      next.receiver.pc = .popped conn ∨
        next.receiver.epoll.Registered (fdOf s.world.memory conn)) : Queued next := by
  have hsame : ∀ conn ∈ s.world.connQ.pushed,
      fdOf next.world.memory conn = fdOf s.world.memory conn :=
    fun conn hc => hmem.2 conn (h.allocated conn hc)
  constructor
  · rw [hq]
    exact h.accounted
  · exact hclient
  · intro conn hc
    rw [hq] at hc
    exact Nat.lt_of_lt_of_le (h.allocated conn hc) hmem.1
  · intro conn hc hfd
    rw [hq] at hc
    rw [hsame conn hc] at hfd ⊢
    exact hos.isOpen (h.isOpen conn hc hfd)
  · intro conn hc hfd
    rw [hq] at hc
    rw [hsame conn (h.pushed_of_popped hc)] at hfd ⊢
    exact hreg conn hc hfd

/-- The new connection is open if its descriptor is no error code. -/
theorem pushClient_queued {setting : Setting} {s : Server} (h : Queued s) {client_fd : ℤ}
    (hfd : s.acceptor.client_fd = some client_fd) :
    Queued { s with
      acceptor := (pushClient setting client_fd s.acceptor s.world).1
      world := (pushClient setting client_fd s.acceptor s.world).2 } := by
  have hgrows := grows_newConnection setting client_fd s.world
  have hnew : fdOf (newConnection setting client_fd s.world).2.memory
      s.world.memory.conns.length = client_fd := fdOf_newConnection setting client_fd s.world
  have hsame : ∀ conn ∈ s.world.connQ.pushed,
      fdOf (newConnection setting client_fd s.world).2.memory conn = fdOf s.world.memory conn :=
    fun conn hc => hgrows.2 conn (h.allocated conn hc)
  constructor
  · exact push_accounted h.accounted _
  · intro fd hnone
    simp [pushClient] at hnone
  · intro conn hc
    rcases List.mem_append.mp hc with hc | hc
    · exact Nat.lt_of_lt_of_le (h.allocated conn hc) hgrows.1
    · rw [List.mem_singleton.mp hc]
      simp [pushClient, newConnection]
  · intro conn hc hn
    rcases List.mem_append.mp hc with hc | hc
    · have hs := hsame conn hc
      simp only [pushClient] at hn ⊢
      rw [hs] at hn ⊢
      exact h.isOpen conn hc hn
    · rw [List.mem_singleton.mp hc] at hn ⊢
      simp only [pushClient] at hn ⊢
      rw [hnew] at hn ⊢
      exact h.client client_fd hfd hn
  · intro conn hc hn
    have hs := hsame conn (h.pushed_of_popped hc)
    simp only [pushClient] at hn ⊢
    rw [hs] at hn ⊢
    exact h.registered conn hc hn

/-- A pop hands its connection to the place where it is registered. -/
theorem popNext_queued {s : Server} (h : Queued s) (hpc : s.receiver.pc = .popping) :
    Queued (popNext s) := by
  have hreg : ∀ conn ∈ s.world.connQ.popped, 0 ≤ fdOf s.world.memory conn →
      s.receiver.epoll.Registered (fdOf s.world.memory conn) :=
    fun conn hc hfd => h.registered_of_pc (by simp [hpc]) hc hfd
  have hpushed := popStep_pushed s.world.connQ
  refine ⟨popStep_accounted h.accounted, h.client, ?_, ?_, ?_⟩
  · intro conn hc
    exact h.allocated conn (hpushed ▸ hc)
  · intro conn hc
    exact h.isOpen conn (hpushed ▸ hc)
  · intro conn hc hfd
    rcases mem_popStep_popped hc with hold | ⟨ht, rest, hq⟩
    · exact Or.inr (hreg conn hold hfd)
    · exact Or.inl (by simp [popNext, ht, hq])

/-- The place after `Pop` registers the connection that it was given. -/
theorem register_queued {setting : ServerSetting} {s : Server} (h : Queued s) {conn : ConnRef}
    (hpc : s.receiver.pc = .popped conn) : Queued (register setting conn s) := by
  refine h.frame rfl (.refl _) (.refl _) h.client ?_
  intro other hc hfd
  right
  rcases h.registered other hc hfd with he | hreg
  · have hsame : conn = other := by
      rw [hpc] at he
      exact ReceiverPc.popped.inj he
    subst hsame
    exact Instance.registered_add (h.isOpen conn (h.pushed_of_popped hc) hfd) _
  · exact hreg.add _ _ _

theorem step_queued {setting : ServerSetting} {table : ℕ → Option OpenFile} (s : Server)
    (a : ServerAction) (next : Server) (hkept : Kept table s) (h : Queued s)
    (hnext : step setting s a = some next) : Queued next := by
  have hmoves := step_moves hnext
  have hos := moves_extends hkept hmoves
  have hmem := moves_grows hmoves
  have hclient : next.acceptor.client_fd = s.acceptor.client_fd → ∀ fd,
      next.acceptor.client_fd = some fd → 0 ≤ fd → next.world.os.IsOpen fd := by
    intro hsame fd hfd hn
    exact hos.isOpen (h.client fd (hsame ▸ hfd) hn)
  have hreg (hpc : ∀ conn, s.receiver.pc ≠ .popped conn)
      (hinterest : next.receiver.epoll.interest = s.receiver.epoll.interest) :
      ∀ conn ∈ s.world.connQ.popped, 0 ≤ fdOf s.world.memory conn →
        next.receiver.pc = .popped conn ∨
          next.receiver.epoll.Registered (fdOf s.world.memory conn) := by
    intro conn hc hfd
    right
    rw [Instance.Registered, hinterest]
    exact h.registered_of_pc hpc hc hfd
  cases hmoves with
  | setAddr calls hs => exact h.frame rfl hos hmem (hclient rfl) h.registered
  | listen ok hs => exact h.frame rfl hos hmem (hclient rfl) h.registered
  | accept calls hs =>
    refine h.frame rfl hos hmem ?_ h.registered
    intro fd hfd hn
    have he := Option.some.inj hfd
    subst he
    exact accept_isOpen hn
  | push client_fd hfd => exact pushClient_queued h hfd
  | pop hpc => exact popNext_queued h hpc
  | register conn hpc => exact register_queued h hpc
  | wait hpc => exact h.frame rfl hos hmem (hclient rfl) (hreg (by simp [hpc]) rfl)
  | wake fds events epoll hpc hreport =>
    exact h.frame rfl hos hmem (hclient rfl)
      (hreg (by simp [hpc]) (Instance.report_interest hreport))
  | interrupt hpc => exact h.frame rfl hos hmem (hclient rfl) (hreg (by simp [hpc]) rfl)
  | endBatch hpc => exact h.frame rfl hos hmem (hclient rfl) (hreg (by simp [hpc]) rfl)
  | handle event events hpc =>
    obtain ⟨hacceptor, hepoll, _, hworld⟩ := handleEvent_frame setting event events s
    exact h.frame (by rw [hworld]; rfl) hos hmem (hclient (by rw [hacceptor]))
      (hreg (by simp [hpc]) (by rw [hepoll]))
  | readChunk conn events c hpc =>
    exact h.frame rfl hos hmem (hclient rfl) (hreg (by simp [hpc]) rfl)
  | readStop conn events stop hpc =>
    refine h.frame rfl hos hmem (hclient rfl) (hreg (by simp [hpc]) ?_)
    simp only [finishRead]
    split <;> rfl
  | arrive fd events => exact h.frame rfl hos hmem (hclient rfl) h.registered

/-- All events carry the one data value, and so every read is on it. -/
structure Marked (setting : ServerSetting) (s : Server) : Prop where
  interest : ∀ i ∈ s.receiver.epoll.interest, i.data = setting.general_ev_data
  events : ∀ e ∈ s.receiver.pc.events, e.data = setting.general_ev_data
  reading : ∀ conn events, s.receiver.pc = .reading conn events →
    conn < s.world.memory.conns.length ∧ fdOf s.world.memory conn = setting.general_ev_data

/-- A step that registers nothing new and is in no read afterwards. -/
theorem Marked.frame {setting : ServerSetting} {s next : Server} (h : Marked setting s)
    (hinterest : next.receiver.epoll.interest = s.receiver.epoll.interest)
    (hevents : ∀ e ∈ next.receiver.pc.events, e ∈ s.receiver.pc.events)
    (hreading : ∀ conn events, next.receiver.pc ≠ .reading conn events) : Marked setting next :=
  ⟨fun i hi => h.interest i (hinterest ▸ hi), fun e he => h.events e (hevents e he),
    fun conn events hpc => absurd hpc (hreading conn events)⟩

/-- After `Pop` there is no event and no read. -/
theorem popNext_pc (s : Server) :
    (popNext s).receiver.pc = .popping ∨ ∃ conn, (popNext s).receiver.pc = .popped conn := by
  simp only [popNext]
  split
  · exact Or.inr ⟨_, rfl⟩
  · exact Or.inl rfl

/-- The object that an event leads to a read of is built for the data it carries. -/
theorem handleEvent_marked {setting : ServerSetting} {s : Server} (h : Marked setting s)
    {event : ReadyEvent} {events : List ReadyEvent}
    (hpc : s.receiver.pc = .handling (event :: events)) :
    Marked setting (handleEvent setting event events s) := by
  obtain ⟨_, hepoll, hevents, hworld⟩ := handleEvent_frame setting event events s
  have hdata : ∀ e ∈ event :: events, e.data = setting.general_ev_data := by
    simpa [hpc, ReceiverPc.events] using h.events
  refine ⟨by rw [hepoll]; exact h.interest, ?_, ?_⟩
  · intro e he
    rw [hevents] at he
    exact hdata e (List.mem_cons_of_mem _ he)
  · intro conn events' hread
    have hconn : conn = s.world.memory.conns.length := by
      rcases handleEvent_cases setting event events s with ⟨_, he⟩ | ⟨_, out, he⟩
      · rw [he] at hread
        exact (ReceiverPc.reading.inj hread).1.symm
      · rw [he] at hread
        cases hread
    rw [hconn, hworld]
    refine ⟨by simp [newConnection], ?_⟩
    exact (fdOf_newConnection setting.toSetting event.data s.world).trans
      (hdata event List.mem_cons_self)

theorem step_marked {setting : ServerSetting} (s : Server) (a : ServerAction) (next : Server)
    (h : Marked setting s) (hnext : step setting s a = some next) : Marked setting next := by
  have hmoves := step_moves hnext
  have hmem := moves_grows hmoves
  -- an object that is being read keeps its descriptor while others are added
  have hkeep : ∀ conn events, s.receiver.pc = .reading conn events →
      conn < next.world.memory.conns.length ∧
        fdOf next.world.memory conn = setting.general_ev_data := by
    intro conn events hpc
    obtain ⟨hlt, he⟩ := h.reading conn events hpc
    exact ⟨Nat.lt_of_lt_of_le hlt hmem.1, (hmem.2 conn hlt).trans he⟩
  cases hmoves with
  | setAddr calls hs => exact ⟨h.interest, h.events, hkeep⟩
  | listen ok hs => exact ⟨h.interest, h.events, hkeep⟩
  | accept calls hs => exact ⟨h.interest, h.events, hkeep⟩
  | push client_fd hfd => exact ⟨h.interest, h.events, hkeep⟩
  | pop hpc =>
    rcases popNext_pc s with he | ⟨conn, he⟩
    all_goals
      refine h.frame rfl ?_ ?_
      all_goals simp [he, ReceiverPc.events]
  | register conn hpc =>
    refine ⟨?_, by simp [Receiver.register, ReceiverPc.events], by simp [Receiver.register]⟩
    intro i hi
    rcases Instance.mem_add hi with hold | rfl
    · exact h.interest i hold
    · rfl
  | wait hpc => exact h.frame rfl (by simp [ReceiverPc.events]) (by simp)
  | wake fds events epoll hpc hreport =>
    refine ⟨?_, ?_, by simp⟩
    · intro i hi
      exact h.interest i (Instance.report_interest hreport ▸ hi)
    · intro e he
      exact h.interest _ (Instance.report_data hreport he)
  | interrupt hpc => exact h.frame rfl (by simp [ReceiverPc.events]) (by simp)
  | endBatch hpc => exact h.frame rfl (by simp [ReceiverPc.events]) (by simp)
  | handle event events hpc => exact handleEvent_marked h hpc
  | readChunk conn events c hpc =>
    refine ⟨h.interest, ?_, ?_⟩
    · intro e he
      exact h.events e (by rw [hpc]; exact he)
    · intro conn' events' hread
      obtain ⟨rfl, rfl⟩ := ReceiverPc.reading.inj hread
      exact hkeep _ _ hpc
  | readStop conn events stop hpc =>
    refine h.frame ?_ ?_ (by simp [finishRead])
    · simp only [finishRead]
      split <;> rfl
    · intro e he
      rw [hpc]
      exact he
  | arrive fd events => exact ⟨h.interest, h.events, hkeep⟩

/-- All of this holds when the threads start. -/
theorem start_kept (table : ℕ → Option OpenFile) : Kept table (start table) :=
  ⟨.refl _, fun _ => rfl⟩

theorem start_queued (table : ℕ → Option OpenFile) : Queued (start table) := by
  constructor <;> simp [start, ConnQueue.empty, Accounted, AcceptorThread.start]

theorem start_marked (setting : ServerSetting) (table : ℕ → Option OpenFile) :
    Marked setting (start table) := by
  constructor <;> simp [start, Instance.new, ReceiverPc.events]

end SigIf.ServerInvariant
