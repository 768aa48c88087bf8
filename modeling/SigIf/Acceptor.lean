import SigIf.Config
import SigIf.Handler
import SigIf.Inheritance
import SigIf.NewConnQ
import SigIf.TcpWrap

/-!
# The acceptor thread

The acceptor opens its listening socket and then accepts, wraps and queues one
client after another. It tests no result. `Fd2ConnectionInfo` is declared to
return a shared pointer but has no body in that form; what is taken of it is
that it builds a new connection for the descriptor it is given.
-/

namespace SigIf.Acceptor

open Constants Posix Config Handler NewConnQ TcpWrap Inheritance

/-- What `Fd2ConnectionInfo` builds for a descriptor. Apart from the descriptor
and the empty buffer it may depend on all that has happened. -/
structure Fd2ConnectionInfo where
  make : Kernel → ℤ → ConnectionInfo
  fd_make : ∀ os fd, (make os fd).fd = fd
  buffer_make : ∀ os fd, (make os fd).buffer = []

/-- One that looks at nothing but the descriptor. -/
def Fd2ConnectionInfo.ofFd : Fd2ConnectionInfo where
  make _ fd := ⟨.TCP, Vector.replicate 16 0, 40000, fd, .CONNECTED, []⟩
  fd_make _ _ := rfl
  buffer_make _ _ := rfl

/-- What the threads are given. -/
structure Setting where
  inetAddr : CString → UInt32
  fd2ConnectionInfo : Fd2ConnectionInfo
  config : ConfigManager

/-- What the threads share. -/
structure World where
  os : Kernel
  memory : Memory
  connQ : ConnQueue ConnRef

/-- The acceptor thread, with the results of its calls so far. It keeps only the
last one, from `Accept` until the connection is pushed. -/
structure AcceptorThread where
  acceptor : Wrapper
  setAddrResult : Option ℤ
  listenResult : Option ℤ
  client_fd : Option ℤ

/-- The thread at its start. -/
def AcceptorThread.start : AcceptorThread := ⟨.new, none, none, none⟩

/-- Build a connection for a descriptor. -/
def newConnection (setting : Setting) (fd : ℤ) (world : World) : ConnRef × World :=
  (world.memory.conns.length,
    { world with memory.conns :=
        world.memory.conns ++ [setting.fd2ConnectionInfo.make world.os fd] })

/-- `acceptor.SetAddr(GetListenIP(), GetListenPort())`. -/
def callSetAddr (setting : Setting) (calls : SetAddrCalls) (thread : AcceptorThread)
    (world : World) : AcceptorThread × World :=
  let answer := setAddr setting.inetAddr setting.config.getListenIP
    setting.config.getListenPort calls thread.acceptor world.os
  ({ thread with acceptor := answer.self, setAddrResult := some answer.value },
    { world with os := answer.os })

/-- `acceptor.Listen()`. -/
def callListen (ok : Bool) (thread : AcceptorThread) (world : World) : AcceptorThread × World :=
  let answer := listen maxListenQueue ok thread.acceptor world.os
  ({ thread with acceptor := answer.self, listenResult := some answer.value },
    { world with os := answer.os })

/-- `int client_fd = acceptor.Accept()`. -/
def callAccept (calls : AcceptCalls) (thread : AcceptorThread) (world : World) :
    AcceptorThread × World :=
  let answer := accept calls thread.acceptor world.os
  ({ thread with acceptor := answer.self, client_fd := some answer.value },
    { world with os := answer.os })

/-- `Push(Fd2ConnectionInfo(client_fd))`. -/
def pushClient (setting : Setting) (client_fd : ℤ) (thread : AcceptorThread) (world : World) :
    AcceptorThread × World :=
  let (conn, world) := newConnection setting client_fd world
  ({ thread with client_fd := none }, { world with connQ := (push conn world.connQ).2 })

/-- The steps of the thread, with what the system calls are to return. -/
inductive AcceptorStep where
  | setAddr (calls : SetAddrCalls)
  | listen (ok : Bool)
  | accept (calls : AcceptCalls)
  | push

/-- The thread takes its steps in the order of its text. -/
def acceptorStep (setting : Setting) (thread : AcceptorThread) (world : World) :
    AcceptorStep → Option (AcceptorThread × World)
  | .setAddr calls =>
    if thread.setAddrResult = none then some (callSetAddr setting calls thread world) else none
  | .listen ok =>
    if thread.setAddrResult ≠ none ∧ thread.listenResult = none then
      some (callListen ok thread world)
    else none
  | .accept calls =>
    if thread.listenResult ≠ none ∧ thread.client_fd = none then
      some (callAccept calls thread world)
    else none
  | .push => thread.client_fd.map fun client_fd => pushClient setting client_fd thread world

/-- On a fresh wrapper `SetAddr` closes nothing that was open. -/
theorem setAddr_extends {w : Wrapper} (h : w.status = .ORIGINAL) (inetAddr : CString → UInt32)
    (ip : CString) (port : ℤ) (calls : SetAddrCalls) (os : Kernel) :
    Extends os (setAddr inetAddr ip port calls w os).os := by
  have hsame : closeOld w os = os := by simp [closeOld, h, Status.closesOld]
  have hopened : Extends os (setAddrOpened calls w os) := by
    rw [setAddrOpened, hsame]
    exact (extends_socket os _).trans (extends_setFd _ _ _ _)
  have hfree : ¬ os.IsOpen (setAddrFd calls w os) := by
    rw [setAddrFd, hsame]
    exact not_isOpen_socket os _
  rcases setAddr_cases inetAddr ip port calls w os with ⟨_, he⟩ | ⟨_, _, he⟩ | ⟨_, _, _, he⟩
  · rw [he, hsame]
    exact .refl os
  · rw [he]
    exact hopened.close hfree
  · rw [he]
    exact hopened.trans (extends_bind _ _ _ _)

/-- `Listen` closes nothing. -/
theorem listen_extends (backlog : ℤ) (ok : Bool) (w : Wrapper) (os : Kernel) :
    Extends os (listen backlog ok w os).os := by
  rcases listen_cases backlog ok w os with ⟨_, he⟩ | ⟨_, _, he⟩ | ⟨_, _, he⟩
  · rw [he]
    exact .refl os
  all_goals
    rw [he]
    exact extends_listen _ _ _ _

/-- `Accept` closes at most the client that it has just been given. -/
theorem accept_extends (calls : AcceptCalls) (w : Wrapper) (os : Kernel) :
    Extends os (accept calls w os).os := by
  have hopened : Extends os (acceptOpened calls w os) :=
    (extends_accept os _ _).trans (extends_setFd _ _ _ _)
  rcases accept_cases calls w os with
    ⟨_, he⟩ | ⟨_, _, he⟩ | ⟨_, _, _, he⟩ | ⟨_, _, _, he⟩
  · rw [he]
    exact .refl os
  · rw [he]
    exact extends_accept _ _ _
  · rw [he]
    exact hopened.close (Ownership.not_isOpen_accept os _ _)
  · rw [he]
    exact hopened

/-- `Accept` leaves the wrapper alone. -/
theorem accept_self (calls : AcceptCalls) (w : Wrapper) (os : Kernel) :
    (accept calls w os).self = w := by
  rcases accept_cases calls w os with
    ⟨_, he⟩ | ⟨_, _, he⟩ | ⟨_, _, _, he⟩ | ⟨_, _, _, he⟩
  all_goals rw [he]

/-- Only a client that `accept` handed out is returned without an error. -/
theorem accept_value {calls : AcceptCalls} {w : Wrapper} {os : Kernel}
    (h : 0 ≤ (accept calls w os).value) :
    w.status = .LISTENING ∧ 0 ≤ acceptFd calls w os ∧ calls.fcntl = true ∧
      accept calls w os = ⟨acceptFd calls w os, w, acceptOpened calls w os⟩ := by
  rcases accept_cases calls w os with
    ⟨_, he⟩ | ⟨_, _, he⟩ | ⟨_, _, _, he⟩ | hdelivered
  · simp [he] at h
  · simp [he, ERROR] at h
  · simp [he, ERROR] at h
  · exact hdelivered

/-- And such a client is always returned. -/
theorem accept_delivers {calls : AcceptCalls} {w : Wrapper} {os : Kernel}
    (hs : w.status = .LISTENING) (hfd : 0 ≤ acceptFd calls w os) (hok : calls.fcntl = true) :
    accept calls w os = ⟨acceptFd calls w os, w, acceptOpened calls w os⟩ := by
  rcases accept_cases calls w os with
    ⟨hnot, _⟩ | ⟨_, hneg, _⟩ | ⟨_, _, hfalse, _⟩ | ⟨_, _, _, he⟩
  · exact absurd hs hnot
  · omega
  · simp [hok] at hfalse
  · exact he

/-- What it returns is then open. -/
theorem accept_isOpen {calls : AcceptCalls} {w : Wrapper} {os : Kernel}
    (h : 0 ≤ (accept calls w os).value) :
    (accept calls w os).os.IsOpen (accept calls w os).value := by
  obtain ⟨_, hfd, _, he⟩ := accept_value h
  rw [he, acceptOpened, Kernel.fcntl, Kernel.onFile_isOpen, acceptFd, Kernel.isOpen_accept_self]
  exact hfd

/-- The client blocks: `F_SETFD` does not set what the comment of the source
says it sets. -/
theorem accept_blocks {calls : AcceptCalls} {w : Wrapper} {os : Kernel}
    (h : 0 ≤ (accept calls w os).value) :
    ¬ Nonblocking (accept calls w os).os (accept calls w os).value := by
  rw [(accept_extends calls w os).nonblocking_iff, (accept_value h).2.2.2]
  rintro ⟨file, hf, _⟩
  exact Ownership.not_isOpen_accept os w.fd calls.accept
    (Option.isSome_iff_exists.mpr ⟨file, hf⟩)

end SigIf.Acceptor
