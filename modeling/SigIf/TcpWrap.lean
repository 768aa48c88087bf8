import SigIf.Constants
import SigIf.Posix

/-!
# The socket wrapper

`Tcp_Wrap` with its two validation helpers, operation by operation. Each
operation takes the object and the descriptor table and answers with a value
and both of them afterwards. What the system calls of an operation are to
return is an argument of it; the address that `inet_addr` gives is a parameter.
-/

namespace SigIf.TcpWrap

open Constants Posix

/-- The statuses of a wrapper. -/
inductive Status where
  | ORIGINAL
  | OCCUPYFD
  | INITADDR
  | LISTENING
  | CONNECTED
  | DISCONNECTED
  deriving DecidableEq

/-- The size of the array behind `ipv4_addr_`. -/
def addrCapacity : ℕ := 20

/-- The members of `Tcp_Wrap`; those that the constructor leaves without a
value have none here. -/
structure Wrapper where
  fd : ℤ
  op_fd : Option ℤ
  ipv4_addr : Option CString
  port : ℤ
  status : Status
  /-- No copy has run over the end of `ipv4_addr_`; after one that has, the
  members are not known to hold what they are shown to hold. -/
  intact : Bool

/-- `Tcp_Wrap::Tcp_Wrap`. -/
def Wrapper.new : Wrapper := ⟨-1, none, none, -1, .ORIGINAL, true⟩

/-- The value of an operation, and the object and the table after it. -/
structure Answer where
  value : ℤ
  self : Wrapper
  os : Kernel

/-- `IsValidIpv4Length`. -/
def isValidIpv4Length (ip : CString) : Bool := strlen ip ≤ 16

/-- `IsValidPortNumber`. -/
def isValidPortNumber (port : ℤ) : Bool := port > 0

/-- What the system calls of `SetAddr` are to return. -/
structure SetAddrCalls where
  /-- The descriptor that `socket` hands out, or none on failure. -/
  socket : Option ℕ
  fcntl : Bool
  bind : Bool

/-- What the system calls of `Accept` are to return. -/
structure AcceptCalls where
  /-- The descriptor that `accept` hands out, or none on failure. -/
  accept : Option ℕ
  fcntl : Bool

/-- What the system calls of `Connect` are to return. -/
structure ConnectCalls where
  /-- The descriptor that `socket` hands out, or none on failure. -/
  socket : Option ℕ
  connect : Bool
  fcntl : Bool

/-- The cleared `sockaddr_in` with its port and address filled in. -/
def addrStruct (inetAddr : CString → UInt32) (ip : CString) (port : ℤ) : SockAddr :=
  ⟨htons port, inetAddr ip⟩

/-- The statuses in which `SetAddr` closes the old descriptor first. -/
def Status.closesOld (status : Status) : Bool :=
  status = .DISCONNECTED ∨ status = .INITADDR ∨ status = .OCCUPYFD

/-- `Tcp_Wrap::SetAddr`. -/
def setAddr (inetAddr : CString → UInt32) (ip : CString) (port : ℤ) (calls : SetAddrCalls)
    (w : Wrapper) (os : Kernel) : Answer :=
  let os := if w.status.closesOld then os.close w.fd else os
  if isValidIpv4Length ip then ⟨ERROR, w, os⟩
  else if isValidPortNumber port then ⟨ERROR, w, os⟩
  else
    let (fd, os) := os.socket calls.socket
    let w := { w with fd := fd }
    -- the descriptor is used before it is tested for failure
    let (res, os) := os.fcntl fd .F_SETFD O_NONBLOCK calls.fcntl
    if res < 0 then ⟨ERROR, w, os.close fd⟩
    else if fd < 0 then ⟨ERROR, w, os⟩
    else
      let w := { w with
        status := .OCCUPYFD
        ipv4_addr := some ip
        intact := w.intact && decide (strlen ip < addrCapacity)
        port := port }
      let (res, os) := os.bind fd (addrStruct inetAddr ip port) calls.bind
      if res < 0 then ⟨ERROR, w, os⟩
      else ⟨1, { w with status := .INITADDR }, os⟩

/-- `Tcp_Wrap::Listen`. -/
def listen (maxListenQueue : ℤ) (ok : Bool) (w : Wrapper) (os : Kernel) : Answer :=
  if w.status ≠ .INITADDR then ⟨ERROR, w, os⟩
  else
    let (res, os) := os.listen w.fd maxListenQueue ok
    if res < 0 then ⟨ERROR, w, os⟩
    else ⟨1, { w with status := .LISTENING }, os⟩

/-- `Tcp_Wrap::Accept`. -/
def accept (calls : AcceptCalls) (w : Wrapper) (os : Kernel) : Answer :=
  if w.status ≠ .LISTENING then ⟨-1, w, os⟩
  else
    let (clientFd, os) := os.accept w.fd calls.accept
    if clientFd < 0 then ⟨ERROR, w, os⟩
    else
      let (res, os) := os.fcntl clientFd .F_SETFD O_NONBLOCK calls.fcntl
      if res < 0 then ⟨ERROR, w, os.close clientFd⟩
      else ⟨clientFd, w, os⟩

/-- `Tcp_Wrap::Connect`. The member `op_fd_` receives what `connect` returns. -/
def connect (inetAddr : CString → UInt32) (ip : CString) (port : ℤ) (calls : ConnectCalls)
    (w : Wrapper) (os : Kernel) : Answer :=
  if w.status ≠ .ORIGINAL then ⟨ERROR, w, os⟩
  else if isValidIpv4Length ip then ⟨ERROR, w, os⟩
  else if isValidPortNumber port then ⟨ERROR, w, os⟩
  else
    let (fd, os) := os.socket calls.socket
    let w := { w with fd := fd }
    if fd < 0 then ⟨ERROR, w, os⟩
    else
      let w := { w with status := .OCCUPYFD }
      let (opFd, os) := os.connect fd (addrStruct inetAddr ip port) calls.connect
      let w := { w with op_fd := some opFd }
      if opFd < 0 then ⟨ERROR, w, os⟩
      else
        let (res, os) := os.fcntl opFd .F_SETFD O_NONBLOCK calls.fcntl
        if res < 0 then ⟨ERROR, w, os.close opFd⟩
        else ⟨opFd, w, os⟩

/-- `Tcp_Wrap::~Tcp_Wrap`, which frees the array behind `ipv4_addr_` and makes
no system call. -/
def destroy (_ : Wrapper) (os : Kernel) : Kernel := os

/-- The table after the first statement of `SetAddr`. -/
def closeOld (w : Wrapper) (os : Kernel) : Kernel :=
  if w.status.closesOld then os.close w.fd else os

/-- Both validations let the arguments through. They reject what they name
valid, so these are the long addresses with a port that is not positive. -/
def Passes (ip : CString) (port : ℤ) : Prop :=
  isValidIpv4Length ip = false ∧ isValidPortNumber port = false

instance (ip : CString) (port : ℤ) : Decidable (Passes ip port) :=
  inferInstanceAs (Decidable (_ ∧ _))

theorem rejects_of_not_passes {ip : CString} {port : ℤ} (h : ¬ Passes ip port) :
    isValidIpv4Length ip = true ∨ isValidPortNumber port = true := by
  rw [Passes, not_and_or] at h
  simpa using h

/-- What `socket` returns inside `SetAddr`. -/
def setAddrFd (calls : SetAddrCalls) (w : Wrapper) (os : Kernel) : ℤ :=
  ((closeOld w os).socket calls.socket).1

/-- The table when `SetAddr` tests the result of its `fcntl`. -/
def setAddrOpened (calls : SetAddrCalls) (w : Wrapper) (os : Kernel) : Kernel :=
  (((closeOld w os).socket calls.socket).2.fcntl (setAddrFd calls w os) .F_SETFD O_NONBLOCK
    calls.fcntl).2

/-- A socket that was handed out is open, and `fcntl` leaves it so. -/
theorem setAddrOpened_isOpen (calls : SetAddrCalls) (w : Wrapper) (os : Kernel) :
    (setAddrOpened calls w os).IsOpen (setAddrFd calls w os) ↔ 0 ≤ setAddrFd calls w os := by
  rw [setAddrOpened, Kernel.fcntl, Kernel.onFile_isOpen, setAddrFd, Kernel.isOpen_socket_self]

/-- The `fcntl` of `SetAddr` fails on a socket that was not handed out. -/
theorem setAddr_fcntl_neg_iff (calls : SetAddrCalls) (w : Wrapper) (os : Kernel) :
    (((closeOld w os).socket calls.socket).2.fcntl (setAddrFd calls w os) .F_SETFD O_NONBLOCK
      calls.fcntl).1 < 0 ↔ setAddrFd calls w os < 0 ∨ calls.fcntl = false := by
  rw [Kernel.fcntl, Kernel.onFile_neg_iff, setAddrFd, Kernel.isOpen_socket_self, Int.not_le]

/-- Its `bind` fails only if it is to fail. -/
theorem setAddr_bind_neg_iff {calls : SetAddrCalls} {w : Wrapper} {os : Kernel}
    (h : 0 ≤ setAddrFd calls w os) (addr : SockAddr) :
    ((setAddrOpened calls w os).bind (setAddrFd calls w os) addr calls.bind).1 < 0 ↔
      calls.bind = false := by
  rw [Kernel.bind, Kernel.onFile_neg_iff]
  simp [(setAddrOpened_isOpen calls w os).mpr h]

/-- All that `SetAddr` can do: reject its arguments, give up after `socket`
and `fcntl`, or go on to `bind`. -/
theorem setAddr_cases (inetAddr : CString → UInt32) (ip : CString) (port : ℤ)
    (calls : SetAddrCalls) (w : Wrapper) (os : Kernel) :
    (¬ Passes ip port ∧
      setAddr inetAddr ip port calls w os = ⟨ERROR, w, closeOld w os⟩) ∨
    (Passes ip port ∧ (setAddrFd calls w os < 0 ∨ calls.fcntl = false) ∧
      setAddr inetAddr ip port calls w os = ⟨ERROR, { w with fd := setAddrFd calls w os },
        (setAddrOpened calls w os).close (setAddrFd calls w os)⟩) ∨
    (Passes ip port ∧ 0 ≤ setAddrFd calls w os ∧ calls.fcntl = true ∧
      setAddr inetAddr ip port calls w os = ⟨if calls.bind then 1 else ERROR,
        { w with
          fd := setAddrFd calls w os
          status := if calls.bind then .INITADDR else .OCCUPYFD
          ipv4_addr := some ip
          intact := w.intact && decide (strlen ip < addrCapacity)
          port := port },
        ((setAddrOpened calls w os).bind (setAddrFd calls w os) (addrStruct inetAddr ip port)
          calls.bind).2⟩) := by
  by_cases hpass : Passes ip port
  · right
    have hres := setAddr_fcntl_neg_iff calls w os
    by_cases hfail : setAddrFd calls w os < 0 ∨ calls.fcntl = false
    · left
      refine ⟨hpass, hfail, ?_⟩
      simp only [setAddr, hpass.1, hpass.2, Bool.false_eq_true, if_false]
      exact if_pos (hres.mpr hfail)
    · right
      have hneg := mt hres.mp hfail
      obtain ⟨hlt, hok⟩ := not_or.mp hfail
      have hfd : 0 ≤ setAddrFd calls w os := Int.not_lt.mp hlt
      have hbind := setAddr_bind_neg_iff hfd (addrStruct inetAddr ip port)
      refine ⟨hpass, hfd, by simpa using hok, ?_⟩
      simp only [setAddr, hpass.1, hpass.2, Bool.false_eq_true, if_false]
      refine (if_neg hneg).trans ((if_neg hlt).trans ?_)
      cases hb : calls.bind with
      | true =>
        rw [hb] at hbind
        exact if_neg (mt hbind.mp (by simp))
      | false =>
        rw [hb] at hbind
        exact if_pos (hbind.mpr rfl)
  · left
    refine ⟨hpass, ?_⟩
    rcases rejects_of_not_passes hpass with hip | hport
    · simp only [setAddr, hip, if_true]
      rfl
    · simp only [setAddr, hport, if_true, ite_self]
      rfl

/-- All that `Listen` can do. -/
theorem listen_cases (maxListenQueue : ℤ) (ok : Bool) (w : Wrapper) (os : Kernel) :
    (w.status ≠ .INITADDR ∧ listen maxListenQueue ok w os = ⟨ERROR, w, os⟩) ∨
    (w.status = .INITADDR ∧ (os.listen w.fd maxListenQueue ok).1 < 0 ∧
      listen maxListenQueue ok w os = ⟨ERROR, w, (os.listen w.fd maxListenQueue ok).2⟩) ∨
    (w.status = .INITADDR ∧ ¬ (os.listen w.fd maxListenQueue ok).1 < 0 ∧
      listen maxListenQueue ok w os =
        ⟨1, { w with status := .LISTENING }, (os.listen w.fd maxListenQueue ok).2⟩) := by
  by_cases hs : w.status = .INITADDR
  · right
    by_cases hres : (os.listen w.fd maxListenQueue ok).1 < 0
    · exact Or.inl ⟨hs, hres, by simp [listen, hs, hres]⟩
    · exact Or.inr ⟨hs, hres, by simp [listen, hs, hres]⟩
  · exact Or.inl ⟨hs, by simp [listen, hs]⟩

/-- What `accept` returns inside `Accept`. -/
def acceptFd (calls : AcceptCalls) (w : Wrapper) (os : Kernel) : ℤ :=
  (os.accept w.fd calls.accept).1

/-- The table when `Accept` tests the result of its `fcntl`. -/
def acceptOpened (calls : AcceptCalls) (w : Wrapper) (os : Kernel) : Kernel :=
  ((os.accept w.fd calls.accept).2.fcntl (acceptFd calls w os) .F_SETFD O_NONBLOCK calls.fcntl).2

/-- The `fcntl` on a client that was handed out fails only if it is to fail. -/
theorem accept_fcntl_neg_iff {calls : AcceptCalls} {w : Wrapper} {os : Kernel}
    (h : 0 ≤ acceptFd calls w os) :
    ((os.accept w.fd calls.accept).2.fcntl (acceptFd calls w os) .F_SETFD O_NONBLOCK
      calls.fcntl).1 < 0 ↔ calls.fcntl = false := by
  have hopen := (Kernel.isOpen_accept_self os w.fd calls.accept).mpr h
  rw [Kernel.fcntl, Kernel.onFile_neg_iff]
  exact ⟨fun hneg => hneg.resolve_left (not_not_intro hopen), Or.inr⟩

/-- All that `Accept` can do: refuse, fail in `accept`, close the client again
after its `fcntl`, or deliver it. -/
theorem accept_cases (calls : AcceptCalls) (w : Wrapper) (os : Kernel) :
    (w.status ≠ .LISTENING ∧ accept calls w os = ⟨-1, w, os⟩) ∨
    (w.status = .LISTENING ∧ acceptFd calls w os < 0 ∧
      accept calls w os = ⟨ERROR, w, (os.accept w.fd calls.accept).2⟩) ∨
    (w.status = .LISTENING ∧ 0 ≤ acceptFd calls w os ∧ calls.fcntl = false ∧
      accept calls w os =
        ⟨ERROR, w, (acceptOpened calls w os).close (acceptFd calls w os)⟩) ∨
    (w.status = .LISTENING ∧ 0 ≤ acceptFd calls w os ∧ calls.fcntl = true ∧
      accept calls w os = ⟨acceptFd calls w os, w, acceptOpened calls w os⟩) := by
  by_cases hs : w.status = .LISTENING
  · right
    by_cases hfd : acceptFd calls w os < 0
    · left
      refine ⟨hs, hfd, ?_⟩
      simp only [accept, hs, ne_eq, not_true_eq_false, if_false]
      exact if_pos hfd
    · right
      have hn : 0 ≤ acceptFd calls w os := Int.not_lt.mp hfd
      have hres := accept_fcntl_neg_iff hn
      by_cases hok : calls.fcntl = false
      · refine Or.inl ⟨hs, hn, hok, ?_⟩
        simp only [accept, hs, ne_eq, not_true_eq_false, if_false]
        exact (if_neg hfd).trans (if_pos (hres.mpr hok))
      · refine Or.inr ⟨hs, hn, by simpa using hok, ?_⟩
        simp only [accept, hs, ne_eq, not_true_eq_false, if_false]
        exact (if_neg hfd).trans (if_neg (mt hres.mp hok))
  · exact Or.inl ⟨hs, by simp [accept, hs]⟩

/-- What `socket` returns inside `Connect`. -/
def connectFd (calls : ConnectCalls) (os : Kernel) : ℤ := (os.socket calls.socket).1

/-- The table after the `connect` inside `Connect`. -/
def connected (inetAddr : CString → UInt32) (ip : CString) (port : ℤ) (calls : ConnectCalls)
    (os : Kernel) : Kernel :=
  ((os.socket calls.socket).2.connect (connectFd calls os) (addrStruct inetAddr ip port)
    calls.connect).2

/-- The `fcntl` on zero fails if zero is not open or the call is to fail. -/
theorem fcntl_zero_neg_iff (inetAddr : CString → UInt32) (ip : CString) (port : ℤ)
    (calls : ConnectCalls) (os : Kernel) :
    ((connected inetAddr ip port calls os).fcntl 0 .F_SETFD O_NONBLOCK calls.fcntl).1 < 0 ↔
      ¬ (calls.fcntl = true ∧ (os.socket calls.socket).2.IsOpen 0) := by
  rw [Kernel.fcntl, Kernel.onFile_neg_iff, connected, Kernel.connect, Kernel.onFile_isOpen,
    not_and_or, Bool.not_eq_true, or_comm]

/-- `Connect` past its three tests. -/
theorem connect_of_passes (inetAddr : CString → UInt32) {ip : CString} {port : ℤ}
    (calls : ConnectCalls) {w : Wrapper} (os : Kernel) (hs : w.status = .ORIGINAL)
    (hpass : Passes ip port) :
    connect inetAddr ip port calls w os =
      if connectFd calls os < 0 then
        ⟨ERROR, { w with fd := connectFd calls os }, (os.socket calls.socket).2⟩
      else
        let opFd := ((os.socket calls.socket).2.connect (connectFd calls os)
          (addrStruct inetAddr ip port) calls.connect).1
        let after := { w with
          fd := connectFd calls os, op_fd := some opFd, status := .OCCUPYFD }
        if opFd < 0 then ⟨ERROR, after, connected inetAddr ip port calls os⟩
        else if ((connected inetAddr ip port calls os).fcntl opFd .F_SETFD O_NONBLOCK
            calls.fcntl).1 < 0 then
          ⟨ERROR, after, ((connected inetAddr ip port calls os).fcntl opFd .F_SETFD O_NONBLOCK
            calls.fcntl).2.close opFd⟩
        else ⟨opFd, after, ((connected inetAddr ip port calls os).fcntl opFd .F_SETFD
          O_NONBLOCK calls.fcntl).2⟩ := by
  simp only [connect, hs, hpass.1, hpass.2, ne_eq, not_true_eq_false, Bool.false_eq_true,
    if_false]
  rfl

/-- All that `Connect` can do. Its last two exits use the zero that `connect`
returned as if it were a descriptor. -/
theorem connect_cases (inetAddr : CString → UInt32) (ip : CString) (port : ℤ)
    (calls : ConnectCalls) (w : Wrapper) (os : Kernel) :
    (¬ (w.status = .ORIGINAL ∧ Passes ip port) ∧
      connect inetAddr ip port calls w os = ⟨ERROR, w, os⟩) ∨
    (w.status = .ORIGINAL ∧ Passes ip port ∧ connectFd calls os < 0 ∧
      connect inetAddr ip port calls w os =
        ⟨ERROR, { w with fd := connectFd calls os }, (os.socket calls.socket).2⟩) ∨
    (w.status = .ORIGINAL ∧ Passes ip port ∧ 0 ≤ connectFd calls os ∧ calls.connect = false ∧
      connect inetAddr ip port calls w os =
        ⟨ERROR, { w with fd := connectFd calls os, op_fd := some (-1), status := .OCCUPYFD },
          connected inetAddr ip port calls os⟩) ∨
    (w.status = .ORIGINAL ∧ Passes ip port ∧ 0 ≤ connectFd calls os ∧ calls.connect = true ∧
      ((connected inetAddr ip port calls os).fcntl 0 .F_SETFD O_NONBLOCK calls.fcntl).1 < 0 ∧
      connect inetAddr ip port calls w os =
        ⟨ERROR, { w with fd := connectFd calls os, op_fd := some 0, status := .OCCUPYFD },
          ((connected inetAddr ip port calls os).fcntl 0 .F_SETFD O_NONBLOCK
            calls.fcntl).2.close 0⟩) ∨
    (w.status = .ORIGINAL ∧ Passes ip port ∧ 0 ≤ connectFd calls os ∧ calls.connect = true ∧
      ¬ ((connected inetAddr ip port calls os).fcntl 0 .F_SETFD O_NONBLOCK calls.fcntl).1 < 0 ∧
      connect inetAddr ip port calls w os =
        ⟨0, { w with fd := connectFd calls os, op_fd := some 0, status := .OCCUPYFD },
          ((connected inetAddr ip port calls os).fcntl 0 .F_SETFD O_NONBLOCK
            calls.fcntl).2⟩) := by
  by_cases hpre : w.status = .ORIGINAL ∧ Passes ip port
  · right
    obtain ⟨hs, hpass⟩ := hpre
    have hgo := connect_of_passes inetAddr calls os hs hpass
    by_cases hfd : connectFd calls os < 0
    · exact Or.inl ⟨hs, hpass, hfd, by rw [hgo, if_pos hfd]⟩
    · right
      have hn : 0 ≤ connectFd calls os := Int.not_lt.mp hfd
      have hopen := (Kernel.isOpen_socket_self os calls.socket).mpr hn
      rw [hgo, if_neg hfd]
      cases hc : calls.connect with
      | false =>
        have hres : ((os.socket calls.socket).2.connect (connectFd calls os)
            (addrStruct inetAddr ip port) false).1 = -1 := Kernel.onFile_false _ _ _ _
        exact Or.inl ⟨hs, hpass, hn, rfl, by simp [hres, connected, hc]⟩
      | true =>
        right
        have hres : ((os.socket calls.socket).2.connect (connectFd calls os)
            (addrStruct inetAddr ip port) true).1 = 0 := Kernel.onFile_true _ hopen _ _
        by_cases hneg : ((connected inetAddr ip port calls os).fcntl 0 .F_SETFD O_NONBLOCK
            calls.fcntl).1 < 0
        · exact Or.inl ⟨hs, hpass, hn, rfl, hneg, by simp [hres, hneg]⟩
        · exact Or.inr ⟨hs, hpass, hn, rfl, hneg, by simp [hres, hneg]⟩
  · left
    refine ⟨hpre, ?_⟩
    by_cases hs : w.status = .ORIGINAL
    · rcases rejects_of_not_passes (fun hpass => hpre ⟨hs, hpass⟩) with hip | hport
      · simp [connect, hip]
      · simp [connect, hport]
    · simp [connect, hs]

end SigIf.TcpWrap
