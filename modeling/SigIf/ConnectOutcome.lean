import SigIf.TcpWrap

/-!
# What a call of `Connect` leaves behind

A call is judged by the system calls that it made and by the table before and
after it. It stores the result of `connect`, which is zero or minus one, as the
descriptor of the peer, and then works on that.
-/

namespace SigIf.ConnectOutcome

open Constants Posix TcpWrap

/-- The calls made since an earlier state, newest first. -/
def callsSince (os after : Kernel) : List SysCall :=
  after.trace.take (after.trace.length - os.trace.length)

theorem callsSince_of_append {os after : Kernel} {calls : List SysCall}
    (h : after.trace = calls ++ os.trace) : callsSince os after = calls := by
  have hlength : after.trace.length - os.trace.length = calls.length := by
    rw [h, List.length_append]
    omega
  rw [callsSince, hlength, h, List.take_left]

/-- The value is an open descriptor that `socket` gave in this call and on which
`connect` succeeded. -/
structure Delivers (os : Kernel) (after : Answer) : Prop where
  created : .socket after.value ∈ callsSince os after.os
  connected : ∃ addr, .connect after.value addr 0 ∈ callsSince os after.os
  isOpen : after.os.IsOpen after.value

/-- Nothing that `socket` gave in this call is open, everything else is as it
was, and the call can be made again. -/
structure LeavesNothing (os : Kernel) (after : Answer) : Prop where
  closed : ∀ fd, .socket fd ∈ callsSince os after.os → ¬ after.os.IsOpen fd
  others : ∀ fd, .socket fd ∉ callsSince os after.os → after.os.file fd = os.file fd
  status : after.self.status = .ORIGINAL

/-- `Connect` delivers the connected socket, or returns `ERROR` and leaves nothing. -/
def ConnectContract (os : Kernel) (after : Answer) : Prop :=
  (after.value ≠ ERROR → Delivers os after) ∧ (after.value = ERROR → LeavesNothing os after)

/-- The calls up to the `connect`. -/
theorem trace_connected (inetAddr : CString → UInt32) (ip : CString) (port : ℤ)
    (calls : ConnectCalls) (os : Kernel) :
    (connected inetAddr ip port calls os).trace =
      [.connect (connectFd calls os) (addrStruct inetAddr ip port)
        ((os.socket calls.socket).2.connect (connectFd calls os) (addrStruct inetAddr ip port)
          calls.connect).1, .socket (connectFd calls os)] ++ os.trace := by
  rw [connected, Kernel.connect, Kernel.onFile_trace, Kernel.socket_trace]
  rfl

/-- A socket that is not handed out leaves the table alone. -/
theorem file_socket_of_neg {os : Kernel} {pick : Option ℕ} (h : (os.socket pick).1 < 0) (fd : ℤ) :
    (os.socket pick).2.file fd = os.file fd := by
  have hnot : ¬ 0 ≤ os.allocate pick := Int.not_le.mpr h
  simp only [Kernel.socket, Kernel.file_log, Kernel.file_set]
  exact if_neg fun hset => hnot hset.2

/-- A call that is refused leaves nothing. -/
theorem leavesNothing_refused {w : Wrapper} (hs : w.status = .ORIGINAL) (os : Kernel) :
    LeavesNothing os ⟨ERROR, w, os⟩ := by
  have hcalls : callsSince os os = [] := callsSince_of_append rfl
  refine ⟨?_, fun fd _ => rfl, hs⟩
  intro fd hmem
  simp [hcalls] at hmem

/-- Neither does one that gets no socket. -/
theorem leavesNothing_no_socket {w : Wrapper} (hs : w.status = .ORIGINAL) {os : Kernel}
    {calls : ConnectCalls} (h : connectFd calls os < 0) :
    LeavesNothing os
      ⟨ERROR, { w with fd := connectFd calls os }, (os.socket calls.socket).2⟩ := by
  have hcalls : callsSince os (os.socket calls.socket).2 = [.socket (connectFd calls os)] :=
    callsSince_of_append (Kernel.socket_trace os calls.socket)
  refine ⟨?_, fun fd _ => file_socket_of_neg h fd, hs⟩
  intro fd hmem hopen
  have he : fd = connectFd calls os := by simpa [hcalls] using hmem
  have hn := hopen.nonneg
  omega

/-- The zero that `connect` returned is delivered rightly only if it is by
chance the descriptor that `socket` gave. -/
theorem delivers_zero_iff (inetAddr : CString → UInt32) (ip : CString) (port : ℤ) (w : Wrapper)
    {os : Kernel} {calls : ConnectCalls} (hfd : 0 ≤ connectFd calls os)
    (hc : calls.connect = true) :
    Delivers os ⟨0, w, ((connected inetAddr ip port calls os).fcntl 0 .F_SETFD O_NONBLOCK
      calls.fcntl).2⟩ ↔ connectFd calls os = 0 := by
  have hopen : (os.socket calls.socket).2.IsOpen (connectFd calls os) :=
    (Kernel.isOpen_socket_self os calls.socket).mpr hfd
  have hres : ((os.socket calls.socket).2.connect (connectFd calls os)
      (addrStruct inetAddr ip port) calls.connect).1 = 0 := by
    rw [hc]
    exact Kernel.onFile_true _ hopen _ _
  have hcalls : callsSince os ((connected inetAddr ip port calls os).fcntl 0 .F_SETFD O_NONBLOCK
      calls.fcntl).2 = [.fcntl 0 .F_SETFD O_NONBLOCK
        ((connected inetAddr ip port calls os).fcntl 0 .F_SETFD O_NONBLOCK calls.fcntl).1,
      .connect (connectFd calls os) (addrStruct inetAddr ip port) 0,
      .socket (connectFd calls os)] := by
    apply callsSince_of_append
    rw [Kernel.fcntl, Kernel.onFile_trace, trace_connected, hres]
    rfl
  constructor
  · intro hdelivers
    have hcreated := hdelivers.created
    simp only [hcalls, List.mem_cons, reduceCtorEq, SysCall.socket.injEq, List.not_mem_nil,
      false_or, or_false] at hcreated
    exact hcreated.symm
  · intro hzero
    refine ⟨by simp [hcalls, hzero], ⟨addrStruct inetAddr ip port, by simp [hcalls, hzero]⟩, ?_⟩
    rw [hzero] at hopen
    rwa [Kernel.fcntl, Kernel.onFile_isOpen, connected, Kernel.connect, Kernel.onFile_isOpen]

/-- A success meets the contract under the same condition. -/
theorem contract_zero_iff (inetAddr : CString → UInt32) (ip : CString) (port : ℤ) (w : Wrapper)
    {os : Kernel} {calls : ConnectCalls} (hfd : 0 ≤ connectFd calls os)
    (hc : calls.connect = true) :
    ConnectContract os ⟨0, w, ((connected inetAddr ip port calls os).fcntl 0 .F_SETFD O_NONBLOCK
      calls.fcntl).2⟩ ↔ connectFd calls os = 0 := by
  rw [← delivers_zero_iff inetAddr ip port w hfd hc]
  have hvalue : (0 : ℤ) ≠ ERROR := by decide
  exact ⟨fun hcontract => hcontract.1 hvalue,
    fun hdelivers => ⟨fun _ => hdelivers, fun herror => absurd herror hvalue⟩⟩

/-- A failure that leaves the status at `OCCUPYFD` does not, as the call cannot
be made again. -/
theorem not_contract_of_occupied (w : Wrapper) (os after : Kernel) (fd opFd : ℤ) :
    ¬ ConnectContract os
      ⟨ERROR, { w with fd := fd, op_fd := some opFd, status := .OCCUPYFD }, after⟩ := by
  intro hcontract
  cases (hcontract.2 rfl).status

/-- From the first status, `Connect` meets its contract exactly when it refuses
its arguments, gets no socket, or gets descriptor zero and nothing fails. -/
theorem connect_contract_iff (inetAddr : CString → UInt32) (ip : CString) (port : ℤ)
    (calls : ConnectCalls) {w : Wrapper} (hs : w.status = .ORIGINAL) (os : Kernel) :
    ConnectContract os (connect inetAddr ip port calls w os) ↔
      ¬ Passes ip port ∨ connectFd calls os < 0 ∨
        (connectFd calls os = 0 ∧ calls.connect = true ∧ calls.fcntl = true) := by
  have hfcntl := fcntl_zero_neg_iff inetAddr ip port calls os
  rcases connect_cases inetAddr ip port calls w os with ⟨hpre, he⟩ | ⟨_, _, hfd, he⟩ |
    ⟨_, hpass, hfd, hc, he⟩ | ⟨_, hpass, hfd, _, hres, he⟩ | ⟨_, hpass, hfd, hc, hres, he⟩
  · rw [he]
    refine iff_of_true ⟨fun hne => absurd rfl hne, fun _ => leavesNothing_refused hs os⟩ ?_
    exact Or.inl fun hpass => hpre ⟨hs, hpass⟩
  · rw [he]
    refine iff_of_true ⟨fun hne => absurd rfl hne, fun _ => leavesNothing_no_socket hs hfd⟩ ?_
    exact Or.inr (Or.inl hfd)
  · rw [he]
    refine iff_of_false (not_contract_of_occupied _ _ _ _ _) ?_
    rintro (hnot | hneg | ⟨_, htrue, _⟩)
    · exact hnot hpass
    · omega
    · simp [hc] at htrue
  · rw [he]
    refine iff_of_false (not_contract_of_occupied _ _ _ _ _) ?_
    rintro (hnot | hneg | ⟨hzero, _, hok⟩)
    · exact hnot hpass
    · omega
    · have hopen := (Kernel.isOpen_socket_self os calls.socket).mpr hfd
      exact hfcntl.mp hres ⟨hok, hzero ▸ hopen⟩
  · rw [he]
    have hok := (not_not.mp (mt hfcntl.mpr hres)).1
    refine (contract_zero_iff inetAddr ip port _ hfd hc).trans ?_
    constructor
    · exact fun hzero => Or.inr (Or.inr ⟨hzero, hc, hok⟩)
    · rintro (hnot | hneg | ⟨hzero, _, _⟩)
      · exact absurd hpass hnot
      · omega
      · exact hzero

/-- A short address is refused, and nothing is left behind. -/
theorem connect_contract_of_short_address :
    ConnectContract ⟨fun _ => none, []⟩ (connect (fun _ => 0x0100007f) (c_str "127.0.0.1") 6000
      ⟨some 3, true, true⟩ .new ⟨fun _ => none, []⟩) :=
  (connect_contract_iff _ _ _ _ rfl _).mpr (Or.inl (by decide))

/-- With the standard streams open and a port that goes on the wire as 6000,
`Connect` connects descriptor three and returns that of the standard input. -/
theorem connect_returns_stdin :
    ¬ ConnectContract ⟨fun n => if n < 3 then some .fresh else none, []⟩
      (connect (fun _ => 0) (c_str "0000.0000.0000.0000") (-59536) ⟨some 3, true, true⟩ .new
        ⟨fun n => if n < 3 then some .fresh else none, []⟩) := by
  intro h
  have hcreated := (h.1 (by decide)).created
  exact absurd hcreated (by decide)

end SigIf.ConnectOutcome
