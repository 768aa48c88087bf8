import SigIf.Ownership
import SigIf.Runs
import SigIf.TcpWrap

/-!
# Whether the status of a wrapper tells the truth about its descriptor

The truth of a status is a predicate on the object and the table, and runs of
the four operations are runs of a step function. Each operation has a guard on
the state before it and on the answers of its system calls: meeting it is
exactly what keeps the truth, so it also decides whole runs.
-/

namespace SigIf.TcpStatus

open Constants Posix Ownership TcpWrap

/-- A wrapper and the descriptor table it works on. -/
structure TcpState where
  self : Wrapper
  os : Kernel

/-- A call of an operation, with what its system calls are to return. -/
inductive TcpCall where
  | setAddr (ip : CString) (port : ℤ) (calls : SetAddrCalls)
  | listen (maxListenQueue : ℤ) (ok : Bool)
  | accept (calls : AcceptCalls)
  | connect (ip : CString) (port : ℤ) (calls : ConnectCalls)

/-- The answer of a call. -/
def answer (inetAddr : CString → UInt32) (s : TcpState) : TcpCall → Answer
  | .setAddr ip port calls => setAddr inetAddr ip port calls s.self s.os
  | .listen maxListenQueue ok => TcpWrap.listen maxListenQueue ok s.self s.os
  | .accept calls => TcpWrap.accept calls s.self s.os
  | .connect ip port calls => TcpWrap.connect inetAddr ip port calls s.self s.os

/-- Any operation may be called in any state. -/
def step (inetAddr : CString → UInt32) (s : TcpState) (call : TcpCall) : Option TcpState :=
  some ⟨(answer inetAddr s call).self, (answer inetAddr s call).os⟩

/-- A freshly constructed wrapper that has made no calls yet. -/
def fresh (table : ℕ → Option OpenFile) : TcpState := ⟨.new, ⟨table, []⟩⟩

/-- The status says what is known of the descriptor. -/
structure StatusTruth (w : Wrapper) (os : Kernel) : Prop where
  intact : w.intact = true
  original : w.status = .ORIGINAL → ¬ OwnSocket os w.fd
  occupied : w.status = .OCCUPYFD → OwnSocket os w.fd
  initaddr : w.status = .INITADDR → OwnSocket os w.fd ∧ IsBound os w.fd
  listening : w.status = .LISTENING →
    OwnSocket os w.fd ∧ IsBound os w.fd ∧ IsListening os w.fd

/-- The status is true, and no close, listen or accept was ever issued on a
descriptor that was closed before or never handed out. -/
def Truthful (s : TcpState) : Prop := StatusTruth s.self s.os ∧ SoundCalls s.os.trace

/-- No operation sets the two last statuses. -/
def Reached (s : TcpState) : Prop := s.self.status ≠ .CONNECTED ∧ s.self.status ≠ .DISCONNECTED

/-- The guard of `SetAddr`: if its arguments are rejected, it must not have
closed the old descriptor first; otherwise `socket` must succeed, and either
the copy of the address fits or `fcntl` fails on the first socket of all. -/
def SetAddrGuard (ip : CString) (port : ℤ) (calls : SetAddrCalls) (w : Wrapper) (os : Kernel) :
    Prop :=
  if Passes ip port then
    0 ≤ setAddrFd calls w os ∧
      if calls.fcntl then strlen ip < addrCapacity else w.status = .ORIGINAL
  else w.status.closesOld = false

/-- The guard of `Connect`: where `connect` succeeds and the `fcntl` on the
zero it returned fails, descriptor zero is neither the new socket nor one that
was closed before. -/
def ConnectGuard (ip : CString) (port : ℤ) (calls : ConnectCalls) (w : Wrapper) (os : Kernel) :
    Prop :=
  w.status = .ORIGINAL → Passes ip port → 0 ≤ connectFd calls os → calls.connect = true →
    (calls.fcntl = true ∧ (os.socket calls.socket).2.IsOpen 0) ∨
      (connectFd calls os ≠ 0 ∧ fate os.trace 0 ≠ some .closed)

/-- The guard of a call. -/
def Guard (s : TcpState) : TcpCall → Prop
  | .setAddr ip port calls => SetAddrGuard ip port calls s.self s.os
  | .listen _ _ => True
  | .accept _ => True
  | .connect ip port calls => ConnectGuard ip port calls s.self s.os

/-- What is to show of a wrapper in its first status, and in each of the next. -/
theorem StatusTruth.of_original {w : Wrapper} {os : Kernel} (hintact : w.intact = true)
    (hs : w.status = .ORIGINAL) (hnot : ¬ OwnSocket os w.fd) : StatusTruth w os := by
  refine ⟨hintact, fun _ => hnot, ?_, ?_, ?_⟩
  all_goals
    intro hother
    simp [hs] at hother

theorem StatusTruth.of_occupied {w : Wrapper} {os : Kernel} (hintact : w.intact = true)
    (hs : w.status = .OCCUPYFD) (hown : OwnSocket os w.fd) : StatusTruth w os := by
  refine ⟨hintact, ?_, fun _ => hown, ?_, ?_⟩
  all_goals
    intro hother
    simp [hs] at hother

theorem StatusTruth.of_initaddr {w : Wrapper} {os : Kernel} (hintact : w.intact = true)
    (hs : w.status = .INITADDR) (hown : OwnSocket os w.fd) (hbound : IsBound os w.fd) :
    StatusTruth w os := by
  refine ⟨hintact, ?_, ?_, fun _ => ⟨hown, hbound⟩, ?_⟩
  all_goals
    intro hother
    simp [hs] at hother

theorem StatusTruth.of_listening {w : Wrapper} {os : Kernel} (hintact : w.intact = true)
    (hs : w.status = .LISTENING) (hown : OwnSocket os w.fd) (hbound : IsBound os w.fd)
    (hlistening : IsListening os w.fd) : StatusTruth w os := by
  refine ⟨hintact, ?_, ?_, ?_, fun _ => ⟨hown, hbound, hlistening⟩⟩
  all_goals
    intro hother
    simp [hs] at hother

/-- A true status that makes `SetAddr` close the old descriptor owns it. -/
theorem StatusTruth.own_of_closesOld {w : Wrapper} {os : Kernel} (h : StatusTruth w os)
    (hreached : w.status ≠ .DISCONNECTED) (hcloses : w.status.closesOld = true) :
    OwnSocket os w.fd := by
  cases hs : w.status with
  | OCCUPYFD => exact h.occupied hs
  | INITADDR => exact (h.initaddr hs).1
  | DISCONNECTED => exact absurd hs hreached
  | _ => simp [hs, Status.closesOld] at hcloses

/-- So its first statement is always issued on a usable descriptor. -/
theorem soundCalls_closeOld {w : Wrapper} {os : Kernel} (h : StatusTruth w os)
    (hreached : w.status ≠ .DISCONNECTED) (hsound : SoundCalls os.trace) :
    SoundCalls (closeOld w os).trace := by
  unfold closeOld
  split
  · rename_i hcloses
    exact (soundCalls_close os _).mpr ⟨hsound, (h.own_of_closesOld hreached hcloses).usable⟩
  · exact hsound

/-- The socket that `SetAddr` got is its own, also after `fcntl`. -/
theorem ownSocket_setAddrOpened {calls : SetAddrCalls} {w : Wrapper} {os : Kernel}
    (h : 0 ≤ setAddrFd calls w os) :
    OwnSocket (setAddrOpened calls w os) (setAddrFd calls w os) := by
  rw [setAddrOpened, ownSocket_fcntl, ownSocket_socket]
  exact Or.inr ⟨rfl, h⟩

/-- Getting there issues nothing on a bad descriptor. -/
theorem soundCalls_setAddrOpened (calls : SetAddrCalls) {w : Wrapper} {os : Kernel}
    (h : StatusTruth w os) (hreached : w.status ≠ .DISCONNECTED)
    (hsound : SoundCalls os.trace) : SoundCalls (setAddrOpened calls w os).trace := by
  rw [setAddrOpened, soundCalls_fcntl, soundCalls_socket]
  exact soundCalls_closeOld h hreached hsound

/-- A status other than the first claims an open socket. -/
theorem StatusTruth.own_of_ne_original {w : Wrapper} {os : Kernel} (h : StatusTruth w os)
    (hc : w.status ≠ .CONNECTED) (hd : w.status ≠ .DISCONNECTED) (ho : w.status ≠ .ORIGINAL) :
    OwnSocket os w.fd := by
  cases hs : w.status with
  | ORIGINAL => exact absurd hs ho
  | OCCUPYFD => exact h.occupied hs
  | INITADDR => exact (h.initaddr hs).1
  | LISTENING => exact (h.listening hs).1
  | CONNECTED => exact absurd hs hc
  | DISCONNECTED => exact absurd hs hd

/-- A successful bind leaves the descriptor bound. -/
theorem isBound_bind {os : Kernel} {fd : ℤ} (h : os.IsOpen fd) (addr : SockAddr) :
    IsBound (os.bind fd addr true).2 fd := by
  obtain ⟨file, hf⟩ := Option.isSome_iff_exists.mp h
  refine ⟨{ file with bound := some addr }, ?_, rfl⟩
  rw [Kernel.bind, Kernel.onFile_file]
  simp [hf]

/-- Where `SetAddr` rejects its arguments, the old descriptor may be closed
while the status still claims it. -/
theorem rejected_truthful_iff {w : Wrapper} {os : Kernel} (hreached : Reached ⟨w, os⟩)
    (htruth : Truthful ⟨w, os⟩) :
    Truthful ⟨w, closeOld w os⟩ ↔ w.status.closesOld = false := by
  constructor
  · rintro ⟨hafter, _⟩
    by_contra hcloses
    have hcloses : w.status.closesOld = true := by simpa using hcloses
    have hne : w.status ≠ .ORIGINAL := by
      intro hs
      simp [hs, Status.closesOld] at hcloses
    have hown := hafter.own_of_ne_original hreached.1 hreached.2 hne
    simp only [closeOld, hcloses, if_true, ownSocket_close] at hown
    exact hown.1 rfl
  · intro hcloses
    simpa [closeOld, hcloses] using htruth

/-- Where it gives up after `fcntl`, what it closes is minus one or the new socket. -/
theorem givenUp_truthful_iff {w : Wrapper} {os : Kernel} (hreached : Reached ⟨w, os⟩)
    (htruth : Truthful ⟨w, os⟩) (calls : SetAddrCalls) :
    Truthful ⟨{ w with fd := setAddrFd calls w os },
        (setAddrOpened calls w os).close (setAddrFd calls w os)⟩ ↔
      0 ≤ setAddrFd calls w os ∧ w.status = .ORIGINAL := by
  have hnot : ¬ OwnSocket ((setAddrOpened calls w os).close (setAddrFd calls w os))
      (setAddrFd calls w os) := by
    rw [ownSocket_close]
    exact fun h => h.1 rfl
  constructor
  · rintro ⟨hafter, hcalls⟩
    have husable := ((soundCalls_close _ _).mp hcalls).2
    refine ⟨husable.1, ?_⟩
    by_contra hne
    exact hnot (hafter.own_of_ne_original hreached.1 hreached.2 hne)
  · rintro ⟨hfd, hs⟩
    have hopened := soundCalls_setAddrOpened calls htruth.1 hreached.2 htruth.2
    refine ⟨.of_original htruth.1.intact hs hnot, ?_⟩
    exact (soundCalls_close _ _).mpr ⟨hopened, (ownSocket_setAddrOpened hfd).usable⟩

/-- Where it goes on to `bind`, only the copy of the address can spoil the truth. -/
theorem bound_truthful_iff {w : Wrapper} {os : Kernel} (hreached : Reached ⟨w, os⟩)
    (htruth : Truthful ⟨w, os⟩) (ip : CString) (port : ℤ) (addr : SockAddr)
    {calls : SetAddrCalls} (hfd : 0 ≤ setAddrFd calls w os) :
    Truthful ⟨{ w with
          fd := setAddrFd calls w os
          status := if calls.bind then .INITADDR else .OCCUPYFD
          ipv4_addr := some ip
          intact := w.intact && decide (strlen ip < addrCapacity)
          port := port },
        ((setAddrOpened calls w os).bind (setAddrFd calls w os) addr calls.bind).2⟩ ↔
      strlen ip < addrCapacity := by
  have hown := ownSocket_setAddrOpened hfd
  have hafter := (ownSocket_bind _ (setAddrFd calls w os) addr calls.bind _).mpr hown
  have hopened := soundCalls_setAddrOpened calls htruth.1 hreached.2 htruth.2
  constructor
  · rintro ⟨hnew, _⟩
    have hintact := hnew.intact
    simp only [Bool.and_eq_true, decide_eq_true_eq] at hintact
    exact hintact.2
  · intro hfits
    have hbefore : w.intact = true := htruth.1.intact
    have hintact : (w.intact && decide (strlen ip < addrCapacity)) = true := by
      simp [hbefore, hfits]
    refine ⟨?_, (soundCalls_bind _ _ _ _).mpr hopened⟩
    cases hb : calls.bind with
    | false =>
      rw [hb] at hafter
      exact .of_occupied hintact rfl hafter
    | true =>
      rw [hb] at hafter
      exact .of_initaddr hintact rfl hafter (isBound_bind hown.1 addr)

/-- `SetAddr` keeps the truth exactly under its guard. -/
theorem setAddr_truthful_iff (inetAddr : CString → UInt32) {w : Wrapper} {os : Kernel}
    (hreached : Reached ⟨w, os⟩) (htruth : Truthful ⟨w, os⟩) (ip : CString) (port : ℤ)
    (calls : SetAddrCalls) :
    Truthful ⟨(setAddr inetAddr ip port calls w os).self,
        (setAddr inetAddr ip port calls w os).os⟩ ↔ SetAddrGuard ip port calls w os := by
  unfold SetAddrGuard
  rcases setAddr_cases inetAddr ip port calls w os with
    ⟨hpass, he⟩ | ⟨hpass, hfail, he⟩ | ⟨hpass, hfd, hok, he⟩
  · rw [he, if_neg hpass]
    exact rejected_truthful_iff hreached htruth
  · rw [he, if_pos hpass, givenUp_truthful_iff hreached htruth calls]
    refine and_congr_right fun hfd => ?_
    have hok : calls.fcntl = false := hfail.resolve_left (Int.not_lt.mpr hfd)
    simp [hok]
  · rw [he, if_pos hpass, bound_truthful_iff hreached htruth ip port _ hfd]
    simp [hfd, hok]

/-- A call on a file that keeps the bound addresses keeps what is bound. -/
theorem isBound_listen {os : Kernel} {fd : ℤ} (h : IsBound os fd) (backlog : ℤ) (ok : Bool) :
    IsBound (os.listen fd backlog ok).2 fd := by
  obtain ⟨file, hf, hb⟩ := h
  rw [IsBound, Kernel.listen, Kernel.onFile_file]
  cases ok with
  | true => exact ⟨{ file with listening := true }, by simp [hf], hb⟩
  | false => exact ⟨file, by simp [hf], hb⟩

/-- A listen that does not fail leaves the descriptor listening. -/
theorem isListening_listen {os : Kernel} {fd backlog : ℤ} {ok : Bool}
    (h : ¬ (os.listen fd backlog ok).1 < 0) : IsListening (os.listen fd backlog ok).2 fd := by
  rw [Kernel.listen, Kernel.onFile_neg_iff, not_or, not_not] at h
  obtain ⟨hopen, hok⟩ := h
  obtain ⟨file, hf⟩ := Option.isSome_iff_exists.mp hopen
  refine ⟨{ file with listening := true }, ?_, rfl⟩
  rw [Kernel.listen, Kernel.onFile_file]
  simp [hf, hok]

/-- `Listen` always keeps the truth. -/
theorem listen_truthful {w : Wrapper} {os : Kernel} (htruth : Truthful ⟨w, os⟩)
    (maxListenQueue : ℤ) (ok : Bool) :
    Truthful ⟨(TcpWrap.listen maxListenQueue ok w os).self,
      (TcpWrap.listen maxListenQueue ok w os).os⟩ := by
  obtain ⟨hstatus, hsound⟩ := htruth
  have hown (hs : w.status = .INITADDR) :
      OwnSocket (os.listen w.fd maxListenQueue ok).2 w.fd :=
    (ownSocket_listen _ _ _ _ _).mpr (hstatus.initaddr hs).1
  have hbound (hs : w.status = .INITADDR) :
      IsBound (os.listen w.fd maxListenQueue ok).2 w.fd :=
    isBound_listen (hstatus.initaddr hs).2 _ _
  have hcalls (hs : w.status = .INITADDR) :
      SoundCalls (os.listen w.fd maxListenQueue ok).2.trace :=
    (soundCalls_listen _ _ _ _).mpr ⟨hsound, (hstatus.initaddr hs).1.usable⟩
  rcases listen_cases maxListenQueue ok w os with ⟨_, he⟩ | ⟨hs, _, he⟩ | ⟨hs, hres, he⟩
  · rw [he]
    exact ⟨hstatus, hsound⟩
  · rw [he]
    exact ⟨.of_initaddr hstatus.intact hs (hown hs) (hbound hs), hcalls hs⟩
  · rw [he]
    exact ⟨.of_listening hstatus.intact rfl (hown hs) (hbound hs) (isListening_listen hres),
      hcalls hs⟩

/-- The truth about an unchanged wrapper needs only its own descriptor. -/
theorem StatusTruth.of_frame {w : Wrapper} {os next : Kernel} (h : StatusTruth w os)
    (hown : OwnSocket next w.fd ↔ OwnSocket os w.fd)
    (hfile : OwnSocket os w.fd → next.file w.fd = os.file w.fd) : StatusTruth w next := by
  have hbound : OwnSocket os w.fd → IsBound os w.fd → IsBound next w.fd := by
    intro ho hb
    rwa [IsBound, hfile ho]
  have hlisten : OwnSocket os w.fd → IsListening os w.fd → IsListening next w.fd := by
    intro ho hl
    rwa [IsListening, hfile ho]
  refine ⟨h.intact, fun hs => mt hown.mp (h.original hs), fun hs => hown.mpr (h.occupied hs),
    ?_, ?_⟩
  · intro hs
    obtain ⟨ho, hb⟩ := h.initaddr hs
    exact ⟨hown.mpr ho, hbound ho hb⟩
  · intro hs
    obtain ⟨ho, hb, hl⟩ := h.listening hs
    exact ⟨hown.mpr ho, hbound ho hb, hlisten ho hl⟩

/-- The table after the `fcntl` of `Accept` shows the old descriptors as they were. -/
theorem file_acceptOpened {calls : AcceptCalls} {w : Wrapper} {os : Kernel} {other : ℤ}
    (h : os.IsOpen other) : (acceptOpened calls w os).file other = os.file other := by
  have hne : other ≠ acceptFd calls w os := by
    rintro rfl
    exact not_isOpen_accept os w.fd calls.accept h
  rw [acceptOpened, Kernel.fcntl, Kernel.onFile_file, if_neg (fun hc => hne hc.1),
    file_accept os w.fd calls.accept h]

/-- `Accept` always keeps the truth. -/
theorem accept_truthful {w : Wrapper} {os : Kernel} (htruth : Truthful ⟨w, os⟩)
    (calls : AcceptCalls) :
    Truthful ⟨(TcpWrap.accept calls w os).self, (TcpWrap.accept calls w os).os⟩ := by
  obtain ⟨hstatus, hsound⟩ := htruth
  have hopened (hs : w.status = .LISTENING) : SoundCalls (acceptOpened calls w os).trace := by
    rw [acceptOpened, soundCalls_fcntl, soundCalls_accept]
    exact ⟨hsound, (hstatus.listening hs).1.usable⟩
  have hownOpened : OwnSocket (acceptOpened calls w os) w.fd ↔ OwnSocket os w.fd := by
    rw [acceptOpened, ownSocket_fcntl, ownSocket_accept]
  rcases accept_cases calls w os with
    ⟨_, he⟩ | ⟨hs, _, he⟩ | ⟨hs, hfd, _, he⟩ | ⟨hs, _, _, he⟩
  · rw [he]
    exact ⟨hstatus, hsound⟩
  · rw [he]
    refine ⟨hstatus.of_frame (ownSocket_accept _ _ _ _) ?_, ?_⟩
    · exact fun ho => file_accept os w.fd calls.accept ho.1
    · exact (soundCalls_accept _ _ _).mpr ⟨hsound, (hstatus.listening hs).1.usable⟩
  · rw [he]
    -- the client that is closed again was not open before, so it is not the own socket
    have hne : OwnSocket os w.fd → w.fd ≠ acceptFd calls w os := by
      intro ho heq
      have hopen := ho.1
      rw [heq] at hopen
      exact not_isOpen_accept os w.fd calls.accept hopen
    have hclient : fate (acceptOpened calls w os).trace (acceptFd calls w os) =
        some .accepted := by
      rw [acceptOpened, Kernel.fcntl, Kernel.onFile_trace]
      simp [fate, Kernel.accept, acceptFd]
    refine ⟨hstatus.of_frame ?_ ?_, (soundCalls_close _ _).mpr
      ⟨hopened hs, hfd, by simp [hclient]⟩⟩
    · rw [ownSocket_close, hownOpened]
      exact ⟨And.right, fun ho => ⟨hne ho, ho⟩⟩
    · intro ho
      rw [Kernel.close_file, if_neg (hne ho), file_acceptOpened ho.1]
  · rw [he]
    exact ⟨hstatus.of_frame hownOpened fun ho => file_acceptOpened ho.1, hopened hs⟩

/-- The socket that `Connect` got is its own. -/
theorem ownSocket_connected (inetAddr : CString → UInt32) (ip : CString) (port : ℤ)
    {calls : ConnectCalls} {os : Kernel} (h : 0 ≤ connectFd calls os) :
    OwnSocket (connected inetAddr ip port calls os) (connectFd calls os) := by
  rw [connected, ownSocket_connect, ownSocket_socket]
  exact Or.inr ⟨rfl, h⟩

/-- Getting there issues nothing on a bad descriptor. -/
theorem soundCalls_connected (inetAddr : CString → UInt32) (ip : CString) (port : ℤ)
    (calls : ConnectCalls) {os : Kernel} (h : SoundCalls os.trace) :
    SoundCalls (connected inetAddr ip port calls os).trace := by
  rw [connected, soundCalls_connect, soundCalls_socket]
  exact h

/-- The calls of `Connect` before its last `close` say nothing new of descriptor
zero, unless it is the new socket. -/
theorem fate_zero_connected (inetAddr : CString → UInt32) (ip : CString) (port : ℤ)
    {calls : ConnectCalls} {os : Kernel} (h : connectFd calls os ≠ 0) :
    fate ((connected inetAddr ip port calls os).fcntl 0 .F_SETFD O_NONBLOCK
      calls.fcntl).2.trace 0 = fate os.trace 0 := by
  rw [Kernel.fcntl, Kernel.onFile_trace, connected, Kernel.connect]
  simp only [fate, Kernel.onFile_trace, Kernel.socket, Kernel.trace_log, Kernel.trace_set]
  exact if_neg h

/-- Closing descriptor zero does no harm exactly if it is neither the new
socket nor closed already. -/
theorem closedZero_truthful_iff (inetAddr : CString → UInt32) (ip : CString) (port : ℤ)
    {w : Wrapper} {os : Kernel} (htruth : Truthful ⟨w, os⟩) {calls : ConnectCalls}
    (hfd : 0 ≤ connectFd calls os) :
    Truthful ⟨{ w with fd := connectFd calls os, op_fd := some 0, status := .OCCUPYFD },
        ((connected inetAddr ip port calls os).fcntl 0 .F_SETFD O_NONBLOCK
          calls.fcntl).2.close 0⟩ ↔
      connectFd calls os ≠ 0 ∧ fate os.trace 0 ≠ some .closed := by
  constructor
  · rintro ⟨hafter, hcalls⟩
    have hown := hafter.occupied rfl
    rw [ownSocket_close] at hown
    have husable := ((soundCalls_close _ _).mp hcalls).2
    refine ⟨hown.1, ?_⟩
    rw [← fate_zero_connected inetAddr ip port hown.1]
    exact husable.2
  · rintro ⟨hne, hclosed⟩
    have hsound := soundCalls_connected inetAddr ip port calls htruth.2
    refine ⟨.of_occupied htruth.1.intact rfl ?_, (soundCalls_close _ _).mpr
      ⟨(soundCalls_fcntl _ _ _ _ _).mpr hsound, Int.le_refl 0, ?_⟩⟩
    · rw [ownSocket_close, ownSocket_fcntl]
      exact ⟨hne, ownSocket_connected inetAddr ip port hfd⟩
    · rwa [fate_zero_connected inetAddr ip port hne]

/-- `Connect` keeps the truth exactly under its guard. -/
theorem connect_truthful_iff (inetAddr : CString → UInt32) {w : Wrapper} {os : Kernel}
    (htruth : Truthful ⟨w, os⟩) (ip : CString) (port : ℤ) (calls : ConnectCalls) :
    Truthful ⟨(TcpWrap.connect inetAddr ip port calls w os).self,
        (TcpWrap.connect inetAddr ip port calls w os).os⟩ ↔ ConnectGuard ip port calls w os := by
  have hsound := soundCalls_connected inetAddr ip port calls htruth.2
  have hfcntl := fcntl_zero_neg_iff inetAddr ip port calls os
  rcases connect_cases inetAddr ip port calls w os with ⟨hpre, he⟩ | ⟨hs, _, hfd, he⟩ |
    ⟨_, _, hfd, hc, he⟩ | ⟨hs, hpass, hfd, hc, hres, he⟩ | ⟨_, _, hfd, _, hres, he⟩
  · -- refused
    rw [he]
    exact iff_of_true htruth fun hs hpass => absurd ⟨hs, hpass⟩ hpre
  · -- no socket
    rw [he]
    refine iff_of_true ⟨?_, (soundCalls_socket _ _).mpr htruth.2⟩ ?_
    · exact .of_original htruth.1.intact hs (not_ownSocket_of_neg _ hfd)
    · exact fun _ _ hn => absurd hfd (Int.not_lt.mpr hn)
  · -- not connected
    rw [he]
    have hown := ownSocket_connected inetAddr ip port hfd
    refine iff_of_true ⟨.of_occupied htruth.1.intact rfl hown, hsound⟩ ?_
    intro _ _ _ htrue
    simp [hc] at htrue
  · -- connected, and zero is closed
    rw [he, closedZero_truthful_iff inetAddr ip port htruth hfd]
    have hnot := hfcntl.mp hres
    exact ⟨fun h _ _ _ _ => Or.inr h, fun h => (h hs hpass hfd hc).resolve_left hnot⟩
  · -- connected
    rw [he]
    have hown := (ownSocket_fcntl _ 0 .F_SETFD O_NONBLOCK calls.fcntl _).mpr
      (ownSocket_connected inetAddr ip port hfd)
    refine iff_of_true ⟨.of_occupied htruth.1.intact rfl hown,
      (soundCalls_fcntl _ _ _ _ _).mpr hsound⟩ ?_
    exact fun _ _ _ _ => Or.inl (not_not.mp (mt hfcntl.mpr hres))

/-- The statuses that no operation sets are never reached. -/
theorem step_reached {inetAddr : CString → UInt32} (s : TcpState) (call : TcpCall)
    (next : TcpState) (hs : Reached s) (hnext : step inetAddr s call = some next) :
    Reached next := by
  obtain ⟨w, os⟩ := s
  simp only [step, Option.some.injEq] at hnext
  subst hnext
  cases call with
  | setAddr ip port calls =>
    rcases setAddr_cases inetAddr ip port calls w os with ⟨_, he⟩ | ⟨_, _, he⟩ | ⟨_, _, _, he⟩
    · simpa [Reached, answer, he] using hs
    · simpa [Reached, answer, he] using hs
    · cases hb : calls.bind <;> simp [Reached, answer, he, hb]
  | listen maxListenQueue ok =>
    rcases listen_cases maxListenQueue ok w os with ⟨_, he⟩ | ⟨_, _, he⟩ | ⟨_, _, he⟩
    · simpa [Reached, answer, he] using hs
    · simpa [Reached, answer, he] using hs
    · simp [Reached, answer, he]
  | accept calls =>
    rcases accept_cases calls w os with ⟨_, he⟩ | ⟨_, _, he⟩ | ⟨_, _, _, he⟩ | ⟨_, _, _, he⟩
    all_goals simpa [Reached, answer, he] using hs
  | connect ip port calls =>
    rcases connect_cases inetAddr ip port calls w os with ⟨_, he⟩ | ⟨_, _, _, he⟩ |
      ⟨_, _, _, _, he⟩ | ⟨_, _, _, _, _, he⟩ | ⟨_, _, _, _, _, he⟩
    · simpa [Reached, answer, he] using hs
    · simpa [Reached, answer, he] using hs
    all_goals simp [Reached, answer, he]

/-- Each call keeps the truth exactly when it meets its guard. -/
theorem step_truthful_iff (inetAddr : CString → UInt32) (s : TcpState) (call : TcpCall)
    (next : TcpState) (hreached : Reached s) (htruth : Truthful s)
    (hnext : step inetAddr s call = some next) : Truthful next ↔ Guard s call := by
  simp only [step, Option.some.injEq] at hnext
  subst hnext
  cases call with
  | setAddr ip port calls => exact setAddr_truthful_iff inetAddr hreached htruth ip port calls
  | listen maxListenQueue ok => exact iff_of_true (listen_truthful htruth maxListenQueue ok) trivial
  | accept calls => exact iff_of_true (accept_truthful htruth calls) trivial
  | connect ip port calls => exact connect_truthful_iff inetAddr htruth ip port calls

/-- Nothing is claimed of the minus one that a fresh wrapper holds. -/
theorem fresh_truthful (table : ℕ → Option OpenFile) : Truthful (fresh table) := by
  refine ⟨⟨rfl, fun _ => not_ownSocket_of_neg _ (Int.negSucc_lt_zero 0), ?_, ?_, ?_⟩,
    trivial⟩
  all_goals
    intro hs
    cases hs

/-- In a run from a fresh wrapper the status tells the truth in every state
exactly when every call of the run meets its guard. -/
theorem status_truthful_iff_guarded (inetAddr : CString → UInt32)
    (table : ℕ → Option OpenFile) (calls : List TcpCall) :
    Runs.Always (step inetAddr) Truthful (fresh table) calls ↔
      Runs.Guarded (step inetAddr) Guard (fresh table) calls :=
  Runs.always_iff_guarded step_reached (step_truthful_iff inetAddr)
    ⟨by simp [fresh, Wrapper.new], by simp [fresh, Wrapper.new]⟩ (fresh_truthful table) calls

/-- Seventeen zeros, which `inet_addr` reads as the wildcard address: long enough
to pass the length test, short enough for the copy. -/
def longAddr : CString := ⟨List.replicate 17 0x30, by decide⟩

/-- Two calls, the first of which gets descriptor three and binds it. -/
def rejectedAfterBind : List TcpCall :=
  [.setAddr longAddr 0 ⟨some 3, true, true⟩, .setAddr longAddr 8080 ⟨some 3, true, true⟩]

/-- The second call closes the descriptor, rejects the port and returns, so
the status goes on claiming a bound socket. -/
theorem rejected_setAddr_breaks_status :
    ¬ Runs.Always (step fun _ => 0) Truthful (fresh fun _ => none) rejectedAfterBind := by
  intro h
  have hend := (h.2 _ rfl).2 _ rfl
  have hown := (hend.1.initaddr (by decide)).1
  exact absurd hown.1 (by decide)

end SigIf.TcpStatus
