import SigIf.Acceptor
import SigIf.Runs

/-!
# Whether only real connections are queued

A run of the acceptor is its opening and then rounds of its loop. What it
queues is judged by the results that led to the push, which the code drops,
and by the table at the time of the push.
-/

namespace SigIf.RealConnections

open Constants Posix Handler TcpWrap NewConnQ Acceptor

/-- A connection when it is pushed: the table and the results of the calls. -/
structure PushRecord where
  conn : ConnectionInfo
  os : Kernel
  setAddrResult : Option ℤ
  listenResult : Option ℤ
  acceptResult : ℤ

/-- The acceptor alone, with all that it has pushed so far. -/
structure AcceptorRun where
  thread : AcceptorThread
  world : World
  pushes : List PushRecord

/-- The parts of a run, with what the system calls are to return. -/
inductive RunAction where
  | opening (calls : SetAddrCalls) (ok : Bool)
  | round (calls : AcceptCalls)

/-- A part of a run, made of the steps of the thread. -/
def step (setting : Setting) (s : AcceptorRun) : RunAction → Option AcceptorRun
  | .opening calls ok => do
    let (thread, world) ← acceptorStep setting s.thread s.world (.setAddr calls)
    let (thread, world) ← acceptorStep setting thread world (.listen ok)
    return { s with thread := thread, world := world }
  | .round calls => do
    let (thread, world) ← acceptorStep setting s.thread s.world (.accept calls)
    let client_fd ← thread.client_fd
    let record : PushRecord :=
      { conn := setting.fd2ConnectionInfo.make world.os client_fd
        os := world.os
        setAddrResult := thread.setAddrResult
        listenResult := thread.listenResult
        acceptResult := client_fd }
    let (thread, world) ← acceptorStep setting thread world .push
    return ⟨thread, world, s.pushes ++ [record]⟩

/-- The start of a run: no calls made and nothing queued yet. -/
def start (table : ℕ → Option OpenFile) : AcceptorRun :=
  ⟨.start, ⟨⟨table, []⟩, ⟨[], []⟩, .empty⟩, []⟩

/-- No failed call led to the push, and the descriptor was handed out by
`accept` during the run and is open. -/
structure RealPush (p : PushRecord) : Prop where
  setAddr : p.setAddrResult ≠ some ERROR
  listen : p.listenResult ≠ some ERROR
  accept : p.acceptResult ≠ ERROR
  accepted : 0 ≤ p.conn.fd ∧ ∃ listener, .accept listener p.conn.fd ∈ p.os.trace
  isOpen : p.os.IsOpen p.conn.fd

/-- Only real connections have been pushed, by an intact wrapper. -/
def OnlyReal (s : AcceptorRun) : Prop :=
  s.thread.acceptor.intact = true ∧ ∀ p ∈ s.pushes, RealPush p

/-- The guard of a part. The opening must not run over the end of the address
array; a round must find the wrapper listening, and its `accept` and `fcntl`
must succeed. -/
def Guard (setting : Setting) (s : AcceptorRun) : RunAction → Prop
  | .opening calls _ =>
    Passes setting.config.getListenIP setting.config.getListenPort →
      0 ≤ setAddrFd calls s.thread.acceptor s.world.os → calls.fcntl = true →
        strlen setting.config.getListenIP < addrCapacity
  | .round calls =>
    s.thread.acceptor.status = .LISTENING ∧
      0 ≤ acceptFd calls s.thread.acceptor s.world.os ∧ calls.fcntl = true

/-- Between the parts no client is held, the wrapper is fresh until the opening,
and it listens only if both calls of the opening succeeded. -/
structure Opened (s : AcceptorRun) : Prop where
  idle : s.thread.client_fd = none
  before : s.thread.setAddrResult = none →
    s.thread.acceptor.status = .ORIGINAL ∧ s.thread.listenResult = none
  after : s.thread.acceptor.status = .LISTENING →
    s.thread.setAddrResult ≠ some ERROR ∧ s.thread.listenResult ≠ some ERROR

/-- The acceptor after its opening. -/
def afterOpening (setting : Setting) (calls : SetAddrCalls) (ok : Bool) (s : AcceptorRun) :
    AcceptorRun :=
  let (thread, world) := callSetAddr setting calls s.thread s.world
  let (thread, world) := callListen ok thread world
  { s with thread := thread, world := world }

/-- The acceptor after a round. -/
def afterRound (setting : Setting) (calls : AcceptCalls) (s : AcceptorRun) : AcceptorRun :=
  let answer := accept calls s.thread.acceptor s.world.os
  let (thread, world) := callAccept calls s.thread s.world
  let (thread, world) := pushClient setting answer.value thread world
  ⟨thread, world, s.pushes ++
    [⟨setting.fd2ConnectionInfo.make answer.os answer.value, answer.os,
      s.thread.setAddrResult, s.thread.listenResult, answer.value⟩]⟩

/-- The opening is the first part, and there is only one. -/
theorem step_opening {setting : Setting} {s next : AcceptorRun} (h : Opened s)
    {calls : SetAddrCalls} {ok : Bool} (hnext : step setting s (.opening calls ok) = some next) :
    s.thread.setAddrResult = none ∧ next = afterOpening setting calls ok s := by
  simp only [step, acceptorStep] at hnext
  by_cases hs : s.thread.setAddrResult = none
  · have hl := (h.before hs).2
    refine ⟨hs, ?_⟩
    simp [hs, hl, callSetAddr] at hnext
    exact hnext.symm
  · simp [hs] at hnext

/-- A round can be run after it. -/
theorem step_round {setting : Setting} {s next : AcceptorRun} {calls : AcceptCalls}
    (hnext : step setting s (.round calls) = some next) :
    s.thread.listenResult ≠ none ∧ next = afterRound setting calls s := by
  simp only [step, acceptorStep] at hnext
  by_cases hs : s.thread.listenResult ≠ none ∧ s.thread.client_fd = none
  · refine ⟨hs.1, ?_⟩
    simp [hs, callAccept] at hnext
    exact hnext.symm
  · simp [hs] at hnext

/-- A fresh wrapper that has an address bound got it without an error. -/
theorem setAddr_value_of_initaddr {inetAddr : CString → UInt32} {ip : CString} {port : ℤ}
    {calls : SetAddrCalls} {w : Wrapper} {os : Kernel} (hw : w.status = .ORIGINAL)
    (h : (setAddr inetAddr ip port calls w os).self.status = .INITADDR) :
    (setAddr inetAddr ip port calls w os).value = 1 := by
  rcases setAddr_cases inetAddr ip port calls w os with ⟨_, he⟩ | ⟨_, _, he⟩ | ⟨_, _, _, he⟩
  · simp [he, hw] at h
  · simp [he, hw] at h
  · cases hb : calls.bind with
    | false => simp [he, hb] at h
    | true => simp [he, hb]

/-- `SetAddr` does not make a wrapper listen. -/
theorem setAddr_not_listening {inetAddr : CString → UInt32} {ip : CString} {port : ℤ}
    {calls : SetAddrCalls} {w : Wrapper} {os : Kernel} (hw : w.status = .ORIGINAL) :
    (setAddr inetAddr ip port calls w os).self.status ≠ .LISTENING := by
  rcases setAddr_cases inetAddr ip port calls w os with ⟨_, he⟩ | ⟨_, _, he⟩ | ⟨_, _, _, he⟩
  · simp [he, hw]
  · simp [he, hw]
  · cases hb : calls.bind <;> simp [he, hb]

/-- A wrapper that has begun to listen had an address and got no error. -/
theorem listen_value_of_listening {backlog : ℤ} {ok : Bool} {w : Wrapper} {os : Kernel}
    (hw : w.status ≠ .LISTENING) (h : (listen backlog ok w os).self.status = .LISTENING) :
    w.status = .INITADDR ∧ (listen backlog ok w os).value = 1 := by
  rcases listen_cases backlog ok w os with ⟨_, he⟩ | ⟨hs, _, he⟩ | ⟨hs, _, he⟩
  · rw [he] at h
    exact absurd h hw
  · rw [he] at h
    exact absurd h hw
  · exact ⟨hs, by rw [he]⟩

/-- The parts of a run keep what is known between them. -/
theorem step_opened {setting : Setting} (s : AcceptorRun) (a : RunAction) (next : AcceptorRun)
    (h : Opened s) (hnext : step setting s a = some next) : Opened next := by
  cases a with
  | opening calls ok =>
    obtain ⟨hs, rfl⟩ := step_opening h hnext
    have horiginal := (h.before hs).1
    refine ⟨h.idle, fun hnone => by simp [afterOpening, callSetAddr, callListen] at hnone, ?_⟩
    intro hlistening
    obtain ⟨hinit, hvalue⟩ := listen_value_of_listening
      (setAddr_not_listening horiginal) hlistening
    have hset := setAddr_value_of_initaddr horiginal hinit
    simp only [afterOpening, callListen, callSetAddr] at hvalue hset ⊢
    simp [hvalue, hset, ERROR]
  | round calls =>
    obtain ⟨hs, rfl⟩ := step_round hnext
    refine ⟨rfl, ?_, ?_⟩
    · intro hnone
      exact absurd (h.before hnone).2 hs
    · intro hlistening
      refine h.after ?_
      simpa [afterRound, callAccept, pushClient, accept_self] using hlistening

/-- The copy of the address is the only thing that can spoil the wrapper. -/
theorem intact_afterOpening (setting : Setting) (calls : SetAddrCalls) (ok : Bool)
    {s : AcceptorRun} (hintact : s.thread.acceptor.intact = true) :
    (afterOpening setting calls ok s).thread.acceptor.intact = true ↔
      Guard setting s (.opening calls ok) := by
  have hlisten (w : Wrapper) (os : Kernel) :
      (listen maxListenQueue ok w os).self.intact = w.intact := by
    rcases listen_cases maxListenQueue ok w os with ⟨_, he⟩ | ⟨_, _, he⟩ | ⟨_, _, he⟩
    all_goals rw [he]
  simp only [afterOpening, callListen, callSetAddr, hlisten, Guard]
  rcases setAddr_cases setting.inetAddr setting.config.getListenIP setting.config.getListenPort
    calls s.thread.acceptor s.world.os with ⟨hpass, he⟩ | ⟨_, hfail, he⟩ | ⟨hpass, hfd, hok, he⟩
  · rw [he]
    exact iff_of_true hintact fun h => absurd h hpass
  · rw [he]
    refine iff_of_true hintact fun _ hfd hok => ?_
    rcases hfail with hneg | hfalse
    · omega
    · simp [hok] at hfalse
  · rw [he]
    simp [hintact, hpass, hfd, hok]

/-- What a round pushes is real exactly under its guard. -/
theorem realPush_iff {setting : Setting} {s : AcceptorRun} (h : Opened s)
    (calls : AcceptCalls) :
    RealPush ⟨setting.fd2ConnectionInfo.make
        (accept calls s.thread.acceptor s.world.os).os
        (accept calls s.thread.acceptor s.world.os).value,
      (accept calls s.thread.acceptor s.world.os).os, s.thread.setAddrResult,
      s.thread.listenResult, (accept calls s.thread.acceptor s.world.os).value⟩ ↔
      Guard setting s (.round calls) := by
  constructor
  · intro hreal
    have hvalue := hreal.accepted.1
    simp only [setting.fd2ConnectionInfo.fd_make] at hvalue
    obtain ⟨hs, hfd, hok, _⟩ := accept_value hvalue
    exact ⟨hs, hfd, hok⟩
  · rintro ⟨hs, hfd, hok⟩
    have he := accept_delivers hs hfd hok
    have hvalue : 0 ≤ (accept calls s.thread.acceptor s.world.os).value := by
      rw [he]
      exact hfd
    have hopen := accept_isOpen hvalue
    obtain ⟨hset, hlisten⟩ := h.after hs
    rw [he] at hopen ⊢
    refine ⟨hset, hlisten, ?_, ?_, ?_⟩
    · simp only [ERROR]
      omega
    · simp only [setting.fd2ConnectionInfo.fd_make]
      refine ⟨hfd, s.thread.acceptor.fd, ?_⟩
      rw [acceptOpened, Kernel.fcntl, Kernel.onFile_trace]
      simp [Kernel.accept, acceptFd]
    · simpa only [setting.fd2ConnectionInfo.fd_make] using hopen

/-- Each part keeps the pushes real exactly when it meets its guard. -/
theorem step_onlyReal_iff (setting : Setting) (s : AcceptorRun) (a : RunAction)
    (next : AcceptorRun) (h : Opened s) (hreal : OnlyReal s)
    (hnext : step setting s a = some next) : OnlyReal next ↔ Guard setting s a := by
  obtain ⟨hintact, hpushes⟩ := hreal
  cases a with
  | opening calls ok =>
    obtain ⟨_, rfl⟩ := step_opening h hnext
    rw [← intact_afterOpening setting calls ok hintact]
    exact ⟨And.left, fun hi => ⟨hi, hpushes⟩⟩
  | round calls =>
    obtain ⟨_, rfl⟩ := step_round hnext
    rw [← realPush_iff h calls]
    have hself : (afterRound setting calls s).thread.acceptor.intact = true := by
      simpa [afterRound, callAccept, pushClient, accept_self] using hintact
    constructor
    · rintro ⟨_, hall⟩
      exact hall _ (List.mem_append_right _ (List.mem_singleton_self _))
    · intro hnew
      refine ⟨hself, ?_⟩
      intro p hp
      rcases List.mem_append.mp hp with hp | hp
      · exact hpushes p hp
      · rw [List.mem_singleton.mp hp]
        exact hnew

/-- In every state of a run only real connections have been pushed exactly
when every part of the run meets its guard. -/
theorem only_real_iff_guarded (setting : Setting) (table : ℕ → Option OpenFile)
    (actions : List RunAction) :
    Runs.Always (step setting) OnlyReal (start table) actions ↔
      Runs.Guarded (step setting) (Guard setting) (start table) actions := by
  refine Runs.always_iff_guarded step_opened (step_onlyReal_iff setting) ?_ ⟨rfl, ?_⟩ actions
  · refine ⟨rfl, fun _ => ⟨rfl, rfl⟩, ?_⟩
    simp [start, AcceptorThread.start, Wrapper.new]
  · simp [start]

/-- A configuration that has been read as its document gives it. -/
def exampleSetting : Setting where
  inetAddr _ := 0x0100007f
  fd2ConnectionInfo := .ofFd
  config := { Config.ConfigManager.new with listenAddr := c_str "127.0.0.1", port := 6000 }

/-- `SetAddr` rejects the address for its length, `Listen` and `Accept` refuse,
and the error code of `Accept` is pushed as a connection. -/
theorem error_pushed_as_connection :
    ¬ Runs.Always (step exampleSetting) OnlyReal (start fun _ => none)
      [.opening ⟨some 3, true, true⟩ true, .round ⟨some 4, true⟩] := by
  intro h
  have hend := ((h.2 _ rfl).2 _ rfl).2 _ (List.mem_singleton_self _)
  exact absurd hend.accept (by decide)

end SigIf.RealConnections
