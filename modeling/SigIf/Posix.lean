import Mathlib.Data.Int.Init
import Mathlib.Data.List.TakeWhile
import Mathlib.Logic.Function.Basic

/-!
# Byte streams, C strings and a descriptor table

The part of the operating system that sockets programs see: NUL-terminated
strings, what a read returns, and a descriptor table with the system calls
that change it. A call is given the answer that the environment would like to
produce; an answer that the table does not allow, such as handing out a
descriptor in use or succeeding on one that is not open, turns into a failure.
Every call is recorded with its result, newest first.
-/

namespace SigIf.Posix

/-- A sequence of bytes. -/
abbrev Bytes := List UInt8

/-- A NUL-terminated string, without its terminator. -/
structure CString where
  /-- The bytes before the terminator. -/
  bytes : Bytes
  /-- The terminator is the first NUL byte. -/
  noNul : (0 : UInt8) ∉ bytes
  deriving DecidableEq

/-- The string that a pointer to the given bytes shows: it ends at a NUL. -/
def cString (memory : Bytes) : CString where
  bytes := memory.takeWhile (· ≠ 0)
  noNul h := by simpa using List.mem_takeWhile_imp h

/-- `strlen`. -/
def strlen (s : CString) : ℕ := s.bytes.length

/-- `c_str` of a string: it may show less than the string holds. -/
def c_str (s : String) : CString := cString s.toUTF8.data.toList

/-- `strcmp`: zero exactly on equality. -/
def strcmp (a b : CString) : ℤ :=
  if a = b then 0 else if a.bytes < b.bytes then -1 else 1

theorem strcmp_eq_zero_iff (a b : CString) : strcmp a b = 0 ↔ a = b := by
  unfold strcmp
  split_ifs with he hl
  · simp [he]
  · simp [he]
  · simp [he]

/-- Error numbers that a read distinguishes. -/
inductive Errno where
  | EAGAIN
  | EINTR
  | EBADF
  | other (code : ℕ)
  deriving DecidableEq

/-- What a read with a positive result puts into a buffer of this capacity. -/
structure Chunk (capacity : ℕ) where
  /-- The bytes that were read. -/
  bytes : Bytes
  /-- A positive result. -/
  nonempty : bytes ≠ []
  /-- At most the buffer is filled. -/
  fits : bytes.length ≤ capacity

/-- A read result that is not positive: end of stream, or -1 and an errno. -/
inductive ReadStop where
  | eof
  | error (e : Errno)
  deriving DecidableEq

/-- The result of one read. -/
inductive ReadResult (capacity : ℕ) where
  | chunk (c : Chunk capacity)
  | stop (s : ReadStop)

/-- A port as it goes on the wire, high byte first. -/
structure NetPort where
  high : UInt8
  low : UInt8
  deriving DecidableEq

/-- `htons` of an integer: its low sixteen bits, in network order. -/
def htons (port : ℤ) : NetPort :=
  ⟨UInt8.ofNat (port % 65536 / 256).toNat, UInt8.ofNat (port % 256).toNat⟩

/-- `ntohs`: the integer that a port on the wire stands for. -/
def ntohs (port : NetPort) : ℤ := port.high.toNat * 256 + port.low.toNat

/-- Only sixteen bits of a port reach the wire. -/
theorem ntohs_htons (port : ℤ) : ntohs (htons port) = port % 65536 := by
  have hhigh : (port % 65536 / 256).toNat % 256 = (port % 65536 / 256).toNat := by omega
  have hlow : (port % 256).toNat % 256 = (port % 256).toNat := by omega
  simp only [ntohs, htons, UInt8.toNat_ofNat', Nat.reducePow, hhigh, hlow]
  omega

/-- The fields of `sockaddr_in` that a program fills in. -/
structure SockAddr where
  sin_port : NetPort
  s_addr : UInt32
  deriving DecidableEq

/-- An open file as its descriptor shows it. -/
structure OpenFile where
  /-- The status flag `O_NONBLOCK`. -/
  nonblock : Bool
  /-- The descriptor flag `FD_CLOEXEC`. -/
  cloexec : Bool
  /-- The address of a successful bind. -/
  bound : Option SockAddr
  /-- Whether listen succeeded. -/
  listening : Bool
  deriving DecidableEq

/-- What `socket` and `accept` open: blocking, not bound, not listening. -/
def OpenFile.fresh : OpenFile := ⟨false, false, none, false⟩

/-- The commands of `fcntl` that set flags. -/
inductive FcntlCmd where
  | F_SETFD
  | F_SETFL
  deriving DecidableEq

/-- `O_NONBLOCK`, bit 11. -/
def O_NONBLOCK : ℕ := 2048

/-- One system call with the result it returned. -/
inductive SysCall where
  | socket (result : ℤ)
  | fcntl (fd : ℤ) (cmd : FcntlCmd) (arg : ℕ) (result : ℤ)
  | bind (fd : ℤ) (addr : SockAddr) (result : ℤ)
  | listen (fd : ℤ) (backlog : ℤ) (result : ℤ)
  | accept (fd : ℤ) (result : ℤ)
  | connect (fd : ℤ) (addr : SockAddr) (result : ℤ)
  | close (fd : ℤ) (result : ℤ)
  deriving DecidableEq

/-- A descriptor table and the calls made so far, newest first. -/
structure Kernel where
  table : ℕ → Option OpenFile
  trace : List SysCall

namespace Kernel

/-- The open file behind a descriptor; a negative one is never open. -/
def file (os : Kernel) : ℤ → Option OpenFile
  | .ofNat n => os.table n
  | .negSucc _ => none

/-- Record a call. -/
def log (os : Kernel) (call : SysCall) : Kernel := { os with trace := call :: os.trace }

/-- Replace what is behind a descriptor; a negative one is left alone. -/
def set (os : Kernel) (fd : ℤ) (entry : Option OpenFile) : Kernel :=
  match fd with
  | .ofNat n => { os with table := Function.update os.table n entry }
  | .negSucc _ => os

/-- Hand out the descriptor the environment picks, if it is free. -/
def allocate (os : Kernel) (pick : Option ℕ) : ℤ :=
  match pick with
  | some n => if (os.table n).isNone then n else -1
  | none => -1

/-- `socket(AF_INET, SOCK_STREAM, 0)`. -/
def socket (os : Kernel) (pick : Option ℕ) : ℤ × Kernel :=
  let fd := os.allocate pick
  (fd, (os.set fd (some .fresh)).log (.socket fd))

/-- A call that succeeds only on an open descriptor, and then changes its file. -/
def onFile (os : Kernel) (fd : ℤ) (ok : Bool) (change : OpenFile → OpenFile)
    (call : ℤ → SysCall) : ℤ × Kernel :=
  match os.file fd with
  | some file => if ok then (0, (os.set fd (some (change file))).log (call 0))
      else (-1, os.log (call (-1)))
  | none => (-1, os.log (call (-1)))

/-- `fcntl`: `F_SETFD` sets the descriptor flags only, `F_SETFL` the status flags. -/
def fcntl (os : Kernel) (fd : ℤ) (cmd : FcntlCmd) (arg : ℕ) (ok : Bool) : ℤ × Kernel :=
  os.onFile fd ok
    (fun file => match cmd with
      | .F_SETFD => { file with cloexec := arg.testBit 0 }
      | .F_SETFL => { file with nonblock := arg.testBit 11 })
    (.fcntl fd cmd arg)

/-- `bind`. -/
def bind (os : Kernel) (fd : ℤ) (addr : SockAddr) (ok : Bool) : ℤ × Kernel :=
  os.onFile fd ok (fun file => { file with bound := some addr }) (.bind fd addr)

/-- `listen`. -/
def listen (os : Kernel) (fd backlog : ℤ) (ok : Bool) : ℤ × Kernel :=
  os.onFile fd ok (fun file => { file with listening := true }) (.listen fd backlog)

/-- `connect`: 0 or -1, never a descriptor. -/
def connect (os : Kernel) (fd : ℤ) (addr : SockAddr) (ok : Bool) : ℤ × Kernel :=
  os.onFile fd ok id (.connect fd addr)

/-- `accept` on a listening descriptor hands out a blocking one. -/
def accept (os : Kernel) (fd : ℤ) (pick : Option ℕ) : ℤ × Kernel :=
  let client := if (os.file fd).any (·.listening) then os.allocate pick else -1
  (client, (os.set client (some .fresh)).log (.accept fd client))

/-- `close`. -/
def close (os : Kernel) (fd : ℤ) : Kernel :=
  (os.set fd none).log (.close fd (if (os.file fd).isSome then 0 else -1))

/-- Whether a descriptor is open. -/
def IsOpen (os : Kernel) (fd : ℤ) : Prop := (os.file fd).isSome = true

instance (os : Kernel) (fd : ℤ) : Decidable (os.IsOpen fd) :=
  inferInstanceAs (Decidable (_ = true))

@[simp] theorem file_log (os : Kernel) (call : SysCall) (fd : ℤ) :
    (os.log call).file fd = os.file fd := by cases fd <;> rfl

@[simp] theorem trace_log (os : Kernel) (call : SysCall) :
    (os.log call).trace = call :: os.trace := rfl

@[simp] theorem trace_set (os : Kernel) (fd : ℤ) (entry : Option OpenFile) :
    (os.set fd entry).trace = os.trace := by cases fd <;> rfl

/-- No negative descriptor is open. -/
theorem file_of_neg (os : Kernel) {fd : ℤ} (h : fd < 0) : os.file fd = none := by
  cases fd with
  | ofNat n => simp only [Int.ofNat_eq_natCast] at h; omega
  | negSucc n => rfl

theorem file_set_self (os : Kernel) {fd : ℤ} (h : 0 ≤ fd) (entry : Option OpenFile) :
    (os.set fd entry).file fd = entry := by
  cases fd with
  | ofNat n => simp [set, file]
  | negSucc n => simp only [Int.negSucc_not_nonneg] at h

theorem file_set_of_ne (os : Kernel) {fd other : ℤ} (h : other ≠ fd) (entry : Option OpenFile) :
    (os.set fd entry).file other = os.file other := by
  cases fd with
  | negSucc n => rfl
  | ofNat n =>
    cases other with
    | negSucc m => rfl
    | ofNat m =>
      have hne : m ≠ n := fun he => h (by rw [he])
      simp [set, file, Function.update_of_ne hne]

/-- The table after an entry is replaced. -/
theorem file_set (os : Kernel) (fd other : ℤ) (entry : Option OpenFile) :
    (os.set fd entry).file other = if other = fd ∧ 0 ≤ fd then entry else os.file other := by
  by_cases he : other = fd
  · subst he
    by_cases hn : 0 ≤ other
    · simp [file_set_self os hn, hn]
    · have hneg : other < 0 := by omega
      simp [hn, file_of_neg _ hneg]
  · simp [he, file_set_of_ne os he]

/-- An open descriptor is not negative. -/
theorem IsOpen.nonneg {os : Kernel} {fd : ℤ} (h : os.IsOpen fd) : 0 ≤ fd := by
  by_contra hn
  have hfile := file_of_neg os (show fd < 0 by omega)
  simp [IsOpen, hfile] at h

/-- What is handed out is free, or the call failed with -1. -/
theorem allocate_cases (os : Kernel) (pick : Option ℕ) :
    os.allocate pick = -1 ∨ (0 ≤ os.allocate pick ∧ os.file (os.allocate pick) = none) := by
  cases pick with
  | none => exact Or.inl rfl
  | some n =>
    by_cases hn : (os.table n).isNone = true
    · have he : os.allocate (some n) = (n : ℤ) := by simp [allocate, hn]
      rw [he]
      exact Or.inr ⟨by omega, Option.isNone_iff_eq_none.mp hn⟩
    · exact Or.inl (by simp [allocate, hn])

theorem socket_trace (os : Kernel) (pick : Option ℕ) :
    (os.socket pick).2.trace = .socket (os.socket pick).1 :: os.trace := by
  simp [socket]

/-- `socket` opens what it hands out and nothing else. -/
theorem isOpen_socket (os : Kernel) (pick : Option ℕ) (other : ℤ) :
    (os.socket pick).2.IsOpen other ↔
      os.IsOpen other ∨ (other = (os.socket pick).1 ∧ 0 ≤ other) := by
  simp only [socket, IsOpen, file_log, file_set]
  by_cases he : other = os.allocate pick
  · subst he
    by_cases hn : 0 ≤ os.allocate pick <;> simp [hn]
  · simp [he]

theorem isOpen_socket_self (os : Kernel) (pick : Option ℕ) :
    (os.socket pick).2.IsOpen (os.socket pick).1 ↔ 0 ≤ (os.socket pick).1 := by
  rw [isOpen_socket]
  exact ⟨fun h => h.elim IsOpen.nonneg And.right, fun h => Or.inr ⟨rfl, h⟩⟩

/-- `accept` opens what it hands out. -/
theorem isOpen_accept_self (os : Kernel) (fd : ℤ) (pick : Option ℕ) :
    (os.accept fd pick).2.IsOpen (os.accept fd pick).1 ↔ 0 ≤ (os.accept fd pick).1 := by
  refine ⟨IsOpen.nonneg, ?_⟩
  intro hn
  simp only [accept] at hn ⊢
  rw [IsOpen, file_log, file_set_self _ hn]
  rfl

/-- A call on a file fails exactly when the descriptor is not open or the
environment lets it fail. -/
theorem onFile_neg_iff (os : Kernel) (fd : ℤ) (ok : Bool) (change : OpenFile → OpenFile)
    (call : ℤ → SysCall) :
    (os.onFile fd ok change call).1 < 0 ↔ ¬ os.IsOpen fd ∨ ok = false := by
  cases hf : os.file fd <;> cases ok <;> simp [onFile, IsOpen, hf]

theorem onFile_true (os : Kernel) {fd : ℤ} (h : os.IsOpen fd) (change : OpenFile → OpenFile)
    (call : ℤ → SysCall) : (os.onFile fd true change call).1 = 0 := by
  obtain ⟨file, hf⟩ := Option.isSome_iff_exists.mp h
  simp [onFile, hf]

theorem onFile_false (os : Kernel) (fd : ℤ) (change : OpenFile → OpenFile)
    (call : ℤ → SysCall) : (os.onFile fd false change call).1 = -1 := by
  cases hf : os.file fd <;> simp [onFile, hf]

/-- It is recorded with its result. -/
theorem onFile_trace (os : Kernel) (fd : ℤ) (ok : Bool) (change : OpenFile → OpenFile)
    (call : ℤ → SysCall) :
    (os.onFile fd ok change call).2.trace =
      call (os.onFile fd ok change call).1 :: os.trace := by
  unfold onFile
  cases os.file fd <;> cases ok <;> simp

/-- It changes the file behind its descriptor, and only when it succeeds. -/
theorem onFile_file (os : Kernel) (fd : ℤ) (ok : Bool) (change : OpenFile → OpenFile)
    (call : ℤ → SysCall) (other : ℤ) :
    (os.onFile fd ok change call).2.file other =
      if other = fd ∧ ok = true then (os.file other).map change else os.file other := by
  unfold onFile
  cases hf : os.file fd with
  | none =>
    by_cases he : other = fd
    · simp [he, hf]
    · simp [he]
  | some file =>
    have hopen : os.IsOpen fd := by simp [IsOpen, hf]
    have hn := hopen.nonneg
    by_cases he : other = fd
    · subst he
      cases ok <;> simp [hf, file_set_self os hn]
    · cases ok <;> simp [he, file_set_of_ne os he]

/-- No call on a file opens or closes a descriptor. -/
theorem onFile_isOpen (os : Kernel) (fd : ℤ) (ok : Bool) (change : OpenFile → OpenFile)
    (call : ℤ → SysCall) (other : ℤ) :
    (os.onFile fd ok change call).2.IsOpen other ↔ os.IsOpen other := by
  unfold IsOpen
  rw [onFile_file]
  split <;> simp

/-- After a close the descriptor is free and the others are as they were. -/
theorem close_file (os : Kernel) (fd other : ℤ) :
    (os.close fd).file other = if other = fd then none else os.file other := by
  by_cases he : other = fd
  · subst he
    by_cases hn : 0 ≤ other
    · simp [close, file_set_self os hn]
    · simp [file_of_neg _ (show other < 0 by omega)]
  · simp [close, file_set_of_ne os he, he]

end Kernel

end SigIf.Posix
