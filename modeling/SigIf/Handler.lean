import Mathlib.Data.List.Basic
import SigIf.Constants
import SigIf.Posix

/-!
# Connections, tasks and the read handler

`ConnectionInfo` objects live in a memory that only grows; a shared pointer is
an index into it. The read handler drains a descriptor into the buffer of its
connection and queues a task with a copy of the whole buffer. The task queue
is the list of the tasks pushed to it, oldest first. The handler is declared
to return an integer but has no return statement; its caller ignores it.
-/

namespace SigIf.Handler

open Constants Posix

/-- `ConnectionType`. -/
inductive ConnectionType where
  | TCP
  | UDP
  | SNMP
  deriving DecidableEq

/-- `ConnectionStatus`. -/
inductive ConnectionStatus where
  | CONNECTED
  | DISCONNECTED
  deriving DecidableEq

/-- `ConnectionInfo`. -/
structure ConnectionInfo where
  type : ConnectionType
  ipv4_addr : Vector UInt8 16
  port : ℤ
  fd : ℤ
  status : ConnectionStatus
  buffer : Bytes
  deriving DecidableEq

/-- A shared pointer to a connection. -/
abbrev ConnRef := ℕ

/-- `TaskInfo`. -/
structure TaskInfo where
  conn : ConnRef
  type : TaskType
  buffer : Bytes
  deriving DecidableEq

/-- The connection objects and the queue of tasks. -/
structure Memory where
  conns : List ConnectionInfo
  taskQ : List TaskInfo
  deriving DecidableEq

/-- The capacity of the local array in `HandleRead`. -/
def readCapacity : ℕ := 4096

/-- The loop `while((n = read(conn->fd, buffer, 4096))>0)`: every chunk is
appended to the connection's buffer, anything else stops it. There is no
result while the next read has not returned. -/
def readLoop (buffer : Bytes) :
    List (ReadResult readCapacity) → Option (Bytes × ReadStop × List (ReadResult readCapacity))
  | [] => none
  | .chunk c :: results => readLoop (buffer ++ c.bytes) results
  | .stop s :: results => some (buffer, s, results)

/-- `HandleRead` on the results that its reads will see: the memory after it,
the result that stopped its loop, and the results that it has not consumed. -/
def handleRead (conn : ConnRef) (results : List (ReadResult readCapacity)) (mem : Memory) :
    Option (Memory × ReadStop × List (ReadResult readCapacity)) := do
  let info ← mem.conns[conn]?
  let (buffer, stop, rest) ← readLoop info.buffer results
  let task : TaskInfo := ⟨conn, .TCPPACKET, buffer⟩
  return (⟨mem.conns.set conn { info with buffer := buffer }, mem.taskQ ++ [task]⟩, stop, rest)

/-- `conn->buffer.append(buffer,n)`. -/
def appendChunk (conn : ConnRef) (bytes : Bytes) (mem : Memory) : Memory :=
  { mem with conns :=
      mem.conns.modify conn fun info => { info with buffer := info.buffer ++ bytes } }

/-- Everything after the loop: a task with a copy of the buffer is queued. -/
def pushTask (conn : ConnRef) (mem : Memory) : Memory :=
  { mem with taskQ := mem.taskQ ++
      [⟨conn, .TCPPACKET, (mem.conns[conn]?).elim [] (·.buffer)⟩] }

/-- What the reads of one call see: chunks, and then the end of the loop. -/
structure ReadCall where
  chunks : List (Chunk readCapacity)
  stop : ReadStop

/-- The read results of a call in order. -/
def ReadCall.results (call : ReadCall) : List (ReadResult readCapacity) :=
  call.chunks.map .chunk ++ [.stop call.stop]

/-- All bytes that the call reads. -/
def ReadCall.bytes (call : ReadCall) : Bytes := call.chunks.flatMap (·.bytes)

/-- A sequence of calls on one connection. -/
def handleReads (conn : ConnRef) : List ReadCall → Memory → Option Memory
  | [], mem => some mem
  | call :: calls, mem => do
    let (mem', _, _) ← handleRead conn call.results mem
    handleReads conn calls mem'

/-- The loop consumes exactly the results of its call. -/
theorem readLoop_results (call : ReadCall) (buffer : Bytes) :
    readLoop buffer call.results = some (buffer ++ call.bytes, call.stop, []) := by
  obtain ⟨chunks, stop⟩ := call
  induction chunks generalizing buffer with
  | nil => simp [ReadCall.results, ReadCall.bytes, readLoop]
  | cons c chunks ih =>
    simpa [ReadCall.results, ReadCall.bytes, readLoop] using ih (buffer ++ c.bytes)

/-- One call: the connection's buffer grows by the bytes read, and one task
with all of it is queued. -/
theorem handleRead_results {conn : ConnRef} {mem : Memory} {info : ConnectionInfo}
    (h : mem.conns[conn]? = some info) (call : ReadCall) :
    handleRead conn call.results mem =
      some (⟨mem.conns.set conn { info with buffer := info.buffer ++ call.bytes },
        mem.taskQ ++ [⟨conn, .TCPPACKET, info.buffer ++ call.bytes⟩]⟩, call.stop, []) := by
  simp [handleRead, h, readLoop_results]

/-- Storing an object unchanged does nothing. -/
theorem set_conn_self {conn : ConnRef} {mem : Memory} {info : ConnectionInfo}
    (h : mem.conns[conn]? = some info) : mem.conns.set conn info = mem.conns := by
  obtain ⟨hlt, hget⟩ := List.getElem?_eq_some_iff.mp h
  rw [← hget, List.set_getElem_self]

/-- A chunk changes the buffer of the one connection. -/
theorem appendChunk_eq {conn : ConnRef} {mem : Memory} {info : ConnectionInfo}
    (h : mem.conns[conn]? = some info) (bytes : Bytes) :
    appendChunk conn bytes mem =
      ⟨mem.conns.set conn { info with buffer := info.buffer ++ bytes }, mem.taskQ⟩ := by
  simp [appendChunk, List.modify_eq_set_getElem?, h]

/-- The same call step by step, as the other threads may see it. -/
theorem handleRead_steps {conn : ConnRef} {mem : Memory} {info : ConnectionInfo}
    (h : mem.conns[conn]? = some info) (call : ReadCall) :
    handleRead conn call.results mem =
      some (pushTask conn (call.chunks.foldl (fun mem c => appendChunk conn c.bytes mem) mem),
        call.stop, []) := by
  rw [handleRead_results h]
  obtain ⟨chunks, stop⟩ := call
  induction chunks generalizing mem info with
  | nil => simp [ReadCall.bytes, pushTask, h, set_conn_self h]
  | cons c chunks ih =>
    obtain ⟨hlt, _⟩ := List.getElem?_eq_some_iff.mp h
    have hchunk : (appendChunk conn c.bytes mem).conns[conn]? =
        some { info with buffer := info.buffer ++ c.bytes } := by
      rw [appendChunk_eq h]
      exact List.getElem?_set_self hlt
    have hnext := ih hchunk
    rw [List.foldl_cons, ← hnext, appendChunk_eq h]
    simp [ReadCall.bytes]

/-- The buffers that a sequence of calls leaves, one after each call. -/
def buffersAfter (buffer : Bytes) : List ReadCall → List Bytes
  | [] => []
  | call :: calls => (buffer ++ call.bytes) :: buffersAfter (buffer ++ call.bytes) calls

/-- A sequence of calls always ends, and it queues one task a call, each with
everything that the connection has received so far. -/
theorem handleReads_spec {conn : ConnRef} {mem : Memory} {info : ConnectionInfo}
    (h : mem.conns[conn]? = some info) (calls : List ReadCall) :
    handleReads conn calls mem =
      some ⟨mem.conns.set conn
          { info with buffer := info.buffer ++ calls.flatMap ReadCall.bytes },
        mem.taskQ ++ (buffersAfter info.buffer calls).map fun b => ⟨conn, .TCPPACKET, b⟩⟩ := by
  induction calls generalizing mem info with
  | nil => simp [handleReads, buffersAfter, set_conn_self h]
  | cons call calls ih =>
    obtain ⟨hlt, _⟩ := List.getElem?_eq_some_iff.mp h
    have hcall : (⟨mem.conns.set conn { info with buffer := info.buffer ++ call.bytes },
        mem.taskQ ++ [⟨conn, .TCPPACKET, info.buffer ++ call.bytes⟩]⟩ : Memory).conns[conn]? =
        some { info with buffer := info.buffer ++ call.bytes } := List.getElem?_set_self hlt
    have hnext := ih hcall
    simp [handleReads, handleRead_results h, hnext, buffersAfter]

end SigIf.Handler
