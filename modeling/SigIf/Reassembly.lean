import SigIf.Delivery
import SigIf.Snapshots

/-!
# How the network cuts a stream

The bytes that a connection receives may come in any number of calls of the
read handler, and in any chunks within a call. The connection ends with the
same buffer, and the tasks carry the snapshots of it, one for each call.
-/

namespace SigIf.Reassembly

open Constants Posix Handler Delivery Snapshots

/-- A way to cut a stream into calls, of which there is at least one. A call
may read nothing. -/
structure Cut (stream : Bytes) where
  calls : List ReadCall
  nonempty : calls ≠ []
  whole : bytesRead calls = stream

/-- The calls end, each pushes one task with a snapshot of the buffer, and the
buffer ends with all of the stream after what it held. -/
structure Reassembles (conn : ConnRef) (info : ConnectionInfo) (mem : Memory) (stream : Bytes)
    (calls : List ReadCall) (after : Memory) (pushed : List TaskInfo) : Prop where
  ends : handleReads conn calls mem = some after
  count : pushed.length = calls.length
  onePerCall : ∀ k ≤ calls.length, ∃ between,
    handleReads conn (calls.take k) mem = some between ∧
      between.taskQ = mem.taskQ ++ pushed.take k
  tasks : ∀ task ∈ pushed, task.type = .TCPPACKET ∧ task.conn = conn
  prefixes : List.IsChain (fun task next => task.buffer <+: next.buffer) pushed
  lastTask : pushed.getLast?.map (·.buffer) = some (info.buffer ++ stream)
  connection : after.conns[conn]? = some { info with buffer := info.buffer ++ stream }
  others : ∀ other, other ≠ conn → after.conns[other]? = mem.conns[other]?

/-- The tasks that a sequence of calls pushes. -/
def tasksPushed (conn : ConnRef) (buffer : Bytes) (calls : List ReadCall) : List TaskInfo :=
  (buffersAfter buffer calls).map fun b => ⟨conn, .TCPPACKET, b⟩

/-- The buffers after the calls are the snapshots of a stream in parts. -/
theorem buffersAfter_eq_snapshots (buffer : Bytes) (calls : List ReadCall) :
    buffersAfter buffer calls = snapshots buffer (calls.map ReadCall.bytes) := by
  induction calls generalizing buffer with
  | nil => rfl
  | cons call calls ih =>
    have hrest := ih (buffer ++ call.bytes)
    simp only [buffersAfter, List.map_cons, snapshots, hrest]

theorem bytesRead_eq_flatten (calls : List ReadCall) :
    bytesRead calls = (calls.map ReadCall.bytes).flatten := by
  rw [bytesRead, List.flatMap_def]

theorem tasksPushed_take (conn : ConnRef) (buffer : Bytes) (calls : List ReadCall) (k : ℕ) :
    (tasksPushed conn buffer calls).take k = tasksPushed conn buffer (calls.take k) := by
  rw [tasksPushed, tasksPushed, ← List.map_take, buffersAfter_eq_snapshots, take_snapshots,
    ← List.map_take, ← buffersAfter_eq_snapshots]

/-- What the tasks carry, as for any buffer that grows by parts. -/
theorem tasksPushed_buffers (conn : ConnRef) (buffer : Bytes) (calls : List ReadCall) :
    (tasksPushed conn buffer calls).map (·.buffer) =
      snapshots buffer (calls.map ReadCall.bytes) := by
  rw [tasksPushed, List.map_map, ← buffersAfter_eq_snapshots]
  exact List.map_id' _

/-- Every cut of a stream reassembles it. -/
theorem cut_reassembles {conn : ConnRef} {mem : Memory} {info : ConnectionInfo}
    (hconn : mem.conns[conn]? = some info) {stream : Bytes} (cut : Cut stream) :
    Reassembles conn info mem stream cut.calls
      ⟨mem.conns.set conn { info with buffer := info.buffer ++ stream },
        mem.taskQ ++ tasksPushed conn info.buffer cut.calls⟩
      (tasksPushed conn info.buffer cut.calls) := by
  obtain ⟨calls, hne, rfl⟩ := cut
  obtain ⟨hlt, _⟩ := List.getElem?_eq_some_iff.mp hconn
  have hbuffers := tasksPushed_buffers conn info.buffer calls
  have hparts : calls.map ReadCall.bytes ≠ [] := by simpa using hne
  constructor
  · exact handleReads_spec hconn calls
  · rw [← List.length_map, hbuffers, length_snapshots, List.length_map]
  · intro k _
    refine ⟨_, handleReads_spec hconn (calls.take k), ?_⟩
    rw [tasksPushed_take]
    rfl
  · intro task htask
    obtain ⟨b, _, rfl⟩ := List.mem_map.mp htask
    exact ⟨rfl, rfl⟩
  · rw [← List.isChain_map (R := (· <+: ·)), hbuffers]
    exact isChain_snapshots _ _
  · rw [← List.getLast?_map, hbuffers, getLast?_snapshots _ hparts, bytesRead_eq_flatten]
  · exact List.getElem?_set_self hlt
  · intro other hother
    exact List.getElem?_set_ne hother.symm

/-- Whatever two cuts of a stream, both runs reassemble it, and both leave the
same connections. -/
theorem reassembly_independent_of_cut {conn : ConnRef} {mem : Memory} {info : ConnectionInfo}
    (hconn : mem.conns[conn]? = some info) {stream : Bytes} (first second : Cut stream) :
    ∃ after after' pushed pushed',
      Reassembles conn info mem stream first.calls after pushed ∧
      Reassembles conn info mem stream second.calls after' pushed' ∧
      after.conns = after'.conns :=
  ⟨_, _, _, _, cut_reassembles hconn first, cut_reassembles hconn second, rfl⟩

/-- Two bytes in one call, as one chunk. -/
def inOneCall : Cut [65, 66] where
  calls := [⟨[⟨[65, 66], by simp, by simp [readCapacity]⟩], .error .EAGAIN⟩]
  nonempty := List.cons_ne_nil _ _
  whole := rfl

/-- The same bytes in two calls, with a call that reads nothing between them. -/
def inThreeCalls : Cut [65, 66] where
  calls := [readOne 65, readClose, readOne 66]
  nonempty := List.cons_ne_nil _ _
  whole := rfl

theorem two_bytes_reassembled :
    ∃ after after' pushed pushed',
      Reassembles 0 client oneClient [65, 66] inOneCall.calls after pushed ∧
      Reassembles 0 client oneClient [65, 66] inThreeCalls.calls after' pushed' ∧
      after.conns = after'.conns :=
  reassembly_independent_of_cut oneClient_conns inOneCall inThreeCalls

end SigIf.Reassembly
