import SigIf.Handler

/-!
# What reaches the task queue

The connection's buffer is never emptied, so every task repeats all bytes of
the earlier ones. Lengths decide when that is no repetition: only when no call
but the last one reads anything.
-/

namespace SigIf.Delivery

open Constants Posix Handler

/-- All bytes that a sequence of calls reads. -/
def bytesRead (calls : List ReadCall) : Bytes := calls.flatMap ReadCall.bytes

/-- The bytes handed to the workers for a connection by the tasks that were
pushed between two states of the memory, in push order. -/
def bytesHandedOver (conn : ConnRef) (before after : Memory) : Bytes :=
  ((after.taskQ.drop before.taskQ.length).filter (·.conn = conn)).flatMap (·.buffer)

/-- The calls end, and what they hand over is what they read. -/
def DeliveredExactlyOnce (conn : ConnRef) (mem : Memory) (calls : List ReadCall) : Prop :=
  ∃ mem', handleReads conn calls mem = some mem' ∧
    bytesHandedOver conn mem mem' = bytesRead calls

/-- The calls hand over the buffers that they leave, one after another. -/
theorem bytesHandedOver_handleReads {conn : ConnRef} {mem mem' : Memory} {info : ConnectionInfo}
    (hconn : mem.conns[conn]? = some info) {calls : List ReadCall}
    (h : handleReads conn calls mem = some mem') :
    bytesHandedOver conn mem mem' = (buffersAfter info.buffer calls).flatten := by
  rw [handleReads_spec hconn] at h
  have he := (Option.some.inj h).symm
  have hall : (buffersAfter info.buffer calls).filter (fun _ => true) =
      buffersAfter info.buffer calls := List.filter_eq_self.mpr (by simp)
  simp [bytesHandedOver, he, List.filter_map, Function.comp_def, List.flatMap_map, hall]

/-- At least every byte read is handed over. -/
theorem length_bytesRead_le (buffer : Bytes) (calls : List ReadCall) :
    (bytesRead calls).length ≤ (buffersAfter buffer calls).flatten.length := by
  induction calls generalizing buffer with
  | nil => simp [bytesRead, buffersAfter]
  | cons call calls ih =>
    have hrest := ih (buffer ++ call.bytes)
    simp only [bytesRead, List.flatMap_cons, buffersAfter, List.flatten_cons,
      List.length_append] at hrest ⊢
    omega

/-- The first call hands over all right exactly when there was nothing before
it, and the later ones then start with what it has read. -/
theorem flatten_buffersAfter_cons_iff (buffer : Bytes) (call : ReadCall) (calls : List ReadCall) :
    (buffersAfter buffer (call :: calls)).flatten = bytesRead (call :: calls) ↔
      buffer = [] ∧ (buffersAfter call.bytes calls).flatten = bytesRead calls := by
  have hcons : (buffersAfter buffer (call :: calls)).flatten =
      buffer ++ call.bytes ++ (buffersAfter (buffer ++ call.bytes) calls).flatten := by
    simp [buffersAfter]
  have hread : bytesRead (call :: calls) = call.bytes ++ bytesRead calls := by
    simp [bytesRead]
  rw [hcons, hread]
  constructor
  · intro he
    -- the rest is at least as long as it should be, so nothing was there before
    have hle := length_bytesRead_le (buffer ++ call.bytes) calls
    have hlen := congrArg List.length he
    simp only [List.length_append] at hlen
    have hb : buffer = [] := List.eq_nil_of_length_eq_zero (by omega)
    subst hb
    exact ⟨rfl, by simpa using he⟩
  · rintro ⟨rfl, he⟩
    simpa using he

/-- Nothing is handed over twice exactly when there was nothing before the
calls and no call but the last one reads anything. -/
theorem flatten_buffersAfter_iff (buffer : Bytes) (calls : List ReadCall) :
    (buffersAfter buffer calls).flatten = bytesRead calls ↔
      calls = [] ∨ (buffer = [] ∧ ∀ call ∈ calls.dropLast, call.bytes = []) := by
  induction calls generalizing buffer with
  | nil => simp [bytesRead, buffersAfter]
  | cons call calls ih =>
    rw [flatten_buffersAfter_cons_iff, ih call.bytes]
    cases calls with
    | nil => simp
    | cons next calls => simp [List.dropLast_cons_cons]

/-- The bytes of a connection whose buffer starts empty are handed over
exactly once exactly when no call but the last one reads any. -/
theorem deliveredExactlyOnce_iff {conn : ConnRef} {mem : Memory} {info : ConnectionInfo}
    (hconn : mem.conns[conn]? = some info) (hempty : info.buffer = []) (calls : List ReadCall) :
    DeliveredExactlyOnce conn mem calls ↔ ∀ call ∈ calls.dropLast, call.bytes = [] := by
  have hiff := flatten_buffersAfter_iff info.buffer calls
  constructor
  · rintro ⟨mem', hrun, hbytes⟩
    rw [bytesHandedOver_handleReads hconn hrun] at hbytes
    rcases hiff.mp hbytes with hnil | ⟨_, hquiet⟩
    · simp [hnil]
    · exact hquiet
  · intro hquiet
    refine ⟨_, handleReads_spec hconn calls, ?_⟩
    rw [bytesHandedOver_handleReads hconn (handleReads_spec hconn calls)]
    exact hiff.mpr (Or.inr ⟨hempty, hquiet⟩)

/-- A connection that has not received anything. -/
def client : ConnectionInfo := ⟨.TCP, Vector.replicate 16 0, 40000, 7, .CONNECTED, []⟩

/-- A memory with that connection. -/
def oneClient : Memory := ⟨[client], []⟩

theorem oneClient_conns : oneClient.conns[0]? = some client := rfl

/-- A call that reads one chunk and then nothing more for now. -/
def readOne (byte : UInt8) : ReadCall :=
  ⟨[⟨[byte], by simp, by simp [readCapacity]⟩], .error .EAGAIN⟩

/-- A call that only sees the peer's close. -/
def readClose : ReadCall := ⟨[], .eof⟩

/-- A first empty read and a request after it are handed over once. -/
theorem deliveredExactlyOnce_after_empty_read :
    DeliveredExactlyOnce 0 oneClient [⟨[], .error .EAGAIN⟩, readOne 65] :=
  (deliveredExactlyOnce_iff oneClient_conns rfl _).mpr
    (by simp [ReadCall.bytes])

/-- The request is replayed by the call that only sees the peer's close. -/
theorem request_replayed_on_close :
    ¬ DeliveredExactlyOnce 0 oneClient [readOne 65, readClose] := by
  rintro ⟨mem', hrun, hbytes⟩
  have hover := bytesHandedOver_handleReads oneClient_conns hrun
  rw [hover] at hbytes
  exact absurd hbytes (by decide)

end SigIf.Delivery
