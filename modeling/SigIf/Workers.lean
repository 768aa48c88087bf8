import Mathlib.Data.List.Nodup
import Mathlib.Data.List.Perm.Subperm
import SigIf.JsonValue
import SigIf.Leader
import SigIf.Handler
import SigIf.Runs

/-!
# The workers and their tasks

The workers pop tasks from one queue and handle them. `TaskQ` has no body; it
is taken to be first in, first out, with a `Pop` that blocks while it is empty.
`GetOneTask` has none either and is a parameter, and `HandleRqs` is taken to
return. What decides is the text of the worker: it has no loop, so each worker
serves one task and returns.
-/

namespace SigIf.Workers

open JsonValue Posix Handler

/-- A task by its place in the order of the pushes. -/
abbrev TaskRef := ℕ

/-- Where a worker is. -/
inductive WorkerAt where
  | Pop
  | HandleRqs (task : TaskRef)
  | returned
  deriving DecidableEq

/-- The worker has not popped its task yet. -/
def WorkerAt.waits : WorkerAt → Bool
  | .Pop => true
  | .HandleRqs _ => false
  | .returned => false

/-- The worker has not come to its end. -/
def WorkerAt.works : WorkerAt → Bool
  | .Pop => true
  | .HandleRqs _ => true
  | .returned => false

/-- The queue, the workers, and what has happened to the tasks. -/
structure Pool where
  /-- How many tasks have been pushed. -/
  pushed : ℕ
  taskQ : List TaskRef
  workers : List WorkerAt
  /-- The results of `Pop`, oldest first, each with the worker that got it. -/
  popped : List (ℕ × TaskRef)
  /-- The tasks whose requests were passed to `HandleRqs`, and the requests. -/
  handled : List (TaskRef × Json)

/-- The next task is pushed, or a worker takes its next step. -/
inductive PoolAction where
  | push
  | work (work_id : ℕ)

/-- `TaskQ::Push`. -/
def push (tasks : List TaskInfo) (s : Pool) : Option Pool :=
  if s.pushed < tasks.length then
    some { s with pushed := s.pushed + 1, taskQ := s.taskQ ++ [s.pushed] }
  else none

/-- The next statement of `Worker`: it pops, it handles what it has popped, and
then it has come to its end. -/
def worker (getOneTask : Bytes → Json) (tasks : List TaskInfo) (work_id : ℕ) (s : Pool) :
    Option Pool :=
  match s.workers[work_id]? with
  | some .Pop =>
    match s.taskQ with
    | [] => none
    | task :: rest => some { s with
        taskQ := rest
        workers := s.workers.set work_id (.HandleRqs task)
        popped := s.popped ++ [(work_id, task)] }
  | some (.HandleRqs task) =>
    (tasks[task]?).map fun info => { s with
      workers := s.workers.set work_id .returned
      handled := s.handled ++ [(task, getOneTask info.buffer)] }
  | some .returned => none
  | none => none

/-- One step of the pool. -/
def step (getOneTask : Bytes → Json) (tasks : List TaskInfo) (s : Pool) :
    PoolAction → Option Pool
  | .push => push tasks s
  | .work work_id => worker getOneTask tasks work_id s

/-- That many workers, and nothing pushed yet. -/
def start (workers : ℕ) : Pool := ⟨0, [], List.replicate workers .Pop, [], []⟩

/-- The pool of the workers among the threads that were started. -/
def startedBy (threads : List Leader.Thread) : Pool :=
  start (threads.countP fun | .Worker _ => true | _ => false)

/-- All pushes are done and no worker can take a step. -/
def Idle (getOneTask : Bytes → Json) (tasks : List TaskInfo) (s : Pool) : Prop :=
  s.pushed = tasks.length ∧ ∀ work_id, worker getOneTask tasks work_id s = none

/-- No task has been popped twice, and once the pool is idle every task has been
popped and its request passed on. -/
def Served (getOneTask : Bytes → Json) (tasks : List TaskInfo) (s : Pool) : Prop :=
  (s.popped.map (·.2)).Nodup ∧
    (Idle getOneTask tasks s → ∀ task info, tasks[task]? = some info →
      task ∈ s.popped.map (·.2) ∧ (task, getOneTask info.buffer) ∈ s.handled)

/-- What every step keeps: the tasks popped and those in the queue are the tasks
pushed, in order; each worker that is past its `Pop` has popped one; and each
task popped has been handled or its worker is about to. -/
structure Accounted (getOneTask : Bytes → Json) (tasks : List TaskInfo) (workers : ℕ) (s : Pool) :
    Prop where
  order : s.popped.map (·.2) ++ s.taskQ = List.range s.pushed
  pushed : s.pushed ≤ tasks.length
  once : s.popped.length + s.workers.countP WorkerAt.waits = workers
  held : ∀ task ∈ s.popped.map (·.2), (∃ work_id : ℕ, s.workers[work_id]? = some (.HandleRqs task)) ∨
    ∃ info, tasks[task]? = some info ∧ (task, getOneTask info.buffer) ∈ s.handled

/-- A push is the next one of the sequence. -/
theorem push_cases {tasks : List TaskInfo} {s next : Pool} (h : push tasks s = some next) :
    s.pushed < tasks.length ∧
      next = { s with pushed := s.pushed + 1, taskQ := s.taskQ ++ [s.pushed] } := by
  simp only [push, Option.ite_none_right_eq_some, Option.some.injEq] at h
  exact ⟨h.1, h.2.symm⟩

/-- All that a worker can do. -/
theorem worker_cases {getOneTask : Bytes → Json} {tasks : List TaskInfo} {work_id : ℕ}
    {s next : Pool} (h : worker getOneTask tasks work_id s = some next) :
    (∃ task rest, s.workers[work_id]? = some .Pop ∧ s.taskQ = task :: rest ∧
      next = { s with
        taskQ := rest
        workers := s.workers.set work_id (.HandleRqs task)
        popped := s.popped ++ [(work_id, task)] }) ∨
    ∃ task info, s.workers[work_id]? = some (.HandleRqs task) ∧ tasks[task]? = some info ∧
      next = { s with
        workers := s.workers.set work_id .returned
        handled := s.handled ++ [(task, getOneTask info.buffer)] } := by
  unfold worker at h
  cases hw : s.workers[work_id]? with
  | none => simp [hw] at h
  | some place =>
    cases place with
    | Pop =>
      cases hq : s.taskQ with
      | nil => simp [hw, hq] at h
      | cons task rest =>
        simp only [hw, hq] at h
        exact Or.inl ⟨task, rest, rfl, rfl, (Option.some.inj h).symm⟩
    | HandleRqs task =>
      simp only [hw] at h
      obtain ⟨info, hinfo, rfl⟩ := Option.map_eq_some_iff.mp h
      exact Or.inr ⟨task, info, rfl, hinfo, rfl⟩
    | returned => simp [hw] at h

/-- Replacing one worker's place changes a count by that place only. -/
theorem countP_set_add {workers : List WorkerAt} {work_id : ℕ} {old : WorkerAt}
    (h : workers[work_id]? = some old) (p : WorkerAt → Bool) (new : WorkerAt) :
    (workers.set work_id new).countP p + (if p old then 1 else 0) =
      workers.countP p + if p new then 1 else 0 := by
  obtain ⟨hlt, rfl⟩ := List.getElem?_eq_some_iff.mp h
  rw [List.countP_set hlt]
  by_cases hp : p workers[work_id] = true
  · have hcounted : 0 < workers.countP p :=
      List.countP_pos_iff.mpr ⟨_, List.getElem_mem hlt, hp⟩
    simp only [if_pos hp]
    omega
  · simp only [if_neg hp]
    omega

/-- The work left: the tasks to push, the pops and the requests to handle. -/
def workLeft (tasks : List TaskInfo) (s : Pool) : ℕ :=
  (tasks.length - s.pushed) + s.workers.countP WorkerAt.waits + s.workers.countP WorkerAt.works

theorem workLeft_step {getOneTask : Bytes → Json} {tasks : List TaskInfo} (s : Pool)
    (a : PoolAction) (next : Pool) (h : step getOneTask tasks s a = some next) :
    workLeft tasks next < workLeft tasks s := by
  cases a with
  | push =>
    obtain ⟨hlt, rfl⟩ := push_cases h
    simp only [workLeft]
    omega
  | work work_id =>
    rcases worker_cases h with ⟨task, rest, hw, _, rfl⟩ | ⟨task, info, hw, _, rfl⟩
    · have hpop := countP_set_add hw WorkerAt.waits (.HandleRqs task)
      have hworks := countP_set_add hw WorkerAt.works (.HandleRqs task)
      simp only [WorkerAt.waits, WorkerAt.works, if_true, Bool.false_eq_true, if_false] at hpop hworks
      simp only [workLeft]
      omega
    · have hpop := countP_set_add hw WorkerAt.waits .returned
      have hworks := countP_set_add hw WorkerAt.works .returned
      simp only [WorkerAt.waits, WorkerAt.works, if_true, Bool.false_eq_true, if_false] at hpop hworks
      simp only [workLeft]
      omega

/-- A worker that has popped its task is still known after another has moved. -/
theorem holds_set {workers : List WorkerAt} {moved : ℕ} {old new : WorkerAt} {task : TaskRef}
    (hold : workers[moved]? = some old) (hother : old ≠ .HandleRqs task)
    (h : ∃ work_id : ℕ, workers[work_id]? = some (.HandleRqs task)) :
    ∃ work_id : ℕ, (workers.set moved new)[work_id]? = some (.HandleRqs task) := by
  obtain ⟨work_id, hw⟩ := h
  have hne : moved ≠ work_id := by
    rintro rfl
    exact hother (Option.some.inj (hold.symm.trans hw))
  exact ⟨work_id, by rw [List.getElem?_set_ne hne]; exact hw⟩

/-- The leader starts the pool of as many workers as are configured. -/
theorem startedBy_leader {config : Config.ConfigManager}
    (h : config.getWorkerNumber.toNat ≤ Leader.workerSlots) :
    startedBy (Programs.exec (Leader.leader config) Leader.start).2.started =
      start config.getWorkerNumber.toNat := by
  have hworkers (number : ℕ) : (Leader.workersFrom 0 number).countP
      (fun | .Worker _ => true | _ => false) = number := by
    simp [Leader.workersFrom, List.countP_map, Function.comp_def]
  have hkeepers (info : Config.Machine) : (Leader.keepersOf info).countP
      (fun | .Worker _ => true | _ => false) = 0 := by
    rw [List.countP_eq_zero]
    intro thread hthread
    obtain ⟨type, rfl, _⟩ := (Leader.mem_keepersOf info thread).mp hthread
    simp
  rw [Leader.leader_within h, startedBy]
  congr 1
  simp only [Leader.threadsOf, List.countP_append, hworkers, hkeepers]
  simp

theorem start_accounted (getOneTask : Bytes → Json) (tasks : List TaskInfo) (workers : ℕ) :
    Accounted getOneTask tasks workers (start workers) := by
  refine ⟨rfl, Nat.zero_le _, ?_, by simp [start]⟩
  simp [start, List.countP_replicate, WorkerAt.waits]

section

variable {getOneTask : Bytes → Json} {tasks : List TaskInfo} {workers work_id : ℕ} {s : Pool}
  {task : TaskRef} (h : Accounted getOneTask tasks workers s)

include h

/-- A pushed task goes to the end of the queue. -/
theorem Accounted.push (hlt : s.pushed < tasks.length) :
    Accounted getOneTask tasks workers
      { s with pushed := s.pushed + 1, taskQ := s.taskQ ++ [s.pushed] } := by
  refine ⟨?_, hlt, h.once, h.held⟩
  rw [List.range_succ, ← h.order, List.append_assoc]

/-- A popped task passes from the queue to its worker. -/
theorem Accounted.pop {rest : List TaskRef} (hw : s.workers[work_id]? = some .Pop)
    (hq : s.taskQ = task :: rest) :
    Accounted getOneTask tasks workers { s with
      taskQ := rest
      workers := s.workers.set work_id (.HandleRqs task)
      popped := s.popped ++ [(work_id, task)] } := by
  have hcount := countP_set_add hw WorkerAt.waits (.HandleRqs task)
  simp only [WorkerAt.waits, if_true, Bool.false_eq_true, if_false] at hcount
  obtain ⟨hlt, _⟩ := List.getElem?_eq_some_iff.mp hw
  refine ⟨?_, h.pushed, ?_, ?_⟩
  · rw [← h.order, hq]
    simp
  · have honce := h.once
    simp only [List.length_append, List.length_singleton]
    omega
  · intro other hother
    rw [List.map_append, List.mem_append] at hother
    rcases hother with hold | hnew
    · exact (h.held other hold).imp_left (holds_set hw (by simp))
    · obtain rfl : other = task := by simpa using hnew
      exact Or.inl ⟨work_id, List.getElem?_set_self hlt⟩

/-- A worker is done with the task whose request it has passed on. -/
theorem Accounted.handle {info : TaskInfo} (hw : s.workers[work_id]? = some (.HandleRqs task))
    (hinfo : tasks[task]? = some info) :
    Accounted getOneTask tasks workers { s with
      workers := s.workers.set work_id .returned
      handled := s.handled ++ [(task, getOneTask info.buffer)] } := by
  have hcount := countP_set_add hw WorkerAt.waits .returned
  simp only [WorkerAt.waits, Bool.false_eq_true, if_false] at hcount
  refine ⟨h.order, h.pushed, ?_, ?_⟩
  · have honce := h.once
    simp only
    omega
  · intro other hother
    by_cases hsame : other = task
    · subst hsame
      exact Or.inr ⟨info, hinfo, List.mem_append_right _ (List.mem_singleton_self _)⟩
    · refine (h.held other hother).imp (holds_set hw ?_) ?_
      · intro he
        exact hsame (WorkerAt.HandleRqs.inj he).symm
      · rintro ⟨info', hinfo', hmem⟩
        exact ⟨info', hinfo', List.mem_append_left _ hmem⟩

end

/-- Every step keeps the account. -/
theorem step_accounted {getOneTask : Bytes → Json} {tasks : List TaskInfo} {workers : ℕ}
    (s : Pool) (a : PoolAction) (next : Pool) (h : Accounted getOneTask tasks workers s)
    (hnext : step getOneTask tasks s a = some next) :
    Accounted getOneTask tasks workers next := by
  cases a with
  | push =>
    obtain ⟨hlt, rfl⟩ := push_cases hnext
    exact h.push hlt
  | work work_id =>
    rcases worker_cases hnext with ⟨task, rest, hw, hq, rfl⟩ | ⟨task, info, hw, hinfo, rfl⟩
    · exact h.pop hw hq
    · exact h.handle hw hinfo

/-- No task is popped twice. -/
theorem Accounted.nodup {getOneTask : Bytes → Json} {tasks : List TaskInfo} {workers : ℕ}
    {s : Pool} (h : Accounted getOneTask tasks workers s) : (s.popped.map (·.2)).Nodup := by
  have hrange := List.nodup_range (n := s.pushed)
  rw [← h.order] at hrange
  exact (List.nodup_append.mp hrange).1

/-- In an idle pool every task that was popped has been handled. -/
theorem Accounted.handled_of_idle {getOneTask : Bytes → Json} {tasks : List TaskInfo}
    {workers : ℕ} {s : Pool} (h : Accounted getOneTask tasks workers s)
    (hidle : Idle getOneTask tasks s) {task : TaskRef} (htask : task ∈ s.popped.map (·.2)) :
    ∃ info, tasks[task]? = some info ∧ (task, getOneTask info.buffer) ∈ s.handled := by
  rcases h.held task htask with ⟨work_id, hw⟩ | hhandled
  · -- its worker could go on
    have hlt : task < s.pushed := by
      rw [← List.mem_range, ← h.order]
      exact List.mem_append_left _ htask
    have hinfo := List.getElem?_eq_getElem (hlt.trans_le h.pushed)
    have hstuck := hidle.2 work_id
    simp [worker, hw, hinfo] at hstuck
  · exact hhandled

/-- In an idle pool with enough workers the queue is empty: as long as a task is
in it there is a worker that waits for it. -/
theorem Accounted.taskQ_of_idle {getOneTask : Bytes → Json} {tasks : List TaskInfo}
    {workers : ℕ} {s : Pool} (h : Accounted getOneTask tasks workers s)
    (hidle : Idle getOneTask tasks s) (hmany : tasks.length ≤ workers) : s.taskQ = [] := by
  cases hq : s.taskQ with
  | nil => rfl
  | cons first rest =>
    have hlength := congrArg List.length h.order
    have honce := h.once
    have hall := hidle.1
    simp only [hq, List.length_append, List.length_map, List.length_cons,
      List.length_range] at hlength
    obtain ⟨place, hmem, hwaits⟩ :=
      List.countP_pos_iff.mp (show 0 < s.workers.countP WorkerAt.waits by omega)
    obtain ⟨work_id, hlt, hw⟩ := List.mem_iff_getElem.mp hmem
    have hpop : s.workers[work_id]? = some .Pop := by
      rw [List.getElem?_eq_getElem hlt, hw]
      cases place <;> simp [WorkerAt.waits] at hwaits ⊢
    have hstuck := hidle.2 work_id
    simp [worker, hpop, hq] at hstuck

/-- So every task has been popped. -/
theorem Accounted.popped_of_idle {getOneTask : Bytes → Json} {tasks : List TaskInfo}
    {workers : ℕ} {s : Pool} (h : Accounted getOneTask tasks workers s)
    (hidle : Idle getOneTask tasks s) (hmany : tasks.length ≤ workers) {task : TaskRef}
    (htask : task < tasks.length) : task ∈ s.popped.map (·.2) := by
  have hrange := h.order
  rw [h.taskQ_of_idle hidle hmany, List.append_nil, hidle.1] at hrange
  rw [hrange]
  exact List.mem_range.mpr htask

/-- With enough workers every state of every run is right. -/
theorem Accounted.served {getOneTask : Bytes → Json} {tasks : List TaskInfo} {workers : ℕ}
    {s : Pool} (h : Accounted getOneTask tasks workers s) (hmany : tasks.length ≤ workers) :
    Served getOneTask tasks s := by
  refine ⟨h.nodup, ?_⟩
  intro hidle task info hinfo
  obtain ⟨hlt, _⟩ := List.getElem?_eq_some_iff.mp hinfo
  have hpopped := h.popped_of_idle hidle hmany hlt
  obtain ⟨info', hinfo', hhandled⟩ := h.handled_of_idle hidle hpopped
  obtain rfl := Option.some.inj (hinfo.symm.trans hinfo')
  exact ⟨hpopped, hhandled⟩

/-- An idle pool in which every task has been popped had a worker for each. -/
theorem Accounted.length_le_of_served {getOneTask : Bytes → Json} {tasks : List TaskInfo}
    {workers : ℕ} {s : Pool} (h : Accounted getOneTask tasks workers s)
    (hidle : Idle getOneTask tasks s) (hserved : Served getOneTask tasks s) :
    tasks.length ≤ workers := by
  have hsubset : List.range tasks.length ⊆ s.popped.map (·.2) := by
    intro task htask
    have hinfo := List.getElem?_eq_getElem (List.mem_range.mp htask)
    exact (hserved.2 hidle task _ hinfo).1
  have hlength := (List.subperm_of_subset List.nodup_range hsubset).length_le
  have honce := h.once
  simp only [List.length_range, List.length_map] at hlength
  omega

/-- Every pushed task is handled, in every run, exactly when there are no more
tasks than workers. -/
theorem all_tasks_served_iff (getOneTask : Bytes → Json) (tasks : List TaskInfo) (workers : ℕ) :
    (∀ actions, Runs.Always (step getOneTask tasks) (Served getOneTask tasks) (start workers)
      actions) ↔ tasks.length ≤ workers := by
  have haccounted (actions : List PoolAction) :
      Runs.Always (step getOneTask tasks) (Accounted getOneTask tasks workers) (start workers)
        actions :=
    Runs.always_of_invariant step_accounted (start_accounted getOneTask tasks workers) actions
  constructor
  · intro hserved
    -- some run leaves no step to take, and its last state tells
    obtain ⟨actions, last, hrun, hquiet⟩ :=
      Runs.exists_run_to_quiet (workLeft tasks) workLeft_step (start workers)
    have hlast := (haccounted actions).last hrun
    have hpushed : last.pushed = tasks.length := by
      have hstuck := hquiet .push
      have hbound := hlast.pushed
      simp only [step, push, ite_eq_right_iff, reduceCtorEq, imp_false] at hstuck
      omega
    exact hlast.length_le_of_served ⟨hpushed, fun work_id => hquiet (.work work_id)⟩
      ((hserved actions).last hrun)
  · intro hmany actions
    exact (haccounted actions).imp fun s h => h.served hmany

/-- A task with an empty buffer. -/
def exampleTask : TaskInfo := ⟨0, .TCPPACKET, []⟩

/-- One worker and two tasks: it handles the first one and returns, and the
second one stays in the queue. -/
theorem second_task_stranded :
    ¬ ∀ actions, Runs.Always (step (fun _ => .null) [exampleTask, exampleTask])
      (Served (fun _ => .null) [exampleTask, exampleTask]) (start 1) actions := by
  intro h
  let stuck : Pool := ⟨2, [1], [.returned], [(0, 0)], [(0, .null)]⟩
  have hrun : Runs.run (step (fun _ => .null) [exampleTask, exampleTask]) (start 1)
      [.push, .push, .work 0, .work 0] = some stuck := rfl
  have hidle : Idle (fun _ => .null) [exampleTask, exampleTask] stuck := by
    refine ⟨rfl, ?_⟩
    intro work_id
    cases work_id with
    | zero => rfl
    | succ n => rfl
  have hpopped := (((h _).last hrun).2 hidle 1 exampleTask rfl).1
  exact absurd hpopped (by decide)

end SigIf.Workers
