import SigIf.JsonValue
import SigIf.Constants

/-!
# Validation and dispatch of a request document

The two functions that read a request, statement by statement over the
inserting index operator. Every branch of the data check is one of two
shapes: tests of integer fields of the data object, or a test of one array
field and a lambda run over its elements. The functions can end by returning,
by an exception, or by flowing off their end, which gives no verdict.
-/

namespace SigIf.Request

open Programs JsonValue Constants

/-- How a call ends when it does not throw. Flowing off the end records the
branch of the else-if chain that was run, if any. -/
inductive Exit where
  | returned (verdict : Bool)
  | noVerdict (branch : Option IfType)
  deriving DecidableEq

/-- `std::string::compare` against a literal: zero exactly on equality. -/
def stringCompare (s literal : String) : ℤ :=
  if s = literal then 0 else if s < literal then -1 else 1

/-- What one branch of the data check tests. -/
inductive FieldTests where
  | integers (fields : List String)
  | arrayOf (field : String) (elementFields : List String)
  deriving DecidableEq

/-- The tests of the branch labelled with each constant, with the field names
as the source spells them. -/
def fieldTests : IfType → FieldTests
  | .ActionTable => .integers ["action_id", "plan_id"]
  | .CharacterParameterVersion => .integers ["version"]
  | .Detector => .arrayOf "content"
      ["id", "option", "open_phase", "close_phase", "delay_time", "delay", "queue_limit",
        "no_reponse", "max_exist", "error_count", "failure_time", "warning", "warning_log",
        "reset"]
  | .FailureConfig => .arrayOf "config" ["id", "mode", "operation", "operation_value"]
  | .Failure => .arrayOf "failure" ["type", "timestamp", "content"]
  | .FollowPhaseTable => .arrayOf "table"
      ["id", "type", "father_phase", "correct_phase", "green_time", "yellow_time", "red_time",
        "green_flash"]
  | .IdentificationCode => .integers []
  | .LightStatus => .arrayOf "light_group" ["status"]
  | .PedestrianDetector => .arrayOf "content"
      ["detector_id", "trigger_phase", "no_response", "max_trigger_time", "error_count",
        "warning"]
  | .Phase => .arrayOf "status"
      ["phase_id", "pedastrain_pass", "pedastrain_clear", "min_green", "lag_green",
        "max_green_1", "max_green_2", "yellow_transition", "red_clear", "protection",
        "inc_init", "inc_max", "dec_previous_time", "dec_previous_traffic", "dec_time",
        "dec_rate", "min_interval", "dynamic_max", "dynamic_step", "initial_para", "loop_id",
        "cocurrency_phase"]
  | .PhaseSequenceTable => .arrayOf "phasesequence" ["table_number", "loop_number"]
  | .PriorityConfig => .arrayOf "config"
      ["control_interface", "link", "delay", "min_existence", "min_green", "motor_linger",
        "pedastrain_linger", "pass_time", "min_interval", "max_continue", "track_phase",
        "motor_linger_phase", "pedastrain_linger_phase", "exit_phase", "priority_status"]
  | .RemoteControl => .integers ["control_type"]
  | .Schedule => .arrayOf "plan"
      ["plan_id", "month_data", "week_data", "day_data", "time_schedule_number"]
  | .SchemaTable => .arrayOf "schema"
      ["cycle_length", "phase_difference", "green_sig_rate_table_id", "phase_sequence_id"]
  | .SemaphoreGroup => .arrayOf "group"
      ["group_number", "control_type", "control_number", "flash", "brightness", "location_x",
        "location_y", "timer_number"]
  | .Time => .integers ["timestamp"]
  | .TimeTable => .arrayOf "table"
      ["time_table_id", "time_segment_id", "time_segment_begin_hour",
        "time_segment_begin_minu", "action_id", "failure_plan_id"]
  | .TimingScheme => .arrayOf "scheme" ["time_id", "phase", "time_len", "mode", "mode"]
  | .TrafficInfo => .arrayOf "detector"
      ["detector_id", "detect_interval", "flow_data", "occupation"]
  | .UnitParameter => .integers
      ["boot_yellow", "boot_red", "gps_sync_time", "dec_time", "speed_factor",
        "communication_overtime", "flash_frequence", "cross_street_time_lag",
        "cross_reverse_street_time_lag", "transition_cycle", "data_flow_collect_interval",
        "data_flow_interval_unit", "min_red", "pedastrain_auto_clear"]
  | .Version => .integers ["version"]
  | .WorkMode => .integers
      ["constant_cycle", "reaction", "mannual", "off", "yellow_flash", "phase_lock",
        "certain_phase"]
  | .WorkStatus => .integers
      ["is_auto", "workmode", "plan_number", "scheme", "green_signal_number"]

/-- `j[field].is_null()||!j[field].is_kind()`, the shape of every field test. -/
def notKind (kind : Json → Bool) (path : List String) : Access Bool :=
  test Json.isNull path <||> (return !(← test kind path))

/-- A field test reads once along its path, as far as anyone can tell. -/
theorem exec_notKind (kind : Json → Bool) (hkind : kind .null = false) (path : List String)
    (doc : Json) :
    exec (notKind kind path) doc = ((fetch path doc).map fun v => !kind v, touch path doc) := by
  have hagain : fetch path (touch path doc) = fetch path doc := fetch_touch (by simp) doc
  cases hf : fetch path doc with
  | error e => simp [notKind, exec_orM, exec_test, hf, Except.map]
  | ok v =>
    cases v with
    | null => simp [notKind, exec_orM, exec_test, hf, Except.map, Json.isNull, hkind]
    | _ => simp [notKind, exec_orM, exec_test, hagain, hf, Except.map, Json.isNull, touch_touch]

/-- The field tests in source order; the first field that is not an integer
makes the enclosing function or lambda return false. -/
def rejectsFields : List String → Access Bool
  | [] => return false
  | field :: rest => do
    if ← notKind Json.isNumberInteger [field] then return true
    rejectsFields rest

/-- On an object they find nothing exactly if every field holds an integer. -/
theorem rejectsFields_eq_false_iff (fields : List String) (members : List (String × Json)) :
    (exec (rejectsFields fields) (.object members)).1 = .ok false ↔ HasIntegers fields members := by
  induction fields generalizing members with
  | nil => simp [rejectsFields, HasIntegers]
  | cons field rest ih =>
    have hread : fetch [field] (.object members) = .ok ((find field members).getD .null) := by
      simp [fetch]
    simp only [rejectsFields, exec_bind, exec_notKind Json.isNumberInteger rfl, hread, Except.map]
    cases hf : find field members with
    | none => simp [HasIntegers, hf, Json.isNumberInteger]
    | some v =>
      cases v with
      | integer n =>
        refine (ih _).trans ?_
        simp [HasIntegers, hf, find_integer_adjust]
      | _ => simp [HasIntegers, hf, Json.isNumberInteger]

/-- The lambda given to `std::for_each`: it returns false on the first bad
field, and flows off its end when there is none. -/
def elementLambda (elementFields : List String) : Access (Option Bool) := do
  if ← rejectsFields elementFields then return some false
  return none

/-- On an object it comes to its end exactly if every field holds an integer. -/
theorem elementLambda_eq_none_iff (fields : List String) (members : List (String × Json)) :
    (exec (elementLambda fields) (.object members)).1 = .ok none ↔ HasIntegers fields members := by
  rw [← rejectsFields_eq_false_iff, elementLambda, exec_bind]
  rcases exec (rejectsFields fields) (.object members) with ⟨result, elem'⟩
  cases result with
  | error e => simp
  | ok rejected => cases rejected <;> simp

/-- `std::for_each` over the elements, which are passed by reference. It drops
what the lambda returns; an exception leaves the later elements as they are. -/
def forEach (lambda : Access (Option Bool)) : List Json → Except JsonError Unit × List Json
  | [] => (.ok (), [])
  | j :: rest =>
    match exec lambda j with
    | (.error e, j') => (.error e, j' :: rest)
    | (.ok _, j') => ((forEach lambda rest).1, j' :: (forEach lambda rest).2)

/-- Run `std::for_each` over the array member under a key of the document. -/
def forEachIn (field : String) (lambda : Access (Option Bool)) : Access Unit := fun doc =>
  match fetch [field] doc with
  | .ok (.array elems) =>
    ((forEach lambda elems).1,
      match doc with
      | .object members =>
        .object (adjust field (fun _ => .array (forEach lambda elems).2) members)
      | other => other)
  | .ok _ => (.ok (), doc)
  | .error e => (.error e, doc)

/-- The body of a branch of the data check, run on the local copy of the data:
whether it makes the function return false. -/
def branchRejects : FieldTests → Access Bool
  | .integers fields => rejectsFields fields
  | .arrayOf field elementFields => do
    if ← notKind Json.isArray [field] then return true
    forEachIn field (elementLambda elementFields)
    return false

/-- The else-if chain on the type: the first constant whose comparison is
nonzero is the branch that is entered. -/
def enteredBranch : List IfType → Access (Option IfType)
  | [] => return none
  | label :: rest => do
    if stringCompare (← getString ["meta", "type"]) label.name ≠ 0 then return some label
    enteredBranch rest

/-- The two guards on the metadata. `none` means that the function goes on. -/
def metaCheck : Access (Option Exit) := do
  if ← (test Json.isNull ["meta"] <||> test Json.isNull ["meta", "action"]
      <||> test Json.isNull ["meta", "action"] <||> test Json.isNull ["meta", "ipv4"]) then
    return some (.returned false)
  if ← (test Json.isObject ["meta"] <||> test Json.isString ["meta", "action"]
      <||> test Json.isString ["meta", "action"] <||> test Json.isString ["meta", "ipv4"]) then
    return some (.returned false)
  return none

/-- Everything after the metadata guards. -/
def dataCheck : Access Exit := do
  if stringCompare (← getString ["meta", "action"]) "query" ≠ 0 then
    if ← notKind Json.isObject ["data"] then
      return .returned false
    let data ← index ["data"]
    let branch ← enteredBranch IfType.chain
    -- the body works on the local copy `data`, so its insertions are dropped
    let rejected ← match branch with
      | some label => onCopy data (branchRejects (fieldTests label))
      | none => pure false
    if rejected then return .returned false
    if ← test Json.isNull ["data"] then return .returned false
    return .noVerdict branch
  else
    return .returned false

/-- `CheckIfValid`. -/
def checkIfValid : Access Exit := do
  match ← metaCheck with
  | some exit => return exit
  | none => dataCheck

/-- `HandleRqs`. The bodies of its branches are empty. -/
def handleRqs : Access Exit := do
  if ← test Json.isNull ["meta", "action"] then return .returned false
  if ← notKind Json.isObject ["data"] then
    return .returned false
  let branch ← enteredBranch IfType.chain
  return .noVerdict branch

end SigIf.Request
