import Mathlib.Data.List.Basic
import Mathlib.Tactic.Common
import SasMigration.Runner.Service

namespace SasMigration

theorem find?_map_key {α : Type} (l : List (Text × α)) (key : Text) (f : α → α) :
    (l.map fun e ↦ if e.1 = key then (key, f e.2) else e).find? (fun e ↦ e.1 == key) =
      (l.find? fun e ↦ e.1 == key).map fun e ↦ (key, f e.2) := by
  induction l with
  | nil => rfl
  | cons e l ih =>
    by_cases he : e.1 = key
    · simp [he]
    · simpa [he] using ih

namespace ScriptRunner

variable {r : ScriptRunner} {id : Text} {s : RunningScript} {code : Int}

theorem find?_put (h : r.find? id = some s) (s' : RunningScript) :
    (r.put id s').find? id = some s' := by
  obtain ⟨e, he, -⟩ := Option.map_eq_some_iff.mp h
  rw [find?, put, find?_map_key r.scripts id fun _ ↦ s', he]
  rfl

theorem find?_cleanUp (r : ScriptRunner) (id : Text) : (r.cleanUp id).find? id = none := by
  rw [cleanUp]
  cases h : r.find? id with
  | none => exact h
  | some s =>
    refine Option.map_eq_none_iff.mpr (List.find?_eq_none.mpr fun e he ↦ ?_)
    have hne := (List.mem_filter.mp he).2
    simpa using hne

def heading (s : RunningScript) : Text := "DEBUG: Queue size: " ++ Text.ofNat s.queue.length

def given (s : RunningScript) (code : Int) : List Text :=
  heading s :: s.queue.take mostLines ++
    if s.queue.length < mostLines then ending s code else []

/-- The lines that say that a script has ended, when its readers have ended too. -/
def closing (code : Int) : List Text :=
  ["DEBUG: Process has ended with return code: " ++ Text.ofInt code,
    "Script has ended, return code: " ++ Text.ofInt code,
    "DEBUG: stdout thread alive: False, stderr thread alive: False"]

theorem ending_eq_closing (houtput : s.outputOpen = false) (herrors : s.errorsOpen = false)
    (code : Int) : ending s code = closing code := by
  rw [ending, houtput, herrors]
  rfl

theorem logs_of_ended (h : r.find? id = some s) (hended : s.poll = .ended code) :
    (r.logs id).2 = given s code ∧ (r.logs id).1.find? id =
      if s.queue.length < mostLines then none
      else some { s with queue := s.queue.drop mostLines } := by
  rw [logs, h]
  dsimp only
  split
  · next hlt =>
    rw [hended, given, if_pos hlt]
    exact ⟨rfl, find?_cleanUp _ _⟩
  · next hlt =>
    rw [given, if_neg hlt, List.append_nil]
    exact ⟨rfl, find?_put h _⟩

theorem eq_of_eq_cons_take {l : List Text} {a : Text} {n : Nat} (h : l = a :: l.take n) :
    ∀ x ∈ l, x = a := by
  -- each place of `l` holds what the place before it holds, and the first holds `a`
  have hget (i : Nat) (x : Text) (hx : l[i]? = some x) : x = a := by
    induction i with
    | zero =>
      rw [h] at hx
      exact (Option.some.inj hx).symm
    | succ i ih =>
      rw [h, List.getElem?_cons_succ, List.getElem?_take] at hx
      split at hx
      · exact ih hx
      · cases hx
  intro x hx
  obtain ⟨i, hi⟩ := List.getElem?_of_mem hx
  exact hget i x hi

theorem queue_sublist_given : s.queue.Sublist (given s code) ↔ s.queue.length ≤ mostLines ∨
    s.queue.length = mostLines + 1 ∧ ∀ line ∈ s.queue, line = heading s := by
  by_cases hle : s.queue.length ≤ mostLines
  · refine iff_of_true ?_ (.inl hle)
    rw [given, List.take_of_length_le hle]
    exact (List.sublist_append_left _ _).trans (List.sublist_cons_self _ _)
  · have hgiven : given s code = heading s :: s.queue.take mostLines := by
      rw [given, if_neg (by omega), List.append_nil]
    rw [hgiven, or_iff_right hle]
    constructor
    · intro h
      have hlen := h.length_le
      rw [List.length_cons, List.length_take] at hlen
      have hn : s.queue.length = mostLines + 1 := by omega
      refine ⟨hn, eq_of_eq_cons_take (n := mostLines) (h.eq_of_length ?_)⟩
      rw [List.length_cons, List.length_take]
      omega
    · rintro ⟨hn, hall⟩
      have hqueue : s.queue = List.replicate (mostLines + 1) (heading s) :=
        List.eq_replicate_iff.mpr ⟨hn, hall⟩
      rw [hqueue, List.take_replicate, Nat.min_eq_left (Nat.le_succ _), List.replicate_succ]

end ScriptRunner

namespace RunService

open ScriptRunner

variable {s : RunService} {id : Text} {script : RunningScript} {code : Int}

theorem runner_addLog (s : RunService) (id : Text) (lines : List Text) :
    (s.addLog id lines).runner = s.runner := by
  rw [addLog]
  split <;> rfl

def stored? (s : RunService) (id : Text) : Option (List Text) :=
  (s.logs.find? fun l ↦ l.1 == id).map (·.2)

theorem stored?_addLog (s : RunService) (id : Text) (lines : List Text) :
    (s.addLog id lines).stored? id = some (s.logOf id ++ lines) := by
  rw [addLog, stored?, logOf]
  split
  · next h =>
    obtain ⟨e, he⟩ := Option.isSome_iff_exists.mp (List.find?_isSome.mpr (List.any_eq_true.mp h))
    rw [find?_map_key s.logs id (· ++ lines), he]
    rfl
  · next h =>
    have hnone : s.logs.find? (fun l ↦ l.1 == id) = none := by
      rw [List.find?_eq_none]
      exact fun e he hid ↦ h (List.any_eq_true.mpr ⟨e, he, hid⟩)
    rw [List.find?_append, hnone]
    simp

theorem logOf_addLog (s : RunService) (id : Text) (lines : List Text) :
    (s.addLog id lines).logOf id = s.logOf id ++ lines :=
  congrArg (·.getD []) (stored?_addLog s id lines)

theorem streamFrom_of_ended (h : s.runner.find? id = some script)
    (hended : script.poll = .ended code) (plan : StreamPlan) (turns sent waits : Nat) :
    (streamFrom id plan (turns + 1) s sent waits).2 =
      ⟨((s.logOf id ++ given script code).drop sent).map logEvent ++
        [endEvent (if script.queue.length < mostLines then 0 else code)], waits⟩ := by
  obtain ⟨hlines, hfind⟩ := logs_of_ended h hended
  have hall : (s.fetch id).2 = s.logOf id ++ given script code := by
    rw [← hlines]
    exact logOf_addLog _ _ _
  have hrunner : (s.fetch id).1.runner = (s.runner.logs id).1 := runner_addLog _ _ _
  rw [streamFrom]
  dsimp only
  rw [hrunner, hall, ScriptRunner.status, hfind]
  by_cases hlt : script.queue.length < mostLines
  · rw [if_pos hlt, if_pos hlt]
  · have hpoll : ({ script with queue := script.queue.drop mostLines } : RunningScript).poll =
      .ended code := hended
    rw [if_neg hlt, if_neg hlt]
    dsimp only
    rw [hpoll]

theorem stream_of_ended (h : s.runner.find? id = some script)
    (hended : script.poll = .ended code) (plan : StreamPlan) :
    (s.stream id plan).2 = ⟨(s.logOf id ++ given script code).map logEvent ++
      [endEvent (if script.queue.length < mostLines then 0 else code)], 0⟩ := by
  have hfind : (s.addLog id []).runner.find? id = some script := by rw [runner_addLog, h]
  rw [stream, streamFrom_of_ended hfind hended, logOf_addLog, List.append_nil, List.drop_zero]

/-- A stream on a script that has ended, as have its readers, sends what was logged before and the
lines of one request, then the event that ends it. All lines that wait are among them if they are no
more than a request can give; with more, and nothing logged before, some are lost, but for one case
in which the line that counts them stands for the last of them. -/
theorem stream_events_of_ended (h : s.runner.find? id = some script)
    (hended : script.poll = .ended code) (houtput : script.outputOpen = false)
    (herrors : script.errorsOpen = false) (plan : StreamPlan) :
    let n := script.queue.length
    let lines := s.logOf id ++ (heading script :: script.queue.take mostLines ++
      if n < mostLines then closing code else [])
    (s.stream id plan).2.events = lines.map logEvent ++
      [endEvent (if n < mostLines then 0 else code)] ∧
    (n ≤ mostLines → script.queue.Sublist lines) ∧
    (s.logOf id = [] → (script.queue.Sublist lines ↔ n ≤ mostLines ∨
      n = mostLines + 1 ∧ ∀ line ∈ script.queue, line = heading script)) := by
  intro n lines
  have hlines : lines = s.logOf id ++ given script code := by
    rw [given, ending_eq_closing houtput herrors]
  rw [hlines]
  refine ⟨by rw [stream_of_ended h hended], fun hle ↦ ?_, fun hlog ↦ ?_⟩
  · exact (queue_sublist_given.mpr (.inl hle)).trans (List.sublist_append_right _ _)
  · rw [hlog, List.nil_append]
    exact queue_sublist_given

/-- Three lines wait, and then a hundred, which is as many as a request can give. -/
theorem stream_events_of_ended_hundred :
    let script (queue : List Text) : RunningScript :=
      ⟨4000, ⟨[], [], none, none, none⟩, some 3, queue, false, false, .int 1000⟩
    let s (queue : List Text) := start { fresh .numbered ⟨"venv", false, "python"⟩ false .empty with
      scripts := [("id-0", script queue)] }
    let sent (queue : List Text) := ((s queue).stream "id-0" ⟨none, 0⟩).2.events.dropLast
    let three := ["a".toList, "b".toList, "c".toList]
    let hundred := (List.range 100).map Text.ofNat
    (three.map logEvent).Sublist (sent three) ∧ (hundred.map logEvent).Sublist (sent hundred) := by
  intro script s sent three hundred
  have hsent (queue : List Text) (hle : queue.length ≤ mostLines) :
      (queue.map logEvent).Sublist (sent queue) := by
    have hfind : (s queue).runner.find? "id-0" = some (script queue) := rfl
    obtain ⟨hevents, hall, -⟩ := stream_events_of_ended hfind rfl rfl rfl ⟨none, 0⟩
    unfold sent
    rw [hevents, List.dropLast_concat]
    exact (hall hle).map logEvent
  exact ⟨hsent three (by decide), hsent hundred (by decide)⟩

/-- A script writes a hundred lines and ends. With what the readers add, more lines wait than a
request can give, and the stream ends without the last ones. -/
theorem exists_stream_without_queued_line :
    let child : ChildProcess := ⟨List.replicate 100 (.line "x"), [], none, none, none⟩
    let runner := ((fresh .numbered ⟨"venv", false, "python"⟩ false .empty).launch "id-0" child).1
    ∃ ended script, runner.finish "id-0" 0 [.output, .error] = .ok ended ∧
      ended.find? "id-0" = some script ∧ script.poll = .ended 0 ∧
      script.outputOpen = false ∧ script.errorsOpen = false ∧ ∀ plan,
        ¬ (script.queue.map logEvent).Sublist
          ((start ended).stream "id-0" plan).2.events.dropLast := by
  intro child runner
  refine ⟨_, _, rfl, rfl, rfl, rfl, rfl, fun plan hsub ↦ ?_⟩
  have hlen := hsub.length_le
  rw [stream_of_ended rfl rfl, List.dropLast_concat, List.length_map, List.length_map] at hlen
  exact absurd hlen (by decide +kernel)

end RunService

end SasMigration
