import SasMigration.CommandLine.Run
import SasMigration.Proofs.Runner.Registry

namespace SasMigration.RunProgram

open ScriptRunner

variable {plan : FollowPlan} {id : Text} {r : ScriptRunner} {s : RunningScript} {code : Int}

theorem wait_of_forgotten (h : r.find? id = none) (hplan : plan.interruptAfter = none)
    (number : Nat) : wait plan number id r = (r, none) := by
  have hfinish : r.finish id plan.exit [.output, .error] = .error (.missingKey id) := by
    rw [ScriptRunner.finish, h]
  rw [wait, hplan, hfinish]
  simp

theorem follow_of_forgotten (h : r.find? id = none) (hplan : plan.interruptAfter = none)
    (turns waits : Nat) : follow plan id turns r waits = (r, waits + turns, .waiting) := by
  have hlogs : r.logs id = (r, [gone id]) := by rw [logs, h]
  have hstatus : r.status id = .ok .notFound := by rw [status, h]
  induction turns generalizing waits with
  | zero => rfl
  | succ turns ih =>
    rw [follow, hlogs]
    dsimp only
    rw [hstatus]
    dsimp only
    rw [wait_of_forgotten h hplan]
    dsimp only
    rw [ih, Nat.add_assoc, Nat.add_comm 1]

theorem follow_of_full (h : r.find? id = some s) (hended : s.poll = .ended code)
    (hfull : mostLines ≤ s.queue.length) (turns waits : Nat) :
    follow plan id (turns + 1) r waits = ((r.logs id).1, waits, .finished) := by
  have hfind := (logs_of_ended h hended).2
  rw [if_neg (Nat.not_lt.mpr hfull)] at hfind
  have hpoll : ({ s with queue := s.queue.drop mostLines } : RunningScript).poll = .ended code :=
    hended
  have hstatus : (r.logs id).1.status id = .ok (.finished code s.started (r.logs id).1.now
      ((r.logs id).1.now.minus s.started)) := by
    rw [status, hfind]
    dsimp only
    rw [hpoll]
  rw [follow]
  dsimp only
  rw [hstatus]

theorem follow_of_short (h : r.find? id = some s) (hended : s.poll = .ended code)
    (hshort : s.queue.length < mostLines) (hplan : plan.interruptAfter = none) (turns waits : Nat) :
    (follow plan id turns r waits).2 = (waits + turns, .waiting) := by
  cases turns with
  | zero => rfl
  | succ turns =>
    have hfind := (logs_of_ended h hended).2
    rw [if_pos hshort] at hfind
    have hstatus : (r.logs id).1.status id = .ok .notFound := by rw [status, hfind]
    rw [follow]
    dsimp only
    rw [hstatus]
    dsimp only
    rw [wait_of_forgotten hfind hplan]
    dsimp only
    rw [follow_of_forgotten hfind hplan, Nat.add_assoc, Nat.add_comm 1]

/-- Unless it is interrupted, the program that follows a script that has ended, with its readers,
leaves its loop in the next turn if as many lines wait as a request can give out, and never if fewer
do. Neither does it ever leave if no process was started for the script. -/
theorem finished_or_waiting_forever (plan : FollowPlan) (hplan : plan.interruptAfter = none) :
    (∀ (r : ScriptRunner) (id : Text) (s : RunningScript) (code : Int) (waits : Nat),
      r.find? id = some s → s.poll = .ended code → s.outputOpen = false → s.errorsOpen = false →
      (mostLines ≤ s.queue.length →
        ∀ turns, follow plan id (turns + 1) r waits = ((r.logs id).1, waits, .finished)) ∧
      (s.queue.length < mostLines →
        ∀ turns, (follow plan id turns r waits).2 = (waits + turns, .waiting))) ∧
    ∀ (r r' : ScriptRunner) (world : PackageWorld) (child : ChildProcess) (skip : Bool)
      (code : Value) (id : Text) (trace : RunTrace) (waits : Nat),
      r.find? r.nextId = none → r.run world child skip code = (r', .ok id, trace) →
      trace.commands = [] →
        ∀ turns, follow plan id turns r' waits = (r', waits + turns, .waiting) := by
  refine ⟨?_, ?_⟩
  · intro r id s code waits hfind hended _ _
    refine ⟨fun hfull turns ↦ ?_, fun hshort turns ↦ ?_⟩
    · exact follow_of_full hfind hended hfull turns waits
    · exact follow_of_short hfind hended hshort hplan turns waits
  · intro r r' world child skip code id trace waits hfree hrun htrace turns
    have hforgotten := find?_of_unstarted hfree hrun htrace
    exact follow_of_forgotten hforgotten hplan turns waits

/-- A script of which a hundred lines wait is left, one of which a line waits is not, and neither is
one that could not be started. -/
theorem finished_or_waiting_forever_three :
    let script (lines : Nat) : RunningScript :=
      ⟨4000, ⟨[], [], none, none, none⟩, some 3, .replicate lines "x", false, false, .int 1000⟩
    let files : FileTree := ⟨[(["scripts".toList], .directory)]⟩
    let runner := fresh .numbered ⟨"venv", false, "python"⟩ false files
    let id : Text := "id-0"
    let holding (lines : Nat) : ScriptRunner := { runner with scripts := [(id, script lines)] }
    let refused := runner.run ⟨[], [], 0, none, []⟩ ⟨[], [], some "no such file", none, none⟩ true
      (.text "x")
    let plan : FollowPlan := ⟨none, 0, none⟩
    (follow plan id 1 (holding 100) 0).2 = (0, .finished) ∧
      (∀ turns, (follow plan id turns (holding 1) 0).2 = (0 + turns, .waiting)) ∧
      ∀ turns, (follow plan id turns refused.1 0).2 = (0 + turns, .waiting) := by
  intro script files runner id holding refused plan
  obtain ⟨hended, hunstarted⟩ := finished_or_waiting_forever plan rfl
  refine ⟨?_, fun turns ↦ ?_, fun turns ↦ ?_⟩
  · rw [(hended (holding 100) id (script 100) 3 0 rfl rfl rfl rfl).1 (by decide) 0]
  · exact (hended (holding 1) id (script 1) 3 0 rfl rfl rfl rfl).2 (by decide) turns
  · have hcommands : refused.2.2.commands = [] := by decide
    have hid : refused.2.1 = .ok id := by
      unfold refused runner files id
      rfl
    have hrun : refused = (refused.1, .ok id, refused.2.2) := by rw [← hid]
    rw [hunstarted runner _ _ _ _ _ _ _ 0 rfl hrun hcommands turns]

/-- A script writes a line and ends, and its readers have ended too. The program that follows it
never leaves its loop. -/
theorem exists_ended_followed_forever :
    let child : ChildProcess := ⟨[.line "1\n"], [], none, none, none⟩
    let files : FileTree := ⟨[(["scripts".toList], .directory)]⟩
    let id : Text := "id-0"
    let runner := ((fresh .numbered ⟨"venv", false, "python"⟩ false files).run
      ⟨[], [], 0, none, []⟩ child true (.text "x")).1
    ∃ ended script, runner.finish id 0 [.output, .error] = .ok ended ∧
      ended.find? id = some script ∧ script.poll = .ended 0 ∧
      script.outputOpen = false ∧ script.errorsOpen = false ∧
      ∀ plan turns, plan.interruptAfter = none →
        (follow plan id turns ended 0).2.2 = .waiting := by
  intro child files id runner
  unfold runner files id child
  refine ⟨_, _, rfl, rfl, rfl, rfl, rfl, fun plan turns hplan ↦ ?_⟩
  rw [follow_of_short rfl rfl (by decide) hplan]

end SasMigration.RunProgram
