import SasMigration.Proofs.Runner.Delivery

namespace SasMigration

/-- A line of the log, or the event that ends a stream. -/
inductive StreamEvent
  | log (line : Text)
  | last (line : Text)
deriving DecidableEq, Repr

namespace StreamEvent

def text : StreamEvent → Text
  | .log line => RunService.logEvent line
  | .last line => RunService.lastEvent line

def line? : StreamEvent → Option Text
  | .log line => some line
  | .last _ => none

end StreamEvent

/-- Where a stream has given way to others. -/
inductive StreamPhase
  | opened
  | sending
  | waiting
  | ending
  | stopped
deriving DecidableEq, Repr

/-- What a stream says last when all of the log of a script has been sent, unless the script
goes on. -/
def RunService.lastLine? (s : RunService) (id : Text) : Option Text :=
  match s.runner.status id with
  | .error fault => some ("Error in stream logs: " ++ fault.message)
  | .ok .notFound => some ("Script has ended, return code: " ++ Text.ofInt 0)
  | .ok (.finished code ..) => some ("Script has ended, return code: " ++ Text.ofInt code)
  | .ok (.running ..) => none

structure LogStream where
  id : Text
  sent : Nat
  phase : StreamPhase
  events : List StreamEvent
deriving DecidableEq, Repr

namespace LogStream

def start (id : Text) : LogStream := ⟨id, 0, .opened, []⟩

def lines (st : LogStream) : List Text := st.events.filterMap StreamEvent.line?

def rest (st : LogStream) (s : RunService) : LogStream :=
  match s.lastLine? st.id with
  | some line => { st with phase := .ending, events := st.events ++ [.last line] }
  | none => { st with phase := .waiting }

def send (st : LogStream) (s : RunService) : LogStream :=
  match (s.logOf st.id)[st.sent]? with
  | some line =>
    { st with sent := st.sent + 1, phase := .sending, events := st.events ++ [.log line] }
  | none => st.rest s

def turn (st : LogStream) (s : RunService) : RunService × LogStream :=
  let s := (s.fetch st.id).1
  (s, st.send s)

/-- Goes on to the next place where the stream gives way. -/
def resume (st : LogStream) (s : RunService) : RunService × LogStream :=
  match st.phase with
  | .opened => st.turn (s.addLog st.id [])
  | .sending => (s, st.send s)
  | .waiting => st.turn s
  | .ending => (s, { st with phase := .stopped })
  | .stopped => (s, st)

end LogStream

/-- A service with its streams, and the logs that it has answered requests with. -/
structure LogHub where
  service : RunService
  streams : List LogStream
  answers : List (Text × List Text)

inductive HubStep
  | run (world : PackageWorld) (child : ChildProcess) (request : RunRequest)
  | fetch (id : Text)
  | status (id : Text)
  | stop (id : Text)
  | stream (id : Text)
  | resume (index : Nat)
  | change (runner : ScriptRunner)

namespace LogHub

def start (service : RunService) : LogHub := ⟨service, [], []⟩

def step (h : LogHub) : HubStep → LogHub
  | .run world child request => { h with service := (h.service.run world child request).1 }
  | .fetch id =>
    let (service, all) := h.service.fetch id
    { h with service, answers := h.answers ++ [(id, all)] }
  | .status _ => h
  | .stop id => { h with service := (h.service.stop id).1 }
  | .stream id => { h with streams := h.streams ++ [.start id] }
  | .resume index =>
    match h.streams[index]? with
    | none => h
    | some st =>
      let (service, st) := st.resume h.service
      { h with service, streams := h.streams.set index st }
  | .change runner => { h with service := { h.service with runner } }

def run (h : LogHub) (steps : List HubStep) : LogHub := steps.foldl step h

theorem run_append (h : LogHub) (steps more : List HubStep) :
    h.run (steps ++ more) = (h.run steps).run more := List.foldl_append

end LogHub

/-! A stream that is left alone -/

namespace LogStream

variable {s : RunService} {st : LogStream}

theorem rest_phase (st : LogStream) (s : RunService) (phase : StreamPhase) :
    ({ st with phase } : LogStream).rest s = st.rest s := rfl

def sendAll (st : LogStream) (s : RunService) : LogStream :=
  { st with
    sent := (s.logOf st.id).length
    events := st.events ++ ((s.logOf st.id).drop st.sent).map .log }

theorem rest_sendAll_of_last {line : Text} (h : s.lastLine? st.id = some line) :
    (st.sendAll s).rest s = { st.sendAll s with
      phase := .ending
      events := (st.sendAll s).events ++ [.last line] } := by
  rw [rest, sendAll, h]

theorem rest_sendAll_of_wait (h : s.lastLine? st.id = none) :
    (st.sendAll s).rest s = { st.sendAll s with phase := .waiting } := by
  rw [rest, sendAll, h]

theorem map_text_sendAll (st : LogStream) (s : RunService) :
    (st.sendAll s).events.map StreamEvent.text = st.events.map StreamEvent.text ++
      ((s.logOf st.id).drop st.sent).map RunService.logEvent := by
  rw [sendAll, List.map_append, List.map_map]
  rfl

theorem send_of_lt (h : st.sent < (s.logOf st.id).length) :
    ∃ st', st.send s = st' ∧ st'.phase = .sending ∧ st'.id = st.id ∧ st'.sent = st.sent + 1 ∧
      st'.sendAll s = { st.sendAll s with phase := .sending } := by
  refine ⟨_, rfl, ?_⟩
  rw [send, List.getElem?_eq_getElem h]
  refine ⟨rfl, rfl, rfl, ?_⟩
  simp only [sendAll, List.drop_eq_getElem_cons h, List.map_cons, List.append_assoc,
    List.singleton_append]

theorem send_of_le (h : (s.logOf st.id).length ≤ st.sent) : st.send s = st.rest s := by
  rw [send, List.getElem?_eq_none h]

end LogStream

namespace LogHub

open RunService

variable {s s' : RunService} {st st' : LogStream} {plan : StreamPlan} {turns waits : Nat}

def single (s : RunService) (st : LogStream) : LogHub := ⟨s, [st], []⟩

theorem step_resume (h : st.resume s = (s', st')) :
    (single s st).step (.resume 0) = single s' st' := by
  simp only [single, step, List.getElem?_cons_zero, h, List.set_cons_zero]

theorem exists_run_sendAll (h : st.sent ≤ (s.logOf st.id).length) :
    ∃ steps, (single s (st.send s)).run steps = single s ((st.sendAll s).rest s) := by
  obtain ⟨k, hk⟩ := Nat.exists_eq_add_of_le h
  induction k generalizing st with
  | zero =>
    have hlen : (s.logOf st.id).length = st.sent := hk
    have hall : st.sendAll s = st := by
      rw [LogStream.sendAll, List.drop_of_length_le (Nat.le_of_eq hlen), hlen]
      simp
    exact ⟨[], by rw [hall, LogStream.send_of_le (Nat.le_of_eq hlen)]; rfl⟩
  | succ k ih =>
    have hlt : st.sent < (s.logOf st.id).length := by omega
    obtain ⟨st', hsend, hphase, hid, hsent, hall⟩ := LogStream.send_of_lt hlt
    have hlen : (s.logOf st'.id).length = st'.sent + k := by
      rw [hid, hsent]
      omega
    obtain ⟨steps, hsteps⟩ := ih (by omega) hlen
    have hresume : st'.resume s = (s, st'.send s) := by rw [LogStream.resume, hphase]
    refine ⟨.resume 0 :: steps, ?_⟩
    rw [hsend, run, List.foldl_cons, step_resume hresume]
    refine hsteps.trans ?_
    rw [hall, LogStream.rest_phase]

theorem exists_run_turn (hturn : st.resume s = st.turn s')
    (h : st.sent ≤ ((s'.fetch st.id).1.logOf st.id).length) :
    ∃ steps, (single s st).run steps =
      single (s'.fetch st.id).1 ((st.sendAll (s'.fetch st.id).1).rest (s'.fetch st.id).1) := by
  obtain ⟨steps, hsteps⟩ := exists_run_sendAll h
  refine ⟨.resume 0 :: steps, ?_⟩
  rw [run, List.foldl_cons, step_resume hturn]
  exact hsteps

theorem streamFrom_of_last {id line : Text} {sent : Nat}
    (h : (s.fetch id).1.lastLine? id = some line) :
    streamFrom id plan (turns + 1) s sent waits = ((s.fetch id).1,
      ⟨(((s.fetch id).1.logOf id).drop sent).map logEvent ++ [lastEvent line], waits⟩) := by
  rw [lastLine?] at h
  rw [streamFrom]
  dsimp only
  cases hstatus : (s.fetch id).1.runner.status id with
  | error fault =>
    rw [hstatus] at h
    cases h
    rfl
  | ok status =>
    rw [hstatus] at h
    cases status with
    | running => cases h
    | notFound | finished =>
      cases h
      rfl

theorem exists_atWait {id : Text} {process : Nat} {started runTime : Value} (number : Nat)
    (h : s.runner.status id = .ok (.running process started runTime)) :
    ∃ runner, s.atWait id plan number = .ok { s with runner } := by
  rw [atWait]
  split
  · cases hfind : s.runner.find? id with
    | none =>
      rw [ScriptRunner.status, hfind] at h
      cases h
    | some script =>
      rw [ScriptRunner.finish, hfind]
      exact ⟨_, rfl⟩
  · exact ⟨s.runner, rfl⟩

theorem exists_running_of_wait {id : Text} (h : s.lastLine? id = none) :
    ∃ process started runTime, s.runner.status id = .ok (.running process started runTime) := by
  rw [lastLine?] at h
  cases hstatus : s.runner.status id with
  | error fault =>
    rw [hstatus] at h
    cases h
  | ok status =>
    rw [hstatus] at h
    cases status with
    | notFound | finished => cases h
    | running process started runTime => exact ⟨process, started, runTime, rfl⟩

theorem streamFrom_of_wait (plan : StreamPlan) (turns sent waits : Nat) {id : Text}
    (h : (s.fetch id).1.lastLine? id = none)
    (hwait : (s.fetch id).1.atWait id plan (waits + 1) = .ok s') :
    let all := (s.fetch id).1.logOf id
    let later := streamFrom id plan turns s' all.length (waits + 1)
    streamFrom id plan (turns + 1) s sent waits =
      (later.1, { later.2 with events := (all.drop sent).map logEvent ++ later.2.events }) := by
  obtain ⟨process, started, runTime, hstatus⟩ := exists_running_of_wait h
  rw [streamFrom]
  dsimp only
  rw [hstatus]
  dsimp only
  rw [hwait]
  rfl

theorem exists_streamFrom_of_wait (plan : StreamPlan) (turns sent waits : Nat) {id : Text}
    (h : (s.fetch id).1.lastLine? id = none) : ∃ runner,
      let all := (s.fetch id).1.logOf id
      let later := streamFrom id plan turns { (s.fetch id).1 with runner } all.length (waits + 1)
      streamFrom id plan (turns + 1) s sent waits =
        (later.1, { later.2 with events := (all.drop sent).map logEvent ++ later.2.events }) := by
  obtain ⟨process, started, runTime, hstatus⟩ := exists_running_of_wait h
  obtain ⟨runner, hwait⟩ := exists_atWait (waits + 1) hstatus
  exact ⟨runner, streamFrom_of_wait plan turns sent waits h hwait⟩

/-- Left alone but for the planned end of the script, a stream does what `streamFrom` says. -/
def Sends (plan : StreamPlan) (turns waits : Nat) (s : RunService) (st : LogStream)
    (s' : RunService) : Prop :=
  ∃ steps st', (single s st).run steps =
      single (streamFrom st.id plan turns s' st.sent waits).1 st' ∧
    st'.events.map StreamEvent.text = st.events.map StreamEvent.text ++
      (streamFrom st.id plan turns s' st.sent waits).2.events

theorem sends_succ (hturn : st.resume s = st.turn s') (h : st.sent ≤ (s'.logOf st.id).length)
    (ih : ∀ s st, st.phase = .waiting → st.sent ≤ (s.logOf st.id).length →
      Sends plan turns (waits + 1) s st s) : Sends plan (turns + 1) waits s st s' := by
  have hlog : (s'.fetch st.id).1.logOf st.id = s'.logOf st.id ++ (s'.runner.logs st.id).2 :=
    logOf_addLog _ _ _
  have hlen : st.sent ≤ ((s'.fetch st.id).1.logOf st.id).length := by
    rw [hlog, List.length_append]
    omega
  obtain ⟨steps, hsteps⟩ := exists_run_turn hturn hlen
  cases hlast : (s'.fetch st.id).1.lastLine? st.id with
  | some line =>
    refine ⟨steps, _, hsteps.trans (by rw [streamFrom_of_last hlast]), ?_⟩
    rw [streamFrom_of_last hlast, LogStream.rest_sendAll_of_last hlast, List.map_append,
      LogStream.map_text_sendAll, List.append_assoc]
    rfl
  | none =>
    -- the script may end at the wait, which changes the runner
    obtain ⟨runner, hfrom⟩ := exists_streamFrom_of_wait plan turns st.sent waits hlast
    obtain ⟨more, st', hmore, hevents⟩ := ih { (s'.fetch st.id).1 with runner }
      { st.sendAll (s'.fetch st.id).1 with phase := .waiting } rfl (Nat.le_refl _)
    refine ⟨steps ++ .change runner :: more, st', ?_, ?_⟩
    · rw [run_append, hsteps, LogStream.rest_sendAll_of_wait hlast, hfrom]
      exact hmore
    · rw [hfrom]
      refine hevents.trans ?_
      rw [LogStream.map_text_sendAll, List.append_assoc]
      rfl

theorem sends_of_waiting (turns : Nat) {s : RunService} {st : LogStream} {waits : Nat}
    (hphase : st.phase = .waiting) (h : st.sent ≤ (s.logOf st.id).length) :
    Sends plan turns waits s st s := by
  induction turns generalizing s st waits with
  | zero => exact ⟨[], st, rfl, (List.append_nil _).symm⟩
  | succ turns ih =>
    exact sends_succ (by rw [LogStream.resume, hphase]) h fun s st hphase h ↦ ih hphase h

theorem exists_run_eq_stream (s : RunService) (id : Text) (plan : StreamPlan) :
    ∃ steps st, (start s).run steps = single (s.stream id plan).1 st ∧
      st.events.map StreamEvent.text = (s.stream id plan).2.events := by
  have hsends : Sends plan (plan.finishAfter.getD 0 + 2) 0 s (.start id) (s.addLog id []) :=
    sends_succ rfl (Nat.zero_le _) fun s st hphase h ↦ sends_of_waiting _ hphase h
  obtain ⟨steps, st, hsteps, hevents⟩ := hsends
  exact ⟨.stream id :: steps, st, hsteps, hevents⟩

end LogHub

end SasMigration
