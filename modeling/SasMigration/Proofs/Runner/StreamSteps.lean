import SasMigration.Proofs.Runner.CleanUp
import SasMigration.Proofs.Runner.Streams

namespace SasMigration

open ScriptRunner

def endLine (code : Int) : Text := "Script has ended, return code: " ++ Text.ofInt code

namespace ScriptSession

variable {s t : ScriptSession}

def lastLine? (s : ScriptSession) : Option Text :=
  if s.registered then
    match s.script.poll with
    | .running => none
    | .failing reason => some ("Error in stream logs: " ++ (Fault.raised reason).message)
    | .ended code => some (endLine code)
  else some (endLine 0)

theorem lastLine?_eq {service : RunService} (h : service.runner.find? s.id =
    if s.registered then some s.script else none) : service.lastLine? s.id = s.lastLine? := by
  rw [RunService.lastLine?, status, h, lastLine?]
  cases s.registered with
  | false => rfl
  | true =>
    simp only [if_true]
    cases s.script.poll <;> rfl

theorem lastLine?_eq_none_iff :
    s.lastLine? = none ↔ s.registered = true ∧ s.script.poll = .running := by
  rw [lastLine?]
  cases s.registered with
  | false => simp
  | true => cases s.script.poll <;> simp

theorem ask_cases (s : ScriptSession) :
    (s.ask.request ≠ .idle ∧ s.ask.answers = s.answers ∧ s.ask.registered = s.registered) ∨
      ∃ a, s.ask.request = .idle ∧ s.ask.answers = s.answers ++ [a] := by
  rw [ask]
  split
  · split
    · exact .inl ⟨LogRequest.noConfusion, rfl, rfl⟩
    · exact .inr ⟨_, rfl, rfl⟩
  · exact .inr ⟨_, rfl, rfl⟩
  · split
    · exact .inl ⟨LogRequest.noConfusion, rfl, rfl⟩
    · exact .inl ⟨LogRequest.noConfusion, rfl, rfl⟩
  · split
    · exact .inr ⟨_, rfl, rfl⟩
    · exact .inr ⟨_, rfl, rfl⟩
    · exact .inl ⟨LogRequest.noConfusion, rfl, rfl⟩
  · exact .inl ⟨LogRequest.noConfusion, rfl, rfl⟩
  · exact .inl ⟨LogRequest.noConfusion, rfl, rfl⟩
  · exact .inr ⟨_, rfl, rfl⟩

/-! A request that is left alone -/

theorem answers_run_ask (s : ScriptSession) (n : Nat) :
    s.answers <+: (s.run (.replicate n .ask)).answers := by
  induction n generalizing s with
  | zero => exact List.prefix_rfl
  | succ n ih =>
    refine List.IsPrefix.trans ?_ (ih s.ask)
    rcases ask_cases s with ⟨-, hanswers, -⟩ | ⟨a, -, hanswers⟩
    · exact ⟨[], (List.append_nil _).trans hanswers.symm⟩
    · rw [hanswers]
      exact List.prefix_append _ _

theorem length_answers_run_ask (s : ScriptSession) (n : Nat)
    (h : (s.run (.replicate (n + 1) .ask)).request = .idle) :
    s.answers.length < (s.run (.replicate (n + 1) .ask)).answers.length := by
  have hle := (answers_run_ask s n).length_le
  rw [List.replicate_succ', run_append] at h ⊢
  change (s.run (.replicate n .ask)).ask.request = .idle at h
  change _ < (s.run (.replicate n .ask)).ask.answers.length
  rcases ask_cases (s.run (.replicate n .ask)) with ⟨hrequest, -⟩ | ⟨a, -, hanswers⟩
  · exact absurd h hrequest
  · rw [hanswers, List.length_append, List.length_singleton]
    omega

theorem Whole.ask (h : s.Whole) : s.ask.Whole := by
  have hasked := asked_ask s
  generalize s.ask = t at hasked
  cases hasked <;> exact h

theorem Whole.run_ask (h : s.Whole) (n : Nat) : (s.run (.replicate n .ask)).Whole := by
  induction n generalizing s with
  | zero => exact h
  | succ n ih => exact ih h.ask

theorem id_run_ask (s : ScriptSession) (n : Nat) : (s.run (.replicate n .ask)).id = s.id := by
  induction n generalizing s with
  | zero => rfl
  | succ n ih =>
    refine (ih s.ask).trans ?_
    have hasked := asked_ask s
    generalize s.ask = t at hasked
    cases hasked <;> rfl

/-! Readers that are left alone -/

theorem exists_run_read_eq (s : ScriptSession) (kind : StreamKind) (n : Nat) :
    ∃ script readers, s.run (.replicate n (.read kind)) = { s with script, readers } := by
  induction n generalizing s with
  | zero => exact ⟨s.script, s.readers, rfl⟩
  | succ n ih =>
    obtain ⟨script, readers, hrun⟩ := ih (s.read kind)
    exact ⟨script, readers, hrun⟩

end ScriptSession

/-- What a stream is at: a request for the log, sending what it got, or nothing any more. -/
inductive StreamTurn
  | asking
  | sending
  | ended
deriving DecidableEq, Repr

/-- A stream of the log of a script that is followed. All that was logged of the script is kept, and
the stream sends it from the first line on. -/
structure StreamedScript where
  session : ScriptSession
  logged : List Text
  sent : Nat
  turn : StreamTurn
  events : List StreamEvent

/-- Who takes the next step: a reader, the process, which ends, or the stream. -/
inductive StreamedStep
  | read (kind : StreamKind)
  | exit (code : Int)
  | go
deriving DecidableEq, Repr

namespace StreamedScript

variable {t u w : StreamedScript}

def start (id : Text) (script : RunningScript) (readers : StreamKind → StreamReader)
    (logged : List Text) : StreamedScript :=
  { session := { id, script, readers, registered := true, request := .idle, answers := [] }
    logged
    sent := 0
    turn := .asking
    events := [] }

def ask (t : StreamedScript) : StreamedScript :=
  let session := t.session.ask
  let new := session.answers.drop t.session.answers.length
  { t with
    session
    logged := t.logged ++ new.flatMap LogAnswer.toList
    turn := if session.request = .idle then .sending else .asking }

def send (t : StreamedScript) : StreamedScript :=
  match t.logged[t.sent]? with
  | some line => { t with sent := t.sent + 1, events := t.events ++ [.log line] }
  | none =>
    match t.session.lastLine? with
    | some line => { t with turn := .ended, events := t.events ++ [.last line] }
    | none => { t with turn := .asking }

def step (t : StreamedScript) : StreamedStep → StreamedScript
  | .read kind => { t with session := t.session.step (.read kind) }
  | .exit code => { t with session := t.session.step (.exit code) }
  | .go =>
    match t.turn with
    | .asking => t.ask
    | .sending => t.send
    | .ended => t

def run (t : StreamedScript) (steps : List StreamedStep) : StreamedScript := steps.foldl step t

theorem run_append (t : StreamedScript) (steps more : List StreamedStep) :
    t.run (steps ++ more) = (t.run steps).run more := List.foldl_append

theorem run_concat (t : StreamedScript) (steps : List StreamedStep) (a : StreamedStep) :
    t.run (steps ++ [a]) = (t.run steps).step a := List.foldl_concat ..

theorem session_send (t : StreamedScript) : t.send.session = t.session := by
  rw [send]
  split
  · rfl
  · split <;> rfl

/-! A stream that is left alone -/

/-- The stream gets from one state to another in some order of steps. -/
def GoesTo (t u : StreamedScript) : Prop := ∃ steps, t.run steps = u

theorem GoesTo.refl (t : StreamedScript) : t.GoesTo t := ⟨[], rfl⟩

theorem GoesTo.trans (h : t.GoesTo u) (h' : u.GoesTo w) : t.GoesTo w := by
  obtain ⟨steps, rfl⟩ := h
  obtain ⟨more, rfl⟩ := h'
  exact ⟨steps ++ more, run_append t steps more⟩

theorem goesTo_step (t : StreamedScript) (a : StreamedStep) : t.GoesTo (t.step a) := ⟨[a], rfl⟩

theorem goesTo_ask (hturn : t.turn = .asking) : t.GoesTo t.ask := by
  have hstep := t.goesTo_step .go
  rwa [step, hturn] at hstep

theorem goesTo_send (hturn : t.turn = .sending) : t.GoesTo t.send := by
  have hstep := t.goesTo_step .go
  rwa [step, hturn] at hstep

theorem goesTo_answer {answer : LogAnswer} (n : Nat) (hturn : t.turn = .asking)
    (hidle : (t.session.run (.replicate n .ask)).request = .idle)
    (hanswers : (t.session.run (.replicate n .ask)).answers = t.session.answers ++ [answer]) :
    t.GoesTo
      { t with
        session := t.session.run (.replicate n .ask)
        logged := t.logged ++ answer.toList
        turn := .sending } := by
  induction n generalizing t with
  | zero =>
    have hlength := congrArg List.length hanswers
    rw [List.length_append] at hlength
    exact absurd hlength (Nat.ne_of_lt (Nat.lt_succ_self _))
  | succ n ih =>
    refine (goesTo_ask hturn).trans ?_
    rcases ScriptSession.ask_cases t.session with ⟨hrequest, hsame, -⟩ | ⟨a, hrequest, hsame⟩
    · have hask : t.ask = { t with session := t.session.ask, turn := .asking } := by
        rw [ask, if_neg hrequest, hsame, List.drop_length, List.flatMap_nil, List.append_nil]
      rw [hask]
      exact ih rfl hidle (by rw [hsame]; exact hanswers)
    · -- the request has been answered, so this was its last step
      have hask : t.ask = { t with
          session := t.session.ask, logged := t.logged ++ a.toList, turn := .sending } := by
        rw [ask, if_pos hrequest, hsame, List.drop_left, List.flatMap_singleton]
      have hlast : n = 0 := by
        cases n with
        | zero => rfl
        | succ n =>
          have hlt := t.session.ask.length_answers_run_ask n hidle
          have hlength := congrArg List.length hanswers
          rw [hsame] at hlt
          simp only [List.length_append, List.length_singleton] at hlt hlength
          exact absurd (Nat.lt_of_lt_of_eq hlt hlength) (Nat.lt_irrefl _)
      subst hlast
      obtain rfl : a = answer := by
        have hsame' := hsame.symm.trans hanswers
        simpa using hsame'
      rw [hask]
      exact .refl _

def sendAll (t : StreamedScript) : StreamedScript :=
  { t with
    sent := t.logged.length
    events := t.events ++ (t.logged.drop t.sent).map .log }

theorem goesTo_sendAll (hturn : t.turn = .sending) (h : t.sent ≤ t.logged.length) :
    t.GoesTo t.sendAll := by
  obtain ⟨k, hk⟩ := Nat.exists_eq_add_of_le h
  induction k generalizing t with
  | zero =>
    have hall : t.sendAll = t := by
      have hlength : t.logged.length = t.sent := hk
      rw [sendAll, List.drop_of_length_le (Nat.le_of_eq hlength), hlength]
      simp
    rw [hall]
    exact .refl t
  | succ k ih =>
    have hlt : t.sent < t.logged.length := by omega
    have hsend : t.send = { t with
        sent := t.sent + 1, events := t.events ++ [.log (t.logged[t.sent])] } := by
      rw [send, List.getElem?_eq_getElem hlt]
    have hall : t.send.sendAll = t.sendAll := by
      rw [hsend]
      simp only [sendAll, List.drop_eq_getElem_cons hlt, List.map_cons, List.append_assoc,
        List.singleton_append]
    refine (goesTo_send hturn).trans ?_
    rw [← hall]
    rw [hsend]
    exact ih hturn hlt (by dsimp only; omega)

theorem send_sendAll (t : StreamedScript) : t.sendAll.send =
    match t.session.lastLine? with
    | some line => { t.sendAll with turn := .ended, events := t.sendAll.events ++ [.last line] }
    | none => { t.sendAll with turn := .asking } := by
  rw [send, sendAll, List.getElem?_eq_none (Nat.le_refl _)]

theorem map_text_sendAll (t : StreamedScript) : t.sendAll.events.map StreamEvent.text =
    t.events.map StreamEvent.text ++ (t.logged.drop t.sent).map RunService.logEvent := by
  rw [sendAll, List.map_append, List.map_map]
  rfl

theorem goesTo_reads (t : StreamedScript) (kind : StreamKind) (n : Nat) :
    t.GoesTo { t with session := t.session.run (.replicate n (.read kind)) } := by
  induction n generalizing t with
  | zero => exact .refl t
  | succ n ih => exact (t.goesTo_step (.read kind)).trans (ih _)

theorem goesTo_readStreams (kinds : List StreamKind) (hwhole : t.session.Whole)
    (hpoll : t.session.script.poll ≠ .running) : ∃ readers,
      let session : ScriptSession :=
        { t.session with script := kinds.foldl RunningScript.readStream t.session.script, readers }
      session.Whole ∧ t.GoesTo { t with session } := by
  induction kinds generalizing t with
  | nil => exact ⟨t.session.readers, hwhole, .refl t⟩
  | cons kind kinds ih =>
    obtain ⟨n, hscript, hwhole', hsame⟩ := hwhole.exists_run_read hpoll kind
    obtain ⟨script, readers, hrun⟩ := t.session.exists_run_read_eq kind n
    have hreads := t.goesTo_reads kind n
    rw [hrun] at hscript hwhole' hsame hreads
    obtain ⟨readers', hend, hgoes⟩ := ih
      (t := { t with session := { t.session with script, readers } })
      hwhole' (by rw [hsame]; exact hpoll)
    obtain rfl : script = t.session.script.readStream kind := hscript
    exact ⟨readers', hend, hreads.trans hgoes⟩

theorem goesTo_finish (hwhole : t.session.Whole) (hpoll : t.session.script.poll = .running)
    (code : Int) (kinds : List StreamKind) : ∃ readers,
      let session : ScriptSession :=
        { t.session with script := t.session.script.finish code kinds, readers }
      session.Whole ∧ t.GoesTo { t with session } := by
  obtain ⟨hexit, herror⟩ : t.session.script.exit = none ∧
      t.session.script.child.pollError = none := by
    rw [RunningScript.poll] at hpoll
    split at hpoll
    · cases hpoll
    · next herror =>
      split at hpoll
      · cases hpoll
      · next hexit => exact ⟨hexit, herror⟩
  have hstep : t.step (.exit code) = { t with session := { t.session with
      script := { t.session.script with exit := some code } } } := by
    rw [step, ScriptSession.step, hexit]
    rfl
  have hgoes := t.goesTo_step (.exit code)
  rw [hstep] at hgoes
  have hended : ({ t.session.script with exit := some code } : RunningScript).poll ≠ .running := by
    rw [RunningScript.poll, herror]
    exact Poll.noConfusion
  obtain ⟨readers, hend, hreads⟩ := goesTo_readStreams (t := { t with session := { t.session with
    script := { t.session.script with exit := some code } } }) kinds hwhole hended
  exact ⟨readers, hend, hgoes.trans hreads⟩

/-- The stream and the service agree on the script and its log. -/
structure Mirrors (t : StreamedScript) (s : RunService) : Prop where
  find?_eq : s.runner.find? t.session.id =
    if t.session.registered then some t.session.script else none
  logOf_eq : s.logOf t.session.id = t.logged
  whole : t.session.Whole
  idle : t.session.request = .idle

theorem Mirrors.exists_fetch {s : RunService} (h : t.Mirrors s) (hturn : t.turn = .asking)
    (hregistered : t.session.registered = true) (hsent : t.sent ≤ t.logged.length) :
    ∃ u : StreamedScript, t.GoesTo u.sendAll ∧ u.Mirrors (s.fetch t.session.id).1 ∧
      u.turn = .sending ∧ u.session.id = t.session.id ∧ u.sent = t.sent ∧
      u.events = t.events := by
  obtain ⟨session, answer, ⟨n, hn⟩, hidle, hanswers, hlines, hfind⟩ :=
    ScriptSession.exists_asksTo_logs (h.find?_eq.trans (if_pos hregistered)) hregistered h.idle
  have hrunner : (s.fetch t.session.id).1.runner = (s.runner.logs t.session.id).1 :=
    RunService.runner_addLog _ _ _
  have hlog : (s.fetch t.session.id).1.logOf t.session.id = t.logged ++ answer.toList := by
    rw [hlines, ← h.logOf_eq]
    exact RunService.logOf_addLog _ _ _
  subst hn
  have hgoes := goesTo_answer n hturn hidle hanswers
  refine ⟨_, hgoes.trans (goesTo_sendAll rfl ?_), ⟨?_, ?_, h.whole.run_ask n, hidle⟩, rfl,
    t.session.id_run_ask n, rfl, rfl⟩
  · rw [List.length_append]
    exact Nat.le_add_right_of_le hsent
  · rw [hrunner, t.session.id_run_ask n]
    exact hfind
  · rw [t.session.id_run_ask n]
    exact hlog

theorem Mirrors.exists_atWait {s : RunService} (h : t.Mirrors s)
    (hlast : t.session.lastLine? = none) (plan : StreamPlan) (number : Nat) :
    ∃ session s', s.atWait t.session.id plan number = .ok s' ∧
      ({ t with session } : StreamedScript).Mirrors s' ∧ t.GoesTo { t with session } ∧
      session.id = t.session.id ∧ session.registered = true := by
  obtain ⟨hregistered, hpoll⟩ := ScriptSession.lastLine?_eq_none_iff.mp hlast
  rw [RunService.atWait]
  split
  · have hfind := h.find?_eq.trans (if_pos hregistered)
    obtain ⟨readers, hwhole, hgoes⟩ := goesTo_finish h.whole hpoll plan.exit [.output, .error]
    rw [ScriptRunner.finish, hfind]
    refine ⟨{ t.session with script := t.session.script.finish plan.exit _, readers }, _, rfl,
      ⟨?_, h.logOf_eq, hwhole, h.idle⟩, hgoes, rfl, hregistered⟩
    exact (find?_put hfind _).trans (if_pos hregistered).symm
  · exact ⟨t.session, s, rfl, h, .refl t, rfl, hregistered⟩

theorem Mirrors.exists_streamFrom {s : RunService} (h : t.Mirrors s) (hturn : t.turn = .asking)
    (hregistered : t.session.registered = true) (hsent : t.sent ≤ t.logged.length)
    (plan : StreamPlan) (turns waits : Nat) :
    ∃ u, t.GoesTo u ∧ u.events.map StreamEvent.text = t.events.map StreamEvent.text ++
      (RunService.streamFrom t.session.id plan turns s t.sent waits).2.events := by
  induction turns generalizing t s waits with
  | zero => exact ⟨t, .refl t, (List.append_nil _).symm⟩
  | succ turns ih =>
    obtain ⟨u, hfetch, hmirrors, hsending, hid, hfrom, hevents⟩ :=
      h.exists_fetch hturn hregistered hsent
    have hlog := hmirrors.logOf_eq
    have hlook := ScriptSession.lastLine?_eq hmirrors.find?_eq
    have hsend := hfetch.trans (goesTo_send hsending)
    rw [send_sendAll] at hsend
    rw [hid] at hlog hlook
    have htext := u.map_text_sendAll
    rw [hevents, hfrom, ← hlog] at htext
    cases hlast : u.session.lastLine? with
    | some line =>
      rw [hlast] at hlook hsend
      refine ⟨_, hsend, ?_⟩
      rw [LogHub.streamFrom_of_last hlook, List.map_append, htext, List.append_assoc]
      rfl
    | none =>
      rw [hlast] at hlook hsend
      have hwaiting : ({ u.sendAll with turn := .asking } : StreamedScript).Mirrors
          (s.fetch t.session.id).1 := ⟨hmirrors.find?_eq, hmirrors.logOf_eq, hmirrors.whole,
        hmirrors.idle⟩
      obtain ⟨session, s', hwait, hmirrors', hgoes, hid', hregistered'⟩ :=
        hwaiting.exists_atWait hlast plan (waits + 1)
      change (s.fetch t.session.id).1.atWait u.session.id plan (waits + 1) = .ok s' at hwait
      rw [hid] at hwait
      obtain ⟨w, hw, hlater⟩ := ih hmirrors' rfl hregistered' (Nat.le_refl _) (waits + 1)
      change w.events.map StreamEvent.text = u.sendAll.events.map StreamEvent.text ++
        (RunService.streamFrom session.id plan turns s' u.logged.length (waits + 1)).2.events
        at hlater
      refine ⟨w, (hsend.trans hgoes).trans hw, ?_⟩
      rw [LogHub.streamFrom_of_wait plan turns t.sent waits hlook hwait, hlater, htext,
        List.append_assoc, hid'.trans hid, ← hlog]

/-- What the service says of a stream is one of the orders in which all can take their steps. -/
theorem exists_run_eq_stream {s : RunService} {id : Text} {script : RunningScript}
    {readers : StreamKind → StreamReader} (hfind : s.runner.find? id = some script)
    (hwhole : (start id script readers (s.logOf id)).session.Whole) (plan : StreamPlan) :
    ∃ steps, ((start id script readers (s.logOf id)).run steps).events.map StreamEvent.text =
      (s.stream id plan).2.events := by
  have hmirrors : (start id script readers (s.logOf id)).Mirrors (s.addLog id []) := by
    refine ⟨?_, ?_, hwhole, rfl⟩
    · rw [RunService.runner_addLog]
      exact hfind
    · exact (RunService.logOf_addLog s id []).trans (List.append_nil _)
  obtain ⟨u, ⟨steps, rfl⟩, hevents⟩ := hmirrors.exists_streamFrom rfl rfl (Nat.zero_le _) plan
    (plan.finishAfter.getD 0 + 2) 0
  exact ⟨steps, hevents⟩

end StreamedScript

end SasMigration
