import Mathlib.Data.List.Induction
import SasMigration.Proofs.Runner.StreamSteps

namespace SasMigration

open ScriptRunner

theorem endLine_zero_eq {code : Int} : endLine 0 = endLine code ↔ code = 0 := by
  refine ⟨fun h ↦ ?_, fun h ↦ by rw [h]⟩
  have hdigits : Text.ofInt 0 = Text.ofInt code := List.append_cancel_left h
  cases code with
  | ofNat n =>
    have hsame : Nat.toDigits 10 0 = Nat.toDigits 10 n := hdigits
    have hvalue := congrArg (Nat.ofDigitChars 10 · 0) hsame
    rw [Nat.ofDigitChars_ten_toDigits, Nat.ofDigitChars_ten_toDigits] at hvalue
    rw [← hvalue]
    rfl
  | negSucc n =>
    have hhead : some '0' = some '-' := congrArg List.head? hdigits
    exact absurd hhead (by decide)

theorem RunningScript.poll_exit (s : RunningScript) (code : Int) :
    ({ s with exit := s.exit.or (some code) } : RunningScript).poll =
      if s.poll = .running then .ended code else s.poll := by
  rw [poll, poll]
  dsimp only
  cases s.child.pollError with
  | some reason => rfl
  | none => cases s.exit <;> rfl

/-- A request counts the lines that it may still take until it has met the queue empty, and what it
knows of the end of the script is so. -/
def LogRequest.Tells (poll : Poll) : LogRequest → Prop
  | .idle => True
  | .taking left begun => left + begun.lines.length = mostLines
  | .asking begun => begun.lines.length < mostLines
  | .lookingAtOutput begun code | .lookingAtErrors begun code _ =>
    begun.lines.length < mostLines ∧ poll = .ended code
  | .leaving begun =>
    begun.lines.length < mostLines ∧ ∃ code, poll = .ended code ∧ endLine code ∈ begun.closing

namespace ScriptSession

variable {s : ScriptSession}

theorem poll_read (s : ScriptSession) (kind : StreamKind) :
    (s.read kind).script.poll = s.script.poll := RunningScript.poll_handOver ..

theorem poll_step_exit {poll : Poll} (code : Int) (h : s.script.poll = poll)
    (hpoll : poll ≠ .running) : (s.step (.exit code)).script.poll = poll := by
  rw [← h] at hpoll
  exact ((RunningScript.poll_exit s.script code).trans (if_neg hpoll)).trans h

theorem lastLine?_read (s : ScriptSession) (kind : StreamKind) :
    (s.read kind).lastLine? = s.lastLine? := by
  rw [lastLine?, poll_read]
  rfl

theorem lastLine?_exit (code : Int) {line : Text} (h : s.lastLine? = some line) :
    (s.step (.exit code)).lastLine? = some line := by
  rw [lastLine?] at h ⊢
  change (if s.registered then _ else _) = _
  cases hregistered : s.registered with
  | false =>
    rw [hregistered] at h
    exact h
  | true =>
    rw [hregistered] at h
    have hpoll : s.script.poll ≠ .running := fun hrunning ↦ by
      rw [hrunning] at h
      cases h
    rw [poll_step_exit code rfl hpoll]
    exact h

/-- A script is forgotten by a request that has met the queue empty and given out the code of the
process. -/
structure Truthful (s : ScriptSession) : Prop where
  tells : s.request.Tells s.script.poll
  forgotten : s.registered = false → ∃ code a, s.script.poll = .ended code ∧
    s.answers.getLast? = some a ∧ a.lines.length < mostLines ∧ endLine code ∈ a.closing

namespace Truthful

theorem moves (h : s.Truthful) (request : LogRequest) (htells : request.Tells s.script.poll) :
    ({ s with request } : ScriptSession).Truthful := ⟨htells, h.forgotten⟩

theorem reply (hregistered : s.registered = true) (a : LogAnswer) : (s.reply a).Truthful := by
  refine ⟨trivial, fun hforgotten ↦ ?_⟩
  cases hregistered.symm.trans hforgotten

theorem ask (h : s.Truthful) (hregistered : s.registered = true) : s.ask.Truthful := by
  have htells := h.tells
  rw [ScriptSession.ask]
  cases hrequest : s.request with
  | idle =>
    rw [if_pos hregistered]
    exact h.moves _ rfl
  | taking left begun =>
    rw [hrequest] at htells
    cases left with
    | zero => exact reply hregistered begun
    | succ left =>
      have hcount : left + 1 + begun.lines.length = mostLines := htells
      dsimp only
      cases hqueue : s.script.queue with
      | nil =>
        refine h.moves _ ?_
        change begun.lines.length < mostLines
        omega
      | cons line rest =>
        refine ⟨?_, h.forgotten⟩
        change left + (begun.lines ++ [line]).length = mostLines
        rw [List.length_append, List.length_singleton]
        omega
  | asking begun =>
    rw [hrequest] at htells
    dsimp only
    cases hpoll : s.script.poll with
    | running | failing => exact reply hregistered _
    | ended code => exact h.moves _ ⟨htells, hpoll⟩
  | lookingAtOutput begun code =>
    rw [hrequest] at htells
    exact h.moves _ htells
  | lookingAtErrors begun code outputOpen =>
    rw [hrequest] at htells
    refine h.moves _ ⟨htells.1, code, htells.2, ?_⟩
    exact List.mem_cons_of_mem _ List.mem_cons_self
  | leaving begun =>
    rw [hrequest] at htells
    obtain ⟨hcount, code, hpoll, hmem⟩ := htells
    exact ⟨trivial, fun _ ↦ ⟨code, begun, hpoll, List.getLast?_concat, hcount, hmem⟩⟩

theorem ask_answered (h : s.Truthful) {a : LogAnswer} (hregistered : s.registered = true)
    (hanswers : s.ask.answers = s.answers ++ [a]) (hkept : s.ask.registered = true) :
    a.lines.length = mostLines ∨ ∀ code, s.ask.script.poll ≠ .ended code := by
  have htells := h.tells
  have hnone : s.answers ≠ s.answers ++ [a] := fun hsame ↦ by simp at hsame
  rw [ScriptSession.ask] at hanswers hkept ⊢
  cases hrequest : s.request with
  | idle =>
    rw [hrequest] at hanswers
    dsimp only at hanswers
    rw [if_pos hregistered] at hanswers
    exact absurd hanswers hnone
  | taking left begun =>
    rw [hrequest] at htells hanswers
    cases left with
    | zero =>
      obtain rfl : begun = a := List.singleton_inj.mp (List.append_cancel_left hanswers)
      exact .inl ((Nat.zero_add _).symm.trans htells)
    | succ left =>
      dsimp only at hanswers
      cases hqueue : s.script.queue with
      | nil | cons =>
        rw [hqueue] at hanswers
        exact absurd hanswers hnone
  | asking begun =>
    rw [hrequest] at hanswers
    dsimp only at hanswers ⊢
    cases hpoll : s.script.poll with
    | running =>
      refine .inr fun code hended ↦ ?_
      cases hpoll.symm.trans hended
    | failing =>
      refine .inr fun code hended ↦ ?_
      cases hpoll.symm.trans hended
    | ended code =>
      rw [hpoll] at hanswers
      exact absurd hanswers hnone
  | lookingAtOutput | lookingAtErrors =>
    rw [hrequest] at hanswers
    exact absurd hanswers hnone
  | leaving begun =>
    rw [hrequest] at hkept
    cases hkept

theorem read (h : s.Truthful) (kind : StreamKind) : (s.read kind).Truthful := by
  refine ⟨?_, fun hforgotten ↦ ?_⟩
  · rw [poll_read]
    exact h.tells
  · rw [poll_read]
    exact h.forgotten hforgotten

theorem exit (h : s.Truthful) (code : Int) : (s.step (.exit code)).Truthful := by
  refine ⟨?_, fun hforgotten ↦ ?_⟩
  · have htells := h.tells
    change s.request.Tells _
    cases hrequest : s.request with
    | idle => trivial
    | taking | asking =>
      rw [hrequest] at htells
      exact htells
    | lookingAtOutput | lookingAtErrors =>
      rw [hrequest] at htells
      exact ⟨htells.1, poll_step_exit code htells.2 Poll.noConfusion⟩
    | leaving =>
      rw [hrequest] at htells
      obtain ⟨hcount, c, hc, hmem⟩ := htells
      exact ⟨hcount, c, poll_step_exit code hc Poll.noConfusion, hmem⟩
  · obtain ⟨c, a, hc, ha⟩ := h.forgotten hforgotten
    exact ⟨c, a, poll_step_exit code hc Poll.noConfusion, ha⟩

theorem lastLine?_cases (h : s.Truthful) {line : Text} (hline : s.lastLine? = some line) :
    (∃ reason, s.script.poll = .failing reason ∧
      line = "Error in stream logs: " ++ (Fault.raised reason).message) ∨
    ∃ code, s.script.poll = .ended code ∧ line = endLine (if s.registered then code else 0) := by
  rw [lastLine?] at hline
  cases hregistered : s.registered with
  | false =>
    obtain ⟨code, -, hpoll, -⟩ := h.forgotten hregistered
    rw [hregistered] at hline
    exact .inr ⟨code, hpoll, (Option.some.inj hline).symm⟩
  | true =>
    rw [hregistered, if_pos rfl] at hline
    cases hpoll : s.script.poll with
    | running =>
      rw [hpoll] at hline
      cases hline
    | failing reason =>
      rw [hpoll] at hline
      exact .inl ⟨reason, rfl, (Option.some.inj hline).symm⟩
    | ended code =>
      rw [hpoll] at hline
      exact .inr ⟨code, rfl, (Option.some.inj hline).symm⟩

end Truthful

end ScriptSession

namespace StreamedScript

variable {t : StreamedScript}

/-- The last answer to the stream was there when the process was not yet found at its end. -/
def AnsweredEarly (t : StreamedScript) (steps : List StreamedStep) : Prop :=
  ∃ before, before <+: steps ∧
    (t.run before).session.answers = (t.run steps).session.answers ∧
    ∀ code, (t.run before).session.script.poll ≠ .ended code

/-! What every order of steps keeps -/

/-- The lines sent are those that were logged, the answers to the stream are among these, and the
event that ends the stream says what is still so. -/
structure Sound (t : StreamedScript) : Prop where
  truthful : t.session.Truthful
  registered : t.turn = .asking → t.session.registered = true
  answered : t.turn ≠ .asking → t.session.answers ≠ []
  logged : ∀ a ∈ t.session.answers, ∀ line ∈ a.toList, line ∈ t.logged
  sent_le : t.sent ≤ t.logged.length
  lines : t.events.filterMap StreamEvent.line? = t.logged.take t.sent
  last : ∀ line, .last line ∈ t.events → t.turn = .ended ∧ t.logged.length ≤ t.sent ∧
    t.session.lastLine? = some line

namespace Sound

theorem of_session (h : t.Sound) {session : ScriptSession} (htruthful : session.Truthful)
    (hregistered : session.registered = t.session.registered)
    (hanswers : session.answers = t.session.answers)
    (hlook : ∀ line, t.session.lastLine? = some line → session.lastLine? = some line) :
    ({ t with session } : StreamedScript).Sound := by
  refine ⟨htruthful, fun hturn ↦ hregistered.trans (h.registered hturn), fun hturn ↦ ?_, ?_,
    h.sent_le, h.lines, fun line hline ↦ ?_⟩
  · rw [hanswers]
    exact h.answered hturn
  · rw [hanswers]
    exact h.logged
  · obtain ⟨hturn, hsent, hline⟩ := h.last line hline
    exact ⟨hturn, hsent, hlook line hline⟩

theorem ask (h : t.Sound) (hturn : t.turn = .asking) : t.ask.Sound := by
  have htruthful := h.truthful.ask (h.registered hturn)
  have hnone (line : Text) : .last line ∉ t.events := fun hline ↦ by
    cases hturn.symm.trans (h.last line hline).1
  rw [StreamedScript.ask]
  rcases ScriptSession.ask_cases t.session with ⟨hrequest, hanswers, hregistered⟩ |
    ⟨a, hrequest, hanswers⟩
  · rw [if_neg hrequest, hanswers, List.drop_length, List.flatMap_nil, List.append_nil]
    refine ⟨htruthful, fun _ ↦ hregistered.trans (h.registered hturn), fun hne ↦ absurd rfl hne, ?_,
      h.sent_le, h.lines, fun line hline ↦ absurd hline (hnone line)⟩
    rw [hanswers]
    exact h.logged
  · rw [if_pos hrequest, hanswers, List.drop_left, List.flatMap_singleton]
    refine ⟨htruthful, StreamTurn.noConfusion, fun _ ↦ ?_, fun b hb line hline ↦ ?_, ?_, ?_,
      fun line hline ↦ absurd hline (hnone line)⟩
    · rw [hanswers]
      exact List.concat_ne_nil _ _
    · rw [hanswers] at hb
      rcases List.mem_append.mp hb with hb | hb
      · exact List.mem_append_left _ (h.logged b hb line hline)
      · exact List.mem_append_right _ (List.mem_singleton.mp hb ▸ hline)
    · rw [List.length_append]
      exact Nat.le_add_right_of_le h.sent_le
    · rw [List.take_append_of_le_length h.sent_le]
      exact h.lines

theorem send (h : t.Sound) (hturn : t.turn = .sending) : t.send.Sound := by
  have hnone (line : Text) : .last line ∉ t.events := fun hline ↦ by
    cases hturn.symm.trans (h.last line hline).1
  have hanswers : t.session.answers ≠ [] := h.answered (by rw [hturn]; exact StreamTurn.noConfusion)
  rw [StreamedScript.send]
  cases hnext : t.logged[t.sent]? with
  | some line =>
    have hlt : t.sent < t.logged.length := (List.getElem?_eq_some_iff.mp hnext).1
    refine ⟨h.truthful, fun hasking ↦ ?_, fun _ ↦ hanswers, h.logged, hlt, ?_, fun last hlast ↦ ?_⟩
    · cases hturn.symm.trans hasking
    · rw [List.filterMap_append, h.lines, List.take_add_one, hnext]
      rfl
    · simp [hnone] at hlast
  | none =>
    have hle : t.logged.length ≤ t.sent := List.getElem?_eq_none_iff.mp hnext
    dsimp only
    cases hlook : t.session.lastLine? with
    | none =>
      have hregistered := (ScriptSession.lastLine?_eq_none_iff.mp hlook).1
      exact ⟨h.truthful, fun _ ↦ hregistered, fun _ ↦ hanswers, h.logged, h.sent_le, h.lines,
        fun last hlast ↦ absurd hlast (hnone last)⟩
    | some line =>
      refine ⟨h.truthful, StreamTurn.noConfusion, fun _ ↦ hanswers, h.logged, h.sent_le, ?_,
        fun last hlast ↦ ?_⟩
      · rw [List.filterMap_append, h.lines]
        simp [StreamEvent.line?]
      · obtain rfl : last = line := by simpa [hnone] using hlast
        exact ⟨rfl, hle, hlook⟩

theorem step (h : t.Sound) (a : StreamedStep) : (t.step a).Sound := by
  cases a with
  | read kind =>
    refine h.of_session (h.truthful.read kind) rfl rfl fun line hline ↦ ?_
    exact (t.session.lastLine?_read kind).trans hline
  | exit code =>
    exact h.of_session (h.truthful.exit code) rfl rfl fun _ ↦ ScriptSession.lastLine?_exit code
  | go =>
    rw [StreamedScript.step]
    cases hturn : t.turn with
    | asking => exact h.ask hturn
    | sending => exact h.send hturn
    | ended => exact h

theorem step_answers (h : t.Sound) (a : StreamedStep) :
    ((t.step a).session.answers = t.session.answers ∧
      (t.step a).session.registered = t.session.registered) ∨
    ∃ answer, (t.step a).session.answers = t.session.answers ++ [answer] ∧
      ((t.step a).session.registered = true → answer.lines.length = mostLines ∨
        ∀ code, (t.step a).session.script.poll ≠ .ended code) := by
  cases a with
  | read kind => exact .inl ⟨rfl, rfl⟩
  | exit code => exact .inl ⟨rfl, rfl⟩
  | go =>
    rw [StreamedScript.step]
    cases hturn : t.turn with
    | asking =>
      rcases ScriptSession.ask_cases t.session with ⟨-, hsame⟩ | ⟨answer, -, hanswers⟩
      · exact .inl hsame
      · exact .inr ⟨answer, hanswers, h.truthful.ask_answered (h.registered hturn) hanswers⟩
    | sending =>
      dsimp only
      rw [session_send]
      exact .inl ⟨rfl, rfl⟩
    | ended => exact .inl ⟨rfl, rfl⟩

theorem run (h : t.Sound) (steps : List StreamedStep) : (t.run steps).Sound := by
  induction steps generalizing t with
  | nil => exact h
  | cons a steps ih => exact ih (h.step a)

theorem answers_run (h : t.Sound) (steps : List StreamedStep) :
    t.session.answers <+: (t.run steps).session.answers := by
  induction steps generalizing t with
  | nil => exact List.prefix_rfl
  | cons a steps ih =>
    refine List.IsPrefix.trans ?_ (ih (h.step a))
    rcases h.step_answers a with ⟨hsame, -⟩ | ⟨answer, hanswers, -⟩
    · exact ⟨[], (List.append_nil _).trans hsame.symm⟩
    · rw [hanswers]
      exact List.prefix_append _ _

theorem registered_run (h : t.Sound) (steps : List StreamedStep)
    (hanswers : (t.run steps).session.answers = t.session.answers) :
    (t.run steps).session.registered = t.session.registered := by
  induction steps generalizing t with
  | nil => rfl
  | cons a steps ih =>
    change ((t.step a).run steps).session.answers = t.session.answers at hanswers
    rcases h.step_answers a with ⟨hsame, hregistered⟩ | ⟨answer, hanswer, -⟩
    · exact (ih (h.step a) (hanswers.trans hsame.symm)).trans hregistered
    · have hle := ((h.step a).answers_run steps).length_le
      rw [hanswers, hanswer, List.length_append, List.length_singleton] at hle
      omega

/-- The script is still registered after a run of the stream exactly if the last answer was as long
as it can be, or was given before the process was found at its end. -/
theorem registered_run_iff (h : t.Sound) (hstart : t.session.answers = [])
    (steps : List StreamedStep) {a : LogAnswer}
    (ha : (t.run steps).session.answers.getLast? = some a) :
    (t.run steps).session.registered = true ↔
      a.lines.length = mostLines ∨ t.AnsweredEarly steps := by
  constructor
  · intro hregistered
    -- on the steps from the last one back, to the step that gave the answer
    induction steps using List.reverseRecOn with
    | nil =>
      cases (congrArg List.getLast? hstart).symm.trans ha
    | append_singleton steps x ih =>
      rw [AnsweredEarly]
      rw [run_concat] at ha hregistered ⊢
      rcases (h.run steps).step_answers x with ⟨hsame, hsame'⟩ | ⟨answer, hanswer, hkept⟩
      · rw [hsame] at ha ⊢
        refine (ih ha (hsame'.symm.trans hregistered)).imp_right ?_
        rintro ⟨before, hbefore, hrest⟩
        exact ⟨before, hbefore.trans (List.prefix_append _ _), hrest⟩
      · rw [hanswer, List.getLast?_concat] at ha
        cases ha
        refine (hkept hregistered).imp_right fun hpoll ↦ ⟨steps ++ [x], List.prefix_rfl, ?_⟩
        rw [run_concat]
        exact ⟨rfl, hpoll⟩
  · intro hreason
    rw [← Bool.not_eq_false]
    intro hforgotten
    rcases hreason with hlength | ⟨before, ⟨after, rfl⟩, hanswers, hpoll⟩
    · obtain ⟨-, b, -, hb, hlt, -⟩ := (h.run steps).truthful.forgotten hforgotten
      cases hb.symm.trans ha
      exact absurd hlength (Nat.ne_of_lt hlt)
    · rw [run_append] at hanswers hforgotten
      rw [(h.run before).registered_run after hanswers.symm] at hforgotten
      obtain ⟨code, -, hended, -⟩ := (h.run before).truthful.forgotten hforgotten
      exact hpoll code hended

theorem log_mem_events (h : t.Sound) (hall : t.logged.length ≤ t.sent) {code : Int}
    (hpoll : t.session.script.poll = .ended code) (hforgotten : t.session.registered = false) :
    .log (endLine code) ∈ t.events := by
  obtain ⟨c, a, hc, ha, -, hmem⟩ := h.truthful.forgotten hforgotten
  cases hc.symm.trans hpoll
  have hline : endLine code ∈ t.events.filterMap StreamEvent.line? := by
    rw [h.lines, List.take_of_length_le hall]
    exact h.logged a (List.mem_of_getLast? ha) _ (List.mem_append_right _ hmem)
  obtain ⟨e, he, hsome⟩ := List.mem_filterMap.mp hline
  cases e with
  | log line =>
    cases hsome
    exact he
  | last line => cases hsome

end Sound

theorem sound_start (id : Text) (script : RunningScript) (readers : StreamKind → StreamReader)
    (logged : List Text) : (start id script readers logged).Sound := by
  refine ⟨⟨trivial, Bool.noConfusion⟩, fun _ ↦ rfl, fun hturn ↦ absurd rfl hturn,
    fun _ ha ↦ ?_, Nat.zero_le _, rfl, fun _ hlast ↦ ?_⟩
  · cases ha
  · cases hlast

/-- In whatever order the readers, the process and the stream take their steps, the event that ends
a stream because the process ended states the code of the process if that is 0 or the script is
still registered, and 0 otherwise; the code has then been sent as a line of the log. The script is
still registered exactly if the last answer to the stream was as long as it can be or was given
before the process was found at its end. What the service says of a stream is one of these orders,
and of a script that had ended before, with its readers, the lines in the queue decide. -/
theorem last_event_states_code_iff {s : RunService} {id : Text} {script : RunningScript}
    (hfind : s.runner.find? id = some script) (readers : StreamKind → StreamReader) :
    let stream := start id script readers (s.logOf id)
    (∀ steps line, let t := stream.run steps
      .last line ∈ t.events →
        (∃ reason, t.session.script.poll = .failing reason ∧
          line = "Error in stream logs: " ++ (Fault.raised reason).message) ∨
        ∃ code a, t.session.script.poll = .ended code ∧ t.session.answers.getLast? = some a ∧
          line = endLine (if t.session.registered then code else 0) ∧
          (line = endLine code ↔ code = 0 ∨ t.session.registered = true) ∧
          (t.session.registered = true ↔
            a.lines.length = mostLines ∨ stream.AnsweredEarly steps) ∧
          (t.session.registered = false → .log (endLine code) ∈ t.events)) ∧
    (stream.session.Whole → ∀ plan, ∃ steps,
      (stream.run steps).events.map StreamEvent.text = (s.stream id plan).2.events) ∧
    ∀ code plan, script.poll = .ended code → script.outputOpen = false →
      script.errorsOpen = false → (s.stream id plan).2.events.getLast? =
        some (RunService.endEvent (if script.queue.length < mostLines then 0 else code)) := by
  intro stream
  refine ⟨?_, exists_run_eq_stream hfind, fun code plan hpoll _ _ ↦ ?_⟩
  · intro steps line t hlast
    have hstart : stream.Sound := sound_start id script readers (s.logOf id)
    have hsound : t.Sound := hstart.run steps
    obtain ⟨hturn, hall, hlook⟩ := hsound.last line hlast
    have hanswers : t.session.answers ≠ [] :=
      hsound.answered (by rw [hturn]; exact StreamTurn.noConfusion)
    refine (hsound.truthful.lastLine?_cases hlook).imp_right ?_
    rintro ⟨code, hpoll, hline⟩
    have ha := List.getLast?_eq_some_getLast hanswers
    refine ⟨code, _, hpoll, ha, hline, ?_, hstart.registered_run_iff rfl steps ha,
      hsound.log_mem_events hall hpoll⟩
    rw [hline]
    cases t.session.registered with
    | true => simp
    | false => simpa using endLine_zero_eq
  · rw [RunService.stream_of_ended hfind hpoll]
    exact List.getLast?_concat

/-- A script ends with code 3. If it ends when the stream has its answer, the code is stated; if it
ends before, the stream forgets the script first and says 0. -/
theorem last_event_states_code_iff_three :
    let child : ChildProcess := ⟨[], [], none, none, none⟩
    let script : RunningScript := ⟨4000, child, none, [], true, true, .int 1000⟩
    let runner := ScriptRunner.fresh .numbered ⟨"venv", false, "python"⟩ false .empty
    let s := RunService.start { runner with scripts := [("id-0", script)] }
    let stream := start "id-0" script (fun kind ↦ .opening (child.reads kind)) (s.logOf "id-0")
    let late : List StreamedStep := .replicate 3 .go ++ .exit 3 :: .replicate 2 .go
    let early : List StreamedStep := .exit 3 :: .replicate 11 .go
    s.runner.find? "id-0" = some script ∧
      .last (endLine 3) ∈ (stream.run late).events ∧
      (stream.run late).session.registered = true ∧
      .last (endLine 0) ∈ (stream.run early).events ∧
      .log (endLine 3) ∈ (stream.run early).events ∧ ¬ stream.AnsweredEarly early := by
  intro child script runner s stream late early
  have hfind : s.runner.find? "id-0" = some script := rfl
  obtain ⟨hall, -⟩ := last_event_states_code_iff hfind fun kind ↦ .opening (child.reads kind)
  -- the two runs are evaluated here and not looked into after that
  generalize hst : start _ script _ _ = st at hall
  have hlate : .last (endLine 3) ∈ (st.run late).events := by
    rw [← hst]
    decide +kernel
  have hpoll : (st.run late).session.script.poll = .ended 3 := by
    rw [← hst]
    decide +kernel
  have hearly : .last (endLine 0) ∈ (st.run early).events := by
    rw [← hst]
    decide +kernel
  have hpoll' : (st.run early).session.script.poll = .ended 3 := by
    rw [← hst]
    decide +kernel
  have hforgotten : (st.run early).session.registered = false := by
    rw [← hst]
    decide +kernel
  rw [show stream = st from hst]
  refine ⟨hfind, hlate, ?_, hearly, ?_⟩
  · rcases hall late _ hlate with ⟨reason, hfailing, -⟩ | ⟨code, a, hcode, -, -, hiff, -⟩
    · cases hpoll.symm.trans hfailing
    · cases hpoll.symm.trans hcode
      exact (hiff.mp rfl).resolve_left (by decide)
  · rcases hall early _ hearly with ⟨reason, hfailing, -⟩ | ⟨code, a, hcode, -, -, -, hiff, hlog⟩
    · cases hpoll'.symm.trans hfailing
    · cases hpoll'.symm.trans hcode
      refine ⟨hlog hforgotten, fun hanswered ↦ ?_⟩
      exact Bool.false_ne_true (hforgotten.symm.trans (hiff.mpr (.inr hanswered)))

end StreamedScript

/-- A script ends with code 3 before its log is streamed, and the stream says that the code is 0. -/
theorem RunService.exists_stream_with_other_code :
    let child : ChildProcess := ⟨[], [], none, none, none⟩
    let runner := ((ScriptRunner.fresh .numbered ⟨"venv", false, "python"⟩ false .empty).launch
      "id-0" child).1
    ∃ ended script, runner.finish "id-0" 3 [.output, .error] = .ok ended ∧
      ended.find? "id-0" = some script ∧ script.poll = .ended 3 ∧
      ∀ plan, ((start ended).stream "id-0" plan).2.events.getLast? = some (endEvent 0) ∧
        endEvent 0 ≠ endEvent 3 := by
  intro child runner
  refine ⟨_, _, rfl, rfl, rfl, fun plan ↦ ⟨?_, by decide +kernel⟩⟩
  rw [stream_of_ended rfl rfl, List.getLast?_concat]
  exact congrArg (some ∘ endEvent) (if_pos (by decide +kernel))

end SasMigration
