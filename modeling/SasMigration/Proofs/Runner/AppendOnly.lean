import SasMigration.Proofs.Runner.Streams

namespace SasMigration

theorem find?_map_other {α : Type} (l : List (Text × α)) {key other : Text} (h : other ≠ key)
    (f : α → α) : (l.map fun e ↦ if e.1 = other then (other, f e.2) else e).find?
      (fun e ↦ e.1 == key) = l.find? fun e ↦ e.1 == key := by
  induction l with
  | nil => rfl
  | cons e l ih =>
    by_cases he : e.1 = other
    · simp [he, h, ih]
    · simp [he, List.find?_cons, ih]

namespace RunService

variable {s s' s'' : RunService} {id : Text} {id? : Option Text}

theorem stored?_addLog_other (s : RunService) {id other : Text} (h : other ≠ id)
    (lines : List Text) : (s.addLog other lines).stored? id = s.stored? id := by
  rw [addLog]
  split
  · rw [stored?, find?_map_other s.logs h (· ++ lines)]
    rfl
  · simp [stored?, List.find?_append, h]

/-- Logs grow at their end, and only the one named may grow. -/
structure Grows (id? : Option Text) (s s' : RunService) : Prop where
  stored?_eq (id : Text) (h : id? ≠ some id) : s'.stored? id = s.stored? id
  exists_append (id : Text) (log : List Text) (h : s.stored? id = some log) :
    ∃ new, s'.stored? id = some (log ++ new)

theorem Grows.trans (h : Grows id? s s') (h' : Grows id? s' s'') : Grows id? s s'' := by
  refine ⟨fun id hid ↦ (h'.stored?_eq id hid).trans (h.stored?_eq id hid), fun id log hlog ↦ ?_⟩
  obtain ⟨new, hnew⟩ := h.exists_append id log hlog
  obtain ⟨more, hmore⟩ := h'.exists_append id _ hnew
  exact ⟨new ++ more, by rw [hmore, List.append_assoc]⟩

theorem grows_runner (id? : Option Text) (s : RunService) (runner : ScriptRunner) :
    Grows id? s { s with runner } :=
  ⟨fun _ _ ↦ rfl, fun _ log hlog ↦ ⟨[], by rw [List.append_nil]; exact hlog⟩⟩

theorem grows_addLog (s : RunService) (id : Text) (lines : List Text) :
    Grows (some id) s (s.addLog id lines) := by
  have hother (id' : Text) (h : id ≠ id') : (s.addLog id lines).stored? id' = s.stored? id' :=
    stored?_addLog_other s h lines
  refine ⟨fun id' h ↦ hother id' fun he ↦ h (congrArg some he), fun id' log hlog ↦ ?_⟩
  by_cases he : id = id'
  · subst he
    have hof : s.logOf id = log := congrArg (·.getD []) hlog
    exact ⟨lines, by rw [stored?_addLog, hof]⟩
  · exact ⟨[], by rw [hother id' he, hlog, List.append_nil]⟩

theorem grows_fetch (s : RunService) (id : Text) : Grows (some id) s (s.fetch id).1 :=
  (grows_runner _ s _).trans (grows_addLog _ id _)

theorem grows_run (s : RunService) (world : PackageWorld) (child : ChildProcess) (r : RunRequest) :
    Grows (s.run world child r).2.1.toOption s (s.run world child r).1 := by
  rw [run]
  split
  · exact (grows_runner _ s _).trans (grows_addLog _ _ [])
  · exact grows_runner _ s _

theorem grows_stop (id? : Option Text) (s : RunService) (id : Text) :
    Grows id? s (s.stop id).1 := by
  rw [stop]
  split <;> exact grows_runner _ s _

theorem Grows.logOf_begins (h : Grows id? s s') (id : Text) : s.logOf id <+: s'.logOf id := by
  cases hlog : s.stored? id with
  | none =>
    have hof : s.logOf id = [] := congrArg (·.getD []) hlog
    exact hof ▸ List.nil_prefix
  | some log =>
    obtain ⟨new, hnew⟩ := h.exists_append id log hlog
    have hof : s.logOf id = log := congrArg (·.getD []) hlog
    have hof' : s'.logOf id = log ++ new := congrArg (·.getD []) hnew
    exact ⟨new, by rw [hof, hof']⟩

end RunService

namespace LogStream

open RunService

variable {s s' : RunService} {st : LogStream} {id? : Option Text}

/-- The lines sent are those at the front of the log, as many as the stream has counted. -/
structure IsFaithful (st : LogStream) (s : RunService) : Prop where
  sent_le : st.sent ≤ (s.logOf st.id).length
  lines_eq : st.lines = (s.logOf st.id).take st.sent

theorem IsFaithful.grows (h : st.IsFaithful s) (hs : Grows id? s s') : st.IsFaithful s' := by
  have hgrown := hs.logOf_begins st.id
  refine ⟨Nat.le_trans h.sent_le hgrown.length_le, ?_⟩
  obtain ⟨new, hnew⟩ := hgrown
  rw [h.lines_eq, ← hnew, List.take_append_of_le_length h.sent_le]

theorem lines_event (st : LogStream) (sent : Nat) (phase : StreamPhase) (e : StreamEvent) :
    ({ st with sent, phase, events := st.events ++ [e] } : LogStream).lines =
      st.lines ++ e.line?.toList := by
  rw [lines, lines, List.filterMap_append]
  cases e <;> rfl

theorem isFaithful_start (id : Text) (s : RunService) : (start id).IsFaithful s :=
  ⟨Nat.zero_le _, rfl⟩

theorem IsFaithful.rest (h : st.IsFaithful s) : (st.rest s).IsFaithful s := by
  rw [LogStream.rest]
  split
  · exact ⟨h.sent_le, (lines_event st _ _ _).trans ((List.append_nil _).trans h.lines_eq)⟩
  · exact ⟨h.sent_le, h.lines_eq⟩

theorem IsFaithful.send (h : st.IsFaithful s) : (st.send s).IsFaithful s := by
  rw [LogStream.send]
  split
  · next line hline =>
    obtain ⟨hlt, hget⟩ := List.getElem?_eq_some_iff.mp hline
    refine ⟨hlt, (lines_event st _ _ _).trans ?_⟩
    rw [h.lines_eq, List.take_add_one, hline]
    rfl
  · exact h.rest

theorem grows_turn (st : LogStream) (s : RunService) : Grows (some st.id) s (st.turn s).1 :=
  grows_fetch s st.id

theorem grows_resume (st : LogStream) (s : RunService) : Grows (some st.id) s (st.resume s).1 := by
  have hsame : Grows (some st.id) s s := grows_runner _ s s.runner
  rw [resume]
  split
  · exact (grows_addLog s st.id []).trans (grows_turn st _)
  · exact hsame
  · exact grows_turn st s
  · exact hsame
  · exact hsame

theorem IsFaithful.turn (h : st.IsFaithful s) : (st.turn s).2.IsFaithful (st.turn s).1 :=
  (h.grows (grows_fetch s st.id)).send

theorem IsFaithful.resume (h : st.IsFaithful s) : (st.resume s).2.IsFaithful (st.resume s).1 := by
  rw [LogStream.resume]
  split
  · exact (h.grows (grows_addLog s st.id [])).turn
  · exact h.send
  · exact h.turn
  · exact ⟨h.sent_le, h.lines_eq⟩
  · exact h

end LogStream

namespace LogHub

open RunService

variable {h : LogHub}

def target? (h : LogHub) : HubStep → Option Text
  | .run world child request => (h.service.run world child request).2.1.toOption
  | .fetch id | .status id | .stop id | .stream id => some id
  | .resume index => h.streams[index]?.map (·.id)
  | .change _ => none

def answersTo (h : LogHub) (id : Text) : List (List Text) :=
  (h.answers.filter fun a ↦ a.1 = id).map (·.2)

theorem grows_step (h : LogHub) (a : HubStep) :
    Grows (h.target? a) h.service (h.step a).service := by
  have hsame (id? : Option Text) : Grows id? h.service h.service :=
    grows_runner id? h.service h.service.runner
  cases a with
  | run world child request => exact grows_run h.service world child request
  | fetch id => exact grows_fetch h.service id
  | status id => exact hsame _
  | stop id => exact grows_stop _ h.service id
  | stream id => exact hsame _
  | resume index =>
    rw [step, target?]
    split
    · exact hsame _
    · next st hst =>
      rw [hst]
      exact st.grows_resume h.service
  | change runner => exact grows_runner _ h.service runner

theorem grows_run (h : LogHub) (steps : List HubStep) (id : Text) (log : List Text)
    (hlog : h.service.stored? id = some log) :
    ∃ new, (h.run steps).service.stored? id = some (log ++ new) := by
  induction steps generalizing h log with
  | nil => exact ⟨[], by rw [List.append_nil]; exact hlog⟩
  | cons a steps ih =>
    obtain ⟨new, hnew⟩ := (h.grows_step a).exists_append id log hlog
    obtain ⟨more, hmore⟩ := ih (h.step a) _ hnew
    exact ⟨new ++ more, hmore.trans (by rw [List.append_assoc])⟩

/-- All streams are faithful, and each answer begins every later one and the log itself. -/
structure IsOrdered (h : LogHub) : Prop where
  isFaithful : ∀ st ∈ h.streams, st.IsFaithful h.service
  pairwise (id : Text) : (h.answersTo id).Pairwise (· <+: ·)
  prefix_logOf (id : Text) : ∀ log ∈ h.answersTo id, log <+: h.service.logOf id

theorem isOrdered_start (service : RunService) : (start service).IsOrdered :=
  ⟨by simp [start], fun _ ↦ .nil, by simp [start, answersTo]⟩

theorem isFaithful_step (hs : ∀ st ∈ h.streams, st.IsFaithful h.service) (a : HubStep) :
    ∀ st ∈ (h.step a).streams, st.IsFaithful (h.step a).service := by
  have hkept (st : LogStream) (hst : st ∈ h.streams) : st.IsFaithful (h.step a).service :=
    (hs st hst).grows (h.grows_step a)
  cases a with
  | stream id =>
    intro st hst
    rcases List.mem_append.mp hst with hst | hst
    · exact hkept st hst
    · exact List.mem_singleton.mp hst ▸ LogStream.isFaithful_start id _
  | resume index =>
    cases hget : h.streams[index]? with
    | none =>
      have hstep : h.step (.resume index) = h := by rw [step, hget]
      rw [hstep]
      exact hs
    | some old =>
      have hstep : h.step (.resume index) = { h with
          service := (old.resume h.service).1
          streams := h.streams.set index (old.resume h.service).2 } := by rw [step, hget]
      rw [hstep] at hkept ⊢
      intro st hst
      rcases List.mem_or_eq_of_mem_set hst with hst | rfl
      · exact hkept st hst
      · exact (hs old (List.mem_of_getElem? hget)).resume
  | run | fetch | status | stop | change => exact hkept

theorem answersTo_step (h : LogHub) (a : HubStep) (id : Text) :
    (h.step a).answersTo id = h.answersTo id ∨
      (h.step a).answersTo id = h.answersTo id ++ [(h.step a).service.logOf id] := by
  cases a with
  | fetch id' =>
    by_cases hid : id' = id
    · subst hid
      refine .inr ?_
      simp [answersTo, step, fetch]
    · refine .inl ?_
      simp [answersTo, step, hid]
  | resume index =>
    refine .inl ?_
    rw [step]
    split <;> rfl
  | run | status | stop | stream | change => exact .inl rfl

theorem IsOrdered.step (ho : h.IsOrdered) (a : HubStep) : (h.step a).IsOrdered := by
  have hgrown (id : Text) : ∀ log ∈ h.answersTo id, log <+: (h.step a).service.logOf id :=
    fun log hlog ↦ (ho.prefix_logOf id log hlog).trans ((h.grows_step a).logOf_begins id)
  refine ⟨isFaithful_step ho.isFaithful a, fun id ↦ ?_, fun id ↦ ?_⟩
  · rcases h.answersTo_step a id with hsame | hnew
    · exact hsame ▸ ho.pairwise id
    · rw [hnew, List.pairwise_append]
      refine ⟨ho.pairwise id, List.pairwise_singleton _ _, fun log hlog log' hlog' ↦ ?_⟩
      exact List.mem_singleton.mp hlog' ▸ hgrown id log hlog
  · rcases h.answersTo_step a id with hsame | hnew
    · exact hsame ▸ hgrown id
    · rw [hnew]
      refine List.forall_mem_append.mpr ⟨hgrown id, fun log hlog ↦ ?_⟩
      exact List.mem_singleton.mp hlog ▸ List.prefix_rfl

theorem IsOrdered.run (ho : h.IsOrdered) (steps : List HubStep) : (h.run steps).IsOrdered := by
  induction steps generalizing h with
  | nil => exact ho
  | cons a steps ih => exact ih (ho.step a)

/-- In every order of requests and streams, a log that is kept only grows at its end, so that each
answer begins every later one about the same script; the lines that a stream has sent are those at
the front of the log of its script, as many as the stream has counted; and a step about one script
leaves the logs of all others as they are. -/
theorem logs_only_grow (service : RunService) (steps : List HubStep) :
    let h := (start service).run steps
    (∀ more id log, h.service.stored? id = some log →
      ∃ new, (h.run more).service.stored? id = some (log ++ new)) ∧
    (∀ id, (h.answersTo id).Pairwise (· <+: ·)) ∧
    (∀ st ∈ h.streams, st.sent ≤ (h.service.logOf st.id).length ∧
      st.lines = (h.service.logOf st.id).take st.sent) ∧
    (∀ a id, h.target? a ≠ some id → (h.step a).service.stored? id = h.service.stored? id) := by
  intro h
  have ho : h.IsOrdered := (isOrdered_start service).run steps
  refine ⟨h.grows_run, ho.pairwise, fun st hst ↦ ?_, fun a id hid ↦ ?_⟩
  · have hfaithful := ho.isFaithful st hst
    exact ⟨hfaithful.sent_le, hfaithful.lines_eq⟩
  · exact (h.grows_step a).stored?_eq id hid

/-- Two streams on one script, of which the second takes the lines that the first has not seen. -/
theorem logs_only_grow_shared :
    let script : RunningScript :=
      ⟨4000, ⟨[], [], none, none, none⟩, none, ["x", "y"], true, true, .int 1000⟩
    let runner := ScriptRunner.fresh .numbered ⟨"venv", false, "python"⟩ false .empty
    let service := RunService.start { runner with scripts := [("id-0", script)] }
    let h := (start service).run
      [.stream "id-0", .resume 0, .stream "id-0", .resume 1, .resume 1, .fetch "id-0", .resume 0]
    let st : LogStream :=
      ⟨"id-0", 2, .sending, [.log "DEBUG: Queue size: 2", .log "x"]⟩
    h.streams[0]? = some st ∧ st.lines = (h.service.logOf "id-0").take 2 ∧
      h.target? (.fetch "id-1") ≠ some "id-0".toList ∧
      (h.step (.fetch "id-1")).service.stored? "id-0" = h.service.stored? "id-0" := by
  intro script runner service h st
  obtain ⟨-, -, hlines, hother⟩ := logs_only_grow service
    [.stream "id-0", .resume 0, .stream "id-0", .resume 1, .resume 1, .fetch "id-0", .resume 0]
  have hget : h.streams[0]? = some st := by decide +kernel
  have htarget : h.target? (.fetch "id-1") ≠ some "id-0".toList := by decide +kernel
  exact ⟨hget, (hlines st (List.mem_of_getElem? hget)).2, htarget, hother _ _ htarget⟩

end LogHub

end SasMigration
