import SasMigration.Proofs.Runner.Interleaving

namespace SasMigration

namespace StreamKind

def lineOf (kind : StreamKind) : StreamRead → List Text
  | .line t => kind.handOn t
  | .failing _ => []

/-- The lines that a reader makes of all that is written to a stream. -/
def written (kind : StreamKind) (reads : List StreamRead) : List Text := reads.flatMap kind.lineOf

def among (kind : StreamKind) (lines : List (StreamKind × Text)) : List Text :=
  (lines.filter fun l ↦ l.1 = kind).map (·.2)

theorem among_append (kind : StreamKind) (lines more : List (StreamKind × Text)) :
    kind.among (lines ++ more) = kind.among lines ++ kind.among more := by
  simp [among]

theorem among_map_pair (kind : StreamKind) (lines : List Text) :
    kind.among (lines.map fun l ↦ (kind, l)) = lines := by
  simp [among, List.filter_map, Function.comp_def]

theorem among_map_other {kind other : StreamKind} (h : other ≠ kind) (lines : List Text) :
    kind.among (lines.map fun l ↦ (other, l)) = [] := by
  simp [among, List.filter_map, Function.comp_def, h]

end StreamKind

namespace StreamReader

variable {kind : StreamKind} {poll : Poll} {r : StreamReader}

theorem unread_atGap (kind : StreamKind) (poll : Poll) (rest : List StreamRead) :
    (atGap kind poll rest).2.unread = rest := by
  cases poll <;> rfl

theorem exists_written_step (kind : StreamKind) (poll : Poll) (r : StreamReader) :
    ∃ lines, lines.Sublist (r.step kind poll).1 ∧
      kind.written r.unread = lines ++ kind.written (r.step kind poll).2.unread := by
  match r with
  | .opening reads => exact ⟨[], List.nil_sublist _, rfl⟩
  | .reading [] => exact ⟨[], List.nil_sublist _, by rw [step, unread_atGap]; rfl⟩
  | .reading (.failing reason :: rest) => exact ⟨[], List.nil_sublist _, rfl⟩
  | .reading (.line [] :: rest) =>
    exact ⟨[], List.nil_sublist _, by rw [step, unread_atGap]; rfl⟩
  | .reading (.line (c :: t) :: rest) => exact ⟨kind.handOn (c :: t), .refl _, rfl⟩
  | .closing rest => exact ⟨[], List.nil_sublist _, rfl⟩
  | .closed rest => exact ⟨[], List.nil_sublist _, rfl⟩

theorem step_of_closed (h : r.isOpen = false) : r.step kind poll = ([], r) := by
  cases r with
  | closed rest => rfl
  | opening | reading | closing => cases h

end StreamReader

namespace ScriptSession

open ScriptRunner

variable {s t : ScriptSession}

/-- What one step of a request can do. -/
inductive Asked (s : ScriptSession) : ScriptSession → Prop
  | moves (request : LogRequest) (hlines : request.lines = s.request.lines)
    (hempty : request.metEmpty = true → s.request.metEmpty = true ∨ s.script.queue = []) :
    Asked s { s with request }
  | takes {left : Nat} {begun : LogAnswer} {line : Text} {rest : List Text}
    (hrequest : s.request = .taking (left + 1) begun) (hqueue : s.script.queue = line :: rest) :
    Asked s
      { s with
        script := { s.script with queue := rest }
        request := .taking left { begun with lines := begun.lines ++ [line] } }
  | replies (a : LogAnswer) (hlines : a.lines = s.request.lines) : Asked s (s.reply a)
  | leaves {begun : LogAnswer} (hrequest : s.request = .leaving begun) :
    Asked s { s.reply begun with registered := false }

theorem asked_ask (s : ScriptSession) : s.Asked s.ask := by
  rw [ask]
  split
  · next h =>
    split
    · exact .moves _ (by rw [h]; rfl) Bool.noConfusion
    · exact .replies _ (by rw [h]; rfl)
  · next h => exact .replies _ (by rw [h]; rfl)
  · next h =>
    split
    · next hqueue => exact .moves _ (by rw [h]; rfl) fun _ ↦ .inr hqueue
    · next hqueue => exact .takes h hqueue
  · next h =>
    split
    · exact .replies _ (by rw [h]; rfl)
    · exact .replies _ (by rw [h]; rfl)
    · exact .moves _ (by rw [h]; rfl) fun _ ↦ .inl (by rw [h]; rfl)
  · next h => exact .moves _ (by rw [h]; rfl) fun _ ↦ .inl (by rw [h]; rfl)
  · next h => exact .moves _ (by rw [h]; rfl) fun _ ↦ .inl (by rw [h]; rfl)
  · next h => exact .leaves h

/-! Where the lines are -/

def taken (s : ScriptSession) : List Text := s.answers.flatMap (·.lines) ++ s.request.lines

def put (s : ScriptSession) : List Text := s.taken ++ s.script.queue

def returned (s : ScriptSession) : List Text := s.answers.flatMap LogAnswer.toList

theorem taken_reply {a : LogAnswer} (h : a.lines = s.request.lines) :
    (s.reply a).taken = s.taken := by
  rw [taken, taken, ← h]
  simp [reply, LogRequest.lines]

theorem Asked.put_eq (h : s.Asked t) : t.put = s.put := by
  cases h with
  | moves request hlines => rw [put, put, taken, taken, hlines]
  | takes hrequest hqueue => simp [put, taken, hrequest, hqueue, LogRequest.lines]
  | replies a hlines => exact congrArg (· ++ s.script.queue) (taken_reply hlines)
  | leaves hrequest =>
    exact congrArg (· ++ s.script.queue) (taken_reply (by rw [hrequest]; rfl))

theorem Asked.readers_eq (h : s.Asked t) : t.readers = s.readers := by
  cases h <;> rfl

/-- Lines of both streams, in the order in which they were put into the queue: they and what has not
been read yet are all that was written. -/
structure Accounts (child : ChildProcess) (s : ScriptSession) (handed : List (StreamKind × Text)) :
    Prop where
  sublist_put : (handed.map (·.2)).Sublist s.put
  written_eq (kind : StreamKind) : kind.written (child.reads kind) =
    kind.among handed ++ kind.written (s.readers kind).unread

variable {child : ChildProcess} {handed : List (StreamKind × Text)}

theorem Accounts.exists_read (h : Accounts child s handed) (kind : StreamKind) :
    ∃ handed, Accounts child (s.read kind) handed := by
  obtain ⟨lines, hlines, hwritten⟩ :=
    StreamReader.exists_written_step kind s.script.poll (s.readers kind)
  refine ⟨handed ++ lines.map fun l ↦ (kind, l), ?_, fun k ↦ ?_⟩
  · have hput : (s.read kind).put =
        s.put ++ ((s.readers kind).step kind s.script.poll).1 := by
      simp [put, taken, read, List.append_assoc]
    rw [hput, List.map_append, List.map_map]
    exact h.sublist_put.append (by simpa [Function.comp_def] using hlines)
  · rw [h.written_eq k, StreamKind.among_append]
    -- what is known of the other stream stays as it is
    by_cases hk : k = kind
    · subst hk
      simp [read, hwritten, StreamKind.among_map_pair]
    · simp [read, hk, StreamKind.among_map_other (Ne.symm hk)]

theorem Accounts.exists_step (h : Accounts child s handed) (a : SessionStep) :
    ∃ handed, Accounts child (s.step a) handed := by
  cases a with
  | read kind => exact h.exists_read kind
  | exit code => exact ⟨handed, h.sublist_put, h.written_eq⟩
  | ask =>
    have hask := asked_ask s
    refine ⟨handed, hask.put_eq ▸ h.sublist_put, fun kind ↦ ?_⟩
    rw [h.written_eq kind, ← hask.readers_eq]
    rfl

theorem Accounts.exists_run (h : Accounts child s handed) (steps : List SessionStep) :
    ∃ handed, Accounts child (s.run steps) handed := by
  induction steps generalizing s handed with
  | nil => exact ⟨handed, h⟩
  | cons a steps ih =>
    obtain ⟨handed, h⟩ := h.exists_step a
    exact ih h

theorem accounts_start (id : Text) (process : Nat) (child : ChildProcess) (started : Value) :
    Accounts child (start id process child started) [] :=
  ⟨List.nil_sublist _, fun _ ↦ rfl⟩

/-! Readers that have ended -/

/-- Both readers have ended, and a request that met the queue empty after that finds it so. -/
structure Settled (s : ScriptSession) : Prop where
  closed (kind : StreamKind) : (s.readers kind).isOpen = false
  queue_eq : s.request.metEmpty = true → s.script.queue = []

theorem Settled.read (h : s.Settled) (kind : StreamKind) :
    (s.read kind).Settled ∧ (s.read kind).readers = s.readers := by
  have hstep : (s.readers kind).step kind s.script.poll = ([], s.readers kind) :=
    StreamReader.step_of_closed (h.closed kind)
  have hreaders : (s.read kind).readers = s.readers := by
    funext k
    by_cases hk : k = kind
    · subst hk
      simp [ScriptSession.read, hstep]
    · simp [ScriptSession.read, hk]
  refine ⟨⟨fun k ↦ by rw [hreaders, h.closed k], fun hmet ↦ ?_⟩, hreaders⟩
  simpa [ScriptSession.read, hstep] using h.queue_eq hmet

theorem Settled.asked (h : s.Settled) (hask : s.Asked t) : t.Settled := by
  refine ⟨fun kind ↦ by rw [hask.readers_eq, h.closed kind], ?_⟩
  cases hask with
  | moves request hlines hempty => exact fun hmet ↦ (hempty hmet).elim h.queue_eq fun hnil ↦ hnil
  | takes | replies | leaves => exact Bool.noConfusion

theorem Settled.run (h : s.Settled) (steps : List SessionStep) :
    (s.run steps).Settled ∧ (s.run steps).readers = s.readers := by
  induction steps generalizing s with
  | nil => exact ⟨h, rfl⟩
  | cons a steps ih =>
    have hstep : (s.step a).Settled ∧ (s.step a).readers = s.readers := by
      cases a with
      | read kind => exact h.read kind
      | exit code => exact ⟨⟨h.closed, h.queue_eq⟩, rfl⟩
      | ask => exact ⟨h.asked (asked_ask s), (asked_ask s).readers_eq⟩
    have hrest := ih hstep.1
    exact ⟨hrest.1, hrest.2.trans hstep.2⟩

/-! Forgetting -/

theorem Asked.exists_leaving (h : s.Asked t) (hbefore : s.registered = true)
    (hafter : t.registered = false) : ∃ begun, s.request = .leaving begun ∧
      t = { s.reply begun with registered := false } := by
  cases h with
  | leaves hrequest => exact ⟨_, hrequest, rfl⟩
  | moves | takes | replies => cases hbefore.symm.trans hafter

theorem run_of_forgotten (hregistered : s.registered = false) (hrequest : s.request = .idle)
    (steps : List SessionStep) :
    (s.run steps).answers.flatMap (·.lines) = s.answers.flatMap (·.lines) := by
  induction steps generalizing s with
  | nil => rfl
  | cons a steps ih =>
    cases a with
    | read kind => exact ih (s := s.read kind) hregistered hrequest
    | exit code => exact ih (s := s.step (.exit code)) hregistered hrequest
    | ask =>
      have hask : s.ask = s.reply ⟨gone s.id, [], []⟩ := by
        rw [ask, hrequest]
        exact if_neg (by simp [hregistered])
      refine (ih (s := s.ask) (by rw [hask]; exact hregistered) (by rw [hask]; rfl)).trans ?_
      rw [hask]
      simp [reply]

theorem taken_sublist_returned (h : s.request = .idle) : s.taken.Sublist s.returned := by
  have hlines (a : LogAnswer) : a.lines.Sublist a.toList :=
    (List.sublist_append_left _ _).trans (List.sublist_cons_self _ _)
  rw [taken, returned, h, LogRequest.lines, List.append_nil]
  induction s.answers with
  | nil => exact .refl _
  | cons a answers ih => exact (hlines a).append ih

/-- When a request forgets a script, all lines put into the queue before it met the queue empty have
been given out, in order, and only what is in the queue or not read by now is missing: nothing is
given out of it later. Nothing is missing if the readers had ended, with all lines read, before the
request met the queue empty. -/
theorem given_out_of_forgotten (id : Text) (process : Nat) (child : ChildProcess) (started : Value)
    (steps : List SessionStep) :
    let s := (start id process child started).run steps
    let t := s.step .ask
    s.registered = true → t.registered = false →
    (∃ handed : List (StreamKind × Text),
      (handed.map (·.2)).Sublist (t.returned ++ t.script.queue) ∧ ∀ kind : StreamKind,
        kind.written (child.reads kind) =
          kind.among handed ++ kind.written (t.readers kind).unread) ∧
    (∀ before after, steps = before ++ after →
      let u := (start id process child started).run before
      (∀ kind, (u.readers kind).isOpen = false ∧ kind.written (u.readers kind).unread = []) →
      u.request.metEmpty = false →
      ∃ handed : List (StreamKind × Text), (handed.map (·.2)).Sublist t.returned ∧
        ∀ kind : StreamKind, kind.written (child.reads kind) = kind.among handed) ∧
    ∀ more, (t.run more).answers.flatMap (·.lines) = t.answers.flatMap (·.lines) := by
  intro s t hbefore hafter
  have hask : s.Asked t := asked_ask s
  obtain ⟨begun, hrequest, ht⟩ := hask.exists_leaving hbefore hafter
  have hidle : t.request = .idle := by rw [ht]; rfl
  obtain ⟨handed, h⟩ := ((accounts_start id process child started).exists_run steps)
  have hhanded : (handed.map (·.2)).Sublist (t.returned ++ t.script.queue) := by
    have hput : (handed.map (·.2)).Sublist t.put := hask.put_eq ▸ h.sublist_put
    exact hput.trans ((taken_sublist_returned hidle).append_right _)
  have hwritten (kind : StreamKind) : kind.written (child.reads kind) =
      kind.among handed ++ kind.written (t.readers kind).unread := by
    rw [hask.readers_eq]
    exact h.written_eq kind
  refine ⟨⟨handed, hhanded, hwritten⟩, ?_, run_of_forgotten hafter hidle⟩
  intro before after hsteps u hclosed hmet
  have hsettled : u.Settled := ⟨fun kind ↦ (hclosed kind).1, fun h ↦ by cases hmet.symm.trans h⟩
  have hrun : s = u.run after := by
    rw [← run_append, ← hsteps]
  obtain ⟨hs, hreaders⟩ := hsettled.run after
  rw [← hrun] at hs hreaders
  -- the request has met the queue empty, and nobody has put anything into it since
  have hqueue : t.script.queue = [] := by
    rw [ht]
    exact hs.queue_eq (by rw [hrequest]; rfl)
  refine ⟨handed, by simpa [hqueue] using hhanded, fun kind ↦ ?_⟩
  rw [hwritten kind, hask.readers_eq, hreaders, (hclosed kind).2, List.append_nil]

/-- A script writes a line to each stream and ends, both readers end, and then a request is made. -/
theorem given_out_of_forgotten_both :
    let child : ChildProcess := ⟨[.line "a\n"], [.line "b\n"], none, none, none⟩
    let before : List SessionStep :=
      .exit 0 :: .replicate 4 (.read .error) ++ .replicate 4 (.read .output)
    let s := (start "id-0" 4000 child (.int 1000)).run (before ++ .replicate 13 .ask)
    let t := s.step .ask
    s.registered = true ∧ t.registered = false ∧ ∃ handed : List (StreamKind × Text),
      (handed.map (·.2)).Sublist t.returned ∧
      ∀ kind : StreamKind, kind.written (child.reads kind) = kind.among handed := by
  intro child before s t
  obtain ⟨-, hall, -⟩ := given_out_of_forgotten "id-0" 4000 child (.int 1000)
    (before ++ .replicate 13 .ask) (by decide +kernel) (by decide +kernel)
  refine ⟨by decide +kernel, by decide +kernel,
    hall before (.replicate 13 .ask) rfl (fun kind ↦ ?_) (by decide +kernel)⟩
  cases kind <;> decide +kernel

/-- A script writes a line to its output and ends. A request made when only the reader of the other
stream has ended forgets the script without the line. -/
theorem exists_forgotten_without_line :
    let child : ChildProcess := ⟨[.line "line\n"], [], none, none, none⟩
    let runner := (launch (.fresh .numbered ⟨"venv", false, "python"⟩ false .empty) "id-0" child).1
    ∃ ended, runner.finish "id-0" 0 [.error] = .ok ended ∧
      StreamKind.output.written child.output = ["line".toList] ∧
      (ended.logs "id-0").1.find? "id-0" = none ∧ "line".toList ∉ (ended.logs "id-0").2 := by
  intro child runner
  refine ⟨_, rfl, by decide +kernel, ?_, by decide +kernel⟩
  rw [(logs_of_ended rfl rfl).2]
  exact if_pos (by decide +kernel)

end ScriptSession

end SasMigration
