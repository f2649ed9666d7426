import SasMigration.Proofs.Runner.Delivery

namespace SasMigration

/-- The reader of a stream, with what it has not read. -/
inductive StreamReader
  | opening (unread : List StreamRead)
  | reading (unread : List StreamRead)
  | closing (unread : List StreamRead)
  | closed (unread : List StreamRead)
deriving DecidableEq, Repr

namespace StreamReader

def unread : StreamReader → List StreamRead
  | .opening reads | .reading reads | .closing reads | .closed reads => reads

def isOpen : StreamReader → Bool
  | .closed _ => false
  | _ => true

def atGap (kind : StreamKind) (poll : Poll) (rest : List StreamRead) : List Text × StreamReader :=
  match poll with
  | .running => ([], .reading rest)
  | .ended code => ([kind.ending ++ (Poll.ended code).codeText], .closing rest)
  | .failing reason => ([kind.failure ++ reason], .closed rest)

/-- What a reader puts into the queue in one step, one line at most. Others see nothing of what it
does between two of its puts, and a process that has ended once says so ever after. -/
def step (kind : StreamKind) (poll : Poll) : StreamReader → List Text × StreamReader
  | .opening reads => (["DEBUG: Starting to read " ++ kind.name], .reading reads)
  | .reading [] => atGap kind poll []
  | .reading (.failing reason :: rest) => ([kind.failure ++ reason], .closed rest)
  | .reading (.line [] :: rest) => atGap kind poll rest
  | .reading (.line (c :: t) :: rest) => (kind.handOn (c :: t), .reading rest)
  | .closing rest => ([kind.finished], .closed rest)
  | .closed rest => ([], .closed rest)

def steps (kind : StreamKind) (poll : Poll) : Nat → StreamReader → List Text × StreamReader
  | 0, r => ([], r)
  | n + 1, r =>
    let (lines, r) := r.step kind poll
    let (more, r) := steps kind poll n r
    (lines ++ more, r)

variable {kind : StreamKind} {poll : Poll} {r r' : StreamReader} {lines : List Text}

theorem steps_succ (h : r.step kind poll = (lines, r')) (n : Nat) :
    r.steps kind poll (n + 1) =
      (lines ++ (r'.steps kind poll n).1, (r'.steps kind poll n).2) := by
  rw [steps, h]

theorem exists_steps_atGap {rest : List StreamRead}
    (h : r.step kind poll = atGap kind poll rest) (hpoll : poll ≠ .running) :
    ∃ n, r.steps kind poll n = ((kind.drain [poll]).lines, .closed rest) := by
  cases poll with
  | running => exact absurd rfl hpoll
  | ended code => exact ⟨2, (steps_succ h 1).trans rfl⟩
  | failing reason => exact ⟨1, (steps_succ h 0).trans rfl⟩

theorem exists_steps_reading (kind : StreamKind) (reads : List StreamRead)
    (hpoll : poll ≠ .running) :
    ∃ n rest, (reading reads).steps kind poll n =
      ((kind.readFrom reads [poll]).lines, .closed rest) := by
  induction reads with
  | nil =>
    obtain ⟨n, hn⟩ := exists_steps_atGap (r := .reading []) rfl hpoll
    exact ⟨n, [], hn⟩
  | cons read reads ih =>
    match read with
    | .failing reason => exact ⟨1, reads, rfl⟩
    | .line [] =>
      obtain ⟨n, hn⟩ := exists_steps_atGap (r := .reading (.line [] :: reads)) rfl hpoll
      refine ⟨n, reads, hn.trans ?_⟩
      cases poll with
      | running => exact absurd rfl hpoll
      | ended code => rfl
      | failing reason => rfl
    | .line (c :: t) =>
      obtain ⟨n, rest, hn⟩ := ih
      exact ⟨n + 1, rest, by rw [steps_succ rfl, hn]; rfl⟩

theorem exists_steps_opening (kind : StreamKind) (reads : List StreamRead)
    (hpoll : poll ≠ .running) :
    ∃ n rest, (opening reads).steps kind poll n =
      ((kind.read reads [poll]).lines, .closed rest) := by
  obtain ⟨n, rest, hn⟩ := exists_steps_reading kind reads hpoll
  exact ⟨n + 1, rest, by rw [steps_succ rfl, hn]; rfl⟩

end StreamReader

structure LogAnswer where
  heading : Text
  lines : List Text
  closing : List Text
deriving DecidableEq, Repr

def LogAnswer.toList (a : LogAnswer) : List Text := a.heading :: a.lines ++ a.closing

/-- A request for the log of a script, with the answer as far as it has come. -/
inductive LogRequest
  | idle
  | taking (left : Nat) (begun : LogAnswer)
  | asking (begun : LogAnswer)
  | lookingAtOutput (begun : LogAnswer) (code : Int)
  | lookingAtErrors (begun : LogAnswer) (code : Int) (outputOpen : Bool)
  | leaving (begun : LogAnswer)
deriving DecidableEq, Repr

namespace LogRequest

def lines : LogRequest → List Text
  | .idle => []
  | .taking _ begun | .asking begun | .lookingAtOutput begun _ | .lookingAtErrors begun _ _
  | .leaving begun => begun.lines

def metEmpty : LogRequest → Bool
  | .idle | .taking .. => false
  | _ => true

end LogRequest

namespace ChildProcess

def reads (child : ChildProcess) : StreamKind → List StreamRead
  | .output => child.output
  | .error => child.errors

end ChildProcess

namespace RunningScript

def handOver (s : RunningScript) (kind : StreamKind) (lines : List Text) (isOpen : Bool) :
    RunningScript :=
  match kind with
  | .output => { s with queue := s.queue ++ lines, outputOpen := isOpen }
  | .error => { s with queue := s.queue ++ lines, errorsOpen := isOpen }

def isOpen (s : RunningScript) : StreamKind → Bool
  | .output => s.outputOpen
  | .error => s.errorsOpen

@[simp] theorem queue_handOver (s : RunningScript) (kind : StreamKind) (lines : List Text)
    (isOpen : Bool) : (s.handOver kind lines isOpen).queue = s.queue ++ lines := by
  cases kind <;> rfl

@[simp] theorem poll_handOver (s : RunningScript) (kind : StreamKind) (lines : List Text)
    (isOpen : Bool) : (s.handOver kind lines isOpen).poll = s.poll := by
  cases kind <;> rfl

theorem handOver_handOver (s : RunningScript) (kind : StreamKind) (lines more : List Text)
    (isOpen isOpen' : Bool) :
    (s.handOver kind lines isOpen).handOver kind more isOpen' =
      s.handOver kind (lines ++ more) isOpen' := by
  cases kind <;> simp [handOver, List.append_assoc]

theorem handOver_nil (s : RunningScript) (kind : StreamKind) :
    s.handOver kind [] (s.isOpen kind) = s := by
  cases kind <;> simp [handOver, isOpen]

@[simp] theorem child_handOver (s : RunningScript) (kind : StreamKind) (lines : List Text)
    (isOpen : Bool) : (s.handOver kind lines isOpen).child = s.child := by
  cases kind <;> rfl

@[simp] theorem isOpen_handOver (s : RunningScript) (kind k : StreamKind) (lines : List Text)
    (isOpen : Bool) :
    (s.handOver kind lines isOpen).isOpen k = if k = kind then isOpen else s.isOpen k := by
  cases kind <;> cases k <;> rfl

theorem readStream_of_open {s : RunningScript} {kind : StreamKind} (h : s.isOpen kind = true) :
    s.readStream kind = s.handOver kind (kind.read (s.child.reads kind) [s.poll]).lines false := by
  cases kind with
  | output => exact if_pos h
  | error => exact if_pos h

theorem readStream_of_closed {s : RunningScript} {kind : StreamKind} (h : s.isOpen kind = false) :
    s.readStream kind = s := by
  cases kind with
  | output => exact if_neg (Bool.eq_false_iff.mp h)
  | error => exact if_neg (Bool.eq_false_iff.mp h)

end RunningScript

/-- A script that is followed. Its readers and requests keep hold of it when it is forgotten. -/
structure ScriptSession where
  id : Text
  script : RunningScript
  readers : StreamKind → StreamReader
  registered : Bool
  request : LogRequest
  answers : List LogAnswer

/-- Who takes the next step: a reader, the process, which ends, or a request. -/
inductive SessionStep
  | read (kind : StreamKind)
  | exit (code : Int)
  | ask
deriving DecidableEq, Repr

namespace ScriptSession

open ScriptRunner

def start (id : Text) (process : Nat) (child : ChildProcess) (started : Value) : ScriptSession :=
  { id
    script :=
      { process, child, exit := none, queue := [], outputOpen := true, errorsOpen := true, started }
    readers := fun kind ↦ .opening (child.reads kind)
    registered := true
    request := .idle
    answers := [] }

def reply (s : ScriptSession) (a : LogAnswer) : ScriptSession :=
  { s with request := .idle, answers := s.answers ++ [a] }

def ask (s : ScriptSession) : ScriptSession :=
  match s.request with
  | .idle =>
    if s.registered then { s with request := .taking mostLines ⟨heading s.script, [], []⟩ }
    else s.reply ⟨gone s.id, [], []⟩
  | .taking 0 begun => s.reply begun
  | .taking (left + 1) begun =>
    match s.script.queue with
    | [] => { s with request := .asking begun }
    | line :: rest =>
      { s with
        script := { s.script with queue := rest }
        request := .taking left { begun with lines := begun.lines ++ [line] } }
  | .asking begun =>
    match s.script.poll with
    | .running => s.reply begun
    | .failing reason => s.reply { begun with closing := ["Error getting logs: " ++ reason] }
    | .ended code => { s with request := .lookingAtOutput begun code }
  | .lookingAtOutput begun code =>
    { s with request := .lookingAtErrors begun code s.script.outputOpen }
  | .lookingAtErrors begun code outputOpen =>
    let closing := ending { s.script with outputOpen } code
    { s with request := .leaving { begun with closing } }
  | .leaving begun => { s.reply begun with registered := false }

def read (s : ScriptSession) (kind : StreamKind) : ScriptSession :=
  let (lines, reader) := (s.readers kind).step kind s.script.poll
  { s with
    script := s.script.handOver kind lines reader.isOpen
    readers := fun k ↦ if k = kind then reader else s.readers k }

def step (s : ScriptSession) : SessionStep → ScriptSession
  | .read kind => s.read kind
  | .exit code => { s with script := { s.script with exit := s.script.exit.or (some code) } }
  | .ask => s.ask

def run (s : ScriptSession) (steps : List SessionStep) : ScriptSession := steps.foldl step s

theorem run_append (s : ScriptSession) (steps more : List SessionStep) :
    s.run (steps ++ more) = (s.run steps).run more := List.foldl_append

/-! Readers that are left alone -/

theorem scripts_launch {r : ScriptRunner} {child : ChildProcess} (id : Text)
    (h : child.spawnError = none) : (r.launch id child).1.scripts = r.scripts ++
      [(id, (start id (r.supply.processOf r.nextProcess) child r.now).script)] := by
  rw [launch, h]
  rfl

theorem run_read (s : ScriptSession) (kind : StreamKind) (n : Nat)
    (hopen : s.script.isOpen kind = (s.readers kind).isOpen) :
    (s.run (.replicate n (.read kind))).script = s.script.handOver kind
      ((s.readers kind).steps kind s.script.poll n).1
      ((s.readers kind).steps kind s.script.poll n).2.isOpen := by
  induction n generalizing s with
  | zero => exact (hopen ▸ s.script.handOver_nil kind).symm
  | succ n ih =>
    refine (ih (s.read kind) (by simp [read])).trans ?_
    simp [read, StreamReader.steps, RunningScript.handOver_handOver]

theorem readers_run_read (s : ScriptSession) {kind k : StreamKind} (h : k ≠ kind) (n : Nat) :
    (s.run (.replicate n (.read kind))).readers k = s.readers k := by
  induction n generalizing s with
  | zero => rfl
  | succ n ih => exact (ih (s.read kind)).trans (if_neg h)

/-- Each reader has read nothing or has ended. -/
def Whole (s : ScriptSession) : Prop := ∀ kind,
  s.script.isOpen kind = true → s.readers kind = .opening (s.script.child.reads kind)

theorem Whole.exists_run_read {s : ScriptSession} (h : s.Whole) (hpoll : s.script.poll ≠ .running)
    (kind : StreamKind) : ∃ n, let t := s.run (.replicate n (.read kind))
      t.script = s.script.readStream kind ∧ t.Whole ∧ t.script.poll = s.script.poll := by
  by_cases hopen : s.script.isOpen kind = true
  · obtain ⟨n, rest, hn⟩ := StreamReader.exists_steps_opening kind
      (s.script.child.reads kind) hpoll
    have hrun : (s.run (.replicate n (.read kind))).script = s.script.handOver kind
        (kind.read (s.script.child.reads kind) [s.script.poll]).lines false := by
      rw [run_read s kind n (by rw [hopen, h kind hopen]; rfl), h kind hopen, hn]
      rfl
    refine ⟨n, ?_, fun k hk ↦ ?_, ?_⟩
    · rw [hrun, RunningScript.readStream_of_open hopen]
    · by_cases hkind : k = kind
      · simp [hrun, hkind] at hk
      · rw [hrun, RunningScript.isOpen_handOver, if_neg hkind] at hk
        rw [readers_run_read s hkind, hrun, RunningScript.child_handOver, h k hk]
    · rw [hrun, RunningScript.poll_handOver]
  · refine ⟨0, (RunningScript.readStream_of_closed ?_).symm, h, rfl⟩
    exact Bool.eq_false_iff.mpr hopen

/-- The end of a process, after which readers come to their end one by one, is one of the orders in
which all can take their steps. -/
theorem exists_run_eq_finish (id : Text) (process : Nat) (child : ChildProcess) (started : Value)
    (code : Int) (kinds : List StreamKind) :
    ∃ steps, ((start id process child started).run steps).script =
      (start id process child started).script.finish code kinds := by
  have hkinds (s : ScriptSession) (h : s.Whole) (hpoll : s.script.poll ≠ .running) :
      ∃ steps, (s.run steps).script = kinds.foldl RunningScript.readStream s.script := by
    induction kinds generalizing s with
    | nil => exact ⟨[], rfl⟩
    | cons kind kinds ih =>
      obtain ⟨n, hscript, hwhole, hsame⟩ := h.exists_run_read hpoll kind
      obtain ⟨more, hmore⟩ := ih (s.run (.replicate n (.read kind))) hwhole (hsame ▸ hpoll)
      exact ⟨.replicate n (.read kind) ++ more, by rw [run_append, hmore, hscript, List.foldl_cons]⟩
  have hpoll : ((start id process child started).step (.exit code)).script.poll ≠ .running := by
    simp only [start, step, RunningScript.poll]
    cases child.pollError <;> simp
  obtain ⟨steps, hsteps⟩ := hkinds ((start id process child started).step (.exit code))
    (fun kind _ ↦ rfl) hpoll
  exact ⟨.exit code :: steps, hsteps⟩

/-! A request that is left alone -/

/-- The request gets from one state to another if nothing else happens. -/
def AsksTo (s t : ScriptSession) : Prop := ∃ n, s.run (.replicate n .ask) = t

theorem AsksTo.refl (s : ScriptSession) : s.AsksTo s := ⟨0, rfl⟩

theorem AsksTo.head {s t : ScriptSession} (h : s.ask.AsksTo t) : s.AsksTo t := by
  obtain ⟨n, hn⟩ := h
  exact ⟨n + 1, hn⟩

theorem AsksTo.trans {s t u : ScriptSession} (h : s.AsksTo t) (h' : t.AsksTo u) : s.AsksTo u := by
  obtain ⟨m, rfl⟩ := h
  obtain ⟨n, rfl⟩ := h'
  exact ⟨m + n, by rw [← List.replicate_append_replicate, run_append]⟩

def afterTaking (s : ScriptSession) (left : Nat) (begun : LogAnswer) : ScriptSession :=
  { s with
    script := { s.script with queue := s.script.queue.drop left }
    request :=
      if s.script.queue.length < left then
        .asking { begun with lines := begun.lines ++ s.script.queue }
      else .taking 0 { begun with lines := begun.lines ++ s.script.queue.take left } }

theorem asksTo_afterTaking {s : ScriptSession} {left : Nat} (begun : LogAnswer)
    (h : s.request = .taking left begun) : s.AsksTo (s.afterTaking left begun) := by
  obtain ⟨id, script, readers, registered, request, answers⟩ := s
  subst h
  -- on how many lines may still be taken; each one moves from the queue to the answer
  induction left generalizing script begun with
  | zero => simpa [afterTaking] using AsksTo.refl _
  | succ left ih =>
    refine .head ?_
    obtain ⟨process, child, exit, queue, outputOpen, errorsOpen, started⟩ := script
    cases queue with
    | nil => simpa [ask, afterTaking] using AsksTo.refl _
    | cons line rest =>
      have hrest := ih { begun with lines := begun.lines ++ [line] }
        ⟨process, child, exit, rest, outputOpen, errorsOpen, started⟩
      simpa [ask, afterTaking] using hrest

section

variable {s : ScriptSession} {begun : LogAnswer}

theorem asksTo_of_running (h : s.request = .asking begun) (hpoll : s.script.poll = .running) :
    s.AsksTo (s.reply begun) := by
  refine .head ?_
  rw [ask, h]
  dsimp only
  rw [hpoll]
  exact .refl _

theorem asksTo_of_failing {reason : Text} (h : s.request = .asking begun)
    (hpoll : s.script.poll = .failing reason) :
    s.AsksTo (s.reply { begun with closing := ["Error getting logs: " ++ reason] }) := by
  refine .head ?_
  rw [ask, h]
  dsimp only
  rw [hpoll]
  exact .refl _

theorem asksTo_of_ended {code : Int} (h : s.request = .asking begun)
    (hpoll : s.script.poll = .ended code) :
    s.AsksTo
      { s.reply { begun with closing := ending s.script code } with registered := false } := by
  have hask : s.ask = { s with request := .lookingAtOutput begun code } := by
    rw [ask, h]
    dsimp only
    rw [hpoll]
  exact .head (hask ▸ .head (.head (.head (.refl _))))

end

/-- A request that is left alone gives out what the runner gives out, and forgets the script if the
runner does. -/
theorem exists_asksTo_logs {s : ScriptSession} {r : ScriptRunner}
    (hfind : r.find? s.id = some s.script) (hregistered : s.registered = true)
    (hrequest : s.request = .idle) :
    ∃ t answer, s.AsksTo t ∧ t.request = .idle ∧ t.answers = s.answers ++ [answer] ∧
      answer.toList = (r.logs s.id).2 ∧
      (r.logs s.id).1.find? s.id = if t.registered then some t.script else none := by
  let left : RunningScript := { s.script with queue := s.script.queue.drop mostLines }
  let full : LogAnswer := ⟨heading s.script, s.script.queue.take mostLines, []⟩
  have hput : (r.put s.id left).find? s.id = some left := find?_put hfind left
  have hask : s.ask = { s with request := .taking mostLines ⟨heading s.script, [], []⟩ } := by
    rw [ask, hrequest]
    exact if_pos hregistered
  have htaken : s.AsksTo (s.afterTaking mostLines ⟨heading s.script, [], []⟩) :=
    .head (by rw [hask]; exact asksTo_afterTaking _ rfl)
  by_cases hlt : s.script.queue.length < mostLines
  · have hlines : full = ⟨heading s.script, [] ++ s.script.queue, []⟩ := by
      simp only [full, List.take_of_length_le (Nat.le_of_lt hlt), List.nil_append]
    have hstate : s.AsksTo { s with script := left, request := .asking full } := by
      rw [afterTaking, if_pos hlt] at htaken
      rw [hlines]
      exact htaken
    cases hpoll : s.script.poll with
    | running =>
      have hlogs : r.logs s.id = (r.put s.id left, full.toList) := by
        rw [logs, hfind]
        dsimp only
        rw [if_pos hlt, hpoll]
        exact congrArg _ (List.append_nil _).symm
      refine ⟨_, full, hstate.trans (asksTo_of_running rfl hpoll), rfl, rfl, by rw [hlogs], ?_⟩
      rw [hlogs]
      exact hput.trans (if_pos hregistered).symm
    | failing reason =>
      have hlogs : r.logs s.id = (r.put s.id left, LogAnswer.toList
          { full with closing := ["Error getting logs: " ++ reason] }) := by
        rw [logs, hfind]
        dsimp only
        rw [if_pos hlt, hpoll]
        rfl
      refine ⟨_, _, hstate.trans (asksTo_of_failing rfl hpoll), rfl, rfl, by rw [hlogs], ?_⟩
      rw [hlogs]
      exact hput.trans (if_pos hregistered).symm
    | ended code =>
      have hlogs : r.logs s.id = ((r.put s.id left).cleanUp s.id, LogAnswer.toList
          { full with closing := ending left code }) := by
        rw [logs, hfind]
        dsimp only
        rw [if_pos hlt, hpoll]
        rfl
      refine ⟨_, _, hstate.trans (asksTo_of_ended rfl hpoll), rfl, rfl, by rw [hlogs], ?_⟩
      rw [hlogs]
      exact find?_cleanUp _ _
  · have hstate : s.AsksTo { s with script := left, request := .taking 0 full } := by
      rw [afterTaking, if_neg hlt] at htaken
      exact htaken
    have hlogs : r.logs s.id = (r.put s.id left, full.toList) := by
      rw [logs, hfind]
      dsimp only
      rw [if_neg hlt]
      exact congrArg _ (List.append_nil _).symm
    rw [hlogs]
    refine ⟨_, full, hstate.trans (.head (.refl _)), rfl, rfl, rfl, ?_⟩
    exact hput.trans (if_pos hregistered).symm

end ScriptSession

end SasMigration
