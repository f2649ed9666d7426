import SasMigration.Runner.Stream

namespace SasMigration

/-- What a reader does, with the answer if there is one. -/
inductive ReaderAction
  | read (answer : StreamRead)
  | ask (answer : Poll)
  | wait
  | put (line : Text)
  | close
deriving DecidableEq, Repr

namespace ReaderAction

def line? : ReaderAction → Option Text
  | .read (.line t) => some t
  | _ => none

def answer? : ReaderAction → Option Poll
  | .ask p => some p
  | _ => none

def failure? : ReaderAction → Option Text
  | .read (.failing reason) | .ask (.failing reason) => some reason
  | _ => none

def entry? : ReaderAction → Option Text
  | .put line => some line
  | _ => none

def linesRead (actions : List ReaderAction) : List Text := actions.filterMap line?

def answers (actions : List ReaderAction) : List Poll := actions.filterMap answer?

def failures (actions : List ReaderAction) : List Text := actions.filterMap failure?

def entries (actions : List ReaderAction) : List Text := actions.filterMap entry?

@[simp] theorem entries_put (line : Text) (rest : List ReaderAction) :
    entries (.put line :: rest) = line :: entries rest := rfl

@[simp] theorem entries_read (r : StreamRead) (rest : List ReaderAction) :
    entries (.read r :: rest) = entries rest := rfl

@[simp] theorem entries_ask (p : Poll) (rest : List ReaderAction) :
    entries (.ask p :: rest) = entries rest := rfl

@[simp] theorem entries_wait (rest : List ReaderAction) :
    entries (.wait :: rest) = entries rest := rfl

/-- The stream gives the lines `reads` and then nothing more; the process gives the answers `polls`
and repeats the last one. -/
def AnsweredBy : List StreamRead → List Poll → List ReaderAction → Prop
  | _, _, [] => True
  | reads, polls, .read r :: rest =>
    reads.headD (.line []) = r ∧ AnsweredBy reads.tail polls rest
  | reads, polls, .ask p :: rest => polls.head? = some p ∧ AnsweredBy reads (Poll.later polls) rest
  | reads, polls, .wait :: rest => AnsweredBy reads polls rest
  | reads, polls, .put _ :: rest => AnsweredBy reads polls rest
  | reads, polls, .close :: rest => AnsweredBy reads polls rest

end ReaderAction

/-- Where a reader is between two actions. -/
inductive ReaderPoint
  | opening
  | reading
  | handing (line : Text)
  | asking
  | waiting
  | reporting
  | ending (again : Poll)
  | finishing
  | failed (reason : Text)
  | leaving
  | ended
deriving DecidableEq, Repr

namespace StreamKind

def opening (kind : StreamKind) : Text := "DEBUG: Starting to read " ++ kind.name

def entry : StreamKind → Text → Text
  | .output, line => line
  | .error, line => "ERROR: " ++ line

/-- What is put into the queue for lines: each one that is not blank, stripped. -/
def forwarded (kind : StreamKind) (lines : List Text) : List Text :=
  ((lines.map Text.strip).filter (· ≠ [])).map kind.entry

end StreamKind

namespace ReaderPoint

def afterReading : StreamRead → ReaderPoint
  | .failing reason => .failed reason
  | .line [] => .asking
  | .line (c :: t) =>
    let line := Text.strip (c :: t)
    if line = [] then .reading else .handing line

def afterAsking : Poll → ReaderPoint
  | .running => .waiting
  | .ended _ => .reporting
  | .failing reason => .failed reason

def afterReporting : Poll → ReaderPoint
  | .failing reason => .failed reason
  | again => .ending again

/-- One action. A failure leads to the one entry that reports it, and every way out leads to the
closing of the stream. -/
inductive Acts (kind : StreamKind) : ReaderPoint → ReaderAction → ReaderPoint → Prop
  | opens : Acts kind .opening (.put kind.opening) .reading
  | reads (r : StreamRead) : Acts kind .reading (.read r) (afterReading r)
  | hands (line : Text) : Acts kind (.handing line) (.put (kind.entry line)) .reading
  | asks (p : Poll) : Acts kind .asking (.ask p) (afterAsking p)
  | waits : Acts kind .waiting .wait .reading
  | asksAgain (p : Poll) : Acts kind .reporting (.ask p) (afterReporting p)
  | reports (p : Poll) : Acts kind (.ending p) (.put (kind.ending ++ p.codeText)) .finishing
  | finishes : Acts kind .finishing (.put kind.finished) .leaving
  | fails (reason : Text) : Acts kind (.failed reason) (.put (kind.failure ++ reason)) .leaving
  | closes : Acts kind .leaving .close .ended

inductive ActsTo (kind : StreamKind) : ReaderPoint → List ReaderAction → ReaderPoint → Prop
  | nil (p : ReaderPoint) : ActsTo kind p [] p
  | cons {p q r : ReaderPoint} {a : ReaderAction} {rest : List ReaderAction} :
    Acts kind p a q → ActsTo kind q rest r → ActsTo kind p (a :: rest) r

end ReaderPoint

/-! The turns of the loop -/

open ReaderAction ReaderPoint

variable {kind : StreamKind} {actions : List ReaderAction} {reads : List StreamRead}
  {polls : List Poll}

/-- The actions of a reader from the beginning of a turn of its loop to its end: what a turn does,
with what the later turns do, or one of the ways out. -/
inductive ReaderTurns (kind : StreamKind) : List ReaderAction → Prop
  | blank {t : Text} {rest : List ReaderAction} (ht : t ≠ []) (hblank : Text.strip t = []) :
    ReaderTurns kind rest → ReaderTurns kind (.read (.line t) :: rest)
  | line {t : Text} {rest : List ReaderAction} (hline : Text.strip t ≠ []) :
    ReaderTurns kind rest →
      ReaderTurns kind (.read (.line t) :: .put (kind.entry (Text.strip t)) :: rest)
  | gap {rest : List ReaderAction} :
    ReaderTurns kind rest → ReaderTurns kind (.read (.line []) :: .ask .running :: .wait :: rest)
  | unread (reason : Text) :
    ReaderTurns kind [.read (.failing reason), .put (kind.failure ++ reason), .close]
  | unanswered (reason : Text) :
    ReaderTurns kind
      [.read (.line []), .ask (.failing reason), .put (kind.failure ++ reason), .close]
  | unreported (code : Int) (reason : Text) :
    ReaderTurns kind
      [.read (.line []), .ask (.ended code), .ask (.failing reason), .put (kind.failure ++ reason),
        .close]
  | reported (code : Int) {again : Poll} (hagain : ∀ reason, again ≠ .failing reason) :
    ReaderTurns kind
      [.read (.line []), .ask (.ended code), .ask again, .put (kind.ending ++ again.codeText),
        .put kind.finished, .close]

namespace ReaderPoint

theorem ActsTo.eq_of_leaving (h : ActsTo kind .leaving actions .ended) : actions = [.close] := by
  cases h with
  | cons hact hrest =>
    cases hact
    cases hrest with
    | nil => rfl
    | cons hact => cases hact

theorem ActsTo.eq_of_failed {reason : Text} (h : ActsTo kind (.failed reason) actions .ended) :
    actions = [.put (kind.failure ++ reason), .close] := by
  cases h with
  | cons hact hrest =>
    cases hact
    rw [hrest.eq_of_leaving]

theorem ActsTo.eq_of_ending {again : Poll} (h : ActsTo kind (.ending again) actions .ended) :
    actions = [.put (kind.ending ++ again.codeText), .put kind.finished, .close] := by
  cases h with
  | cons hact hrest =>
    cases hact
    cases hrest with
    | cons hact hrest =>
      cases hact
      rw [hrest.eq_of_leaving]

theorem ActsTo.turns_or_of_asking (h : ActsTo kind .asking actions .ended) :
    ReaderTurns kind (.read (.line []) :: actions) ∨
      ∃ rest, actions = .ask .running :: .wait :: rest ∧ ActsTo kind .reading rest .ended := by
  cases h with
  | cons hact hrest =>
    cases hact with
    | asks p =>
      cases p with
      | failing reason =>
        rw [hrest.eq_of_failed]
        exact .inl (.unanswered reason)
      | running =>
        cases hrest with
        | cons hact hrest =>
          cases hact
          exact .inr ⟨_, rfl, hrest⟩
      | ended code =>
        cases hrest with
        | cons hact hrest =>
          cases hact with
          | asksAgain again =>
            cases again with
            | failing reason =>
              rw [hrest.eq_of_failed]
              exact .inl (.unreported code reason)
            | running | ended =>
              rw [hrest.eq_of_ending]
              exact .inl (.reported code (by simp))

theorem ActsTo.turns (h : ActsTo kind .reading actions .ended) : ReaderTurns kind actions := by
  -- on the number of actions, of which each turn takes some
  induction hlen : actions.length using Nat.strongRecOn generalizing actions with
  | _ n ih =>
    cases h with
    | cons hact hrest =>
      cases hact with
      | reads r =>
        cases r with
        | failing reason =>
          rw [hrest.eq_of_failed]
          exact .unread reason
        | line t =>
          cases t with
          | nil =>
            obtain h | ⟨rest, rfl, hreading⟩ := ActsTo.turns_or_of_asking hrest
            · exact h
            · exact .gap (ih rest.length (by simp at hlen; omega) hreading rfl)
          | cons c t =>
            by_cases hblank : Text.strip (c :: t) = []
            · rw [afterReading, if_pos hblank] at hrest
              exact .blank (List.cons_ne_nil c t) hblank
                (ih _ (by simp at hlen; omega) hrest rfl)
            · rw [afterReading, if_neg hblank] at hrest
              cases hrest with
              | cons hact hrest =>
                cases hact
                exact .line hblank (ih _ (by simp at hlen; omega) hrest rfl)

end ReaderPoint

namespace ReaderTurns

theorem actsTo (h : ReaderTurns kind actions) : ActsTo kind .reading actions .ended := by
  have hfailed (reason : Text) :
      ActsTo kind (.failed reason) [.put (kind.failure ++ reason), .close] .ended :=
    .cons (.fails reason) (.cons .closes (.nil _))
  induction h with
  | @blank t rest ht hblank _ ih =>
    refine .cons (.reads _) ?_
    cases t with
    | nil => exact absurd rfl ht
    | cons c t => rwa [afterReading, if_pos hblank]
  | @line t rest hline _ ih =>
    refine .cons (.reads _) ?_
    cases t with
    | nil => exact absurd rfl hline
    | cons c t =>
      rw [afterReading, if_neg hline]
      exact .cons (.hands _) ih
  | gap _ ih => exact .cons (.reads _) (.cons (.asks _) (.cons .waits ih))
  | unread reason => exact .cons (.reads _) (hfailed reason)
  | unanswered reason => exact .cons (.reads _) (.cons (.asks _) (hfailed reason))
  | unreported code reason =>
    exact .cons (.reads _) (.cons (.asks _) (.cons (.asksAgain _) (hfailed reason)))
  | @reported code again hagain =>
    have hreporting : afterReporting again = .ending again := by
      cases again with
      | failing reason => exact absurd rfl (hagain reason)
      | running | ended => rfl
    refine .cons (.reads _) (.cons (.asks _) (.cons (.asksAgain _) ?_))
    rw [hreporting]
    exact .cons (.reports again) (.cons .finishes (.cons .closes (.nil _)))

end ReaderTurns

/-! What is put into the queue -/

namespace StreamKind

/-- What a reader puts into the queue after the lines: the code of the process and that all is read,
or that reading or asking failed. -/
inductive LastEntries (kind : StreamKind) (actions : List ReaderAction) : List Text → Prop
  | reported (waits : Nat) (code : Int) (again : Poll) (hfailures : failures actions = [])
    (hanswers : answers actions = .replicate waits .running ++ [.ended code, again]) :
    LastEntries kind actions [kind.ending ++ again.codeText, kind.finished]
  | failed (reason : Text) (hfailures : failures actions = [reason]) :
    LastEntries kind actions [kind.failure ++ reason]

theorem LastEntries.congr {more : List ReaderAction} {last : List Text}
    (h : kind.LastEntries actions last) (hfailures : failures more = failures actions)
    (hanswers : answers more = answers actions) : kind.LastEntries more last := by
  cases h with
  | reported waits code again hnone hended =>
    exact .reported waits code again (hfailures.trans hnone) (hanswers.trans hended)
  | failed reason hone => exact .failed reason (hfailures.trans hone)

theorem forwarded_cons_of_blank {t : Text} (h : Text.strip t = []) (lines : List Text) :
    kind.forwarded (t :: lines) = kind.forwarded lines := by
  simp [forwarded, h]

theorem forwarded_cons_of_line {t : Text} (h : Text.strip t ≠ []) (lines : List Text) :
    kind.forwarded (t :: lines) = kind.entry (Text.strip t) :: kind.forwarded lines := by
  simp [forwarded, h]

theorem mark_append (kind : StreamKind) (line : Text) : kind.mark ++ line = kind.entry line := by
  cases kind <;> rfl

theorem handOn_of_blank {t : Text} (h : Text.strip t = []) : kind.handOn t = [] := by
  simp [handOn, h]

theorem handOn_of_line {t : Text} (h : Text.strip t ≠ []) :
    kind.handOn t = [kind.entry (Text.strip t)] := by
  simp [handOn, h, mark_append]

end StreamKind

namespace ReaderTurns

open StreamKind

theorem exists_lastEntries (h : ReaderTurns kind actions) : ∃ last,
    entries actions = kind.forwarded (linesRead actions) ++ last ∧
      kind.LastEntries actions last := by
  -- a turn leaves what comes last as it is, and only a turn that waits adds an answer
  induction h with
  | @blank t rest _ hblank _ ih =>
    obtain ⟨last, hentries, hlast⟩ := ih
    refine ⟨last, hentries.trans ?_, hlast.congr rfl rfl⟩
    exact congrArg (· ++ last) (forwarded_cons_of_blank hblank (linesRead rest)).symm
  | @line t rest hline _ ih =>
    obtain ⟨last, hentries, hlast⟩ := ih
    refine ⟨last, ?_, hlast.congr rfl rfl⟩
    calc
      _ = kind.entry (Text.strip t) :: (kind.forwarded (linesRead rest) ++ last) :=
        congrArg _ hentries
      _ = kind.forwarded (t :: linesRead rest) ++ last := by
        rw [forwarded_cons_of_line hline, List.cons_append]
  | gap _ ih =>
    obtain ⟨last, hentries, hlast⟩ := ih
    refine ⟨last, hentries, ?_⟩
    cases hlast with
    | reported waits code again hfailures hanswers =>
      refine .reported (waits + 1) code again hfailures ?_
      exact congrArg (.running :: ·) hanswers
    | failed reason hfailures => exact .failed reason hfailures
  | unread reason | unanswered reason => exact ⟨_, rfl, .failed reason rfl⟩
  | unreported code reason => exact ⟨_, rfl, .failed reason rfl⟩
  | @reported code again hagain =>
    refine ⟨_, rfl, .reported 0 code again ?_ rfl⟩
    cases again with
    | failing reason => exact absurd rfl (hagain reason)
    | running | ended => rfl

theorem count_close (h : ReaderTurns kind actions) : actions.count .close = 1 := by
  induction h with
  | blank _ _ _ ih | line _ _ ih | gap _ ih => simpa using ih
  | unread | unanswered | unreported | reported => simp

theorem getLast?_eq (h : ReaderTurns kind actions) : actions.getLast? = some .close := by
  induction h with
  | blank _ _ _ ih | line _ _ ih | gap _ ih => simp [List.getLast?_cons, ih]
  | unread | unanswered | unreported | reported => rfl

end ReaderTurns

/-! A reader whose answers are given -/

namespace StreamKind

theorem readFrom_of_line {t : Text} (ht : t ≠ []) (h : reads.headD (.line []) = .line t) :
    kind.readFrom reads polls = .after (kind.handOn t) (kind.readFrom reads.tail polls) := by
  cases reads with
  | nil => cases h; exact absurd rfl ht
  | cons r reads =>
    cases h
    cases t with
    | nil => exact absurd rfl ht
    | cons c t => rfl

theorem readFrom_of_failing {reason : Text} (h : reads.headD (.line []) = .failing reason) :
    kind.readFrom reads polls = .stop [kind.failure ++ reason] := by
  cases reads with
  | nil => cases h
  | cons r reads => cases h; rfl

section

variable (hgap : reads.headD (.line []) = .line [])

include hgap

theorem readFrom_of_unanswered {reason : Text} (h : polls.head? = some (.failing reason)) :
    kind.readFrom reads polls = .stop [kind.failure ++ reason] := by
  obtain ⟨later, rfl⟩ := List.head?_eq_some_iff.mp h
  cases reads with
  | nil => rfl
  | cons r reads => cases hgap; rfl

theorem readFrom_of_ended {code : Int} {again : Poll} (h : polls.head? = some (.ended code))
    (hagain : (Poll.later polls).head? = some again) :
    kind.readFrom reads polls = kind.close again := by
  obtain ⟨later, rfl⟩ := List.head?_eq_some_iff.mp h
  have hclose : kind.close ((Poll.later (.ended code :: later)).headD (.ended code)) =
      kind.close again := by
    rw [List.headD_eq_head?_getD, hagain, Option.getD_some]
  cases reads with
  | nil => cases later <;> exact hclose
  | cons r reads => cases hgap; exact hclose

/-- A process that goes on makes the reader wait. The last answer is repeated, so a reader that
comes to its end has been given another one. -/
theorem readFrom_of_running (h : polls.head? = some .running)
    (hclosed : (kind.readFrom reads.tail (Poll.later polls)).closed = true) :
    kind.readFrom reads polls = (kind.readFrom reads.tail (Poll.later polls)).wait := by
  obtain ⟨later, rfl⟩ := List.head?_eq_some_iff.mp h
  cases reads with
  | nil =>
    cases later with
    | nil => cases hclosed
    | cons p later => rfl
  | cons r reads => cases hgap; rfl

end

end StreamKind

namespace ReaderTurns

open StreamKind

theorem readFrom_eq (h : ReaderTurns kind actions) (hanswers : AnsweredBy reads polls actions) :
    kind.readFrom reads polls = ⟨entries actions, actions.count .wait, true⟩ := by
  induction h generalizing reads polls with
  | blank ht hblank _ ih =>
    obtain ⟨hread, hrest⟩ := hanswers
    rw [readFrom_of_line ht hread, handOn_of_blank hblank, ih hrest]
    simp [StreamResult.after]
  | @line t rest hline _ ih =>
    obtain ⟨hread, hrest⟩ := hanswers
    have ht : t ≠ [] := fun ht ↦ hline (by rw [ht]; rfl)
    rw [readFrom_of_line ht hread, handOn_of_line hline, ih hrest]
    simp [StreamResult.after]
  | gap _ ih =>
    obtain ⟨hread, hasked, hrest⟩ := hanswers
    have hlater := ih hrest
    rw [readFrom_of_running hread hasked (by rw [hlater]), hlater]
    simp [StreamResult.wait]
  | unread reason =>
    rw [readFrom_of_failing hanswers.1]
    rfl
  | unanswered reason =>
    obtain ⟨hread, hasked, -⟩ := hanswers
    rw [readFrom_of_unanswered hread hasked]
    rfl
  | unreported code reason =>
    obtain ⟨hread, hasked, hagain, -⟩ := hanswers
    rw [readFrom_of_ended hread hasked hagain]
    rfl
  | @reported code again hnot =>
    obtain ⟨hread, hasked, hagain, -⟩ := hanswers
    rw [readFrom_of_ended hread hasked hagain]
    cases again with
    | failing reason => exact absurd rfl (hnot reason)
    | running | ended => rfl

theorem exists_of_ended {code : Int} (hread : reads.headD (.line []) = .line [])
    (hasked : polls.head? = some (.ended code)) :
    ∃ actions, ReaderTurns kind actions ∧ AnsweredBy reads polls actions := by
  obtain ⟨later, rfl⟩ := List.head?_eq_some_iff.mp hasked
  obtain ⟨again, hagain⟩ : ∃ again, (Poll.later (.ended code :: later)).head? = some again := by
    cases later with
    | nil => exact ⟨_, rfl⟩
    | cons p later => exact ⟨_, rfl⟩
  cases again with
  | failing reason => exact ⟨_, .unreported code reason, hread, rfl, hagain, trivial⟩
  | running | ended => exact ⟨_, .reported code (by simp), hread, rfl, hagain, trivial⟩

theorem exists_of_drain (h : (kind.drain polls).closed = true) :
    ∃ actions, ReaderTurns kind actions ∧ AnsweredBy [] polls actions := by
  induction polls with
  | nil => cases h
  | cons p rest ih =>
    cases p with
    | failing reason => exact ⟨_, .unanswered reason, rfl, rfl, trivial⟩
    | ended code => exact exists_of_ended rfl rfl
    | running =>
      obtain ⟨actions, hturns, hanswers⟩ := ih h
      cases rest with
      | nil => cases h -- the last answer holds for good, and the reader would wait for ever
      | cons p rest => exact ⟨_, .gap hturns, rfl, rfl, hanswers⟩

theorem exists_of_readFrom (h : (kind.readFrom reads polls).closed = true) :
    ∃ actions, ReaderTurns kind actions ∧ AnsweredBy reads polls actions := by
  induction reads generalizing polls with
  | nil => exact exists_of_drain h
  | cons r reads ih =>
    cases r with
    | failing reason => exact ⟨_, .unread reason, rfl, trivial⟩
    | line t =>
      cases t with
      | nil =>
        cases polls with
        | nil => cases h
        | cons p rest =>
          cases p with
          | failing reason => exact ⟨_, .unanswered reason, rfl, rfl, trivial⟩
          | ended code => exact exists_of_ended rfl rfl
          | running =>
            obtain ⟨actions, hturns, hanswers⟩ := ih h
            exact ⟨_, .gap hturns, rfl, rfl, hanswers⟩
      | cons c t =>
        obtain ⟨actions, hturns, hanswers⟩ := ih h
        by_cases hblank : Text.strip (c :: t) = []
        · exact ⟨_, .blank (List.cons_ne_nil c t) hblank hturns, rfl, hanswers⟩
        · exact ⟨_, .line hblank hturns, rfl, hanswers⟩

end ReaderTurns

namespace StreamKind

/-- All that a reader does, from its start to its end. -/
def Performs (kind : StreamKind) (actions : List ReaderAction) : Prop :=
  ActsTo kind .opening actions .ended

theorem performs_iff : kind.Performs actions ↔
    ∃ rest, actions = .put kind.opening :: rest ∧ ReaderTurns kind rest := by
  constructor
  · intro h
    cases h with
    | cons hact hrest =>
      cases hact
      exact ⟨_, rfl, hrest.turns⟩
  · rintro ⟨rest, rfl, hturns⟩
    exact .cons .opens hturns.actsTo

theorem Performs.read_eq (h : kind.Performs actions) (hanswers : AnsweredBy reads polls actions) :
    kind.read reads polls = ⟨entries actions, actions.count .wait, true⟩ := by
  obtain ⟨rest, rfl, hturns⟩ := performs_iff.mp h
  have hread : kind.read reads polls = .after [kind.opening] (kind.readFrom reads polls) := rfl
  rw [hread, hturns.readFrom_eq hanswers]
  simp [StreamResult.after]

theorem closed_read_iff : (kind.read reads polls).closed = true ↔
    ∃ actions, kind.Performs actions ∧ AnsweredBy reads polls actions := by
  constructor
  · intro h
    obtain ⟨rest, hturns, hanswers⟩ := ReaderTurns.exists_of_readFrom h
    exact ⟨_, performs_iff.mpr ⟨rest, rfl, hturns⟩, hanswers⟩
  · rintro ⟨actions, hperforms, hanswers⟩
    rw [hperforms.read_eq hanswers]

/-- The readers come to their end on the lines and answers for which they can perform all of their
actions. Whatever they read and are answered, they then have put into the queue that they start,
each line that is not blank, once and in the order of reading, and what comes last: the code of the
process, as it is given when asked again, and that all is read, or a failure alone. They have closed
the stream once, after all else. -/
theorem forwards_once_and_closes (kind : StreamKind) (reads : List StreamRead)
    (polls : List Poll) :
    ((kind.read reads polls).closed = true ↔
      ∃ actions, kind.Performs actions ∧ AnsweredBy reads polls actions) ∧
    ∀ actions, kind.Performs actions →
      (AnsweredBy reads polls actions →
        kind.read reads polls = ⟨entries actions, actions.count .wait, true⟩) ∧
      (∃ last, entries actions = kind.opening :: (kind.forwarded (linesRead actions) ++ last) ∧
        kind.LastEntries actions last) ∧
      actions.count .close = 1 ∧ actions.getLast? = some .close := by
  refine ⟨closed_read_iff, fun actions hperforms ↦ ⟨hperforms.read_eq, ?_⟩⟩
  obtain ⟨rest, rfl, hturns⟩ := performs_iff.mp hperforms
  obtain ⟨last, hentries, hlast⟩ := hturns.exists_lastEntries
  refine ⟨⟨last, congrArg _ hentries, hlast.congr rfl rfl⟩, ?_, ?_⟩
  · simpa using hturns.count_close
  · simp [List.getLast?_cons, hturns.getLast?_eq]

/-- Nothing to read while the process goes on, a blank line, and the end of the process seen between
two lines, which leaves the second one unread. -/
theorem forwards_once_and_closes_error :
    let reads : List StreamRead :=
      [.line [], .line "\n".toList, .line " a\n".toList, .line [], .line "b".toList]
    let polls : List Poll := [.running, .ended 3]
    ∃ actions, StreamKind.error.Performs actions ∧ AnsweredBy reads polls actions ∧
      entries actions =
        ["DEBUG: Starting to read stderr".toList, "ERROR: a".toList,
          "DEBUG: Process stderr ended with return code: 3".toList,
          "DEBUG: Finished reading stderr".toList] ∧
      actions.count .close = 1 := by
  intro reads polls
  obtain ⟨hclosed, hall⟩ := forwards_once_and_closes .error reads polls
  obtain ⟨actions, hperforms, hanswers⟩ := hclosed.mp (by decide +kernel)
  obtain ⟨hread, -, hclose, -⟩ := hall actions hperforms
  refine ⟨actions, hperforms, hanswers, ?_, hclose⟩
  have hentries : entries actions = (StreamKind.error.read reads polls).lines := by
    rw [hread hanswers]
  rw [hentries]
  decide +kernel

end StreamKind

end SasMigration
