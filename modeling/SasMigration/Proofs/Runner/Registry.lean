import SasMigration.Proofs.Runner.Delivery

namespace SasMigration

/-- A call of a runner, or what happens between two calls: a script goes on, ends or is read from,
and time passes. -/
inductive RunnerStep
  | run (world : PackageWorld) (child : ChildProcess) (skip : Bool) (code : Value)
  | logs (id : Text)
  | stop (id : Text)
  | status (id : Text)
  | change (id : Text) (script : RunningScript)
  | tick (seconds : Value)

namespace ScriptRunner

variable {r r' : ScriptRunner} {id other : Text} {s : RunningScript} {a : RunnerStep}
  {steps : List RunnerStep}

def step (r : ScriptRunner) : RunnerStep → ScriptRunner
  | .run world child skip code => (r.run world child skip code).1
  | .logs id => (r.logs id).1
  | .stop id => (r.stop id).1
  | .status _ => r
  | .change id script => r.put id script
  | .tick seconds => r.tick seconds

def after (r : ScriptRunner) (steps : List RunnerStep) : ScriptRunner := steps.foldl step r

/-- A request for the log meets the end of a script: it finds the queue empty before it has taken
the most lines it may take, and the process has ended. -/
def MeetsEnd (r : ScriptRunner) (id : Text) : Prop :=
  ∃ s code, r.find? id = some s ∧ s.queue.length < mostLines ∧ s.poll = .ended code

/-- The steps that end the life of a script. -/
def Ends (r : ScriptRunner) (id : Text) : RunnerStep → Prop
  | .logs asked => asked = id ∧ r.MeetsEnd id
  | .stop stopped => stopped = id ∧ (r.stop id).2.1 = true
  | _ => False

def Starts (r : ScriptRunner) (id : Text) : RunnerStep → Prop
  | .run world child skip code =>
    id = r.nextId ∧ (r.run world child skip code).2.2.commands ≠ []
  | _ => False

/-- Somewhere in a sequence of steps there is one of a kind. -/
def Happens (P : ScriptRunner → RunnerStep → Prop) (r : ScriptRunner) : List RunnerStep → Prop
  | [] => False
  | a :: steps => P r a ∨ Happens P (r.step a) steps

/-! What is registered -/

theorem mem_ids : id ∈ r.ids ↔ ∃ s, r.find? id = some s := by
  have hfind : (∃ s, r.find? id = some s) ↔ ∃ e ∈ r.scripts, e.1 = id := by
    rw [← Option.isSome_iff_exists, find?, Option.isSome_map, List.find?_isSome]
    simp
  rw [hfind, ids, List.mem_mergeSort, List.mem_map]

theorem notMem_ids : id ∉ r.ids ↔ r.find? id = none := by
  rw [mem_ids, Option.eq_none_iff_forall_ne_some, not_exists]

theorem ids_put (r : ScriptRunner) (id : Text) (s : RunningScript) : (r.put id s).ids = r.ids := by
  have hkeys : (r.put id s).scripts.map (·.1) = r.scripts.map (·.1) := by
    rw [put, List.map_map]
    refine List.map_congr_left fun e _ ↦ ?_
    by_cases he : e.1 = id
    · simp [he]
    · simp [he]
  rw [ids, hkeys, ids]

theorem cleanUp_of_registered (h : r.find? id = some s) :
    r.cleanUp id = { r with
      scripts := r.scripts.filter fun e ↦ e.1 != id
      files := ((FileAction.remove (r.pathOf id)).run.run r.files).2 } := by
  rw [cleanUp, h]
  rfl

theorem mem_ids_cleanUp (r : ScriptRunner) (id : Text) :
    other ∈ (r.cleanUp id).ids ↔ other ∈ r.ids ∧ other ≠ id := by
  cases h : r.find? id with
  | none =>
    have hkept : r.cleanUp id = r := by rw [cleanUp, h]
    rw [hkept]
    refine ⟨fun hmem ↦ ⟨hmem, ?_⟩, And.left⟩
    rintro rfl
    exact notMem_ids.mpr h hmem
  | some s =>
    rw [cleanUp_of_registered h]
    simp only [ids, List.mem_mergeSort, List.mem_map, List.mem_filter]
    constructor
    · rintro ⟨e, ⟨he, hne⟩, rfl⟩
      exact ⟨⟨e, he, rfl⟩, by simpa using hne⟩
    · rintro ⟨⟨e, he, rfl⟩, hne⟩
      exact ⟨e, ⟨he, by simpa using hne⟩, rfl⟩

theorem nextScript_cleanUp (r : ScriptRunner) (id : Text) :
    (r.cleanUp id).nextScript = r.nextScript := by
  rw [cleanUp]
  split <;> rfl

theorem supply_cleanUp (r : ScriptRunner) (id : Text) : (r.cleanUp id).supply = r.supply := by
  rw [cleanUp]
  split <;> rfl

/-! What a run does -/

/-- What a run can come to: its script could not be stored, an import failed, its process was not
started, or it was started and registered. -/
inductive Ran (r : ScriptRunner) (code : Value) :
    ScriptRunner × Except Fault Text × RunTrace → Prop
  | refused {fault : Fault} (h : (r.save code).2 = .error fault) :
    Ran r code ((r.save code).1, .error fault, .none)
  | broken {reason : Text} {trace : RunTrace} (h : (r.save code).2 = .ok r.nextId)
    (htrace : trace.commands = []) : Ran r code ((r.save code).1, .error (.raised reason), trace)
  | unstarted {trace : RunTrace} (h : (r.save code).2 = .ok r.nextId)
    (htrace : trace.commands = []) :
    Ran r code ((r.save code).1, .ok r.nextId, trace)
  | started {trace : RunTrace} (script : RunningScript) (process : Nat)
    (h : (r.save code).2 = .ok r.nextId) (htrace : trace.commands ≠ []) :
    Ran r code
      ({ (r.save code).1 with
        scripts := r.scripts ++ [(r.nextId, script)], nextProcess := process },
      .ok r.nextId, trace)

theorem ids_save (r : ScriptRunner) (code : Value) : (r.save code).1.ids = r.ids := rfl

theorem eq_nextId_of_save {code : Value} (h : (r.save code).2 = .ok id) : id = r.nextId := by
  have hsave : (r.save code).2 = ((FileAction.write (r.pathOf r.nextId)
      code.asWritten).run.run r.files).1.map fun _ ↦ r.nextId := rfl
  rw [hsave] at h
  cases hdone : ((FileAction.write (r.pathOf r.nextId) code.asWritten).run.run
      r.files).1 with
  | error fault =>
    rw [hdone] at h
    cases h
  | ok =>
    rw [hdone] at h
    exact (Except.ok.inj h).symm

theorem commands_trace_prepare (r : ScriptRunner) (world : PackageWorld) (skip : Bool)
    (code : Text) :
    (r.prepare world skip code).2.commands = [] := by
  rw [prepare]
  split <;> rfl

theorem eq_raised_of_prepare {world : PackageWorld} {skip : Bool} {code : Text} {fault : Fault}
    (h : (r.prepare world skip code).1 = .error fault) : ∃ reason, fault = .raised reason := by
  cases skip with
  | true => cases h
  | false =>
    have hinstall : (Packages.install r.environment world (Packages.ofCode code)).succeeded =
      .error fault := h
    rw [Packages.install] at hinstall
    split at hinstall
    · cases hinstall
    · split at hinstall
      · exact ⟨_, (Except.error.inj hinstall).symm⟩
      · split at hinstall <;> cases hinstall

theorem ran_run (r : ScriptRunner) (world : PackageWorld) (child : ChildProcess) (skip : Bool)
    (code : Value) : r.Ran code (r.run world child skip code) := by
  rw [run]
  rcases hsave : r.save code with ⟨saved, done⟩
  obtain rfl : (r.save code).1 = saved := by rw [hsave]
  cases done with
  | error fault => exact .refused (by rw [hsave])
  | ok id =>
    have hdone : (r.save code).2 = .ok id := by rw [hsave]
    obtain rfl := eq_nextId_of_save hdone
    have hprepared := commands_trace_prepare (r.save code).1 world skip code.display
    dsimp only
    cases hready : ((r.save code).1.prepare world skip code.display).1 with
    | error fault =>
      obtain ⟨reason, rfl⟩ := eq_raised_of_prepare hready
      exact .broken hdone (by simp [RunTrace.add, hprepared])
    | ok ready =>
      cases ready with
      | false => exact .unstarted hdone (by simp [RunTrace.add, hprepared])
      | true =>
        rw [launch]
        cases hspawn : child.spawnError with
        | some reason => exact .unstarted hdone (by simp [RunTrace.add, hprepared])
        | none => exact .started _ _ hdone (by simp [RunTrace.add, hprepared])

theorem mem_ids_run (r : ScriptRunner) (world : PackageWorld) (child : ChildProcess) (skip : Bool)
    (code : Value) : other ∈ (r.run world child skip code).1.ids ↔ other ∈ r.ids ∨
      other = r.nextId ∧ (r.run world child skip code).2.2.commands ≠ [] := by
  have hran := ran_run r world child skip code
  generalize r.run world child skip code = ran at hran
  cases hran with
  | refused h => simp [ids_save, RunTrace.none]
  | broken h htrace | unstarted h htrace => simp [ids_save, htrace]
  | started script process h htrace => simp [ids, htrace]

theorem find?_of_unstarted {world : PackageWorld} {child : ChildProcess} {skip : Bool}
    {code : Value} {trace : RunTrace} (hfree : r.find? r.nextId = none)
    (hrun : r.run world child skip code = (r', .ok id, trace)) (htrace : trace.commands = []) :
    r'.find? id = none := by
  have hran := ran_run r world child skip code
  rw [hrun] at hran
  cases hran with
  | unstarted hsave => exact hfree
  | started script process hsave hstarted => exact absurd htrace hstarted

theorem files_run (r : ScriptRunner) (world : PackageWorld) (child : ChildProcess) (skip : Bool)
    (code : Value) : (r.run world child skip code).1.files = (r.save code).1.files := by
  have hran := ran_run r world child skip code
  generalize r.run world child skip code = ran at hran
  cases hran <;> rfl

theorem supply_run (r : ScriptRunner) (world : PackageWorld) (child : ChildProcess) (skip : Bool)
    (code : Value) : (r.run world child skip code).1.supply = r.supply := by
  have hran := ran_run r world child skip code
  generalize r.run world child skip code = ran at hran
  cases hran <;> rfl

theorem nextScript_run (r : ScriptRunner) (world : PackageWorld) (child : ChildProcess)
    (skip : Bool) (code : Value) :
    (r.run world child skip code).1.nextScript = r.nextScript + 1 := by
  have hran := ran_run r world child skip code
  generalize r.run world child skip code = ran at hran
  cases hran <;> rfl

/-! What a step does -/

structure SameBooks (r r' : ScriptRunner) : Prop where
  ids_eq : r'.ids = r.ids
  files_eq : r'.files = r.files
  supply_eq : r'.supply = r.supply
  nextScript_eq : r'.nextScript = r.nextScript

/-- What a step can do to what is registered and to the files. -/
inductive Moves (r : ScriptRunner) : RunnerStep → ScriptRunner → Prop
  | keeps {a : RunnerStep} {r' : ScriptRunner} (hsame : r.SameBooks r')
    (hends : ∀ id, ¬ r.Ends id a) (hrun : ∀ world child skip code, a ≠ .run world child skip code) :
    Moves r a r'
  | forgets {a : RunnerStep} {r' : ScriptRunner} {id : Text} (hsame : r.SameBooks r')
    (hends : r.Ends id a) : Moves r a (r'.cleanUp id)
  | runs (world : PackageWorld) (child : ChildProcess) (skip : Bool) (code : Value) :
    Moves r (.run world child skip code) (r.run world child skip code).1

theorem sameBooks_put (r : ScriptRunner) (id : Text) (s : RunningScript) :
    r.SameBooks (r.put id s) := ⟨ids_put r id s, rfl, rfl, rfl⟩

theorem meetsEnd_iff (h : r.find? id = some s) :
    r.MeetsEnd id ↔ s.queue.length < mostLines ∧ ∃ code, s.poll = .ended code := by
  constructor
  · rintro ⟨s', code, hs, hlt, hpoll⟩
    obtain rfl := Option.some.inj (h.symm.trans hs)
    exact ⟨hlt, code, hpoll⟩
  · rintro ⟨hlt, code, hpoll⟩
    exact ⟨s, code, h, hlt, hpoll⟩

theorem moves_logs (r : ScriptRunner) (id : Text) : r.Moves (.logs id) (r.logs id).1 := by
  have hnone {r' : ScriptRunner} (hsame : r.SameBooks r') (h : ¬ r.MeetsEnd id) :
      r.Moves (.logs id) r' := by
    refine .keeps hsame ?_ (by simp)
    rintro other ⟨rfl, hmeets⟩
    exact h hmeets
  rw [logs]
  cases hfind : r.find? id with
  | none =>
    refine hnone ⟨rfl, rfl, rfl, rfl⟩ ?_
    rintro ⟨s, code, hs, -⟩
    cases hfind.symm.trans hs
  | some s =>
    dsimp only
    by_cases hlt : s.queue.length < mostLines
    · rw [if_pos hlt]
      cases hpoll : s.poll with
      | ended code => exact .forgets (sameBooks_put _ _ _) ⟨rfl, s, code, hfind, hlt, hpoll⟩
      | running => exact hnone (sameBooks_put _ _ _) (by simp [meetsEnd_iff hfind, hpoll])
      | failing reason => exact hnone (sameBooks_put _ _ _) (by simp [meetsEnd_iff hfind, hpoll])
    · rw [if_neg hlt]
      exact hnone (sameBooks_put _ _ _) (by simp [meetsEnd_iff hfind, hlt])

theorem moves_stop (r : ScriptRunner) (id : Text) : r.Moves (.stop id) (r.stop id).1 := by
  have hnone (hfalse : (r.stop id).2.1 = false) (hsame : r.SameBooks (r.stop id).1) :
      r.Moves (.stop id) (r.stop id).1 := by
    refine .keeps hsame ?_ (by simp)
    rintro other ⟨rfl, htrue⟩
    cases hfalse.symm.trans htrue
  cases hfind : r.find? id with
  | none =>
    have hstop : r.stop id = (r, false, []) := by rw [stop, hfind]
    exact hnone (by rw [hstop]) (by rw [hstop]; exact ⟨rfl, rfl, rfl, rfl⟩)
  | some s =>
    cases herror : s.child.stopError with
    | some reason =>
      have hstop : r.stop id = (r, false, [r.signalOf s]) := by
        rw [stop, hfind]
        dsimp only
        rw [herror]
      exact hnone (by rw [hstop]) (by rw [hstop]; exact ⟨rfl, rfl, rfl, rfl⟩)
    | none =>
      have hstop : r.stop id = (r.cleanUp id, true, [r.signalOf s]) := by
        rw [stop, hfind]
        dsimp only
        rw [herror]
      have hends : r.Ends id (.stop id) := ⟨rfl, by rw [hstop]⟩
      rw [hstop]
      exact .forgets ⟨rfl, rfl, rfl, rfl⟩ hends

theorem moves_step (r : ScriptRunner) (a : RunnerStep) : r.Moves a (r.step a) := by
  cases a with
  | run world child skip code => exact .runs world child skip code
  | logs id => exact moves_logs r id
  | stop id => exact moves_stop r id
  | status id => exact .keeps ⟨rfl, rfl, rfl, rfl⟩ (fun _ ↦ False.elim) (by simp)
  | change id script => exact .keeps (sameBooks_put r id script) (fun _ ↦ False.elim) (by simp)
  | tick seconds => exact .keeps ⟨rfl, rfl, rfl, rfl⟩ (fun _ ↦ False.elim) (by simp)

theorem ends_iff (h : r.Ends id a) : r.Ends other a ↔ other = id := by
  constructor
  · intro h'
    cases a with
    | logs asked => exact h'.1.symm.trans h.1
    | stop stopped => exact h'.1.symm.trans h.1
    | run | status | change | tick => cases h
  · rintro rfl
    exact h

theorem not_starts_of_ends (h : r.Ends id a) : ¬ r.Starts other a := by
  cases a with
  | logs | stop => exact False.elim
  | run | status | change | tick => cases h

/-- What is registered after a step: what was so before and does not end, and what is started. -/
theorem mem_ids_step (r : ScriptRunner) (a : RunnerStep) (id : Text) :
    id ∈ (r.step a).ids ↔ id ∈ r.ids ∧ ¬ r.Ends id a ∨ r.Starts id a := by
  have hmoves := moves_step r a
  generalize r.step a = r' at hmoves
  cases hmoves with
  | keeps hsame hends hrun =>
    have hstarts : ¬ r.Starts id a := by
      cases a with
      | run world child skip code => exact absurd rfl (hrun world child skip code)
      | logs | stop | status | change | tick => exact False.elim
    rw [hsame.ids_eq, or_iff_left hstarts, and_iff_left (hends id)]
  | @forgets _ r' ended hsame hends =>
    rw [mem_ids_cleanUp, hsame.ids_eq, or_iff_left (not_starts_of_ends hends), ends_iff hends]
  | runs world child skip code =>
    have hends : ¬ r.Ends id (.run world child skip code) := False.elim
    rw [mem_ids_run, and_iff_left hends]
    rfl

/-! Ids are given out once -/

def GivenOut (r : ScriptRunner) (id : Text) : Prop := ∃ n < r.nextScript, id = r.supply.idOf n

theorem not_givenOut_nextId (r : ScriptRunner) : ¬ r.GivenOut r.nextId := by
  rintro ⟨n, hn, hid⟩
  exact Nat.ne_of_gt hn (r.supply.idOf_injective _ _ hid)

def Numbered (r : ScriptRunner) : Prop := ∀ id ∈ r.ids, r.GivenOut id

theorem supply_step (r : ScriptRunner) (a : RunnerStep) : (r.step a).supply = r.supply := by
  have hmoves := moves_step r a
  generalize r.step a = r' at hmoves
  cases hmoves with
  | keeps hsame => exact hsame.supply_eq
  | @forgets _ r' ended hsame hends =>
    rw [supply_cleanUp]
    exact hsame.supply_eq
  | runs world child skip code => exact supply_run r world child skip code

theorem nextScript_le_step (r : ScriptRunner) (a : RunnerStep) :
    r.nextScript ≤ (r.step a).nextScript := by
  have hmoves := moves_step r a
  generalize r.step a = r' at hmoves
  cases hmoves with
  | keeps hsame => exact Nat.le_of_eq hsame.nextScript_eq.symm
  | @forgets _ r' ended hsame hends =>
    rw [nextScript_cleanUp]
    exact Nat.le_of_eq hsame.nextScript_eq.symm
  | runs world child skip code =>
    rw [nextScript_run]
    exact Nat.le_succ _

theorem GivenOut.step (h : r.GivenOut id) (a : RunnerStep) : (r.step a).GivenOut id := by
  obtain ⟨n, hn, rfl⟩ := h
  rw [GivenOut, supply_step]
  exact ⟨n, Nat.lt_of_lt_of_le hn (nextScript_le_step r a), rfl⟩

theorem GivenOut.not_starts (h : r.GivenOut id) (a : RunnerStep) : ¬ r.Starts id a := by
  cases a with
  | run world child skip code =>
    rintro ⟨rfl, -⟩
    exact not_givenOut_nextId r h
  | logs | stop | status | change | tick => exact False.elim

theorem Numbered.step (h : r.Numbered) (a : RunnerStep) : (r.step a).Numbered := by
  intro id hid
  rcases (mem_ids_step r a id).mp hid with ⟨hmem, -⟩ | hstarts
  · exact (h id hmem).step a
  · cases a with
    | run world child skip code =>
      rw [GivenOut, supply_step]
      refine ⟨r.nextScript, ?_, hstarts.1⟩
      exact Nat.lt_of_lt_of_eq (Nat.lt_succ_self _) (nextScript_run r world child skip code).symm
    | logs | stop | status | change | tick => cases hstarts

theorem Numbered.after (h : r.Numbered) (steps : List RunnerStep) : (r.after steps).Numbered := by
  induction steps generalizing r with
  | nil => exact h
  | cons a steps ih => exact ih (h.step a)

theorem notMem_ids_fresh (supply : RunnerSupply) (env : PythonEnvironment) (windows : Bool)
    (files : FileTree) (id : Text) : id ∉ (fresh supply env windows files).ids :=
  notMem_ids.mpr rfl

theorem numbered_fresh (supply : RunnerSupply) (env : PythonEnvironment) (windows : Bool)
    (files : FileTree) : (fresh supply env windows files).Numbered := fun id hid ↦
  absurd hid (notMem_ids_fresh supply env windows files id)

/-! The life of a script -/

theorem mem_ids_of_ends (h : r.Ends id a) : id ∈ r.ids := by
  cases a with
  | logs asked =>
    obtain ⟨-, s, -, hs, -⟩ := h
    exact mem_ids.mpr ⟨s, hs⟩
  | stop stopped =>
    obtain ⟨-, htrue⟩ := h
    by_contra hid
    rw [stop, notMem_ids.mp hid] at htrue
    cases htrue
  | run | status | change | tick => cases h

theorem GivenOut.notMem_ids_after (h : r.GivenOut id) (hid : id ∉ r.ids)
    (steps : List RunnerStep) : id ∉ (r.after steps).ids := by
  induction steps generalizing r with
  | nil => exact hid
  | cons a steps ih =>
    refine ih (h.step a) ?_
    rw [mem_ids_step]
    rintro (⟨hmem, -⟩ | hstarts)
    · exact hid hmem
    · exact h.not_starts a hstarts

theorem Numbered.notMem_ids_of_happens (h : r.Numbered)
    (hend : r.Happens (fun r a ↦ r.Ends id a) steps) : id ∉ (r.after steps).ids := by
  induction steps generalizing r with
  | nil => cases hend
  | cons a steps ih =>
    rcases hend with hends | hlater
    · have hgiven : r.GivenOut id := h id (mem_ids_of_ends hends)
      refine (hgiven.step a).notMem_ids_after ?_ steps
      rw [mem_ids_step]
      rintro (⟨-, hnot⟩ | hstarts)
      · exact hnot hends
      · exact hgiven.not_starts a hstarts
    · exact ih (h.step a) hlater

theorem mem_ids_of_not_happens (h : id ∈ r.ids)
    (hend : ¬ r.Happens (fun r a ↦ r.Ends id a) steps) : id ∈ (r.after steps).ids := by
  induction steps generalizing r with
  | nil => exact h
  | cons a steps ih =>
    rw [Happens, not_or] at hend
    exact ih ((mem_ids_step r a id).mpr (.inl ⟨h, hend.1⟩)) hend.2

theorem answers_of_notMem_ids (h : id ∉ r.ids) :
    r.status id = .ok .notFound ∧ (r.logs id).2 = [gone id] ∧ (r.stop id).2.1 = false := by
  have hfind := notMem_ids.mp h
  refine ⟨?_, ?_, ?_⟩
  · rw [status, hfind]
  · rw [logs, hfind]
  · rw [stop, hfind]

/-- The life of a script goes one way, in every sequence of calls and whatever happens between them.
Once a request for its log has met its end, or a stop of it has succeeded, it is not found, all that
its log holds is that it is gone, and it cannot be stopped. Until then a registered script stays
registered. -/
theorem registered_until_end (supply : RunnerSupply) (env : PythonEnvironment) (windows : Bool)
    (files : FileTree) (before steps : List RunnerStep) (id : Text) :
    let r := (fresh supply env windows files).after before
    let t := r.after steps
    (r.Happens (fun r a ↦ r.Ends id a) steps →
      t.status id = .ok .notFound ∧ (t.logs id).2 = [gone id] ∧ (t.stop id).2.1 = false) ∧
    (id ∈ r.ids → ¬ r.Happens (fun r a ↦ r.Ends id a) steps → id ∈ t.ids) := by
  intro r t
  have hnumbered : r.Numbered := (numbered_fresh supply env windows files).after before
  exact ⟨fun hend ↦ answers_of_notMem_ids (hnumbered.notMem_ids_of_happens hend),
    mem_ids_of_not_happens⟩

/-- A stop fails and leaves the script registered; then its process ends, and a request for its log
is the last that finds it. -/
theorem registered_until_end_refused :
    let child : ChildProcess := ⟨[], [], none, some "busy", none⟩
    let ended : RunningScript := ⟨4000, child, some 0, [], false, false, .int 1000⟩
    let files : FileTree := ⟨[(["scripts".toList], .directory)]⟩
    let r := (fresh .numbered ⟨"venv", false, "python"⟩ false files).after
      [.run ⟨[], [], 0, none, []⟩ child true (.text "x")]
    let id : Text := "id-0"
    id ∈ (r.after [.stop id]).ids ∧
      (r.after [.stop id, .change id ended, .logs id, .tick (.int 1)]).status id =
        .ok .notFound := by
  intro child ended files r id
  have hlife := registered_until_end .numbered ⟨"venv", false, "python"⟩ false files
    [.run ⟨[], [], 0, none, []⟩ child true (.text "x")]
  have hfound : (r.find? id).isSome := by decide +kernel
  have hrefused : (r.stop id).2.1 = false := by decide +kernel
  have hstop : ¬ r.Happens (fun r a ↦ r.Ends id a) [.stop id] := by
    rintro (⟨-, htrue⟩ | hfalse)
    · cases hrefused.symm.trans htrue
    · exact hfalse
  have hkept := (hlife [.stop id] id).2 (mem_ids.mpr (Option.isSome_iff_exists.mp hfound)) hstop
  obtain ⟨s, hs⟩ := mem_ids.mp hkept
  have hend : r.Happens (fun r a ↦ r.Ends id a)
      [.stop id, .change id ended, .logs id, .tick (.int 1)] :=
    .inr (.inr (.inl ⟨rfl, ended, 0, find?_put hs ended, by decide, rfl⟩))
  exact ⟨hkept, ((hlife _ id).1 hend).1⟩

end ScriptRunner

end SasMigration
