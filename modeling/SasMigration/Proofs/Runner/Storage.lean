import SasMigration.Proofs.Files.Writing
import SasMigration.Proofs.Runner.Registry

namespace SasMigration.ScriptRunner

open FileTree

variable {r r' : ScriptRunner} {id other : Text} {left : Text → Prop} {a : RunnerStep}

/-- The directory for scripts holds the file of a script. -/
def Stored (r : ScriptRunner) (id : Text) : Prop :=
  '/' ∉ id ∧ ∃ bytes, r.files.bytesAt (r.pathOf id) = .ok bytes

/-- The steps that leave a file behind: a run that could open the file of its script, and did not
start a process. -/
def Abandons (r : ScriptRunner) (id : Text) : RunnerStep → Prop
  | .run world child skip code =>
    id = r.nextId ∧ (r.run world child skip code).2.2.commands = [] ∧
      ∀ fault path, (r.run world child skip code).2.1 ≠ .error (.file fault path)
  | _ => False

theorem isEntryName_file (h : '/' ∉ id) : IsEntryName (id ++ ".py".toList) :=
  isEntryName_of_getLast? (c := 'y') (by simp [h]) (by simp) (by decide)

theorem stored_congr (hfiles : r'.files = r.files) (hsupply : r'.supply = r.supply) :
    r'.Stored id ↔ r.Stored id := by
  rw [Stored, Stored, pathOf, pathOf, hfiles, hsupply]

/-! Storing a script and removing it -/

/-- A script cannot be stored, and no file changes; or it has a file from then on, whether or not
that could be filled, and no other script gains or loses one. -/
theorem save_cases (r : ScriptRunner) (code : Value) :
    (∃ fault path, (r.save code).2 = .error (.file fault path)) ∧
      (r.save code).1.files = r.files ∨
    (r.save code).2 = code.asWritten.map (fun _ ↦ r.nextId) ∧
      ∀ id, (r.save code).1.Stored id ↔ id = r.nextId ∨ r.Stored id := by
  have hslash : '/' ∉ r.nextId := r.supply.slash_notMem r.nextScript
  have hname := isEntryName_file hslash
  rcases FileAction.run_write_cases r.supply.directory hname code.asWritten r.files with
    ⟨fault, hrun⟩ | ⟨p, bytes, files, hp, hrun, hstores⟩
  · have hsave : r.save code = ({ r with nextScript := r.nextScript + 1 },
        .error (.file fault (r.pathOf r.nextId))) := by
      rw [save, pathOf, hrun]
      rfl
    rw [hsave]
    exact .inl ⟨⟨fault, _, rfl⟩, rfl⟩
  · have hsave : r.save code = ({ r with files, nextScript := r.nextScript + 1 },
        code.asWritten.map fun _ ↦ r.nextId) := by
      rw [save, pathOf, hrun]
      cases code.asWritten <;> rfl
    rw [hsave]
    refine .inr ⟨rfl, fun id ↦ ?_⟩
    by_cases hid : id = r.nextId
    · rw [hid]
      exact iff_of_true ⟨hslash, bytes, hstores.bytesAt_eq _ List.mem_cons_self⟩ (.inl rfl)
    · rw [or_iff_right hid]
      refine and_congr_right fun hid' ↦ exists_congr fun content ↦ ?_
      have hne : id ++ ".py".toList ≠ r.nextId ++ ".py".toList := fun he ↦
        hid (List.append_cancel_right he)
      exact hstores.bytesAt_other_iff hname (isEntryName_file hid') hne hp

theorem stored_cleanUp (hid : id ∈ r.ids) (h : r.Stored id) :
    (r.cleanUp id).Stored other ↔ r.Stored other ∧ other ≠ id := by
  obtain ⟨hslash, bytes, hbytes⟩ := h
  have hname := isEntryName_file hslash
  obtain ⟨q, hresolve, hfile⟩ := bytesAt_eq_ok.mp hbytes
  obtain ⟨hcheck, hlong, p, hp, rfl⟩ := exists_of_resolve_join hname hresolve
  have htarget : r.files.target (r.pathOf id) = .ok (.entry p (id ++ ".py".toList) false) := by
    have happend := r.files.target_append (Path.opening_cases r.supply.directory) hname
    rw [← Path.join_eq_append hname.notMem_slash, hcheck, hp] at happend
    exact happend
  obtain ⟨s, hfind⟩ := mem_ids.mp hid
  have hclean : (r.cleanUp id).files = r.files.erase (p ++ [id ++ ".py".toList]) := by
    rw [cleanUp_of_registered hfind, FileAction.run_remove_of_target htarget hlong hfile]
  have hget := get?_erase (isAbove_concat hname p) r.files
  have hkeeps : r.files.KeepsDirectories (r.files.erase (p ++ [id ++ ".py".toList])) := by
    intro place hplace
    rw [hget, if_neg fun he ↦ ?_]
    · exact hplace
    · rw [he, hfile] at hplace
      cases hplace
  rw [Stored, Stored, pathOf, pathOf, supply_cleanUp, hclean, and_assoc]
  refine and_congr_right fun hother ↦ ?_
  have hentry := isEntryName_file hother
  by_cases hsame : other = id
  · rw [hsame]
    refine iff_of_false ?_ fun hboth ↦ hboth.2 rfl
    rintro ⟨content, hcontent⟩
    have hplace := ((bytesAt_join_eq_ok hname (hkeeps.follow_eq hp)).mp hcontent).2.2
    rw [hget, if_pos rfl] at hplace
    cases hplace
  · have hne : p ++ [other ++ ".py".toList] ≠ p ++ [id ++ ".py".toList] := fun he ↦
      hsame (List.append_cancel_right (List.singleton_inj.mp (List.append_cancel_left he)))
    rw [and_iff_left hsame]
    refine exists_congr fun content ↦ hkeeps.bytesAt_join_iff hentry hp ?_
    rw [hget, if_neg hne]

/-! What a step does to the files -/

theorem not_file_of_asWritten {code : Value} {fault : Fault} (h : code.asWritten = .error fault)
    (reason : FileFault) (path : Text) : fault ≠ .file reason path := by
  cases code with
  | text t => cases h
  | null | bool | int | number | list | object =>
    cases h
    exact Fault.noConfusion

theorem not_file_of_run (r : ScriptRunner) (world : PackageWorld) (child : ChildProcess)
    (skip : Bool) {code : Value} (h : (r.save code).2 = code.asWritten.map fun _ ↦ r.nextId)
    (fault : FileFault) (path : Text) :
    (r.run world child skip code).2.1 ≠ .error (.file fault path) := by
  have hran := ran_run r world child skip code
  generalize r.run world child skip code = ran at hran
  cases hran with
  | @refused reason hsave =>
    rw [h] at hsave
    cases hwritten : code.asWritten with
    | ok text =>
      rw [hwritten] at hsave
      cases hsave
    | error reason' =>
      rw [hwritten] at hsave
      cases hsave
      exact fun he ↦ not_file_of_asWritten hwritten fault path (Except.error.inj he)
  | broken | unstarted | started => simp

theorem stored_run (r : ScriptRunner) (world : PackageWorld) (child : ChildProcess) (skip : Bool)
    (code : Value) : (r.run world child skip code).1.Stored id ↔ r.Stored id ∨
      r.Starts id (.run world child skip code) ∨ r.Abandons id (.run world child skip code) := by
  have hsaved : (r.run world child skip code).1.Stored id ↔ (r.save code).1.Stored id :=
    stored_congr (files_run r world child skip code) (supply_run r world child skip code)
  rw [hsaved]
  rcases save_cases r code with ⟨⟨fault, path, hfault⟩, hfiles⟩ | ⟨hdone, hstored⟩
  · have hrun : (r.run world child skip code).2 = (.error (.file fault path), .none) := by
      have hran := ran_run r world child skip code
      generalize r.run world child skip code = ran at hran
      cases hran with
      | refused h =>
        cases hfault.symm.trans h
        rfl
      | broken h | unstarted h => cases hfault.symm.trans h
      | started script process h => cases hfault.symm.trans h
    rw [stored_congr hfiles rfl, Starts, Abandons, hrun]
    simp [RunTrace.none]
  · have hopened := not_file_of_run r world child skip hdone
    rw [hstored, or_comm, Starts, Abandons, and_iff_left hopened, ← and_or_left,
      and_iff_left (Classical.em _).symm]

theorem not_starts_or_abandons (hrun : ∀ world child skip code, a ≠ .run world child skip code) :
    ¬ (r.Starts id a ∨ r.Abandons id a) := by
  cases a with
  | run world child skip code => exact absurd rfl (hrun world child skip code)
  | logs | stop | status | change | tick => exact fun h ↦ h.elim False.elim False.elim

def Backed (r : ScriptRunner) : Prop := ∀ id ∈ r.ids, r.Stored id

/-- What has a file after a step: what had one before and does not end, what is started, and what is
left behind. -/
theorem Backed.stored_step (h : r.Backed) (a : RunnerStep) (id : Text) : (r.step a).Stored id ↔
    r.Stored id ∧ ¬ r.Ends id a ∨ r.Starts id a ∨ r.Abandons id a := by
  have hmoves := moves_step r a
  generalize r.step a = r' at hmoves
  cases hmoves with
  | keeps hsame hends hrun =>
    rw [stored_congr hsame.files_eq hsame.supply_eq, or_iff_left (not_starts_or_abandons hrun),
      and_iff_left (hends id)]
  | @forgets _ r' ended hsame hends =>
    have hended : ended ∈ r.ids := mem_ids_of_ends hends
    have hrun (world : PackageWorld) (child : ChildProcess) (skip : Bool) (code : Value) :
        a ≠ .run world child skip code := by
      rintro rfl
      exact hends
    have hstored (id : Text) : r'.Stored id ↔ r.Stored id :=
      stored_congr hsame.files_eq hsame.supply_eq
    rw [stored_cleanUp (hsame.ids_eq ▸ hended) ((hstored _).mpr (h _ hended)), hstored,
      or_iff_left (not_starts_or_abandons hrun), ends_iff hends]
  | runs world child skip code =>
    have hends : ¬ r.Ends id (.run world child skip code) := False.elim
    rw [stored_run, and_iff_left hends]

theorem Backed.step (h : r.Backed) (a : RunnerStep) : (r.step a).Backed := by
  intro id hid
  rw [h.stored_step]
  rcases (mem_ids_step r a id).mp hid with ⟨hmem, hends⟩ | hstarts
  · exact .inl ⟨h id hmem, hends⟩
  · exact .inr (.inl hstarts)

theorem Backed.after (h : r.Backed) (steps : List RunnerStep) : (r.after steps).Backed := by
  induction steps generalizing r with
  | nil => exact h
  | cons a steps ih => exact ih (h.step a)

theorem backed_fresh (supply : RunnerSupply) (env : PythonEnvironment) (windows : Bool)
    (files : FileTree) : (fresh supply env windows files).Backed := fun id hid ↦
  absurd hid (notMem_ids_fresh supply env windows files id)

/-! Files and registry -/

/-- Each registered script has its file, and so has each script in `left`; no other has one. -/
structure InStep (r : ScriptRunner) (left : Text → Prop) : Prop where
  numbered : r.Numbered
  givenOut_left (id : Text) (h : left id) : r.GivenOut id ∧ id ∉ r.ids
  stored_iff (id : Text) : r.Stored id ↔ id ∈ r.ids ∨ left id

theorem InStep.backed (h : r.InStep left) : r.Backed := fun id hid ↦
  (h.stored_iff id).mpr (.inl hid)

theorem InStep.congr {left' : Text → Prop} (h : r.InStep left) (hleft : ∀ id, left' id ↔ left id) :
    r.InStep left' := by
  obtain rfl : left' = left := funext fun id ↦ propext (hleft id)
  exact h

theorem Numbered.of_abandons (h : r.Numbered) (habandons : r.Abandons id a) :
    (r.step a).GivenOut id ∧ id ∉ (r.step a).ids := by
  cases a with
  | run world child skip code =>
    obtain ⟨rfl, hcommands, -⟩ := habandons
    refine ⟨?_, fun hid ↦ ?_⟩
    · rw [GivenOut, supply_step]
      refine ⟨r.nextScript, ?_, rfl⟩
      exact Nat.lt_of_lt_of_eq (Nat.lt_succ_self _) (nextScript_run r world child skip code).symm
    · rcases (mem_ids_step r _ _).mp hid with ⟨hmem, -⟩ | ⟨-, hstarted⟩
      · exact not_givenOut_nextId r (h _ hmem)
      · exact hstarted hcommands
  | logs | stop | status | change | tick => cases habandons

theorem InStep.step (h : r.InStep left) (a : RunnerStep) :
    (r.step a).InStep fun id ↦ left id ∨ r.Abandons id a := by
  refine ⟨h.numbered.step a, fun id hleft ↦ ?_, fun id ↦ ?_⟩
  · rcases hleft with hleft | habandons
    · obtain ⟨hgiven, hid⟩ := h.givenOut_left id hleft
      exact ⟨hgiven.step a, hgiven.notMem_ids_after hid [a]⟩
    · exact h.numbered.of_abandons habandons
  · -- what is left behind is not registered, so no step ends it
    have hleft (hleft : left id) : ¬ r.Ends id a := fun hends ↦
      (h.givenOut_left id hleft).2 (mem_ids_of_ends hends)
    rw [h.backed.stored_step, mem_ids_step, h.stored_iff]
    tauto

theorem InStep.after (h : r.InStep left) (steps : List RunnerStep) :
    (r.after steps).InStep fun id ↦ left id ∨ r.Happens (fun r a ↦ r.Abandons id a) steps := by
  induction steps generalizing r left with
  | nil => exact h.congr fun id ↦ or_iff_left False.elim
  | cons a steps ih => exact (ih (h.step a)).congr fun id ↦ or_assoc.symm

/-- In every sequence of calls, and whatever happens between them, the scripts that have a file are
the registered ones and those that a run left behind, of which none is registered. So files and
registry are in step exactly as long as no run has left a file behind. This is said of every tree of
files, and so only where there are no links. -/
theorem stored_iff_registered_or_left (supply : RunnerSupply) (env : PythonEnvironment)
    (windows : Bool) (files : FileTree)
    (hfree : ∀ id, ¬ (fresh supply env windows files).Stored id) (steps : List RunnerStep) :
    let r := (fresh supply env windows files).after steps
    let left (id : Text) :=
      (fresh supply env windows files).Happens (fun r a ↦ r.Abandons id a) steps
    (∀ id, r.Stored id ↔ id ∈ r.ids ∨ left id) ∧ (∀ id, left id → id ∉ r.ids) ∧
      ((∀ id, r.Stored id ↔ id ∈ r.ids) ↔ ∀ id, ¬ left id) := by
  intro r left
  have hfresh : (fresh supply env windows files).InStep fun _ ↦ False := by
    refine ⟨numbered_fresh supply env windows files, fun _ ↦ False.elim, fun id ↦ ?_⟩
    exact iff_of_false (hfree id) (by simpa using notMem_ids_fresh supply env windows files id)
  have hinStep : r.InStep left :=
    (hfresh.after steps).congr fun id ↦ (iff_of_eq (false_or _)).symm
  have hapart (id : Text) (hleft : left id) : id ∉ r.ids := (hinStep.givenOut_left id hleft).2
  refine ⟨hinStep.stored_iff, hapart, fun h id hleft ↦ ?_, fun hnone id ↦ ?_⟩
  · exact hapart id hleft ((h id).mp ((hinStep.stored_iff id).mpr (.inr hleft)))
  · rw [hinStep.stored_iff id, or_iff_left (hnone id)]

/-- The process of a script cannot be started, and its file stays when the next script runs. -/
theorem stored_iff_registered_or_left_unstarted :
    let files : FileTree := ⟨[(["scripts".toList], .directory)]⟩
    let runner := fresh .numbered ⟨"venv", false, "python"⟩ false files
    let steps : List RunnerStep :=
      [.run ⟨[], [], 0, none, []⟩ ⟨[], [], some "no such file", none, none⟩ true (.text "x"),
        .run ⟨[], [], 0, none, []⟩ ⟨[], [], none, none, none⟩ true (.text "y")]
    let r := runner.after steps
    (∀ id, ¬ runner.Stored id) ∧ "id-0".toList ∉ r.ids ∧ r.Stored "id-0" ∧
      "id-1".toList ∈ r.ids ∧ r.Stored "id-1" := by
  intro files runner steps r
  have hfree (id : Text) : ¬ runner.Stored id := by
    rintro ⟨-, bytes, hbytes⟩
    obtain ⟨p, -, hp⟩ := bytesAt_eq_ok.mp hbytes
    change files.get? p = some (.file bytes) at hp
    rw [FileTree.get?] at hp
    split at hp
    · cases hp
    · simp [files, List.find?_singleton] at hp
  obtain ⟨hstored, hapart, -⟩ := stored_iff_registered_or_left .numbered
    ⟨"venv", false, "python"⟩ false files hfree steps
  have hleft : runner.Happens (fun r a ↦ r.Abandons "id-0" a) steps := by
    refine .inl ⟨by decide +kernel, by decide +kernel, not_file_of_run runner _ _ _ ?_⟩
    unfold runner files
    rfl
  have hid : "id-1".toList ∈ r.ids :=
    mem_ids.mpr (Option.isSome_iff_exists.mp (by decide +kernel))
  exact ⟨hfree, hapart _ hleft, (hstored _).mpr (.inr hleft), hid, (hstored _).mpr (.inl hid)⟩

/-- A script whose process cannot be started has a file, and is not registered. -/
theorem exists_stored_unregistered :
    let files : FileTree := ⟨[(["scripts".toList], .directory)]⟩
    let child : ChildProcess := ⟨[], [], some "no such file", none, none⟩
    let r := (fresh .numbered ⟨"venv", false, "python"⟩ false files).after
      [.run ⟨[], [], 0, none, []⟩ child true (.text "print(1)")]
    r.Stored "id-0" ∧ "id-0".toList ∉ r.ids := by
  intro files child r
  refine ⟨⟨by decide, Utf8.encode "print(1)".toList, ?_⟩, notMem_ids.mpr ?_⟩
  · unfold r files child
    rfl
  · exact Option.isNone_iff_eq_none.mp (by decide +kernel)

end SasMigration.ScriptRunner
