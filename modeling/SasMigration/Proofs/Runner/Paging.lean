import SasMigration.Proofs.Runner.Storage

namespace SasMigration.ScriptRunner

open FileTree

variable {r r' : ScriptRunner} {id : Text} {s : RunningScript} {code : Int}

theorem Backed.stored_logs (h : r.Backed) (hfind : r.find? id = some s)
    (hended : s.poll = .ended code) :
    (r.logs id).1.Stored id ↔ ¬ s.queue.length < mostLines := by
  have hends : r.Ends id (.logs id) ↔ s.queue.length < mostLines := by
    rw [Ends, meetsEnd_iff hfind]
    simp [hended]
  change (r.step (.logs id)).Stored id ↔ _
  rw [h.stored_step, or_iff_left (not_starts_or_abandons (by simp)), hends,
    and_iff_right (h id (mem_ids.mpr ⟨s, hfind⟩))]

/-! Request after request -/

theorem after_append (r : ScriptRunner) (steps more : List RunnerStep) :
    r.after (steps ++ more) = (r.after steps).after more := List.foldl_append

theorem find?_after_logs (hfind : r.find? id = some s) (hended : s.poll = .ended code) (k : Nat)
    (hk : mostLines * k ≤ s.queue.length) :
    (r.after (.replicate k (.logs id))).find? id =
      some { s with queue := s.queue.drop (mostLines * k) } := by
  induction k with
  | zero => exact hfind
  | succ k ih =>
    rw [Nat.mul_succ] at hk
    have hlogs := (logs_of_ended (ih (by omega)) hended).2
    have hlength : ¬ (s.queue.drop (mostLines * k)).length < mostLines := by
      rw [List.length_drop]
      omega
    rw [if_neg hlength, List.drop_drop] at hlogs
    rw [List.replicate_succ', after_append, Nat.mul_succ]
    exact hlogs

theorem after_logs_of_none (h : r.find? id = none) (k : Nat) :
    r.after (.replicate k (.logs id)) = r := by
  have hlogs : r.step (.logs id) = r := by
    rw [step, logs, h]
  induction k with
  | zero => rfl
  | succ k ih => rw [List.replicate_succ', after_append, ih, after, List.foldl_cons, hlogs]; rfl

theorem Backed.after_logs (h : r.Backed) (hfind : r.find? id = some s)
    (hended : s.poll = .ended code) (k : Nat) :
    let asked := r.after (.replicate k (.logs id))
    (id ∈ asked.ids ↔ k ≤ s.queue.length / mostLines) ∧
      (asked.Stored id ↔ k ≤ s.queue.length / mostLines) := by
  intro asked
  have hmost : mostLines = 100 := rfl
  by_cases hk : k ≤ s.queue.length / mostLines
  · have hmem : id ∈ asked.ids :=
      mem_ids.mpr ⟨_, find?_after_logs hfind hended k (by rw [hmost] at hk ⊢; omega)⟩
    exact ⟨iff_of_true hmem hk, iff_of_true (h.after _ id hmem) hk⟩
  · obtain ⟨j, hj⟩ : ∃ j, k = s.queue.length / mostLines + 1 + j := Nat.exists_eq_add_of_lt
      (Nat.lt_of_not_le hk) |>.imp fun j hj ↦ by omega
    let last := r.after (.replicate (s.queue.length / mostLines) (.logs id))
    have hlast : last.find? id = some { s with
        queue := s.queue.drop (mostLines * (s.queue.length / mostLines)) } :=
      find?_after_logs hfind hended _ (Nat.mul_div_le _ _)
    have hfew : (s.queue.drop (mostLines * (s.queue.length / mostLines))).length < mostLines := by
      rw [List.length_drop, hmost]
      omega
    have hgone : (last.logs id).1.find? id = none := by
      rw [(logs_of_ended hlast hended).2, if_pos hfew]
    have hasked : asked = (last.logs id).1 := by
      rw [← after_logs_of_none hgone j]
      simp only [asked, last, hj, List.replicate_add, after_append]
      rfl
    rw [hasked]
    refine ⟨iff_of_false (notMem_ids.mpr hgone) hk, iff_of_false ?_ hk⟩
    rw [Backed.stored_logs (h.after _) hlast hended]
    exact not_not_intro hfew

theorem flatMap_pages (queue : List Text) (size k : Nat) :
    (List.range k).flatMap (fun i ↦ (queue.drop (size * i)).take size) = queue.take (size * k) := by
  induction k with
  | zero => rw [Nat.mul_zero, List.take_zero, List.range_zero, List.flatMap_nil]
  | succ k ih =>
    rw [List.range_succ, List.flatMap_append, ih, List.flatMap_singleton, Nat.mul_succ,
      List.take_add]

/-- A request for the log of a script that has ended gives out the first hundred of the lines that
wait, leaves the rest, and says that the script has ended, forgets it and removes its file exactly
if it found fewer than a hundred. So the requests give out all lines, in order, a hundred at a time,
and the script is forgotten by the first that gives out fewer. -/
theorem logs_until_forgotten (supply : RunnerSupply) (env : PythonEnvironment) (windows : Bool)
    (files : FileTree) (steps : List RunnerStep) (id : Text) (s : RunningScript) (code : Int)
    (hfind : ((fresh supply env windows files).after steps).find? id = some s)
    (hended : s.poll = .ended code) (houtput : s.outputOpen = false)
    (herrors : s.errorsOpen = false) :
    let r := (fresh supply env windows files).after steps
    let n := s.queue.length
    let closing : List Text :=
      ["DEBUG: Process has ended with return code: " ++ Text.ofInt code,
        "Script has ended, return code: " ++ Text.ofInt code,
        "DEBUG: stdout thread alive: False, stderr thread alive: False"]
    let asked (k : Nat) := r.after (.replicate k (.logs id))
    let page (k : Nat) := (s.queue.drop (100 * k)).take 100
    ((r.logs id).2 = ("DEBUG: Queue size: " ++ Text.ofNat n) :: s.queue.take 100 ++
        (if n < 100 then closing else []) ∧
      (r.logs id).1.find? id =
        (if n < 100 then none else some { s with queue := s.queue.drop 100 }) ∧
      r.Stored id ∧ ((r.logs id).1.Stored id ↔ ¬ n < 100)) ∧
    (∀ k, (id ∈ (asked k).ids ↔ k < n / 100 + 1) ∧ ((asked k).Stored id ↔ k < n / 100 + 1)) ∧
    (∀ k < n / 100 + 1, ((asked k).logs id).2 =
      ("DEBUG: Queue size: " ++ Text.ofNat (n - 100 * k)) :: page k ++
        if k = n / 100 then closing else []) ∧
    (List.range (n / 100 + 1)).flatMap page = s.queue := by
  intro r n closing asked page
  have hbacked : r.Backed := (backed_fresh supply env windows files).after steps
  have hclosing : ending s code = closing := ending_eq_closing houtput herrors code
  obtain ⟨hgiven, hleft⟩ := logs_of_ended hfind hended
  rw [given, hclosing] at hgiven
  refine ⟨⟨hgiven, hleft, hbacked id (mem_ids.mpr ⟨s, hfind⟩),
    hbacked.stored_logs hfind hended⟩, fun k ↦ ?_, fun k hk ↦ ?_, ?_⟩
  · rw [Nat.lt_succ_iff]
    exact hbacked.after_logs hfind hended k
  · have hle : 100 * k ≤ n := by omega
    obtain ⟨hgiven, -⟩ := logs_of_ended (find?_after_logs hfind hended k hle) hended
    have hlength : (s.queue.drop (100 * k)).length = n - 100 * k := List.length_drop
    have hlast : n - 100 * k < 100 ↔ k = n / 100 := by omega
    rw [hgiven]
    change ("DEBUG: Queue size: ".toList ++ Text.ofNat (s.queue.drop (100 * k)).length) :: page k ++
      (if (s.queue.drop (100 * k)).length < 100 then ending s code else []) = _
    rw [hlength, hclosing, if_congr hlast rfl rfl]
  · rw [flatMap_pages]
    exact List.take_of_length_le (by omega)

/-- With exactly a hundred lines, a second request is needed to see that there are no more. -/
theorem logs_until_forgotten_hundred :
    let child : ChildProcess := ⟨[], [], none, none, none⟩
    let queue := (List.range 100).map Text.ofNat
    let ended : RunningScript := ⟨4000, child, some 3, queue, false, false, .int 1000⟩
    let id : Text := "id-0"
    let files : FileTree := ⟨[(["scripts".toList], .directory)]⟩
    let r := (fresh .numbered ⟨"venv", false, "python"⟩ false files).after
      [.run ⟨[], [], 0, none, []⟩ child true (.text "x"), .change id ended]
    (r.logs id).2 = "DEBUG: Queue size: 100".toList :: queue ∧
      id ∈ (r.after [.logs id]).ids ∧ (r.after [.logs id]).Stored id ∧
      id ∉ (r.after [.logs id, .logs id]).ids ∧ ¬ (r.after [.logs id, .logs id]).Stored id := by
  intro child queue ended id files r
  have hran : (((fresh .numbered ⟨"venv", false, "python"⟩ false files).after
      [.run ⟨[], [], 0, none, []⟩ child true (.text "x")]).find? id).isSome := by decide +kernel
  obtain ⟨s, hs⟩ := Option.isSome_iff_exists.mp hran
  obtain ⟨⟨hgiven, -⟩, hasked, -⟩ := logs_until_forgotten .numbered ⟨"venv", false, "python"⟩ false
    files [.run ⟨[], [], 0, none, []⟩ child true (.text "x"), .change id ended] id ended 3
    (find?_put hs ended) rfl rfl rfl
  have hlength : ended.queue.length / 100 + 1 = 2 := by decide
  rw [hlength] at hasked
  refine ⟨hgiven.trans (by decide +kernel), (hasked 1).1.mpr (by decide),
    (hasked 1).2.mpr (by decide), ?_, ?_⟩
  · exact fun h ↦ absurd ((hasked 2).1.mp h) (by decide)
  · exact fun h ↦ absurd ((hasked 2).2.mp h) (by decide)

end SasMigration.ScriptRunner
