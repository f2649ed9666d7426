import SasMigration.Proofs.Files.Paths

namespace SasMigration

namespace FileTree

variable {t t' t'' : FileTree} {p : Place} {path : Text} {bytes : List UInt8}
  {files more : List (Text × List UInt8)}

theorem bytesAt_eq_ok : t.bytesAt path = .ok bytes ↔
    ∃ p, t.resolve path = .ok p ∧ t.get? p = some (.file bytes) := by
  rw [bytesAt]
  cases t.resolve path with
  | error fault => simp
  | ok p =>
    simp only [Except.ok.injEq, exists_eq_left']
    cases t.get? p with
    | none => simp
    | some entry => cases entry <;> simp

/-- The paths lead to files with these bytes, and of the rest only directories are new. -/
structure Stores (files : List (Text × List UInt8)) (t t' : FileTree) : Prop where
  bytesAt_eq : ∀ f ∈ files, t'.bytesAt f.1 = .ok f.2
  get?_other : ∀ p, (∀ f ∈ files, t'.resolve f.1 ≠ .ok p) →
    t'.get? p = t.get? p ∨ t.get? p = none ∧ t'.get? p = some .directory
  keeps : t.KeepsDirectories t'

theorem Stores.refl (t : FileTree) : Stores [] t t :=
  ⟨fun _ he ↦ (by cases he), fun _ _ ↦ .inl rfl, fun _ hp ↦ hp⟩

theorem Stores.trans (h : Stores files t t') (h' : Stores more t' t'')
    (hapart : ∀ f ∈ files, ∀ g ∈ more, t''.resolve f.1 ≠ t''.resolve g.1) :
    Stores (files ++ more) t t'' := by
  refine ⟨fun f hf ↦ ?_, fun p hp ↦ ?_, h.keeps.trans h'.keeps⟩
  · rcases List.mem_append.mp hf with hf | hf
    · obtain ⟨p, hresolve, hp⟩ := bytesAt_eq_ok.mp (h.bytesAt_eq f hf)
      have hresolve' := h'.keeps.resolve_eq hresolve
      refine bytesAt_eq_ok.mpr ⟨p, hresolve', ?_⟩
      rcases h'.get?_other p fun g hg hgp ↦ hapart f hf g hg (hresolve'.trans hgp.symm) with
        hsame | ⟨hnone, -⟩
      · exact hsame.trans hp
      · rw [hp] at hnone
        cases hnone
    · exact h'.bytesAt_eq f hf
  · have hbefore := h.get?_other p fun f hf hfp ↦
      hp f (List.mem_append_left more hf) (h'.keeps.resolve_eq hfp)
    have hafter := h'.get?_other p fun g hg ↦ hp g (List.mem_append_right files hg)
    rcases hbefore with hsame | ⟨hnone, hnew⟩
    · rwa [hsame] at hafter
    · exact .inr ⟨hnone, h'.keeps p hnew⟩

theorem Stores.after_added (h : Stores [] t t') (h' : Stores files t' t'') : Stores files t t'' :=
  h.trans h' (by simp)

theorem Stores.get?_eq_file_iff (h : Stores files t t')
    (hp : ∀ f ∈ files, t'.resolve f.1 ≠ .ok p) (bytes : List UInt8) :
    t'.get? p = some (.file bytes) ↔ t.get? p = some (.file bytes) := by
  rcases h.get?_other p hp with hsame | ⟨hnone, hnew⟩
  · rw [hsame]
  · simp [hnone, hnew]

def below (directory : Text) (files : List (List Text × List UInt8)) :
    List (Text × List UInt8) := files.map fun f ↦ (Path.joinAll directory f.1, f.2)

theorem stores_of_get?_eq (h : t.isDirectoryAt p = false) (hresolve : t.resolve path = .ok p)
    (hget : ∀ q, t'.get? q = if q = p then some (.file bytes) else t.get? q) :
    Stores [(path, bytes)] t t' := by
  have hkeeps : t.KeepsDirectories t' := by
    intro q hq
    rw [hget, if_neg fun hqp ↦ ?_]
    · exact hq
    · rw [isDirectoryAt, ← hqp, hq] at h
      cases h
  refine ⟨fun f hf ↦ ?_, fun q hq ↦ .inl ?_, hkeeps⟩
  · rw [List.mem_singleton.mp hf]
    exact bytesAt_eq_ok.mpr ⟨p, hkeeps.resolve_eq hresolve, by rw [hget, if_pos rfl]⟩
  · rw [hget, if_neg fun hqp ↦ ?_]
    exact hq _ List.mem_cons_self (hqp ▸ hkeeps.resolve_eq hresolve)

theorem stores_put_file (habove : p.isAbove = false) (h : t.isDirectoryAt p = false)
    (hresolve : t.resolve path = .ok p) (started bytes : List UInt8) :
    Stores [(path, bytes)] t ((t.put p (.file started)).put p (.file bytes)) := by
  refine stores_of_get?_eq h hresolve fun q ↦ ?_
  rw [get?_put habove, get?_put habove]
  by_cases hq : q = p
  · rw [if_pos hq, if_pos hq]
  · rw [if_neg hq, if_neg hq, if_neg hq]

/-! The files of one directory -/

section Directory

variable {directory name other : Text}

theorem bytesAt_join_eq_ok (hname : IsEntryName name)
    (hp : t.follow (Path.opening directory) = .ok p) :
    t.bytesAt (Path.join directory name) = .ok bytes ↔
      checkPath (Path.join directory name) = .ok () ∧ isLongName name = false ∧
        t.get? (p ++ [name]) = some (.file bytes) := by
  rw [bytesAt_eq_ok]
  constructor
  · rintro ⟨q, hresolve, hq⟩
    obtain ⟨hcheck, hlong, p', hp', rfl⟩ := exists_of_resolve_join hname hresolve
    obtain rfl := Except.ok.inj (hp.symm.trans hp')
    exact ⟨hcheck, hlong, hq⟩
  · rintro ⟨hcheck, hlong, hget⟩
    exact ⟨_, resolve_join hname hcheck hlong hp, hget⟩

theorem KeepsDirectories.bytesAt_join_iff (h : t.KeepsDirectories t') (hname : IsEntryName name)
    (hp : t.follow (Path.opening directory) = .ok p)
    (hget : t'.get? (p ++ [name]) = some (.file bytes) ↔
      t.get? (p ++ [name]) = some (.file bytes)) :
    t'.bytesAt (Path.join directory name) = .ok bytes ↔
      t.bytesAt (Path.join directory name) = .ok bytes := by
  rw [bytesAt_join_eq_ok hname (h.follow_eq hp), bytesAt_join_eq_ok hname hp, hget]

theorem Stores.bytesAt_other_iff {written : List UInt8}
    (h : Stores [(Path.join directory name, written)] t t') (hname : IsEntryName name)
    (hother : IsEntryName other) (hne : other ≠ name)
    (hp : t.follow (Path.opening directory) = .ok p) :
    t'.bytesAt (Path.join directory other) = .ok bytes ↔
      t.bytesAt (Path.join directory other) = .ok bytes := by
  refine h.keeps.bytesAt_join_iff hother hp (h.get?_eq_file_iff ?_ bytes)
  intro f hf hresolve
  rw [List.mem_singleton.mp hf] at hresolve
  obtain ⟨-, -, p', hp', heq⟩ := exists_of_resolve_join hname hresolve
  obtain rfl := Except.ok.inj ((h.keeps.follow_eq hp).symm.trans hp')
  exact hne (by simpa using heq.symm)

end Directory

end FileTree

namespace FileAction

open FileTree

variable {α β : Type} {t t' t'' : FileTree} {directory name path : Text}

/-! Directories -/

/-- Whether it ends with a fault or not, the action does no more than add directories. -/
def AddsDirectories (x : FileAction α) : Prop := ∀ t, Stores [] t (x.run.run t).2

theorem AddsDirectories.bind {x : FileAction α} {f : α → FileAction β} (hx : AddsDirectories x)
    (hf : ∀ a, AddsDirectories (f a)) : AddsDirectories (x >>= f) := by
  intro t
  have hfirst := hx t
  cases hrun : x.run.run t with
  | mk done t' =>
    rw [hrun] at hfirst
    cases done with
    | error fault => rwa [run_bind_of_error hrun]
    | ok a =>
      rw [run_bind_of_ok hrun]
      exact hfirst.after_added (hf a t')

theorem run_tryCatch (x : FileAction α) (f : Fault → FileAction α) (t : FileTree) :
    (tryCatch x f).run.run t = match x.run.run t with
      | (.ok a, t') => (.ok a, t')
      | (.error fault, t') => (f fault).run.run t' := by
  unfold ExceptT.run StateT.run
  simp only [tryCatch, tryCatchThe, MonadExceptOf.tryCatch, ExceptT.tryCatch, ExceptT.mk, bind,
    StateT.bind]
  cases x t with
  | mk done t' => cases done <;> rfl

theorem AddsDirectories.tryCatch {x : FileAction α} {f : Fault → FileAction α}
    (hx : AddsDirectories x) (hf : ∀ fault, AddsDirectories (f fault)) :
    AddsDirectories (tryCatch x f) := by
  intro t
  have hfirst := hx t
  rw [run_tryCatch]
  cases hrun : x.run.run t with
  | mk done t' =>
    rw [hrun] at hfirst
    cases done with
    | error fault => exact hfirst.after_added (hf fault t')
    | ok a => exact hfirst

theorem exists_of_run_bind {x : FileAction α} {f : α → FileAction β} {b : β}
    (h : (x >>= f).run.run t = (.ok b, t'')) :
    ∃ a t', x.run.run t = (.ok a, t') ∧ (f a).run.run t' = (.ok b, t'') := by
  cases hrun : x.run.run t with
  | mk done t' =>
    cases done with
    | error fault =>
      rw [run_bind_of_error hrun] at h
      cases h
    | ok a => exact ⟨a, t', rfl, by rwa [run_bind_of_ok hrun] at h⟩

theorem run_truncate_cases (directory : Text) (hname : IsEntryName name) (t : FileTree) :
    (∃ fault, (truncate (Path.join directory name)).run.run t =
      (.error (.file fault (Path.join directory name)), t)) ∨
    ∃ p, t.follow (Path.opening directory) = .ok p ∧
      t.resolve (Path.join directory name) = .ok (p ++ [name]) ∧
      t.isDirectoryAt (p ++ [name]) = false ∧
      (truncate (Path.join directory name)).run.run t =
        (.ok (p ++ [name]), t.put (p ++ [name]) (.file [])) := by
  have htarget := t.target_append (Path.opening_cases directory) hname
  rw [← Path.join_eq_append hname.notMem_slash] at htarget
  cases hcheck : checkPath (Path.join directory name) with
  | error fault =>
    rw [hcheck] at htarget
    exact .inl ⟨fault, run_truncate_of_error htarget⟩
  | ok =>
    cases hfollow : t.follow (Path.opening directory) with
    | error fault =>
      rw [hcheck, hfollow] at htarget
      exact .inl ⟨fault, run_truncate_of_error htarget⟩
    | ok p =>
      rw [hcheck, hfollow] at htarget
      have hrun := run_truncate_of_target htarget
      cases hlong : isLongName name with
      | true => exact .inl ⟨_, hrun.trans (if_pos hlong)⟩
      | false =>
        rw [hlong, if_neg Bool.false_ne_true] at hrun
        cases hdirectory : t.isDirectoryAt (p ++ [name]) with
        | true => exact .inl ⟨_, hrun.trans (if_pos hdirectory)⟩
        | false =>
          rw [hdirectory, if_neg Bool.false_ne_true] at hrun
          exact .inr ⟨p, rfl, resolve_join hname hcheck hlong hfollow, hdirectory, hrun⟩

/-- A file that is started stays, whether or not it could be filled. -/
theorem run_write_cases (directory : Text) (hname : IsEntryName name)
    (content : Except Fault Text) (t : FileTree) :
    (∃ fault, (write (Path.join directory name) content).run.run t =
      (.error (.file fault (Path.join directory name)), t)) ∨
    ∃ p bytes t', t.follow (Path.opening directory) = .ok p ∧
      (write (Path.join directory name) content).run.run t = (content.map fun _ ↦ (), t') ∧
      Stores [(Path.join directory name, bytes)] t t' := by
  rcases run_truncate_cases directory hname t with
    ⟨fault, hrun⟩ | ⟨p, hp, hresolve, hdirectory, hrun⟩
  · exact .inl ⟨fault, run_write_of_error hrun content⟩
  · have habove := isAbove_concat hname p
    have hwrite := run_write_of_ok hrun content
    cases content with
    | error fault =>
      exact .inr ⟨p, [], _, hp, hwrite,
        stores_of_get?_eq hdirectory hresolve (get?_put habove t (.file []))⟩
    | ok text =>
      exact .inr ⟨p, _, _, hp, hwrite, stores_put_file habove hdirectory hresolve [] _⟩

end FileAction

end SasMigration
