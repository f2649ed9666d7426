import SasMigration.Proofs.Files.Entry
import SasMigration.Proofs.Text.Lines

namespace SasMigration

namespace Text

end Text

namespace Path

variable {directory name : Text}

/-- The path of a directory as it stands before a name. -/
def opening (directory : Text) : Text :=
  if directory.isEmpty ∨ directory.getLast? = some '/' then directory else directory ++ ['/']

theorem opening_cases (directory : Text) :
    opening directory = [] ∨ (opening directory).getLast? = some '/' := by
  rw [opening]
  split
  · next h => simpa using h
  · simp

theorem join_eq_append (hname : '/' ∉ name) : join directory name = opening directory ++ name := by
  have hhead : name.head? ≠ some '/' := fun h ↦ hname (List.mem_of_head? h)
  rw [join, if_neg hhead, opening]
  split <;> simp

end Path

namespace FileTree

variable {t t' : FileTree} {p q : Place} {first name part : Text}

theorem walk_append (t : FileTree) (place : Place) (parts more : List Text) :
    t.walk place (parts ++ more) = (t.walk place parts).bind (t.walk · more) := by
  induction parts generalizing place with
  | nil => rfl
  | cons part parts ih =>
    rw [List.cons_append, walk, walk]
    cases t.step place part with
    | error fault => rfl
    | ok next => exact ih next

theorem walk_singleton (t : FileTree) (place : Place) (part : Text) :
    t.walk place [part] = t.step place part := by
  rw [walk]
  cases t.step place part <;> rfl

theorem step_nil_eq_ok : t.step p [] = .ok q ↔ t.get? p = some .directory ∧ p = q := by
  rw [step]
  cases t.get? p with
  | none => simp
  | some entry => cases entry <;> simp

theorem step_eq_ok (h : IsEntryName name) : t.step p name = .ok q ↔
    t.get? p = some .directory ∧ isLongName name = false ∧ p ++ [name] = q := by
  rw [step]
  cases t.get? p with
  | none => simp
  | some entry =>
    cases entry with
    | file bytes => simp
    | directory =>
      cases hlong : isLongName name <;> simp [h.ne_nil, h.ne_point, h.ne_points]

theorem exists_follow_append (t : FileTree) (hfirst : first = [] ∨ first.getLast? = some '/') :
    ∃ way : Except FileFault Place, ∀ rest, rest.head? ≠ some '/' →
      t.follow (first ++ rest) = way.bind (t.walk · (Text.splitOn ['/'] rest)) := by
  rcases hfirst with rfl | hlast
  · refine ⟨.ok [], fun rest hrest ↦ ?_⟩
    rw [List.nil_append, follow, if_neg hrest]
    rfl
  · obtain ⟨front, rfl⟩ := List.getLast?_eq_some_iff.mp hlast
    refine ⟨t.walk (if (front ++ ['/']).head? = some '/' then Place.root else [])
      (Text.splitOn ['/'] front), fun rest _ ↦ ?_⟩
    rw [follow, List.head?_append_of_ne_nil _ (by simp), List.append_assoc, List.singleton_append,
      Text.splitOn_append_cons, walk_append]

theorem follow_append (hfirst : first = [] ∨ first.getLast? = some '/')
    (h : t.follow first = .ok p) : t.get? p = some .directory ∧ ∀ rest, rest.head? ≠ some '/' →
      t.follow (first ++ rest) = t.walk p (Text.splitOn ['/'] rest) := by
  obtain ⟨way, hway⟩ := t.exists_follow_append hfirst
  rw [← List.append_nil first, hway [] (by simp)] at h
  cases way with
  | error fault => cases h
  | ok place =>
    have hstep : t.step place [] = .ok p := (t.walk_singleton place []).symm.trans h
    obtain ⟨hplace, rfl⟩ := step_nil_eq_ok.mp hstep
    exact ⟨hplace, hway⟩

theorem resolve_eq_ok {path : Text} :
    t.resolve path = .ok q ↔ checkPath path = .ok () ∧ t.follow path = .ok q := by
  rw [resolve]
  cases checkPath path with
  | error fault => exact ⟨fun h ↦ (by cases h), fun h ↦ (by cases h.1)⟩
  | ok => exact ⟨fun h ↦ ⟨rfl, h⟩, fun h ↦ h.2⟩

theorem resolve_join {directory : Text} (hname : IsEntryName name)
    (hcheck : checkPath (Path.join directory name) = .ok ()) (hlong : isLongName name = false)
    (hp : t.follow (Path.opening directory) = .ok p) :
    t.resolve (Path.join directory name) = .ok (p ++ [name]) := by
  obtain ⟨hdirectory, hrest⟩ := follow_append (Path.opening_cases directory) hp
  have hhead : name.head? ≠ some '/' := fun h ↦ hname.notMem_slash (List.mem_of_head? h)
  refine resolve_eq_ok.mpr ⟨hcheck, ?_⟩
  rw [Path.join_eq_append hname.notMem_slash, hrest name hhead,
    Text.splitOn_of_notMem hname.notMem_slash, walk_singleton]
  exact (step_eq_ok hname).mpr ⟨hdirectory, hlong, rfl⟩

theorem exists_of_resolve_join {directory : Text} (hname : IsEntryName name)
    (h : t.resolve (Path.join directory name) = .ok q) :
    checkPath (Path.join directory name) = .ok () ∧ isLongName name = false ∧
      ∃ p, t.follow (Path.opening directory) = .ok p ∧ p ++ [name] = q := by
  obtain ⟨hcheck, hfollow⟩ := resolve_eq_ok.mp h
  obtain ⟨way, hway⟩ := t.exists_follow_append (Path.opening_cases directory)
  have hhead : name.head? ≠ some '/' := fun h ↦ hname.notMem_slash (List.mem_of_head? h)
  rw [Path.join_eq_append hname.notMem_slash, hway name hhead,
    Text.splitOn_of_notMem hname.notMem_slash] at hfollow
  cases way with
  | error fault => cases hfollow
  | ok p =>
    have hstep : t.step p name = .ok q := (t.walk_singleton p name).symm.trans hfollow
    obtain ⟨hdirectory, hlong, hq⟩ := (step_eq_ok hname).mp hstep
    refine ⟨hcheck, hlong, p, ?_, hq⟩
    rw [← List.append_nil (Path.opening directory), hway [] (by simp)]
    exact (t.walk_singleton p []).trans (step_nil_eq_ok.mpr ⟨hdirectory, rfl⟩)

theorem isEntryName_of_getLast? {c : Char} (hname : '/' ∉ name) (hlast : name.getLast? = some c)
    (hc : c ≠ '.') : IsEntryName name := by
  refine ⟨hname, ?_, ?_, ?_⟩ <;>
    · rintro rfl
      cases hlast
      try exact hc rfl

theorem isAbove_concat (hname : IsEntryName name) (p : Place) :
    Place.isAbove (p ++ [name]) = false := by
  have hroot : p ++ [name] ≠ Place.root := by
    intro h
    have hlast : name = ['/'] := by simpa [Place.root] using congrArg List.getLast? h
    exact hname.notMem_slash (by simp [hlast])
  simp [Place.isAbove, hroot, hname.ne_points]

/-! Directories that stay -/

/-- What is a directory stays one. -/
def KeepsDirectories (t t' : FileTree) : Prop :=
  ∀ p, t.get? p = some .directory → t'.get? p = some .directory

theorem KeepsDirectories.trans {t'' : FileTree} (h : t.KeepsDirectories t')
    (h' : t'.KeepsDirectories t'') : t.KeepsDirectories t'' := fun p hp ↦ h' p (h p hp)

theorem KeepsDirectories.step_eq (h : t.KeepsDirectories t') (hstep : t.step p part = .ok q) :
    t'.step p part = .ok q := by
  have hp : t.get? p = some .directory := by
    rw [step] at hstep
    split at hstep
    · cases hstep
    · cases hstep
    · next hp => exact hp
  rw [step, hp] at hstep
  rw [step, h p hp]
  exact hstep

theorem KeepsDirectories.walk_eq (h : t.KeepsDirectories t') {parts : List Text}
    (hwalk : t.walk p parts = .ok q) : t'.walk p parts = .ok q := by
  induction parts generalizing p with
  | nil => exact hwalk
  | cons part parts ih =>
    rw [walk] at hwalk ⊢
    cases hstep : t.step p part with
    | error fault =>
      rw [hstep] at hwalk
      cases hwalk
    | ok next =>
      rw [hstep] at hwalk
      rw [h.step_eq hstep]
      exact ih hwalk

theorem KeepsDirectories.follow_eq (h : t.KeepsDirectories t') {path : Text}
    (hfollow : t.follow path = .ok q) : t'.follow path = .ok q := h.walk_eq hfollow

theorem KeepsDirectories.resolve_eq (h : t.KeepsDirectories t') {path : Text}
    (hresolve : t.resolve path = .ok q) : t'.resolve path = .ok q := by
  obtain ⟨hcheck, hfollow⟩ := resolve_eq_ok.mp hresolve
  exact resolve_eq_ok.mpr ⟨hcheck, h.follow_eq hfollow⟩

end FileTree

end SasMigration
