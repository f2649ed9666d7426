import Mathlib.Data.List.DropRight
import Mathlib.Data.List.Infix
import Mathlib.Tactic.Common
import SasMigration.Files.Tree
import SasMigration.Proofs.Value.Association

namespace SasMigration

namespace Path

theorem cut_append {first name : Text} (hfirst : first = [] ∨ first.getLast? = some '/')
    (hname : '/' ∉ name) : cut (first ++ name) = (first, name) := by
  have hpass : ∀ c ∈ name.reverse, (decide (c ≠ '/')) = true := by
    intro c hc
    have hne : c ≠ '/' := fun he ↦ hname (he ▸ List.mem_reverse.mp hc)
    simpa using hne
  have hstop : first.reverse.takeWhile (· ≠ '/') = [] ∧
      first.reverse.dropWhile (· ≠ '/') = first.reverse := by
    rcases hfirst with rfl | hlast
    · exact ⟨rfl, rfl⟩
    · rw [← List.head?_reverse] at hlast
      obtain ⟨rest, hrest⟩ := List.head?_eq_some_iff.mp hlast
      rw [hrest]
      exact ⟨by simp, by simp⟩
  rw [cut, List.reverse_append, List.dropWhile_append_of_pos hpass,
    List.takeWhile_append_of_pos hpass, hstop.1, hstop.2, List.append_nil, List.reverse_reverse,
    List.reverse_reverse]

end Path

namespace FileTree

variable {t : FileTree} {place p parent : Place} {entry : FileEntry} {path name : Text}

theorem find?_putEntry (place p : Place) (entry : FileEntry) (es : List (Place × FileEntry)) :
    ((putEntry place entry es).find? fun e ↦ e.1 == p).map (·.2) =
      if p = place then some entry else (es.find? fun e ↦ e.1 == p).map (·.2) := by
  have hputs : Puts (putEntry place entry) place entry := ⟨rfl, fun _ _ ↦ rfl⟩
  exact hputs.find? p es

theorem get?_put (h : place.isAbove = false) (t : FileTree) (entry : FileEntry) (p : Place) :
    (t.put place entry).get? p = if p = place then some entry else t.get? p := by
  rw [get?, get?, put, find?_putEntry]
  by_cases hp : p = place
  · simp [hp, h]
  · simp [hp]

theorem get?_erase (h : place.isAbove = false) (t : FileTree) (p : Place) :
    (t.erase place).get? p = if p = place then none else t.get? p := by
  rw [get?, get?, erase]
  by_cases hp : p = place
  · simp [hp, h, List.find?_filter]
  · have hfind : (t.entries.filter fun e ↦ e.1 != place).find? (fun e ↦ e.1 == p) =
        t.entries.find? fun e ↦ e.1 == p := by
      rw [List.find?_filter]
      congr 1
      funext e
      by_cases hep : e.1 = p
      · simp [hep, hp]
      · simp [hep]
    simp [hp, hfind]

/-- A name that a directory can hold. -/
structure IsEntryName (name : Text) : Prop where
  notMem_slash : '/' ∉ name
  ne_nil : name ≠ []
  ne_point : name ≠ ['.']
  ne_points : name ≠ ['.', '.']

theorem target_append {first : Text} (t : FileTree)
    (hfirst : first = [] ∨ first.getLast? = some '/') (h : IsEntryName name) :
    t.target (first ++ name) = (checkPath (first ++ name)).bind fun _ ↦
      (t.follow first).map fun parent ↦ .entry parent name false := by
  have hbare : ((first ++ name).reverse.dropWhile (· = '/')).reverse = first ++ name := by
    obtain ⟨c, hc⟩ := Option.ne_none_iff_exists'.mp (mt List.getLast?_eq_none_iff.mp h.ne_nil)
    have hne : c ≠ '/' := fun he ↦ h.notMem_slash (he ▸ List.mem_of_getLast? hc)
    obtain ⟨front, hfront⟩ := List.getLast?_eq_some_iff.mp hc
    simp [hfront, hne]
  rw [target, hbare]
  dsimp only
  rw [Path.cut_append hfirst h.notMem_slash]
  have hname : ¬(name.isEmpty = true ∨ name = ['.'] ∨ name = ['.', '.']) := by
    simp [h.ne_nil, h.ne_point, h.ne_points]
  cases checkPath (first ++ name) with
  | error fault => rfl
  | ok =>
    cases t.follow first with
    | error fault => rfl
    | ok parent =>
      have hslash : ¬(first ++ name).length < (first ++ name).length := Nat.lt_irrefl _
      simp only [Bind.bind, Except.bind, Except.map, hname, hslash, if_false, decide_false]
      rfl

end FileTree

namespace FileAction

open FileTree

variable {t t' : FileTree} {parent : Place} {path name : Text}

theorem run_bind_of_ok {α β : Type} {x : FileAction α} {a : α} (h : x.run.run t = (.ok a, t'))
    (f : α → FileAction β) : (x >>= f).run.run t = (f a).run.run t' := by
  rw [ExceptT.run_bind, StateT.run_bind, h]
  rfl

theorem run_bind_of_error {α β : Type} {x : FileAction α} {fault : Fault}
    (h : x.run.run t = (.error fault, t')) (f : α → FileAction β) :
    (x >>= f).run.run t = (.error fault, t') := by
  rw [ExceptT.run_bind, StateT.run_bind, h]
  rfl

theorem run_get (t : FileTree) : (get : FileAction FileTree).run.run t = (.ok t, t) := rfl

theorem run_target (t : FileTree) (path : Text) :
    (target path).run.run t = ((t.target path).mapError (Fault.file · path), t) := by
  rw [target, run_bind_of_ok (run_get t)]
  cases t.target path <;> rfl

theorem run_truncate_of_error {fault : FileFault} (h : t.target path = .error fault) :
    (truncate path).run.run t = (.error (.file fault path), t) := by
  have htarget : (target path).run.run t = (.error (.file fault path), t) := by
    rw [run_target, h]
    rfl
  rw [truncate, run_bind_of_error htarget]

theorem run_truncate_of_target (h : t.target path = .ok (.entry parent name false)) :
    (truncate path).run.run t =
      if isLongName name then (.error (.file .nameTooLong path), t)
      else if t.isDirectoryAt (parent ++ [name]) then (.error (.file .isDirectory path), t)
      else (.ok (parent ++ [name]), t.put (parent ++ [name]) (.file [])) := by
  have htarget : (target path).run.run t = (.ok (.entry parent name false), t) := by
    rw [run_target, h]
    rfl
  rw [truncate, run_bind_of_ok htarget]
  dsimp only
  rw [run_bind_of_ok (run_get t)]
  by_cases hlong : isLongName name
  · rw [if_pos hlong, if_pos hlong]
    rfl
  · rw [if_neg hlong, if_neg hlong]
    by_cases hdir : t.isDirectoryAt (parent ++ [name])
    · rw [if_pos hdir, if_pos hdir]
      rfl
    · rw [if_neg hdir, if_neg hdir]
      rfl

theorem run_write_of_error {fault : Fault} (h : (truncate path).run.run t = (.error fault, t'))
    (content : Except Fault Text) :
    (write path content).run.run t = (.error fault, t') := by
  rw [write, run_bind_of_error h]

theorem run_write_of_ok {place : Place} (h : (truncate path).run.run t = (.ok place, t'))
    (content : Except Fault Text) :
    (write path content).run.run t = match content with
      | .ok text => (.ok (), t'.put place (.file (Utf8.encode text)))
      | .error fault => (.error fault, t') := by
  rw [write, run_bind_of_ok h]
  cases content <;> rfl

theorem run_remove_of_target {bytes : List UInt8}
    (h : t.target path = .ok (.entry parent name false))
    (hname : isLongName name = false) (hfile : t.get? (parent ++ [name]) = some (.file bytes)) :
    (remove path).run.run t = (.ok (), t.erase (parent ++ [name])) := by
  have htarget : (target path).run.run t = (.ok (.entry parent name false), t) := by
    rw [run_target, h]
    rfl
  rw [remove, run_bind_of_ok htarget]
  dsimp only
  rw [run_bind_of_ok (run_get t), hname]
  simp only [Bool.false_eq_true, if_false, hfile]
  rfl

end FileAction

end SasMigration
