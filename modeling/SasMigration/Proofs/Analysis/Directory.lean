import Mathlib.Data.List.Nodup
import SasMigration.Analysis.Report
import SasMigration.Proofs.Files.Entry
import SasMigration.Proofs.Value.Association

namespace SasMigration

namespace Path

theorem baseName_of_notMem {name : Text} (h : '/' ∉ name) : baseName name = name := by
  have hcut : cut ([] ++ name) = ([], name) := cut_append (.inl rfl) h
  exact congrArg Prod.snd hcut

theorem baseName_join {name : Text} (directory : Text) (h : '/' ∉ name) :
    baseName (join directory name) = name := by
  have hhead : name.head? ≠ some '/' := fun hhead ↦ h (List.mem_of_head? hhead)
  rw [join, if_neg hhead, baseName]
  split
  · next hdirectory =>
    have hfirst : directory = [] ∨ directory.getLast? = some '/' :=
      hdirectory.imp_left List.isEmpty_iff.mp
    rw [cut_append hfirst h]
  · rw [List.append_cons, cut_append (.inr List.getLast?_concat) h]

theorem mem_cut_of_mem_split {path : Text} {c : Char} (h : c ∈ (split path).1) :
    c ∈ (cut path).1 := by
  rw [split] at h
  revert h
  generalize cut path = parts
  obtain ⟨first, last⟩ := parts
  dsimp only
  split
  · exact id
  · intro h
    exact List.mem_reverse.mp ((List.dropWhile_sublist _).mem (List.mem_reverse.mp h))

end Path

namespace FileTree

variable {t : FileTree} {place : Place} {name : Text}

/-- A tree in which no place is listed twice and no name has a slash in it. -/
structure IsProper (t : FileTree) : Prop where
  nodup : (t.entries.map (·.1)).Nodup
  notMem_slash : ∀ e ∈ t.entries, ∀ name ∈ e.1, '/' ∉ name

theorem eq_append_of_name {p : Place}
    (h : (if p.dropLast = place then p.getLast? else none) = some name) : p = place ++ [name] := by
  split at h
  · next hp =>
    subst hp
    exact (List.dropLast_append_getLast? name h).symm
  · cases h

theorem IsProper.nodup_names (ht : t.IsProper) (place : Place) : (t.names place).Nodup := by
  have hnames : t.names place = (t.entries.map (·.1)).filterMap fun p ↦
      if p.dropLast = place then p.getLast? else none := by
    rw [List.filterMap_map]
    rfl
  rw [hnames]
  refine ht.nodup.filterMap fun p p' name hp hp' ↦ ?_
  rw [eq_append_of_name hp, eq_append_of_name hp']

theorem IsProper.notMem_slash_of_mem_names (ht : t.IsProper) (h : name ∈ t.names place) :
    '/' ∉ name := by
  obtain ⟨e, he, hname⟩ := List.mem_filterMap.mp h
  refine ht.notMem_slash e he name ?_
  rw [eq_append_of_name hname]
  exact List.mem_append_right place (List.mem_singleton_self name)

end FileTree

namespace Glob

open FileTree

variable {t : FileTree} {directoriesOnly : Bool} {directory wild path : Text} {paths : List Text}

theorem namesIn_sublist (t : FileTree) (directoriesOnly : Bool) (directory wild : Text) :
    ∃ place, (namesIn t directoriesOnly directory wild).Sublist (t.names place) := by
  rw [namesIn]
  split
  · exact ⟨[], List.nil_sublist _⟩
  · next place _ =>
    refine ⟨place, ?_⟩
    split
    · exact List.filter_sublist
    · exact List.nil_sublist _

theorem nodup_plainIn (t : FileTree) (directory name : Text) :
    ((plainIn t directory name).map fun n ↦ Path.baseName (Path.join directory n)).Nodup := by
  rw [plainIn]
  split
  · split <;> simp
  · split <;> simp

theorem nodup_namesIn (ht : t.IsProper) (f : Text → Text)
    (hf : ∀ name, '/' ∉ name → Path.baseName (f name) = name) :
    ((namesIn t directoriesOnly directory wild).map fun n ↦ Path.baseName (f n)).Nodup := by
  obtain ⟨place, hsub⟩ := namesIn_sublist t directoriesOnly directory wild
  have hmap : (namesIn t directoriesOnly directory wild).map (fun n ↦ Path.baseName (f n)) =
      namesIn t directoriesOnly directory wild := by
    refine (List.map_congr_left fun name hname ↦ ?_).trans (List.map_id _)
    exact hf name (ht.notMem_slash_of_mem_names (hsub.mem hname))
  rw [hmap]
  exact hsub.nodup (ht.nodup_names place)

theorem hasWild_split (h : hasWild (Path.cut path).1 = false) :
    hasWild (Path.split path).1 = false := by
  rw [hasWild, List.any_eq_false] at h ⊢
  exact fun c hc ↦ h c (Path.mem_cut_of_mem_split hc)

theorem nodup_expandIn (ht : t.IsProper) (hpath : hasWild (Path.cut path).1 = false) (n : Nat) :
    ((expandIn t (n + 1) directoriesOnly path).map Path.baseName).Nodup := by
  have hdirectory := hasWild_split hpath
  rw [expandIn]
  revert hdirectory
  generalize Path.split path = parts
  obtain ⟨directory, name⟩ := parts
  intro hdirectory
  dsimp only at hdirectory ⊢
  split
  · -- without wildcards there is at most one path
    split
    · split <;> simp
    · split <;> simp
  · split
    · exact nodup_namesIn ht id fun name ↦ Path.baseName_of_notMem
    · rw [hdirectory, if_neg Bool.false_ne_true, List.flatMap_singleton, List.map_map]
      split
      · exact nodup_namesIn ht (Path.join directory) fun name ↦ Path.baseName_join directory
      · exact nodup_plainIn t directory name

theorem nodup_expand (ht : t.IsProper) (hpath : hasWild (Path.cut path).1 = false)
    (h : expand t path = .ok paths) : (paths.map Path.baseName).Nodup := by
  rw [expand] at h
  split at h
  · cases h
  · cases h
    exact nodup_expandIn ht hpath _

end Glob

namespace Report

variable {paths : List Text} {name p : Text}

/-- The last of some paths with a base name. -/
def IsLastNamed (name : Text) (paths : List Text) (p : Text) : Prop :=
  ∃ before after, paths = before ++ p :: after ∧ Path.baseName p = name ∧
    ∀ q ∈ after, Path.baseName q ≠ name

theorem isLastNamed_iff :
    IsLastNamed name paths p ↔
      paths.reverse.find? (fun p ↦ Path.baseName p == name) = some p := by
  rw [List.find?_eq_some_iff_append]
  constructor
  · rintro ⟨before, after, rfl, hname, hafter⟩
    refine ⟨by simpa using hname, after.reverse, before.reverse, by simp, fun q hq ↦ ?_⟩
    simpa using hafter q (List.mem_reverse.mp hq)
  · rintro ⟨hname, after, before, hpaths, hafter⟩
    refine ⟨before.reverse, after.reverse, ?_, by simpa using hname, fun q hq ↦ ?_⟩
    · rw [← List.reverse_reverse paths, hpaths]
      simp
    · simpa using hafter q (List.mem_reverse.mp hq)

theorem isLastNamed_of_nodup (h : (paths.map Path.baseName).Nodup) (hp : p ∈ paths) :
    IsLastNamed (Path.baseName p) paths p := by
  obtain ⟨before, after, rfl⟩ := List.append_of_mem hp
  refine ⟨before, after, rfl, rfl, fun q hq he ↦ ?_⟩
  rw [List.map_append, List.map_cons] at h
  have hnotMem := (List.nodup_cons.mp (List.nodup_append.mp h).2.1).1
  exact hnotMem (he ▸ List.mem_map_of_mem hq)

def tasks (taskOf : Text → Text) (paths : List Text) : Fields :=
  Fields.putAll [] (paths.map fun p ↦ (Path.baseName p, .text (taskOf p)))

theorem keys_tasks (taskOf : Text → Text) (paths : List Text) :
    (tasks taskOf paths).map (·.1) = Text.firstOccurrences (paths.map Path.baseName) := by
  rw [tasks, Fields.keys_putAll, List.map_map]
  rfl

theorem get?_tasks (taskOf : Text → Text) (paths : List Text) (name : Text) (id : Value) :
    (tasks taskOf paths).get? name = some id ↔
      ∃ p, IsLastNamed name paths p ∧ id = .text (taskOf p) := by
  have hlast : (tasks taskOf paths).get? name =
      (paths.reverse.find? fun p ↦ Path.baseName p == name).map fun p ↦ .text (taskOf p) := by
    rw [tasks, Fields.get?_putAll, ← List.map_reverse, Fields.get?, List.find?_map, Option.map_map]
    exact Option.or_none
  rw [hlast, Option.map_eq_some_iff]
  constructor
  · rintro ⟨p, hp, rfl⟩
    exact ⟨p, isLastNamed_iff.mpr hp, rfl⟩
  · rintro ⟨p, hp, rfl⟩
    exact ⟨p, isLastNamed_iff.mp hp, rfl⟩

/-- The report on a directory counts all files that were found, and names for each base name the
task of the last file that has it. So every task is named just if the base names are distinct, as
they are when no wildcard stands before the last slash. -/
theorem tasks_ofDirectory (taskOf : Text → Text) (t : FileTree) (directory wild : Value)
    (paths : List Text) (h : filesIn t directory wild = .ok paths) :
    ∃ ids : Fields,
      ofDirectory taskOf directory (filesIn t directory wild) =
        ([("directory", directory), ("file_count", .ofNat paths.length),
          ("task_ids", .object ids)] : Fields) ∧
      ids.map (·.1) = Text.firstOccurrences (paths.map Path.baseName) ∧
      (∀ name id, ids.get? name = some id ↔
        ∃ p, IsLastNamed name paths p ∧ id = .text (taskOf p)) ∧
      ids.length ≤ paths.length ∧
      (ids.length = paths.length ↔ (paths.map Path.baseName).Nodup) ∧
      ∀ d w, directory = .text d → wild = .text w → t.IsProper →
        Glob.hasWild (Path.cut (Path.join d w)).1 = false →
        ids.length = paths.length ∧
          ∀ p ∈ paths, ids.get? (Path.baseName p) = some (.text (taskOf p)) := by
  have hlength : (tasks taskOf paths).length =
      (Text.firstOccurrences (paths.map Path.baseName)).length := by
    rw [← keys_tasks taskOf paths, List.length_map]
  have hdistinct : (tasks taskOf paths).length = paths.length ↔
      (paths.map Path.baseName).Nodup := by
    rw [hlength, ← Text.length_firstOccurrences_eq_iff, List.length_map]
  refine ⟨tasks taskOf paths, by rw [h]; rfl, keys_tasks taskOf paths, get?_tasks taskOf paths, ?_,
    hdistinct, ?_⟩
  · rw [hlength]
    simpa using (Text.firstOccurrences_sublist (paths.map Path.baseName)).length_le
  · rintro d w rfl rfl ht hwild
    have hnodup := Glob.nodup_expand ht hwild h
    exact ⟨hdistinct.mpr hnodup, fun p hp ↦
      (get?_tasks taskOf paths _ _).mpr ⟨p, isLastNamed_of_nodup hnodup hp, rfl⟩⟩

/-- Two files of one directory. -/
theorem tasks_ofDirectory_siblings :
    let t : FileTree := ⟨[(["x"], .directory), (["x", "a.sas"], .file []),
      (["x", "b.sas"], .file [])]⟩
    let found := filesIn t (.text "x") (.text "*.sas")
    found = .ok ["x/a.sas", "x/b.sas"] ∧
      ∃ ids : Fields, ofDirectory id (.text "x") found =
        ([("directory", .text "x"), ("file_count", .ofNat 2), ("task_ids", .object ids)] :
          Fields) ∧
        ids.length = 2 ∧ ids.get? "a.sas" = some (.text "x/a.sas") ∧
        ids.get? "b.sas" = some (.text "x/b.sas") := by
  intro t found
  have h : found = .ok ["x/a.sas", "x/b.sas"] := by decide +kernel
  have ht : t.IsProper := ⟨by decide +kernel, by decide +kernel⟩
  obtain ⟨ids, hreport, -, -, -, -, hall⟩ := tasks_ofDirectory id t (.text "x") (.text "*.sas") _ h
  obtain ⟨hlength, hids⟩ := hall _ _ rfl rfl ht (by decide +kernel)
  exact ⟨h, ids, hreport, hlength, hids _ List.mem_cons_self,
    hids _ (List.mem_cons_of_mem _ (List.mem_singleton_self _))⟩

/-- Two files of one base name. -/
theorem tasks_ofDirectory_namesakes :
    let t : FileTree := ⟨[(["x"], .directory), (["x", "a.sas"], .file []),
      (["y"], .directory), (["y", "a.sas"], .file [])]⟩
    let found := filesIn t (.text ".") (.text "*/a.sas")
    found = .ok ["./x/a.sas", "./y/a.sas"] ∧
      ofDirectory id (.text ".") found =
        ([("directory", .text "."), ("file_count", .ofNat 2),
          ("task_ids", .object [("a.sas", .text "./y/a.sas")])] : Fields) := by
  intro t found
  have h : found = .ok ["./x/a.sas", "./y/a.sas"] := by decide +kernel
  refine ⟨h, ?_⟩
  rw [h]
  rfl

end Report

end SasMigration
