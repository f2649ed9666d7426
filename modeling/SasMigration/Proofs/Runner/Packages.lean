import SasMigration.Proofs.Pattern.Search
import SasMigration.Proofs.Text.Distinct
import SasMigration.Runner.Packages

namespace SasMigration.Packages

variable {code line package : Text}

theorem isAsciiWord_iff_range {c : Char} : Text.isAsciiWord c ↔
    97 ≤ c.toNat ∧ c.toNat ≤ 122 ∨ 65 ≤ c.toNat ∧ c.toNat ≤ 90 ∨
      48 ≤ c.toNat ∧ c.toNat ≤ 57 ∨ '_' = c := by
  have hword : Text.isAsciiWord c = ((decide ('A'.val ≤ c.val ∧ c.val ≤ 'Z'.val) ||
      (decide ('a'.val ≤ c.val) && decide (c.val ≤ 'z'.val)) ||
      (decide ('0'.val ≤ c.val) && decide (c.val ≤ '9'.val))) || c == '_') := rfl
  rw [hword]
  simp only [Bool.or_eq_true, Bool.and_eq_true, decide_eq_true_eq, beq_iff_eq,
    UInt32.le_iff_toNat_le]
  change ((65 ≤ c.toNat ∧ c.toNat ≤ 90 ∨ 97 ≤ c.toNat ∧ c.toNat ≤ 122) ∨
    48 ≤ c.toNat ∧ c.toNat ≤ 57) ∨ c = '_' ↔ _
  rw [or_assoc, or_assoc, or_left_comm, eq_comm (a := c)]

/-- The texts that can be the name of a package. -/
structure IsName (package : Text) : Prop where
  ne_nil : package ≠ []
  isAsciiWord : ∀ c ∈ package, Text.isAsciiWord c

theorem IsName.head?_ne (h : IsName package) : package.head? ≠ some '-' := by
  intro hhead
  have hword := h.isAsciiWord '-' (List.mem_of_mem_head? hhead)
  exact absurd hword (by decide)

theorem isName_of_mem_ends {s t : Cursor} {v : Text} (h : t ∈ name.ends s) (hv : s.Takes v t) :
    IsName v := by
  obtain ⟨hlength, hset⟩ := Pattern.holds_of_mem_ends_span h hv
  refine ⟨List.ne_nil_of_length_pos hlength, fun c hc ↦ isAsciiWord_iff_range.mpr ?_⟩
  simpa [CharSet.holds, ClassItem.holds, LetterCase.forms, LetterCase.same] using hset c hc

theorem records_group (number : Nat) : (Pattern.group number name).Records fun _ w ↦ IsName w :=
  ⟨trivial, fun _ _ _ h hv ↦ isName_of_mem_ends h hv⟩

theorem records_importLine : importLine.Records fun _ w ↦ IsName w := by
  have hmore : (Pattern.inOrder [.blanks, .literal ",", .blanks, .group 2 name]).Records
      fun _ w ↦ IsName w := by
    rw [Pattern.records_inOrder]
    simp only [List.forall_mem_cons]
    exact ⟨trivial, Pattern.records_letters _ _, trivial, records_group 2, by simp⟩
  rw [importLine, Pattern.records_inOrder]
  simp only [List.forall_mem_cons]
  exact ⟨Pattern.records_letters _ _, trivial, records_group 1, hmore, by simp⟩

theorem records_fromLine : fromLine.Records fun _ w ↦ IsName w := by
  have hparts : (Pattern.both (.literal ".") name).Records fun _ w ↦ IsName w :=
    ⟨Pattern.records_letters _ _, trivial⟩
  rw [fromLine, Pattern.records_inOrder]
  simp only [List.forall_mem_cons]
  exact ⟨Pattern.records_letters _ _, trivial, records_group 1, hparts, trivial,
    Pattern.records_letters _ _, by simp⟩

theorem isName_of_mem_recorded {p : Pattern} {number : Nat} (hp : p.Records fun _ w ↦ IsName w)
    (h : package ∈ recorded p number line) : IsName package := by
  rw [recorded] at h
  cases hm : p.matchStart? line with
  | none => simp [hm] at h
  | some m =>
    simp only [hm, Option.mem_toList] at h
    exact Pattern.records_of_isOf hp (Pattern.isOf_of_matchStart? hm) h

theorem isName_of_mem_inLine (h : package ∈ inLine line) : IsName package := by
  simp only [inLine, List.mem_append] at h
  rcases h with (h | h) | h
  · exact isName_of_mem_recorded records_importLine h
  · exact isName_of_mem_recorded records_importLine h
  · exact isName_of_mem_recorded records_fromLine h

theorem isName_of_mem_ofCode (h : package ∈ ofCode code) : IsName package := by
  have hfound := List.mem_of_mem_filter (Text.mem_distinctSorted.mp h)
  obtain ⟨line, -, hline⟩ := List.mem_flatMap.mp hfound
  exact isName_of_mem_inLine hline

theorem mem_missing {world : PackageWorld} {packages : List Text} :
    package ∈ missing world packages ↔ package ∈ packages ∧ package ∉ world.installed := by
  rw [missing, Text.mem_firstOccurrences, List.mem_filter]
  simp

theorem tryImports_eq_none {world : PackageWorld} {packages : List Text} :
    (tryImports world packages).2 = none ↔ ∀ p ∈ packages, world.importError? p = none := by
  induction packages with
  | nil => simp [tryImports]
  | cons p packages ih =>
    rw [List.forall_mem_cons, tryImports]
    cases world.importError? p with
    | some reason => simp
    | none => simpa using ih

theorem commands_install (env : PythonEnvironment) (world : PackageWorld) (packages : List Text) :
    (install env world packages).commands =
      if missing world packages = [] ∨ packages.any fun p ↦ (world.importError? p).isSome then []
      else [env.pip ++ " install " ++ Text.join [' '] (missing world packages)] := by
  have hnone : (tryImports world packages).2 = none ↔
      ¬ (packages.any fun p ↦ (world.importError? p).isSome) = true := by
    rw [tryImports_eq_none]
    simp
  rw [install]
  by_cases hempty : packages.isEmpty
  · rw [if_pos hempty, List.isEmpty_iff.mp hempty]
    rfl
  · rw [if_neg hempty]
    rcases himports : tryImports world packages with ⟨announced, failed⟩
    rw [himports] at hnone
    cases failed with
    | some reason =>
      have hany : (packages.any fun p ↦ (world.importError? p).isSome) = true := by
        by_contra hnot
        cases hnone.mpr hnot
      rw [if_pos (.inr hany)]
    | none =>
      rw [if_congr (or_iff_left (hnone.mp rfl)) rfl rfl]
      cases missing world packages with
      | nil => rfl
      | cons package more => rfl

/-- Whatever a script says and whichever packages are installed, the only command that is run for it
is that of the installer with the missing ones among the packages that it imports: distinct words of
ASCII letters, digits and underscores, with a blank between them. So none begins as an option does,
and no character that means something to a shell comes from the script. Where the import of a
package fails for another reason than that it is missing, no command is run. -/
theorem commands_prepare (env : PythonEnvironment) (world : PackageWorld) (code : Text) :
    ∃ words : List Text, words.Nodup ∧
      (∀ w, w ∈ words ↔ w ∈ ofCode code ∧ w ∉ world.installed) ∧
      (∀ w ∈ words, w ≠ [] ∧ w.head? ≠ some '-' ∧ ∀ c ∈ w, c.isAlphanum ∨ c = '_') ∧
      (prepare env world code).commands =
        if words = [] ∨ (ofCode code).any fun w ↦ (world.importError? w).isSome then []
        else [env.pip ++ " install " ++ Text.join [' '] words] := by
  refine ⟨missing world (ofCode code), Text.nodup_firstOccurrences _, fun w ↦ mem_missing,
    fun w hw ↦ ?_, commands_install env world (ofCode code)⟩
  have hname : IsName w := isName_of_mem_ofCode (mem_missing.mp hw).1
  refine ⟨hname.ne_nil, hname.head?_ne, fun c hc ↦ ?_⟩
  simpa [Text.isAsciiWord] using hname.isAsciiWord c hc

example : (prepare ⟨"venv", false, []⟩ ⟨[], [], 0, none, []⟩
    "import numpy; rm -r .\nimport -r x\nfrom $(ls).x import y").commands =
      [("venv/bin/pip install numpy" : Text)] := by decide +kernel

end SasMigration.Packages
