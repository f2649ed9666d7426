import SasMigration.Proofs.Pattern.Leading
import SasMigration.Proofs.Runner.Packages
import SasMigration.Proofs.Text.Lines

namespace SasMigration.Packages

open Pattern
open Text (IsGap isBlank isAsciiWord lines unlines strip)

variable {code line package v w rest : Text} {ls : List Text}

/-- A further name in a list, after a comma. -/
structure Further where
  before : Text
  after : Text
  name : Text
  isBlank_before : ∀ c ∈ before, isBlank c
  isBlank_after : ∀ c ∈ after, isBlank c
  isName : IsName name

def Further.spaced (name : Text) (h : IsName name) : Further :=
  ⟨[], [' '], name, Text.isBlank_of_mem_nil, Text.isBlank_of_mem_space, h⟩

def Further.text (f : Further) : Text := f.before ++ ',' :: (f.after ++ f.name)

/-- A line that imports a list of packages and does nothing else. -/
structure ImportLine where
  indent : Text
  gap : Text
  first : Text
  more : List Further
  trail : Text
  isBlank_indent : ∀ c ∈ indent, isBlank c
  isGap : IsGap gap
  isName : IsName first
  isBlank_trail : ∀ c ∈ trail, isBlank c

namespace ImportLine

def names (l : ImportLine) : List Text := l.first :: l.more.map Further.name

def last (l : ImportLine) : Text := (l.more.map Further.name).getLastD l.first

def opening (l : ImportLine) : Text := "import".toList ++ (l.gap ++ l.first)

def statement (l : ImportLine) : Text := l.opening ++ l.more.flatMap Further.text

def text (l : ImportLine) : Text := l.indent ++ (l.statement ++ l.trail)

end ImportLine

/-! Names -/

instance : DecidablePred IsName := fun t ↦
  decidable_of_iff (t ≠ [] ∧ t.all isAsciiWord = true)
    ⟨fun h ↦ ⟨h.1, List.all_eq_true.mp h.2⟩, fun h ↦ ⟨h.ne_nil, List.all_eq_true.mpr h.isAsciiWord⟩⟩

theorem isBlank_of_isAsciiWord {c : Char} (h : isAsciiWord c) : isBlank c = false := by
  rw [Bool.eq_false_iff]
  intro hblank
  have hnone : (Text.blankCodes.all fun n ↦ !isAsciiWord (Char.ofNat n)) = true := by decide
  have hc := List.all_eq_true.mp hnone _ (Text.toNat_mem_blankCodes hblank)
  simp [Char.ofNat_toNat, h] at hc

theorem IsName.isBlank_head (h : IsName v) (rest : Text) :
    ∀ c, (v ++ rest).head? = some c → isBlank c = false := by
  obtain ⟨c, v, rfl⟩ := List.exists_cons_of_ne_nil h.ne_nil
  intro d hd
  cases hd
  exact isBlank_of_isAsciiWord (h.isAsciiWord _ List.mem_cons_self)

theorem leads_name (hv : IsName v) (hrest : ∀ c, rest.head? = some c → isAsciiWord c = false) :
    name.Leads v rest [] := by
  have hset (c : Char) : (CharSet.ofItems false .distinguished
      [.range 'a'.toNat 'z'.toNat, .range 'A'.toNat 'Z'.toNat, .range '0'.toNat '9'.toNat,
        .char '_']).holds c = isAsciiWord c := by
    rw [Bool.eq_iff_iff, isAsciiWord_iff_range]
    simp [CharSet.holds, ClassItem.holds, LetterCase.forms, LetterCase.same]
  apply leads_longest (List.length_pos_iff.mpr hv.ne_nil)
  · intro c hc
    rw [hset]
    exact hv.isAsciiWord c hc
  · intro c hc
    rw [hset]
    exact hrest c hc

theorem isAsciiWord_head_more (fs : List Further) :
    ∀ c, (fs.flatMap Further.text).head? = some c → isAsciiWord c = false := by
  cases fs with
  | nil => simp
  | cons f fs =>
    intro c hc
    rw [List.flatMap_cons, Further.text] at hc
    cases hbefore : f.before with
    | nil =>
      rw [hbefore] at hc
      cases hc
      decide
    | cons d before =>
      rw [hbefore] at hc
      cases hc
      have hblank := f.isBlank_before c (by simp [hbefore])
      rw [Bool.eq_false_iff]
      intro hword
      rw [isBlank_of_isAsciiWord hword] at hblank
      cases hblank

/-! What is recorded -/

def furtherPattern : Pattern := .inOrder [.blanks, .literal ",", .blanks, .group 2 name]

theorem leads_furtherPattern (f : Further)
    (hrest : ∀ c, rest.head? = some c → isAsciiWord c = false) :
    furtherPattern.Leads f.text rest [(2, f.name)] := by
  have hname : (inOrder [.group 2 name]).Leads f.name rest [(2, f.name)] :=
    (leads_name f.isName hrest).group 2
  have hafter := (leads_blanks f.isBlank_after (f.isName.isBlank_head rest)).inOrder_cons hname
  have hcomma := (leads_literal [','] (f.after ++ f.name ++ rest)).inOrder_cons hafter
  refine (leads_blanks f.isBlank_before ?_).inOrder_cons hcomma
  intro c hc
  cases hc
  decide

theorem ends_furtherPattern_of_nil {s : Cursor} (h : s.after = []) :
    furtherPattern.ends s = [] := by
  rw [List.eq_nil_iff_forall_not_mem]
  intro t ht
  rw [furtherPattern] at ht
  obtain ⟨t₁, h₁, ht⟩ := mem_ends_inOrder_cons.mp ht
  obtain ⟨t₂, h₂, -⟩ := mem_ends_inOrder_cons.mp ht
  obtain ⟨v, hv, -⟩ := exists_of_mem_ends_blanks h₁
  obtain ⟨hcomma, -⟩ := takes_of_mem_ends_literal (w := [',']) h₂
  have hafter := hv.after_eq
  rw [h, hcomma.after_eq] at hafter
  simp at hafter

theorem leadsTurns_further (fs : List Further) :
    LeadsTurns furtherPattern [] (fs.map fun f ↦ (f.text, [(2, f.name)])) := by
  induction fs with
  | nil => exact .done fun s ↦ ends_furtherPattern_of_nil
  | cons f fs ih =>
    refine .turn (by simp [Further.text]) (leads_furtherPattern f ?_) ih
    rw [List.append_nil, turnsText, List.flatMap_map]
    exact isAsciiWord_head_more fs

namespace ImportLine

variable (l : ImportLine)

theorem leads_opening :
    (inOrder [.literal "import", .blanks1, .group 1 name]).Leads l.opening
      (l.more.flatMap Further.text) [(1, l.first)] := by
  have hname : (inOrder [.group 1 name]).Leads l.first (l.more.flatMap Further.text)
      [(1, l.first)] := (leads_name l.isName (isAsciiWord_head_more l.more)).group 1
  have hgap := (leads_blanks1 l.isGap (l.isName.isBlank_head _)).inOrder_cons hname
  exact (leads_literal "import".toList _).inOrder_cons hgap

def groups : List (Nat × Text) := (l.more.map fun f ↦ (2, f.name)).reverse ++ [(1, l.first)]

theorem exists_head?_ends :
    ∃ e, (importLine.ends (.start l.statement)).head? = some e ∧ e.groupTexts = l.groups := by
  obtain ⟨t, ht, htakes, hgroups⟩ := l.leads_opening (.start l.statement) rfl
  have hafter : t.after = turnsText (l.more.map fun f ↦ (f.text, [(2, f.name)])) ++ [] := by
    rw [List.append_nil, turnsText, List.flatMap_map]
    exact List.append_cancel_left htakes.after_eq.symm
  have hsize : t.after.length ≤ t.size := by
    have hlength : l.statement.length = _ := congrArg List.length htakes.after_eq
    rw [List.length_append] at hlength
    rw [htakes.size_eq]
    change t.after.length ≤ l.statement.length
    omega
  obtain ⟨e, he, -, hgroups'⟩ := (leadsTurns_further l.more).exists_head? hsize hafter
  refine ⟨e, ?_, ?_⟩
  · have hpattern : importLine = inOrder ([.literal "import", .blanks1, .group 1 name] ++
        [.repeated .longest 0 none furtherPattern]) := rfl
    obtain ⟨ts, hts⟩ := List.head?_eq_some_iff.mp ht
    rw [hpattern, ends_inOrder_append, hts, List.flatMap_cons, List.head?_append]
    exact congrArg (Option.or · _) he
  · rw [hgroups', hgroups, ← List.map_reverse, List.flatMap_map, ← List.map_eq_flatMap,
      List.map_reverse]
    rfl

theorem recorded_importLine (number : Nat) :
    recorded importLine number l.statement =
      ((l.groups.find? fun g ↦ g.1 == number).map (·.2)).toList := by
  obtain ⟨e, he, hgroups⟩ := l.exists_head?_ends
  rw [recorded, matchStart?, matchAt_false, he, ← hgroups, ← Cursor.group_eq]
  rfl

theorem recorded_fromLine (number : Nat) : recorded fromLine number l.statement = [] := by
  have hends : fromLine.ends (.start l.statement) = [] := by
    rw [List.eq_nil_iff_forall_not_mem]
    intro t ht
    obtain ⟨u, hu, -⟩ := mem_ends_inOrder_cons.mp ht
    obtain ⟨-, hsame⟩ := mem_ends_letters.mp hu
    cases hsame with
    | cons hf => exact absurd hf (by decide)
  rw [recorded, matchStart?, matchAt_false, hends]
  rfl

/-- Of a list of packages the first and the last are found. -/
theorem mem_inLine : package ∈ inLine l.statement ↔ package = l.first ∨ package = l.last := by
  have hfirst : recorded importLine 1 l.statement = [l.first] := by
    rw [recorded_importLine, groups, List.find?_append, List.find?_eq_none.mpr]
    · rfl
    · intro g hg
      obtain ⟨f, -, rfl⟩ := List.mem_map.mp (List.mem_reverse.mp hg)
      simp
  rw [inLine, hfirst, recorded_importLine, recorded_fromLine, groups, last]
  rcases List.eq_nil_or_concat l.more with hmore | ⟨fs, f, hmore⟩
  · simp [hmore]
  · simp [hmore]

theorem isName_last : IsName l.last := by
  rw [last]
  rcases List.eq_nil_or_concat l.more with hmore | ⟨fs, f, hmore⟩
  · simpa [hmore] using l.isName
  · simpa [hmore] using f.isName

theorem exists_statement_eq : ∃ x, l.statement = x ++ l.last := by
  rw [statement, last]
  rcases List.eq_nil_or_concat l.more with hmore | ⟨fs, f, hmore⟩
  · refine ⟨"import".toList ++ l.gap, ?_⟩
    rw [hmore, List.flatMap_nil, List.append_nil]
    exact (List.append_assoc _ _ _).symm
  · refine ⟨l.opening ++ (fs.flatMap Further.text ++ (f.before ++ ',' :: f.after)), ?_⟩
    simp [hmore, Further.text]

theorem strip_text : strip l.text = l.statement := by
  apply Text.strip_between l.isBlank_indent l.isBlank_trail
  · intro c hc
    cases hc
    decide
  · intro c hc
    obtain ⟨x, hx⟩ := l.exists_statement_eq
    rw [hx, List.getLast?_append_of_ne_nil _ l.isName_last.ne_nil] at hc
    exact isBlank_of_isAsciiWord (l.isName_last.isAsciiWord c (List.mem_of_mem_getLast? hc))

end ImportLine

/-! The packages of a script -/

theorem mem_ofCode :
    package ∈ ofCode code ↔
      package ∉ standard ∧ ∃ line ∈ lines code, package ∈ inLine (strip line) := by
  rw [ofCode, Text.mem_distinctSorted, List.mem_filter, List.mem_flatMap, and_comm]
  simp

theorem mem_ofCode_unlines (h : ∀ line ∈ ls, '\n' ∉ line) :
    package ∈ ofCode (unlines ls) ↔
      package ∉ standard ∧ ∃ line ∈ ls, package ∈ inLine (strip line) := by
  rw [mem_ofCode, Text.lines_unlines h]
  split
  · next hnil =>
    have hnone : inLine (strip []) = [] := by decide
    simp [hnil, hnone]
  · rfl

theorem mem_ofCode_of_line (l : ImportLine) {above below : List Text}
    (h : lines code = above ++ l.text :: below) :
    package ∈ ofCode code ↔ package ∉ standard ∧ (package = l.first ∨ package = l.last) ∨
      package ∈ ofCode (unlines (above ++ below)) := by
  have hothers : ∀ line ∈ above ++ below, '\n' ∉ line := by
    intro line hline
    have hmem : line ∈ lines code := by
      rw [h]
      simp only [List.mem_append, List.mem_cons] at hline ⊢
      tauto
    exact Text.notMem_of_mem_lines hmem
  rw [mem_ofCode_unlines hothers, mem_ofCode, h, ← l.mem_inLine, ← l.strip_text, ← and_or_left]
  simp only [List.mem_append, List.mem_cons, or_and_right, exists_or, exists_eq_left]
  rw [or_left_comm]

/-- On a line that imports a list of packages, whatever the other lines of the script are, the first
package of the list and the last are found unless they come with the language; any other is found by
the other lines only. So all packages of the list that do not come with the language are found in
every script just if each of them is the first or the last of the list. -/
theorem mem_ofCode_iff_first_or_last (l : ImportLine) (hnewline : '\n' ∉ l.text) :
    (∀ code above below, lines code = above ++ l.text :: below → ∀ package,
      package ∈ ofCode code ↔ package ∉ standard ∧ (package = l.first ∨ package = l.last) ∨
        package ∈ ofCode (unlines (above ++ below))) ∧
    ((∀ code, l.text ∈ lines code → ∀ package ∈ l.names, package ∉ standard →
        package ∈ ofCode code) ↔
      ∀ package ∈ l.names, package ∉ standard → package = l.first ∨ package = l.last) := by
  refine ⟨fun code above below h package ↦ mem_ofCode_of_line l h, ?_, ?_⟩
  · intro hall package hpackage hstandard
    -- a script with no other line
    have halone : lines l.text = [] ++ l.text :: [] := Text.lines_of_notMem hnewline
    have hfound := hall l.text (by simp [halone]) package hpackage hstandard
    rw [mem_ofCode_of_line l halone] at hfound
    refine (hfound.resolve_right ?_).2
    rw [List.append_nil, mem_ofCode_unlines (by simp)]
    simp
  · intro hends code hline package hpackage hstandard
    obtain ⟨above, below, hlines⟩ := List.append_of_mem hline
    rw [mem_ofCode_of_line l hlines]
    exact .inl ⟨hstandard, hends package hpackage hstandard⟩

/-- Three packages in a list, and the one between the others again on a line of its own. -/
theorem mem_ofCode_iff_first_or_last_three :
    let l : ImportLine := ⟨[], [' '], "numpy", [.spaced "pandas" (by decide),
      .spaced "scipy" (by decide)], [' '], by simp, by decide, by decide,
      List.forall_mem_singleton.mpr rfl⟩
    let code : Text := "import numpy, pandas, scipy \nimport pandas"
    let other : Text := "import pandas"
    '\n' ∉ l.text ∧ lines code = [] ++ l.text :: [other] ∧ ("numpy" : Text) ∈ ofCode code ∧
      (("pandas" : Text) ∈ ofCode code ↔ ("pandas" : Text) ∈ ofCode (unlines [other])) := by
  intro l code other
  have hline : '\n' ∉ l.text := by decide
  have hlines : lines code = [] ++ l.text :: [other] := by decide
  have hfound := (mem_ofCode_iff_first_or_last l hline).1 code [] [other] hlines
  refine ⟨hline, hlines, (hfound "numpy").mpr (.inl ⟨by decide +kernel, .inl rfl⟩), ?_⟩
  have hinner : ¬ (("pandas" : Text) = l.first ∨ ("pandas" : Text) = l.last) := by decide
  rw [hfound "pandas", List.nil_append]
  tauto

/-- Of three packages in a list the one between the others is not found. -/
theorem exists_inner_package_missing :
    ∃ (l : ImportLine) (code package : Text), l.text ∈ lines code ∧ package ∈ l.names ∧
      package ∉ standard ∧ package ∉ ofCode code := by
  let l : ImportLine := ⟨[], [' '], "numpy", [.spaced "pandas" (by decide),
    .spaced "scipy" (by decide)], [], by simp, by decide, by decide, by simp⟩
  have halone : lines l.text = [] ++ l.text :: [] := by decide
  refine ⟨l, l.text, "pandas", by simp [halone], by decide, by decide +kernel, ?_⟩
  rw [mem_ofCode_of_line l halone, List.append_nil, mem_ofCode_unlines (by simp)]
  decide

end SasMigration.Packages
