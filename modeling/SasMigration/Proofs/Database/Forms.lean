import SasMigration.Database.Usage
import SasMigration.Proofs.Pattern.Reading
import SasMigration.Proofs.Pattern.Search
import SasMigration.Proofs.Text.Letter

namespace SasMigration

namespace SqlForm

open ReadPattern

variable {form : SqlForm} {name : Text}

theorem readable_opening (h : form ∈ all) : Readable form.flags 0 form.opening := by
  have hword {flags : PatternFlags} {depth : Nat} {w : Text}
      (hw : (w.all fun c ↦ !special.contains c) = true) :
      Readable flags depth (w ++ ['\\', 's', '+']) := by
    refine (readable_letters fun c hc ↦ ?_).append readable_blanks (by decide) (by decide)
    simpa using List.all_eq_true.mp hw c hc
  have hselect {flags : PatternFlags} {depth : Nat} :
      Readable flags depth ("select\\s+.*?\\s+" : Text) :=
    ((hword (w := "select") (by decide)).append readable_anything (by decide) (by decide)).append
      readable_blanks (by decide) (by decide)
  simp only [all, List.mem_cons, List.not_mem_nil, or_false] at h
  rcases h with rfl | rfl | rfl | rfl | rfl | rfl | rfl
  · exact hselect.append (hword (w := "from") (by decide)) (by decide) (by decide)
  · exact hword (w := "join") (by decide)
  · exact hword (w := "update") (by decide)
  · exact (hword (w := "insert") (by decide)).append
      ((hword (w := "into") (by decide)).optional (by decide) (by decide)) (by decide) (by decide)
  · exact (hword (w := "delete") (by decide)).append (hword (w := "from") (by decide)) (by decide)
      (by decide)
  · exact (hword (w := "create") (by decide)).append (hword (w := "view") (by decide)) (by decide)
      (by decide)
  · exact hselect.append (hword (w := "into") (by decide)) (by decide) (by decide)

theorem flags_of_mem_all (h : form ∈ all) : form.flags.letterCase = .folded ∧
    form.flags.verbose = false ∧ form.flags.ascii = false := by
  revert form
  decide

def nameItem (letterCase : LetterCase) (name : Text) : PatternItem :=
  ReadPattern.sequence ((name ++ ['.']).map fun c ↦ single (.letter c letterCase)).reverse

theorem reads_name {flags : PatternFlags} {depth : Nat} (hdepth : depth + 2 ≤ deepest)
    (hname : ∀ c ∈ name, c ∉ special) :
    Reads Whole flags depth (['(', '?', ':'] ++ (name ++ ['\\', '.']) ++ [')'])
      [nameItem flags.letterCase name] := by
  have hpoint : escape flags '.' = pure (single (.letter '.' flags.letterCase)) := rfl
  have hletters := reads_letters flags (depth + 2) hname
  have hwhole : Whole (name ++ ['\\', '.']) := fun he ↦ by
    simpa using congrArg List.length he
  have hgroup := (hletters.fits.append (reads_escape hpoint).fits (by decide) (by decide)).plain
    hdepth hwhole
  rw [nameItem, List.map_append, List.reverse_append]
  exact hgroup

theorem pattern_nameItem : (nameItem .folded name).pattern = .keyword (name ++ ['.']) := by
  rw [nameItem, ReadPattern.sequence, List.reverse_reverse, List.map_map]
  rfl

theorem fault_nameItem (letterCase : LetterCase) : (nameItem letterCase name).fault = none := by
  refine fault_sequence fun item hitem ↦ ?_
  obtain ⟨c, -, rfl⟩ := List.mem_map.mp (List.mem_reverse.mp hitem)
  rfl

def tableSet : CharSet := .ofItems false .folded [.kind .word false false]

/-- A form with a name is read as its opening, which is the same for all names, the name with a
point, and a group for the table. -/
theorem exists_opening (h : form ∈ all) : ∃ opening, ∀ name, (∀ c ∈ name, c ∉ special) →
    Pattern.read form.flags (form.written name) = .ok ⟨.inOrder (opening ++
      [.keyword (name ++ ['.']), .group 1 (.span .longest 1 none tableSet)]), 1⟩ := by
  obtain ⟨new, hopening, hnew⟩ := readable_opening h
  obtain ⟨hfolded, hverbose, hascii⟩ := flags_of_mem_all h
  have hword : escape form.flags 'w' = pure (single
      (.ofItems false form.flags.letterCase [.kind .word form.flags.ascii false])) := rfl
  rw [hfolded, hascii, ← tableSet] at hword
  have hplus : ('+', 1, none) ∈ quantifiers := by decide
  have htable : Reads Fits form.flags 2 ['\\', 'w', '+'] _ := (reads_escape hword).longest rfl hplus
  refine ⟨new.reverse.map (·.pattern), fun name hname ↦ ?_⟩
  have hparen : Fits (['(', '?', ':'] ++ (name ++ ['\\', '.']) ++ [')']) :=
    ⟨by simp [Whole], by simp, by simp⟩
  have hitems := hopening.append (reads_name (by decide) hname).fits hparen (by simp)
  have hread := read_capture hitems htable hverbose (by decide)
    (List.forall_mem_cons.mpr ⟨fault_nameItem _, hnew⟩) (List.forall_mem_singleton.mpr rfl)
  have hwritten : form.written name = form.opening ++
      (['(', '?', ':'] ++ (name ++ ['\\', '.']) ++ [')']) ++
        '(' :: (['\\', 'w', '+'] ++ [')']) := by
    change form.opening ++ ['(', '?', ':'] ++ name ++
      ['\\', '.', ')', '(', '\\', 'w', '+', ')'] = _
    simp only [List.append_assoc, List.cons_append, List.nil_append]
  rw [hwritten, hread, List.singleton_append, List.reverse_cons, List.map_append, List.append_assoc,
    hfolded, List.map_singleton, pattern_nameItem]
  rfl

theorem exists_read_written (h : form ∈ all) (hname : ∀ c ∈ name, Text.isWord c) :
    ∃ opening, Pattern.read form.flags (form.written name) = .ok ⟨.inOrder (opening ++
      [.keyword (name ++ ['.']), .group 1 (.span .longest 1 none tableSet)]), 1⟩ := by
  obtain ⟨opening, hread⟩ := exists_opening h
  exact ⟨opening, hread name fun c hc ↦ Text.notMem_special (hname c hc)⟩

theorem exists_takes_name {s t : Cursor} (h : t ∈ (Pattern.keyword (name ++ ['.'])).ends s) :
    ∃ name', s.Takes (name' ++ ['.']) t ∧
      List.Forall₂ (fun a b ↦ Text.sameLetter a b) name name' := by
  rw [Pattern.keyword, List.map_append] at h
  obtain ⟨u, hu, ht⟩ := Pattern.mem_ends_inOrder_append.mp h
  obtain ⟨c, rest, hc, hpoint, rfl⟩ := Pattern.mem_ends_one.mp ht
  obtain rfl := Text.eq_point_of_sameLetter hpoint
  obtain ⟨name', hname'⟩ := Pattern.takes_of_mem_ends hu
  obtain ⟨rfl, hletters⟩ := Pattern.mem_ends_letters.mp hu
  have htake := hname'.take_eq
  rw [Cursor.advance, Nat.add_sub_cancel_left] at htake
  rw [htake] at hletters
  exact ⟨name', hname'.trans (.step hc), hletters⟩

theorem exists_name_before_table {p : NumberedPattern} {sql : Text} {m : Match} (h : form ∈ all)
    (hname : ∀ c ∈ name, Text.isWord c) (hp : Pattern.read form.flags (form.written name) = .ok p)
    (hm : m ∈ p.pattern.findAll sql) :
    ∃ table, m.group 1 = some table ∧ ∃ before name' after,
      sql = before ++ name' ++ '.' :: table ++ after ∧
        List.Forall₂ (fun a b ↦ Text.sameLetter a b) name name' := by
  obtain ⟨opening, hread⟩ := exists_read_written h hname
  obtain rfl := Except.ok.inj (hp.symm.trans hread)
  -- the way to the end of the match passes the end of the opening, `s`, and that of the name, `t`
  obtain ⟨u, v, e, rfl, -, hgroups, he, -⟩ := Pattern.isOf_of_mem_findAll hm
  obtain ⟨s, hs, he⟩ := Pattern.mem_ends_inOrder_append.mp he
  obtain ⟨t, ht, he⟩ := Pattern.mem_ends_inOrder_cons.mp he
  obtain ⟨e', he', rfl⟩ := List.mem_map.mp he
  obtain ⟨w, hw⟩ := Pattern.takes_of_mem_ends hs
  obtain ⟨name', hname', hletters⟩ := exists_takes_name ht
  obtain ⟨table, htable⟩ := Pattern.takes_of_mem_ends he'
  refine ⟨table, ?_, u ++ w, name', e'.after, ?_, hletters⟩
  · rw [Match.group, hgroups, Cursor.record, List.find?_cons_of_pos rfl, Option.map_some,
      Capture.text, htable.take_eq]
  · have hafter : m.text ++ v = _ := ((hw.trans hname').trans htable).after_eq
    rw [hafter]
    simp only [List.append_assoc, List.cons_append, List.nil_append]

end SqlForm

end SasMigration
