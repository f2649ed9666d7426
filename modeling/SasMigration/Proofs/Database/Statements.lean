import SasMigration.Proofs.Database.Facts
import SasMigration.Proofs.Pattern.Locality
import SasMigration.Proofs.Text.Lines

namespace SasMigration

namespace SqlForm

open Pattern

variable {form : SqlForm} {name sql a b table : Text}

/-- What a form begins with takes the same text in any surroundings, and no semicolon unless it has
free text. -/
theorem exists_plain_opening (h : form ∈ all) : ∃ opening : List Pattern,
    (∀ p ∈ opening, p.isPlain) ∧ (form.flags.dotAll = false → ∀ p ∈ opening, p.avoids ';') ∧
    ∀ name, (∀ c ∈ name, Text.isWord c) → Pattern.read form.flags (form.written name) =
      .ok ⟨inOrder (opening ++
        [keyword (name ++ ['.']), .group 1 (.span .longest 1 none tableSet)]), 1⟩ := by
  -- the opening does not depend on the name, so it can be read off the form without one
  have hall : (all.all fun form ↦ (Pattern.read form.flags (form.written [])).toOption.any
      fun p ↦ p.pattern.isPlain && (form.flags.dotAll || p.pattern.avoids ';')) = true := by
    decide +kernel
  obtain ⟨opening, hread⟩ := exists_opening h
  have hform := List.all_eq_true.mp hall form h
  rw [hread [] (by simp)] at hform
  simp only [Except.toOption, Option.any_some, isPlain_inOrder, avoids_inOrder, Bool.and_eq_true,
    Bool.or_eq_true, List.all_append, List.all_eq_true] at hform
  refine ⟨opening, hform.1.1, fun hdot ↦ ?_, fun name hname ↦ ?_⟩
  · exact (hform.2.resolve_left (by simp [hdot])).1
  · exact hread name fun c hc ↦ Text.notMem_special (hname c hc)

theorem isPlain_keyword (t : Text) : (keyword t).isPlain := by
  rw [keyword, isPlain_inOrder]
  simp [isPlain]

theorem avoids_keyword (hname : ∀ c ∈ name, Text.isWord c) :
    (keyword (name ++ ['.'])).avoids ';' := by
  rw [keyword, avoids_inOrder, List.all_map, List.all_eq_true]
  intro a ha
  have hne : a ≠ ';' := by
    rintro rfl
    rcases List.mem_append.mp ha with ha | ha
    · exact absurd (hname ';' ha) (by decide)
    · exact absurd ha (by decide)
  have hnot : Text.sameLetter a ';' = false := by
    rw [Bool.eq_false_iff]
    exact fun hsame ↦ hne (Text.eq_of_sameLetter_sign (by decide) rfl hsame)
  simp [avoids, CharSet.holds, LetterCase.same, hnot]

theorem exists_read_plain (h : form ∈ all) (hname : ∀ c ∈ name, Text.isWord c) :
    ∃ p : Pattern, Pattern.read form.flags (form.written name) = .ok ⟨p, 1⟩ ∧ p.isPlain ∧
      p.Consumes ∧ (form.flags.dotAll = false → p.avoids ';') := by
  obtain ⟨opening, hplain, havoids, hread⟩ := exists_plain_opening h
  have htable : tableSet.holds ';' = false := by decide
  refine ⟨_, hread name hname, ?_, consumes_keyword (by simp), fun hdot ↦ ?_⟩
  · rw [isPlain_inOrder, List.all_eq_true]
    simp only [List.mem_append, List.mem_cons, List.not_mem_nil, or_false]
    rintro p (hp | rfl | rfl)
    · exact hplain p hp
    · exact isPlain_keyword _
    · rfl
  · rw [avoids_inOrder, List.all_eq_true]
    simp only [List.mem_append, List.mem_cons, List.not_mem_nil, or_false]
    rintro p (hp | rfl | rfl)
    · exact havoids hdot p hp
    · exact avoids_keyword hname
    · simp [avoids, htable]

/-- No match of a form in a text goes over a place. -/
def IsFree (form : SqlForm) (name sql : Text) (place : Nat) : Prop :=
  ∀ p, Pattern.read form.flags (form.written name) = .ok p →
    ∀ m ∈ p.pattern.findAll sql, ¬ (m.start ≤ place ∧ place < m.stop)

/-- No match of a form in a text goes over the end of a statement. -/
def KeepsToStatements (form : SqlForm) (name sql : Text) : Prop :=
  ∀ p, Pattern.read form.flags (form.written name) = .ok p →
    ∀ m ∈ p.pattern.findAll sql, ';' ∉ m.text

theorem takes_iff {p : NumberedPattern} (h : Pattern.read form.flags (form.written name) = .ok p) :
    form.Takes name sql table ↔ table ∈ p.pattern.captures 1 sql := by
  constructor
  · rintro ⟨p', hp', htable⟩
    obtain rfl := Except.ok.inj (hp'.symm.trans h)
    exact htable
  · intro htable
    exact ⟨p, h, htable⟩

theorem takes_iff_of_isFree {c : Char} (h : form ∈ all) (hname : ∀ c ∈ name, Text.isWord c)
    (hfree : form.IsFree name (a ++ c :: b) a.length) :
    form.Takes name (a ++ c :: b) table ↔ form.Takes name a table ∨ form.Takes name b table := by
  obtain ⟨p, hread, hplain, hconsumes, -⟩ := exists_read_plain h hname
  rw [takes_iff hread, takes_iff hread, takes_iff hread,
    hconsumes.captures_cut hplain 1 (hfree _ hread), List.mem_append]

theorem KeepsToStatements.isFree (h : form.KeepsToStatements name (a ++ ';' :: b)) :
    form.IsFree name (a ++ ';' :: b) a.length := by
  rintro p hp m hm ⟨hstart, hstop⟩
  exact h p hp m hm (mem_text_of_around hm hstart hstop)

theorem KeepsToStatements.tail (h : form ∈ all) (hname : ∀ c ∈ name, Text.isWord c)
    (hkeeps : form.KeepsToStatements name (a ++ ';' :: b)) : form.KeepsToStatements name b := by
  obtain ⟨p, hread, hplain, hconsumes, -⟩ := exists_read_plain h hname
  obtain ⟨first, last, hfind, -, hlast⟩ :=
    hconsumes.exists_findAll_cut hplain (hkeeps.isFree _ hread)
  rintro p' hp' m hm
  obtain rfl := Except.ok.inj (hp'.symm.trans hread)
  have htexts := Match.map_eq_of_same (fun m m' hsame ↦ hsame.text_eq) hlast
  obtain ⟨m', hm', htext⟩ := List.mem_map.mp (htexts ▸ List.mem_map_of_mem hm)
  rw [← htext]
  exact hkeeps _ hread m' (by rw [hfind]; exact List.mem_append_right first hm')

theorem KeepsToStatements.takes_iff (h : form ∈ all) (hname : ∀ c ∈ name, Text.isWord c)
    (hkeeps : form.KeepsToStatements name sql) :
    form.Takes name sql table ↔ ∃ t ∈ Text.splitOn [';'] sql, form.Takes name t table := by
  induction hn : sql.length using Nat.strongRecOn generalizing sql with
  | _ n ih =>
    by_cases hmem : ';' ∈ sql
    · obtain ⟨a, b, rfl, ha⟩ := List.eq_append_cons_of_mem hmem
      have hb := ih b.length (by rw [← hn, List.length_append, List.length_cons]; omega)
        (hkeeps.tail h hname) rfl
      rw [takes_iff_of_isFree h hname hkeeps.isFree, Text.splitOn_append ha,
        List.exists_mem_cons_iff, hb]
    · rw [Text.splitOn_of_notMem hmem]
      simp

theorem keepsToStatements_of_flags (h : form ∈ all) (hname : ∀ c ∈ name, Text.isWord c)
    (hflags : form.flags.dotAll = false) (sql : Text) : form.KeepsToStatements name sql := by
  obtain ⟨p, hread, -, -, havoids⟩ := exists_read_plain h hname
  intro p' hp' m hm
  obtain rfl := Except.ok.inj (hp'.symm.trans hread)
  exact notMem_text_of_avoids (havoids hflags) hm

/-- The form of a selection without free text. -/
def join : SqlForm := ⟨.select, "join\\s+", .anyCase⟩

theorem dotAll_of_operation (h : form ∈ all) (hselect : form.operation ≠ .select)
    (hinto : form.operation ≠ .selectInto) : form.flags.dotAll = false := by
  revert form
  decide

instance : Decidable (form.KeepsToStatements name sql) :=
  match h : Pattern.read form.flags (form.written name) with
  | .ok p => decidable_of_iff (∀ m ∈ p.pattern.findAll sql, ';' ∉ m.text) (by
      simp only [KeepsToStatements, h, Except.ok.injEq, forall_eq'])
  | .error _ => isTrue (by simp [KeepsToStatements, h])

instance : Decidable (form.Takes name sql table) :=
  match h : Pattern.read form.flags (form.written name) with
  | .ok p => decidable_of_iff (table ∈ p.pattern.captures 1 sql) (takes_iff h).symm
  | .error _ => isFalse (by simp [Takes, h])

end SqlForm

namespace Operation

open SqlForm

instance (op : Operation) (name sql table : Text) : Decidable (op.Mentioned name sql table) :=
  inferInstanceAs (Decidable (∃ form ∈ all, form.operation = op ∧ form.Takes name sql table))

theorem mentioned_iff {op : Operation} {name sql table : Text} (hname : ∀ c ∈ name, Text.isWord c)
    (h : ∀ form ∈ all, form.operation = op → form.KeepsToStatements name sql) :
    op.Mentioned name sql table ↔ ∃ t ∈ Text.splitOn [';'] sql, op.Mentioned name t table := by
  constructor
  · rintro ⟨form, hform, hop, htakes⟩
    obtain ⟨t, ht, htable⟩ := ((h form hform hop).takes_iff hform hname).mp htakes
    exact ⟨t, ht, form, hform, hop, htable⟩
  · rintro ⟨t, ht, form, hform, hop, htakes⟩
    exact ⟨form, hform, hop, ((h form hform hop).takes_iff hform hname).mpr ⟨t, ht, htakes⟩⟩

/-- Searching an SQL block, or any of its statements, for a name that is a word always gives a
result. Operations other than selections are found in the block for exactly the tables for which
they are found in its statements, each alone; so is all that a form takes which nowhere goes over
the end of a statement, as the forms without free text never do, and everything, if the two forms
with free text do not. And a block can be cut at each semicolon that no match of a form goes over. -/
theorem mentioned_iff_statements (name sql : Text) (hname : ∀ c ∈ name, Text.isWord c) :
    let statements := Text.splitOn [';'] sql
    (∀ t ∈ sql :: statements, ∃ found, Mention.ofName name t = .ok found ∧
      ∀ table op, ⟨table, op⟩ ∈ found ↔ ∃ w, table = some w ∧ Mentioned op name t w) ∧
    (∀ op table, op ≠ .select → op ≠ .selectInto →
      (Mentioned op name sql table ↔ ∃ t ∈ statements, Mentioned op name t table)) ∧
    (SqlForm.join ∈ SqlForm.all ∧ SqlForm.join.flags.dotAll = false ∧
      ∀ form ∈ SqlForm.all, form.flags.dotAll = false → form.KeepsToStatements name sql) ∧
    (∀ form ∈ SqlForm.all, form.KeepsToStatements name sql → ∀ table,
      (form.Takes name sql table ↔ ∃ t ∈ statements, form.Takes name t table)) ∧
    ((∀ form ∈ SqlForm.all, form.flags.dotAll = true → form.KeepsToStatements name sql) →
      ∀ op table, Mentioned op name sql table ↔ ∃ t ∈ statements, Mentioned op name t table) ∧
    ∀ form ∈ SqlForm.all, ∀ a b, sql = a ++ ';' :: b → form.IsFree name sql a.length →
      ∀ table, (form.Takes name sql table ↔ form.Takes name a table ∨ form.Takes name b table) := by
  intro statements
  have hjoin : SqlForm.join ∈ SqlForm.all := List.mem_cons_of_mem _ List.mem_cons_self
  refine ⟨fun t _ ↦ ?_, fun op table hselect hinto ↦ ?_, ⟨hjoin, rfl, fun form hform hflags ↦ ?_⟩,
    fun form hform hkeeps table ↦ ?_, fun hkeeps op table ↦ ?_, ?_⟩
  · exact Mention.exists_ofForms hname t fun _ hform ↦ hform
  · refine mentioned_iff hname fun form hform hop ↦ ?_
    have hflags := dotAll_of_operation hform (hop ▸ hselect) (hop ▸ hinto)
    exact keepsToStatements_of_flags hform hname hflags sql
  · exact keepsToStatements_of_flags hform hname hflags sql
  · exact hkeeps.takes_iff hform hname
  · refine mentioned_iff hname fun form hform _ ↦ ?_
    cases hflags : form.flags.dotAll with
    | false => exact keepsToStatements_of_flags hform hname hflags sql
    | true => exact hkeeps form hform hflags
  · rintro form hform a b rfl hfree table
    exact takes_iff_of_isFree hform hname hfree

/-- Two selections, the second of which goes over lines, and an update. -/
theorem mentioned_iff_statements_three :
    let sql : Text := "select 1 from n.a;select *\nfrom N.b;update n.c"
    (∀ c ∈ ("n" : Text), Text.isWord c) ∧
      (∀ form ∈ SqlForm.all, form.flags.dotAll = true → form.KeepsToStatements "n" sql) ∧
      ∀ op table, Mentioned op "n" sql table ↔
        ∃ t ∈ Text.splitOn [';'] sql, Mentioned op "n" t table := by
  intro sql
  have hname : ∀ c ∈ ("n" : Text), Text.isWord c := List.all_eq_true.mp rfl
  have hkeeps : ∀ form ∈ SqlForm.all, form.flags.dotAll = true →
      form.KeepsToStatements "n" sql := by decide +kernel
  exact ⟨hname, hkeeps, (mentioned_iff_statements "n" sql hname).2.2.2.2.1 hkeeps⟩

/-- A table that is only deleted from counts as selected because of the statement before. -/
theorem exists_selected_by_other_statement :
    ∃ name sql table : Text, (∀ c ∈ name, Text.isWord c) ∧ Mentioned .select name sql table ∧
      ∀ t ∈ Text.splitOn [';'] sql, ¬ Mentioned .select name t table := by
  refine ⟨"n", "select 1 from a;delete from n.t;", "t", List.all_eq_true.mp rfl, ?_, ?_⟩
  · decide +kernel
  · decide +kernel

end Operation

end SasMigration
