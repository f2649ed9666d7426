import SasMigration.Proofs.Database.Forms
import SasMigration.Proofs.Database.Session

namespace SasMigration

/-- A form with the name of a library takes a table in an SQL block. -/
def SqlForm.Takes (form : SqlForm) (name sql table : Text) : Prop :=
  ∃ p, Pattern.read form.flags (form.written name) = .ok p ∧ table ∈ p.pattern.captures 1 sql

/-- An SQL block mentions a table of a library in a form of an operation. -/
def Operation.Mentioned (op : Operation) (name sql table : Text) : Prop :=
  ∃ form ∈ SqlForm.all, form.operation = op ∧ form.Takes name sql table

variable {name sql : Text}

theorem SqlForm.exists_mentions {form : SqlForm} (h : form ∈ all)
    (hname : ∀ c ∈ name, Text.isWord c) (sql : Text) :
    ∃ found, form.mentions name sql = .ok found ∧ ∀ table op, ⟨table, op⟩ ∈ found ↔
      ∃ t, table = some t ∧ form.operation = op ∧ form.Takes name sql t := by
  obtain ⟨opening, hread⟩ := exists_read_written h hname
  rw [mentions, hread]
  refine ⟨_, rfl, fun table op ↦ ?_⟩
  simp only [List.mem_map, Mention.mk.injEq]
  constructor
  · rintro ⟨m, hm, rfl, rfl⟩
    obtain ⟨t, ht, -⟩ := exists_name_before_table h hname hread hm
    refine ⟨t, ht, rfl, _, hread, List.mem_map.mpr ⟨m, hm, ?_⟩⟩
    rw [ht, Option.getD_some]
  · rintro ⟨t, rfl, rfl, p, hp, ht⟩
    obtain rfl := Except.ok.inj (hp.symm.trans hread)
    obtain ⟨m, hm, rfl⟩ := List.mem_map.mp ht
    obtain ⟨t, ht, -⟩ := exists_name_before_table h hname hread hm
    exact ⟨m, hm, by rw [ht, Option.getD_some], rfl⟩

theorem Mention.exists_ofForms (hname : ∀ c ∈ name, Text.isWord c) (sql : Text)
    {forms : List SqlForm} (h : ∀ form ∈ forms, form ∈ SqlForm.all) :
    ∃ found, ofForms name sql forms = .ok found ∧ ∀ table op, ⟨table, op⟩ ∈ found ↔
      ∃ t, table = some t ∧ ∃ form ∈ forms, form.operation = op ∧ form.Takes name sql t := by
  induction forms with
  | nil => exact ⟨[], rfl, by simp⟩
  | cons form forms ih =>
    obtain ⟨hform, hforms⟩ := List.forall_mem_cons.mp h
    obtain ⟨found, hfound, hmem⟩ := SqlForm.exists_mentions hform hname sql
    obtain ⟨more, hmore, hmem'⟩ := ih hforms
    refine ⟨found ++ more, ?_, fun table op ↦ ?_⟩
    · rw [ofForms, hfound, hmore]
      rfl
    · simp only [List.mem_append, hmem, hmem', List.exists_mem_cons_iff]
      grind

namespace Library

variable {l : Library} {ls : List Library} {blocks : List Text}

/-- A library after a scan of each block, whatever faults the scans end with. -/
def scanEach (blocks : List Text) (l : Library) : Library :=
  blocks.foldl (fun l sql ↦ (l.scan sql).1) l

def reported (blocks : List Text) (l : Library) : Library := (l.scanEach blocks).used

theorem scanAll_eq_map (h : (scanAll sql ls).2 = none) :
    (scanAll sql ls).1 = ls.map fun l ↦ (l.scan sql).1 := by
  induction ls with
  | nil => rfl
  | cons l ls ih =>
    rw [scanAll] at h ⊢
    split at h
    · cases h
    · next l' he =>
      rw [List.map_cons, he, ← ih h]

theorem scanBlocks_eq_map (h : (scanBlocks ls blocks).2 = none) :
    (scanBlocks ls blocks).1 = ls.map (scanEach blocks) := by
  induction blocks generalizing ls with
  | nil => exact (List.map_id ls).symm
  | cons sql blocks ih =>
    rw [scanBlocks] at h ⊢
    split at h
    · cases h
    · next ls' he =>
      have hls : ls' = _ := he ▸ scanAll_eq_map (congrArg Prod.snd he)
      rw [ih h, hls, List.map_map]
      rfl

/-- A library of a kind without a syntax of its own, under a name that is a word. -/
structure IsGeneric (l : Library) : Prop where
  kind_ne : l.kind ≠ teradata
  isWord_database : ∀ c ∈ l.database, Text.isWord c

theorem records_genericStatement :
    genericStatement.Records fun number w ↦ number = 1 → ∀ c ∈ w, Text.isWord c := by
  rw [genericStatement, Pattern.records_inOrder]
  simp only [List.forall_mem_cons]
  exact ⟨Pattern.records_letters _ _, trivial,
    ⟨trivial, fun s t v h hv _ ↦ Pattern.isWord_of_mem_word1 h hv⟩, trivial,
    ⟨trivial, fun s t v _ _ h ↦ nomatch h⟩, ⟨trivial, fun s t v _ _ h ↦ nomatch h⟩,
    Pattern.records_letters _ _, fun p hp ↦ nomatch hp⟩

theorem isGeneric_of_mem_generic {code : Text} (h : l ∈ generic code) : l.IsGeneric := by
  obtain ⟨h, hkind⟩ := List.mem_filter.mp h
  obtain ⟨m, hm, rfl⟩ := List.mem_map.mp h
  constructor
  · intro he
    rw [he] at hkind
    exact absurd hkind (by decide)
  · intro c hc
    cases hg : m.group 1 with
    | none =>
      rw [ofGeneric, hg] at hc
      cases hc
    | some w =>
      rw [ofGeneric, hg] at hc
      exact Pattern.records_of_mem_findAll records_genericStatement hm hg rfl c hc

theorem IsGeneric.exists_scan (h : l.IsGeneric) (sql : Text) :
    ∃ tables, l.scan sql = ({ l with tables }, none) ∧ ∀ table op, TableUse.Has tables table op ↔
      TableUse.Has l.tables table op ∨ ∃ t, table = some t ∧ op.Mentioned l.database sql t := by
  obtain ⟨found, hfound, hmem⟩ := Mention.exists_ofForms h.isWord_database sql fun _ hform ↦ hform
  refine ⟨TableUse.mergeAll l.tables (TableUse.ofMentions found), ?_, fun table op ↦ ?_⟩
  · rw [scan, if_neg h.kind_ne]
    dsimp only
    rw [Mention.ofName, hfound]
    rfl
  · rw [TableUse.has_mergeAll, TableUse.has_ofMentions, hmem]
    rfl

theorem IsGeneric.exists_scanEach (h : l.IsGeneric) (blocks : List Text) :
    ∃ tables, l.scanEach blocks = { l with tables } ∧ ∀ table op, TableUse.Has tables table op ↔
      TableUse.Has l.tables table op ∨
        ∃ t, table = some t ∧ ∃ sql ∈ blocks, op.Mentioned l.database sql t := by
  induction blocks generalizing l with
  | nil => exact ⟨l.tables, rfl, by simp⟩
  | cons sql blocks ih =>
    obtain ⟨tables, hscan, hhas⟩ := h.exists_scan sql
    -- the next block is scanned for the library with the tables of this one
    have hl : ({ l with tables } : Library).IsGeneric := ⟨h.kind_ne, h.isWord_database⟩
    obtain ⟨tables', hrest, hhas'⟩ := ih hl
    refine ⟨tables', ?_, fun table op ↦ ?_⟩
    · rw [scanEach, List.foldl_cons, hscan]
      exact hrest
    · simp only [hhas', hhas, List.exists_mem_cons_iff]
      grind

theorem has_used {table : Option Text} {op : Operation} :
    TableUse.Has l.used.tables table op ↔ TableUse.Has l.tables table op := by
  simp only [TableUse.Has, used, List.mem_filter]
  constructor
  · rintro ⟨t, ⟨ht, -⟩, h⟩
    exact ⟨t, ht, h⟩
  · rintro ⟨t, ht, h, hop⟩
    refine ⟨t, ⟨ht, ?_⟩, h, hop⟩
    simpa using List.ne_nil_of_mem hop

theorem used_tables_ne_nil :
    l.used.tables ≠ [] ↔ ∃ table op, TableUse.Has l.used.tables table op := by
  constructor
  · intro h
    obtain ⟨t, ht⟩ := List.exists_mem_of_ne_nil _ h
    have hne : t.operations ≠ [] := by simpa using (List.mem_filter.mp ht).2
    obtain ⟨op, hop⟩ := List.exists_mem_of_ne_nil _ hne
    exact ⟨t.table, op, t, ht, rfl, hop⟩
  · rintro ⟨table, op, t, ht, -⟩
    exact List.ne_nil_of_mem ht

theorem tables_of_mem_generic {code : Text} (h : l ∈ generic code) : l.tables = [] := by
  obtain ⟨m, -, rfl⟩ := List.mem_map.mp (List.mem_of_mem_filter h)
  rfl

theorem has_reported {code : Text} (h : l ∈ generic code) {table : Option Text} {op : Operation} :
    TableUse.Has (l.reported blocks).tables table op ↔
      ∃ t, table = some t ∧ ∃ sql ∈ blocks, op.Mentioned l.database sql t := by
  obtain ⟨tables, he, hhas⟩ := (isGeneric_of_mem_generic h).exists_scanEach blocks
  rw [reported, has_used, he, hhas, tables_of_mem_generic h]
  exact or_iff_right TableUse.has_nil

theorem reported_eq {code : Text} (h : l ∈ generic code) :
    l.reported blocks = { l with tables := (l.reported blocks).tables } := by
  obtain ⟨tables, he, -⟩ := (isGeneric_of_mem_generic h).exists_scanEach blocks
  rw [reported, he]
  rfl

theorem exists_name_before_mentioned {op : Operation} {table : Text}
    (hname : ∀ c ∈ name, Text.isWord c) (h : op.Mentioned name sql table) :
    ∃ before name' after, sql = before ++ name' ++ '.' :: table ++ after ∧
      List.Forall₂ (fun a b ↦ Text.sameLetter a b) name name' := by
  obtain ⟨form, hform, -, p, hp, ht⟩ := h
  obtain ⟨m, hm, rfl⟩ := List.mem_map.mp ht
  obtain ⟨t, ht, hsql⟩ := SqlForm.exists_name_before_table hform hname hp hm
  rw [ht]
  exact hsql

end Library

namespace DatabaseAnalysis

open Library

variable {code : Text} {report : List Library}

theorem ofCode_eq_ok : ofCode code = .ok report ↔
    (start code).run.2 = none ∧ (start code).run.1.libraries = report := by
  rw [ofCode]
  generalize (start code).run = r
  obtain ⟨a, fault⟩ := r
  cases fault with
  | none => simp
  | some fault => simp

theorem libraries_of_run {a : DatabaseAnalysis} (h : a.run.2 = none) : a.run.1.libraries =
    ((Library.ofCode (a.assigned.addCode a.code) a.code).map
      (reported (sqlBlock.captures 1 a.code))).filter fun l ↦ !l.tables.isEmpty := by
  rw [run] at h ⊢
  split at h
  · cases h
  · next a' he =>
    have hlibraries : a.readVariables.load.scan.1.libraries = _ :=
      scanBlocks_eq_map (congrArg Prod.snd he)
    rw [he] at hlibraries
    change usedAll a'.libraries = _
    rw [hlibraries, usedAll, List.map_map]
    rfl

/-- Of each library without a syntax of its own the report gives exactly the tables and operations
that the SQL blocks mention, one by one, under its name, and leaves the library out if there are
none. So neither the order of the blocks nor the other libraries matter, and each table stands in a
block after the name and a point. -/
theorem report_generic (h : ofCode code = .ok report) :
    let blocks := sqlBlock.captures 1 code
    report = ((Library.ofCode (Variables.addCode [] code) code).map (reported blocks)).filter
      (fun l ↦ !l.tables.isEmpty) ∧
    ∀ l ∈ generic code,
      l.reported blocks = { l with tables := (l.reported blocks).tables } ∧
      (∀ table op, TableUse.Has (l.reported blocks).tables table op ↔
        ∃ t, table = some t ∧ ∃ sql ∈ blocks, op.Mentioned l.database sql t) ∧
      (l.reported blocks ∈ report ↔
        ∃ t, ∃ op : Operation, ∃ sql ∈ blocks, op.Mentioned l.database sql t) ∧
      (∀ code', (∀ sql, sql ∈ sqlBlock.captures 1 code' ↔ sql ∈ blocks) →
        ∀ l' ∈ generic code', l'.database = l.database → ∀ table op,
          TableUse.Has (l'.reported (sqlBlock.captures 1 code')).tables table op ↔
            TableUse.Has (l.reported blocks).tables table op) ∧
      ∀ t op, TableUse.Has (l.reported blocks).tables (some t) op →
        ∃ sql ∈ blocks, ∃ before name after, sql = before ++ name ++ '.' :: t ++ after ∧
          List.Forall₂ (fun a b ↦ Text.sameLetter a b) l.database name := by
  intro blocks
  obtain ⟨hrun, hlibraries⟩ := ofCode_eq_ok.mp h
  have hreport : report = _ := hlibraries.symm.trans (libraries_of_run hrun)
  refine ⟨hreport, fun l hl ↦ ⟨reported_eq hl, fun table op ↦ has_reported hl, ?_, ?_, ?_⟩⟩
  · have hmem : l.reported blocks ∈ report ↔ (l.reported blocks).tables ≠ [] := by
      rw [hreport, List.mem_filter, Bool.not_eq_true', List.isEmpty_eq_false_iff]
      exact and_iff_right (List.mem_map_of_mem (List.mem_append_left _ hl))
    rw [hmem, reported, used_tables_ne_nil]
    constructor
    · rintro ⟨table, op, hhas⟩
      obtain ⟨t, -, hsql⟩ := (has_reported hl).mp hhas
      exact ⟨t, op, hsql⟩
    · rintro ⟨t, op, hsql⟩
      exact ⟨some t, op, (has_reported hl).mpr ⟨t, rfl, hsql⟩⟩
  · intro code' hblocks l' hl' hname table op
    simp only [has_reported hl', has_reported hl, hname, hblocks]
  · intro t op hhas
    obtain ⟨t', ht', sql, hsql, hmentioned⟩ := (has_reported hl).mp hhas
    obtain rfl := Option.some.inj ht'
    exact ⟨sql, hsql, exists_name_before_mentioned (isGeneric_of_mem_generic hl).isWord_database
      hmentioned⟩

/-- Two blocks mention the table of a library, one of them in another letter case. -/
theorem report_generic_two_blocks :
    let code : Text := "libname a x; proc sql; join A.t quit; proc sql; delete from a.t quit;"
    let l : Library := ⟨"a", "x", [], []⟩
    ofCode code = .ok [{ l with tables := [⟨some "t", [.select, .delete]⟩] }] ∧ l ∈ generic code ∧
      ∃ t, ∃ op : Operation, ∃ sql ∈ sqlBlock.captures 1 code, op.Mentioned "a" sql t := by
  intro code l
  have h : ofCode code = .ok [{ l with tables := [⟨some "t", [.select, .delete]⟩] }] :=
    ofCode_eq_ok.mpr ⟨by decide +kernel, by decide +kernel⟩
  have hl : l ∈ generic code := by decide +kernel
  exact ⟨h, hl, ((report_generic h).2 l hl).2.2.1.mp (by decide +kernel)⟩

end DatabaseAnalysis

end SasMigration
