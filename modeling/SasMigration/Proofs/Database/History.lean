import SasMigration.Proofs.Database.Scan

namespace SasMigration

namespace Library

open TableUse (Has names)

variable {l : Library} {sql : Text} {blocks : List Text} {table : Option Text} {op : Operation}

theorem exists_isPrefix_of_mem (h : sql ∈ blocks) : ∃ before, before ++ [sql] <+: blocks := by
  obtain ⟨before, after, rfl⟩ := List.append_of_mem h
  exact ⟨before, after, by simp⟩

structure IsTeradata (l : Library) : Prop where
  kind_eq : l.kind = teradata
  not_has : ∀ table op, ¬ Has l.tables table op

theorem isTeradata_of_mem_ofTeradataAll {vars : Variables} {code : Text}
    (h : l ∈ ofTeradataAll vars code) : l.IsTeradata := by
  obtain ⟨m, -, rfl⟩ := List.mem_map.mp h
  refine ⟨rfl, fun table op ↦ ?_⟩
  rintro ⟨t, ht, -, hop⟩
  rw [List.mem_singleton.mp ht] at hop
  cases hop

namespace IsTeradata

theorem scanEach_kind (h : l.IsTeradata) (blocks : List Text) :
    (l.scanEach blocks).kind = teradata := by
  rw [scanEach_eq, h.kind_eq]

theorem has_reported_singleton (h : l.IsTeradata) (hscan : (l.scan sql).2 = none) :
    Has (l.reported [sql]).tables table op ↔ l.Adds sql table op := by
  rw [reported, has_used]
  exact (has_scan h.kind_eq hscan).trans (or_iff_right (h.not_has table op))

theorem fault_scan_of_passes (h : l.IsTeradata) (hpass : Passes blocks l) (hsql : sql ∈ blocks) :
    (l.scan sql).2 = none := by
  obtain ⟨before, hb⟩ := exists_isPrefix_of_mem hsql
  obtain ⟨hbefore, hscan⟩ := passes_concat.mp (passes_of_isPrefix hpass hb)
  refine fault_scan_of_known (h.scanEach_kind before) h.kind_eq (by rw [scanEach_eq]) ?_ hscan
  intro table htable
  exact (mem_names_scanEach h.kind_eq hbefore).mpr (.inl htable)

theorem adds_scanEach (h : l.IsTeradata) (hpass : Passes blocks l) (hadds : l.Adds sql table op) :
    (l.scanEach blocks).Adds sql table op := by
  refine hadds.of_known (by rw [scanEach_eq]) fun name m hname _ ↦ ?_
  exact (mem_names_scanEach h.kind_eq hpass).mpr (.inl hname)

theorem has_reported (h : l.IsTeradata) (hpass : Passes blocks l) :
    Has (l.reported blocks).tables table op ↔
      ∃ before sql, before ++ [sql] <+: blocks ∧ (l.scanEach before).Adds sql table op := by
  rw [reported, has_used, has_scanEach h.kind_eq hpass]
  exact or_iff_right (h.not_has table op)

end IsTeradata

/-- The library as if it knew more tables from the beginning. -/
def knowing (ts : List TableUse) (l : Library) : Library :=
  { l with tables := l.tables ++ ts.map fun t ↦ { t with operations := [] } }

theorem names_knowing (ts : List TableUse) :
    names (l.knowing ts).tables = names l.tables ++ names ts := by
  simp [names, knowing]

theorem IsTeradata.knowing (h : l.IsTeradata) (ts : List TableUse) :
    (l.knowing ts).IsTeradata := by
  refine ⟨h.kind_eq, fun table op ↦ ?_⟩
  rintro ⟨t, ht, htable, hop⟩
  rcases List.mem_append.mp ht with ht | ht
  · exact h.not_has table op ⟨t, ht, htable, hop⟩
  · obtain ⟨t', -, rfl⟩ := List.mem_map.mp ht
    cases hop

theorem mem_names_used : table ∈ names l.used.tables ↔ ∃ op, Has l.tables table op := by
  constructor
  · intro h
    obtain ⟨t, ht, rfl⟩ := List.mem_map.mp h
    obtain ⟨ht, hne⟩ := List.mem_filter.mp ht
    have hne : t.operations ≠ [] := by simpa using hne
    obtain ⟨op, hop⟩ := List.exists_mem_of_ne_nil _ hne
    exact ⟨op, t, ht, rfl, hop⟩
  · rintro ⟨op, hhas⟩
    exact TableUse.mem_names_of_has (has_used.mpr hhas)

namespace IsTeradata

/-- A block adds to what the blocks before it left just what it adds alone to the library that knows
the tables reported from them. -/
theorem has_reported_knowing (h : l.IsTeradata) (hpass : Passes blocks l) {before : List Text}
    (hb : before ++ [sql] <+: blocks) :
    Has ((l.knowing (l.reported before).tables).reported [sql]).tables table op ↔
      (l.scanEach before).Adds sql table op := by
  obtain ⟨hbefore, hscan⟩ := passes_concat.mp (passes_of_isPrefix hpass hb)
  have hdatabase : (l.scanEach before).database = l.database := by rw [scanEach_eq]
  have hnames (table : Option Text) : table ∈ names (l.knowing (l.reported before).tables).tables ↔
      table ∈ names (l.scanEach before).tables := by
    rw [names_knowing, List.mem_append, reported, mem_names_used,
      mem_names_scanEach h.kind_eq hbefore]
  have hk := h.knowing (l.reported before).tables
  have hscan := fault_scan_of_known (h.scanEach_kind before) hk.kind_eq hdatabase.symm
    (fun table ↦ (hnames table).mp) hscan
  rw [hk.has_reported_singleton hscan]
  constructor
  · exact Adds.of_known hdatabase fun name m hname _ ↦ (hnames _).mp hname
  · exact Adds.of_known hdatabase.symm fun name m hname _ ↦ (hnames _).mpr hname

theorem has_reported_of_mem (h : l.IsTeradata) (hpass : Passes blocks l) (hsql : sql ∈ blocks)
    (hhas : Has (l.reported [sql]).tables table op) : Has (l.reported blocks).tables table op := by
  obtain ⟨before, hb⟩ := exists_isPrefix_of_mem hsql
  obtain ⟨hbefore, -⟩ := passes_concat.mp (passes_of_isPrefix hpass hb)
  rw [h.has_reported_singleton (h.fault_scan_of_passes hpass hsql)] at hhas
  exact (h.has_reported hpass).mpr ⟨before, sql, hb, h.adds_scanEach hbefore hhas⟩

end IsTeradata

/-- No block mentions a table under a name that is known only from the blocks before it. -/
def Unchained (l : Library) (blocks : List Text) : Prop :=
  blocks.Pairwise fun sql sql' ↦ ∀ name op, Has (l.reported [sql]).tables (some name) op →
    some name ∉ names l.tables → ∀ m, ¬ Mention.Found name sql' m

theorem IsTeradata.has_reported_of_unchained (h : l.IsTeradata) (hpass : Passes blocks l)
    (hu : l.Unchained blocks) : Has (l.reported blocks).tables table op ↔
      ∃ sql ∈ blocks, Has (l.reported [sql]).tables table op := by
  induction blocks using List.reverseRecOn generalizing table op with
  | nil => simpa [reported, has_used, scanEach] using h.not_has table op
  | append_singleton blocks last ih =>
    obtain ⟨hblocks, hlast⟩ := passes_concat.mp hpass
    obtain ⟨hu, -, hapart⟩ := List.pairwise_append.mp hu
    have ih {table : Option Text} {op : Operation} := @ih table op hblocks hu
    have hadds : (l.scanEach blocks).Adds last table op ↔
        Has (l.reported [last]).tables table op := by
      rw [h.has_reported_singleton (h.fault_scan_of_passes hpass (by simp))]
      constructor
      · refine Adds.of_known (by rw [scanEach_eq]) fun name m hname hfound ↦ ?_
        by_contra hnew
        -- the name was reported of a block before, alone, so the last one does not mention it
        obtain hknown | ⟨op, hhas⟩ := (mem_names_scanEach h.kind_eq hblocks).mp hname
        · exact hnew hknown
        · obtain ⟨sql, hsql, hhas⟩ := ih.mp (has_used.mpr hhas)
          exact hapart sql hsql last (by simp) name op hhas hnew m hfound
      · exact h.adds_scanEach hblocks
    rw [reported, has_used, scanEach_concat, has_scan (h.scanEach_kind blocks) hlast, hadds,
      ← has_used]
    refine (or_congr_left ih).trans ?_
    simp only [List.mem_append, List.mem_singleton, or_and_right, exists_or, exists_eq_left]

end Library

namespace DatabaseAnalysis

open Library
open TableUse (Has)

variable {code : Text} {report : List Library}

theorem fault_run (a : DatabaseAnalysis) : a.run.2 = none ↔
    ∀ l ∈ Library.ofCode (a.assigned.addCode a.code) a.code,
      Passes (sqlBlock.captures 1 a.code) l := by
  rw [← fault_scanBlocks, run]
  change _ ↔ a.readVariables.load.scan.2 = none
  rcases a.readVariables.load.scan with ⟨a', _ | fault⟩
  · exact iff_of_true rfl rfl
  · exact iff_of_false (Option.some_ne_none fault) (Option.some_ne_none fault)

theorem ofCode_eq_ok_iff_passes : ofCode code = .ok report ↔
    (∀ l ∈ Library.ofCode (Variables.addCode [] code) code, Passes (sqlBlock.captures 1 code) l) ∧
      report = ((Library.ofCode (Variables.addCode [] code) code).map
        (reported (sqlBlock.captures 1 code))).filter fun l ↦ !l.tables.isEmpty := by
  rw [ofCode_eq_ok, fault_run]
  refine and_congr_right fun h ↦ ?_
  rw [libraries_of_run ((fault_run _).mpr h), eq_comm]
  rfl

theorem ofCode_eq_ok_iff_toOption :
    ofCode code = .ok report ↔ (ofCode code).toOption = some report := by
  cases ofCode code <;> simp [Except.toOption]

theorem ofCode_of_captures_singleton (h : ofCode code = .ok report) {code' sql : Text}
    (hlibraries : Library.ofCode (Variables.addCode [] code') code' =
      Library.ofCode (Variables.addCode [] code) code)
    (hsql : sql ∈ sqlBlock.captures 1 code) (hblock : sqlBlock.captures 1 code' = [sql]) :
    ofCode code' = .ok (((Library.ofCode (Variables.addCode [] code) code).map
      (reported [sql])).filter fun l ↦ !l.tables.isEmpty) := by
  obtain ⟨hpass, -⟩ := ofCode_eq_ok_iff_passes.mp h
  rw [ofCode_eq_ok_iff_passes, hlibraries, hblock]
  refine ⟨fun l hl ↦ ⟨?_, trivial⟩, rfl⟩
  rcases List.mem_append.mp hl with hgeneric | hteradata
  · obtain ⟨tables, hscan, -⟩ := (isGeneric_of_mem_generic hgeneric).exists_scan sql
    rw [hscan]
  · exact (isTeradata_of_mem_ofTeradataAll hteradata).fault_scan_of_passes (hpass l hl) hsql

/-- Of a library with a syntax of its own the report gives what each SQL block gives alone for the
library that knows the tables reported from the blocks before. That is at least what the blocks give
alone for the library as it stands, and no more if none of them mentions a table under a name that
is known only from the blocks before it; then their order does not matter either. -/
theorem report_teradata (h : ofCode code = .ok report) :
    let libraries := Library.ofCode (Variables.addCode [] code) code
    let blocks := sqlBlock.captures 1 code
    report = (libraries.map (reported blocks)).filter (fun l ↦ !l.tables.isEmpty) ∧
    (∀ sql ∈ blocks, ∀ code', Library.ofCode (Variables.addCode [] code') code' = libraries →
      sqlBlock.captures 1 code' = [sql] →
        ofCode code' = .ok ((libraries.map (reported [sql])).filter fun l ↦ !l.tables.isEmpty)) ∧
    ∀ l ∈ ofTeradataAll (Variables.addCode [] code) code,
      l.reported blocks = { l with tables := (l.reported blocks).tables } ∧
      (∀ table op, Has (l.reported blocks).tables table op ↔
        ∃ before sql, before ++ [sql] <+: blocks ∧
          Has ((l.knowing (l.reported before).tables).reported [sql]).tables table op) ∧
      (∀ sql ∈ blocks, ∀ table op, Has (l.reported [sql]).tables table op →
        Has (l.reported blocks).tables table op) ∧
      (l.Unchained blocks → ∀ table op, Has (l.reported blocks).tables table op ↔
        ∃ sql ∈ blocks, Has (l.reported [sql]).tables table op) ∧
      (l.Unchained blocks → ∀ code' report', ofCode code' = .ok report' →
        l ∈ ofTeradataAll (Variables.addCode [] code') code' →
        (∀ sql, sql ∈ sqlBlock.captures 1 code' ↔ sql ∈ blocks) →
        l.Unchained (sqlBlock.captures 1 code') → ∀ table op,
          Has (l.reported (sqlBlock.captures 1 code')).tables table op ↔
            Has (l.reported blocks).tables table op) := by
  intro libraries blocks
  obtain ⟨hpass, hreport⟩ := ofCode_eq_ok_iff_passes.mp h
  refine ⟨hreport, fun sql hsql code' hlibraries hblock ↦
    ofCode_of_captures_singleton h hlibraries hsql hblock, fun l hl ↦ ?_⟩
  have hl' := isTeradata_of_mem_ofTeradataAll hl
  have hpassl : Passes blocks l := hpass l (List.mem_append_right _ hl)
  refine ⟨?_, fun table op ↦ ?_, fun sql hsql table op ↦ hl'.has_reported_of_mem hpassl hsql,
    fun hu table op ↦ hl'.has_reported_of_unchained hpassl hu, ?_⟩
  · rw [reported, scanEach_eq]
    rfl
  · rw [hl'.has_reported hpassl]
    exact exists₂_congr fun before sql ↦ and_congr_right fun hb ↦
      (hl'.has_reported_knowing hpassl hb).symm
  · intro hu code' report' h' hmem hblocks hu' table op
    have hpass' := (ofCode_eq_ok_iff_passes.mp h').1 l (List.mem_append_right _ hmem)
    rw [hl'.has_reported_of_unchained hpass' hu', hl'.has_reported_of_unchained hpassl hu]
    simp only [hblocks, blocks]

/-- One block mentions a table under the name of the library, the other under that of its
database. -/
theorem report_teradata_two_blocks :
    let code : Text :=
      "libname t teradata schema=s;proc sql;join t.a quit;proc sql;delete from s.b quit;"
    let l : Library := ⟨"s", "TERADATA", "schema=s", [⟨some "t", []⟩]⟩
    let blocks := sqlBlock.captures 1 code
    ofCode code = .ok [{ l with tables :=
      [⟨some "t", [.select]⟩, ⟨some "a", [.select]⟩, ⟨some "b", [.delete]⟩] }] ∧
      l ∈ ofTeradataAll (Variables.addCode [] code) code ∧ l.Unchained blocks ∧
      ∀ table op, Has (l.reported blocks).tables table op ↔
        ∃ sql ∈ blocks, Has (l.reported [sql]).tables table op := by
  intro code l blocks
  have h : ofCode code = .ok [{ l with tables :=
      [⟨some "t", [.select]⟩, ⟨some "a", [.select]⟩, ⟨some "b", [.delete]⟩] }] :=
    ofCode_eq_ok_iff_toOption.mpr (by decide +kernel)
  have hl : l ∈ ofTeradataAll (Variables.addCode [] code) code := by decide +kernel
  have hu : l.Unchained blocks := by
    let first : Text := "join t.a "
    let second : Text := "delete from s.b "
    have hblocks : blocks = [first, second] := by decide +kernel
    have hfirst : (l.reported [first]).tables =
        [⟨some "t", [.select]⟩, ⟨some "a", [.select]⟩] := by decide +kernel
    have hsecond : (Mention.ofName "a" second).toOption = some [] := by decide +kernel
    rw [Unchained, hblocks, List.pairwise_pair]
    rintro name op hhas hnew m ⟨found, hfound, hm⟩
    have hname := TableUse.mem_names_of_has hhas
    rw [hfirst] at hname
    rcases List.mem_pair.mp hname with hname | hname
    · exact hnew (hname ▸ List.mem_singleton_self _)
    · rw [← Option.some.inj hname, hfound] at hsecond
      cases hsecond
      cases hm
  exact ⟨h, hl, hu, ((report_teradata h).2.2 l hl).2.2.2.1 hu⟩

/-- A table that was found before is taken for the library of that name, and its tables are then
reported as well. With the blocks the other way round they are not. -/
theorem exists_report_by_order :
    ∃ (code code' : Text) (report report' : List Library) (l : Library) (table : Option Text)
      (op : Operation), ofCode code = .ok report ∧ ofCode code' = .ok report' ∧
      l ∈ ofTeradataAll (Variables.addCode [] code) code ∧
      Library.ofCode (Variables.addCode [] code') code' =
        Library.ofCode (Variables.addCode [] code) code ∧
      sqlBlock.captures 1 code' = (sqlBlock.captures 1 code).reverse ∧
      Has (l.reported (sqlBlock.captures 1 code)).tables table op ∧
      (¬ ∃ sql ∈ sqlBlock.captures 1 code, Has (l.reported [sql]).tables table op) ∧
      ¬ Has (l.reported (sqlBlock.captures 1 code')).tables table op := by
  let code : Text :=
    "libname t teradata schema=s;libname b c;proc sql;join t.b quit;proc sql;join b.d quit;"
  let code' : Text :=
    "libname t teradata schema=s;libname b c;proc sql;join b.d quit;proc sql;join t.b quit;"
  let other : Library := ⟨"b", "c", [], []⟩
  let l : Library := ⟨"s", "TERADATA", "schema=s", [⟨some "t", []⟩]⟩
  let first : Text := "join t.b "
  let second : Text := "join b.d "
  have hlibraries : Library.ofCode (Variables.addCode [] code) code = [other, l] := by
    decide +kernel
  have hlibraries' : Library.ofCode (Variables.addCode [] code') code' = [other, l] := by
    decide +kernel
  have hblocks : sqlBlock.captures 1 code = [first, second] := by decide +kernel
  have hblocks' : sqlBlock.captures 1 code' = [second, first] := by decide +kernel
  refine ⟨code, code',
    [{ other with tables := [⟨some "d", [.select]⟩] }, { l with tables :=
      [⟨some "t", [.select]⟩, ⟨some "b", [.select]⟩, ⟨some "d", [.select]⟩] }],
    [{ other with tables := [⟨some "d", [.select]⟩] }, { l with tables :=
      [⟨some "t", [.select]⟩, ⟨some "b", [.select]⟩] }],
    l, some "d", .select, ofCode_eq_ok_iff_toOption.mpr (by decide +kernel),
    ofCode_eq_ok_iff_toOption.mpr (by decide +kernel), by decide +kernel,
    hlibraries'.trans hlibraries.symm, ?_⟩
  rw [hblocks, hblocks']
  exact ⟨rfl, by decide +kernel, by decide +kernel, by decide +kernel⟩

end DatabaseAnalysis

end SasMigration
