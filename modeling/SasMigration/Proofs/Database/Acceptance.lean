import SasMigration.Proofs.Database.Agreement
import SasMigration.Proofs.Database.History

namespace SasMigration

open ReadPattern (special)

/-- Every form can be read with a name in it. -/
def SqlForm.Admits (name : Text) : Prop :=
  ∀ form ∈ all, ∃ p, Pattern.read form.flags (form.written name) = .ok p

def SqlForm.Rejects (name : Text) (fault : Fault) : Prop :=
  ∃ form ∈ all, ∃ cause, Pattern.read form.flags (form.written name) = .error cause ∧
    fault = .pattern cause

theorem SqlForm.exists_word {form : SqlForm} {name sql : Text} {p : NumberedPattern} {m : Match}
    (h : form ∈ all) (hname : ∀ c ∈ name, c ∉ special)
    (hp : Pattern.read form.flags (form.written name) = .ok p) (hm : m ∈ p.pattern.findAll sql) :
    ∃ word, m.group 1 = some word ∧ ∀ c ∈ word, Text.isWord c := by
  obtain ⟨opening, hread⟩ := exists_opening h
  obtain rfl := Except.ok.inj (hp.symm.trans (hread name hname))
  have hof := Pattern.isOf_of_mem_findAll hm
  rw [← List.singleton_append, ← List.append_assoc] at hof
  obtain ⟨s, e, word, he, hword, hgroup⟩ := Pattern.exists_group_of_isOf hof
  refine ⟨word, hgroup, fun c hc ↦ ?_⟩
  have hset := (Pattern.holds_of_mem_ends_span he hword).2 c hc
  simpa [tableSet, CharSet.ofItems, CharSet.holds, ClassItem.holds, CharKind.holds] using hset

namespace Mention

variable {name sql : Text} {fault : Fault}

theorem ofForms_cases (name sql : Text) (forms : List SqlForm) :
    (∃ form ∈ forms, ∃ cause, Pattern.read form.flags (form.written name) = .error cause ∧
      ofForms name sql forms = .error (.pattern cause)) ∨
    ((∀ form ∈ forms, ∃ p, Pattern.read form.flags (form.written name) = .ok p) ∧
      ∃ found, ofForms name sql forms = .ok found ∧ ∀ m ∈ found, ∃ form ∈ forms, ∃ p,
        Pattern.read form.flags (form.written name) = .ok p ∧
          ∃ taken ∈ p.pattern.findAll sql, m.table = taken.group 1) := by
  induction forms with
  | nil => exact .inr ⟨by simp, [], rfl, by simp⟩
  | cons form forms ih =>
    rw [ofForms, SqlForm.mentions]
    cases hread : Pattern.read form.flags (form.written name) with
    | error cause => exact .inl ⟨form, List.mem_cons_self, cause, hread, rfl⟩
    | ok p =>
      rcases ih with ⟨form', hform', cause, hcause, hmore⟩ | ⟨hforms, more, hmore, htaken⟩
      · exact .inl ⟨form', List.mem_cons_of_mem form hform', cause, hcause, by rw [hmore]; rfl⟩
      · refine .inr ⟨List.forall_mem_cons.mpr ⟨⟨p, hread⟩, hforms⟩, _, by rw [hmore]; rfl, ?_⟩
        refine List.forall_mem_append.mpr ⟨fun m hm ↦ ?_, fun m hm ↦ ?_⟩
        · obtain ⟨taken, hmem, rfl⟩ := List.mem_map.mp hm
          exact ⟨form, List.mem_cons_self, p, hread, taken, hmem, rfl⟩
        · obtain ⟨form', hform', hm⟩ := htaken m hm
          exact ⟨form', List.mem_cons_of_mem form hform', hm⟩

theorem exists_ofName_iff (name sql : Text) :
    (∃ found, ofName name sql = .ok found) ↔ SqlForm.Admits name := by
  rcases ofForms_cases name sql SqlForm.all with ⟨form, hform, cause, hcause, herror⟩ | ⟨hall, hok⟩
  · refine iff_of_false ?_ fun h ↦ ?_
    · rintro ⟨found, hfound⟩
      cases herror.symm.trans hfound
    · obtain ⟨p, hp⟩ := h form hform
      cases hcause.symm.trans hp
  · obtain ⟨found, hfound, -⟩ := hok
    exact iff_of_true ⟨found, hfound⟩ hall

theorem rejects_of_ofName (h : ofName name sql = .error fault) : SqlForm.Rejects name fault := by
  rcases ofForms_cases name sql SqlForm.all with ⟨form, hform, cause, hcause, herror⟩ | ⟨-, hok⟩
  · exact ⟨form, hform, cause, hcause, Except.error.inj (h.symm.trans herror)⟩
  · obtain ⟨found, hfound, -⟩ := hok
    cases h.symm.trans hfound

theorem exists_word_of_found {m : Mention} (hname : ∀ c ∈ name, c ∉ special)
    (h : Found name sql m) : ∃ word, m.table = some word ∧ ∀ c ∈ word, Text.isWord c := by
  obtain ⟨found, hfound, hm⟩ := h
  rcases ofForms_cases name sql SqlForm.all with ⟨form, hform, cause, -, herror⟩ | ⟨-, hok⟩
  · cases hfound.symm.trans herror
  · obtain ⟨found', hfound', htaken⟩ := hok
    obtain rfl := Except.ok.inj (hfound.symm.trans hfound')
    obtain ⟨form, hform, p, hp, taken, hmem, htable⟩ := htaken m hm
    rw [htable]
    exact SqlForm.exists_word hform hname hp hmem

end Mention

namespace TableUse

variable {sql : Text} {ts : List TableUse} {table : Option Text} {fault : Fault}

/-- A table with a name that can be searched for. -/
def Admissible (table : Option Text) : Prop := ∃ name, table = some name ∧ SqlForm.Admits name

def Refused (table : Option Text) (fault : Fault) : Prop :=
  (table = none ∧ fault = .notText "NoneType") ∨
    ∃ name, table = some name ∧ SqlForm.Rejects name fault

/-- A table with a name of characters that stand for themselves in patterns. -/
def Literal (table : Option Text) : Prop := ∃ name, table = some name ∧ ∀ c ∈ name, c ∉ special

theorem Literal.admissible (h : Literal table) : Admissible table := by
  obtain ⟨name, rfl, hname⟩ := h
  refine ⟨name, rfl, fun form hform ↦ ?_⟩
  obtain ⟨opening, hread⟩ := SqlForm.exists_opening hform
  exact ⟨_, hread name hname⟩

theorem literal_of_found {name : Text} {m : Mention} (hname : Literal (some name))
    (h : Mention.Found name sql m) : Literal m.table := by
  obtain ⟨name', he, hname⟩ := hname
  cases he
  obtain ⟨word, htable, hword⟩ := Mention.exists_word_of_found hname h
  exact ⟨word, htable, fun c hc ↦ Text.notMem_special (hword c hc)⟩

theorem searchable_iff : Searchable sql table ↔ Admissible table := by
  simp only [Searchable, Admissible, ← Mention.exists_ofName_iff _ sql, exists_and_left]

theorem exists_of_fault_scan (h : (scan sql ts).2.2 = some fault) :
    ∃ table ∈ names ts, Refused table fault := by
  induction ts with
  | nil => cases h
  | cons t ts ih =>
    rw [scan] at h
    cases hm : t.mentions sql with
    | error fault' =>
      rw [hm] at h
      cases h
      refine ⟨t.table, List.mem_cons_self, ?_⟩
      rw [mentions] at hm
      cases ht : t.table with
      | none =>
        rw [ht] at hm
        cases hm
        exact .inl ⟨rfl, rfl⟩
      | some name =>
        rw [ht] at hm
        exact .inr ⟨name, rfl, Mention.rejects_of_ofName hm⟩
    | ok found =>
      rw [hm] at h
      obtain ⟨table, htable, hrefused⟩ := ih h
      exact ⟨table, List.mem_cons_of_mem _ htable, hrefused⟩

end TableUse

namespace Library

open TableUse (Has names Admissible Refused Literal)

variable {l : Library} {ls : List Library} {sql : Text} {blocks before : List Text}
  {table : Option Text} {fault : Fault}

/-- What is searched for in a block after others: the database, the library and the tables that were
found before, in the order of the tables. -/
def sought (before : List Text) (l : Library) : List (Option Text) :=
  names (l.knowing (l.reported before).tables).tables ++ [some l.database]

theorem fault_scan_iff (hkind : l.kind = teradata) : (l.scan sql).2 = none ↔
    ∀ table ∈ names l.tables ++ [some l.database], Admissible table := by
  have hdatabase : Admissible (some l.database) ↔ SqlForm.Admits l.database := by simp [Admissible]
  rw [fault_scan hkind, List.forall_mem_append, List.forall_mem_singleton, hdatabase,
    Mention.exists_ofName_iff]
  simp only [TableUse.searchable_iff]

theorem exists_of_fault_scan (hkind : l.kind = teradata) (h : (l.scan sql).2 = some fault) :
    ∃ table ∈ names l.tables ++ [some l.database], Refused table fault := by
  rw [scan, if_pos hkind] at h
  cases hscan : (TableUse.scan sql l.tables).2.2 with
  | some fault' =>
    simp only [hscan] at h
    cases h
    obtain ⟨table, htable, hrefused⟩ := TableUse.exists_of_fault_scan hscan
    exact ⟨table, List.mem_append_left _ htable, hrefused⟩
  | none =>
    simp only [hscan] at h
    cases hdatabase : Mention.ofName l.database sql with
    | error fault' =>
      rw [hdatabase] at h
      cases h
      exact ⟨some l.database, by simp, .inr ⟨_, rfl, Mention.rejects_of_ofName hdatabase⟩⟩
    | ok more =>
      rw [hdatabase] at h
      cases h

theorem exists_of_fault_scanAll (h : (scanAll sql ls).2 = some fault) :
    ∃ l ∈ ls, (l.scan sql).2 = some fault := by
  induction ls with
  | nil => cases h
  | cons l ls ih =>
    rw [scanAll] at h
    rcases hscan : l.scan sql with ⟨l', _ | fault'⟩
    · rw [hscan] at h
      obtain ⟨l', hl', hfault⟩ := ih h
      exact ⟨l', List.mem_cons_of_mem l hl', hfault⟩
    · rw [hscan] at h
      cases h
      exact ⟨l, List.mem_cons_self, by rw [hscan]⟩

theorem exists_of_fault_scanBlocks (h : (scanBlocks ls blocks).2 = some fault) :
    ∃ l ∈ ls, ∃ before sql, before ++ [sql] <+: blocks ∧ Passes before l ∧
      ((l.scanEach before).scan sql).2 = some fault := by
  induction blocks generalizing ls with
  | nil => cases h
  | cons sql blocks ih =>
    rw [scanBlocks] at h
    rcases hall : scanAll sql ls with ⟨ls', _ | fault'⟩
    · have hnone : (scanAll sql ls).2 = none := by rw [hall]
      have hls' : ls' = ls.map fun l ↦ (l.scan sql).1 := by rw [← scanAll_eq_map hnone, hall]
      rw [hall] at h
      obtain ⟨l', hl', before, next, hb, hpass, hfault⟩ := ih h
      rw [hls'] at hl'
      obtain ⟨l, hl, rfl⟩ := List.mem_map.mp hl'
      refine ⟨l, hl, sql :: before, next, ?_, ⟨fault_scanAll.mp hnone l hl, hpass⟩, hfault⟩
      exact List.cons_prefix_cons.mpr ⟨rfl, hb⟩
    · rw [hall] at h
      cases h
      obtain ⟨l, hl, hfault⟩ := exists_of_fault_scanAll (by rw [hall])
      exact ⟨l, hl, [], sql, ⟨blocks, rfl⟩, trivial, hfault⟩

theorem IsGeneric.passes (h : l.IsGeneric) (blocks : List Text) : Passes blocks l := by
  induction blocks generalizing l with
  | nil => trivial
  | cons sql blocks ih =>
    obtain ⟨tables, hscan, -⟩ := h.exists_scan sql
    rw [Passes, hscan]
    exact ⟨rfl, ih ⟨h.kind_ne, h.isWord_database⟩⟩

namespace IsTeradata

theorem mem_sought (h : l.IsTeradata) (hpass : Passes before l) : table ∈ l.sought before ↔
    table ∈ names (l.scanEach before).tables ++ [some (l.scanEach before).database] := by
  have hdatabase : (l.scanEach before).database = l.database := by rw [scanEach_eq]
  rw [sought, names_knowing, List.mem_append, List.mem_append, List.mem_append, reported,
    mem_names_used, mem_names_scanEach h.kind_eq hpass, hdatabase]

theorem fault_scan_scanEach (h : l.IsTeradata) (hpass : Passes before l) :
    ((l.scanEach before).scan sql).2 = none ↔ ∀ table ∈ l.sought before, Admissible table := by
  rw [fault_scan_iff (h.scanEach_kind before)]
  exact forall_congr' fun table ↦ imp_congr_left (h.mem_sought hpass).symm

theorem passes_iff (h : l.IsTeradata) : Passes blocks l ↔
    ∀ before sql, before ++ [sql] <+: blocks → ∀ table ∈ l.sought before, Admissible table := by
  induction blocks using List.reverseRecOn with
  | nil => simp [Passes]
  | append_singleton blocks last ih =>
    rw [passes_concat]
    constructor
    · rintro ⟨hblocks, hlast⟩ before sql hb
      rcases List.prefix_concat_iff.mp hb with he | hb
      · obtain ⟨rfl, rfl⟩ := List.append_singleton_inj.mp he
        exact (h.fault_scan_scanEach hblocks).mp hlast
      · exact ih.mp hblocks before sql hb
    · intro hall
      have hblocks := ih.mpr fun before sql hb ↦
        hall before sql (List.prefix_concat_iff.mpr (.inr hb))
      exact ⟨hblocks, (h.fault_scan_scanEach hblocks).mpr (hall blocks last List.prefix_rfl)⟩

end IsTeradata

theorem literal_of_adds (hl : ∀ table ∈ names l.tables ++ [some l.database], Literal table)
    {op : Operation} (h : l.Adds sql table op) : Literal table := by
  obtain ⟨htables, hdatabase⟩ := List.forall_mem_append.mp hl
  cases h with
  | database hfound => exact TableUse.literal_of_found (hdatabase _ (by simp)) hfound
  | table hname hfound => exact TableUse.literal_of_found (htables _ hname) hfound
  | library hname _ => exact htables _ hname

theorem passes_of_literal (hkind : l.kind = teradata)
    (hl : ∀ table ∈ names l.tables ++ [some l.database], Literal table) (blocks : List Text) :
    Passes blocks l := by
  -- the tables that a block adds have no signs of patterns in their names either
  induction blocks generalizing l with
  | nil => trivial
  | cons sql blocks ih =>
    have hscan : (l.scan sql).2 = none :=
      (fault_scan_iff hkind).mpr fun table htable ↦ (hl table htable).admissible
    refine ⟨hscan, ih (by rw [scan_eq, hkind]) ?_⟩
    obtain ⟨htables, hdatabase⟩ := List.forall_mem_append.mp hl
    refine List.forall_mem_append.mpr ⟨fun table htable ↦ ?_, by rwa [scan_eq]⟩
    rcases (mem_names_scan hkind hscan).mp htable with htable | ⟨op, hadds⟩
    · exact htables table htable
    · exact literal_of_adds hl hadds

end Library

namespace DatabaseAnalysis

open Library
open TableUse (Admissible Refused Literal)

variable {code : Text} {fault : Fault}

theorem json_eq_ok {described : Text} : json code = .ok described ↔
    ∃ report, ofCode code = .ok report ∧ described = (value report).json true := by
  rw [json]
  cases ofCode code <;> simp [Except.map, eq_comm]

theorem json_eq_error : json code = .error fault ↔
    (scanBlocks (Library.ofCode (Variables.addCode [] code) code)
      (sqlBlock.captures 1 code)).2 = some fault := by
  change _ ↔ (start code).readVariables.load.scan.2 = some fault
  rw [json, ofCode, run]
  rcases (start code).readVariables.load.scan with ⟨a, _ | fault'⟩ <;> simp [Except.map]

theorem exists_json_iff_passes : (∃ described, json code = .ok described) ↔
    ∀ l ∈ ofTeradataAll (Variables.addCode [] code) code, Passes (sqlBlock.captures 1 code) l := by
  have hreport : (∃ described, json code = .ok described) ↔ ∃ report, ofCode code = .ok report := by
    simp only [json_eq_ok, exists_comm, exists_and_left, exists_eq, and_true]
  simp only [hreport, ofCode_eq_ok_iff_passes, exists_and_left, exists_eq, and_true]
  constructor
  · intro h l hl
    exact h l (List.mem_append_right _ hl)
  · intro h l hl
    rcases List.mem_append.mp hl with hl | hl
    · exact (isGeneric_of_mem_generic hl).passes _
    · exact h l hl

/-- A program is described exactly if everything that is searched for in one of its SQL blocks, for
a library with a syntax of its own, can be a part of the forms: its name, the name of its database
and the tables found in the blocks before. What describes it is then read back as the report. A
program is refused with the fault of one of these names. It never is if the names of libraries and
databases hold no signs of patterns. -/
theorem exists_json_iff (code : Text) :
    let libraries := ofTeradataAll (Variables.addCode [] code) code
    let blocks := sqlBlock.captures 1 code
    ((∃ described, json code = .ok described) ↔ ∀ l ∈ libraries, ∀ before sql,
      before ++ [sql] <+: blocks → ∀ table ∈ l.sought before, Admissible table) ∧
    (∀ described, json code = .ok described → ∃ report, ofCode code = .ok report ∧
      Value.ofJson described = .ok (value report)) ∧
    (∀ fault, json code = .error fault → ∃ l ∈ libraries, ∃ before sql,
      before ++ [sql] <+: blocks ∧ Passes before l ∧ ∃ table ∈ l.sought before,
        Refused table fault) ∧
    ((∀ l ∈ libraries, ∀ table ∈ l.sought [], Literal table) →
      ∃ described, json code = .ok described) := by
  intro libraries blocks
  refine ⟨?_, fun described h ↦ ?_, fun fault h ↦ ?_, fun h ↦ ?_⟩
  · rw [exists_json_iff_passes]
    exact forall₂_congr fun l hl ↦ (isTeradata_of_mem_ofTeradataAll hl).passes_iff
  · obtain ⟨report, hreport, rfl⟩ := json_eq_ok.mp h
    have hread := ofJson_document true true report [] (by simp)
    rw [List.append_nil] at hread
    exact ⟨report, hreport, hread⟩
  · obtain ⟨l, hl, before, sql, hb, hpass, hfault⟩ :=
      exists_of_fault_scanBlocks (json_eq_error.mp h)
    rcases List.mem_append.mp hl with hl | hl
    · have hnone := (passes_concat.mp ((isGeneric_of_mem_generic hl).passes (before ++ [sql]))).2
      cases hfault.symm.trans hnone
    · have hl' := isTeradata_of_mem_ofTeradataAll hl
      obtain ⟨table, htable, hrefused⟩ := exists_of_fault_scan (hl'.scanEach_kind before) hfault
      exact ⟨l, hl, before, sql, hb, hpass, table, (hl'.mem_sought hpass).mpr htable, hrefused⟩
  · refine exists_json_iff_passes.mpr fun l hl ↦ ?_
    have hl' := isTeradata_of_mem_ofTeradataAll hl
    have hnone : Passes [] l := trivial
    refine passes_of_literal hl'.kind_eq (fun table htable ↦ h l hl table ?_) _
    exact (hl'.mem_sought hnone).mpr htable

/-- The schema is that of a macro variable. -/
theorem exists_json_iff_variable :
    let code : Text := "%let s=d;libname t teradata schema=&s;proc sql;join t.x quit;"
    (∀ l ∈ ofTeradataAll (Variables.addCode [] code) code, ∀ table ∈ l.sought [], Literal table) ∧
      ∃ described report, json code = .ok described ∧ ofCode code = .ok report ∧
        Value.ofJson described = .ok (value report) := by
  intro code
  have hliteral : ∀ l ∈ ofTeradataAll (Variables.addCode [] code) code,
      ∀ table ∈ l.sought [], Literal table := by
    let name : Text := "t"
    let schema : Text := "d"
    let l : Library := ⟨schema, "TERADATA", "schema=&s", [⟨some name, []⟩]⟩
    have hlibraries : ofTeradataAll (Variables.addCode [] code) code = [l] := by decide +kernel
    have hsought : l.sought [] = [some name, some schema] := by decide +kernel
    rw [hlibraries, List.forall_mem_singleton, hsought]
    intro table htable
    rcases List.mem_pair.mp htable with rfl | rfl
    · exact ⟨_, rfl, List.forall_mem_singleton.mpr (by decide)⟩
    · exact ⟨_, rfl, List.forall_mem_singleton.mpr (by decide)⟩
  obtain ⟨-, hread, -, hdescribed⟩ := exists_json_iff code
  obtain ⟨described, hjson⟩ := hdescribed hliteral
  obtain ⟨report, hreport, hvalue⟩ := hread described hjson
  exact ⟨hliteral, described, report, hjson, hreport, hvalue⟩

/-- A schema that is written with a macro call ends at the first blank, and the parenthesis that it
is left with opens a group in the forms. -/
theorem exists_json_eq_error : ∃ code fault, json code = .error fault ∧
    fault.message = "missing ), unterminated subpattern at position 22" := by
  let code : Text := "libname t teradata schema=%trim( s );proc sql;quit;"
  let fault : Fault := .pattern
    ⟨.unterminatedGroup, some 22, "select\\s+.*?\\s+from\\s+(?:%trim(\\.)(\\w+)"⟩
  exact ⟨code, fault, json_eq_error.mpr (by decide +kernel), by decide +kernel⟩

end DatabaseAnalysis

end SasMigration
