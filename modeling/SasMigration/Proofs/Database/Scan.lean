import Mathlib.Data.List.Induction
import SasMigration.Proofs.Database.Facts

namespace SasMigration

/-- Looking for a name in an SQL block finds a mention. -/
def Mention.Found (name sql : Text) (m : Mention) : Prop :=
  ∃ found, Mention.ofName name sql = .ok found ∧ m ∈ found

theorem Mention.found_iff {name sql : Text} {found : List Mention} {m : Mention}
    (h : Mention.ofName name sql = .ok found) : Mention.Found name sql m ↔ m ∈ found := by
  constructor
  · rintro ⟨found', h', hm⟩
    obtain rfl := Except.ok.inj (h.symm.trans h')
    exact hm
  · intro hm
    exact ⟨found, h, hm⟩

namespace TableUse

variable {sql : Text} {ts found : List TableUse} {table : Option Text} {op : Operation}

def names (ts : List TableUse) : List (Option Text) := ts.map TableUse.table

/-- A name that can be looked for in an SQL block. -/
def Searchable (sql : Text) (table : Option Text) : Prop :=
  ∃ name found, table = some name ∧ Mention.ofName name sql = .ok found

theorem names_cons (t : TableUse) : names (t :: ts) = t.table :: names ts := rfl

theorem mem_names_of_has (h : Has ts table op) : table ∈ names ts := by
  obtain ⟨t, ht, rfl, -⟩ := h
  exact List.mem_map_of_mem ht

theorem mem_names_merge {name : Option Text} {operations : List Operation} :
    table ∈ names (merge name operations ts) ↔ table ∈ names ts ∨ table = name := by
  rw [names, map_table_merge]
  split
  · next h =>
    constructor
    · exact .inl
    · rintro (h' | rfl)
      · exact h'
      · exact h
  · rw [List.mem_append, List.mem_singleton]
    rfl

theorem mem_names_mergeAll :
    table ∈ names (mergeAll ts found) ↔ table ∈ names ts ∨ table ∈ names found := by
  induction found generalizing ts with
  | nil => simp [mergeAll, names]
  | cons t found ih =>
    rw [mergeAll, List.foldl_cons]
    exact ih.trans (by rw [mem_names_merge, or_assoc, names_cons, List.mem_cons])

theorem mem_names_ofMentions {mentions : List Mention} :
    table ∈ names (ofMentions mentions) ↔ ∃ op, ⟨table, op⟩ ∈ mentions := by
  have h (ts : List TableUse) :
      table ∈ names (mentions.foldl (fun ts m ↦ merge m.table [m.operation] ts) ts) ↔
        table ∈ names ts ∨ ∃ op, ⟨table, op⟩ ∈ mentions := by
    induction mentions generalizing ts with
    | nil => simp
    | cons m mentions ih =>
      have hm : (∃ op, (⟨table, op⟩ : Mention) = m) ↔ table = m.table := by
        cases m
        simp [eq_comm]
      simp only [List.foldl_cons, ih, mem_names_merge, List.mem_cons, exists_or, hm, or_assoc]
  exact (h []).trans (or_iff_right List.not_mem_nil)

theorem mentions_eq_ok {t : TableUse} {found : List Mention} :
    t.mentions sql = .ok found ↔
      ∃ name, t.table = some name ∧ Mention.ofName name sql = .ok found := by
  rw [mentions]
  cases t.table with
  | none => simp
  | some name => simp

theorem fault_scan : (scan sql ts).2.2 = none ↔ ∀ table ∈ names ts, Searchable sql table := by
  induction ts with
  | nil => simp [scan, names]
  | cons t ts ih =>
    rw [names_cons, List.forall_mem_cons, ← ih, scan]
    cases hm : t.mentions sql with
    | error fault =>
      refine iff_of_false (Option.some_ne_none fault) ?_
      rintro ⟨⟨name, found, ht, hname⟩, -⟩
      cases hm.symm.trans (mentions_eq_ok.mpr ⟨name, ht, hname⟩)
    | ok found =>
      obtain ⟨name, ht, hname⟩ := mentions_eq_ok.mp hm
      exact (and_iff_right ⟨name, found, ht, hname⟩).symm

theorem scan_cons (h : (scan sql ts).2.2 = none) {t : TableUse} {found : List Mention}
    (hm : t.mentions sql = .ok found) : scan sql (t :: ts) =
      (t.add (found.map Mention.operation) :: (scan sql ts).1, found ++ (scan sql ts).2.1,
        none) := by
  rw [scan, hm, ← h]

theorem mem_found_scan (h : (scan sql ts).2.2 = none) {m : Mention} :
    m ∈ (scan sql ts).2.1 ↔ ∃ name, some name ∈ names ts ∧ Mention.Found name sql m := by
  induction ts with
  | nil => simp [scan, names]
  | cons t ts ih =>
    obtain ⟨⟨name, found, ht, hname⟩, hts⟩ := List.forall_mem_cons.mp (fault_scan.mp h)
    have hrest := fault_scan.mpr hts
    rw [scan_cons hrest (mentions_eq_ok.mpr ⟨name, ht, hname⟩)]
    simp only [List.mem_append, ← Mention.found_iff hname, ih hrest, names_cons, ht, List.mem_cons,
      Option.some.injEq, or_and_right, exists_or, exists_eq_left]

theorem has_scan (h : (scan sql ts).2.2 = none) :
    Has (scan sql ts).1 table op ↔ Has ts table op ∨
      ∃ name, table = some name ∧ some name ∈ names ts ∧
        ∃ other, Mention.Found name sql ⟨other, op⟩ := by
  induction ts with
  | nil => simp [scan, names, has_nil]
  | cons t ts ih =>
    obtain ⟨⟨name, found, ht, hname⟩, hts⟩ := List.forall_mem_cons.mp (fault_scan.mp h)
    have hrest := fault_scan.mpr hts
    have hop : op ∈ found.map Mention.operation ↔ ∃ other, Mention.Found name sql ⟨other, op⟩ := by
      simp only [Mention.found_iff hname, List.mem_map]
      constructor
      · rintro ⟨m, hm, rfl⟩
        exact ⟨m.table, hm⟩
      · rintro ⟨other, hm⟩
        exact ⟨_, hm, rfl⟩
    rw [scan_cons hrest (mentions_eq_ok.mpr ⟨name, ht, hname⟩), has_cons, has_cons, ih hrest, add,
      mem_foldl_addOperation, hop, names_cons]
    simp only [List.mem_cons, ht, Option.some.injEq]
    constructor
    · rintro (⟨hname', hop | hfound⟩ | hhas | ⟨name', htable, hmem, hfound⟩)
      · exact .inl (.inl ⟨hname', hop⟩)
      · exact .inr ⟨name, hname'.symm, .inl rfl, hfound⟩
      · exact .inl (.inr hhas)
      · exact .inr ⟨name', htable, .inr hmem, hfound⟩
    · rintro ((⟨hname', hop⟩ | hhas) | ⟨name', htable, rfl | hmem, hfound⟩)
      · exact .inl ⟨hname', .inl hop⟩
      · exact .inr (.inl hhas)
      · exact .inl ⟨htable.symm, .inr hfound⟩
      · exact .inr (.inr ⟨name', htable, hmem, hfound⟩)

end TableUse

namespace Library

open TableUse (Has names Searchable)

variable {l l' : Library} {ls : List Library} {sql : Text} {blocks : List Text}
  {table : Option Text} {op : Operation}

/-- What an SQL block adds to the tables of a library. -/
inductive Adds (l : Library) (sql : Text) : Option Text → Operation → Prop
  | database {table : Option Text} {op : Operation}
    (h : Mention.Found l.database sql ⟨table, op⟩) : Adds l sql table op
  | table {name : Text} {table : Option Text} {op : Operation} (hname : some name ∈ names l.tables)
    (h : Mention.Found name sql ⟨table, op⟩) : Adds l sql table op
  | library {name : Text} {other : Option Text} {op : Operation}
    (hname : some name ∈ names l.tables) (h : Mention.Found name sql ⟨other, op⟩) :
    Adds l sql (some name) op

theorem Adds.of_known (hdatabase : l'.database = l.database)
    (hnames : ∀ name m, some name ∈ names l.tables → Mention.Found name sql m →
      some name ∈ names l'.tables) (h : l.Adds sql table op) : l'.Adds sql table op := by
  cases h with
  | database h => exact .database (hdatabase ▸ h)
  | table hname h => exact .table (hnames _ _ hname h) h
  | library hname h => exact .library (hnames _ _ hname h) h

theorem fault_scan (hkind : l.kind = teradata) : (l.scan sql).2 = none ↔
    (∀ table ∈ names l.tables, Searchable sql table) ∧
      ∃ more, Mention.ofName l.database sql = .ok more := by
  rw [← TableUse.fault_scan, scan, if_pos hkind]
  generalize TableUse.scan sql l.tables = r
  obtain ⟨tables, found, fault⟩ := r
  cases fault with
  | some fault => simp
  | none =>
    dsimp only
    cases Mention.ofName l.database sql <;> simp

theorem scan_of_fault (hkind : l.kind = teradata) (h : (l.scan sql).2 = none) :
    (TableUse.scan sql l.tables).2.2 = none ∧ ∃ more, Mention.ofName l.database sql = .ok more ∧
      (l.scan sql).1.tables = TableUse.mergeAll (TableUse.scan sql l.tables).1
        (TableUse.ofMentions ((TableUse.scan sql l.tables).2.1 ++ more)) := by
  obtain ⟨htables, more, hmore⟩ := (fault_scan hkind).mp h
  have hfault := TableUse.fault_scan.mpr htables
  refine ⟨hfault, more, hmore, ?_⟩
  rw [scan, if_pos hkind]
  dsimp only
  rw [hfault, hmore]

theorem has_scan (hkind : l.kind = teradata) (h : (l.scan sql).2 = none) :
    Has (l.scan sql).1.tables table op ↔ Has l.tables table op ∨ l.Adds sql table op := by
  obtain ⟨hfault, more, hmore, hscan⟩ := scan_of_fault hkind h
  rw [hscan, TableUse.has_mergeAll, TableUse.has_scan hfault, TableUse.has_ofMentions,
    List.mem_append, TableUse.mem_found_scan hfault, ← Mention.found_iff hmore, or_assoc]
  refine or_congr_right ?_
  constructor
  · rintro (⟨name, rfl, hname, other, hfound⟩ | ⟨name, hname, hfound⟩ | hfound)
    · exact .library hname hfound
    · exact .table hname hfound
    · exact .database hfound
  · intro hadds
    cases hadds with
    | database hfound => exact .inr (.inr hfound)
    | table hname hfound => exact .inr (.inl ⟨_, hname, hfound⟩)
    | library hname hfound => exact .inl ⟨_, rfl, hname, _, hfound⟩

theorem mem_names_scan (hkind : l.kind = teradata) (h : (l.scan sql).2 = none) :
    table ∈ names (l.scan sql).1.tables ↔
      table ∈ names l.tables ∨ ∃ op, l.Adds sql table op := by
  obtain ⟨hfault, more, hmore, hscan⟩ := scan_of_fault hkind h
  have hnames : names (TableUse.scan sql l.tables).1 = names l.tables :=
    TableUse.map_table_scan sql l.tables
  rw [hscan, TableUse.mem_names_mergeAll, TableUse.mem_names_ofMentions, hnames]
  simp only [List.mem_append, TableUse.mem_found_scan hfault, ← Mention.found_iff hmore]
  constructor
  · rintro (hname | ⟨op, ⟨name, hname, hfound⟩ | hfound⟩)
    · exact .inl hname
    · exact .inr ⟨op, .table hname hfound⟩
    · exact .inr ⟨op, .database hfound⟩
  · rintro (hname | ⟨op, hadds⟩)
    · exact .inl hname
    · cases hadds with
      | database hfound => exact .inr ⟨op, .inr hfound⟩
      | table hname hfound => exact .inr ⟨op, .inl ⟨_, hname, hfound⟩⟩
      | library hname hfound => exact .inl hname

theorem scan_eq (l : Library) (sql : Text) :
    (l.scan sql).1 = { l with tables := (l.scan sql).1.tables } := by
  rw [scan]
  generalize (if l.kind = teradata then TableUse.scan sql l.tables else (l.tables, [], none)) = r
  obtain ⟨tables, found, fault⟩ := r
  cases fault with
  | some fault => rfl
  | none =>
    dsimp only
    cases Mention.ofName l.database sql <;> rfl

theorem scanEach_eq (l : Library) (blocks : List Text) :
    l.scanEach blocks = { l with tables := (l.scanEach blocks).tables } := by
  induction blocks generalizing l with
  | nil => rfl
  | cons sql blocks ih =>
    rw [scanEach, List.foldl_cons, scan_eq]
    exact ih _

theorem scanEach_concat :
    l.scanEach (blocks ++ [sql]) = ((l.scanEach blocks).scan sql).1 := by
  rw [scanEach, List.foldl_concat]
  rfl

/-- All blocks are scanned without a fault. -/
def Passes : List Text → Library → Prop
  | [], _ => True
  | sql :: blocks, l => (l.scan sql).2 = none ∧ Passes blocks (l.scan sql).1

theorem passes_concat : Passes (blocks ++ [sql]) l ↔
    Passes blocks l ∧ ((l.scanEach blocks).scan sql).2 = none := by
  induction blocks generalizing l with
  | nil => exact and_comm
  | cons first blocks ih =>
    rw [List.cons_append, Passes, Passes, ih, and_assoc]
    rfl

theorem fault_scanAll : (scanAll sql ls).2 = none ↔ ∀ l ∈ ls, (l.scan sql).2 = none := by
  induction ls with
  | nil => simp [scanAll]
  | cons l ls ih =>
    rw [List.forall_mem_cons, ← ih, scanAll]
    generalize l.scan sql = r
    obtain ⟨l', fault⟩ := r
    cases fault <;> simp

theorem fault_scanBlocks : (scanBlocks ls blocks).2 = none ↔ ∀ l ∈ ls, Passes blocks l := by
  induction blocks generalizing ls with
  | nil => simp [scanBlocks, Passes]
  | cons sql blocks ih =>
    rw [scanBlocks]
    rcases hall : scanAll sql ls with ⟨ls', _ | fault⟩
    · have hnone : (scanAll sql ls).2 = none := by rw [hall]
      have hls' : ls' = ls.map fun l ↦ (l.scan sql).1 := by rw [← scanAll_eq_map hnone, hall]
      rw [ih, hls', List.forall_mem_map]
      exact forall₂_congr fun l hl ↦ (and_iff_right (fault_scanAll.mp hnone l hl)).symm
    · refine iff_of_false (Option.some_ne_none fault) fun h ↦ ?_
      have hnone := fault_scanAll.mpr fun l hl ↦ (h l hl).1
      rw [hall] at hnone
      cases hnone

/-- What is added to a library by a block is what the block adds to the library as the blocks before
it left it. -/
theorem has_scanEach (hkind : l.kind = teradata) (h : Passes blocks l) :
    Has (l.scanEach blocks).tables table op ↔ Has l.tables table op ∨
      ∃ before sql, before ++ [sql] <+: blocks ∧ (l.scanEach before).Adds sql table op := by
  induction blocks using List.reverseRecOn with
  | nil => simp [scanEach]
  | append_singleton blocks last ih =>
    obtain ⟨hblocks, hlast⟩ := passes_concat.mp h
    have hkind' : (l.scanEach blocks).kind = teradata := by rw [scanEach_eq, hkind]
    rw [scanEach_concat, has_scan hkind' hlast, ih hblocks, or_assoc]
    refine or_congr_right ?_
    constructor
    · rintro (⟨before, sql, hprefix, hadds⟩ | hadds)
      · exact ⟨before, sql, List.prefix_concat_iff.mpr (.inr hprefix), hadds⟩
      · exact ⟨blocks, last, List.prefix_rfl, hadds⟩
    · rintro ⟨before, sql, hprefix, hadds⟩
      rcases List.prefix_concat_iff.mp hprefix with he | hprefix
      · obtain ⟨rfl, rfl⟩ := List.append_singleton_inj.mp he
        exact .inr hadds
      · exact .inl ⟨before, sql, hprefix, hadds⟩

theorem mem_names_scanEach (hkind : l.kind = teradata) (h : Passes blocks l) :
    table ∈ names (l.scanEach blocks).tables ↔
      table ∈ names l.tables ∨ ∃ op, Has (l.scanEach blocks).tables table op := by
  induction blocks using List.reverseRecOn with
  | nil =>
    refine (or_iff_left_of_imp ?_).symm
    rintro ⟨op, hhas⟩
    exact TableUse.mem_names_of_has hhas
  | append_singleton blocks last ih =>
    obtain ⟨hblocks, hlast⟩ := passes_concat.mp h
    have hkind' : (l.scanEach blocks).kind = teradata := by rw [scanEach_eq, hkind]
    rw [scanEach_concat, mem_names_scan hkind' hlast, ih hblocks, or_assoc]
    simp only [has_scan hkind' hlast, exists_or]

theorem passes_of_isPrefix (h : Passes blocks l) {before : List Text} (hb : before <+: blocks) :
    Passes before l := by
  induction blocks using List.reverseRecOn with
  | nil => rwa [List.prefix_nil.mp hb]
  | append_singleton blocks last ih =>
    rcases List.prefix_concat_iff.mp hb with rfl | hb
    · exact h
    · exact ih (passes_concat.mp h).1 hb

theorem fault_scan_of_known (hkind : l.kind = teradata) (hkind' : l'.kind = teradata)
    (hdatabase : l'.database = l.database)
    (hnames : ∀ table ∈ names l'.tables, table ∈ names l.tables) (h : (l.scan sql).2 = none) :
    (l'.scan sql).2 = none := by
  obtain ⟨htables, hmore⟩ := (fault_scan hkind).mp h
  exact (fault_scan hkind').mpr
    ⟨fun table htable ↦ htables table (hnames table htable), hdatabase ▸ hmore⟩

end Library

end SasMigration
