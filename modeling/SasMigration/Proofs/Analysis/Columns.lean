import SasMigration.Proofs.Analysis.Sources
import SasMigration.Proofs.Pattern.Leading
import SasMigration.Proofs.Value.Association

namespace SasMigration

namespace DataSet

open Pattern ReadPattern
open Text (IsRun isWord sameLetter)

variable {code name : Text}

/-- What a character in the name of a data set stands for: a point for every character of a line,
any other for itself in each letter case. -/
def StandsFor (a b : Char) : Prop := if a = '.' then b ≠ '\n' else sameLetter a b

instance : DecidableRel StandsFor := fun a b ↦
  inferInstanceAs (Decidable (if a = '.' then b ≠ '\n' else sameLetter a b))

/-- A column of a program, after a point and a text that the name of a data set stands for. -/
structure Mention (code name : Text) where
  before : Text
  written : Text
  column : Text
  after : Text
  code_eq : code = before ++ (written ++ '.' :: (column ++ after))
  standsFor : List.Forall₂ StandsFor name written
  isRun : IsRun column
  isWord_head : ∀ c, after.head? = some c → isWord c = false

namespace Mention

variable (a : Mention code name)

def text : Text := a.written ++ '.' :: a.column

def start : Nat := a.before.length

def stop : Nat := a.start + a.text.length

theorem code_eq_text : code = a.before ++ (a.text ++ a.after) := by
  rw [text, List.append_assoc]
  exact a.code_eq

theorem getElem?_start_add : code[a.start + a.written.length]? = some '.' := by
  have hcode := congrArg (·[a.start + a.written.length]?) a.code_eq
  simpa [start] using hcode

theorem eq_of_start_eq {a a' : Mention code name} (h : a.start = a'.start) : a = a' := by
  obtain ⟨before, written, column, after, hcode, hname, hrun, hhead⟩ := a
  obtain ⟨before', written', column', after', hcode', hname', hrun', hhead'⟩ := a'
  obtain ⟨rfl, hrest⟩ := List.append_inj (hcode.symm.trans hcode') h
  have hlength := hname.length_eq.symm.trans hname'.length_eq
  obtain ⟨rfl, hpoint⟩ := List.append_inj hrest hlength
  obtain ⟨rfl, rfl⟩ := Text.eq_of_append_run hrun.word hrun'.word hhead hhead'
    (List.cons.inj hpoint).2
  rfl

end Mention

/-! The pattern that is made of a name -/

def setFor (c : Char) : CharSet := if c = '.' then .notNewline else .letter c .folded

theorem holds_setFor {a b : Char} : (setFor a).holds b ↔ StandsFor a b := by
  rw [setFor, StandsFor]
  by_cases ha : a = '.'
  · simp [ha, CharSet.holds]
  · simp [ha, CharSet.holds, LetterCase.same]

def columnSet : CharSet := .ofItems false .folded [.kind .word false false]

theorem holds_columnSet (c : Char) : columnSet.holds c = isWord c := by
  simp [columnSet, CharSet.holds, ClassItem.holds, CharKind.holds]

def columnPattern (name : Text) : Pattern :=
  .inOrder ((name.map setFor).map .one ++
    [.one (.letter '.' .folded), .group 1 (.span .longest 1 none columnSet)])

theorem IsName.reads {depth : Nat} (h : IsName name) :
    Reads Fits .anyCase depth name (name.map fun c ↦ single (setFor c)).reverse := by
  induction name with
  | nil => exact (reads_letters .anyCase depth (by simp)).fits
  | cons c rest ih =>
    obtain ⟨hc, hrest⟩ := List.forall_mem_cons.mp h
    have hfirst : Reads Fits .anyCase depth [c] [single (setFor c)] := by
      by_cases hpoint : c = '.'
      · rw [hpoint]
        exact reads_dot.fits
      · have hspecial := Text.notMem_special (hc.resolve_right hpoint)
        have hletter := reads_letters (w := [c]) .anyCase depth (by simpa using hspecial)
        rw [setFor, if_neg hpoint]
        exact hletter.fits
    rw [List.map_cons, List.reverse_cons]
    by_cases hnil : rest = []
    · rw [hnil]
      exact hfirst
    · exact hfirst.append (ih hrest) (IsName.fits hrest) hnil

theorem IsName.read_eq (h : IsName name) :
    Pattern.read .anyCase (name ++ "\\.([\\w]+)") = .ok ⟨columnPattern name, 1⟩ := by
  have hpoint : Reads Fits .anyCase 0 ['\\', '.'] [single (.letter '.' .folded)] :=
    (reads_escape rfl).fits
  have hname := h.reads.append hpoint (by decide) (by decide)
  have hplus : ('+', 1, none) ∈ quantifiers := by decide
  have hclass : Reads Whole .anyCase 2 ['[', '\\', 'w', ']'] [single columnSet] := reads_wordClass
  have hread := read_capture hname (hclass.longest rfl hplus) rfl (by decide) ?_ ?_
  · have hwritten : name ++ ['\\', '.'] ++ '(' :: (['[', '\\', 'w', ']'] ++ ['+'] ++ [')']) =
        name ++ "\\.([\\w]+)" := List.append_assoc _ _ _
    rw [hwritten] at hread
    rw [hread, columnPattern]
    simp only [List.reverse_append, List.reverse_reverse, List.map_append, List.map_map,
      List.append_assoc]
    rfl
  · intro item hitem
    simp only [List.mem_append, List.mem_singleton, List.mem_reverse, List.mem_map] at hitem
    rcases hitem with rfl | ⟨c, -, rfl⟩
    · rfl
    · rfl
  · intro item hitem
    rw [List.mem_singleton.mp hitem]
    rfl

/-! The mentions that are found -/

theorem Mention.leads (a : Mention code name) :
    (columnPattern name).Leads a.text a.after [(1, a.column)] := by
  have hword : (span .longest 1 none columnSet).Leads a.column a.after [] := by
    refine leads_longest (List.length_pos_iff.mpr a.isRun.ne_nil) (fun c hc ↦ ?_) fun c hc ↦ ?_
    · rw [holds_columnSet]
      exact a.isRun.word c hc
    · rw [holds_columnSet]
      exact a.isWord_head c hc
  have hcolumn : (inOrder [.group 1 (.span .longest 1 none columnSet)]).Leads a.column a.after
      [(1, a.column)] := hword.group 1
  have hpoint : List.Forall₂ (fun (set : CharSet) c ↦ set.holds c) [.letter '.' .folded] ['.'] :=
    .cons (by decide) .nil
  have hname : List.Forall₂ (fun (set : CharSet) c ↦ set.holds c) (name.map setFor) a.written := by
    rw [List.forall₂_map_left_iff]
    exact a.standsFor.imp fun _ _ ↦ holds_setFor.mpr
  exact (hcolumn.after_ones hpoint).after_ones hname

theorem consumes_columnPattern (name : Text) : (columnPattern name).Consumes := by
  intro s e he
  obtain ⟨v, t, hv, -, he⟩ := exists_of_mem_ends_ones he
  obtain ⟨u, hu, he⟩ := mem_ends_inOrder_cons.mp he
  obtain ⟨c, rest, hafter, -, rfl⟩ := mem_ends_one.mp hu
  obtain ⟨w, hw⟩ := takes_of_mem_ends he
  rw [hw.index_eq, (Cursor.Takes.step hafter).index_eq, hv.index_eq, List.length_singleton]
  omega

theorem Mention.exists_matchAt (a : Mention code name) :
    ∃ m, (columnPattern name).matchAt false (.between a.before (a.text ++ a.after)) = some m ∧
      m.start = a.start ∧ m.stop = a.stop ∧ m.group 1 = some a.column := by
  obtain ⟨m, hm, htext, hgroups⟩ := a.leads.exists_matchAt
    (a.before.length + (a.text ++ a.after).length) a.before.length a.before.reverse
  obtain ⟨e, -, w, -, heq⟩ := matchAt_eq_some hm
  have hstart : m.start = a.start := by
    rw [heq]
    rfl
  exact ⟨m, hm, hstart, by rw [Match.stop, hstart, htext]; rfl, hgroups 1⟩

theorem exists_mention_of_mem_findAll {m : Match} (h : m ∈ (columnPattern name).findAll code) :
    ∃ a : Mention code name, m.start = a.start ∧ m.stop = a.stop ∧ m.group 1 = some a.column := by
  obtain ⟨before, rest, nonEmpty, hcode, hm⟩ := matchedFrom_of_mem_findFrom h
  rw [(consumes_columnPattern name).matchAt_eq, hcode, between_eq] at hm
  obtain ⟨e, he, -⟩ := matchAt_eq_some hm
  obtain ⟨written, t, hwritten, hsets, he⟩ := exists_of_mem_ends_ones he
  obtain ⟨u, hu, he⟩ := mem_ends_inOrder_cons.mp he
  obtain ⟨point, more, hmore, hpoint, rfl⟩ := mem_ends_one.mp hu
  obtain rfl : point = '.' := Text.eq_point_of_sameLetter hpoint
  obtain ⟨w, hw, -⟩ := List.mem_map.mp he
  obtain ⟨v, hv⟩ := takes_of_mem_ends hw
  obtain ⟨hlow, hword⟩ := holds_of_mem_ends_span hw hv
  -- the column is the whole word, of which the way may have taken a part
  obtain ⟨c, v, rfl⟩ := List.exists_cons_of_ne_nil (List.ne_nil_of_length_pos hlow)
  have hc : isWord c := by
    rw [← holds_columnSet]
    exact hword c List.mem_cons_self
  obtain ⟨column, after, hsplit, hcolumn, hhead⟩ := Text.exists_run (t := more)
    (by rw [show more = _ from hv.after_eq]; rfl) hc
  have hrest : rest = written ++ '.' :: (column ++ after) := by
    rw [← hsplit, ← hmore]
    exact hwritten.after_eq
  rw [List.forall₂_map_left_iff] at hsets
  let a : Mention code name := ⟨before, written, column, after, hrest ▸ hcode,
    hsets.imp fun _ _ ↦ holds_setFor.mp, hcolumn, hhead⟩
  obtain ⟨m', hm', hstart, hstop, hgroup⟩ := a.exists_matchAt
  have htext : a.text ++ a.after = rest := by
    rw [Mention.text, List.append_assoc, hrest]
    rfl
  rw [htext] at hm'
  obtain rfl : m = m' := Option.some.inj (hm.symm.trans hm')
  exact ⟨a, hstart, hstop, hgroup⟩

theorem exists_found (code name : Text) :
    ∃ found : Set (Mention code name),
      (∀ a, a ∈ found ↔ ∀ a' ∈ found, a'.start < a.start → a'.stop ≤ a.start) ∧
      ∀ v, v ∈ (columnPattern name).captures 1 code ↔ ∃ a ∈ found, a.column = v := by
  refine ⟨{a | ∃ m ∈ (columnPattern name).findAll code, m.start = a.start}, fun a ↦ ?_, fun v ↦ ?_⟩
  · constructor
    · rintro ⟨m, hm, hstart⟩ a' ⟨m', hm', hstart'⟩ hlt
      obtain ⟨a₁, hstart₁, hstop₁, -⟩ := exists_mention_of_mem_findAll hm'
      obtain rfl := Mention.eq_of_start_eq (hstart₁.symm.trans hstart')
      rw [← hstop₁, ← hstart]
      exact stop_le_of_start_lt hm' hm (by rwa [hstart, hstart'])
    · intro hfree
      obtain ⟨m, hat, -⟩ := a.exists_matchAt
      obtain ⟨m', hm', hle, hlt, -⟩ := (consumes_columnPattern name).exists_mem_findAll hat
      rw [← a.code_eq_text] at hm'
      obtain ⟨a', hstart', hstop', -⟩ := exists_mention_of_mem_findAll hm'
      have hover : a.start < a'.stop := hstop' ▸ hlt
      have hbefore : a'.start ≤ a.start := hstart' ▸ hle
      refine ⟨m', hm', ?_⟩
      by_contra hne
      have hstop := hfree a' ⟨m', hm', hstart'⟩ (by omega)
      omega
  · rw [captures, List.mem_map]
    constructor
    · rintro ⟨m, hm, rfl⟩
      obtain ⟨a, hstart, -, hgroup⟩ := exists_mention_of_mem_findAll hm
      exact ⟨a, ⟨m, hm, hstart⟩, by rw [hgroup, Option.getD_some]⟩
    · rintro ⟨a, ⟨m, hm, hstart⟩, rfl⟩
      obtain ⟨a', hstart', -, hgroup⟩ := exists_mention_of_mem_findAll hm
      obtain rfl := Mention.eq_of_start_eq (hstart'.symm.trans hstart)
      exact ⟨m, hm, by rw [hgroup, Option.getD_some]⟩

/-! Columns in the report -/

theorem mem_columns_iff (h : IsName name) {found : List (List Text)}
    (hfound : columns code name = .ok found) {ts : List Text} :
    ts ∈ found ↔ ∃ v ∈ (columnPattern name).captures 1 code, ts = [v] := by
  rw [columns, h.read_eq] at hfound
  obtain rfl := Except.ok.inj hfound
  rw [List.mem_mergeSort, Text.mem_firstOccurrences, List.mem_map]
  constructor
  · rintro ⟨m, hm, rfl⟩
    exact ⟨_, List.mem_map_of_mem hm, rfl⟩
  · rintro ⟨v, hv, rfl⟩
    obtain ⟨m, hm, rfl⟩ := List.mem_map.mp hv
    exact ⟨m, hm, rfl⟩

theorem mem_schemas_iff {names : List Text} {found : List Schema}
    (h : schemas code names = .ok found) {s : Schema} :
    s ∈ found ↔ s.dataSet ∈ names ∧ columns code s.dataSet = .ok s.columns ∧ s.columns ≠ [] := by
  induction names generalizing found with
  | nil =>
    obtain rfl := Except.ok.inj h
    simp
  | cons name names ih =>
    rw [schemas] at h
    cases hcolumns : columns code name with
    | error fault =>
      rw [hcolumns] at h
      cases h
    | ok columnsFound =>
      cases hmore : schemas code names with
      | error fault =>
        rw [hcolumns, hmore] at h
        cases h
      | ok more =>
        rw [hcolumns, hmore] at h
        have hfound : found = if columnsFound.isEmpty then more
            else ⟨name, columnsFound⟩ :: more := (Except.ok.inj h).symm
        have hhere : s.dataSet = name ∧ columns code s.dataSet = .ok s.columns ∧ s.columns ≠ [] ↔
            s = ⟨name, columnsFound⟩ ∧ columnsFound ≠ [] := by
          constructor
          · rintro ⟨rfl, hs, hne⟩
            obtain rfl := Except.ok.inj (hcolumns.symm.trans hs)
            exact ⟨rfl, hne⟩
          · rintro ⟨rfl, hne⟩
            exact ⟨rfl, hcolumns, hne⟩
        rw [List.mem_cons, or_and_right, hhere, ← ih hmore, hfound]
        by_cases hnil : columnsFound = []
        · simp [hnil]
        · simp [hnil]

/-- A text stands at a place of a program, in some letter case. -/
def WrittenAt (code t : Text) (place : Nat) : Prop :=
  List.Forall₂ (fun a b ↦ sameLetter a b) t ((code.drop place).take t.length)

instance (code t : Text) : DecidablePred (WrittenAt code t) := fun place ↦
  inferInstanceAs (Decidable (List.Forall₂ _ t ((code.drop place).take t.length)))

theorem WrittenAt.lt_length {t : Text} {place : Nat} (h : WrittenAt code t place) (ht : t ≠ []) :
    place < code.length := by
  have hlength := h.length_eq
  have hpos := List.length_pos_iff.mpr ht
  rw [List.length_take, List.length_drop] at hlength
  omega

theorem Mention.writtenAt (a : Mention code name) (h : '.' ∉ name) :
    WrittenAt code (name ++ '.' :: a.column) a.start := by
  have hlength : (name ++ '.' :: a.column).length = a.text.length := by
    simp [text, a.standsFor.length_eq]
  have hdrop : code.drop a.start = a.text ++ a.after :=
    (congrArg (List.drop a.start) a.code_eq_text).trans List.drop_left
  rw [WrittenAt, hdrop, hlength, List.take_left]
  have hname : List.Forall₂ (fun c d ↦ c ≠ '.' ∧ StandsFor c d) name a.written :=
    (List.forall₂_and_left name a.written).mpr
      ⟨fun c hc ↦ ne_of_mem_of_not_mem hc h, a.standsFor⟩
  refine List.rel_append (hname.imp fun c d hcd ↦ ?_) (.cons (by decide) (List.forall₂_same.mpr ?_))
  · have hstands := hcd.2
    rwa [StandsFor, if_neg hcd.1] at hstands
  · exact fun c _ ↦ Text.sameLetter_self c

end DataSet

namespace SourceAnalysis

open DataSet
open Text (isWord)

variable {code d v : Text}

def Listed (fields : Fields) (d v : Text) : Prop :=
  ∃ (schemas : Fields) (items : List Value) (column : Fields),
    fields.get? "schemas" = some (.object schemas) ∧ schemas.get? d = some (.list items) ∧
      .object column ∈ items ∧ column.get? "name" = some (.text v)

theorem get?_columnValue {ts : List Text} {column : Fields}
    (h : Schema.columnValue ts = .object column) :
    column.get? "name" = some (.text v) ↔ ts = [v] := by
  cases ts with
  | nil =>
    cases h
    simp [Fields.get?, Value.texts]
  | cons t ts =>
    cases ts with
    | nil =>
      cases h
      simp [Fields.get?]
    | cons u ts =>
      cases h
      simp [Fields.get?, Value.texts]

theorem listed_iff {names : List Text} {schemas : List Schema} (model : ChatModel)
    (h : DataSet.schemas code names = .ok schemas) :
    Listed (findings code schemas ++ advice model) d v ↔
      ∃ s ∈ schemas, s.dataSet = d ∧ [v] ∈ s.columns := by
  have hget : Fields.get? (findings code schemas ++ advice model) "schemas" =
      some (Schema.toValue schemas) := get?_append_advice model rfl
  -- the columns are determined by the data set, so it does not matter which entry is found
  have hsame : ∀ f ∈ (schemas.map Schema.field).reverse, ∀ g ∈ (schemas.map Schema.field).reverse,
      f.1 = g.1 → f.2 = g.2 := by
    intro f hf g hg hfg
    obtain ⟨s, hs, rfl⟩ := List.mem_map.mp (List.mem_reverse.mp hf)
    obtain ⟨s', hs', rfl⟩ := List.mem_map.mp (List.mem_reverse.mp hg)
    have hcolumns := ((mem_schemas_iff h).mp hs).2.1
    have hcolumns' := ((mem_schemas_iff h).mp hs').2.1
    rw [show s.dataSet = s'.dataSet from hfg, hcolumns'] at hcolumns
    rw [Schema.field, Schema.field, Except.ok.inj hcolumns]
  have hentry (w : Value) : (Fields.putAll [] (schemas.map Schema.field)).get? d = some w ↔
      ∃ s ∈ schemas, s.dataSet = d ∧ .list (s.columns.map Schema.columnValue) = w := by
    rw [Fields.get?_putAll, show Fields.get? [] d = none from rfl, Option.or_none,
      Fields.get?_eq_some_iff hsame, List.mem_reverse, List.mem_map]
    simp only [Schema.field, Prod.mk.injEq]
  constructor
  · rintro ⟨all, items, column, hall, hitems, hcolumn, hname⟩
    obtain rfl : Fields.putAll [] (schemas.map Schema.field) = all :=
      Value.object.inj (Option.some.inj (hget.symm.trans hall))
    obtain ⟨s, hs, hd, hlist⟩ := (hentry _).mp hitems
    rw [← Value.list.inj hlist] at hcolumn
    obtain ⟨ts, hts, hvalue⟩ := List.mem_map.mp hcolumn
    rw [(get?_columnValue hvalue).mp hname] at hts
    exact ⟨s, hs, hd, hts⟩
  · rintro ⟨s, hs, hd, hv⟩
    exact ⟨_, _, _, hget, (hentry _).mpr ⟨s, hs, hd, rfl⟩, List.mem_map_of_mem hv, rfl⟩

/-- The analysis of sources always ends. Of a data set that a program names those columns are listed
that are mentioned, in the order of the program, after a text that the name stands for, unless such
a mention found before reaches over it; columns are listed for no other data sets. If there is no
point in the name, each of its columns is written in the program with the name in front. -/
theorem listed_iff_mention (model : ChatModel) (code : Text) :
    ∃ fields, ofCode model code = .ok fields ∧
      fields.get? "datasets" = some (.texts (DataSet.names code)) ∧
      (∀ d v, Listed fields d v → d ∈ DataSet.names code) ∧
      ∀ d ∈ DataSet.names code,
        (∃ found : Set (DataSet.Mention code d),
          (∀ a, a ∈ found ↔ ∀ a' ∈ found, a'.start < a.start → a'.stop ≤ a.start) ∧
          ∀ v, Listed fields d v ↔ ∃ a ∈ found, a.column = v) ∧
        ('.' ∉ d → ∀ v, Listed fields d v → ∃ place, WrittenAt code (d ++ '.' :: v) place) := by
  obtain ⟨schemas, hschemas, hofCode⟩ := exists_ofCode_eq code
  refine ⟨_, hofCode model, get?_append_advice model rfl, ?_, ?_⟩
  · intro d v hlisted
    obtain ⟨s, hs, rfl, -⟩ := (listed_iff model hschemas).mp hlisted
    exact ((mem_schemas_iff hschemas).mp hs).1
  · intro d hd
    obtain ⟨found, hfound, hcaptures⟩ := exists_found code d
    have hname := isName_of_mem_names hd
    have hlisted (v : Text) : Listed (findings code schemas ++ advice model) d v ↔
        ∃ a ∈ found, a.column = v := by
      obtain ⟨columns, hcolumns⟩ := hname.exists_columns code
      rw [listed_iff model hschemas, ← hcaptures]
      constructor
      · rintro ⟨s, hs, rfl, hv⟩
        obtain ⟨w, hw, hvw⟩ := (mem_columns_iff hname ((mem_schemas_iff hschemas).mp hs).2.1).mp hv
        rwa [(List.cons.inj hvw).1]
      · intro hv
        have hmem := (mem_columns_iff hname hcolumns).mpr ⟨v, hv, rfl⟩
        exact ⟨⟨d, columns⟩, (mem_schemas_iff hschemas).mpr ⟨hd, hcolumns, List.ne_nil_of_mem hmem⟩,
          rfl, hmem⟩
    refine ⟨⟨found, hfound, hlisted⟩, fun hpoint v hv ↦ ?_⟩
    obtain ⟨a, -, rfl⟩ := (hlisted v).mp hv
    exact ⟨a.start, a.writtenAt hpoint⟩

/-- Of two mentions of which one reaches into the other, only the first is found. -/
theorem listed_iff_mention_first :
    let code : Text := "set a; A.a.b"
    let d : Text := "a"
    d ∈ DataSet.names code ∧ '.' ∉ d ∧
      ∃ fields, ofCode .absent code = .ok fields ∧ Listed fields d "a" ∧ ¬ Listed fields d "b" ∧
        ∃ place, WrittenAt code (d ++ '.' :: "a") place := by
  intro code d
  have hd : d ∈ DataSet.names code := by decide +kernel
  have hpoint : '.' ∉ d := by decide
  obtain ⟨fields, hofCode, -, -, hall⟩ := listed_iff_mention .absent code
  obtain ⟨⟨found, hfound, hlisted⟩, hwritten⟩ := hall d hd
  have hhead : ∀ c, (".b" : Text).head? = some c → isWord c = false := by
    intro c hc
    cases hc
    rfl
  let a : DataSet.Mention code d := ⟨"set a; ", "A", "a", ".b", rfl, by decide, by decide, hhead⟩
  have hplaces (a' : DataSet.Mention code d) : a'.start = 7 ∨ a'.start = 9 := by
    have hget := a'.getElem?_start_add
    rw [← a'.standsFor.length_eq] at hget
    obtain ⟨hlt, -⟩ := List.getElem?_eq_some_iff.mp hget
    have hpoints : ∀ n < code.length, code[n + d.length]? = some '.' → n = 7 ∨ n = 9 := by decide
    exact hpoints _ (Nat.lt_of_le_of_lt (Nat.le_add_right _ _) hlt) hget
  have hstart : a.start = 7 := rfl
  have ha : a ∈ found := by
    rw [hfound]
    intro a' _ hlt
    have hplace := hplaces a'
    omega
  have hfirst : Listed fields d "a" := (hlisted "a").mpr ⟨a, ha, rfl⟩
  refine ⟨hd, hpoint, fields, hofCode, hfirst, fun hsecond ↦ ?_, hwritten hpoint _ hfirst⟩
  obtain ⟨a', ha', hcolumn⟩ := (hlisted "b").mp hsecond
  rcases hplaces a' with hplace | hplace
  · rw [DataSet.Mention.eq_of_start_eq (hplace.trans hstart.symm)] at hcolumn
    exact absurd (show ("a" : Text) = "b" from hcolumn) (by decide)
  · have hstop := (hfound a').mp ha' a ha (by omega)
    have hend : a.stop = 10 := rfl
    omega

theorem exists_listed {schemas : List Schema} {s : Schema}
    (h : DataSet.schemas code (DataSet.names code) = .ok schemas) (hs : s ∈ schemas)
    (hv : [v] ∈ s.columns) :
    ∃ fields, ofCode .absent code = .ok fields ∧ s.dataSet ∈ DataSet.names code ∧
      Listed fields s.dataSet v := by
  obtain ⟨schemas', hschemas', hofCode⟩ := exists_ofCode_eq code
  obtain rfl : schemas = schemas' := Except.ok.inj (h.symm.trans hschemas')
  exact ⟨_, hofCode .absent, ((mem_schemas_iff h).mp hs).1, (listed_iff .absent h).mpr
    ⟨s, hs, rfl, hv⟩⟩

/-- A column can be listed that is not written in the program after the name of its data set, since
a point in the name stands for a letter; and one that is written only after the end of a word. -/
theorem exists_listed_not_written :
    (∃ (code d v : Text) (fields : Fields), ofCode .absent code = .ok fields ∧
      d ∈ DataSet.names code ∧ Listed fields d v ∧
        ∀ place, ¬ WrittenAt code (d ++ '.' :: v) place) ∧
    ∃ (code d v : Text) (fields : Fields), ofCode .absent code = .ok fields ∧
      d ∈ DataSet.names code ∧ Listed fields d v ∧ ∀ place, WrittenAt code (d ++ '.' :: v) place →
        ∃ c, (code.take place).getLast? = some c ∧ isWord c := by
  constructor
  · let code : Text := "set a.b; axb.c"
    let s : Schema := ⟨"a.b", [["c"]]⟩
    have hschemas : DataSet.schemas code (DataSet.names code) = .ok [s] := by decide +kernel
    obtain ⟨fields, hofCode, hname, hlisted⟩ := exists_listed hschemas
      (List.mem_singleton_self s) (List.mem_singleton_self _)
    refine ⟨code, s.dataSet, "c", fields, hofCode, hname, hlisted, fun place hplace ↦ ?_⟩
    have hall : ∀ place < code.length, ¬ WrittenAt code (s.dataSet ++ '.' :: "c") place := by
      decide +kernel
    exact hall place (hplace.lt_length (by simp)) hplace
  · let code : Text := "set a; ba.x"
    let s : Schema := ⟨"a", [["x"]]⟩
    have hschemas : DataSet.schemas code (DataSet.names code) = .ok [s] := by decide +kernel
    obtain ⟨fields, hofCode, hname, hlisted⟩ := exists_listed hschemas
      (List.mem_singleton_self s) (List.mem_singleton_self _)
    refine ⟨code, s.dataSet, "x", fields, hofCode, hname, hlisted, fun place hplace ↦ ?_⟩
    have hall : ∀ place < code.length, WrittenAt code (s.dataSet ++ '.' :: "x") place →
        place = 8 := by
      decide +kernel
    rw [hall place (hplace.lt_length (by simp)) hplace]
    exact ⟨'b', by decide, by decide⟩

end SourceAnalysis

end SasMigration
