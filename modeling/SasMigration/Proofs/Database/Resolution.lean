import Mathlib.Data.Nat.Find
import SasMigration.Proofs.Analysis.Libraries
import SasMigration.Proofs.Database.Independence
import SasMigration.Proofs.Pattern.Leading
import SasMigration.Proofs.Text.Lines

namespace SasMigration

open Text

/-- A statement that defines a variable: the keyword in any letter case, the name, an equals sign
and a text up to the semicolon, if only a blank. -/
structure VariableDefinition where
  keyword : Text
  gap : Text
  name : Text
  nameGap : Text
  body : Text
  same_keyword : List.Forall₂ (fun a c ↦ LetterCase.folded.same a c) "%let".toList keyword
  isGap_gap : IsGap gap
  isRun_name : IsRun name
  isBlank_nameGap : ∀ c ∈ nameGap, isBlank c
  body_ne_nil : body ≠ []
  semicolon_notMem : ';' ∉ body

namespace VariableDefinition

open Pattern Variables

variable {d d' : VariableDefinition} {r r' code rest : Text} {s t : Cursor}
  {ds ds' : List (Text × VariableDefinition)}

def text (d : VariableDefinition) : Text :=
  d.keyword ++ (d.gap ++ (d.name ++ (d.nameGap ++ '=' :: (d.body ++ [';']))))

def value (d : VariableDefinition) : Text := strip d.body

theorem isWord_head_nameGap (d : VariableDefinition) (r : Text) :
    ∀ c, (d.nameGap ++ '=' :: r).head? = some c → isWord c = false := by
  intro c hc
  cases hgap : d.nameGap with
  | nil =>
    rw [hgap] at hc
    cases hc
    decide
  | cons b gap =>
    have hb := d.isBlank_nameGap b (by simp [hgap])
    rw [hgap] at hc
    obtain rfl : b = c := Option.some.inj hc
    rw [Bool.eq_false_iff]
    intro hword
    rw [isBlank_of_isWord hword] at hb
    cases hb

theorem eq_of_append (h : d.text ++ r = d'.text ++ r') : d = d' ∧ r = r' := by
  simp only [text, List.append_assoc, List.cons_append] at h
  have hlength : d.keyword.length = d'.keyword.length := by
    rw [← d.same_keyword.length_eq, ← d'.same_keyword.length_eq]
  obtain ⟨hkeyword, h⟩ := List.append_inj h hlength
  obtain ⟨hgap, h⟩ := eq_of_append_run d.isGap_gap.blank d'.isGap_gap.blank
    (d.isRun_name.isBlank_head _) (d'.isRun_name.isBlank_head _) h
  obtain ⟨hname, h⟩ := eq_of_append_run d.isRun_name.word d'.isRun_name.word
    (d.isWord_head_nameGap _) (d'.isWord_head_nameGap _) h
  obtain ⟨hnameGap, h⟩ := eq_of_append_run d.isBlank_nameGap d'.isBlank_nameGap
    (fun c hc ↦ by cases hc; decide) (fun c hc ↦ by cases hc; decide) h
  have hother (d : VariableDefinition) : ∀ c ∈ d.body, (c != ';') = true := fun c hc ↦
    bne_iff_ne.mpr fun h' ↦ d.semicolon_notMem (h' ▸ hc)
  obtain ⟨hbody, h⟩ := eq_of_append_run (hother d) (hother d') (fun c hc ↦ by cases hc; rfl)
    (fun c hc ↦ by cases hc; rfl) (List.cons.inj h).2
  refine ⟨?_, (List.cons.inj h).2⟩
  cases d
  cases d'
  simp_all

theorem exists_text_eq_cons (d : VariableDefinition) : ∃ t, d.text = '%' :: t := by
  have hsame := d.same_keyword
  rw [text]
  generalize d.keyword = keyword at hsame ⊢
  cases hsame with
  | cons hc _ =>
    obtain rfl := eq_of_sameLetter_alone (by decide) (by decide) hc
    exact ⟨_, rfl⟩

/-! The search for definitions -/

theorem exists_of_mem_ends (h : t ∈ definition.ends s) :
    ∃ d : VariableDefinition, s.Takes d.text t ∧ t.group 1 = some d.name ∧
      ∃ v, t.group 2 = some v ∧ strip v = d.value := by
  rw [definition] at h
  simp only [mem_ends_inOrder_cons] at h
  obtain ⟨t₁, h₁, t₂, h₂, _, hgroup₁, t₄, h₄, t₅, h₅, t₆, h₆, _, hgroup₂, t₈, h₈, hend⟩ := h
  obtain rfl := List.mem_singleton.mp hend
  obtain ⟨t₃, h₃, rfl⟩ := List.mem_map.mp hgroup₁
  obtain ⟨t₇, h₇, rfl⟩ := List.mem_map.mp hgroup₂
  obtain ⟨keyword, hkeyword, hsame, -⟩ := exists_of_mem_ends_letters h₁
  obtain ⟨gap, hgap, hisGap, -⟩ := exists_of_mem_ends_blanks1 h₂
  obtain ⟨name, hname, hisRun, -⟩ := exists_of_mem_ends_word1 h₃
  obtain ⟨nameGap, hnameGap, hblank, hgroups₄⟩ := exists_of_mem_ends_blanks h₄
  obtain ⟨hequals, hgroups₅⟩ := takes_of_mem_ends_literal (w := ['=']) h₅
  obtain ⟨valueGap, hvalueGap, hblank', hgroups₆⟩ := exists_of_mem_ends_blanks h₆
  obtain ⟨value, hvalue⟩ := takes_of_mem_ends h₇
  obtain ⟨hlow, hpass⟩ := holds_of_mem_ends_span h₇ hvalue
  obtain ⟨hsemicolon, hgroups₈⟩ := takes_of_mem_ends_literal (w := [';']) h₈
  have hne : valueGap ++ value ≠ [] := by
    apply List.append_ne_nil_of_right_ne_nil
    exact List.length_pos_iff.mp hlow
  have hnone : ';' ∉ valueGap ++ value := by
    intro hmem
    rcases List.mem_append.mp hmem with hmem | hmem
    · exact absurd (hblank' _ hmem) (by decide)
    · exact Library.holds_noneOf.mp (hpass _ hmem) rfl
  refine ⟨⟨keyword, gap, name, nameGap, valueGap ++ value, hsame, hisGap, hisRun, hblank, hne,
    hnone⟩, ?_, ?_, value, ?_, (strip_append_of_blank hblank').symm⟩
  · have htakes := hkeyword.trans (hgap.trans ((hname.record 1).trans (hnameGap.trans
      (hequals.trans (hvalueGap.trans ((hvalue.record 2).trans hsemicolon))))))
    simpa [text] using htakes
  · obtain ⟨n, -, -, rfl, -⟩ := mem_ends_span h₇
    rw [Cursor.group, hgroups₈]
    change (Cursor.record _ 2 _).group 1 = _
    rw [Cursor.group_record_of_ne (by decide), Cursor.group_advance, Cursor.group, hgroups₆,
      hgroups₅, hgroups₄]
    exact Cursor.group_record hname
  · rw [Cursor.group, hgroups₈]
    exact Cursor.group_record hvalue

theorem accepts (d : VariableDefinition) : definition.Accepts d.text := by
  have hlast : (inOrder [.literal ";"]).Accepts [';'] := accepts_letters (.cons rfl .nil)
  have hequals : (Pattern.literal "=").Accepts ['='] := accepts_letters (.cons rfl .nil)
  have hbody : (Pattern.span .longest 1 none (.noneOf ";")).Accepts d.body :=
    accepts_longest (List.length_pos_iff.mpr d.body_ne_nil) fun c hc ↦
      Library.holds_noneOf.mpr fun h ↦ d.semicolon_notMem (h ▸ hc)
  have hvalueGap : blanks.Accepts [] := accepts_blanks (by simp)
  exact (accepts_letters d.same_keyword).inOrder_cons ((accepts_blanks1 d.isGap_gap).inOrder_cons
    (((accepts_word1 d.isRun_name).group 1).inOrder_cons
      ((accepts_blanks d.isBlank_nameGap).inOrder_cons
        (hequals.inOrder_cons (hvalueGap.inOrder_cons ((hbody.group 2).inOrder_cons hlast))))))

theorem consumes_definition : definition.Consumes := by
  rw [definition, ← List.nil_append (Pattern.keyword _ :: _)]
  exact consumes_keyword (by decide)

theorem exists_matchAt_text (d : VariableDefinition) (size index : Nat) (before : List Char)
    (rest : Text) :
    ∃ m, definition.matchAt false ⟨size, index, before, d.text ++ rest, []⟩ = some m ∧
      m.text = d.text ∧ m.group 1 = some d.name ∧ ∃ v, m.group 2 = some v ∧ strip v = d.value := by
  obtain ⟨t, ht, -⟩ := d.accepts ⟨size, index, before, d.text ++ rest, []⟩ rest rfl
  obtain ⟨m, hm⟩ := Pattern.exists_matchAt ht
  obtain ⟨e, he, v, hv, rfl⟩ := matchAt_eq_some hm
  -- whichever way the pattern took, the text is that of one definition only
  obtain ⟨d', htakes, hname, hvalue⟩ := exists_of_mem_ends he
  obtain ⟨rfl, -⟩ := eq_of_append htakes.after_eq
  exact ⟨_, hm, hv.take_eq.symm.trans htakes.take_eq, hname, hvalue⟩

/-! The definitions of a program -/

/-- The definitions of a text, each with what stands between it and the one before: the first that
can be read from the left, and then those of what follows it. -/
inductive Reading : Text → List (Text × VariableDefinition) → Prop
  | done {code : Text} (hnone : ∀ x d y, code ≠ x ++ (text d ++ y)) : Reading code []
  | next {code gap : Text} {d : VariableDefinition} {rest : Text}
      {ds : List (Text × VariableDefinition)} (hcode : code = gap ++ (d.text ++ rest))
      (hfirst : ∀ x d' y, code = x ++ (text d' ++ y) → gap.length ≤ x.length)
      (hrest : Reading rest ds) : Reading code ((gap, d) :: ds)

theorem exists_reading (code : Text) : ∃ ds, Reading code ds := by
  induction hn : code.length using Nat.strong_induction_on generalizing code with
  | _ n ih =>
    by_cases h : ∃ k x d y, x.length = k ∧ code = x ++ (text d ++ y)
    · classical
      obtain ⟨x, d, y, hx, hcode⟩ := Nat.find_spec h
      obtain ⟨t, ht⟩ := d.exists_text_eq_cons
      have hlt : y.length < n := by
        rw [← hn, hcode, ht]
        simp only [List.length_append, List.length_cons]
        omega
      obtain ⟨ds, hds⟩ := ih y.length hlt y rfl
      refine ⟨_, .next hcode (fun x' d' y' hcode' ↦ ?_) hds⟩
      rw [hx]
      exact Nat.find_min' h ⟨x', d', y', rfl, hcode'⟩
    · exact ⟨[], .done fun x d y hcode ↦ h ⟨_, x, d, y, rfl, hcode⟩⟩

namespace Reading

theorem unique (h : Reading code ds) (h' : Reading code ds') : ds' = ds := by
  induction h generalizing ds' with
  | done hnone =>
    cases h' with
    | done => rfl
    | next hcode _ _ => exact absurd hcode (hnone _ _ _)
  | next hcode hfirst _ ih =>
    cases h' with
    | done hnone => exact absurd hcode (hnone _ _ _)
    | next hcode' hfirst' hrest' =>
      have hlength := Nat.le_antisymm (hfirst' _ _ _ hcode) (hfirst _ _ _ hcode')
      obtain ⟨rfl, htext⟩ := List.append_inj (hcode'.symm.trans hcode) hlength
      obtain ⟨rfl, rfl⟩ := eq_of_append htext
      rw [ih hrest']

theorem map_findFrom (h : Reading code ds) (size : Nat) (nonEmpty : Bool) (before : List Char)
    (index : Nat) :
    (definition.findFrom size nonEmpty before index code).map (fun m ↦
      (strip ((m.group 1).getD []), strip ((m.group 2).getD []))) =
      ds.map fun d ↦ (d.2.name, d.2.value) := by
  have hp := consumes_definition
  -- no definition is found where none can be read
  have hskips {v rest : Text} (hv : ∀ x y, v = x ++ y → y ≠ [] → ∀ d r, y ++ rest ≠ text d ++ r) :
      definition.Skips v rest := by
    intro x y hsplit hy s hs
    rw [List.eq_nil_iff_forall_not_mem]
    intro t ht
    obtain ⟨d, htakes, -⟩ := exists_of_mem_ends ht
    exact hv x y hsplit hy d t.after (hs.symm.trans htakes.after_eq)
  induction h generalizing nonEmpty before index with
  | @done code hnone =>
    have hcode : definition.Skips code [] := hskips fun x y hsplit _ d r hy ↦
      hnone x d r (by rw [hsplit, ← hy, List.append_nil])
    rw [← List.append_nil code, hp.findFrom_of_skips hcode, hp.findFrom_nil]
    rfl
  | @next code gap d rest ds hcode hfirst _ ih =>
    have hgap : definition.Skips gap (d.text ++ rest) := by
      refine hskips fun x y hsplit hy d' r h ↦ ?_
      have hle := hfirst x d' r (by rw [hcode, hsplit, List.append_assoc, h])
      have hpos := List.length_pos_iff.mpr hy
      rw [hsplit, List.length_append] at hle
      omega
    rw [hcode, hp.findFrom_of_skips hgap]
    obtain ⟨m, hm, htext, hname, v, hv, hvalue⟩ := d.exists_matchAt_text size (index + gap.length)
      (gap.reverse ++ before) rest
    obtain ⟨rest', hrest', -, -, hfind⟩ := hp.findFrom_of_some false hm
    rw [htext] at hrest' hfind
    rw [hfind, ← List.append_cancel_left hrest', List.map_cons, ih, List.map_cons, hname, hv]
    have hstrip : strip d.name = d.name := strip_eq_self fun c hc ↦
      isBlank_of_isWord (d.isRun_name.word c hc)
    simp only [Option.getD_some, hvalue, hstrip]

end Reading

/-- The value that the last definition of a variable gives it. -/
def lastValue (ds : List (Text × VariableDefinition)) (name : Text) : Option Text :=
  (ds.reverse.find? fun d ↦ d.2.name == name).map fun d ↦ d.2.value

theorem lastValue_append (ds ds' : List (Text × VariableDefinition)) (name : Text) :
    lastValue (ds ++ ds') name = (lastValue ds' name).or (lastValue ds name) := by
  rw [lastValue, List.reverse_append, List.find?_append, Option.map_or]
  rfl

theorem Reading.get?_addCode (h : Reading code ds) (name : Text) :
    (addCode [] code).get? name = lastValue ds name := by
  have hfold : addCode [] code =
      (ds.map fun d ↦ (d.2.name, d.2.value)).foldl (fun vars v ↦ put vars v.1 v.2) [] := by
    rw [← h.map_findFrom code.length false [] 0, List.foldl_map]
    rfl
  rw [hfold]
  clear h hfold
  induction ds using List.reverseRecOn with
  | nil => rfl
  | append_singleton ds d ih =>
    rw [List.map_append, List.foldl_append, lastValue_append, ← ih]
    simp only [List.map_cons, List.map_nil, List.foldl_cons, List.foldl_nil, get?_put]
    by_cases hname : name = d.2.name
    · simp [lastValue, hname]
    · simp [lastValue, hname, Ne.symm hname]

/-- The definitions that end in front of a place. -/
def inFront (place : Nat) : List (Text × VariableDefinition) → List (Text × VariableDefinition)
  | [] => []
  | d :: ds =>
    if d.1.length + d.2.text.length ≤ place then
      d :: inFront (place - (d.1.length + d.2.text.length)) ds
    else []

theorem inFront_prefix (place : Nat) (ds : List (Text × VariableDefinition)) :
    inFront place ds <+: ds := by
  induction ds generalizing place with
  | nil => exact List.prefix_rfl
  | cons d ds ih =>
    rw [inFront]
    split
    · exact List.cons_prefix_cons.mpr ⟨rfl, ih _⟩
    · exact List.nil_prefix

/-- The value of a variable is that of its last definition behind a place, and only without one the
value in force at that place. -/
theorem lastValue_eq_or (place : Nat) (ds : List (Text × VariableDefinition)) (name : Text) :
    lastValue ds name = (lastValue (ds.drop (inFront place ds).length) name).or
      (lastValue (inFront place ds) name) := by
  obtain ⟨later, hlater⟩ := inFront_prefix place ds
  nth_rewrite 1 [← hlater]
  rw [lastValue_append]
  congr
  nth_rewrite 2 [← hlater]
  rw [List.drop_left]

/-! Programs without the sign that a definition begins with -/

theorem length_le_of_percent_notMem {x y gap r : Text} (hgap : '%' ∉ gap)
    (h : gap ++ r = x ++ (d.text ++ y)) : gap.length ≤ x.length := by
  by_contra hlt
  obtain ⟨t, ht⟩ := d.exists_text_eq_cons
  rw [ht] at h
  obtain ⟨z, rfl, hz⟩ | ⟨z, rfl, hz⟩ := List.append_eq_append_iff.mp h
  · simp at hlt
  · cases z with
    | nil => simp at hlt
    | cons c z =>
      obtain rfl := (List.cons.inj hz).1
      simp at hgap

theorem Reading.done_of_percent_notMem (h : '%' ∉ code) : Reading code [] := by
  refine .done fun x d y hcode ↦ ?_
  obtain ⟨t, ht⟩ := d.exists_text_eq_cons
  rw [hcode, ht] at h
  simp at h

theorem Reading.next_of_percent_notMem {gap : Text} (hgap : '%' ∉ gap) (d : VariableDefinition)
    (hrest : Reading rest ds) : Reading (gap ++ (d.text ++ rest)) ((gap, d) :: ds) :=
  .next rfl (fun _ _ _ ↦ length_le_of_percent_notMem hgap) hrest

end VariableDefinition

namespace Variables

def resolveBy (value : Text → Option Text) : Text → Text
  | '&' :: name => (value name).getD ('&' :: name)
  | t => t

theorem resolve_eq_resolveBy {vars : Variables} {value : Text → Option Text}
    (h : ∀ name, vars.get? name = value name) (reference : Text) :
    vars.resolve reference = resolveBy value reference := by
  rw [resolve.eq_def]
  split
  · rw [h]
    rfl
  · rw [resolveBy]
    assumption

end Variables

def Library.entry (value : Text → Option Text) (m : Match) : Library :=
  { database := Variables.resolveBy value (schemaOf (strip ((m.group 2).getD [])))
    kind := "TERADATA"
    connection := strip ((m.group 2).getD [])
    tables :=
      [{ table := some (Variables.resolveBy value ((m.group 1).getD [])), operations := [] }] }

namespace DatabaseAnalysis

open VariableDefinition Library

/-- References to variables are resolved by the last definition of the variable in the whole
program. It is the value in force at the statement that refers to it unless a later definition
follows. -/
theorem libraries_resolved_by_last_definition (code : Text) :
    ∃ ds, Reading code ds ∧ (∀ ds', Reading code ds' → ds' = ds) ∧
      (start code).readVariables.load.libraries =
        generic code ++ (teradataStatement.findAll code).map (entry (lastValue ds)) ∧
      ∀ m ∈ teradataStatement.findAll code, ∀ name, lastValue ds name =
        (lastValue (ds.drop (inFront m.start ds).length) name).or
          (lastValue (inFront m.start ds) name) := by
  obtain ⟨ds, hds⟩ := exists_reading code
  refine ⟨ds, hds, fun _ ↦ hds.unique, ?_, fun m _ ↦ lastValue_eq_or m.start ds⟩
  have hentry : ofTeradata (Variables.addCode [] code) = entry (lastValue ds) := by
    funext m
    rw [ofTeradata, Variables.resolve_eq_resolveBy hds.get?_addCode,
      Variables.resolve_eq_resolveBy hds.get?_addCode]
    rfl
  rw [← hentry]
  rfl

/-- A variable is defined anew behind the statement that refers to it: the first value is in force
there, and the second is reported. -/
theorem exists_resolved_by_later_definition :
    let code : Text :=
      "%let v = a;libname t teradata schema=&v;%let v = b;proc sql;join t.c quit;"
    ∃ ds, Reading code ds ∧
      (start code).readVariables.load.libraries =
        [⟨"b", "TERADATA", "schema=&v", [⟨some "t", []⟩]⟩] ∧
      (generic code ++ (teradataStatement.findAll code).map fun m ↦
        entry (lastValue (inFront m.start ds)) m) =
        [⟨"a", "TERADATA", "schema=&v", [⟨some "t", []⟩]⟩] := by
  intro code
  let first : VariableDefinition := ⟨"%let", " ", "v", " ", " a", by decide +kernel,
    by decide, by decide, List.all_eq_true.mp rfl, by decide, by decide⟩
  let second : VariableDefinition := ⟨"%let", " ", "v", " ", " b", by decide +kernel,
    by decide, by decide, List.all_eq_true.mp rfl, by decide, by decide⟩
  let between : Text := "libname t teradata schema=&v;"
  let rest : Text := "proc sql;join t.c quit;"
  have hcode : code = [] ++ (first.text ++ (between ++ (second.text ++ rest))) := by decide +kernel
  have hbetween : '%' ∉ between := by decide
  have hrest : Reading rest [] := .done_of_percent_notMem (by decide)
  have hsecond := Reading.next_of_percent_notMem hbetween second hrest
  refine ⟨[([], first), (between, second)], ?_, by decide +kernel, by decide +kernel⟩
  rw [hcode]
  exact .next_of_percent_notMem (by decide) first hsecond

end DatabaseAnalysis

end SasMigration
