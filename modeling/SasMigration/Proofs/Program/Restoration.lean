import SasMigration.Proofs.Pattern.Search
import SasMigration.Proofs.Program.Chunk

namespace SasMigration

open Text

namespace MacroDefinition

variable {m : MacroDefinition} {code file name : Text}

/-- The text that stands in every placeholder and in no program or file name. -/
def marker : Text := "* MACRO_"

/-- What tells the placeholder of a definition from those of all others. -/
def label (index : Nat) : Text := marker ++ (ofNat index ++ ['_'])

theorem placeholderFor_eq (index : Nat) (name file : Text) :
    placeholderFor index name file =
      '/' :: (label index ++ (name ++ ('_' :: (file ++ [' ', '*', '/'])))) := by
  have h : placeholderFor index name file =
      '/' :: marker ++ ofNat index ++ ['_'] ++ name ++ ['_'] ++ file ++ [' ', '*', '/'] := rfl
  rw [h, label]
  simp only [List.append_assoc, List.cons_append, List.nil_append]

theorem head?_placeholderFor (index : Nat) (name file : Text) :
    (placeholderFor index name file).head? = some '/' := by
  rw [placeholderFor_eq, List.head?_cons]

theorem getLast?_placeholderFor (index : Nat) (name file : Text) :
    (placeholderFor index name file).getLast? = some '/' := by
  rw [placeholderFor_eq]
  simp [List.getLast?_cons, List.getLast?_append]

theorem label_prefix_placeholderFor (index : Nat) (name file : Text) :
    '/' :: label index <+: placeholderFor index name file := by
  rw [placeholderFor_eq]
  exact (List.prefix_cons_inj '/').mpr (List.prefix_append _ _)

theorem notMem_ofNat {c : Char} (hc : c.isDigit = false) (n : Nat) : c ∉ ofNat n := by
  intro h
  rw [Nat.isDigit_of_mem_toDigits (by omega) (by omega) h] at hc
  cases hc

theorem notMem_label {c : Char} (hc : c.isDigit = false) (hm : c ∉ marker) (h_ : c ≠ '_')
    (index : Nat) : c ∉ label index := by
  simp [label, hm, h_, notMem_ofNat hc]

theorem eq_of_label_prefix {i j : Nat} {t : Text} (h : label i <+: label j ++ t) : i = j := by
  rw [label, label, List.append_assoc, List.prefix_append_right_inj, List.append_assoc] at h
  have hspan (n : Nat) (t : Text) : (ofNat n ++ '_' :: t).takeWhile (· ≠ '_') = ofNat n := by
    have hn : ∀ c ∈ ofNat n, c ≠ '_' := fun c hc he ↦ notMem_ofNat rfl n (he ▸ hc)
    rw [List.takeWhile_append_of_pos (by simpa using hn)]
    simp
  obtain ⟨u, hu⟩ := h
  have hdigits := congrArg (List.takeWhile (· ≠ '_')) hu
  rw [List.append_assoc] at hdigits
  simp only [List.singleton_append, hspan] at hdigits
  rw [← Nat.ofDigitChars_ten_toDigits (n := i), ← Nat.ofDigitChars_ten_toDigits (n := j)]
  exact congrArg (Nat.ofDigitChars 10 · 0) hdigits

theorem notMem_of_isWord {c : Char} (hname : ∀ c ∈ name, isWord c) (hc : isWord c = false) :
    c ∉ name := by
  intro h
  rw [hname c h] at hc
  cases hc

theorem head?_label (index : Nat) : (label index).head? = some '*' := rfl

theorem not_label_infix_append {i : Nat} (hname : ∀ c ∈ name, isWord c)
    (hfile : ¬ marker <:+: file) : ¬ label i <:+: name ++ ('_' :: (file ++ [' ', '*', '/'])) := by
  intro h
  have h := infix_of_infix_append (head?_label i) (notMem_of_isWord hname rfl) h
  have h := infix_of_infix_cons (head?_label i) (by decide) h
  have hm : marker <:+: file ++ [' '] ++ ['*'] ++ ['/'] := by
    rw [List.append_assoc, List.append_assoc]
    exact (List.prefix_append marker _).isInfix.trans h
  have hlast {a : Char} {t : Text} (ha : '_' ≠ a) (h : marker <:+: t ++ [a]) : marker <:+: t :=
    infix_of_infix_concat (fun he ↦ ha (Option.some.inj he)) h
  exact hfile (hlast (by decide) (hlast (by decide) (hlast (by decide) hm)))

theorem eq_of_label_infix {i j : Nat} (hname : ∀ c ∈ name, isWord c) (hfile : ¬ marker <:+: file)
    (h : label i <:+: placeholderFor j name file) : i = j := by
  have hhead : label j = '*' :: (marker.tail ++ (ofNat j ++ ['_'])) := rfl
  rw [placeholderFor_eq] at h
  have h := infix_of_infix_cons (head?_label i) (by decide) h
  by_cases hp : label i <+: label j ++ (name ++ ('_' :: (file ++ [' ', '*', '/'])))
  · exact eq_of_label_prefix hp
  · rw [hhead, List.cons_append] at h hp
    have h := (List.infix_cons_iff.mp h).resolve_left hp
    have hpast : '*' ∉ marker.tail ++ (ofNat j ++ ['_']) := by
      simp only [List.mem_append, not_or]
      exact ⟨by decide, notMem_ofNat rfl j, by decide⟩
    have h := infix_of_infix_append (head?_label i) hpast h
    exact absurd h (not_label_infix_append hname hfile)

theorem notMem_placeholderFor_of {c : Char} (hname : ∀ c ∈ name, isWord c) (hfile : c ∉ file)
    (hword : isWord c = false) (hdigit : c.isDigit = false) (hmarker : c ∉ '/' :: marker)
    (index : Nat) : c ∉ placeholderFor index name file := by
  have hne {d : Char} (hd : d ∈ '/' :: marker) : c ≠ d := fun he ↦ hmarker (he ▸ hd)
  have hlabel := notMem_label hdigit (List.not_mem_of_not_mem_cons hmarker) (hne (by decide)) index
  rw [placeholderFor_eq]
  simp only [List.mem_cons, List.mem_append, List.not_mem_nil, or_false, not_or]
  exact ⟨hne (by decide), hlabel, notMem_of_isWord hname hword, hne (by decide), hfile,
    hne (by decide), hne (by decide), hne (by decide)⟩

theorem notMem_placeholderFor {c : Char} (hname : ∀ c ∈ name, isWord c)
    (hfile : ∀ c ∈ file, c ≠ ';' ∧ c ≠ '\n') (hc : c ∈ Chunk.cuts) (index : Nat) :
    c ∉ placeholderFor index name file := by
  rcases Chunk.mem_cuts.mp hc with rfl | rfl
  · exact notMem_placeholderFor_of hname (fun h ↦ (hfile _ h).1 rfl) rfl rfl (by decide) index
  · exact notMem_placeholderFor_of hname (fun h ↦ (hfile _ h).2 rfl) rfl rfl (by decide) index

/-- A match whose text can be replaced by a placeholder. -/
structure Replaceable (m : Match) : Prop where
  text_ne_nil : m.text ≠ []
  isWord_name : ∀ c ∈ (m.group 1).getD [], isWord c

theorem records_pattern : pattern.Records fun _ w ↦ ∀ c ∈ w, isWord c := by
  rw [pattern, Pattern.records_inOrder]
  simp only [List.forall_mem_cons]
  exact ⟨Pattern.records_letters _ _, trivial,
    ⟨trivial, fun s t v ↦ Pattern.isWord_of_mem_word1⟩, trivial, Pattern.records_letters _ _,
    trivial, trivial, trivial, Pattern.records_letters _ _, fun p hp ↦ nomatch hp⟩

theorem replaceable_of_mem_findAll {mt : Match} (h : mt ∈ pattern.findAll code) :
    Replaceable mt := by
  constructor
  · obtain ⟨u, v, e, -, -, -, he, htakes⟩ := Pattern.isOf_of_mem_findAll h
    obtain ⟨t, ht, he⟩ := Pattern.mem_ends_inOrder_cons.mp he
    obtain ⟨w, hw⟩ := Pattern.takes_of_mem_ends he
    obtain ⟨rfl, -⟩ := Pattern.mem_ends_letters.mp ht
    intro hnil
    have hindex := htakes.index_eq
    rw [hw.index_eq, hnil] at hindex
    simp [Cursor.advance] at hindex
    omega
  · cases hg : mt.group 1 with
    | none => simp
    | some w => exact Pattern.records_of_mem_findAll records_pattern h hg

def numbered (file : Text) (ms : List Match) (index : Nat) : List MacroDefinition :=
  (ms.zipIdx index).map fun (m, i) ↦ ofMatch file m i

theorem numbered_cons (file : Text) (mt : Match) (ms : List Match) (index : Nat) :
    numbered file (mt :: ms) index = ofMatch file mt index :: numbered file ms (index + 1) := rfl

/-- Every placeholder replaced by its macro, the last macro first. -/
def restore (macros : List MacroDefinition) (t : Text) : Text :=
  macros.foldr (fun m t ↦ replaceAll m.placeholder m.code t) t

/-- The labels from `index` on occur nowhere. -/
def Unlabelled (index : Nat) (t : Text) : Prop := ∀ i, index ≤ i → ¬ label i <:+: t

theorem Unlabelled.replaceAll {mt : Match} {index : Nat} {body : Text} (hmt : Replaceable mt)
    (hfile : ¬ marker <:+: file) (h : Unlabelled index body) :
    Unlabelled (index + 1)
      (replaceAll mt.text (ofMatch file mt index).placeholder body) := by
  intro i hi hinfix
  have hslash : '/' ∉ label i := notMem_label rfl (by decide) (by decide) i
  rcases infix_of_infix_replaceAll hmt.text_ne_nil (head?_placeholderFor ..)
    (getLast?_placeholderFor ..) hslash hinfix with hb | hp
  · exact h i (by omega) hb
  · have := eq_of_label_infix hmt.isWord_name hfile hp
    omega

/-- Putting the macros back undoes taking them out. -/
theorem restore_mainBody {ms : List Match} {index : Nat} {body : Text}
    (hms : ∀ mt ∈ ms, Replaceable mt) (hfile : ¬ marker <:+: file) (h : Unlabelled index body) :
    restore (numbered file ms index) (mainBody body (numbered file ms index)) = body := by
  induction ms generalizing index body with
  | nil => rfl
  | cons mt ms ih =>
    obtain ⟨hmt, hms⟩ := List.forall_mem_cons.mp hms
    rw [numbered_cons]
    have hrest := ih hms (h.replaceAll hmt hfile)
    have hslash : '/' ∉ label index := notMem_label rfl (by decide) (by decide) index
    calc restore (ofMatch file mt index :: numbered file ms (index + 1))
          (mainBody body (ofMatch file mt index :: numbered file ms (index + 1)))
        = replaceAll (ofMatch file mt index).placeholder mt.text
            (restore (numbered file ms (index + 1))
              (mainBody (Text.replaceAll mt.text (ofMatch file mt index).placeholder body)
                (numbered file ms (index + 1)))) := rfl
      _ = replaceAll (ofMatch file mt index).placeholder mt.text
            (Text.replaceAll mt.text (ofMatch file mt index).placeholder body) := by rw [hrest]
      _ = body := replaceAll_replaceAll hmt.text_ne_nil hslash (label_prefix_placeholderFor ..)
          (h index (Nat.le_refl index))

theorem flatten_map_restore {macros : List MacroDefinition} {ts : List Text}
    (hm : ∀ m ∈ macros, m.placeholder ≠ [] ∧ ∀ c ∈ Chunk.cuts, c ∉ m.placeholder)
    (h : AllParted Chunk.cuts ts) :
    AllParted Chunk.cuts (ts.map (restore macros)) ∧
      (ts.map (restore macros)).flatten = restore macros ts.flatten := by
  induction macros with
  | nil =>
    have hid : restore [] = id := rfl
    rw [hid, List.map_id]
    exact ⟨h, rfl⟩
  | cons m macros ih =>
    obtain ⟨⟨hne, hcuts⟩, hm⟩ := List.forall_mem_cons.mp hm
    obtain ⟨hparted, hflat⟩ := ih hm
    have hmap : ts.map (restore (m :: macros)) =
        (ts.map (restore macros)).map (replaceAll m.placeholder m.code) := by
      rw [List.map_map]
      rfl
    rw [hmap]
    refine ⟨hparted.map_replaceAll hne hcuts, ?_⟩
    rw [← replaceAll_flatten hne hcuts hparted, hflat]
    rfl

end MacroDefinition

namespace Division

open MacroDefinition

def restored (d : Division) : Text := (d.chunks.map (restore d.macros)).flatten

/-- Dividing a program loses nothing: its chunks, each with the macros put back alone, are the
program. -/
theorem exists_restored_eq (size : Value) (code file : Text) {limit : Int}
    (hsize : Chunk.limitOf size = .ok limit) (hcuts : ∀ c ∈ file, c ≠ ';' ∧ c ≠ '\n')
    (hcode : ¬ marker <:+: code) (hfile : ¬ marker <:+: file) :
    ∃ d, Division.ofCode size code file = .ok d ∧ d.restored = code := by
  let macros := MacroDefinition.all code file
  refine ⟨⟨macros, Chunk.ofCode limit (mainBody code macros)⟩, ?_, ?_⟩
  · rw [Division.ofCode, hsize]
    rfl
  · have hms (mt : Match) (h : mt ∈ pattern.findAll code) : Replaceable mt :=
      replaceable_of_mem_findAll h
    have hm : ∀ m ∈ macros, m.placeholder ≠ [] ∧ ∀ c ∈ Chunk.cuts, c ∉ m.placeholder := by
      intro m hm
      obtain ⟨⟨mt, index⟩, hmt, rfl⟩ := List.mem_map.mp hm
      have hword := (hms mt (List.fst_mem_of_mem_zipIdx hmt)).isWord_name
      have hne : (ofMatch file mt index).placeholder ≠ [] := by simp [ofMatch, placeholderFor_eq]
      exact ⟨hne, fun c hc ↦ notMem_placeholderFor hword hcuts hc index⟩
    have hbody : Unlabelled 0 code := fun i _ h ↦
      hcode ((List.prefix_append marker _).isInfix.trans h)
    rw [restored, (flatten_map_restore hm (Chunk.allParted_ofCode _ _)).2, Chunk.flatten_ofCode]
    exact restore_mainBody hms hfile hbody

/-- The second macro also stands across the end of the placeholder of the first. -/
theorem exists_restored_eq_across :
    Chunk.limitOf (.int 1) = .ok 4 ∧
      ∃ d, ofCode (.int 1) "%macro b; %mend b; %mend a; data x; %macro a */ %mend a;" "%macro a" =
        .ok d ∧ d.restored = "%macro b; %mend b; %mend a; data x; %macro a */ %mend a;" := by
  have hcuts : (("%macro a" : Text).all fun c ↦ c != ';' && c != '\n') = true := by decide +kernel
  refine ⟨rfl, exists_restored_eq (.int 1) _ _ rfl (fun c hc ↦ ?_) (by decide +kernel)
    (by decide +kernel)⟩
  simpa using List.all_eq_true.mp hcuts c hc

end Division

end SasMigration
