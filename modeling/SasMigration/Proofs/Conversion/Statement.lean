import SasMigration.Proofs.Conversion.Imports
import SasMigration.Proofs.Pattern.Language

namespace SasMigration

namespace Imports

open Text (IsGap IsRun isBlank isWord strip)

def isModuleChar (c : Char) : Bool := isWord c || c == '.'

structure IsModule (t : Text) : Prop where
  ne_nil : t ≠ []
  chars : ∀ c ∈ t, isModuleChar c

instance : DecidablePred IsModule := fun t ↦
  decidable_of_iff (t ≠ [] ∧ t.all isModuleChar = true)
    ⟨fun h ↦ ⟨h.1, List.all_eq_true.mp h.2⟩, fun h ↦ ⟨h.ne_nil, List.all_eq_true.mpr h.chars⟩⟩

def fromWord : Text := "from"

def importWord : Text := "import"

def asWord : Text := "as"

structure Alias where
  before : Text
  after : Text
  name : Text
  isGap_before : IsGap before
  isGap_after : IsGap after
  isRun : IsRun name

def Alias.text (a : Alias) : Text := a.before ++ (asWord ++ (a.after ++ a.name))

def aliasText (alias? : Option Alias) : Text := alias?.elim [] Alias.text

structure Imported where
  module : Text
  alias? : Option Alias
  isModule : IsModule module

def Imported.text (i : Imported) : Text := i.module ++ aliasText i.alias?

/-- A further module of a list, after a comma. -/
structure Further where
  before : Text
  after : Text
  item : Imported
  blank_before : ∀ c ∈ before, isBlank c
  blank_after : ∀ c ∈ after, isBlank c

def Further.text (f : Further) : Text := f.before ++ ',' :: (f.after ++ f.item.text)

/-- The module from which names are imported. -/
structure Source where
  before : Text
  module : Text
  after : Text
  isGap_before : IsGap before
  isModule : IsModule module
  isGap_after : IsGap after

def Source.text (s : Source) : Text := fromWord ++ (s.before ++ (s.module ++ s.after))

@[ext]
structure Statement where
  source : Option Source
  gap : Text
  first : Imported
  more : List Further
  isGap : IsGap gap

namespace Statement

def rest (st : Statement) : Text := aliasText st.first.alias? ++ st.more.flatMap Further.text

def listText (st : Statement) : Text := importWord ++ (st.gap ++ (st.first.module ++ st.rest))

def text (st : Statement) : Text := st.source.elim [] Source.text ++ st.listText

end Statement

theorem isModuleChar_of_isBlank {c : Char} (h : isBlank c) : isModuleChar c = false := by
  rw [isModuleChar, Bool.or_eq_false_iff]
  constructor
  · rw [Bool.eq_false_iff]
    intro hword
    rw [Text.isBlank_of_isWord hword] at h
    cases h
  · rw [Bool.eq_false_iff]
    intro hpoint
    rw [eq_of_beq hpoint] at h
    revert h
    decide

theorem isBlank_of_isModuleChar {c : Char} (h : isModuleChar c) : isBlank c = false := by
  rw [Bool.eq_false_iff]
  intro hblank
  rw [isModuleChar_of_isBlank hblank] at h
  cases h

theorem isModuleChar_head {x : Text} (h : IsGap x) (r : Text) :
    ∀ c, (x ++ r).head? = some c → isModuleChar c = false := by
  obtain ⟨c, y, rfl, hc, -⟩ := h.exists_cons
  intro d hd
  cases hd
  exact isModuleChar_of_isBlank hc

theorem IsModule.isBlank_head {m : Text} (h : IsModule m) (r : Text) :
    ∀ c, (m ++ r).head? = some c → isBlank c = false := by
  obtain ⟨c, y, rfl⟩ := List.exists_cons_of_ne_nil h.ne_nil
  intro d hd
  cases hd
  exact isBlank_of_isModuleChar (h.chars c List.mem_cons_self)

section Spelling

open Pattern

variable {v line code s : Text}

theorem spells_dotted : dotted.Spells v ↔ IsModule v := by
  have hspan : dotted.Spells v ↔ v ≠ [] ∧ ∀ c ∈ v, isModuleChar c := by
    have hset (c : Char) : (CharSet.ofItems false .distinguished
        [.kind .word false false, .char '.']).holds c = isModuleChar c := by
      simp [CharSet.holds, ClassItem.holds, CharKind.holds, LetterCase.same, isModuleChar,
        BEq.comm (a := '.')]
    simp [dotted, Spells, hset, Nat.one_le_iff_ne_zero]
  exact hspan.trans ⟨fun h ↦ ⟨h.1, h.2⟩, fun h ↦ ⟨h.ne_nil, h.chars⟩⟩

theorem spells_alias :
    (inOrder [blanks1, literal "as", blanks1, word1]).Spells v ↔ ∃ a : Alias, v = a.text := by
  simp only [spells_inOrder_cons_cons, spells_inOrder_singleton, spells_blanks1, spells_literal,
    spells_word1]
  constructor
  · rintro ⟨before, _, hbefore, ⟨_, _, rfl, ⟨after, name, hafter, hname, rfl⟩, rfl⟩, rfl⟩
    exact ⟨⟨before, after, name, hbefore, hafter, hname⟩, rfl⟩
  · rintro ⟨a, rfl⟩
    exact ⟨a.before, _, a.isGap_before, ⟨_, _, rfl, ⟨a.after, a.name, a.isGap_after, a.isRun, rfl⟩,
      rfl⟩, rfl⟩

theorem spells_imported : imported.Spells v ↔ ∃ i : Imported, v = i.text := by
  simp only [imported, Spells, spells_dotted, spells_optional, spells_alias]
  constructor
  · rintro ⟨m, _, hm, rfl | ⟨a, rfl⟩, rfl⟩
    · exact ⟨⟨m, none, hm⟩, rfl⟩
    · exact ⟨⟨m, some a, hm⟩, rfl⟩
  · rintro ⟨⟨m, alias?, hm⟩, rfl⟩
    refine ⟨m, aliasText alias?, hm, ?_, rfl⟩
    cases alias? with
    | none => exact .inl rfl
    | some a => exact .inr ⟨a, rfl⟩

theorem spells_further :
    (inOrder [blanks, literal ",", blanks, imported]).Spells v ↔ ∃ f : Further, v = f.text := by
  simp only [spells_inOrder_cons_cons, spells_inOrder_singleton, spells_blanks, spells_literal,
    spells_imported]
  constructor
  · rintro ⟨before, _, hbefore, ⟨_, _, rfl, ⟨after, _, hafter, ⟨i, rfl⟩, rfl⟩, rfl⟩, rfl⟩
    exact ⟨⟨before, after, i, hbefore, hafter⟩, rfl⟩
  · rintro ⟨f, rfl⟩
    exact ⟨f.before, _, f.blank_before, ⟨_, _, rfl, ⟨f.after, _, f.blank_after, ⟨f.item, rfl⟩, rfl⟩,
      rfl⟩, rfl⟩

theorem exists_map_text {turns : List Text} (h : ∀ w ∈ turns, ∃ f : Further, w = f.text) :
    ∃ more : List Further, turns = more.map Further.text := by
  induction turns with
  | nil => exact ⟨[], rfl⟩
  | cons w turns ih =>
    obtain ⟨⟨f, rfl⟩, hturns⟩ := List.forall_mem_cons.mp h
    obtain ⟨more, rfl⟩ := ih hturns
    exact ⟨f :: more, rfl⟩

theorem spells_importedList :
    importedList.Spells v ↔
      ∃ (i : Imported) (more : List Further), v = i.text ++ more.flatMap Further.text := by
  simp only [importedList, Spells, spells_imported, spells_further]
  constructor
  · rintro ⟨_, _, ⟨i, rfl⟩, ⟨turns, -, hturns, rfl⟩, rfl⟩
    obtain ⟨more, rfl⟩ := exists_map_text hturns
    exact ⟨i, more, rfl⟩
  · rintro ⟨i, more, rfl⟩
    refine ⟨_, _, ⟨i, rfl⟩, ⟨more.map Further.text, by simp, fun w hw ↦ ?_, rfl⟩, rfl⟩
    obtain ⟨f, -, rfl⟩ := List.mem_map.mp hw
    exact ⟨f, rfl⟩

theorem spells_importPart :
    importPart.Spells v ↔ ∃ st : Statement, st.source = none ∧ v = st.listText := by
  simp only [importPart, spells_inOrder_cons_cons, spells_inOrder_singleton, spells_blanks1,
    spells_literal, spells_importedList]
  constructor
  · rintro ⟨_, _, rfl, ⟨gap, _, hgap, ⟨i, more, rfl⟩, rfl⟩, rfl⟩
    refine ⟨⟨none, gap, i, more, hgap⟩, rfl, ?_⟩
    rw [Imported.text, List.append_assoc]
    rfl
  · rintro ⟨st, -, rfl⟩
    refine ⟨importWord, _, rfl, ⟨st.gap, _, st.isGap, ⟨st.first, st.more, rfl⟩, rfl⟩, ?_⟩
    rw [Imported.text, List.append_assoc]
    rfl

theorem spells_statement :
    (either (inOrder [literal "from", blanks1, dotted, blanks1, importPart]) importPart).Spells v ↔
      ∃ st : Statement, v = st.text := by
  simp only [Spells, spells_inOrder_cons_cons, spells_inOrder_singleton, spells_blanks1,
    spells_literal, spells_dotted, spells_importPart]
  constructor
  · rintro (⟨_, _, rfl, ⟨b, _, hb, ⟨m, _, hm, ⟨a, _, ha, ⟨st, -, rfl⟩, rfl⟩, rfl⟩, rfl⟩, rfl⟩ |
      ⟨st, hst, rfl⟩)
    · refine ⟨{ st with source := some ⟨b, m, a, hb, hm, ha⟩ }, ?_⟩
      simp only [Statement.text, Option.elim_some, Source.text, List.append_assoc]
      rfl
    · exact ⟨st, by rw [Statement.text, hst]; rfl⟩
  · rintro ⟨st, rfl⟩
    cases hsource : st.source with
    | none => exact .inr ⟨st, hsource, by rw [Statement.text, hsource]; rfl⟩
    | some s =>
      refine .inl ⟨fromWord, _, rfl, ⟨s.before, _, s.isGap_before, ⟨s.module, _, s.isModule,
        ⟨s.after, _, s.isGap_after, ⟨{ st with source := none }, rfl, rfl⟩, rfl⟩, rfl⟩, rfl⟩, ?_⟩
      simp only [Statement.text, hsource, Option.elim_some, Source.text, List.append_assoc]
      rfl

theorem isStatement_iff : isStatement line ↔ ∃ st : Statement, strip line = st.text := by
  have hregular : (either (inOrder [literal "from", blanks1, dotted, blanks1, importPart])
      importPart).isRegular := by decide
  rw [isStatement, statement, isSome_matchStart?_iff hregular, spells_statement]
  apply or_iff_left
  rintro ⟨w, -, hw⟩
  -- a stripped line does not end with a line feed
  have hlast := Text.isBlank_of_getLast?_strip (t := line) (c := '\n') (by simp [hw])
  revert hlast
  decide

/-- The statement stands on a line of the program. -/
def Statement.IsOn (st : Statement) (code : Text) : Prop :=
  ∃ line ∈ Text.lines code, strip line = st.text

theorem mem_ofCode_iff : s ∈ ofCode code ↔ ∃ st : Statement, st.IsOn code ∧ s = st.text := by
  rw [mem_ofCode, onLines, List.mem_map]
  constructor
  · rintro ⟨line, hline, rfl⟩
    obtain ⟨hmem, hstatement⟩ := List.mem_filter.mp hline
    obtain ⟨st, hst⟩ := isStatement_iff.mp hstatement
    exact ⟨st, ⟨line, hmem, hst⟩, hst⟩
  · rintro ⟨st, ⟨line, hmem, hst⟩, rfl⟩
    exact ⟨line, List.mem_filter.mpr ⟨hmem, isStatement_iff.mpr ⟨st, hst⟩⟩, hst⟩

end Spelling

/-! The parts of a statement are determined by its text. -/

variable {r r' : Text}

/-- What can stand after a module in a list with its alias: nothing, or a comma after blanks. -/
def EndsItem (r : Text) : Prop := r = [] ∨ ∃ x y, (∀ c ∈ x, isBlank c) ∧ r = x ++ ',' :: y

theorem endsItem_flatMap (more : List Further) : EndsItem (more.flatMap Further.text) := by
  cases more with
  | nil => exact .inl rfl
  | cons f more =>
    refine .inr ⟨f.before, f.after ++ f.item.text ++ more.flatMap Further.text, f.blank_before, ?_⟩
    simp [Further.text]

namespace EndsItem

theorem isModuleChar_head (h : EndsItem r) : ∀ c, r.head? = some c → isModuleChar c = false := by
  rintro c hc
  rcases h with rfl | ⟨x, y, hx, rfl⟩
  · cases hc
  · cases x with
    | nil =>
      cases hc
      decide
    | cons d x =>
      cases hc
      exact isModuleChar_of_isBlank (hx c List.mem_cons_self)

theorem isWord_head (h : EndsItem r) : ∀ c, r.head? = some c → isWord c = false := by
  intro c hc
  exact (Bool.or_eq_false_iff.mp (h.isModuleChar_head c hc)).1

theorem ne_alias (h : EndsItem r) (a : Alias) (r' : Text) : r ≠ a.text ++ r' := by
  rintro rfl
  have hhead : ∀ c, (asWord ++ (a.after ++ a.name) ++ r').head? = some c → isBlank c = false := by
    intro c hc
    cases hc
    decide
  rcases h with hnil | ⟨x, y, hx, hxy⟩
  · have hbefore := List.append_eq_nil_iff.mp (List.append_eq_nil_iff.mp hnil).1
    exact a.isGap_before.ne_nil hbefore.1
  · rw [Alias.text, List.append_assoc] at hxy
    obtain ⟨-, hcomma⟩ := Text.eq_of_append_run a.isGap_before.blank hx hhead
      (by rintro c ⟨⟩; decide) hxy
    cases hcomma

end EndsItem

theorem Alias.text_append_inj {a b : Alias} (hr : EndsItem r) (hr' : EndsItem r')
    (h : a.text ++ r = b.text ++ r') : a = b ∧ r = r' := by
  obtain ⟨before, after, name, hbefore, hafter, hname⟩ := a
  obtain ⟨before', after', name', hbefore', hafter', hname'⟩ := b
  simp only [Alias.text, List.append_assoc] at h
  obtain ⟨rfl, hword⟩ := Text.eq_of_append_run hbefore.blank hbefore'.blank
    (by rintro c ⟨⟩; decide) (by rintro c ⟨⟩; decide) h
  obtain ⟨rfl, hlast⟩ := Text.eq_of_append_run hafter.blank hafter'.blank (hname.isBlank_head r)
    (hname'.isBlank_head r') (List.append_cancel_left hword)
  obtain ⟨rfl, htail⟩ :=
    Text.eq_of_append_run hname.word hname'.word hr.isWord_head hr'.isWord_head hlast
  exact ⟨rfl, htail⟩

theorem aliasText_append_inj {x y : Option Alias} (hr : EndsItem r) (hr' : EndsItem r')
    (h : aliasText x ++ r = aliasText y ++ r') : x = y ∧ r = r' := by
  cases x with
  | none =>
    cases y with
    | none => exact ⟨rfl, h⟩
    | some b => exact absurd h (hr.ne_alias b r')
  | some a =>
    cases y with
    | none => exact absurd h.symm (hr'.ne_alias a r)
    | some b =>
      obtain ⟨hab, htail⟩ := Alias.text_append_inj hr hr' h
      exact ⟨congrArg some hab, htail⟩

theorem isModuleChar_head_aliasText (x : Option Alias) (hr : EndsItem r) :
    ∀ c, (aliasText x ++ r).head? = some c → isModuleChar c = false := by
  cases x with
  | none => exact hr.isModuleChar_head
  | some a =>
    rw [aliasText, Option.elim_some, Alias.text, List.append_assoc]
    exact isModuleChar_head a.isGap_before _

theorem Imported.text_append_inj {i j : Imported} (hr : EndsItem r) (hr' : EndsItem r')
    (h : i.text ++ r = j.text ++ r') : i = j ∧ r = r' := by
  obtain ⟨m, x, hm⟩ := i
  obtain ⟨m', y, hm'⟩ := j
  simp only [Imported.text, List.append_assoc] at h
  obtain ⟨rfl, halias⟩ := Text.eq_of_append_run hm.chars hm'.chars
    (isModuleChar_head_aliasText x hr) (isModuleChar_head_aliasText y hr') h
  obtain ⟨rfl, htail⟩ := aliasText_append_inj hr hr' halias
  exact ⟨rfl, htail⟩

theorem Imported.isBlank_head (i : Imported) (r : Text) :
    ∀ c, (i.text ++ r).head? = some c → isBlank c = false := by
  rw [Imported.text, List.append_assoc]
  exact i.isModule.isBlank_head _

theorem flatMap_text_injective : Function.Injective (List.flatMap Further.text) := by
  intro more
  induction more with
  | nil =>
    intro more' h
    cases more' with
    | nil => rfl
    | cons g more' => simp [Further.text] at h
  | cons f more ih =>
    intro more' h
    cases more' with
    | nil => simp [Further.text] at h
    | cons g more' =>
      obtain ⟨before, after, i, hbefore, hafter⟩ := f
      obtain ⟨before', after', j, hbefore', hafter'⟩ := g
      simp only [List.flatMap_cons, Further.text, List.append_assoc, List.cons_append] at h
      obtain ⟨rfl, hcomma⟩ := Text.eq_of_append_run hbefore hbefore' (by rintro c ⟨⟩; decide)
        (by rintro c ⟨⟩; decide) h
      obtain ⟨rfl, hitem⟩ := Text.eq_of_append_run hafter hafter' (i.isBlank_head _)
        (j.isBlank_head _) (List.cons.inj hcomma).2
      obtain ⟨rfl, htail⟩ :=
        Imported.text_append_inj (endsItem_flatMap more) (endsItem_flatMap more') hitem
      rw [ih htail]

namespace Statement

variable {st st' : Statement}

theorem isModuleChar_head_rest (st : Statement) :
    ∀ c, st.rest.head? = some c → isModuleChar c = false :=
  isModuleChar_head_aliasText st.first.alias? (endsItem_flatMap st.more)

theorem listText_inj (h : st.listText = st'.listText) :
    st.gap = st'.gap ∧ st.first = st'.first ∧ st.more = st'.more := by
  obtain ⟨hgap, hlist⟩ := Text.eq_of_append_run st.isGap.blank st'.isGap.blank
    (st.first.isModule.isBlank_head _) (st'.first.isModule.isBlank_head _)
    (List.append_cancel_left h)
  have hitem : st.first.text ++ st.more.flatMap Further.text =
      st'.first.text ++ st'.more.flatMap Further.text := by
    simpa only [Imported.text, Statement.rest, List.append_assoc] using hlist
  obtain ⟨hfirst, hmore⟩ :=
    Imported.text_append_inj (endsItem_flatMap st.more) (endsItem_flatMap st'.more) hitem
  exact ⟨hgap, hfirst, flatMap_text_injective hmore⟩

theorem sourceText_append_inj {s s' : Source}
    (h : s.text ++ st.listText = s'.text ++ st'.listText) :
    s = s' ∧ st.listText = st'.listText := by
  obtain ⟨before, m, after, hbefore, hm, hafter⟩ := s
  obtain ⟨before', m', after', hbefore', hm', hafter'⟩ := s'
  simp only [Source.text, List.append_assoc] at h
  obtain ⟨rfl, hmodule⟩ := Text.eq_of_append_run hbefore.blank hbefore'.blank (hm.isBlank_head _)
    (hm'.isBlank_head _) (List.append_cancel_left h)
  obtain ⟨rfl, hgap⟩ := Text.eq_of_append_run hm.chars hm'.chars (isModuleChar_head hafter _)
    (isModuleChar_head hafter' _) hmodule
  obtain ⟨rfl, hlist⟩ := Text.eq_of_append_run hafter.blank hafter'.blank
    (by rintro c ⟨⟩; decide) (by rintro c ⟨⟩; decide) hgap
  exact ⟨rfl, hlist⟩

theorem text_injective : Function.Injective text := by
  intro st st' h
  have hparts : st.source = st'.source ∧ st.listText = st'.listText := by
    rw [text, text] at h
    cases hsource : st.source with
    | none =>
      cases hsource' : st'.source with
      | none => exact ⟨rfl, by rwa [hsource, hsource'] at h⟩
      | some s =>
        rw [hsource, hsource'] at h
        cases h
    | some s =>
      cases hsource' : st'.source with
      | none =>
        rw [hsource, hsource'] at h
        cases h
      | some s' =>
        rw [hsource, hsource'] at h
        obtain ⟨rfl, hlist⟩ := sourceText_append_inj h
        exact ⟨rfl, hlist⟩
  obtain ⟨hgap, hfirst, hmore⟩ := listText_inj hparts.2
  exact Statement.ext hparts.1 hgap hfirst hmore

theorem isOn_iff_mem {code : Text} {sts : List Statement}
    (h : (Text.lines code).map strip = sts.map text) : st.IsOn code ↔ st ∈ sts := by
  have hmem : st.IsOn code ↔ st.text ∈ (Text.lines code).map strip := List.mem_map.symm
  rw [hmem, h, List.mem_map_of_injective text_injective]

end Statement

end Imports

end SasMigration
