import SasMigration.Files.Tree
import SasMigration.Proofs.Value.RoundTrip
import SasMigration.Value.Document
import SasMigration.Value.Pieces

namespace SasMigration

namespace FileAction

variable {pieces more : List (Except Fault Text)} {text : Text}

theorem joined_cons_eq_iff {piece : Text} : joined (.ok piece :: pieces) = (text, none) ↔
    ∃ rest, joined pieces = (rest, none) ∧ text = piece ++ rest := by
  rw [joined]
  cases joined pieces with
  | mk rest fault => simp [Prod.ext_iff, and_comm, eq_comm]

theorem joined_append_eq_iff : joined (pieces ++ more) = (text, none) ↔
    ∃ a b, joined pieces = (a, none) ∧ joined more = (b, none) ∧ text = a ++ b := by
  induction pieces generalizing text with
  | nil => simp [joined, eq_comm]
  | cons piece pieces ih =>
    cases piece with
    | error fault => simp [joined]
    | ok piece =>
      rw [List.cons_append, joined_cons_eq_iff]
      constructor
      · rintro ⟨rest, hrest, rfl⟩
        obtain ⟨a, b, ha, hb, rfl⟩ := ih.mp hrest
        exact ⟨piece ++ a, b, joined_cons_eq_iff.mpr ⟨a, ha, rfl⟩, hb, (List.append_assoc ..).symm⟩
      · rintro ⟨a, b, ha, hb, rfl⟩
        obtain ⟨a, hrest, rfl⟩ := joined_cons_eq_iff.mp ha
        exact ⟨a ++ b, ih.mpr ⟨a, b, hrest, hb, rfl⟩, List.append_assoc ..⟩

end FileAction

namespace Value

open FileAction (joined joined_cons_eq_iff joined_append_eq_iff)

variable {ascii : Bool} {level depth : Nat} {v : Value} {text : Text}

/-- A value without binary numbers, whose objects have distinct keys. -/
inductive Exact : Value → Prop
  | null : Exact .null
  | bool (b : Bool) : Exact (.bool b)
  | int (n : Int) : Exact (.int n)
  | text (t : Text) : Exact (.text t)
  | list {items : List Value} : (∀ v ∈ items, Exact v) → Exact (.list items)
  | object {fields : Fields} :
      (fields.map (·.1)).Nodup → (∀ field ∈ fields, Exact field.2) → Exact (.object fields)

theorem integerPiece_eq_ok {n : Int} {t : Text} (h : integerPiece n = .ok t) :
    t = Text.ofInt n ∧ (Text.ofNat n.natAbs).length ≤ Text.mostDigits := by
  rw [integerPiece] at h
  split at h
  · cases h
  · next hn => exact ⟨(Except.ok.inj h).symm, Nat.le_of_not_lt hn⟩

theorem exists_of_joined_itemPieces {lead : Text} {vs : List Value}
    (h : joined (itemPieces ascii level depth lead (v :: vs)) = (text, none)) :
    ∃ a b, joined (piecesAt ascii level depth v) = (a, none) ∧
      joined (itemPieces ascii level depth (',' :: newLine level) vs) = (b, none) ∧
      text = lead ++ (a ++ b) := by
  by_cases hint : ∃ n, v = .int n
  · obtain ⟨n, rfl⟩ := hint
    rw [itemPieces] at h
    rw [piecesAt]
    cases hpiece : integerPiece n with
    | error fault =>
      rw [hpiece] at h
      cases h
    | ok t =>
      rw [hpiece, Except.map] at h
      obtain ⟨b, hb, rfl⟩ := joined_cons_eq_iff.mp h
      exact ⟨t, b, joined_cons_eq_iff.mpr ⟨[], rfl, (List.append_nil t).symm⟩, hb,
        List.append_assoc ..⟩
  · rw [itemPieces, List.cons_append, joined_cons_eq_iff] at h
    · obtain ⟨rest, hrest, rfl⟩ := h
      obtain ⟨a, b, ha, hb, rfl⟩ := joined_append_eq_iff.mp hrest
      exact ⟨a, b, ha, hb, rfl⟩
    · exact fun n hn ↦ hint ⟨n, hn⟩

theorem exists_of_joined_fieldPieces {lead : Text} {field : Text × Value} {fields : Fields}
    (h : joined (fieldPieces ascii level depth lead (field :: fields)) = (text, none)) :
    ∃ a b, joined (piecesAt ascii level depth field.2) = (a, none) ∧
      joined (fieldPieces ascii level depth (',' :: newLine level) fields) = (b, none) ∧
      text = lead ++ (jsonText ascii field.1 ++ ':' :: ' ' :: (a ++ b)) := by
  rw [fieldPieces, List.cons_append, List.cons_append, List.cons_append, joined_cons_eq_iff] at h
  obtain ⟨keyed, hkeyed, rfl⟩ := h
  obtain ⟨valued, hvalued, rfl⟩ := joined_cons_eq_iff.mp hkeyed
  obtain ⟨rest, hrest, rfl⟩ := joined_cons_eq_iff.mp hvalued
  obtain ⟨a, b, ha, hb, rfl⟩ := joined_append_eq_iff.mp hrest
  exact ⟨a, b, ha, hb, rfl⟩

/-- What is written without a fault is the text of a value that can be read back. -/
def WritesBack (ascii : Bool) (level depth : Nat) (v : Value) : Prop :=
  ∀ text, joined (piecesAt ascii level depth v) = (text, none) →
    text = jsonAt ascii level v ∧ Plain depth v

theorem writesBack_items (v : Value) (vs : List Value)
    (h : ∀ w ∈ v :: vs, WritesBack ascii level depth w) {lead : Text}
    (hjoined : joined (itemPieces ascii level depth lead (v :: vs)) = (text, none)) :
    text = lead ++ jsonItemsAt ascii level (v :: vs) ∧ ∀ w ∈ v :: vs, Plain depth w := by
  induction vs generalizing v lead text with
  | nil =>
    obtain ⟨a, b, ha, hb, rfl⟩ := exists_of_joined_itemPieces hjoined
    obtain ⟨rfl, hplain⟩ := h v List.mem_cons_self a ha
    cases hb
    rw [jsonItemsAt, List.append_nil]
    exact ⟨rfl, List.forall_mem_singleton.mpr hplain⟩
  | cons w ws ih =>
    obtain ⟨a, b, ha, hb, rfl⟩ := exists_of_joined_itemPieces hjoined
    obtain ⟨rfl, hplain⟩ := h v List.mem_cons_self a ha
    obtain ⟨rfl, hplains⟩ := ih w (fun x hx ↦ h x (List.mem_cons_of_mem v hx)) hb
    refine ⟨?_, List.forall_mem_cons.mpr ⟨hplain, hplains⟩⟩
    rw [jsonItemsAt_cons_cons]
    rfl

theorem writesBack_fields (field : Text × Value) (fields : Fields)
    (h : ∀ f ∈ field :: fields, WritesBack ascii level depth f.2) {lead : Text}
    (hjoined : joined (fieldPieces ascii level depth lead (field :: fields)) = (text, none)) :
    text = lead ++ jsonFieldsAt ascii level (field :: fields) ∧
      ∀ f ∈ field :: fields, Plain depth f.2 := by
  induction fields generalizing field lead text with
  | nil =>
    obtain ⟨a, b, ha, hb, rfl⟩ := exists_of_joined_fieldPieces hjoined
    obtain ⟨rfl, hplain⟩ := h field List.mem_cons_self a ha
    cases hb
    rw [jsonFieldsAt_singleton, List.append_nil]
    exact ⟨rfl, List.forall_mem_singleton.mpr hplain⟩
  | cons next fields ih =>
    obtain ⟨a, b, ha, hb, rfl⟩ := exists_of_joined_fieldPieces hjoined
    obtain ⟨rfl, hplain⟩ := h field List.mem_cons_self a ha
    obtain ⟨rfl, hplains⟩ := ih next (fun f hf ↦ h f (List.mem_cons_of_mem field hf)) hb
    refine ⟨?_, List.forall_mem_cons.mpr ⟨hplain, hplains⟩⟩
    rw [jsonFieldsAt_cons_cons]
    rfl

theorem joined_singleton_eq_iff {t : Text} : joined [.ok t] = (text, none) ↔ text = t := by
  simp [joined, eq_comm]

theorem Exact.writesBack (h : Exact v) (ascii : Bool) (level depth : Nat) :
    WritesBack ascii level depth v := by
  -- the pieces of a list or an object are those of its items or fields and the closing bracket
  induction h generalizing level depth with
  | null => exact fun text hjoined ↦ ⟨joined_singleton_eq_iff.mp hjoined, .null depth⟩
  | bool b => exact fun text hjoined ↦ ⟨joined_singleton_eq_iff.mp hjoined, .bool depth b⟩
  | int n =>
    intro text hjoined
    rw [piecesAt] at hjoined
    cases hpiece : integerPiece n with
    | error fault =>
      rw [hpiece] at hjoined
      cases hjoined
    | ok t =>
      obtain ⟨rfl, hn⟩ := integerPiece_eq_ok hpiece
      rw [hpiece] at hjoined
      exact ⟨joined_singleton_eq_iff.mp hjoined, .int depth hn⟩
  | text t => exact fun text hjoined ↦ ⟨joined_singleton_eq_iff.mp hjoined, .text depth t⟩
  | @list items hitems ih =>
    intro text hjoined
    cases depth with
    | zero => cases hjoined
    | succ depth =>
      cases items with
      | nil => exact ⟨joined_singleton_eq_iff.mp hjoined, .list fun v hv ↦ by cases hv⟩
      | cons v vs =>
        rw [piecesAt, joined_append_eq_iff] at hjoined
        obtain ⟨a, b, ha, hb, rfl⟩ := hjoined
        obtain ⟨rfl, hplains⟩ :=
          writesBack_items v vs (fun w hw ↦ ih w hw (level + 1) depth) ha
        cases hb
        exact ⟨by simp [jsonAt], .list hplains⟩
  | @object fields hkeys hfields ih =>
    intro text hjoined
    cases depth with
    | zero => cases hjoined
    | succ depth =>
      cases fields with
      | nil => exact ⟨joined_singleton_eq_iff.mp hjoined, .object hkeys fun f hf ↦ by cases hf⟩
      | cons field fields =>
        rw [piecesAt, joined_append_eq_iff] at hjoined
        obtain ⟨a, b, ha, hb, rfl⟩ := hjoined
        obtain ⟨rfl, hplains⟩ :=
          writesBack_fields field fields (fun f hf ↦ ih f hf (level + 1) depth) ha
        cases hb
        exact ⟨by simp [jsonAt], .object hkeys hplains⟩

/-! No carriage return is written. -/

theorem notMem_hexDigits (width n : Nat) : '\r' ∉ Text.hexDigits width n := by
  have hdigit : ∀ m < 16, Nat.digitChar m ≠ '\r' := by decide
  induction width generalizing n with
  | zero => exact List.not_mem_nil
  | succ width ih =>
    rw [Text.hexDigits, List.mem_append, List.mem_singleton, not_or]
    exact ⟨ih (n / 16), Ne.symm (hdigit _ (Nat.mod_lt n (by decide)))⟩

theorem notMem_jsonChar (ascii : Bool) (c : Char) : '\r' ∉ jsonChar ascii c := by
  have hunit (n : Nat) : '\r' ∉ ("\\u" ++ Text.hexDigits 4 n : Text) := by
    rw [List.mem_append, not_or]
    exact ⟨by decide, notMem_hexDigits 4 n⟩
  have hcases {p : Prop} [Decidable p] {t u : Text} (ht : p → '\r' ∉ t) (hu : ¬p → '\r' ∉ u) :
      '\r' ∉ if p then t else u := by
    by_cases hp : p
    · rw [if_pos hp]; exact ht hp
    · rw [if_neg hp]; exact hu hp
  rw [jsonChar]
  refine hcases (fun _ ↦ by decide) fun _ ↦ hcases (fun _ ↦ by decide) fun _ ↦
    hcases (fun _ ↦ by decide) fun _ ↦ hcases (fun _ ↦ by decide) fun hreturn ↦
    hcases (fun _ ↦ by decide) fun _ ↦ hcases (fun _ ↦ by decide) fun _ ↦
    hcases (fun _ ↦ by decide) fun _ ↦ hcases (fun _ ↦ hunit _) fun _ ↦
    hcases (fun _ ↦ List.mem_singleton.not.mpr (Ne.symm hreturn)) fun _ ↦
    hcases (fun _ ↦ hunit _) fun _ ↦ ?_
  rw [List.append_assoc, List.mem_append, not_or]
  exact ⟨hunit _, hunit _⟩

theorem notMem_jsonText (ascii : Bool) (t : Text) : '\r' ∉ jsonText ascii t := by
  simp [jsonText, notMem_jsonChar]

theorem notMem_newLine (level : Nat) : '\r' ∉ newLine level := by
  simp [newLine]

theorem notMem_ofInt (n : Int) : '\r' ∉ Text.ofInt n := by
  have hdigits (m : Nat) : '\r' ∉ Text.ofNat m := fun h ↦ by
    have hdigit := isDigit_of_mem_ofNat h
    cases hdigit
  rcases ofInt_cases n with ⟨m, -, htext⟩ | ⟨m, -, htext⟩
  · exact htext ▸ hdigits m
  · rw [htext, List.mem_cons, not_or]
    exact ⟨by decide, hdigits m⟩

theorem notMem_jsonItemsAt (v : Value) (vs : List Value)
    (h : ∀ w ∈ v :: vs, '\r' ∉ jsonAt ascii level w) :
    '\r' ∉ jsonItemsAt ascii level (v :: vs) := by
  induction vs generalizing v with
  | nil => exact h v List.mem_cons_self
  | cons w ws ih =>
    have hrest := ih w fun x hx ↦ h x (List.mem_cons_of_mem v hx)
    rw [jsonItemsAt_cons_cons]
    simp [h v List.mem_cons_self, notMem_newLine, hrest]

theorem notMem_jsonFieldsAt (field : Text × Value) (fields : Fields)
    (h : ∀ f ∈ field :: fields, '\r' ∉ jsonAt ascii level f.2) :
    '\r' ∉ jsonFieldsAt ascii level (field :: fields) := by
  induction fields generalizing field with
  | nil =>
    rw [jsonFieldsAt_singleton]
    simp [notMem_jsonText, h field List.mem_cons_self]
  | cons next fields ih =>
    have hrest := ih next fun f hf ↦ h f (List.mem_cons_of_mem field hf)
    rw [jsonFieldsAt_cons_cons]
    simp [notMem_jsonText, h field List.mem_cons_self, notMem_newLine, hrest]

theorem Plain.notMem_jsonAt (h : Plain depth v) (ascii : Bool) (level : Nat) :
    '\r' ∉ jsonAt ascii level v := by
  induction h generalizing level with
  | null => rw [jsonAt]; decide
  | bool _ b => cases b <;> rw [jsonAt] <;> decide
  | @int _ n => exact notMem_ofInt n
  | text _ t => exact notMem_jsonText ascii t
  | @list deep items _ ih =>
    cases items with
    | nil => rw [jsonAt]; decide
    | cons v vs =>
      have hitems := notMem_jsonItemsAt v vs fun w hw ↦ ih w hw (level + 1)
      simp [jsonAt, notMem_newLine, hitems]
  | @object deep fields _ _ ih =>
    cases fields with
    | nil => rw [jsonAt]; decide
    | cons field fields =>
      have hfields := notMem_jsonFieldsAt field fields fun f hf ↦ ih f hf (level + 1)
      simp [jsonAt, notMem_newLine, hfields]

theorem Exact.load_of_joined (h : Exact v) (hjoined : joined (v.pieces ascii) = (text, none)) :
    '\r' ∉ text ∧ load text = .ok v := by
  obtain ⟨rfl, hplain⟩ := h.writesBack ascii 0 deepest text hjoined
  refine ⟨hplain.notMem_jsonAt ascii 0, ?_⟩
  have hread := hplain.ofJson_json (Nat.le_refl _) ascii [] (by simp)
  rw [List.append_nil] at hread
  rw [load, ← json, hread]
  rfl

end Value

end SasMigration
