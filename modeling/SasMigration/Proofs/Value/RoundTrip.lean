import Mathlib.Data.List.Nodup
import Mathlib.Tactic.Common
import SasMigration.Proofs.Value.Integer

namespace SasMigration

namespace Fields

variable {κ : Type} [DecidableEq κ]

theorem putKey_of_notMem {fields : List (κ × Value)} {key : κ} (h : key ∉ fields.map (·.1))
    (v : Value) : putKey key v fields = fields ++ [(key, v)] := by
  induction fields with
  | nil => rfl
  | cons field fields ih =>
    rw [List.map_cons, List.mem_cons, not_or] at h
    rw [putKey, if_neg (Ne.symm h.1), ih h.2, List.cons_append]

theorem putKey_of_nodup {done fields : List (κ × Value)} {field : κ × Value}
    (h : ((done ++ field :: fields).map (·.1)).Nodup) :
    putKey field.1 field.2 done = done ++ [field] := by
  rw [List.map_append, List.nodup_append] at h
  exact putKey_of_notMem (fun hmem ↦ h.2.2 field.1 hmem field.1 (by simp) rfl) field.2

end Fields

namespace CodePoint

def ofText (t : Text) : List CodePoint := t.map .char

theorem ofText_injective : Function.Injective ofText :=
  List.map_injective_iff.mpr fun _ _ ↦ CodePoint.char.inj

@[simp] theorem toText_ofText (t : Text) : toText (ofText t) = t := by
  rw [toText, ofText, List.map_map]
  exact List.map_id t

end CodePoint

namespace Value

/-! Quoted texts -/

theorem hexValue?_digitChar : ∀ n < 16, Text.hexValue? (Nat.digitChar n) = some n := by decide

theorem readUnit_hexDigits {n : Nat} (h : n < 0x10000) (rest : Text) :
    readUnit (Text.hexDigits 4 n ++ rest) = some (n, rest) := by
  have hdigits : Text.hexDigits 4 n ++ rest =
      Nat.digitChar (n / 16 / 16 / 16 % 16) :: Nat.digitChar (n / 16 / 16 % 16) ::
        Nat.digitChar (n / 16 % 16) :: Nat.digitChar (n % 16) :: rest := by
    simp [Text.hexDigits]
  have hvalue (m : Nat) : Text.hexValue? (Nat.digitChar (m % 16)) = some (m % 16) :=
    hexValue?_digitChar _ (Nat.mod_lt _ (by decide))
  rw [hdigits, readUnit, hvalue, hvalue, hvalue, hvalue]
  refine congrArg some (Prod.ext ?_ rfl)
  dsimp only
  omega

theorem readUnits_single {n : Nat} (h : n < 0xd800 ∨ 0xdfff < n) (hn : n < 0x10000) (rest : Text) :
    readUnits (Text.hexDigits 4 n ++ rest) = some (.char (Char.ofNat n), rest) := by
  have hhigh : isHighUnit n = false := by
    simp only [isHighUnit, Bool.and_eq_false_iff, decide_eq_false_iff_not]
    omega
  have hlow : isLowUnit n = false := by
    simp only [isLowUnit, Bool.and_eq_false_iff, decide_eq_false_iff_not]
    omega
  rw [readUnits, readUnit_hexDigits hn]
  simp [hhigh, hlow]

theorem readUnits_pair {n : Nat} (h : n < 0x100000) (rest : Text) :
    readUnits (Text.hexDigits 4 (0xd800 + n / 0x400) ++
        ('\\' :: 'u' :: (Text.hexDigits 4 (0xdc00 + n % 0x400) ++ rest))) =
      some (.char (Char.ofNat (0x10000 + n)), rest) := by
  have hhigh : isHighUnit (0xd800 + n / 0x400) = true := by
    simp only [isHighUnit, Bool.and_eq_true, decide_eq_true_eq]
    omega
  have hlow : isLowUnit (0xdc00 + n % 0x400) = true := by
    simp only [isLowUnit, Bool.and_eq_true, decide_eq_true_eq]
    omega
  have hcode : 0x10000 + n / 0x400 * 0x400 + n % 0x400 = 0x10000 + n := by omega
  rw [readUnits, readUnit_hexDigits (by omega)]
  simp [hhigh, readUnit_hexDigits (show 0xdc00 + n % 0x400 < 0x10000 by omega), hlow, hcode]

theorem readQuoted_escape {n : Nat} {rest after : Text} {d : CodePoint}
    (h : readUnits rest = some (d, after)) :
    readQuoted (n + 1) ('\\' :: 'u' :: rest) =
      (readQuoted n after).map fun p ↦ (d :: p.1, p.2) := by
  rw [readQuoted]
  simp [h]

theorem readQuoted_jsonChar (ascii : Bool) (c : Char) (n : Nat) (rest : Text) :
    readQuoted (n + 1) (jsonChar ascii c ++ rest) =
      (readQuoted n rest).map fun p ↦ (.char c :: p.1, p.2) := by
  have hvalid : c.toNat < 0xd800 ∨ 0xdfff < c.toNat ∧ c.toNat < 0x110000 := c.valid
  have hsingle (hn : c.toNat < 0x10000) :
      readQuoted (n + 1) ('\\' :: 'u' :: (Text.hexDigits 4 c.toNat ++ rest)) =
        (readQuoted n rest).map fun p ↦ (.char c :: p.1, p.2) := by
    have hread := readUnits_single (by omega) hn rest
    rw [Char.ofNat_toNat] at hread
    exact readQuoted_escape hread
  by_cases h₁ : c = '"'
  · subst h₁; rfl
  by_cases h₂ : c = '\\'
  · subst h₂; rfl
  by_cases h₃ : c = '\n'
  · subst h₃; rfl
  by_cases h₄ : c = '\r'
  · subst h₄; rfl
  by_cases h₅ : c = '\t'
  · subst h₅; rfl
  by_cases h₆ : c = Char.ofNat 8
  · subst h₆; rfl
  by_cases h₇ : c = Char.ofNat 12
  · subst h₇; rfl
  rw [jsonChar, if_neg h₁, if_neg h₂, if_neg h₃, if_neg h₄, if_neg h₅, if_neg h₆, if_neg h₇]
  by_cases h₈ : c.toNat < 32
  · rw [if_pos h₈]
    exact hsingle (by omega)
  rw [if_neg h₈]
  by_cases h₉ : (!ascii || c.toNat < 127) = true
  · rw [if_pos h₉, List.singleton_append, readQuoted.eq_def]
    dsimp only
    rw [if_neg h₁, if_neg h₈, if_neg h₂]
  rw [if_neg h₉]
  by_cases h₁₀ : c.toNat < 0x10000
  · rw [if_pos h₁₀]
    exact hsingle h₁₀
  · have hread := readUnits_pair (n := c.toNat - 0x10000) (by omega) rest
    rw [show 0x10000 + (c.toNat - 0x10000) = c.toNat by omega, Char.ofNat_toNat] at hread
    rw [if_neg h₁₀]
    simpa using readQuoted_escape hread

theorem readQuoted_flatMap (ascii : Bool) (t : Text) {n : Nat} (h : t.length < n) (rest : Text) :
    readQuoted n (t.flatMap (jsonChar ascii) ++ '"' :: rest) =
      some (CodePoint.ofText t, rest) := by
  induction t generalizing n with
  | nil =>
    obtain ⟨n, rfl⟩ := Nat.exists_eq_add_one.mpr h
    rfl
  | cons c t ih =>
    obtain ⟨n, rfl⟩ := Nat.exists_eq_add_one.mpr (Nat.zero_lt_of_lt h)
    rw [List.flatMap_cons, List.append_assoc, readQuoted_jsonChar,
      ih (Nat.lt_of_succ_lt_succ h)]
    rfl

theorem jsonChar_ne_nil (ascii : Bool) (c : Char) : jsonChar ascii c ≠ [] := by
  intro h
  have hread := readQuoted_jsonChar ascii c 1 ['"']
  rw [h] at hread
  cases hread

theorem length_le_length_flatMap (ascii : Bool) (t : Text) :
    t.length ≤ (t.flatMap (jsonChar ascii)).length := by
  induction t with
  | nil => exact Nat.le_refl _
  | cons c t ih =>
    have hc := List.length_pos_of_ne_nil (jsonChar_ne_nil ascii c)
    rw [List.flatMap_cons, List.length_append, List.length_cons]
    omega

theorem jsonText_append (ascii : Bool) (t rest : Text) :
    jsonText ascii t ++ rest = '"' :: (t.flatMap (jsonChar ascii) ++ '"' :: rest) := by
  simp [jsonText]

theorem readQuotedWhole_flatMap (ascii : Bool) (t rest : Text) :
    readQuotedWhole (t.flatMap (jsonChar ascii) ++ '"' :: rest) =
      .ok (CodePoint.ofText t, rest) := by
  have hlength := length_le_length_flatMap ascii t
  rw [readQuotedWhole, readQuoted_flatMap ascii t _ rest]
  · rfl
  · rw [List.length_append, List.length_cons]
    omega

/-! Blanks -/

theorem skipBlanks_cons {c : Char} (h : isJsonBlank c = false) (rest : Text) :
    skipBlanks (c :: rest) = c :: rest :=
  List.dropWhile_cons_of_neg (by simp [h])

theorem skipBlanks_append {blanks : Text} (h : ∀ c ∈ blanks, isJsonBlank c) (rest : Text) :
    skipBlanks (blanks ++ rest) = skipBlanks rest :=
  List.dropWhile_append_of_pos h

theorem isJsonBlank_of_mem_newLine {level : Nat} {c : Char} (h : c ∈ newLine level) :
    isJsonBlank c := by
  rcases List.mem_cons.mp h with rfl | h
  · rfl
  · rw [List.eq_of_mem_replicate h]
    rfl

theorem skipBlanks_newLine (level : Nat) {c : Char} (h : isJsonBlank c = false) (rest : Text) :
    skipBlanks (newLine level ++ c :: rest) = c :: rest := by
  rw [skipBlanks_append fun _ ↦ isJsonBlank_of_mem_newLine, skipBlanks_cons h]

theorem isNumberChar_of_isJsonBlank {c : Char} (h : isJsonBlank c) : isNumberChar c = false := by
  have hblanks : ([' ', '\t', '\n', '\r'].all (!isNumberChar ·)) = true := by decide
  have hmem : c ∈ [' ', '\t', '\n', '\r'] := by simpa [isJsonBlank, or_assoc] using h
  simpa using List.all_eq_true.mp hblanks c hmem

theorem endsNumber_append {blanks : Text} (h : ∀ c ∈ blanks, isJsonBlank c) {rest : Text}
    (hrest : EndsNumber rest) : EndsNumber (blanks ++ rest) := by
  cases blanks with
  | nil => exact hrest
  | cons b blanks =>
    intro c hc
    cases hc
    exact isNumberChar_of_isJsonBlank (h b List.mem_cons_self)

theorem endsNumber_newLine (level : Nat) {rest : Text} (h : EndsNumber rest) :
    EndsNumber (newLine level ++ rest) :=
  endsNumber_append (fun _ ↦ isJsonBlank_of_mem_newLine) h

theorem endsNumber_cons {c : Char} (h : isNumberChar c = false) (rest : Text) :
    EndsNumber (c :: rest) := by
  intro d hd
  cases hd
  exact h

/-! Values -/

/-- A value of nulls, booleans, integers of not too many digits, texts, lists and objects with
distinct keys, nested at most so deep. -/
inductive Plain : Nat → Value → Prop
  | null (deep : Nat) : Plain deep .null
  | bool (deep : Nat) (b : Bool) : Plain deep (.bool b)
  | int (deep : Nat) {n : Int} :
      (Text.ofNat n.natAbs).length ≤ Text.mostDigits → Plain deep (.int n)
  | text (deep : Nat) (t : Text) : Plain deep (.text t)
  | list {deep : Nat} {items : List Value} :
      (∀ v ∈ items, Plain deep v) → Plain (deep + 1) (.list items)
  | object {deep : Nat} {fields : Fields} :
      (fields.map (·.1)).Nodup → (∀ field ∈ fields, Plain deep field.2) →
      Plain (deep + 1) (.object fields)

theorem Plain.exists_jsonAt_eq_cons {deep : Nat} {v : Value} (h : Plain deep v) (ascii : Bool)
    (level : Nat) :
    ∃ c t, jsonAt ascii level v = c :: t ∧ isJsonBlank c = false ∧ c ≠ ']' := by
  cases h with
  | null => exact ⟨'n', "ull", rfl, rfl, by decide⟩
  | bool _ b =>
    cases b with
    | false => exact ⟨'f', "alse", rfl, rfl, by decide⟩
    | true => exact ⟨'t', "rue", rfl, rfl, by decide⟩
  | @int deep n h =>
    have hfirst : (('-' :: "0123456789".toList).all fun c ↦ !isJsonBlank c && c != ']') = true := by
      decide
    obtain ⟨c, t, htext, hmem⟩ := exists_ofInt_eq_cons n
    have hc := List.all_eq_true.mp hfirst c hmem
    rw [Bool.and_eq_true, Bool.not_eq_true', bne_iff_ne] at hc
    exact ⟨c, t, htext, hc⟩
  | text t => exact ⟨'"', _, rfl, rfl, by decide⟩
  | @list deep items h =>
    cases items with
    | nil => exact ⟨'[', "]", rfl, rfl, by decide⟩
    | cons v vs => exact ⟨'[', _, rfl, rfl, by decide⟩
  | @object deep fields h =>
    cases fields with
    | nil => exact ⟨Char.ofNat 123, [Char.ofNat 125], rfl, rfl, by decide⟩
    | cons field fields => exact ⟨Char.ofNat 123, _, rfl, rfl, by decide⟩

/-- A value is read from the front of a text that begins with its own, if there is work enough and
the rest does not go on with a number. -/
def ReadBack (ascii : Bool) (level depth : Nat) (v : Value) : Prop :=
  ∀ n rest, EndsNumber rest → 2 * (jsonAt ascii level v).length ≤ n →
    readValue n depth (jsonAt ascii level v ++ rest) = .ok (v, rest)

section Steps

variable {n depth : Nat} {t rest more after : Text} {v : Value}

theorem readItems_last (h : readValue n depth t = .ok (v, rest))
    (hrest : skipBlanks rest = ']' :: after) : readItems (n + 1) depth t = .ok ([v], after) := by
  rw [readItems.eq_def]
  simp only [h, bind, Except.bind, hrest]
  rfl

theorem readItems_more {vs : List Value} (h : readValue n depth t = .ok (v, rest))
    (hrest : skipBlanks rest = ',' :: more)
    (hmore : readItems n depth (skipBlanks more) = .ok (vs, after)) :
    readItems (n + 1) depth t = .ok (v :: vs, after) := by
  rw [readItems.eq_def]
  simp only [h, bind, Except.bind, hrest, hmore]
  rfl

variable {keyed : Text} {key : List CodePoint} {members : Members}

theorem readFields_last (hkey : readQuotedWhole t = .ok (key, keyed))
    (hkeyed : skipBlanks keyed = ':' :: more)
    (h : readValue n depth (skipBlanks more) = .ok (v, rest))
    (hrest : skipBlanks rest = Char.ofNat 125 :: after) :
    readFields (n + 1) depth ('"' :: t) members = .ok (Fields.putKey key v members, after) := by
  rw [readFields.eq_def]
  simp only [hkey, bind, Except.bind, hkeyed, h, hrest, if_true]
  rfl

theorem readFields_more {next : Text} {all : Members}
    (hkey : readQuotedWhole t = .ok (key, keyed)) (hkeyed : skipBlanks keyed = ':' :: more)
    (h : readValue n depth (skipBlanks more) = .ok (v, rest))
    (hrest : skipBlanks rest = ',' :: next)
    (hmore : readFields n depth (skipBlanks next) (Fields.putKey key v members) =
      .ok (all, after)) :
    readFields (n + 1) depth ('"' :: t) members = .ok (all, after) := by
  have hne : (',' : Char) ≠ Char.ofNat 125 := by decide
  rw [readFields.eq_def]
  simp only [hkey, bind, Except.bind, hkeyed, h, hrest, if_neg hne, if_true, hmore]

end Steps

theorem jsonItemsAt_cons_cons (ascii : Bool) (level : Nat) (v w : Value) (vs : List Value) :
    jsonItemsAt ascii level (v :: w :: vs) =
      jsonAt ascii level v ++ ',' :: (newLine level ++ jsonItemsAt ascii level (w :: vs)) := by
  rw [jsonItemsAt, List.append_assoc, List.cons_append]
  simp

theorem exists_jsonItemsAt_eq_cons {deep : Nat} {v : Value} (h : Plain deep v) (vs : List Value)
    (ascii : Bool) (level : Nat) :
    ∃ c t, jsonItemsAt ascii level (v :: vs) = c :: t ∧ isJsonBlank c = false ∧ c ≠ ']' := by
  obtain ⟨c, t, htext, hc⟩ := h.exists_jsonAt_eq_cons ascii level
  cases vs with
  | nil => exact ⟨c, t, htext, hc⟩
  | cons w ws => exact ⟨c, _, by rw [jsonItemsAt_cons_cons, htext, List.cons_append], hc⟩

theorem readItems_jsonItemsAt {ascii : Bool} {level depth deep : Nat} (v : Value)
    (vs : List Value) (hplain : ∀ w ∈ v :: vs, Plain deep w)
    (hread : ∀ w ∈ v :: vs, ReadBack ascii level depth w) (outer : Nat) (rest : Text) {n : Nat}
    (hn : 2 * (jsonItemsAt ascii level (v :: vs)).length < n) :
    readItems n depth (jsonItemsAt ascii level (v :: vs) ++ (newLine outer ++ ']' :: rest)) =
      .ok (v :: vs, rest) := by
  obtain ⟨n, rfl⟩ := Nat.exists_eq_add_one.mpr (Nat.zero_lt_of_lt hn)
  induction vs generalizing v n with
  | nil =>
    rw [jsonItemsAt] at hn ⊢
    have hend := endsNumber_newLine outer (@endsNumber_cons ']' rfl rest)
    exact readItems_last (hread v List.mem_cons_self n _ hend (by omega))
      (skipBlanks_newLine outer rfl rest)
  | cons w ws ih =>
    obtain ⟨c, t, htext, hc, -⟩ :=
      exists_jsonItemsAt_eq_cons (hplain w (by simp)) ws ascii level
    rw [jsonItemsAt_cons_cons, List.length_append, List.length_cons, List.length_append] at hn
    obtain ⟨n, rfl⟩ := Nat.exists_eq_add_one.mpr (show 0 < n by omega)
    have hmore := ih w (fun x hx ↦ hplain x (List.mem_cons_of_mem v hx))
      (fun x hx ↦ hread x (List.mem_cons_of_mem v hx)) n (by omega)
    rw [jsonItemsAt_cons_cons, List.append_assoc, List.cons_append, List.append_assoc]
    have hend := @endsNumber_cons ',' rfl (newLine level ++
      (jsonItemsAt ascii level (w :: ws) ++ (newLine outer ++ ']' :: rest)))
    refine readItems_more (hread v List.mem_cons_self _ _ hend (by omega))
      (skipBlanks_cons rfl _) ?_
    rw [htext, List.cons_append] at hmore ⊢
    rw [skipBlanks_newLine level hc]
    exact hmore

theorem Plain.skipBlanks_jsonAt {deep : Nat} {v : Value} (h : Plain deep v) (ascii : Bool)
    (level : Nat) (rest : Text) :
    skipBlanks (' ' :: (jsonAt ascii level v ++ rest)) = jsonAt ascii level v ++ rest := by
  obtain ⟨c, t, htext, hc, -⟩ := h.exists_jsonAt_eq_cons ascii level
  rw [htext, List.cons_append]
  exact skipBlanks_cons hc (t ++ rest)

theorem ReadBack.after_blank {ascii : Bool} {level depth deep : Nat} {v : Value}
    (h : ReadBack ascii level depth v) (hplain : Plain deep v) {n : Nat}
    (hn : 2 * (jsonAt ascii level v).length ≤ n) {rest : Text} (hrest : EndsNumber rest) :
    readValue n depth (skipBlanks (' ' :: (jsonAt ascii level v ++ rest))) = .ok (v, rest) := by
  rw [hplain.skipBlanks_jsonAt]
  exact h n rest hrest hn

theorem jsonFieldsAt_singleton (ascii : Bool) (level : Nat) (field : Text × Value) :
    jsonFieldsAt ascii level [field] =
      jsonText ascii field.1 ++ ':' :: ' ' :: jsonAt ascii level field.2 := by
  rw [jsonFieldsAt]
  simp

theorem jsonFieldsAt_cons_cons (ascii : Bool) (level : Nat) (field next : Text × Value)
    (fields : Fields) :
    jsonFieldsAt ascii level (field :: next :: fields) =
      jsonText ascii field.1 ++ ':' :: ' ' :: (jsonAt ascii level field.2 ++
        ',' :: (newLine level ++ jsonFieldsAt ascii level (next :: fields))) := by
  rw [jsonFieldsAt]
  · simp
  · simp

theorem exists_jsonFieldsAt_eq_cons (ascii : Bool) (level : Nat) (field : Text × Value)
    (fields : Fields) : ∃ t, jsonFieldsAt ascii level (field :: fields) = '"' :: t := by
  cases fields with
  | nil => exact ⟨_, jsonFieldsAt_singleton ascii level field⟩
  | cons next fields => exact ⟨_, jsonFieldsAt_cons_cons ascii level field next fields⟩

def membersOf (fields : Fields) : Members := fields.map fun f ↦ (CodePoint.ofText f.1, f.2)

theorem ofMembers_membersOf (fields : Fields) : ofMembers (membersOf fields) = .object fields := by
  rw [ofMembers, membersOf, List.map_map]
  simp [Function.comp_def]

theorem nodup_membersOf {fields : Fields} (h : (fields.map (·.1)).Nodup) :
    ((membersOf fields).map (·.1)).Nodup := by
  have hkeys : (membersOf fields).map (·.1) = (fields.map (·.1)).map CodePoint.ofText := by
    rw [membersOf, List.map_map, List.map_map]
    rfl
  rw [hkeys]
  exact List.Nodup.map CodePoint.ofText_injective h

theorem putKey_membersOf {done fields : Fields} {field : Text × Value}
    (h : ((done ++ field :: fields).map (·.1)).Nodup) :
    Fields.putKey (CodePoint.ofText field.1) field.2 (membersOf done) =
      membersOf (done ++ [field]) := by
  have hnodup := nodup_membersOf h
  rw [membersOf, List.map_append, List.map_cons] at hnodup
  rw [membersOf, membersOf, List.map_append, List.map_singleton]
  exact Fields.putKey_of_nodup hnodup

theorem readFields_jsonFieldsAt {ascii : Bool} {level depth deep : Nat} (field : Text × Value)
    (fields done : Fields) (hkeys : ((done ++ field :: fields).map (·.1)).Nodup)
    (hplain : ∀ f ∈ field :: fields, Plain deep f.2)
    (hread : ∀ f ∈ field :: fields, ReadBack ascii level depth f.2) (outer : Nat) (rest : Text)
    {n : Nat} (hn : 2 * (jsonFieldsAt ascii level (field :: fields)).length < n) :
    readFields n depth
        (jsonFieldsAt ascii level (field :: fields) ++ (newLine outer ++ Char.ofNat 125 :: rest))
        (membersOf done) = .ok (membersOf (done ++ field :: fields), rest) := by
  obtain ⟨n, rfl⟩ := Nat.exists_eq_add_one.mpr (Nat.zero_lt_of_lt hn)
  have hplain' := hplain field List.mem_cons_self
  have hread' := hread field List.mem_cons_self
  induction fields generalizing field done n with
  | nil =>
    rw [jsonFieldsAt_singleton, List.length_append, List.length_cons, List.length_cons] at hn
    have hv := hread'.after_blank hplain' (show _ ≤ n by omega)
      (endsNumber_newLine outer (@endsNumber_cons (Char.ofNat 125) rfl rest))
    rw [jsonFieldsAt_singleton, List.append_assoc, jsonText_append, ← putKey_membersOf hkeys]
    exact readFields_last (readQuotedWhole_flatMap ascii field.1 _) (skipBlanks_cons rfl _) hv
      (skipBlanks_newLine outer rfl rest)
  | cons next fields ih =>
    obtain ⟨t, htext⟩ := exists_jsonFieldsAt_eq_cons ascii level next fields
    rw [jsonFieldsAt_cons_cons, List.length_append, List.length_cons, List.length_cons,
      List.length_append, List.length_cons, List.length_append] at hn
    obtain ⟨n, rfl⟩ := Nat.exists_eq_add_one.mpr (show 0 < n by omega)
    have hv := hread'.after_blank hplain' (show _ ≤ n + 1 by omega)
      (@endsNumber_cons ',' rfl
        (newLine level ++ '"' :: (t ++ (newLine outer ++ Char.ofNat 125 :: rest))))
    have hmore := ih next (done ++ [field]) (by simpa using hkeys)
      (fun f hf ↦ hplain f (List.mem_cons_of_mem field hf))
      (fun f hf ↦ hread f (List.mem_cons_of_mem field hf)) n (by omega)
      (hplain next (by simp)) (hread next (by simp))
    rw [htext, List.cons_append, List.append_assoc, List.singleton_append,
      ← putKey_membersOf hkeys, ← skipBlanks_newLine level rfl] at hmore
    rw [jsonFieldsAt_cons_cons, htext, List.append_assoc, jsonText_append]
    simp only [List.cons_append, List.append_assoc]
    exact readFields_more (readQuotedWhole_flatMap ascii field.1 _) (skipBlanks_cons rfl _) hv
      (skipBlanks_cons rfl _) hmore

section Steps

variable {n depth : Nat} {t rest after : Text} {c : Char}

theorem readValue_text (ascii : Bool) (n depth : Nat) (t rest : Text) :
    readValue (n + 1) depth (jsonText ascii t ++ rest) = .ok (.text t, rest) := by
  rw [jsonText_append, readValue.eq_def]
  dsimp only
  rw [if_pos rfl, readQuotedWhole_flatMap, Except.map, CodePoint.toText_ofText]

theorem readValue_list {items : List Value} (hrest : skipBlanks rest = c :: t) (hc : c ≠ ']')
    (h : readItems n depth (c :: t) = .ok (items, after)) :
    readValue (n + 1) (depth + 1) ('[' :: rest) = .ok (.list items, after) := by
  rw [readValue.eq_def]
  dsimp only
  rw [if_neg (by decide), if_neg (by decide), if_pos rfl, hrest]
  dsimp only
  rw [if_neg hc, h]
  rfl

theorem readValue_object {members : Members} (hrest : skipBlanks rest = c :: t)
    (hc : c ≠ Char.ofNat 125) (h : readFields n depth (c :: t) [] = .ok (members, after)) :
    readValue (n + 1) (depth + 1) (Char.ofNat 123 :: rest) = .ok (ofMembers members, after) := by
  rw [readValue.eq_def]
  dsimp only
  rw [if_neg (by decide), if_pos rfl, hrest]
  dsimp only
  rw [if_neg hc, h]
  rfl

end Steps

theorem Plain.readBack {deep : Nat} {v : Value} (h : Plain deep v) (ascii : Bool)
    (level depth : Nat) (hdeep : deep ≤ depth) : ReadBack ascii level depth v := by
  -- the texts of items and fields are shorter than the text of the list or object that holds them,
  -- which gives the work for them
  induction h generalizing level depth with
  | null deep =>
    intro n rest _ hn
    obtain ⟨n, rfl⟩ := Nat.exists_eq_add_one.mpr (Nat.zero_lt_of_lt hn)
    rfl
  | bool deep b =>
    intro n rest _ hn
    obtain ⟨n, rfl⟩ := Nat.exists_eq_add_one.mpr
      (show 0 < n from Nat.lt_of_lt_of_le (by cases b <;> exact Nat.zero_lt_succ _) hn)
    cases b <;> rfl
  | @int deep m hm =>
    intro n rest hrest hn
    obtain ⟨c, t, htext, -⟩ := exists_ofInt_eq_cons m
    obtain ⟨n, rfl⟩ := Nat.exists_eq_add_one.mpr
      (show 0 < n from Nat.lt_of_lt_of_le (by simp [jsonAt, htext]) hn)
    exact readValue_int hm hrest n depth
  | text deep t =>
    intro n rest _ hn
    obtain ⟨n, rfl⟩ := Nat.exists_eq_add_one.mpr
      (show 0 < n from Nat.lt_of_lt_of_le (by simp [jsonAt, jsonText]) hn)
    exact readValue_text ascii n depth t rest
  | @list deep items hitems ih =>
    intro n rest _ hn
    obtain ⟨depth, rfl⟩ := Nat.exists_eq_add_one.mpr (Nat.zero_lt_of_lt hdeep)
    cases items with
    | nil =>
      obtain ⟨n, rfl⟩ := Nat.exists_eq_add_one.mpr (Nat.zero_lt_of_lt hn)
      rfl
    | cons v vs =>
      obtain ⟨c, t, htext, hc, hclose⟩ :=
        exists_jsonItemsAt_eq_cons (hitems v List.mem_cons_self) vs ascii (level + 1)
      simp only [jsonAt, List.length_append, List.length_cons] at hn
      obtain ⟨n, rfl⟩ := Nat.exists_eq_add_one.mpr (show 0 < n by omega)
      have hread := readItems_jsonItemsAt v vs hitems
        (fun w hw ↦ ih w hw (level + 1) depth (Nat.le_of_succ_le_succ hdeep)) level rest
        (show _ < n by omega)
      rw [htext, List.cons_append] at hread
      simp only [jsonAt, htext, List.cons_append, List.append_assoc]
      exact readValue_list (skipBlanks_newLine (level + 1) hc _) hclose hread
  | @object deep fields hkeys hfields ih =>
    intro n rest _ hn
    obtain ⟨depth, rfl⟩ := Nat.exists_eq_add_one.mpr (Nat.zero_lt_of_lt hdeep)
    cases fields with
    | nil =>
      obtain ⟨n, rfl⟩ := Nat.exists_eq_add_one.mpr (Nat.zero_lt_of_lt hn)
      rfl
    | cons field fields =>
      obtain ⟨t, htext⟩ := exists_jsonFieldsAt_eq_cons ascii (level + 1) field fields
      simp only [jsonAt, List.length_append, List.length_cons] at hn
      obtain ⟨n, rfl⟩ := Nat.exists_eq_add_one.mpr (show 0 < n by omega)
      have hread := readFields_jsonFieldsAt field fields [] hkeys hfields
        (fun f hf ↦ ih f hf (level + 1) depth (Nat.le_of_succ_le_succ hdeep)) level rest
        (show _ < n by omega)
      rw [htext, List.cons_append] at hread
      simp only [jsonAt, htext, List.cons_append, List.append_assoc]
      rw [← ofMembers_membersOf]
      exact readValue_object (skipBlanks_newLine (level + 1) rfl _) (by decide) hread

theorem Plain.ofJson_json {deep : Nat} {v : Value} (h : Plain deep v) (hdeep : deep ≤ deepest)
    (ascii : Bool) (blanks : Text) (hblanks : ∀ c ∈ blanks, isJsonBlank c) :
    ofJson (v.json ascii ++ blanks) = .ok v := by
  obtain ⟨c, t, htext, hc, -⟩ := h.exists_jsonAt_eq_cons ascii 0
  have hstart : skipBlanks (v.json ascii ++ blanks) = v.json ascii ++ blanks := by
    rw [json, htext, List.cons_append, skipBlanks_cons hc]
  have hend : skipBlanks blanks = [] := by
    rw [← List.append_nil blanks, skipBlanks_append hblanks]
    rfl
  have hblank : EndsNumber blanks := by
    rw [← List.append_nil blanks]
    exact endsNumber_append hblanks fun c hc ↦ by cases hc
  have hread := h.readBack ascii 0 deepest hdeep (2 * (jsonAt ascii 0 v ++ blanks).length + 2)
    blanks hblank (by rw [List.length_append]; omega)
  rw [ofJson, hstart, json, hread]
  simp only [bind, Except.bind, hend]
  rfl

end Value

end SasMigration
