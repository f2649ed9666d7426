import Mathlib.Data.List.TakeWhile
import SasMigration.Proofs.Text.Occurrence
import SasMigration.Value.Reader

namespace SasMigration.Value

open Text (isBlank)

variable {t u r rest taken : Text} {c : Char} {n depth : Nat} {v : Value}

/-- A reader takes `taken` in front of `rest`, and in front of every beginning of `rest`. -/
def Takes {β : Type} (read result : Text → β) (taken rest : Text) : Prop :=
  ∀ r, r <+: rest → read (taken ++ r) = result r

/-- The text ends with a character that is neither blank nor a backtick. -/
def Closed (t : Text) : Prop := ∃ c, t.getLast? = some c ∧ isBlank c = false ∧ c ≠ '`'

theorem closed_concat (t : Text) (hblank : isBlank c = false) (hfence : c ≠ '`') :
    Closed (t ++ [c]) := ⟨c, List.getLast?_concat .., hblank, hfence⟩

theorem Closed.append_left (h : Closed t) (u : Text) : Closed (u ++ t) := by
  obtain ⟨c, hlast, hc⟩ := h
  refine ⟨c, ?_, hc⟩
  rw [List.getLast?_append, hlast, Option.some_or]

theorem Closed.append (h : Closed t) (hu : u = [] ∨ Closed u) : Closed (t ++ u) := by
  rcases hu with rfl | hu
  · rwa [List.append_nil]
  · exact hu.append_left t

theorem prefix_of_eq_append (h : t = u ++ rest) (hr : r <+: rest) : u ++ r <+: t :=
  h ▸ (List.prefix_append_right_inj u).mpr hr

/-! Numbers -/

theorem head?_of_cut (h : r <+: rest) (hc : r.head? = some c) : rest.head? = some c := by
  obtain ⟨s, rfl⟩ := h
  rw [List.head?_append, hc, Option.some_or]

theorem takes_run (pass : Char → Bool) (t : Text) :
    Takes (fun u ↦ (u.takeWhile pass, u.dropWhile pass)) (Prod.mk (t.takeWhile pass))
      (t.takeWhile pass) (t.dropWhile pass) := by
  intro r hr
  have hrun : ∀ c ∈ t.takeWhile pass, pass c := fun c hc ↦ List.mem_takeWhile_imp hc
  dsimp only
  rw [List.takeWhile_append_of_pos hrun, List.dropWhile_append_of_pos hrun]
  cases r with
  | nil => simp
  | cons d r =>
    have hd : pass d = false := by
      have hhead := List.head?_dropWhile_not pass t
      rw [head?_of_cut hr rfl] at hhead
      exact hhead
    simp [hd]

theorem isDigit_cases (h : c.isDigit) : c ∈ "0123456789".toList := by
  have hbody : c.isDigit = (decide (48 ≤ c.val) && decide (c.val ≤ 57)) := rfl
  rw [hbody, Bool.and_eq_true, decide_eq_true_eq, decide_eq_true_eq] at h
  have hcode : c.toNat ∈ List.range' 48 10 := by
    rw [List.mem_range'_1]
    exact ⟨h.1, Nat.lt_succ_of_le h.2⟩
  have hall : ((List.range' 48 10).all fun n ↦ Char.ofNat n ∈ "0123456789".toList) = true := by
    decide
  have hc := List.all_eq_true.mp hall _ hcode
  rwa [Char.ofNat_toNat, decide_eq_true_eq] at hc

theorem closed_of_isDigit (hne : t ≠ []) (h : ∀ c ∈ t, c.isDigit) : Closed t := by
  have hall : ("0123456789".toList.all fun c ↦ !isBlank c && c != '`') = true := by decide
  have hlast := List.all_eq_true.mp hall _ (isDigit_cases (h _ (List.getLast_mem hne)))
  rw [Bool.and_eq_true, Bool.not_eq_true', bne_iff_ne] at hlast
  exact ⟨t.getLast hne, List.getLast?_eq_some_getLast hne, hlast⟩

theorem takes_readWhole {digits : Text} (h : readWhole t = some (digits, rest)) :
    t = digits ++ rest ∧ Closed digits ∧
      Takes readWhole (fun r ↦ some (digits, r)) digits rest := by
  cases t with
  | nil => cases h
  | cons c u =>
    rw [readWhole] at h
    split at h
    · next hzero =>
      obtain ⟨rfl, rfl⟩ := Prod.mk.inj (Option.some.inj h)
      refine ⟨by rw [hzero]; rfl, closed_concat [] (by decide) (by decide), fun r _ ↦ ?_⟩
      rw [List.singleton_append, readWhole, if_pos rfl]
    · next hzero =>
      split at h
      · next hdigit =>
        obtain ⟨rfl, rfl⟩ := Prod.mk.inj (Option.some.inj h)
        refine ⟨?_, closed_of_isDigit (by simp) ?_, fun r hr ↦ ?_⟩
        · rw [List.cons_append, List.takeWhile_append_dropWhile]
        · exact List.forall_mem_cons.mpr ⟨hdigit, fun c hc ↦ List.mem_takeWhile_imp hc⟩
        · obtain ⟨htake, hdrop⟩ := Prod.mk.inj (takes_run Char.isDigit u r hr)
          rw [List.cons_append, readWhole, if_neg hzero, if_pos hdigit, htake, hdrop]
      · cases h

theorem readFraction_point (u : Text) :
    readFraction ('.' :: u) =
      if (u.takeWhile Char.isDigit).isEmpty then (none, '.' :: u)
      else (some (u.takeWhile Char.isDigit), u.dropWhile Char.isDigit) := rfl

theorem readFraction_of_ne (h : t.head? ≠ some '.') : readFraction t = (none, t) := by
  rw [readFraction.eq_def]
  split
  · exact absurd rfl h
  · rfl

theorem takeWhile_of_cut {pass : Char → Bool} (h : u.takeWhile pass = []) (hr : r <+: u) :
    r.takeWhile pass = [] := by
  obtain ⟨s, rfl⟩ := hr
  cases r with
  | nil => rfl
  | cons d r =>
    have hd : pass d = false := by
      by_contra hd
      rw [List.cons_append, List.takeWhile_cons_of_pos (by simpa using hd)] at h
      cases h
    simp [hd]

theorem takes_readFraction (t : Text) :
    ∃ taken, t = taken ++ (readFraction t).2 ∧ (taken = [] ∨ Closed taken) ∧
      Takes readFraction (Prod.mk (readFraction t).1) taken (readFraction t).2 := by
  by_cases hpoint : t.head? = some '.'
  · obtain ⟨u, rfl⟩ := List.head?_eq_some_iff.mp hpoint
    by_cases hdigits : u.takeWhile Char.isDigit = []
    · have hnone : readFraction ('.' :: u) = (none, '.' :: u) := by
        rw [readFraction_point, hdigits]
        rfl
      rw [hnone]
      refine ⟨[], rfl, .inl rfl, fun r hr ↦ ?_⟩
      cases r with
      | nil => rfl
      | cons d r =>
        obtain ⟨rfl, hmore⟩ := List.cons_prefix_cons.mp hr
        rw [List.nil_append, readFraction_point, takeWhile_of_cut hdigits hmore]
        rfl
    · have hsome (u : Text) (h : u.takeWhile Char.isDigit ≠ []) : readFraction ('.' :: u) =
          (some (u.takeWhile Char.isDigit), u.dropWhile Char.isDigit) := by
        rw [readFraction_point, if_neg (by simpa using h)]
      rw [hsome u hdigits]
      refine ⟨'.' :: u.takeWhile Char.isDigit, ?_, .inr ?_, fun r hr ↦ ?_⟩
      · rw [List.cons_append, List.takeWhile_append_dropWhile]
      · exact (closed_of_isDigit hdigits fun c hc ↦ List.mem_takeWhile_imp hc).append_left ['.']
      · obtain ⟨htake, hdrop⟩ := Prod.mk.inj (takes_run Char.isDigit u r hr)
        rw [List.cons_append, hsome _ (by rwa [htake]), htake, hdrop]
  · rw [readFraction_of_ne hpoint]
    exact ⟨[], rfl, .inl rfl, fun r hr ↦ readFraction_of_ne fun h ↦ hpoint (head?_of_cut hr h)⟩

def signed (signs : List (Char × Bool)) : Text → Bool × Text
  | [] => (false, [])
  | c :: u => ((signs.lookup c).map fun negative ↦ (negative, u)).getD (false, c :: u)

theorem takes_signed (signs : List (Char × Bool)) (t : Text) :
    ∃ taken, t = taken ++ (signed signs t).2 ∧
      Takes (signed signs) (Prod.mk (signed signs t).1) taken (signed signs t).2 := by
  cases t with
  | nil =>
    refine ⟨[], rfl, fun r hr ↦ ?_⟩
    rw [List.prefix_nil.mp hr]
    rfl
  | cons c u =>
    cases hsign : signs.lookup c with
    | none =>
      simp only [signed, hsign, Option.map_none, Option.getD_none]
      refine ⟨[], rfl, fun r hr ↦ ?_⟩
      cases r with
      | nil => rfl
      | cons d r =>
        obtain ⟨rfl, -⟩ := List.cons_prefix_cons.mp hr
        simp [signed, hsign]
    | some negative =>
      simp only [signed, hsign, Option.map_some, Option.getD_some]
      exact ⟨[c], rfl, fun r _ ↦ by simp [signed, hsign]⟩

theorem signed_cut (signs : List (Char × Bool)) (h : r <+: t) :
    (signed signs r).2 <+: (signed signs t).2 := by
  cases r with
  | nil => exact List.nil_prefix
  | cons c r =>
    obtain ⟨s, rfl⟩ := h
    rw [List.cons_append, signed, signed]
    cases signs.lookup c with
    | none => exact List.prefix_append (c :: r) s
    | some negative => exact List.prefix_append r s

def exponentSigns : List (Char × Bool) := [('-', true), ('+', false)]

def signedValue (negative : Bool) (digits : Text) : Int :=
  if negative then -Int.ofNat (Text.valueIn 10 digits) else Int.ofNat (Text.valueIn 10 digits)

theorem readExponent_cons (e : Char) (u : Text) :
    readExponent (e :: u) =
      if e = 'e' || e = 'E' then
        if ((signed exponentSigns u).2.takeWhile Char.isDigit).isEmpty then (none, e :: u)
        else (some (signedValue (signed exponentSigns u).1
            ((signed exponentSigns u).2.takeWhile Char.isDigit)),
          (signed exponentSigns u).2.dropWhile Char.isDigit)
      else (none, e :: u) := by
  by_cases hminus : u.head? = some '-'
  · obtain ⟨u, rfl⟩ := List.head?_eq_some_iff.mp hminus
    rfl
  by_cases hplus : u.head? = some '+'
  · obtain ⟨u, rfl⟩ := List.head?_eq_some_iff.mp hplus
    rfl
  have hsigned : signed exponentSigns u = (false, u) := by
    cases u with
    | nil => rfl
    | cons d u =>
      have hminus : d ≠ '-' := fun h ↦ hminus (by rw [h]; rfl)
      have hplus : d ≠ '+' := fun h ↦ hplus (by rw [h]; rfl)
      simp [signed, exponentSigns, List.lookup_cons, beq_eq_false_iff_ne.mpr hminus,
        beq_eq_false_iff_ne.mpr hplus]
  rw [hsigned, readExponent.eq_def]
  dsimp only
  split
  · split
    · next u => exact absurd rfl hminus
    · next u => exact absurd rfl hplus
    · rfl
  · rfl

theorem readExponent_of_ne (h : ∀ e, t.head? = some e → e ≠ 'e' ∧ e ≠ 'E') :
    readExponent t = (none, t) := by
  cases t with
  | nil => rfl
  | cons e u =>
    obtain ⟨hsmall, hcapital⟩ := h e rfl
    rw [readExponent_cons, if_neg (by simp [hsmall, hcapital])]

theorem takes_readExponent (t : Text) :
    ∃ taken, t = taken ++ (readExponent t).2 ∧ (taken = [] ∨ Closed taken) ∧
      Takes readExponent (Prod.mk (readExponent t).1) taken (readExponent t).2 := by
  by_cases hletter : ∃ e, t.head? = some e ∧ (e = 'e' || e = 'E') = true
  · obtain ⟨e, hhead, he⟩ := hletter
    obtain ⟨u, rfl⟩ := List.head?_eq_some_iff.mp hhead
    obtain ⟨sign, hsign, htakes⟩ := takes_signed exponentSigns u
    by_cases hdigits : (signed exponentSigns u).2.takeWhile Char.isDigit = []
    · have hnone (u : Text) (h : (signed exponentSigns u).2.takeWhile Char.isDigit = []) :
          readExponent (e :: u) = (none, e :: u) := by
        rw [readExponent_cons, if_pos he, h]
        rfl
      rw [hnone u hdigits]
      refine ⟨[], rfl, .inl rfl, fun r hr ↦ ?_⟩
      cases r with
      | nil => rfl
      | cons d r =>
        obtain ⟨rfl, hmore⟩ := List.cons_prefix_cons.mp hr
        exact hnone r (takeWhile_of_cut hdigits (signed_cut exponentSigns hmore))
    · have hsome (u : Text) (h : (signed exponentSigns u).2.takeWhile Char.isDigit ≠ []) :
          readExponent (e :: u) = (some (signedValue (signed exponentSigns u).1
            ((signed exponentSigns u).2.takeWhile Char.isDigit)),
            (signed exponentSigns u).2.dropWhile Char.isDigit) := by
        rw [readExponent_cons, if_pos he, if_neg (by simpa using h)]
      rw [hsome u hdigits]
      let digits := (signed exponentSigns u).2.takeWhile Char.isDigit
      have hdigit : ∀ c ∈ digits, c.isDigit := fun c hc ↦ List.mem_takeWhile_imp hc
      have hbody : (signed exponentSigns u).2 =
          digits ++ (signed exponentSigns u).2.dropWhile Char.isDigit :=
        List.takeWhile_append_dropWhile.symm
      refine ⟨e :: (sign ++ digits), ?_, .inr ?_, fun r hr ↦ ?_⟩
      · rw [List.cons_append, List.append_assoc, ← hbody, ← hsign]
      · exact (closed_of_isDigit hdigits hdigit).append_left (e :: sign)
      · have hsigned := htakes (digits ++ r)
          (hbody ▸ (List.prefix_append_right_inj digits).mpr hr)
        obtain ⟨htake, hdrop⟩ := Prod.mk.inj (takes_run Char.isDigit _ r hr)
        rw [List.cons_append, List.append_assoc, hsome _ (by rwa [hsigned, htake]), hsigned, htake,
          hdrop]
  · have hother : ∀ e, t.head? = some e → e ≠ 'e' ∧ e ≠ 'E' := by
      intro e he
      refine ⟨?_, ?_⟩
      · rintro rfl
        exact hletter ⟨_, he, rfl⟩
      · rintro rfl
        exact hletter ⟨_, he, rfl⟩
    rw [readExponent_of_ne hother]
    exact ⟨[], rfl, .inl rfl, fun r hr ↦ readExponent_of_ne fun e he ↦
      hother e (head?_of_cut hr he)⟩

def numberSigns : List (Char × Bool) := [('-', true)]

def numberOf (negative : Bool) (whole : Text) (fraction : Option Text) (exponent : Option Int) :
    Except JsonFault Value :=
  if fraction.isNone && exponent.isNone then
    if Text.mostDigits < whole.length then .error (.longInteger whole.length)
    else .ok (.int (signedValue negative whole))
  else
    .ok (.number (.ofDecimal negative (Text.valueIn 10 (whole ++ fraction.getD []))
      (exponent.getD 0 - Int.ofNat (fraction.getD []).length)))

theorem signed_numberSigns (h : t.head? ≠ some '-') : signed numberSigns t = (false, t) := by
  cases t with
  | nil => rfl
  | cons c u =>
    have hminus : c ≠ '-' := fun hc ↦ h (by rw [hc]; rfl)
    simp [signed, numberSigns, List.lookup_cons, beq_eq_false_iff_ne.mpr hminus]

def readUnsigned (negative : Bool) (body : Text) : Except JsonFault (Value × Text) :=
  (orMalformed (readWhole body)).bind fun whole ↦
    let fraction := readFraction whole.2
    let exponent := readExponent fraction.2
    (numberOf negative whole.1 fraction.1 exponent.1).map fun v ↦ (v, exponent.2)

theorem readNumber_eq (t : Text) :
    readNumber t = readUnsigned (signed numberSigns t).1 (signed numberSigns t).2 := by
  rw [readNumber.eq_def]
  split
  next negative body hsign =>
    have hsigned : signed numberSigns t = (negative, body) := by
      rw [← hsign]
      split
      · rfl
      · next hminus =>
        refine signed_numberSigns fun h ↦ ?_
        obtain ⟨u, rfl⟩ := List.head?_eq_some_iff.mp h
        exact hminus u rfl
    rw [hsigned, readUnsigned]
    cases readWhole body with
    | none => rfl
    | some whole =>
      simp only [orMalformed, bind, Except.bind, numberOf]
      split
      · split <;> rfl
      · rfl

theorem takes_readNumber (h : readNumber t = .ok (v, rest)) :
    ∃ taken, t = taken ++ rest ∧ Closed taken ∧
      Takes readNumber (fun r ↦ .ok (v, r)) taken rest := by
  obtain ⟨sign, hsign, hsigned⟩ := takes_signed numberSigns t
  rw [readNumber_eq, readUnsigned] at h
  cases hread : readWhole (signed numberSigns t).2 with
  | none =>
    rw [hread] at h
    cases h
  | some whole =>
    obtain ⟨digits, u⟩ := whole
    obtain ⟨hbody, hclosed, hwhole⟩ := takes_readWhole hread
    obtain ⟨point, hpoint, hpointed, hfraction⟩ := takes_readFraction u
    obtain ⟨power, hpower, hpowered, hexponent⟩ := takes_readExponent (readFraction u).2
    simp only [hread, orMalformed, Except.bind] at h
    cases hnumber : numberOf (signed numberSigns t).1 digits (readFraction u).1
        (readExponent (readFraction u).2).1 with
    | error fault =>
      rw [hnumber] at h
      cases h
    | ok w =>
      rw [hnumber] at h
      obtain ⟨rfl, rfl⟩ := Prod.mk.inj (Except.ok.inj h)
      refine ⟨sign ++ (digits ++ (point ++ power)), ?_, ?_, fun r hr ↦ ?_⟩
      · simp only [List.append_assoc, ← hpower, ← hpoint, ← hbody, ← hsign]
      · have hend := ((hclosed.append hpointed).append hpowered).append_left sign
        rwa [List.append_assoc digits] at hend
      · have hfrom := prefix_of_eq_append hpower hr
        have hfrom' := prefix_of_eq_append hpoint hfrom
        have hfrom'' := prefix_of_eq_append hbody hfrom'
        simp only [List.append_assoc]
        rw [readNumber_eq, hsigned _ hfrom'', readUnsigned, hwhole _ hfrom']
        simp only [orMalformed, Except.bind, hfraction _ hfrom, hexponent r hr, hnumber]
        rfl

/-! Words -/

def words : List (Text × Value) :=
  [("null", .null), ("true", .bool true), ("false", .bool false), ("NaN", .number .notANumber),
    ("Infinity", .number (.infinite false)), ("-Infinity", .number (.infinite true))]

theorem after?_eq_some {opening : Text} :
    Text.after? opening t = some rest ↔ t = opening ++ rest := by
  rw [Text.after?, Option.ite_none_right_eq_some, List.isPrefixOf_iff_prefix, Option.some.injEq]
  constructor
  · rintro ⟨⟨u, rfl⟩, rfl⟩
    rw [List.drop_left]
  · rintro rfl
    exact ⟨List.prefix_append opening rest, List.drop_left⟩

theorem after?_of_cut {opening : Text} (h : Text.after? opening t = none) (hr : r <+: t) :
    Text.after? opening r = none := by
  obtain ⟨s, rfl⟩ := hr
  rw [Option.eq_none_iff_forall_ne_some] at h ⊢
  intro left hleft
  refine h (left ++ s) (after?_eq_some.mpr ?_)
  rw [after?_eq_some.mp hleft, List.append_assoc]

theorem readWord_eq (t : Text) :
    readWord t = words.findSome? fun w ↦ (Text.after? w.1 t).map fun r ↦ (w.2, r) := by
  rw [readWord.eq_def]
  simp only [words, List.findSome?_cons, List.findSome?_nil]
  -- the first of the six that is there
  cases Text.after? "null" t with
  | some r => rfl
  | none =>
    cases Text.after? "true" t with
    | some r => rfl
    | none =>
      cases Text.after? "false" t with
      | some r => rfl
      | none =>
        cases Text.after? "NaN" t with
        | some r => rfl
        | none =>
          cases Text.after? "Infinity" t with
          | some r => rfl
          | none => cases Text.after? "-Infinity" t <;> rfl

theorem closed_of_mem_words {word : Text × Value} (h : word ∈ words) : Closed word.1 := by
  have hall : (words.all fun w ↦ w.1.getLast?.any fun c ↦ !isBlank c && c != '`') = true := by
    decide
  have hword := List.all_eq_true.mp hall word h
  cases hlast : word.1.getLast? with
  | none =>
    rw [hlast] at hword
    cases hword
  | some c =>
    rw [hlast, Option.any_some, Bool.and_eq_true, Bool.not_eq_true', bne_iff_ne] at hword
    exact ⟨c, hlast, hword⟩

theorem takes_readWord (h : readWord t = some (v, rest)) :
    ∃ word ∈ words, v = word.2 ∧ t = word.1 ++ rest ∧
      Takes readWord (fun r ↦ some (word.2, r)) word.1 rest := by
  rw [readWord_eq] at h
  obtain ⟨passed, word, left, hwords, hword, hpassed⟩ := List.findSome?_eq_some_iff.mp h
  obtain ⟨r, hafter, hr⟩ := Option.map_eq_some_iff.mp hword
  obtain ⟨rfl, rfl⟩ := Prod.mk.inj hr
  have ht : t = word.1 ++ r := after?_eq_some.mp hafter
  refine ⟨word, by simp [hwords], rfl, ht, fun r' hr' ↦ ?_⟩
  rw [readWord_eq, List.findSome?_eq_some_iff]
  refine ⟨passed, word, left, hwords, by rw [after?_eq_some.mpr rfl]; rfl, fun other hother ↦ ?_⟩
  -- a word with which the cut text begins would have been read before
  have hnone := Option.map_eq_none_iff.mp (hpassed other hother)
  exact Option.map_eq_none_iff.mpr (after?_of_cut hnone (prefix_of_eq_append ht hr'))

/-! Quoted texts -/

theorem hexValue?_quote : Text.hexValue? '"' = none := by decide

theorem takes_readUnit {code : Nat} (h : readUnit t = some (code, rest)) :
    ∃ unit, t = unit ++ rest ∧ '"' ∉ unit ∧ ∀ r, readUnit (unit ++ r) = some (code, r) := by
  rw [readUnit.eq_def] at h
  split at h
  · next a b c d u =>
    simp only [bind, Option.bind_eq_some_iff, Option.pure_def, Option.some.injEq,
      Prod.mk.injEq] at h
    obtain ⟨i, hi, j, hj, k, hk, l, hl, rfl, rfl⟩ := h
    refine ⟨[a, b, c, d], rfl, ?_, fun r ↦ ?_⟩
    · intro hmem
      simp only [List.mem_cons, List.not_mem_nil, or_false] at hmem
      rcases hmem with rfl | rfl | rfl | rfl <;> simp [hexValue?_quote] at hi hj hk hl
    · simp [readUnit, hi, hj, hk, hl]
  · cases h

theorem takes_readUnits {d : CodePoint} (h : readUnits t = some (d, rest)) :
    ∃ units, t = units ++ rest ∧ ∀ x y last, rest = x ++ '"' :: last →
      readUnits (units ++ (x ++ '"' :: y)) = some (d, x ++ '"' :: y) := by
  rw [readUnits.eq_def] at h
  simp only [bind, Option.bind_eq_some_iff] at h
  obtain ⟨⟨high, u⟩, hhigh, h⟩ := h
  obtain ⟨unit, rfl, hquote, hunit⟩ := takes_readUnit hhigh
  dsimp only at h
  by_cases hsurrogate : isHighUnit high
  · rw [if_pos hsurrogate] at h
    split at h
    · next u =>
      cases hlow : readUnit u with
      | none =>
        rw [hlow] at h
        cases h
      | some low =>
        obtain ⟨low, last⟩ := low
        obtain ⟨unit', rfl, hquote', hunit'⟩ := takes_readUnit hlow
        rw [hlow] at h
        dsimp only at h
        by_cases hpair : isLowUnit low
        · rw [if_pos hpair] at h
          obtain ⟨rfl, rfl⟩ := Prod.mk.inj (Option.some.inj h)
          refine ⟨unit ++ '\\' :: 'u' :: unit', by simp, fun x y last _ ↦ ?_⟩
          rw [List.append_assoc, List.cons_append, List.cons_append, readUnits, hunit]
          simp [hsurrogate, hunit', hpair]
        · rw [if_neg hpair] at h
          obtain ⟨rfl, rfl⟩ := Prod.mk.inj (Option.some.inj h)
          refine ⟨unit, rfl, fun x y last hx ↦ ?_⟩
          -- the next unit, which is no second half, stands in front of the quote
          obtain ⟨z, rfl⟩ : '\\' :: 'u' :: unit' <+: x := by
            refine Text.prefix_of_prefix_append_cons (c := '"') (y := last)
              (by simpa using hquote') ?_
            rw [← hx]
            exact List.prefix_append ('\\' :: 'u' :: unit') _
          rw [readUnits, hunit]
          simp [hsurrogate, hunit', hpair]
    · next hother =>
      obtain ⟨rfl, rfl⟩ := Prod.mk.inj (Option.some.inj h)
      refine ⟨unit, rfl, fun x y last hx ↦ ?_⟩
      rw [readUnits, hunit]
      simp only [bind, Option.bind, if_pos hsurrogate]
      split
      · next z hz =>
        obtain ⟨z', rfl⟩ : ['\\', 'u'] <+: x :=
          Text.prefix_of_prefix_append_cons (c := '"') (y := y) (by decide) ⟨z, hz.symm⟩
        exact absurd hx (hother _)
      · rfl
  · rw [if_neg hsurrogate] at h
    split at h
    all_goals
      next hlow =>
        obtain ⟨rfl, rfl⟩ := Prod.mk.inj (Option.some.inj h)
        refine ⟨unit, rfl, fun x y last _ ↦ ?_⟩
        rw [readUnits, hunit]
        simp [hsurrogate, hlow]

def escapeOf (e : Char) : Option Char :=
  if e = '"' || e = '\\' || e = '/' then some e
  else if e = 'b' then some (Char.ofNat 8)
  else if e = 'f' then some (Char.ofNat 12)
  else if e = 'n' then some '\n'
  else if e = 'r' then some '\r'
  else if e = 't' then some '\t'
  else none

def readChar : Text → Option (CodePoint × Text)
  | [] => none
  | '\\' :: 'u' :: u => readUnits u
  | '\\' :: e :: u => (escapeOf e).map fun d ↦ (.char d, u)
  | c :: u => if c = '"' || c = '\\' || c.toNat < 32 then none else some (.char c, u)

theorem readQuoted_succ (n : Nat) (t : Text) (h : t.head? ≠ some '"') :
    readQuoted (n + 1) t =
      (readChar t).bind fun p ↦ (readQuoted n p.2).map fun q ↦ (p.1 :: q.1, q.2) := by
  rw [readChar.eq_def]
  split
  · rfl
  · next u =>
    rw [readQuoted.eq_def]
    dsimp only
    rw [if_neg (by decide), if_neg (by decide), if_pos rfl, if_pos rfl]
    cases readUnits u <;> rfl
  · next e u hu =>
    rw [readQuoted.eq_def, escapeOf]
    dsimp only
    rw [if_neg (by decide), if_neg (by decide), if_pos rfl, if_neg hu]
    split_ifs <;> rfl
  · next c u _ hescape =>
    have hquote : c ≠ '"' := fun hc ↦ h (by rw [hc]; rfl)
    rw [readQuoted.eq_def]
    dsimp only
    rw [if_neg hquote]
    by_cases hback : c = '\\'
    · cases u with
      | nil => simp [hback]
      | cons e u => exact absurd rfl (hescape e u hback)
    · by_cases hcontrol : c.toNat < 32
      · simp [hcontrol]
      · simp [hquote, hback, hcontrol]

theorem takes_readChar {d : CodePoint} (h : readChar t = some (d, rest)) :
    ∃ written, t = written ++ rest ∧ written ≠ [] ∧ written.head? ≠ some '"' ∧
      ∀ x y last, rest = x ++ '"' :: last →
        readChar (written ++ (x ++ '"' :: y)) = some (d, x ++ '"' :: y) := by
  rw [readChar.eq_def] at h
  split at h
  · cases h
  · next u =>
    obtain ⟨units, rfl, hunits⟩ := takes_readUnits h
    exact ⟨'\\' :: 'u' :: units, rfl, by simp, by simp, hunits⟩
  · next e u hu =>
    obtain ⟨d', hd, hpair⟩ := Option.map_eq_some_iff.mp h
    obtain ⟨rfl, rfl⟩ := Prod.mk.inj hpair
    refine ⟨['\\', e], rfl, by simp, by simp, fun x y last _ ↦ ?_⟩
    simp [readChar, hd]
  · next c u _ _ =>
    rw [Option.ite_none_left_eq_some] at h
    obtain ⟨hplain, hpair⟩ := h
    obtain ⟨rfl, rfl⟩ := Prod.mk.inj (Option.some.inj hpair)
    have hplain' : ¬ ((c = '"' ∨ c = '\\') ∨ c.toNat < 32) := by simpa using hplain
    rw [not_or, not_or] at hplain'
    refine ⟨[c], rfl, by simp, by simpa using hplain'.1.1, fun x y last _ ↦ ?_⟩
    rw [List.singleton_append, readChar, if_neg hplain]
    · exact fun _ hc _ ↦ hplain'.1.2 hc
    · exact fun _ _ hc _ ↦ hplain'.1.2 hc

theorem takes_readQuoted {s : List CodePoint} (h : readQuoted n t = some (s, rest)) :
    ∃ inside, t = inside ++ '"' :: rest ∧
      ∀ m y, inside.length < m → readQuoted m (inside ++ '"' :: y) = some (s, y) := by
  induction n generalizing t s with
  | zero => cases h
  | succ n ih =>
    by_cases hquote : t.head? = some '"'
    · obtain ⟨u, rfl⟩ := List.head?_eq_some_iff.mp hquote
      obtain ⟨rfl, rfl⟩ := Prod.mk.inj (Option.some.inj (show some ([], u) = _ from h))
      refine ⟨[], rfl, fun m y hm ↦ ?_⟩
      obtain ⟨m, rfl⟩ := Nat.exists_eq_add_one.mpr hm
      rfl
    · rw [readQuoted_succ n t hquote, Option.bind_eq_some_iff] at h
      obtain ⟨⟨d, u⟩, hchar, h⟩ := h
      obtain ⟨⟨s', last⟩, hread, hpair⟩ := Option.map_eq_some_iff.mp h
      obtain ⟨rfl, rfl⟩ := Prod.mk.inj hpair
      obtain ⟨inside, hinside, hmore⟩ := ih hread
      obtain ⟨written, rfl, hne, hhead, hwritten⟩ := takes_readChar hchar
      dsimp only at hinside
      refine ⟨written ++ inside, by rw [hinside, List.append_assoc], fun m y hm ↦ ?_⟩
      obtain ⟨m, rfl⟩ := Nat.exists_eq_add_one.mpr (Nat.zero_lt_of_lt hm)
      have hstart : (written ++ (inside ++ '"' :: y)).head? ≠ some '"' := by
        rwa [List.head?_append_of_ne_nil _ hne]
      have hpos := List.length_pos_iff.mpr hne
      rw [List.length_append] at hm
      rw [List.append_assoc, readQuoted_succ m _ hstart, hwritten inside y last hinside,
        Option.bind_some, hmore m y (by omega)]
      rfl

theorem takes_readQuotedWhole {s : List CodePoint} (h : readQuotedWhole t = .ok (s, rest)) :
    ∃ inside, t = inside ++ '"' :: rest ∧
      ∀ y, readQuotedWhole (inside ++ '"' :: y) = .ok (s, y) := by
  rw [readQuotedWhole] at h
  cases hread : readQuoted t.length t with
  | none =>
    rw [hread] at h
    cases h
  | some read =>
    rw [hread] at h
    obtain rfl := Except.ok.inj h
    obtain ⟨inside, hinside, hquoted⟩ := takes_readQuoted hread
    refine ⟨inside, hinside, fun y ↦ ?_⟩
    rw [readQuotedWhole, hquoted _ y (by simp)]
    rfl

end SasMigration.Value
