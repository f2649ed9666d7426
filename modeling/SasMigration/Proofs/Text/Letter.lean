import Mathlib.Data.List.Forall2
import Mathlib.Tactic.Common
import SasMigration.Text.Letter

namespace SasMigration.Text

def blankCodes : List Nat :=
  [9, 10, 11, 12, 13, 28, 29, 30, 31, 32, 133, 160, 5760, 8192, 8193, 8194, 8195, 8196, 8197, 8198,
    8199, 8200, 8201, 8202, 8232, 8233, 8239, 8287, 12288]

theorem toNat_mem_blankCodes {c : Char} (h : isBlank c) : c.toNat ∈ blankCodes := by
  simp only [isBlank, Bool.or_eq_true, Bool.and_eq_true, decide_eq_true_eq, beq_iff_eq] at h
  rcases h with (((((((((h | h) | h) | h) | h) | h) | h) | h) | h) | h) | h
  all_goals
    simp only [blankCodes, List.mem_cons, List.not_mem_nil, or_false]
    omega

theorem isBlank_of_isWord {c : Char} (h : isWord c) : isBlank c = false := by
  rw [Bool.eq_false_iff]
  intro hblank
  have hnone : (blankCodes.all fun n ↦ !isWord (Char.ofNat n)) = true := by decide +kernel
  have hc := List.all_eq_true.mp hnone _ (toNat_mem_blankCodes hblank)
  simp [Char.ofNat_toNat, h] at hc

theorem le_lower_of_mem_caseRuns : ∀ r ∈ caseRuns, 97 ≤ (r.first : Int) + r.shift := by
  decide +kernel

theorem lowerCode_cases (n : Nat) :
    lowerCode n = n ∨ (65 ≤ n ∧ n ≤ 90 ∧ lowerCode n = n + 32) ∨
      ∃ r ∈ caseRuns, r.holds n ∧ r.first ≤ n ∧ (lowerCode n : Int) = n + r.shift := by
  rw [lowerCode]
  split
  · split
    · next hcapital =>
      simp only [Bool.and_eq_true, decide_eq_true_eq] at hcapital
      exact .inr (.inl ⟨hcapital.1, hcapital.2, rfl⟩)
    · exact .inl rfl
  · split
    · next r hr =>
      have hmem := List.mem_of_find?_eq_some hr
      have hholds : r.holds n := by simpa using List.find?_some hr
      have hle := le_lower_of_mem_caseRuns r hmem
      have hfirst : r.first ≤ n := by
        simp only [CaseRun.holds, Bool.and_eq_true, decide_eq_true_eq] at hholds
        exact hholds.1.1
      refine .inr (.inr ⟨r, hmem, hholds, hfirst, ?_⟩)
      simp only [Int.ofNat_eq_natCast]
      omega
    · exact .inl rfl

theorem eq_of_lowerCode_eq {m n : Nat} (hm : m < 65) (h : lowerCode n = m) : n = m := by
  rcases lowerCode_cases n with hn | ⟨hlow, -, hn⟩ | ⟨r, hr, -, hfirst, hn⟩
  · exact hn.symm.trans h
  · omega
  · have hle := le_lower_of_mem_caseRuns r hr
    omega

theorem eq_of_sameLetter_alone {a c : Char} (ha : a.toNat < 65)
    (halone : variantsOf (lowerCode a.toNat) = [a.toNat]) (h : sameLetter a c) : c = a := by
  have hcode : lowerCode c.toNat = a.toNat := by
    rw [sameLetter, halone] at h
    simpa using h
  exact Char.toNat_inj.mp (eq_of_lowerCode_eq ha hcode)

theorem sameLetter_self (c : Char) : sameLetter c c := by
  rw [sameLetter, variantsOf]
  split
  · simp
  · cases hfind : letterVariants.find? fun variants ↦ variants.contains (lowerCode c.toNat) with
    | none => simp
    | some variants =>
      have hcontains := List.find?_some hfind
      exact hcontains

theorem eq_point_of_sameLetter {c : Char} (h : sameLetter '.' c) : c = '.' :=
  eq_of_sameLetter_alone (by decide) (by decide) h

theorem eq_of_sameLetter_sign {a c : Char} (hc : c.toNat < 65)
    (hlower : lowerCode c.toNat = c.toNat) (h : sameLetter a c) : a = c := by
  have hvariants : ∀ variants ∈ letterVariants, ∀ n ∈ variants, 65 ≤ n := by decide +kernel
  have hcode : lowerCode a.toNat = c.toNat := by
    rw [sameLetter, hlower, List.contains_iff_mem, variantsOf] at h
    split at h
    · exact (List.mem_singleton.mp h).symm
    · cases hfind : letterVariants.find? fun variants ↦ variants.contains (lowerCode a.toNat) with
      | none =>
        rw [hfind] at h
        exact (List.mem_singleton.mp h).symm
      | some variants =>
        rw [hfind] at h
        have hle := hvariants variants (List.mem_of_find?_eq_some hfind) _ h
        omega
  exact Char.toNat_inj.mp (eq_of_lowerCode_eq hc hcode)

theorem mem_sourcesOfLower (n : Nat) : n ∈ sourcesOfLower (lowerCode n) := by
  rw [sourcesOfLower, List.mem_append, List.mem_append]
  rcases lowerCode_cases n with hn | ⟨hlow, hhigh, hn⟩ | ⟨r, hr, hholds, -, hn⟩
  · exact .inl (.inl (by simp [hn]))
  · refine .inl (.inr ?_)
    have hsmall : (97 ≤ n + 32 && n + 32 ≤ 122) = true := by
      simp only [Bool.and_eq_true, decide_eq_true_eq]
      omega
    rw [hn, if_pos hsmall]
    simp
  · refine .inr (List.mem_filterMap.mpr ⟨r, hr, ?_⟩)
    have hback : (Int.ofNat (lowerCode n) - r.shift).toNat = n := by
      simp only [Int.ofNat_eq_natCast]
      omega
    simp only [hback]
    simp [hholds, hn]

theorem mem_lettersLike {a c : Char} (h : sameLetter a c) : c.toNat ∈ lettersLike a.toNat := by
  rw [sameLetter, List.contains_iff_mem] at h
  exact List.mem_flatMap.mpr ⟨_, h, mem_sourcesOfLower c.toNat⟩

def asciiLetters : List Char := "abcdefghijklmnopqrstuvwxyz".toList

theorem isWord_of_sameLetter {a c : Char} (ha : a ∈ asciiLetters) (h : sameLetter a c) :
    isWord c := by
  have hall : (asciiLetters.all fun a ↦
      (lettersLike a.toNat).all fun n ↦ isWord (Char.ofNat n)) = true := by decide +kernel
  have hc := List.all_eq_true.mp (List.all_eq_true.mp hall a ha) _ (mem_lettersLike h)
  rwa [Char.ofNat_toNat] at hc

theorem eq_of_sameLetter {a b c : Char} (ha : a ∈ asciiLetters) (hb : b ∈ asciiLetters)
    (hac : sameLetter a c) (hbc : sameLetter b c) : a = b := by
  have hall : (asciiLetters.all fun a ↦ asciiLetters.all fun b ↦
      a == b || (variantsOf (lowerCode a.toNat)).all fun n ↦
        !(variantsOf (lowerCode b.toNat)).contains n) = true := by decide +kernel
  have hab := List.all_eq_true.mp (List.all_eq_true.mp hall a ha) b hb
  rw [Bool.or_eq_true, beq_iff_eq] at hab
  refine hab.resolve_right fun hapart ↦ ?_
  rw [sameLetter, List.contains_iff_mem] at hac
  have hnot := List.all_eq_true.mp hapart _ hac
  rw [sameLetter] at hbc
  rw [hbc] at hnot
  cases hnot

theorem isWord_of_keyword {w k : Text} (hw : ∀ a ∈ w, a ∈ asciiLetters)
    (h : List.Forall₂ (fun a c ↦ sameLetter a c) w k) : ∀ c ∈ k, isWord c := by
  induction h with
  | nil => simp
  | cons hac _ ih =>
    obtain ⟨ha, hw⟩ := List.forall_mem_cons.mp hw
    exact List.forall_mem_cons.mpr ⟨isWord_of_sameLetter ha hac, ih hw⟩

theorem eq_of_append_run {pass : Char → Bool} {v w r r' : Text} (hv : ∀ c ∈ v, pass c)
    (hw : ∀ c ∈ w, pass c) (hr : ∀ c, r.head? = some c → pass c = false)
    (hr' : ∀ c, r'.head? = some c → pass c = false) (h : v ++ r = w ++ r') : v = w ∧ r = r' := by
  have hrun {x y : Text} (hx : ∀ c ∈ x, pass c) (hy : ∀ c, y.head? = some c → pass c = false) :
      (x ++ y).takeWhile pass = x := by
    rw [List.takeWhile_append_of_pos hx]
    cases y with
    | nil => simp
    | cons c y => simp [hy c rfl]
  have heq : v = w := by rw [← hrun hv hr, h, hrun hw hr']
  exact ⟨heq, List.append_cancel_left (heq ▸ h)⟩

/-- Blanks that keep two words apart. -/
structure IsGap (t : Text) : Prop where
  ne_nil : t ≠ []
  blank : ∀ c ∈ t, isBlank c

/-- A word, of which other words may be a part. -/
structure IsRun (t : Text) : Prop where
  ne_nil : t ≠ []
  word : ∀ c ∈ t, isWord c

instance : DecidablePred IsGap := fun t ↦
  decidable_of_iff (t ≠ [] ∧ t.all isBlank = true)
    ⟨fun h ↦ ⟨h.1, List.all_eq_true.mp h.2⟩, fun h ↦ ⟨h.ne_nil, List.all_eq_true.mpr h.blank⟩⟩

instance : DecidablePred IsRun := fun t ↦
  decidable_of_iff (t ≠ [] ∧ t.all isWord = true)
    ⟨fun h ↦ ⟨h.1, List.all_eq_true.mp h.2⟩, fun h ↦ ⟨h.ne_nil, List.all_eq_true.mpr h.word⟩⟩

namespace IsGap

variable {t r : Text}

theorem exists_cons (h : IsGap t) : ∃ c rest, t = c :: rest ∧ isBlank c ∧ isWord c = false := by
  obtain ⟨c, rest, rfl⟩ := List.exists_cons_of_ne_nil h.ne_nil
  have hc := h.blank c List.mem_cons_self
  refine ⟨c, rest, rfl, hc, ?_⟩
  rw [Bool.eq_false_iff]
  intro hword
  rw [isBlank_of_isWord hword] at hc
  cases hc

theorem isWord_head (h : IsGap t) (r : Text) : ∀ c, (t ++ r).head? = some c → isWord c = false := by
  obtain ⟨c, rest, rfl, -, hc⟩ := h.exists_cons
  intro d hd
  cases hd
  exact hc

end IsGap

theorem exists_run {t : Text} {c : Char} (hhead : t.head? = some c) (hc : isWord c) :
    ∃ v r, t = v ++ r ∧ IsRun v ∧ ∀ d, r.head? = some d → isWord d = false := by
  obtain ⟨u, rfl⟩ := List.head?_eq_some_iff.mp hhead
  refine ⟨(c :: u).takeWhile isWord, (c :: u).dropWhile isWord,
    List.takeWhile_append_dropWhile.symm, ⟨by simp [hc], ?_⟩, fun d hd ↦ ?_⟩
  · exact List.all_eq_true.mp List.all_takeWhile
  · have hnot := List.head?_dropWhile_not isWord (c :: u)
    rw [hd] at hnot
    exact hnot

theorem IsRun.isBlank_head {t : Text} (h : IsRun t) (r : Text) :
    ∀ c, (t ++ r).head? = some c → isBlank c = false := by
  obtain ⟨c, rest, rfl⟩ := List.exists_cons_of_ne_nil h.ne_nil
  intro d hd
  cases hd
  exact isBlank_of_isWord (h.word _ List.mem_cons_self)

end SasMigration.Text
