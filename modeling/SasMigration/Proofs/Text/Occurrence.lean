import SasMigration.Proofs.Text.Replacement

namespace SasMigration.Text

variable {old new v w t x y a b : Text} {c : Char}

/-- A text stands at one place of another, and at no other place. -/
def OccursOnce (v t : Text) : Prop := ∃! x, x ++ v <+: t

theorem occursOnce_iff : OccursOnce v (a ++ (v ++ b)) ↔ ∀ x, x ++ v <+: a ++ (v ++ b) → x = a := by
  have ha : a ++ v <+: a ++ (v ++ b) := ⟨b, List.append_assoc ..⟩
  constructor
  · rintro ⟨x, -, hunique⟩ x' hx'
    exact (hunique x' hx').trans (hunique a ha).symm
  · intro h
    exact ⟨a, ha, h⟩

theorem not_occursOnce_of_infix (hv : v ≠ []) (hb : v <:+: b) : ¬ OccursOnce v (a ++ (v ++ b)) := by
  obtain ⟨x, y, rfl⟩ := hb
  intro h
  have hagain := occursOnce_iff.mp h (a ++ (v ++ x)) ⟨y, by simp⟩
  rw [List.append_right_eq_self, List.append_eq_nil_iff] at hagain
  exact hv hagain.1

theorem mem_of_between {before stretch after first last : Text}
    (h : before ++ (stretch ++ after) = first ++ c :: last) (hle : before.length ≤ first.length)
    (hlt : first.length < before.length + stretch.length) : c ∈ stretch := by
  have hget : (before ++ (stretch ++ after))[first.length]? = some c := by
    rw [h]
    simp
  rw [List.getElem?_append_right hle, List.getElem?_append_left (by omega)] at hget
  exact List.mem_of_getElem? hget

theorem prefix_of_prefix_append_cons (hc : c ∉ w) (h : w <+: x ++ c :: y) : w <+: x := by
  induction x generalizing w with
  | nil =>
    cases w with
    | nil => exact List.nil_prefix
    | cons d w =>
      rw [List.nil_append, List.cons_prefix_cons] at h
      exact absurd (h.1 ▸ List.mem_cons_self) hc
  | cons d x ih =>
    cases w with
    | nil => exact List.nil_prefix
    | cons e w =>
      rw [List.cons_append, List.cons_prefix_cons] at h
      rw [List.cons_prefix_cons]
      exact ⟨h.1, ih (fun hmem ↦ hc (List.mem_cons_of_mem e hmem)) h.2⟩

theorem infix_or_of_infix_append_cons (hc : c ∉ w) (h : w <:+: x ++ c :: y) :
    w <:+: x ∨ w <:+: c :: y := by
  rcases List.infix_append_iff_ne_nil.mp h with h | h | ⟨u, u', -, hu', rfl, -, s, hs⟩
  · exact .inl h
  · exact .inr h
  · obtain ⟨d, u', rfl⟩ := List.exists_cons_of_ne_nil hu'
    rw [List.cons_append, List.cons.injEq] at hs
    exact absurd (by simp [hs.1]) hc

theorem infix_of_infix_between {new : Text} (hhead : new.head? = some c)
    (hlast : new.getLast? = some c) (hc : c ∉ w) (h : w <:+: x ++ (new ++ y)) :
    w <:+: x ∨ w <:+: new ∨ w <:+: y := by
  obtain ⟨u, rfl⟩ := List.head?_eq_some_iff.mp hhead
  rcases infix_or_of_infix_append_cons hc h with h | h
  · exact .inl h
  · exact .inr (infix_or_of_infix_append hlast hc h)

theorem replaceAll_of_not_infix (hold : old ≠ []) (h : ¬ old <:+: t) :
    replaceAll old new t = t := by
  induction t using replace_induction hold with
  | nil => rfl
  | hit t ih => exact absurd (List.prefix_append old t).isInfix h
  | miss c t hn ih =>
    rw [replaceAll_cons hn, ih fun ht ↦ h (ht.trans (List.suffix_cons c t).isInfix)]

theorem exists_first_replaced (new : Text) (hold : old ≠ []) (h : old <:+: t) :
    ∃ x y, t = x ++ (old ++ y) ∧ (∀ x', x' ++ old <+: t → x.length ≤ x'.length) ∧
      replaceAll old new t = x ++ (new ++ replaceAll old new y) := by
  induction t using replace_induction hold with
  | nil => exact absurd (List.infix_nil.mp h) hold
  | hit t ih => exact ⟨[], t, rfl, fun _ _ ↦ Nat.zero_le _, replaceAll_old_append hold⟩
  | miss c t hn ih =>
    obtain ⟨x, y, rfl, hfirst, hreplaced⟩ := ih ((List.infix_cons_iff.mp h).resolve_left hn)
    refine ⟨c :: x, y, rfl, fun x' hx' ↦ ?_, by rw [replaceAll_cons hn, hreplaced]; rfl⟩
    cases x' with
    | nil => exact absurd hx' hn
    | cons d x' => exact Nat.succ_le_succ (hfirst x' (List.cons_prefix_cons.mp hx').2)

theorem OccursOnce.replaceAll (hold : old ≠ []) (h : OccursOnce old (a ++ (old ++ b))) :
    replaceAll old new (a ++ (old ++ b)) = a ++ (new ++ b) := by
  rw [occursOnce_iff] at h
  have hinfix : old <:+: a ++ (old ++ b) := ⟨a, b, List.append_assoc ..⟩
  obtain ⟨x, y, ht, -, hreplaced⟩ := exists_first_replaced new hold hinfix
  obtain rfl : x = a := h x ⟨y, by rw [ht, List.append_assoc]⟩
  obtain rfl : b = y := List.append_cancel_left (List.append_cancel_left ht)
  rw [hreplaced, replaceAll_of_not_infix hold]
  rintro ⟨z, z', rfl⟩
  have hz := h (x ++ (old ++ z)) ⟨z', by simp only [List.append_assoc]⟩
  rw [List.append_right_eq_self, List.append_eq_nil_iff] at hz
  exact hold hz.1

/-- No end of the text, other than the whole, is also a beginning of it. -/
def Unbordered (v : Text) : Prop := ∀ x z, v = x ++ z → x ≠ [] → z ≠ [] → ¬ z <+: v

theorem Unbordered.length_le (hv : Unbordered v) (hx : x ++ v <+: t) (hy : y ++ v <+: t)
    (hlt : x.length < y.length) : x.length + v.length ≤ y.length := by
  by_contra hle
  obtain ⟨s, hs⟩ := hx
  obtain ⟨z, rfl⟩ : x <+: y := List.prefix_of_prefix_length_le
    ((List.prefix_append x v).trans ⟨s, hs⟩) ((List.prefix_append y v).trans hy) (by omega)
  obtain ⟨r, hr⟩ := hy
  have hsame : z ++ (v ++ r) = v ++ s := by
    rw [← hs] at hr
    simp only [List.append_assoc] at hr
    exact List.append_cancel_left hr
  simp only [List.length_append] at hlt hle
  obtain ⟨u, rfl⟩ : z <+: v := List.prefix_of_prefix_length_le ⟨_, hsame⟩ (List.prefix_append v s)
    (by omega)
  refine hv z u rfl (List.ne_nil_of_length_pos (by omega)) (fun hu ↦ ?_) ?_
  · rw [hu, List.append_nil] at hle
    omega
  · have hrest : z ++ u ++ r = u ++ s := by
      rw [List.append_assoc z u s] at hsame
      exact List.append_cancel_left hsame
    exact List.prefix_of_prefix_length_le ⟨s, hrest.symm⟩ (List.prefix_append _ _) (by simp)

theorem Unbordered.eq_of_within (hv : Unbordered v) (h : a ++ (v ++ b) = x ++ (v ++ y))
    (hlow : a.length ≤ x.length) (hhigh : x.length < (a ++ v).length) : a = x ∧ b = y := by
  have hlength : a.length = x.length := by
    by_contra hne
    have hle := hv.length_le ⟨b, List.append_assoc ..⟩ ⟨y, by rw [h, List.append_assoc]⟩
      (Nat.lt_of_le_of_ne hlow hne)
    rw [List.length_append] at hhigh
    omega
  obtain ⟨rfl, hrest⟩ := List.append_inj h hlength
  exact ⟨rfl, List.append_cancel_left hrest⟩

theorem occursOnce_of_replaceAll (hold : old ≠ []) (hunbordered : Unbordered old)
    (hnew : OccursOnce new (a ++ (new ++ b))) (hb : ¬ new <:+: b)
    (h : replaceAll old new (a ++ (old ++ b)) = a ++ (new ++ b)) :
    OccursOnce old (a ++ (old ++ b)) := by
  have ha : a ++ old <+: a ++ (old ++ b) := ⟨b, List.append_assoc ..⟩
  have hinfix : old <:+: a ++ (old ++ b) := ⟨a, b, List.append_assoc ..⟩
  obtain ⟨x, y, ht, hfirst, hreplaced⟩ := exists_first_replaced new hold hinfix
  have hxa : x = a := occursOnce_iff.mp hnew x
    ⟨replaceAll old new y, by rw [← h, hreplaced, List.append_assoc]⟩
  subst hxa
  obtain rfl : b = y := List.append_cancel_left (List.append_cancel_left ht)
  have hkept : replaceAll old new b = b := List.append_cancel_left (List.append_cancel_left
    (hreplaced.symm.trans h))
  -- the rest is left as it is, and the replacement is not in it
  have hnone : ¬ old <:+: b := by
    intro hmem
    obtain ⟨z, z', -, -, hz⟩ := exists_first_replaced new hold hmem
    exact hb ⟨z, replaceAll old new z', by rw [List.append_assoc, ← hz, hkept]⟩
  rw [occursOnce_iff]
  intro x' hx'
  have hbegin : x <+: x' := List.prefix_of_prefix_length_le ((List.prefix_append _ _).trans ha)
    ((List.prefix_append _ _).trans hx') (hfirst x' hx')
  by_contra hne
  have hlt : x.length < x'.length := by
    refine Nat.lt_of_le_of_ne (hfirst x' hx') fun hlength ↦ hne ?_
    exact (hbegin.eq_of_length hlength).symm
  have hle := hunbordered.length_le ha hx' hlt
  obtain ⟨z, hz⟩ : x ++ old <+: x' := List.prefix_of_prefix_length_le ha
    ((List.prefix_append _ _).trans hx') (by rw [List.length_append]; exact hle)
  obtain ⟨r, hr⟩ := hx'
  refine hnone ⟨z, r, ?_⟩
  rw [← hz] at hr
  simp only [List.append_assoc] at hr
  rw [List.append_assoc]
  exact List.append_cancel_left (List.append_cancel_left hr)

/-- A text with marks at its ends, and between them a word that stands neither elsewhere in it nor
around it, occurs once. -/
theorem occursOnce_marked (hc : c ∉ w) (hlast : t.getLast? = some c) (ht : ¬ w <:+: t)
    (ha : ¬ w <:+: a) (hb : ¬ w <:+: b) :
    OccursOnce (c :: (w ++ t)) (a ++ (c :: (w ++ t) ++ b)) := by
  have hopen {k y b : Text} (h : c :: (w ++ t) ++ y = k ++ (c :: (w ++ t) ++ b)) (hk : k ≠ []) :
      ∃ k', k = c :: (w ++ k') := by
    obtain ⟨d, k, rfl⟩ := List.exists_cons_of_ne_nil hk
    rw [List.cons_append, List.cons_append, List.cons.injEq, List.append_assoc] at h
    obtain ⟨k', rfl⟩ := prefix_of_prefix_append_cons hc ⟨_, h.2⟩
    exact ⟨k', by rw [h.1]⟩
  rw [occursOnce_iff]
  rintro x ⟨y, hy⟩
  rw [List.append_assoc] at hy
  rcases List.append_eq_append_iff.mp hy with ⟨k, rfl, hk⟩ | ⟨k, rfl, hk⟩
  · by_cases hnil : k = []
    · rw [hnil, List.append_nil]
    · obtain ⟨k', rfl⟩ := hopen hk hnil
      exact absurd ⟨x ++ [c], k', by simp⟩ ha
  · by_cases hnil : k = []
    · rw [hnil, List.append_nil]
    · -- the word is then in what follows its first occurrence
      obtain ⟨k', rfl⟩ := hopen hk hnil
      have hrest : t ++ b = k' ++ (c :: (w ++ t) ++ y) := by
        rw [List.cons_append, List.cons_append, List.cons.injEq, List.append_assoc,
          List.append_assoc] at hk
        exact List.append_cancel_left hk.2
      have hinfix : w <:+: t ++ b := ⟨k' ++ [c], t ++ y, by rw [hrest]; simp⟩
      rcases infix_or_of_infix_append hlast hc hinfix with h | h
      · exact absurd h ht
      · exact absurd h hb

theorem exists_of_append_cons_eq (hc : c ∉ a) (h : x ++ c :: y = a ++ b) :
    ∃ k, x = a ++ k ∧ b = k ++ c :: y := by
  rcases List.append_eq_append_iff.mp h with ⟨k, rfl, hk⟩ | ⟨k, rfl, hk⟩
  · cases k with
    | nil => exact ⟨[], by simp, hk.symm⟩
    | cons d k =>
      rw [List.cons_append, List.cons.injEq] at hk
      exact absurd (by simp [hk.1]) hc
  · exact ⟨k, rfl, hk⟩

/-- An occurrence of a text that cannot begin within a replacement, nor reach into it, lies before
the replacement or after it. -/
theorem occurrence_before_or_after {d e : Char} (hhead : v.head? = some d) (hd : d ∉ new)
    (hopen : w <+: new) (hlast : v.getLast? = some e) (he : e ∉ w)
    (hnone : ¬ w <:+: v) (h : x ++ (v ++ y) = a ++ (new ++ b)) :
    (∃ z, a = x ++ (v ++ z)) ∨ ∃ z, x = a ++ (new ++ z) ∧ b = z ++ (v ++ y) := by
  obtain ⟨v', rfl⟩ := List.head?_eq_some_iff.mp hhead
  rcases List.append_eq_append_iff.mp h with ⟨k, rfl, hk⟩ | ⟨k, rfl, hk⟩
  · rcases List.append_eq_append_iff.mp hk with ⟨z, rfl, -⟩ | ⟨z, hz, hz'⟩
    · exact .inl ⟨z, rfl⟩
    · cases z with
      | nil => exact .inl ⟨[], by rw [hz, List.append_nil, List.append_nil]⟩
      | cons f z =>
        -- the text would end within the word that opens the replacement, or hold it
        rw [hz, List.getLast?_append_of_ne_nil k (by simp)] at hlast
        rcases List.prefix_or_prefix_of_prefix ⟨y, hz'.symm⟩ (hopen.trans (List.prefix_append _ _))
          with hp | hp
        · exact absurd (hp.subset (List.mem_of_getLast? hlast)) he
        · exact absurd (hp.isInfix.trans (hz ▸ (List.suffix_append k _).isInfix)) hnone
  · rw [List.cons_append] at hk
    obtain ⟨z, rfl, hz⟩ := exists_of_append_cons_eq hd hk.symm
    exact .inr ⟨z, rfl, hz⟩

end SasMigration.Text
