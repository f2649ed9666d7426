import SasMigration.Proofs.Pattern.Locality

namespace SasMigration.Pattern

open Cursor

variable {p q : Pattern} {ps : List Pattern} {s : Cursor} {v w rest : Text}
  {gs gs' : List (Nat × Text)} {set : CharSet} {low : Nat}

/-- Where `v` stands in front of `rest`, the preferred way through the pattern takes `v` and records
the groups `gs`, of which the last one comes first. -/
def Leads (p : Pattern) (v rest : Text) (gs : List (Nat × Text)) : Prop :=
  ∀ s, s.after = v ++ rest → ∃ t, (p.ends s).head? = some t ∧ s.Takes v t ∧
    t.groupTexts = gs ++ s.groupTexts

theorem spanMost_of_run {pass : Char → Bool} (hv : ∀ c ∈ v, pass c)
    (hrest : ∀ c, rest.head? = some c → pass c = false) :
    spanMost pass none (v ++ rest) = v.length := by
  induction v with
  | nil =>
    cases rest with
    | nil => rfl
    | cons c rest => simp [spanMost, hrest c rfl]
  | cons c v ih =>
    obtain ⟨hc, hv⟩ := List.forall_mem_cons.mp hv
    rw [List.cons_append, spanMost, if_pos ⟨by simp, hc⟩, List.length_cons]
    exact congrArg (· + 1) (ih hv)

theorem head?_spanSizes_longest {most : Nat} (h : low ≤ most) :
    (spanSizes .longest low most).head? = some most := by
  rw [spanSizes, List.head?_reverse, List.getLast?_range', if_neg (by omega)]
  congr 1
  omega

theorem leads_longest (hlow : low ≤ v.length) (hv : ∀ c ∈ v, set.holds c)
    (hrest : ∀ c, rest.head? = some c → set.holds c = false) :
    (span .longest low none set).Leads v rest [] := by
  intro s hs
  have hmost : spanMost set.holds none s.after = v.length := by rw [hs, spanMost_of_run hv hrest]
  have htakes := Cursor.Takes.advance (s := s) (n := v.length) (by simp [hs])
  rw [hs, List.take_left] at htakes
  refine ⟨s.advance v.length, ?_, htakes, rfl⟩
  rw [ends, hmost, List.head?_map, head?_spanSizes_longest hlow]
  rfl

theorem leads_letters {letterCase : LetterCase} (rest : Text)
    (h : List.Forall₂ (fun a b ↦ letterCase.same a b) w v) :
    (inOrder (w.map fun c ↦ one (.letter c letterCase))).Leads v rest [] := by
  intro s hs
  obtain ⟨t, ht, htakes⟩ := accepts_letters h s rest hs
  obtain ⟨-, -, -, hgroups⟩ := exists_of_mem_ends_letters ht
  refine ⟨t, ?_, htakes, by rw [groupTexts, hgroups]; rfl⟩
  rcases ends_letters letterCase w s with hends | hends
  · rw [hends] at ht
    cases ht
  · rw [hends] at ht ⊢
    rw [List.mem_singleton.mp ht]
    rfl

theorem leads_keyword (rest : Text)
    (h : List.Forall₂ (fun a b ↦ LetterCase.folded.same a b) w v) : (keyword w).Leads v rest [] :=
  leads_letters rest h

theorem leads_blanks1 (hv : Text.IsGap v)
    (hrest : ∀ c, rest.head? = some c → Text.isBlank c = false) : blanks1.Leads v rest [] := by
  refine leads_longest (List.length_pos_iff.mpr hv.ne_nil) (fun c hc ↦ ?_) fun c hc ↦ ?_
  · simpa [CharSet.holds, CharSet.blank, ClassItem.holds, CharKind.holds] using hv.blank c hc
  · simpa [CharSet.holds, CharSet.blank, ClassItem.holds, CharKind.holds] using hrest c hc

theorem leads_word1 (hv : Text.IsRun v)
    (hrest : ∀ c, rest.head? = some c → Text.isWord c = false) : word1.Leads v rest [] := by
  refine leads_longest (List.length_pos_iff.mpr hv.ne_nil) (fun c hc ↦ ?_) fun c hc ↦ ?_
  · simpa [CharSet.holds, CharSet.word, ClassItem.holds, CharKind.holds] using hv.word c hc
  · simpa [CharSet.holds, CharSet.word, ClassItem.holds, CharKind.holds] using hrest c hc

theorem leads_literal (w rest : Text) : (literal w).Leads w rest [] :=
  leads_letters rest (List.forall₂_same.mpr fun c _ ↦ beq_self_eq_true c)

theorem leads_blanks (hv : ∀ c ∈ v, Text.isBlank c)
    (hrest : ∀ c, rest.head? = some c → Text.isBlank c = false) : blanks.Leads v rest [] := by
  refine leads_longest (Nat.zero_le _) (fun c hc ↦ ?_) fun c hc ↦ ?_
  · simpa [CharSet.holds, CharSet.blank, ClassItem.holds, CharKind.holds] using hv c hc
  · simpa [CharSet.holds, CharSet.blank, ClassItem.holds, CharKind.holds] using hrest c hc

theorem leads_optional_of_none (h : ∀ s : Cursor, s.after = rest → p.ends s = []) :
    (optional p).Leads [] rest [] := by
  intro s hs
  refine ⟨s, ?_, .refl s, rfl⟩
  rw [optional, ends_optional, h s hs]
  rfl

namespace Leads

theorem optional (h : p.Leads v rest gs) : (Pattern.optional p).Leads v rest gs := by
  intro s hs
  obtain ⟨t, ht, htakes, hgroups⟩ := h s hs
  refine ⟨t, ?_, htakes, hgroups⟩
  rw [Pattern.optional, ends_optional, List.head?_append, ht, Option.some_or]

theorem group (h : p.Leads v rest gs) (number : Nat) :
    (Pattern.group number p).Leads v rest ((number, v) :: gs) := by
  intro s hs
  obtain ⟨t, ht, htakes, hgroups⟩ := h s hs
  refine ⟨s.record number t, ?_, htakes.record number, ?_⟩
  · rw [ends, List.head?_map, ht]
    rfl
  · rw [List.cons_append, ← hgroups]
    simp [groupTexts, Cursor.record, Capture.text, htakes.take_eq]

theorem either (h : p.Leads v rest gs) (q : Pattern) : (Pattern.either p q).Leads v rest gs := by
  intro s hs
  obtain ⟨t, ht, htakes, hgroups⟩ := h s hs
  refine ⟨t, ?_, htakes, hgroups⟩
  rw [ends, List.head?_append, ht, Option.some_or]

theorem inOrder_cons (h : p.Leads v (w ++ rest) gs) (h' : (inOrder ps).Leads w rest gs') :
    (inOrder (p :: ps)).Leads (v ++ w) rest (gs' ++ gs) := by
  intro s hs
  rw [List.append_assoc] at hs
  obtain ⟨t, ht, htakes, hgroups⟩ := h s hs
  have hafter : t.after = w ++ rest := List.append_cancel_left (htakes.after_eq.symm.trans hs)
  obtain ⟨e, he, htakes', hgroups'⟩ := h' t hafter
  refine ⟨e, ?_, htakes.trans htakes', by rw [hgroups', hgroups, List.append_assoc]⟩
  -- the first way through the first pattern goes on, so it is the first way through all
  obtain ⟨ts, hts⟩ := List.head?_eq_some_iff.mp ht
  rw [ends_inOrder_cons, hts, List.flatMap_cons, List.head?_append, he, Option.some_or]

theorem after_ones {sets : List CharSet} (hsets : List.Forall₂ (fun set c ↦ set.holds c) sets v)
    (h : (inOrder ps).Leads w rest gs) :
    (inOrder (sets.map one ++ ps)).Leads (v ++ w) rest gs := by
  induction hsets with
  | nil => exact h
  | @cons set c sets v hc _ ih =>
    have hone : (one set).Leads [c] (v ++ w ++ rest) [] := by
      intro s hs
      refine ⟨s.step c (v ++ w ++ rest), ?_, .step hs, rfl⟩
      rw [ends, hs]
      simp only [List.cons_append, List.nil_append, hc, if_true, List.head?_cons]
    have hmore := hone.inOrder_cons ih
    rwa [List.append_nil] at hmore

theorem exists_matchAt (h : p.Leads v rest gs) (size index : Nat) (before : List Char) :
    ∃ m, p.matchAt false ⟨size, index, before, v ++ rest, []⟩ = some m ∧ m.text = v ∧
      ∀ number, m.group number = (gs.find? fun g ↦ g.1 == number).map (·.2) := by
  obtain ⟨t, ht, htakes, hgroups⟩ := h ⟨size, index, before, v ++ rest, []⟩ rfl
  refine ⟨_, by rw [matchAt_false, ht]; rfl, htakes.take_eq, fun number ↦ ?_⟩
  have hgs : t.groupTexts = gs := by simpa [groupTexts] using hgroups
  exact (Cursor.group_eq t number).trans (by rw [hgs])

end Leads

theorem exists_of_mem_ends_ones {sets : List CharSet} {e : Cursor}
    (h : e ∈ (inOrder (sets.map one ++ ps)).ends s) :
    ∃ v t, s.Takes v t ∧ List.Forall₂ (fun set c ↦ set.holds c) sets v ∧
      e ∈ (inOrder ps).ends t := by
  induction sets generalizing s with
  | nil => exact ⟨[], s, .refl s, .nil, h⟩
  | cons set sets ih =>
    rw [List.map_cons, List.cons_append, mem_ends_inOrder_cons] at h
    obtain ⟨u, hu, h⟩ := h
    obtain ⟨c, rest, hs, hc, rfl⟩ := mem_ends_one.mp hu
    obtain ⟨v, t, hv, hsets, he⟩ := ih h
    exact ⟨[c] ++ v, t, (Cursor.Takes.step hs).trans hv, .cons hc hsets, he⟩

/-- Where `v` stands in front of `rest`, the pattern does not begin within `v`. -/
def Skips (p : Pattern) (v rest : Text) : Prop :=
  ∀ x y, v = x ++ y → y ≠ [] → ∀ s, s.after = y ++ rest → p.ends s = []

theorem Skips.tail {c : Char} (h : p.Skips (c :: v) rest) : p.Skips v rest := by
  intro x y hv hy s hs
  exact h (c :: x) y (by rw [hv]; rfl) hy s hs

theorem exists_ends_shortest (hv : ∀ c ∈ v, set.holds c) (hs : s.after = v ++ rest) :
    ∃ passed left, (span .shortest 0 none set).ends s = passed ++ s.advance v.length :: left ∧
      ∀ t ∈ passed, ∃ n < v.length, t = s.advance n := by
  have hmost : v.length ≤ spanMost set.holds none s.after := hs ▸ le_spanMost hv rest
  obtain ⟨more, hmore⟩ := Nat.exists_eq_add_of_le hmost
  have hsizes : spanSizes .shortest 0 (spanMost set.holds none s.after) =
      List.range' 0 v.length ++ v.length :: List.range' (v.length + 1) more := by
    rw [spanSizes, hmore, show v.length + more + 1 - 0 = v.length + (more + 1) by omega,
      ← List.range'_append_1, List.range'_succ, Nat.zero_add]
  refine ⟨(List.range' 0 v.length).map s.advance,
    (List.range' (v.length + 1) more).map s.advance, ?_, fun t ht ↦ ?_⟩
  · rw [ends, hsizes, List.map_append, List.map_cons]
  · obtain ⟨n, hn, rfl⟩ := List.mem_map.mp ht
    exact ⟨n, by simpa using hn, rfl⟩

/-- A shortest repetition goes on up to the first place at which what follows it begins; what it
took may be kept by `keep`, which stays where it is. -/
theorem head?_shortest {e : Cursor} (keep : Cursor → Cursor) (hkeep : ∀ t, (keep t).after = t.after)
    (hv : ∀ c ∈ v, set.holds c) (hskips : (inOrder ps).Skips v rest) (hs : s.after = v ++ rest)
    (he : ((inOrder ps).ends (keep (s.advance v.length))).head? = some e) :
    ((((span .shortest 0 none set).ends s).map keep).flatMap (inOrder ps).ends).head? = some e := by
  obtain ⟨passed, left, hends, hpassed⟩ := exists_ends_shortest hv hs
  have hnone : (passed.map keep).flatMap (inOrder ps).ends = [] := by
    rw [List.flatMap_eq_nil_iff]
    intro t ht
    obtain ⟨u, hu, rfl⟩ := List.mem_map.mp ht
    obtain ⟨n, hn, rfl⟩ := hpassed u hu
    refine hskips (v.take n) (v.drop n) (List.take_append_drop n v).symm (by simpa using hn) _ ?_
    rw [hkeep, ← List.drop_append_of_le_length (Nat.le_of_lt hn), ← hs]
    rfl
  rw [hends, List.map_append, List.flatMap_append, hnone, List.nil_append, List.map_cons,
    List.flatMap_cons, List.head?_append, he, Option.some_or]

theorem leads_shortest (hv : ∀ c ∈ v, set.holds c) (hskips : (inOrder ps).Skips v (w ++ rest))
    (h : (inOrder ps).Leads w rest gs) :
    (inOrder (span .shortest 0 none set :: ps)).Leads (v ++ w) rest gs := by
  intro s hs
  rw [List.append_assoc] at hs
  have htakes := Cursor.Takes.advance (s := s) (n := v.length) (by simp [hs])
  rw [hs, List.take_left] at htakes
  have hafter : (s.advance v.length).after = w ++ rest := by simp [Cursor.advance, hs]
  obtain ⟨e, he, htakes', hgroups⟩ := h _ hafter
  have hhead := head?_shortest id (fun _ ↦ rfl) hv hskips hs he
  rw [List.map_id, ← ends_inOrder_cons] at hhead
  exact ⟨e, hhead, htakes.trans htakes', hgroups⟩

theorem leads_shortest_group (number : Nat) (hv : ∀ c ∈ v, set.holds c)
    (hskips : (inOrder ps).Skips v (w ++ rest)) (h : (inOrder ps).Leads w rest gs) :
    (inOrder (.group number (span .shortest 0 none set) :: ps)).Leads (v ++ w) rest
      (gs ++ [(number, v)]) := by
  intro s hs
  rw [List.append_assoc] at hs
  have htakes := Cursor.Takes.advance (s := s) (n := v.length) (by simp [hs])
  rw [hs, List.take_left] at htakes
  have hafter : (s.record number (s.advance v.length)).after = w ++ rest := by
    simp [Cursor.advance, Cursor.record, hs]
  obtain ⟨e, he, htakes', hgroups⟩ := h _ hafter
  have hhead := head?_shortest (s.record number) (fun _ ↦ rfl) hv hskips hs he
  refine ⟨e, ?_, (htakes.record number).trans htakes', ?_⟩
  · rw [ends_inOrder_cons, ends]
    exact hhead
  · rw [hgroups, List.append_assoc]
    simp [groupTexts, Cursor.record, Cursor.advance, Capture.text, hs]

namespace Consumes

variable {size index : Nat} {nonEmpty : Bool} {before : List Char}

theorem findFrom_of_skips (hp : p.Consumes) (h : p.Skips v rest) :
    p.findFrom size nonEmpty before index (v ++ rest) =
      p.findFrom size false (v.reverse ++ before) (index + v.length) rest := by
  induction v generalizing nonEmpty before index with
  | nil => exact hp.findFrom_nonEmpty nonEmpty size before index rest
  | cons c v ih =>
    have hends := h [] (c :: v) rfl (by simp) ⟨size, index, before, c :: (v ++ rest), []⟩ rfl
    have hnone : p.matchAt false ⟨size, index, before, c :: (v ++ rest), []⟩ = none := by
      rw [matchAt_false, hends]
      rfl
    rw [List.cons_append, hp.findFrom_of_none nonEmpty hnone, ih h.tail]
    simp [Nat.add_assoc, Nat.add_comm 1]

theorem searchFrom_of_skips (hp : p.Consumes) (h : p.Skips v rest) :
    p.searchFrom size nonEmpty before index (v ++ rest) =
      p.searchFrom size false (v.reverse ++ before) (index + v.length) rest := by
  induction v generalizing nonEmpty before index with
  | nil =>
    change p.searchFrom size nonEmpty before index rest = p.searchFrom size false before index rest
    rw [searchFrom.eq_def, searchFrom.eq_def p size false, hp.matchAt_eq nonEmpty]
  | cons c v ih =>
    have hends := h [] (c :: v) rfl (by simp) ⟨size, index, before, c :: (v ++ rest), []⟩ rfl
    have hnone : p.matchAt nonEmpty ⟨size, index, before, c :: (v ++ rest), []⟩ = none := by
      rw [hp.matchAt_eq, matchAt_false, hends]
      rfl
    rw [List.cons_append, searchFrom.eq_def, hnone]
    dsimp only
    rw [ih h.tail]
    simp [Nat.add_assoc, Nat.add_comm 1]

theorem exists_find?_eq (hp : p.Consumes) (hskips : p.Skips v (w ++ rest))
    (h : p.Leads w rest gs) :
    ∃ m, p.find? (v ++ (w ++ rest)) = some m ∧ m.text = w ∧
      ∀ number, m.group number = (gs.find? fun g ↦ g.1 == number).map (·.2) := by
  obtain ⟨m, hm, htext, hgroups⟩ := h.exists_matchAt (v ++ (w ++ rest)).length (0 + v.length)
    (v.reverse ++ [])
  refine ⟨m, ?_, htext, hgroups⟩
  rw [find?, hp.searchFrom_of_skips hskips, searchFrom.eq_def, hm]

theorem findFrom_of_leads (hp : p.Consumes) (h : p.Leads v rest gs) (size : Nat) (nonEmpty : Bool)
    (before : List Char) (index : Nat) :
    ∃ m, m.text = v ∧ (∀ number, m.group number = (gs.find? fun g ↦ g.1 == number).map (·.2)) ∧
      p.findFrom size nonEmpty before index (v ++ rest) =
        m :: p.findFrom size false (v.reverse ++ before) (index + v.length) rest := by
  obtain ⟨m, hm, rfl, hgroups⟩ := h.exists_matchAt size index before
  obtain ⟨rest', hrest, -, -, hfind⟩ := hp.findFrom_of_some nonEmpty hm
  rw [← List.append_cancel_left hrest] at hfind
  exact ⟨m, rfl, hgroups, hfind⟩

end Consumes

/-! Repetitions -/

def turnsText (turns : List (Text × List (Nat × Text))) : Text := turns.flatMap (·.1)

/-- In front of `rest` a body prefers the turns one after the other, and no further one. -/
inductive LeadsTurns (p : Pattern) (rest : Text) : List (Text × List (Nat × Text)) → Prop
  | done (h : ∀ s : Cursor, s.after = rest → p.ends s = []) : LeadsTurns p rest []
  | turn {v : Text} {gs : List (Nat × Text)} {turns : List (Text × List (Nat × Text))}
      (hv : v ≠ []) (h : p.Leads v (turnsText turns ++ rest) gs) (more : LeadsTurns p rest turns) :
      LeadsTurns p rest ((v, gs) :: turns)

namespace LeadsTurns

variable {turns : List (Text × List (Nat × Text))}

theorem length_le (h : LeadsTurns p rest turns) : turns.length ≤ (turnsText turns).length := by
  induction h with
  | done => exact Nat.zero_le _
  | @turn v gs turns hv _ _ ih =>
    have hpos := List.length_pos_iff.mpr hv
    simp only [turnsText, List.flatMap_cons, List.length_append, List.length_cons] at ih ⊢
    omega

theorem exists_head?_furtherEnds (h : LeadsTurns p rest turns) {n : Nat} (hn : turns.length ≤ n)
    (hs : s.after = turnsText turns ++ rest) :
    ∃ t, (furtherEnds .longest p.ends n s).head? = some t ∧ s.Takes (turnsText turns) t ∧
      t.groupTexts = turns.reverse.flatMap (·.2) ++ s.groupTexts := by
  induction h generalizing n s with
  | done hnone =>
    refine ⟨s, ?_, .refl s, rfl⟩
    cases n with
    | zero => rfl
    | succ n =>
      rw [furtherEnds, hnone s hs]
      rfl
  | @turn v gs turns hv hlead _ ih =>
    cases n with
    | zero => simp at hn
    | succ n =>
      rw [turnsText, List.flatMap_cons, List.append_assoc, ← turnsText] at hs
      obtain ⟨t, ht, htakes, hgroups⟩ := hlead s hs
      have hafter : t.after = turnsText turns ++ rest :=
        List.append_cancel_left (htakes.after_eq.symm.trans hs)
      obtain ⟨e, he, htakes', hgroups'⟩ := ih (Nat.le_of_succ_le_succ hn) hafter
      refine ⟨e, ?_, htakes.trans htakes', by simp [hgroups', hgroups]⟩
      have hmoved : t.index ≠ s.index := by
        have hpos := List.length_pos_iff.mpr hv
        rw [htakes.index_eq]
        omega
      obtain ⟨ts, hts⟩ := List.head?_eq_some_iff.mp ht
      rw [furtherEnds, hts, List.flatMap_cons, if_neg hmoved, List.append_assoc, List.head?_append,
        he, Option.some_or]

theorem exists_head? (h : LeadsTurns p rest turns) (hsize : s.after.length ≤ s.size)
    (hs : s.after = turnsText turns ++ rest) :
    ∃ t, ((repeated .longest 0 none p).ends s).head? = some t ∧ s.Takes (turnsText turns) t ∧
      t.groupTexts = turns.reverse.flatMap (·.2) ++ s.groupTexts := by
  have hn : turns.length ≤ turnBound 0 none s := by
    have hle := h.length_le
    have hlength := congrArg List.length hs
    rw [List.length_append] at hlength
    rw [turnBound]
    omega
  rw [ends_repeated_longest]
  exact h.exists_head?_furtherEnds hn hs

end LeadsTurns

end SasMigration.Pattern
