import SasMigration.Proofs.Pattern.ReaderSteps

namespace SasMigration

theorem Text.notMem_special {c : Char} (hc : isWord c) : c ∉ ReadPattern.special := by
  intro h
  have hnone : (ReadPattern.special.all fun c ↦ !isWord c) = true := by decide
  simpa [hc] using List.all_eq_true.mp hnone c h

namespace ReadPattern

variable {s : PatternSource} {c : Char} {r w v : Text} {flags : PatternFlags}
  {place : SequencePlace} {depth n : Nat} {items new more : List PatternItem}

/-- Reading a sequence goes on from one place to another, if there is fuel for what is left: two
units a character, since a group hands its body on through two readers. -/
def Advances (flags : PatternFlags) (place : SequencePlace) (items : List PatternItem)
    (s : PatternSource) (items' : List PatternItem) (s' : PatternSource) : Prop :=
  ∀ n, 2 * s.rest.length < n → ∃ m, 2 * s'.rest.length < m ∧
    (readSequence n flags place items).run s = (readSequence m flags place items').run s'

theorem Advances.refl : Advances flags place items s items s := fun n hn ↦ ⟨n, hn, rfl⟩

theorem Advances.trans {items' items'' : List PatternItem} {s' s'' : PatternSource}
    (h : Advances flags place items s items' s') (h' : Advances flags place items' s' items'' s'') :
    Advances flags place items s items'' s'' := by
  intro n hn
  obtain ⟨m, hm, he⟩ := h n hn
  obtain ⟨k, hk, he'⟩ := h' m hm
  exact ⟨k, hk, he.trans he'⟩

theorem Advances.step {items' : List PatternItem} {s' : PatternSource}
    (hrest : s'.rest.length < s.rest.length)
    (h : ∀ n, 2 * s.rest.length ≤ n → (readSequence (n + 1) flags place items).run s =
      (readSequence n flags place items').run s') :
    Advances flags place items s items' s' := by
  intro n hn
  obtain ⟨m, rfl⟩ := Nat.exists_eq_add_of_lt (Nat.zero_lt_of_lt hn)
  exact ⟨0 + m, by omega, h _ (by omega)⟩

/-- Texts that can follow an item: no escape is cut off. -/
def Whole (r : Text) : Prop := r ≠ ['\\']

/-- Texts that can follow an item with a quantifier: they do not change its preference. -/
def Fits (r : Text) : Prop := Whole r ∧ r.head? ≠ some '?' ∧ r.head? ≠ some '+'

instance : DecidablePred Whole := fun r ↦ inferInstanceAs (Decidable (r ≠ ['\\']))

instance : DecidablePred Fits := fun r ↦
  inferInstanceAs (Decidable (Whole r ∧ r.head? ≠ some '?' ∧ r.head? ≠ some '+'))

theorem Fits.append (h : Fits v) (hv : v ≠ []) (r : Text) : Fits (v ++ r) := by
  obtain ⟨c, v, rfl⟩ := List.exists_cons_of_ne_nil hv
  obtain ⟨hback, hhead⟩ := h
  refine ⟨fun he ↦ hback ?_, hhead⟩
  obtain ⟨rfl, hnil⟩ := List.cons.inj he
  rw [(List.append_eq_nil_iff.mp hnil).1]

theorem fits_of_closes (h : r = [] ∨ r.head? = some ')') : Fits r := by
  rcases h with rfl | h
  · exact ⟨by simp [Whole], by simp, by simp⟩
  · refine ⟨?_, by simp [h], by simp [h]⟩
    rintro rfl
    cases h

/-- Reading `w` at a depth, before a text that can follow it, adds items, the last first. -/
def Reads (follows : Text → Prop) (flags : PatternFlags) (depth : Nat) (w : Text)
    (new : List PatternItem) : Prop :=
  ∀ first items s r, s.rest = w ++ r → follows r → s.template = false →
    Advances flags ⟨false, first, depth⟩ items s (new ++ items) (s.past w r)

theorem Reads.fits (h : Reads Whole flags depth w new) : Reads Fits flags depth w new :=
  fun first items s r hs hr ↦ h first items s r hs hr.1

theorem Reads.append (hw : Reads Fits flags depth w new) (hv : Reads Fits flags depth v more)
    (hfits : Fits v) (hne : v ≠ []) : Reads Fits flags depth (w ++ v) (more ++ new) := by
  intro first items s r hs hr ht
  have h1 := hw first items s (v ++ r) (by rw [hs, List.append_assoc]) (hfits.append hne r) ht
  have h2 := hv first (new ++ items) (s.past w (v ++ r)) r rfl hr ht
  rw [PatternSource.past_past] at h2
  rw [List.append_assoc]
  exact h1.trans h2

theorem reads_letters (flags : PatternFlags) (depth : Nat) (hw : ∀ c ∈ w, c ∉ special) :
    Reads Whole flags depth w (w.map fun c ↦ single (.letter c flags.letterCase)).reverse := by
  induction w with
  | nil =>
    intro first items s r hs hr ht
    have he : s.past [] r = s := by
      rw [PatternSource.past, ← List.nil_append r, ← hs]
      rfl
    rw [he]
    exact .refl
  | cons c w ih =>
    obtain ⟨hc, hw⟩ := List.forall_mem_cons.mp hw
    intro first items s r hs hr ht
    -- the character would otherwise be followed by an escape that is cut off
    have hne : w ++ r ≠ ['\\'] := by
      cases w with
      | nil => exact hr
      | cons d w =>
        intro he
        refine (List.forall_mem_cons.mp hw).1 ?_
        rw [(List.cons.inj he).1]
        exact List.mem_cons_self
    have hstep : Advances flags ⟨false, first, depth⟩ items s
        (single (.letter c flags.letterCase) :: items) (s.past [c] (w ++ r)) :=
      .step (by rw [hs]; exact Nat.lt_succ_self _) fun n _ ↦ readSequence_char hs hc hne rfl
    have hrest := ih hw first (single (.letter c flags.letterCase) :: items)
      (s.past [c] (w ++ r)) r rfl hr ht
    rw [PatternSource.past_past] at hrest
    rw [List.map_cons, List.reverse_cons, List.append_assoc]
    exact hstep.trans hrest

theorem reads_escape {item : PatternItem} (hitem : escape flags c = pure item) :
    Reads Whole flags depth ['\\', c] [item] := by
  intro first items s r hs hr ht
  refine .step ?_ fun n _ ↦ readSequence_escape hs hr hitem
  rw [hs, List.length_append]
  exact Nat.lt_add_of_pos_left Nat.two_pos

theorem reads_dot :
    Reads Whole flags depth ['.'] [single (if flags.dotAll then .all else .notNewline)] := by
  intro first items s r hs hr ht
  refine .step ?_ fun n _ ↦ readSequence_dot hs hr rfl
  rw [hs, List.length_append]
  exact Nat.lt_add_of_pos_left Nat.one_pos

theorem reads_wordClass : Reads Whole flags depth ['[', '\\', 'w', ']']
    [single (.ofItems false flags.letterCase [.kind .word flags.ascii false])] := by
  intro first items s r hs hr ht
  refine .step ?_ fun n _ ↦ readSequence_wordClass hs hr rfl
  rw [hs, List.length_append]
  exact Nat.lt_add_of_pos_left (Nat.zero_lt_succ _)

def times (preference : Preference) (low : Nat) (high : Option Nat) (item : PatternItem) :
    PatternItem :=
  { pattern := match item.pattern with
      | .one set => .span preference low high set
      | p => .repeated preference low high p
    role := .repetition
    width := item.width.times low high
    fault := item.fault }

theorem repeatLast_longest {item : PatternItem} {place low : Nat} {high : Option Nat}
    (hrole : item.role = .other) (hs : Fits s.rest) (ht : s.template = false) :
    (repeatLast (item :: items) place low high).run s =
      .ok (times .longest low high item :: items, s) := by
  simp only [repeatLast, hrole, reduceCtorEq, if_false]
  rw [run_bind_of_ok (eat_other (by decide) hs.2.1)]
  simp only [Bool.false_eq_true, if_false]
  rw [run_bind_of_ok (eat_other (by decide) hs.2.2), run_get_bind, ht]
  rfl

theorem repeatLast_shortest {item : PatternItem} {place low : Nat} {high : Option Nat}
    (hrole : item.role = .other) (hs : s.rest = '?' :: r) (hr : Whole r) (ht : s.template = false) :
    (repeatLast (item :: items) place low high).run s =
      .ok (times .shortest low high item :: items, s.past ['?'] r) := by
  have hcommitted : (pure false : ReadPattern Bool).run (s.past ['?'] r) =
      .ok (false, s.past ['?'] r) := rfl
  have htemplate : (s.past ['?'] r).template = false := ht
  simp only [repeatLast, hrole, reduceCtorEq, if_false]
  rw [run_bind_of_ok (eat_char hs (by decide) hr)]
  simp only [if_true]
  rw [run_bind_of_ok hcommitted, run_get_bind, htemplate]
  rfl

variable {item : PatternItem} {low : Nat} {high : Option Nat}

theorem Reads.longest (h : Reads Whole flags depth w [item]) (hrole : item.role = .other)
    (hc : (c, low, high) ∈ quantifiers) :
    Reads Fits flags depth (w ++ [c]) [times .longest low high item] := by
  intro first items s r hs hr ht
  have hwhole : Whole (c :: r) := by
    rintro he
    obtain ⟨rfl, -⟩ := List.cons.inj he
    exact absurd hc (by simp [quantifiers])
  have hitem := h first items s (c :: r) (by rw [hs, List.append_assoc]; rfl) hwhole ht
  refine hitem.trans (.step (Nat.lt_succ_self _) fun n _ ↦ ?_)
  rw [readSequence_quantifier rfl hc hr.1 rfl, PatternSource.past_past]
  exact run_bind_of_ok (repeatLast_longest hrole hr ht)

theorem Reads.shortest (h : Reads Whole flags depth w [item]) (hrole : item.role = .other)
    (hc : (c, low, high) ∈ quantifiers) :
    Reads Whole flags depth (w ++ [c, '?']) [times .shortest low high item] := by
  intro first items s r hs hr ht
  have hwhole : Whole (c :: '?' :: r) := by simp [Whole]
  have hitem := h first items s (c :: '?' :: r) (by rw [hs, List.append_assoc]; rfl) hwhole ht
  refine hitem.trans (.step ?_ fun n _ ↦ ?_)
  · exact Nat.lt_trans (Nat.lt_succ_self _) (Nat.lt_succ_self _)
  · rw [readSequence_quantifier rfl hc (by simp) rfl, PatternSource.past_past,
      List.singleton_append,
      run_bind_of_ok (repeatLast_shortest (s := s.past _ ('?' :: r)) hrole rfl hr ht),
      PatternSource.past_past, List.append_assoc]
    rfl

theorem readAlternatives_of_sequence {s' : PatternSource} (hdepth : depth ≤ deepest)
    (h : (readSequence n flags ⟨false, depth == 0 && true, depth⟩ []).run s = .ok (item, s'))
    (hbar : s'.rest.head? ≠ some '|') :
    (readAlternatives (n + 1) flags false depth []).run s = .ok (item, s') := by
  have hcheck : (checkDepth depth).run s = .ok ((), s) := by
    rw [checkDepth, if_neg (Nat.not_lt.mpr hdepth)]
    rfl
  rw [readAlternatives, run_bind_of_ok hcheck, List.isEmpty_nil, run_bind_of_ok h, run_get_bind,
    run_bind_of_ok (eat_other (by decide) hbar)]
  rfl

theorem Reads.alternatives (h : Reads Fits flags depth w new) (hdepth : depth ≤ deepest)
    (hs : s.rest = w ++ ')' :: r) (ht : s.template = false) (hn : 2 * s.rest.length < n) :
    (readAlternatives (n + 1) flags false depth []).run s =
      .ok (sequence new, s.past w (')' :: r)) := by
  obtain ⟨m, hm, he⟩ := h (depth == 0 && true) [] s _ hs (fits_of_closes (.inr rfl)) ht n hn
  obtain ⟨m, rfl⟩ := Nat.exists_eq_add_of_lt (Nat.zero_lt_of_lt hm)
  refine readAlternatives_of_sequence hdepth ?_ (fun he ↦ nomatch he)
  rw [he, List.append_nil, readSequence_close (.inr rfl) rfl]

theorem expectClose_close {start : Nat} (hs : s.rest = ')' :: r) (hr : Whole r) :
    (expectClose start).run s = .ok ((), s.past [')'] r) := by
  rw [expectClose, run_bind_of_ok (eat_char hs (by decide) hr)]
  rfl

theorem whole_append_close (hw : Whole w) : Whole (w ++ ')' :: r) := by
  intro he
  cases w with
  | nil => cases he
  | cons d w => exact absurd (List.cons.inj he).2 (by simp)

theorem Reads.plain (h : Reads Fits flags (depth + 2) w new) (hdepth : depth + 2 ≤ deepest)
    (hw : Whole w) :
    Reads Whole flags depth (['(', '?', ':'] ++ w ++ [')']) [sequence new] := by
  intro first items s r hs hr ht
  have hrest : s.rest = '(' :: '?' :: ':' :: (w ++ ')' :: r) := by
    rw [hs, List.append_assoc, List.append_assoc]
    rfl
  have hlen : s.rest.length = w.length + r.length + 4 := by
    rw [hrest]
    simp only [List.length_cons, List.length_append]
    omega
  refine .step (by rw [hlen]; change r.length < _; omega) fun n hn ↦ ?_
  obtain ⟨n, rfl⟩ : ∃ k, n = k + 1 := ⟨n - 1, by omega⟩
  have hbody := h.alternatives (s := s.past ['(', '?', ':'] (w ++ ')' :: r)) (r := r) (n := n)
    hdepth rfl ht (by change 2 * (w ++ ')' :: r).length < n; simp; omega)
  rw [readSequence_plain hrest (whole_append_close hw) rfl, run_bind_of_ok hbody,
    run_bind_of_ok (expectClose_close rfl hr), PatternSource.past_past, PatternSource.past_past]
  rfl

theorem readSequence_last_capture {first : Bool} (h : Reads Fits flags (depth + 2) w new)
    (hdepth : depth + 2 ≤ deepest) (hw : Fits w) (hs : s.rest = '(' :: (w ++ [')']))
    (ht : s.template = false) (hn : 2 * s.rest.length < n) :
    (readSequence n flags ⟨false, first, depth⟩ items).run s =
      .ok (sequence (⟨.group s.groups (sequence new).pattern, .other, (sequence new).width,
        (sequence new).fault⟩ :: items),
        { s.past ('(' :: (w ++ [')'])) [] with
          groups := s.groups + 1
          widths := (s.groups, (sequence new).width) :: s.widths }) := by
  have hlen : s.rest.length = w.length + 2 := by simp [hs]
  obtain ⟨n, rfl⟩ : ∃ k, n = k + 2 := ⟨n - 2, by omega⟩
  have hhead : (w ++ [')']).head? ≠ some '?' := by
    cases w with
    | nil => decide
    | cons c w => exact hw.2.1
  have hbody := h.alternatives (s := { s.past ['('] (w ++ [')']) with groups := s.groups + 1 })
    (r := []) (n := n) hdepth rfl ht (by change 2 * (w ++ [')']).length < n; simp; omega)
  rw [readSequence_capture hs (whole_append_close hw.1) hhead rfl, run_bind_of_ok hbody,
    run_bind_of_ok (expectClose_close rfl (by simp [Whole])), run_modify_bind,
    readSequence_close (.inl rfl) rfl]
  simp only [PatternSource.past, List.length_cons, List.length_append, List.length_nil,
    Nat.add_assoc, Nat.add_comm 1]

theorem fault_sequence (h : ∀ item ∈ items, item.fault = none) : (sequence items).fault = none := by
  rw [sequence, List.findSome?_eq_none_iff]
  exact fun item hitem ↦ h item (List.mem_reverse.mp hitem)

theorem read_capture (hw : Reads Fits flags 0 w new) (hv : Reads Fits flags 2 v more)
    (hverbose : flags.verbose = false) (hfits : Fits v)
    (hnew : ∀ item ∈ new, item.fault = none) (hmore : ∀ item ∈ more, item.fault = none) :
    Pattern.read flags (w ++ '(' :: (v ++ [')'])) =
      .ok ⟨.inOrder (new.reverse.map (·.pattern) ++
        [.group 1 (.inOrder (more.reverse.map (·.pattern)))]), 1⟩ := by
  let written := w ++ '(' :: (v ++ [')'])
  let s : PatternSource :=
    { rest := written, position := 0, flags, unicode := false, groups := 1, names := [],
      widths := [], behindGroups := none, references := [], template := false }
  let group : PatternItem :=
    ⟨.group 1 (sequence more).pattern, .other, (sequence more).width, (sequence more).fault⟩
  let s' : PatternSource := { s.past written [] with
    groups := 2
    widths := [(1, (sequence more).width)] }
  have hrest : Fits ('(' :: (v ++ [')'])) := ⟨by simp [Whole], by simp, by simp⟩
  have hseq : (readSequence (4 * written.length + 7) flags ⟨false, true, 0⟩ []).run s =
      .ok (sequence (group :: new), s') := by
    obtain ⟨m, hm, he⟩ := hw true [] s _ rfl hrest rfl (4 * written.length + 7)
      (by change 2 * written.length < _; omega)
    rw [he, List.append_nil, readSequence_last_capture hv (by decide) hfits rfl rfl hm]
    simp only [PatternSource.past, s', written, List.length_append, Nat.add_assoc]
    rfl
  have hbar : s'.rest.head? ≠ some '|' := by simp [s', PatternSource.past]
  have halt := readAlternatives_of_sequence (Nat.zero_le _) hseq hbar
  have hfault : (sequence (group :: new)).fault = none :=
    fault_sequence (List.forall_mem_cons.mpr ⟨fault_sequence hmore, hnew⟩)
  have hwhole : (readWhole written.length flags).run s =
      .ok (((sequence (group :: new)).pattern, 1), s') := by
    have hback : written ≠ ['\\'] := by
      intro h
      have hlen := congrArg List.length h
      simp only [written, List.length_append, List.length_cons, List.length_nil] at hlen
      omega
    have hunicode : (s'.flags.ascii && s'.unicode) = false := Bool.and_false _
    rw [readWhole, run_get_bind, if_neg hback, hverbose, run_bind_of_ok halt, run_get_bind]
    simp only [hunicode, hfault, Bool.false_eq_true, if_false]
    rfl
  rw [Pattern.read, hwhole]
  simp only [sequence, List.reverse_cons, List.map_append]
  rfl

/-- A text that is read without a fault, whatever stands before it. -/
def Readable (flags : PatternFlags) (depth : Nat) (w : Text) : Prop :=
  ∃ new, Reads Fits flags depth w new ∧ ∀ item ∈ new, item.fault = none

theorem Readable.append (hw : Readable flags depth w) (hv : Readable flags depth v)
    (hfits : Fits v) (hne : v ≠ []) : Readable flags depth (w ++ v) := by
  obtain ⟨new, hw, hnew⟩ := hw
  obtain ⟨more, hv, hmore⟩ := hv
  exact ⟨more ++ new, hw.append hv hfits hne, List.forall_mem_append.mpr ⟨hmore, hnew⟩⟩

theorem readable_letters (hw : ∀ c ∈ w, c ∉ special) : Readable flags depth w := by
  refine ⟨_, (reads_letters flags depth hw).fits, fun item hitem ↦ ?_⟩
  obtain ⟨c, -, rfl⟩ := List.mem_map.mp (List.mem_reverse.mp hitem)
  rfl

theorem readable_blanks : Readable flags depth ['\\', 's', '+'] := by
  have hitem : escape flags 's' = pure
      (single (.ofItems false flags.letterCase [.kind .blank flags.ascii false])) := rfl
  have hplus : ('+', 1, none) ∈ quantifiers := by decide
  refine ⟨_, (reads_escape hitem).longest rfl hplus, fun item hitem ↦ ?_⟩
  cases List.mem_singleton.mp hitem
  rfl

theorem readable_dot : Readable flags depth ['.'] := by
  refine ⟨_, reads_dot.fits, fun item hitem ↦ ?_⟩
  cases List.mem_singleton.mp hitem
  rfl

theorem readable_point : Readable flags depth ['\\', '.'] := by
  have hitem : escape flags '.' = pure (single (.letter '.' flags.letterCase)) := rfl
  refine ⟨_, (reads_escape hitem).fits, fun item hitem ↦ ?_⟩
  cases List.mem_singleton.mp hitem
  rfl

theorem readable_wordClass : Readable flags depth ['[', '\\', 'w', ']', '+'] := by
  have hplus : ('+', 1, none) ∈ quantifiers := by decide
  refine ⟨_, reads_wordClass.longest rfl hplus, fun item hitem ↦ ?_⟩
  cases List.mem_singleton.mp hitem
  rfl

theorem readable_anything : Readable flags depth ['.', '*', '?'] := by
  have hstar : ('*', 0, none) ∈ quantifiers := by decide
  refine ⟨_, (reads_dot.shortest rfl hstar).fits, fun item hitem ↦ ?_⟩
  cases List.mem_singleton.mp hitem
  rfl

theorem Readable.optional (h : Readable flags (depth + 2) w) (hdepth : depth + 2 ≤ deepest)
    (hw : Whole w) : Readable flags depth (['(', '?', ':'] ++ w ++ [')'] ++ ['?']) := by
  obtain ⟨new, hnew, hfault⟩ := h
  have hmark : ('?', 0, some 1) ∈ quantifiers := by decide
  refine ⟨_, (hnew.plain hdepth hw).longest rfl hmark, fun item hitem ↦ ?_⟩
  cases List.mem_singleton.mp hitem
  exact fault_sequence hfault

end ReadPattern

end SasMigration
