import SasMigration.Proofs.Pattern.Taken

namespace SasMigration

def Cursor.between (u v : Text) : Cursor := ⟨u.length + v.length, u.length, u.reverse, v, []⟩

/-- A match of a pattern in a text. -/
def Match.IsOf (m : Match) (p : Pattern) (t : Text) : Prop :=
  ∃ u v e, t = u ++ (m.text ++ v) ∧ m.start = u.length ∧ m.groups = e.groups ∧
    e ∈ p.ends (.between u (m.text ++ v)) ∧ (Cursor.between u (m.text ++ v)).Takes m.text e

namespace Pattern

variable {p : Pattern} {m : Match} {size index : Nat} {nonEmpty : Bool} {before after : List Char}

theorem matchAt_eq_some {s : Cursor} (h : p.matchAt nonEmpty s = some m) :
    ∃ e ∈ p.ends s, ∃ v, s.Takes v e ∧ m = ⟨s.index, v, e.groups⟩ := by
  rw [matchAt, run_eq] at h
  obtain ⟨e, he, rfl⟩ := Option.map_eq_some_iff.mp h
  obtain ⟨t, ht, hk⟩ := List.exists_of_findSome?_eq_some he
  split at hk
  · cases hk
  · obtain rfl := Option.some.inj hk
    obtain ⟨v, hv⟩ := takes_of_mem_ends ht
    exact ⟨_, ht, v, hv, by rw [hv.take_eq]⟩

def MatchedFrom (p : Pattern) (size : Nat) (before : List Char) (index : Nat) (after : List Char)
    (m : Match) : Prop :=
  ∃ skipped rest nonEmpty, after = skipped ++ rest ∧
    p.matchAt nonEmpty ⟨size, index + skipped.length, skipped.reverse ++ before, rest, []⟩ = some m

theorem MatchedFrom.here (h : p.matchAt nonEmpty ⟨size, index, before, after, []⟩ = some m) :
    p.MatchedFrom size before index after m := ⟨[], after, nonEmpty, rfl, h⟩

theorem MatchedFrom.skip {u : List Char}
    (h : p.MatchedFrom size (u.reverse ++ before) (index + u.length) after m) :
    p.MatchedFrom size before index (u ++ after) m := by
  obtain ⟨skipped, rest, nonEmpty, rfl, hm⟩ := h
  refine ⟨u ++ skipped, rest, nonEmpty, (List.append_assoc u skipped rest).symm, ?_⟩
  rwa [List.length_append, List.reverse_append, List.append_assoc, ← Nat.add_assoc]

theorem matchedFrom_of_searchFrom (h : p.searchFrom size nonEmpty before index after = some m) :
    p.MatchedFrom size before index after m := by
  induction after generalizing nonEmpty before index with
  | nil =>
    rw [searchFrom] at h
    split at h
    · next hm => exact .here (h ▸ hm)
    · cases h
  | cons c rest ih =>
    rw [searchFrom] at h
    split at h
    · next hm => exact .here (h ▸ hm)
    · exact (ih h).skip (u := [c])

theorem MatchedFrom.stop_le (h : p.MatchedFrom size before index after m) :
    m.stop ≤ index + after.length := by
  obtain ⟨skipped, rest, nonEmpty, rfl, hm⟩ := h
  obtain ⟨e, -, v, hv, rfl⟩ := matchAt_eq_some hm
  have hlen := congrArg List.length hv.after_eq
  simp only [List.length_append] at hlen
  simp only [Match.stop, List.length_append]
  omega

theorem matchedFrom_of_mem_findFrom (h : m ∈ p.findFrom size nonEmpty before index after) :
    p.MatchedFrom size before index after m := by
  fun_induction findFrom p size nonEmpty before index after with
  | case1 => cases h
  | case2 before index after m' used hused hm' =>
    cases List.mem_singleton.mp h
    exact matchedFrom_of_searchFrom hm'
  | case3 nonEmpty before index after m' hm' used hused hne ih =>
    rcases List.mem_cons.mp h with rfl | h
    · exact matchedFrom_of_searchFrom hm'
    · exact ih h
  | case4 nonEmpty before index m' used hused hm' =>
    cases List.mem_singleton.mp h
    exact matchedFrom_of_searchFrom hm'
  | case5 nonEmpty before index m' used hused c rest hm' ih =>
    rcases List.mem_cons.mp h with rfl | h
    · exact matchedFrom_of_searchFrom hm'
    · have hstop := (matchedFrom_of_searchFrom hm').stop_le
      have hlen : ((c :: rest).take used).length = used := by
        rw [List.length_take]
        omega
      have hrest : (c :: rest).take used ++ rest.drop (used - 1) = c :: rest := by
        obtain ⟨n, hn⟩ := Nat.exists_eq_succ_of_ne_zero hused
        rw [hn, List.take_succ_cons, Nat.succ_sub_one, List.cons_append, List.take_append_drop]
      rw [← hrest]
      exact MatchedFrom.skip (hlen.symm ▸ ih h)

theorem isOf_of_mem_findAll {t : Text} (h : m ∈ p.findAll t) : m.IsOf p t := by
  obtain ⟨u, rest, nonEmpty, rfl, hm⟩ := matchedFrom_of_mem_findFrom h
  obtain ⟨e, he, w, hw, rfl⟩ := matchAt_eq_some hm
  obtain ⟨v, rfl⟩ : ∃ v, rest = w ++ v := ⟨_, hw.after_eq⟩
  have hs : (⟨(u ++ (w ++ v)).length, 0 + u.length, u.reverse ++ [], w ++ v, []⟩ : Cursor) =
      .between u (w ++ v) := by
    rw [Cursor.between, List.length_append, Nat.zero_add, List.append_nil]
  rw [hs] at he hw
  exact ⟨u, v, e, rfl, Nat.zero_add _, rfl, he, hw⟩

theorem isOf_of_matchStart? {t : Text} (h : p.matchStart? t = some m) : m.IsOf p t := by
  obtain ⟨e, he, w, hw, rfl⟩ := matchAt_eq_some h
  obtain ⟨v, rfl⟩ : ∃ v, t = w ++ v := ⟨_, hw.after_eq⟩
  have hs : Cursor.start (w ++ v) = .between [] (w ++ v) := by
    rw [Cursor.between, List.length_nil, Nat.zero_add]
    rfl
  rw [hs] at he hw
  exact ⟨[], v, e, rfl, rfl, rfl, he, hw⟩

theorem records_of_isOf {Q : Nat → Text → Prop} {t w : Text} {number : Nat}
    (hp : p.Records Q) (h : m.IsOf p t) (hw : m.group number = some w) : Q number w := by
  obtain ⟨u, v, e, -, -, hg, he, -⟩ := h
  rw [Match.group, hg] at hw
  obtain ⟨g, hfind, rfl⟩ := Option.map_eq_some_iff.mp hw
  have hn : g.1 = number := by simpa using List.find?_some hfind
  have hs : HasRecorded Q (.between u (m.text ++ v)) := fun g hg ↦ nomatch hg
  exact hn ▸ hasRecorded_of_mem_ends hp hs he g (List.mem_of_find?_eq_some hfind)

theorem records_of_mem_findAll {Q : Nat → Text → Prop} {t w : Text} {number : Nat}
    (hp : p.Records Q) (h : m ∈ p.findAll t) (hw : m.group number = some w) : Q number w :=
  records_of_isOf hp (isOf_of_mem_findAll h) hw

theorem exists_group_of_isOf {ps : List Pattern} {q : Pattern} {number : Nat} {t : Text}
    (h : m.IsOf (inOrder (ps ++ [group number q])) t) :
    ∃ s e v, e ∈ q.ends s ∧ s.Takes v e ∧ m.group number = some v := by
  obtain ⟨u, v, e, -, -, hgroups, he, -⟩ := h
  obtain ⟨s, -, hlast⟩ := mem_ends_inOrder_append.mp he
  obtain ⟨e', he', rfl⟩ := List.mem_map.mp hlast
  obtain ⟨w, hw⟩ := takes_of_mem_ends he'
  refine ⟨s, e', w, he', hw, ?_⟩
  rw [Match.group, hgroups]
  simp [Cursor.record, Capture.text, hw.take_eq]

theorem records_inOrder {Q : Nat → Text → Prop} {ps : List Pattern} :
    (inOrder ps).Records Q ↔ ∀ p ∈ ps, p.Records Q := by
  induction ps with
  | nil => simp [inOrder, Records]
  | cons p ps ih =>
    cases ps with
    | nil => simp [inOrder]
    | cons q ps => exact (and_congr_right fun _ ↦ ih).trans List.forall_mem_cons.symm

theorem records_letters {Q : Nat → Text → Prop} (letterCase : LetterCase) (w : Text) :
    (inOrder (w.map fun c ↦ one (.letter c letterCase))).Records Q := by
  rw [records_inOrder]
  intro p hp
  obtain ⟨c, -, rfl⟩ := List.mem_map.mp hp
  trivial

theorem isWord_of_mem_word1 {s t : Cursor} {v : Text} (h : t ∈ word1.ends s) (hv : s.Takes v t) :
    ∀ c ∈ v, Text.isWord c := by
  intro c hc
  have hset := (holds_of_mem_ends_span h hv).2 c hc
  simpa [CharSet.holds, CharSet.word, ClassItem.holds, CharKind.holds] using hset

end Pattern

end SasMigration
