import SasMigration.Proofs.Value.RoundTrip

namespace SasMigration.Value

open Text (isBlank)

variable {t u r rest taken : Text} {c : Char} {n depth : Nat} {v : Value}

theorem exists_blanks (h : skipBlanks t = c :: u) :
    ∃ blanks, t = blanks ++ c :: u ∧ (∀ d ∈ blanks, isJsonBlank d) ∧
      ∀ r, skipBlanks (blanks ++ c :: r) = c :: r := by
  have hblank : ∀ d ∈ t.takeWhile isJsonBlank, isJsonBlank d := fun d hd ↦ List.mem_takeWhile_imp hd
  have hc : isJsonBlank c = false := by
    have hhead := List.head?_dropWhile_not isJsonBlank t
    rw [← skipBlanks, h] at hhead
    exact hhead
  refine ⟨t.takeWhile isJsonBlank, ?_, hblank, fun r ↦ ?_⟩
  · rw [← h, skipBlanks, List.takeWhile_append_dropWhile]
  · rw [skipBlanks_append hblank, skipBlanks_cons hc]

/-- With work enough, a reader takes `taken` in front of every beginning of `rest`. -/
structure Extent {α : Type} (read : Nat → Text → Except JsonFault (α × Text)) (a : α)
    (taken rest : Text) : Prop where
  closed : Closed taken
  takes : ∀ n, 2 * taken.length ≤ n → Takes (read n) (fun r ↦ .ok (a, r)) taken rest

/-- What a reader reads with this much work has an extent. -/
def HasExtents {α : Type} (read : Nat → Text → Except JsonFault (α × Text)) (n : Nat) : Prop :=
  ∀ t a rest, read n t = .ok (a, rest) → ∃ taken, t = taken ++ rest ∧ Extent read a taken rest

theorem Closed.exists_cons (h : Closed t) : ∃ c u, t = c :: u := by
  obtain ⟨c, hlast, -⟩ := h
  cases t with
  | nil => cases hlast
  | cons c u => exact ⟨c, u, rfl⟩

theorem Extent.after_blanks {α : Type} {read : Nat → Text → Except JsonFault (α × Text)} {a : α}
    (h : Extent read a taken rest) (hskip : skipBlanks t = taken ++ rest) :
    ∃ blanks, t = blanks ++ (taken ++ rest) ∧
      ∀ n r, 2 * taken.length ≤ n → r <+: rest →
        read n (skipBlanks (blanks ++ (taken ++ r))) = .ok (a, r) := by
  obtain ⟨c, u, rfl⟩ := h.closed.exists_cons
  obtain ⟨blanks, ht, -, hblanks⟩ := exists_blanks hskip
  refine ⟨blanks, ht, fun n r hn hr ↦ ?_⟩
  rw [List.cons_append, hblanks]
  exact h.takes n hn r hr

theorem prefix_append_cons (t : Text) (c : Char) (h : r <+: rest) :
    t ++ c :: r <+: t ++ c :: rest :=
  (List.prefix_append_right_inj t).mpr (List.cons_prefix_cons.mpr ⟨rfl, h⟩)

theorem readItems_cases {vs : List Value} (h : readItems (n + 1) depth t = .ok (vs, rest)) :
    ∃ v u, readValue n depth t = .ok (v, u) ∧
      (skipBlanks u = ']' :: rest ∧ vs = [v] ∨
        ∃ w ws, skipBlanks u = ',' :: w ∧ readItems n depth (skipBlanks w) = .ok (ws, rest) ∧
          vs = v :: ws) := by
  rw [readItems.eq_def] at h
  dsimp only at h
  cases hvalue : readValue n depth t with
  | error fault =>
    rw [hvalue] at h
    cases h
  | ok read =>
    obtain ⟨v, u⟩ := read
    refine ⟨v, u, rfl, ?_⟩
    simp only [hvalue, bind, Except.bind] at h
    by_cases hclose : (skipBlanks u).head? = some ']'
    · obtain ⟨w, hw⟩ := List.head?_eq_some_iff.mp hclose
      rw [hw] at h
      cases h
      exact .inl ⟨hw, rfl⟩
    by_cases hcomma : (skipBlanks u).head? = some ','
    · obtain ⟨w, hw⟩ := List.head?_eq_some_iff.mp hcomma
      cases hitems : readItems n depth (skipBlanks w) with
      | error fault =>
        simp only [hw, hitems] at h
        cases h
      | ok more =>
        simp only [hw, hitems] at h
        cases h
        exact .inr ⟨w, _, hw, hitems, rfl⟩
    · exfalso
      split at h
      · next hw => exact hclose (by rw [hw]; rfl)
      · next hw => exact hcomma (by rw [hw]; rfl)
      · cases h

theorem hasExtents_readItems (hvalues : HasExtents (readValue · depth) n)
    (hitems : HasExtents (readItems · depth) n) : HasExtents (readItems · depth) (n + 1) := by
  intro t vs rest h
  obtain ⟨v, u, hvalue, hcases⟩ := readItems_cases h
  obtain ⟨taken, rfl, hextent⟩ := hvalues t v u hvalue
  rcases hcases with ⟨hclose, rfl⟩ | ⟨w, ws, hcomma, hmore, rfl⟩
  · obtain ⟨blanks, rfl, -, hblanks⟩ := exists_blanks hclose
    refine ⟨taken ++ blanks ++ [']'], by simp, closed_concat _ (by decide) (by decide), ?_⟩
    intro m hm r hr
    simp only [List.length_append, List.length_singleton] at hm
    obtain ⟨m, rfl⟩ : ∃ k, m = k + 1 := ⟨m - 1, by omega⟩
    have hread := hextent.takes m (by omega) _ (prefix_append_cons blanks ']' hr)
    simp only [List.append_assoc, List.singleton_append]
    exact readItems_last hread (hblanks r)
  · obtain ⟨blanks, rfl, -, hblanks⟩ := exists_blanks hcomma
    obtain ⟨taken', hskip, hextent'⟩ := hitems _ ws rest hmore
    obtain ⟨gap, rfl, hgap⟩ := hextent'.after_blanks hskip
    refine ⟨taken ++ blanks ++ [','] ++ gap ++ taken', by simp, hextent'.closed.append_left _, ?_⟩
    intro m hm r hr
    simp only [List.length_append, List.length_singleton] at hm
    obtain ⟨m, rfl⟩ : ∃ k, m = k + 1 := ⟨m - 1, by omega⟩
    have hfront : gap ++ (taken' ++ r) <+: gap ++ (taken' ++ rest) := by
      simpa only [List.prefix_append_right_inj] using hr
    have hread := hextent.takes m (by omega) _ (prefix_append_cons blanks ',' hfront)
    simp only [List.append_assoc, List.singleton_append]
    exact readItems_more hread (hblanks _) (hgap m r (by omega) hr)

theorem readFields_cases {done members : Members}
    (h : readFields (n + 1) depth t done = .ok (members, rest)) :
    ∃ u key keyed more v last, t = '"' :: u ∧ readQuotedWhole u = .ok (key, keyed) ∧
      skipBlanks keyed = ':' :: more ∧ readValue n depth (skipBlanks more) = .ok (v, last) ∧
      (skipBlanks last = Char.ofNat 125 :: rest ∧ members = Fields.putKey key v done ∨
        ∃ next, skipBlanks last = ',' :: next ∧
          readFields n depth (skipBlanks next) (Fields.putKey key v done) =
            .ok (members, rest)) := by
  by_cases hquote : t.head? = some '"'
  · obtain ⟨u, rfl⟩ := List.head?_eq_some_iff.mp hquote
    rw [readFields.eq_def] at h
    cases hkey : readQuotedWhole u with
    | error fault =>
      simp only [hkey, bind, Except.bind] at h
      cases h
    | ok read =>
      obtain ⟨key, keyed⟩ := read
      simp only [hkey, bind, Except.bind] at h
      by_cases hcolon : (skipBlanks keyed).head? = some ':'
      · obtain ⟨more, hmore⟩ := List.head?_eq_some_iff.mp hcolon
        cases hvalue : readValue n depth (skipBlanks more) with
        | error fault =>
          simp only [hmore, hvalue] at h
          cases h
        | ok read =>
          obtain ⟨v, last⟩ := read
          refine ⟨u, key, keyed, more, v, last, rfl, hkey, hmore, hvalue, ?_⟩
          cases hlast : skipBlanks last with
          | nil =>
            simp only [hmore, hvalue, hlast] at h
            cases h
          | cons c next =>
            simp only [hmore, hvalue, hlast] at h
            by_cases hclose : c = Char.ofNat 125
            · rw [if_pos hclose] at h
              cases h
              exact .inl ⟨by rw [hclose], rfl⟩
            · rw [if_neg hclose] at h
              by_cases hcomma : c = ','
              · rw [if_pos hcomma] at h
                exact .inr ⟨next, by rw [hcomma], h⟩
              · rw [if_neg hcomma] at h
                cases h
      · exfalso
        split at h
        · next hmore => exact hcolon (by rw [hmore]; rfl)
        · cases h
  · exfalso
    rw [readFields.eq_def] at h
    dsimp only at h
    split at h
    · exact hquote rfl
    · cases h

theorem hasExtents_readFields (hvalues : HasExtents (readValue · depth) n)
    (hfields : ∀ done, HasExtents (readFields · depth · done) n) (done : Members) :
    HasExtents (readFields · depth · done) (n + 1) := by
  intro t members rest h
  obtain ⟨u, key, keyed, more, v, last, rfl, hkey, hkeyed, hvalue, hcases⟩ := readFields_cases h
  obtain ⟨inside, rfl, hquoted⟩ := takes_readQuotedWhole hkey
  obtain ⟨colon, rfl, -, hcolon⟩ := exists_blanks hkeyed
  obtain ⟨taken, hskip, hextent⟩ := hvalues _ v last hvalue
  obtain ⟨gap, rfl, hgap⟩ := hextent.after_blanks hskip
  rcases hcases with ⟨hclose, rfl⟩ | ⟨next, hcomma, hmore⟩
  · obtain ⟨blanks, rfl, -, hblanks⟩ := exists_blanks hclose
    refine ⟨['"'] ++ inside ++ ['"'] ++ colon ++ [':'] ++ gap ++ taken ++ blanks ++
      [Char.ofNat 125], by simp, closed_concat _ (by decide) (by decide), ?_⟩
    intro m hm r hr
    simp only [List.length_append, List.length_singleton] at hm
    obtain ⟨m, rfl⟩ : ∃ k, m = k + 1 := ⟨m - 1, by omega⟩
    have hread := hgap m _ (by omega) (prefix_append_cons blanks (Char.ofNat 125) hr)
    simp only [List.append_assoc, List.singleton_append]
    exact readFields_last (hquoted _) (hcolon _) hread (hblanks r)
  · obtain ⟨blanks, rfl, -, hblanks⟩ := exists_blanks hcomma
    obtain ⟨taken', hskip', hextent'⟩ := hfields _ _ members rest hmore
    obtain ⟨gap', rfl, hgap'⟩ := hextent'.after_blanks hskip'
    refine ⟨['"'] ++ inside ++ ['"'] ++ colon ++ [':'] ++ gap ++ taken ++ blanks ++ [','] ++ gap' ++
      taken', by simp, hextent'.closed.append_left _, ?_⟩
    intro m hm r hr
    simp only [List.length_append, List.length_singleton] at hm
    obtain ⟨m, rfl⟩ : ∃ k, m = k + 1 := ⟨m - 1, by omega⟩
    have hfront : gap' ++ (taken' ++ r) <+: gap' ++ (taken' ++ rest) := by
      simpa only [List.prefix_append_right_inj] using hr
    have hread := hgap m _ (by omega) (prefix_append_cons blanks ',' hfront)
    simp only [List.append_assoc, List.singleton_append]
    exact readFields_more (hquoted _) (hcolon _) hread (hblanks _) (hgap' m r (by omega) hr)

section Bracketed

variable {α β : Type} {read : Nat → Text → Except JsonFault (α × Text)} {opening close : Char}

theorem exists_extent_empty {a : α} (hclose : isBlank close = false ∧ close ≠ '`')
    (hread : ∀ m u r, skipBlanks u = close :: r → read (m + 1) (opening :: u) = .ok (a, r))
    (h : skipBlanks u = close :: rest) :
    ∃ taken, opening :: u = taken ++ rest ∧ Extent read a taken rest := by
  obtain ⟨blanks, rfl, -, hblanks⟩ := exists_blanks h
  refine ⟨[opening] ++ blanks ++ [close], by simp, closed_concat _ hclose.1 hclose.2, ?_⟩
  intro m hm r _
  simp only [List.length_append, List.length_singleton] at hm
  obtain ⟨m, rfl⟩ : ∃ k, m = k + 1 := ⟨m - 1, by omega⟩
  simp only [List.append_assoc, List.singleton_append]
  exact hread m _ r (hblanks r)

theorem exists_extent_inner {inner : Nat → Text → Except JsonFault (β × Text)} {wrap : β → α}
    {b : β}
    (hread : ∀ m u c w r, skipBlanks u = c :: w → c ≠ close → inner m (c :: w) = .ok (b, r) →
      read (m + 1) (opening :: u) = .ok (wrap b, r))
    (hinner : HasExtents inner n) (hc : c ≠ close) (hskip : skipBlanks u = c :: t)
    (h : inner n (c :: t) = .ok (b, rest)) :
    ∃ taken, opening :: u = taken ++ rest ∧ Extent read (wrap b) taken rest := by
  obtain ⟨taken, htaken, hextent⟩ := hinner _ b rest h
  obtain ⟨d, w, rfl⟩ := hextent.closed.exists_cons
  obtain rfl : c = d := (List.cons.inj htaken).1
  obtain ⟨blanks, rfl, -, hblanks⟩ := exists_blanks hskip
  refine ⟨[opening] ++ blanks ++ c :: w, by simp [htaken], hextent.closed.append_left _, ?_⟩
  intro m hm r hr
  simp only [List.length_append, List.length_cons] at hm
  obtain ⟨m, rfl⟩ : ∃ k, m = k + 1 := ⟨m - 1, by omega⟩
  have hinside := hextent.takes m (by simp only [List.length_cons]; omega) r hr
  simp only [List.append_assoc, List.cons_append]
  exact hread m _ c (w ++ r) r (hblanks _) hc hinside

end Bracketed

theorem readWord_of_cut (h : readWord t = none) (hr : r <+: t) : readWord r = none := by
  rw [readWord_eq, List.findSome?_eq_none_iff] at h ⊢
  intro word hword
  exact Option.map_eq_none_iff.mpr (after?_of_cut (Option.map_eq_none_iff.mp (h word hword)) hr)

theorem readValue_scalar (h : c ≠ '"' ∧ c ≠ Char.ofNat 123 ∧ c ≠ '[') :
    readValue (n + 1) depth (c :: u) =
      ((readWord (c :: u)).map Except.ok).getD (readNumber (c :: u)) := by
  rw [readValue.eq_def]
  dsimp only
  rw [if_neg h.1, if_neg h.2.1, if_neg h.2.2]
  cases readWord (c :: u) <;> rfl

theorem exists_extent_scalar (hc : c ≠ '"' ∧ c ≠ Char.ofNat 123 ∧ c ≠ '[')
    (h : readValue (n + 1) depth (c :: u) = .ok (v, rest)) :
    ∃ taken, c :: u = taken ++ rest ∧ Extent (readValue · depth) v taken rest := by
  have hextent {taken : Text} (htaken : c :: u = taken ++ rest) (hclosed : Closed taken)
      (hread : ∀ r, r <+: rest →
        ((readWord (taken ++ r)).map Except.ok).getD (readNumber (taken ++ r)) = .ok (v, r)) :
      ∃ taken, c :: u = taken ++ rest ∧ Extent (readValue · depth) v taken rest := by
    refine ⟨taken, htaken, hclosed, fun m hm r hr ↦ ?_⟩
    obtain ⟨d, w, rfl⟩ := hclosed.exists_cons
    obtain rfl : c = d := (List.cons.inj htaken).1
    rw [List.length_cons] at hm
    obtain ⟨m, rfl⟩ : ∃ k, m = k + 1 := ⟨m - 1, by omega⟩
    rw [List.cons_append, readValue_scalar hc]
    exact hread r hr
  rw [readValue_scalar hc] at h
  cases hword : readWord (c :: u) with
  | some read =>
    rw [hword] at h
    obtain rfl : read = (v, rest) := Except.ok.inj h
    obtain ⟨word, hmem, rfl, htaken, htakes⟩ := takes_readWord hword
    refine hextent htaken (closed_of_mem_words hmem) fun r hr ↦ ?_
    rw [htakes r hr]
    rfl
  | none =>
    rw [hword] at h
    obtain ⟨taken, htaken, hclosed, htakes⟩ := takes_readNumber h
    refine hextent htaken hclosed fun r hr ↦ ?_
    rw [readWord_of_cut hword (prefix_of_eq_append htaken hr), htakes r hr]
    rfl

theorem readValue_quoted (n depth : Nat) (u : Text) :
    readValue (n + 1) depth ('"' :: u) =
      (readQuotedWhole u).map fun (s, r) ↦ (.text (CodePoint.toText s), r) := by
  rw [readValue.eq_def]
  rfl

theorem readValue_list_empty (n depth : Nat) (h : skipBlanks u = ']' :: r) :
    readValue (n + 1) (depth + 1) ('[' :: u) = .ok (.list [], r) := by
  rw [readValue.eq_def]
  dsimp only
  rw [if_neg (by decide), if_neg (by decide), if_pos rfl, h]
  rfl

theorem readValue_list_cases (h : readValue (n + 1) depth ('[' :: u) = .ok (v, rest)) :
    ∃ inner, depth = inner + 1 ∧
      (skipBlanks u = ']' :: rest ∧ v = .list [] ∨
        ∃ c w items, skipBlanks u = c :: w ∧ c ≠ ']' ∧
          readItems n inner (c :: w) = .ok (items, rest) ∧ v = .list items) := by
  rw [readValue.eq_def] at h
  dsimp only at h
  rw [if_neg (by decide), if_neg (by decide), if_pos rfl] at h
  cases depth with
  | zero => cases h
  | succ inner =>
    refine ⟨inner, rfl, ?_⟩
    cases hskip : skipBlanks u with
    | nil =>
      rw [hskip] at h
      cases h
    | cons c w =>
      rw [hskip] at h
      dsimp only at h
      by_cases hc : c = ']'
      · rw [if_pos hc] at h
        cases h
        exact .inl ⟨by rw [hc], rfl⟩
      · rw [if_neg hc] at h
        cases hitems : readItems n inner (c :: w) with
        | error fault =>
          rw [hitems] at h
          cases h
        | ok read =>
          rw [hitems] at h
          cases h
          exact .inr ⟨c, w, read.1, rfl, hc, hitems, rfl⟩

theorem readValue_object_empty (n depth : Nat) (h : skipBlanks u = Char.ofNat 125 :: r) :
    readValue (n + 1) (depth + 1) (Char.ofNat 123 :: u) = .ok (.object [], r) := by
  rw [readValue.eq_def]
  dsimp only
  rw [if_neg (by decide), if_pos rfl, h]
  rfl

theorem readValue_object_cases
    (h : readValue (n + 1) depth (Char.ofNat 123 :: u) = .ok (v, rest)) :
    ∃ inner, depth = inner + 1 ∧
      (skipBlanks u = Char.ofNat 125 :: rest ∧ v = .object [] ∨
        ∃ c w members, skipBlanks u = c :: w ∧ c ≠ Char.ofNat 125 ∧
          readFields n inner (c :: w) [] = .ok (members, rest) ∧ v = ofMembers members) := by
  rw [readValue.eq_def] at h
  dsimp only at h
  rw [if_neg (by decide), if_pos rfl] at h
  cases depth with
  | zero => cases h
  | succ inner =>
    refine ⟨inner, rfl, ?_⟩
    cases hskip : skipBlanks u with
    | nil =>
      rw [hskip] at h
      cases h
    | cons c w =>
      rw [hskip] at h
      dsimp only at h
      by_cases hc : c = Char.ofNat 125
      · rw [if_pos hc] at h
        cases h
        exact .inl ⟨by rw [hc], rfl⟩
      · rw [if_neg hc] at h
        cases hfields : readFields n inner (c :: w) [] with
        | error fault =>
          rw [hfields] at h
          cases h
        | ok read =>
          rw [hfields] at h
          cases h
          exact .inr ⟨c, w, read.1, rfl, hc, hfields, rfl⟩

theorem exists_extent_quoted (h : readValue (n + 1) depth ('"' :: u) = .ok (v, rest)) :
    ∃ taken, '"' :: u = taken ++ rest ∧ Extent (readValue · depth) v taken rest := by
  rw [readValue_quoted] at h
  cases hread : readQuotedWhole u with
  | error fault =>
    rw [hread] at h
    cases h
  | ok read =>
    rw [hread] at h
    cases h
    obtain ⟨inside, rfl, hquoted⟩ := takes_readQuotedWhole hread
    refine ⟨['"'] ++ inside ++ ['"'], by simp, closed_concat _ (by decide) (by decide), ?_⟩
    intro m hm r _
    simp only [List.length_append, List.length_singleton] at hm
    obtain ⟨m, rfl⟩ : ∃ k, m = k + 1 := ⟨m - 1, by omega⟩
    simp only [List.append_assoc, List.singleton_append]
    rw [List.cons_append, readValue_quoted, hquoted]
    rfl

theorem hasExtents_readValue (hitems : ∀ depth, HasExtents (readItems · depth) n)
    (hfields : ∀ depth done, HasExtents (readFields · depth · done) n) (depth : Nat) :
    HasExtents (readValue · depth) (n + 1) := by
  intro t v rest h
  cases t with
  | nil => cases h
  | cons c u =>
    by_cases hquote : c = '"'
    · subst hquote
      exact exists_extent_quoted h
    by_cases hbrace : c = Char.ofNat 123
    · subst hbrace
      obtain ⟨inner, rfl, ⟨hclose, rfl⟩ | ⟨d, w, members, hskip, hd, hread, rfl⟩⟩ :=
        readValue_object_cases h
      · exact exists_extent_empty (by decide) (fun m _ _ ↦ readValue_object_empty m inner) hclose
      · exact exists_extent_inner (fun _ _ _ _ _ ↦ readValue_object) (hfields inner []) hd hskip
          hread
    by_cases hbracket : c = '['
    · subst hbracket
      obtain ⟨inner, rfl, ⟨hclose, rfl⟩ | ⟨d, w, items, hskip, hd, hread, rfl⟩⟩ :=
        readValue_list_cases h
      · exact exists_extent_empty (by decide) (fun m _ _ ↦ readValue_list_empty m inner) hclose
      · exact exists_extent_inner (fun _ _ _ _ _ ↦ readValue_list) (hitems inner) hd hskip hread
    · exact exists_extent_scalar ⟨hquote, hbrace, hbracket⟩ h

theorem hasExtents (n : Nat) :
    (∀ depth, HasExtents (readValue · depth) n) ∧ (∀ depth, HasExtents (readItems · depth) n) ∧
      ∀ depth done, HasExtents (readFields · depth · done) n := by
  -- the three readers call one another with less work, so their extents are found together
  induction n with
  | zero =>
    refine ⟨?_, ?_, ?_⟩
    · intro depth t v rest h
      cases h
    · intro depth t vs rest h
      cases h
    · intro depth done t fields rest h
      cases h
  | succ n ih =>
    obtain ⟨hvalues, hitems, hfields⟩ := ih
    refine ⟨hasExtents_readValue hitems hfields, fun depth ↦ ?_, fun depth ↦ ?_⟩
    · exact hasExtents_readItems (hvalues depth) (hitems depth)
    · exact hasExtents_readFields (hvalues depth) (hfields depth)

/-! Whole texts -/

theorem readNumber_of_head (hminus : c ≠ '-') (hdigit : c.isDigit = false) :
    readNumber (c :: u) = .error .malformed := by
  have hsigned := signed_numberSigns (t := c :: u) (by simpa using hminus)
  have hzero : c ≠ '0' := by
    rintro rfl
    cases hdigit
  rw [readNumber_eq, hsigned, readUnsigned, readWhole, if_neg hzero, hdigit]
  rfl

theorem head_of_readValue (h : readValue n depth (c :: u) = .ok (v, rest)) :
    c ∈ ['"', Char.ofNat 123, '[', '-'] ∨ c.isDigit ∨
      ∃ word ∈ words, c :: u = word.1 ++ rest := by
  cases n with
  | zero => cases h
  | succ n =>
    by_cases hopening : c = '"' ∨ c = Char.ofNat 123 ∨ c = '['
    · exact .inl (by simp only [List.mem_cons]; tauto)
    · rw [not_or, not_or] at hopening
      rw [readValue_scalar hopening] at h
      cases hword : readWord (c :: u) with
      | some read =>
        rw [hword] at h
        obtain rfl : read = (v, rest) := Except.ok.inj h
        obtain ⟨word, hmem, -, htaken, -⟩ := takes_readWord hword
        exact .inr (.inr ⟨word, hmem, htaken⟩)
      | none =>
        rw [hword] at h
        by_cases hminus : c = '-'
        · exact .inl (by simp [hminus])
        cases hdigit : c.isDigit with
        | true => exact .inr (.inl rfl)
        | false =>
          have hnone := readNumber_of_head (u := u) hminus hdigit
          cases hnone.symm.trans h

theorem isBlank_of_readValue (h : readValue n depth (c :: u) = .ok (v, rest)) :
    isBlank c = false := by
  rcases head_of_readValue h with hc | hc | ⟨word, hword, heq⟩
  · have hall : (['"', Char.ofNat 123, '[', '-'].all fun d ↦ !isBlank d) = true := by decide
    simpa using List.all_eq_true.mp hall c hc
  · have hall : ("0123456789".toList.all fun d ↦ !isBlank d) = true := by decide
    simpa using List.all_eq_true.mp hall c (isDigit_cases hc)
  · have hall : (words.all fun w ↦ w.1.head?.any fun d ↦ !isBlank d) = true := by decide
    have hhead := List.all_eq_true.mp hall word hword
    cases htext : word.1 with
    | nil =>
      rw [htext] at hhead
      cases hhead
    | cons d w =>
      rw [htext, List.cons_append] at heq
      rw [htext] at hhead
      obtain rfl : c = d := (List.cons.inj heq).1
      simpa using hhead

theorem isBlank_of_isJsonBlank (h : isJsonBlank c) : isBlank c := by
  simp only [isJsonBlank, Bool.or_eq_true, beq_iff_eq] at h
  rcases h with ((rfl | rfl) | rfl) | rfl <;> rfl

theorem ofJson_eq (t : Text) :
    ofJson t = (readValue (2 * t.length + 2) deepest (skipBlanks t)).bind fun read ↦
      if (skipBlanks read.2).isEmpty then .ok read.1 else .error .malformed := rfl

theorem ofJson_cases (h : ofJson t = .ok v) :
    ∃ rest, readValue (2 * t.length + 2) deepest (skipBlanks t) = .ok (v, rest) ∧
      skipBlanks rest = [] := by
  rw [ofJson_eq] at h
  cases hread : readValue (2 * t.length + 2) deepest (skipBlanks t) with
  | error fault =>
    rw [hread] at h
    cases h
  | ok read =>
    rw [hread, Except.bind] at h
    by_cases hrest : (skipBlanks read.2).isEmpty
    · rw [if_pos hrest] at h
      cases h
      exact ⟨read.2, rfl, List.isEmpty_iff.mp hrest⟩
    · rw [if_neg hrest] at h
      cases h

theorem ofJson_eq_malformed {d : Char} (hblank : isJsonBlank c = false)
    (hopening : c ∉ ['"', Char.ofNat 123, '[', '-']) (hdigit : c.isDigit = false) (hd : d ∈ c :: u)
    (hwords : ∀ word ∈ words, d ∉ word.1) (hdblank : isJsonBlank d = false) :
    ofJson (c :: u) = .error .malformed := by
  rw [ofJson_eq, skipBlanks_cons hblank]
  cases hread : readValue (2 * (c :: u).length + 2) deepest (c :: u) with
  | ok read =>
    obtain ⟨v, rest⟩ := read
    obtain hc | hc | ⟨word, hword, hsplit⟩ := head_of_readValue hread
    · exact absurd hc hopening
    · rw [hdigit] at hc
      cases hc
    · have hmem : d ∈ rest := by
        rw [hsplit, List.mem_append] at hd
        exact hd.resolve_left (hwords word hword)
      have hrest : (skipBlanks rest).isEmpty = false := by
        rw [List.isEmpty_eq_false_iff]
        intro hnil
        have hall := List.dropWhile_eq_nil_iff.mp hnil d hmem
        rw [hdblank] at hall
        cases hall
      rw [Except.bind, hrest]
      rfl
  | error fault =>
    simp only [List.mem_cons, List.not_mem_nil, or_false, not_or] at hopening
    obtain ⟨hquote, hbrace, hbracket, hminus⟩ := hopening
    rw [readValue_scalar ⟨hquote, hbrace, hbracket⟩] at hread
    cases hword : readWord (c :: u) with
    | some read =>
      rw [hword] at hread
      cases hread
    | none =>
      rw [hword, readNumber_of_head hminus hdigit] at hread
      cases hread
      rfl

/-- The value of a text is that of a stretch of it that neither begins nor ends with a blank. -/
theorem exists_core_of_ofJson (h : ofJson t = .ok v) :
    ∃ lead core trail, t = lead ++ (core ++ trail) ∧ (∀ c ∈ lead, isBlank c) ∧
      (∀ c ∈ trail, isBlank c) ∧ (∀ c, core.head? = some c → isBlank c = false) ∧ Closed core ∧
      ofJson core = .ok v := by
  obtain ⟨rest, hread, hrest⟩ := ofJson_cases h
  obtain ⟨core, hskip, hextent⟩ := (hasExtents _).1 deepest _ v rest hread
  obtain ⟨c, u, rfl⟩ := hextent.closed.exists_cons
  rw [hskip] at hread
  have hc := isBlank_of_readValue hread
  obtain ⟨lead, ht, hlead, hleads⟩ := exists_blanks hskip
  have hcore : skipBlanks (c :: u) = c :: u := by
    have hnone := hleads u
    rwa [skipBlanks_append hlead] at hnone
  refine ⟨lead, c :: u, rest, ht, ?_, ?_, ?_, hextent.closed, ?_⟩
  · exact fun d hd ↦ isBlank_of_isJsonBlank (hlead d hd)
  · intro d hd
    exact isBlank_of_isJsonBlank (List.dropWhile_eq_nil_iff.mp hrest d hd)
  · intro d hd
    rwa [← Option.some.inj hd]
  · have htaken := hextent.takes (2 * (c :: u).length + 2) (by omega) [] List.nil_prefix
    rw [List.append_nil] at htaken
    rw [ofJson_eq, hcore, htaken]
    rfl

end SasMigration.Value
