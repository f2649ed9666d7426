import Mathlib.Data.List.Chain
import SasMigration.Proofs.Program.Chunk

namespace SasMigration.Chunk

variable {limit : Int} {begun g r : List Text} {size : Nat} {ps : List Text}
  {gs others : List (List Text)} {code : Text}

/-- The pieces of a text: texts without cuts, with single cuts between them. -/
inductive Alternating : List Text → Prop
  | last {t : Text} (ht : ∀ c ∈ t, c ∉ cuts) : Alternating [t]
  | cut {t : Text} {c : Char} {ps : List Text} (ht : ∀ c ∈ t, c ∉ cuts) (hc : c ∈ cuts)
      (hps : Alternating ps) : Alternating (t :: [c] :: ps)

theorem alternating_pieces (code : Text) : Alternating (pieces code) := by
  induction code with
  | nil => exact .last (by simp)
  | cons c rest ih =>
    by_cases hc : c ∈ cuts
    · rw [pieces_of_cut hc]
      exact .cut (by simp) hc ih
    · obtain ⟨piece, more, hrest, hpieces⟩ := pieces_of_not_cut hc rest
      rw [hrest] at ih
      rw [hpieces]
      cases ih with
      | last ht => exact .last (List.forall_mem_cons.mpr ⟨hc, ht⟩)
      | cut ht hd hps => exact .cut (List.forall_mem_cons.mpr ⟨hc, ht⟩) hd hps

theorem Alternating.isChain (h : Alternating ps) :
    ps.IsChain fun p q ↦ p.length = 1 ∨ q.length = 1 := by
  induction h with
  | last ht => exact .singleton _
  | cut ht hc hps ih =>
    refine List.isChain_cons_cons.mpr ⟨.inr rfl, ih.cons fun q _ ↦ .inl rfl⟩

def total (g : List Text) : Nat := g.flatten.length

theorem total_append (g g' : List Text) : total (g ++ g') = total g + total g' := by
  simp [total]

theorem total_singleton (piece : Text) : total [piece] = piece.length := by simp [total]

/-- A group within the limit, or a single piece. -/
def Allowed (limit : Int) (g : List Text) : Prop := (total g : Int) ≤ limit ∨ g.length = 1

instance (limit : Int) (g : List Text) : Decidable (Allowed limit g) :=
  inferInstanceAs (Decidable (_ ∨ _))

/-- Groups none of which could take the first piece of the next as well. -/
def Full (limit : Int) (gs : List (List Text)) : Prop :=
  gs.IsChain fun g g' ↦ ∀ piece ∈ g'.head?, limit < total g + piece.length

/-- A group that has been begun, with its size. -/
structure Begun (limit : Int) (begun : List Text) (size : Nat) : Prop where
  size_eq : size = total begun.reverse
  allowed : begun ≠ [] → Allowed limit begun.reverse

theorem begun_nil (limit : Int) : Begun limit [] 0 := ⟨rfl, fun h ↦ absurd rfl h⟩

theorem begun_singleton (limit : Int) (piece : Text) : Begun limit [piece] piece.length :=
  ⟨(total_singleton piece).symm, fun _ ↦ .inr rfl⟩

theorem Begun.cons {piece : Text} (h : Begun limit begun size)
    (hfits : ¬ (limit < Int.ofNat (size + piece.length) ∧ begun ≠ [])) :
    Begun limit (piece :: begun) (size + piece.length) := by
  have hsize : size + piece.length = total (piece :: begun).reverse := by
    rw [List.reverse_cons, total_append, total_singleton, h.size_eq]
  refine ⟨hsize, fun _ ↦ ?_⟩
  by_cases hnil : begun = []
  · exact .inr (by rw [hnil]; rfl)
  · have hle : Int.ofNat (size + piece.length) ≤ limit := by
      rw [← Int.not_lt]
      exact fun hlt ↦ hfits ⟨hlt, hnil⟩
    exact .inl (hsize ▸ hle)

theorem groupFrom_nil (hbegun : begun ≠ []) (limit : Int) (size : Nat) :
    groupFrom limit begun size [] = [begun.reverse] := by
  obtain ⟨piece, more, rfl⟩ := List.exists_cons_of_ne_nil hbegun
  rfl

theorem exists_groupFrom_eq_cons (hbegun : begun ≠ []) (limit : Int) (size : Nat) (ps : List Text) :
    ∃ g gs, groupFrom limit begun size ps = (begun.reverse ++ g) :: gs := by
  induction ps generalizing begun size with
  | nil => exact ⟨[], [], by rw [groupFrom_nil hbegun, List.append_nil]⟩
  | cons piece rest ih =>
    rw [groupFrom]
    split
    · exact ⟨[], _, by rw [List.append_nil]⟩
    · obtain ⟨g, gs, h⟩ := ih (List.cons_ne_nil piece begun) (size + piece.length)
      exact ⟨piece :: g, gs, by rw [h, List.reverse_cons, List.append_assoc]; rfl⟩

theorem allowed_groupFrom (h : Begun limit begun size) :
    ∀ g ∈ groupFrom limit begun size ps, g ≠ [] ∧ Allowed limit g := by
  induction ps generalizing begun size with
  | nil =>
    by_cases hbegun : begun = []
    · simp [hbegun, groupFrom]
    · rw [groupFrom_nil hbegun]
      exact List.forall_mem_singleton.mpr ⟨List.reverse_ne_nil_iff.mpr hbegun, h.allowed hbegun⟩
  | cons piece rest ih =>
    rw [groupFrom]
    split
    · next hfull =>
      exact List.forall_mem_cons.mpr
        ⟨⟨List.reverse_ne_nil_iff.mpr hfull.2, h.allowed hfull.2⟩, ih (begun_singleton limit piece)⟩
    · next hfits => exact ih (h.cons hfits)

theorem full_groupFrom (h : Begun limit begun size) :
    Full limit (groupFrom limit begun size ps) := by
  induction ps generalizing begun size with
  | nil =>
    by_cases hbegun : begun = []
    · rw [hbegun]
      exact .nil
    · rw [groupFrom_nil hbegun]
      exact .singleton _
  | cons piece rest ih =>
    rw [groupFrom]
    split
    · next hfull =>
      obtain ⟨g, gs, hgs⟩ :=
        exists_groupFrom_eq_cons (List.cons_ne_nil piece []) limit piece.length rest
      refine (ih (begun_singleton limit piece)).cons fun g' hg' q hq ↦ ?_
      rw [hgs] at hg'
      cases hg'
      cases hq
      rw [← h.size_eq]
      exact hfull.1
    · next hfits => exact ih (h.cons hfits)

theorem allowed_groups (limit : Int) (code : Text) :
    ∀ g ∈ groups limit code, g ≠ [] ∧ Allowed limit g := allowed_groupFrom (begun_nil limit)

theorem full_groups (limit : Int) (code : Text) : Full limit (groups limit code) :=
  full_groupFrom (begun_nil limit)

theorem not_allowed_of_full {piece : Text} {after : List Text} (hg : g ≠ [])
    (hfull : limit < total g + piece.length) : ¬ Allowed limit (r ++ g ++ piece :: after) := by
  have htotal : total g + piece.length ≤ total (r ++ g ++ piece :: after) := by
    simp only [total, List.flatten_append, List.flatten_cons, List.length_append]
    omega
  have hlength : 0 < g.length := List.length_pos_iff.mpr hg
  rintro (hle | hone)
  · omega
  · simp only [List.length_append, List.length_cons] at hone
    omega

/-- Full groups are as few as can be. The other groups may have begun earlier, with pieces `r` that
are in no group. -/
theorem length_le_of_full (hne : [] ∉ gs) (hfull : Full limit gs)
    (hothers : ∀ g ∈ others, Allowed limit g) (h : others.flatten = r ++ gs.flatten) :
    gs.length ≤ others.length := by
  induction others generalizing r gs with
  | nil =>
    cases gs with
    | nil => rfl
    | cons g gs =>
      obtain ⟨hg, -⟩ := List.append_eq_nil_iff.mp (List.append_eq_nil_iff.mp h.symm).2
      exact absurd (hg ▸ List.mem_cons_self) hne
  | cons other others ih =>
    cases gs with
    | nil => exact Nat.zero_le _
    | cons g gs =>
      obtain ⟨hother, hothers⟩ := List.forall_mem_cons.mp hothers
      obtain ⟨hg, hgs⟩ := not_or.mp (mt List.mem_cons.mpr hne)
      rw [List.flatten_cons, List.flatten_cons, ← List.append_assoc] at h
      -- the other group ends within the first full one, or goes past its end
      rcases List.append_eq_append_iff.mp h with ⟨r', -, hrest⟩ | ⟨past, hpast, hrest⟩
      · exact Nat.succ_le_succ (ih hgs hfull.tail hothers hrest)
      · cases past with
        | nil => exact Nat.succ_le_succ (ih (r := []) hgs hfull.tail hothers hrest.symm)
        | cons piece past =>
          cases gs with
          | nil => cases hrest
          | cons g' gs =>
            have hg' : g' ≠ [] := fun hnil ↦ hgs (hnil ▸ List.mem_cons_self)
            obtain ⟨q, more, rfl⟩ := List.exists_cons_of_ne_nil hg'
            obtain ⟨rfl, -⟩ := List.cons.inj hrest
            have hlt := (List.isChain_cons_cons.mp hfull).1 q rfl
            rw [hpast] at hother
            exact absurd hother (not_allowed_of_full (Ne.symm hg) hlt)

theorem length_eq_one_of_pieces {p q : Text} {before after : List Text}
    (h : pieces code = before ++ p :: q :: after) : p.length = 1 ∨ q.length = 1 := by
  have hchain := (alternating_pieces code).isChain
  rw [h] at hchain
  exact (List.isChain_append_cons_cons.mp hchain).2.1

theorem limit_lt_of_groups {g' : List Text} {before after : List (List Text)}
    (h : groups limit code = before ++ g :: g' :: after) :
    ∀ piece ∈ g'.head?, limit < total g + piece.length := by
  have hchain := full_groups limit code
  rw [h] at hchain
  exact (List.isChain_append_cons_cons.mp hchain).2.1

theorem nil_notMem_ofCode (hlimit : 1 ≤ limit) (hcode : code ≠ []) : [] ∉ ofCode limit code := by
  -- an empty piece stands next to a cut, which the limit leaves room for
  intro hmem
  obtain ⟨g, hg, hempty⟩ := List.mem_map.mp hmem
  obtain ⟨before, after, hsplit⟩ := List.append_of_mem hg
  have hpieces : pieces code = before.flatten ++ (g ++ after.flatten) := by
    rw [← flatten_groups limit code, hsplit, List.flatten_append, List.flatten_cons]
  have hnil : ∀ p ∈ g, p = [] := List.flatten_eq_nil_iff.mp hempty
  have hne : ∀ g ∈ groups limit code, g ≠ [] := fun g hg ↦ (allowed_groups limit code g hg).1
  obtain ⟨p, more, rfl⟩ := List.exists_cons_of_ne_nil (hne g hg)
  obtain ⟨rfl, hmore⟩ := List.forall_mem_cons.mp hnil
  cases more with
  | cons q more =>
    have hq : q = [] := hmore q List.mem_cons_self
    rcases length_eq_one_of_pieces hpieces with h | h
    · cases h
    · rw [hq] at h
      cases h
  | nil =>
    cases after with
    | cons next after =>
      obtain ⟨q, more, rfl⟩ := List.exists_cons_of_ne_nil (hne next (by simp [hsplit]))
      have hlt := limit_lt_of_groups hsplit q rfl
      rw [total_singleton, List.length_nil] at hlt
      rcases length_eq_one_of_pieces hpieces with h | h
      · cases h
      · omega
    | nil =>
      rcases List.eq_nil_or_concat before with rfl | ⟨before, last, rfl⟩
      · have hflat := flatten_pieces code
        rw [hpieces] at hflat
        exact hcode hflat.symm
      · -- the group before is a piece beyond the limit, so it is no cut
        rw [List.concat_eq_append, List.append_assoc] at hsplit
        have hlt := limit_lt_of_groups hsplit [] rfl
        rcases (allowed_groups limit code last (by simp [hsplit])).2 with hle | hone
        · simp only [List.length_nil] at hlt
          omega
        · obtain ⟨q, rfl⟩ := List.length_eq_one_iff.mp hone
          rw [total_singleton, List.length_nil] at hlt
          rw [List.concat_eq_append, List.flatten_append, List.append_assoc] at hpieces
          rcases length_eq_one_of_pieces hpieces with h | h
          · omega
          · cases h

/-- The chunks of a program are groups of its pieces in order, each within the limit or a single
piece, and full. No other groups within the limit are fewer, and none is empty if the limit leaves
room for a character and there is one. -/
theorem groups_fewest (limit : Int) (code : Text) :
    let ps := pieces code
    let gs := groups limit code
    (Alternating ps ∧ ps.flatten = code) ∧
    (ofCode limit code = gs.map List.flatten ∧ gs.flatten = ps ∧ [] ∉ gs) ∧
    (∀ g ∈ gs, limit < g.flatten.length → g.length = 1) ∧
    Full limit gs ∧
    (∀ others : List (List Text), others.flatten = ps → (∀ g ∈ others, Allowed limit g) →
      gs.length ≤ others.length) ∧
    (1 ≤ limit → code ≠ [] → [] ∉ ofCode limit code) := by
  intro ps gs
  have hne : [] ∉ gs := fun h ↦ (allowed_groups limit code [] h).1 rfl
  refine ⟨⟨alternating_pieces code, flatten_pieces code⟩, ⟨rfl, flatten_groups limit code, hne⟩,
    fun g hg hlt ↦ ?_, full_groups limit code, fun others hothers hallowed ↦ ?_, nil_notMem_ofCode⟩
  · exact (allowed_groups limit code g hg).2.resolve_left (Int.not_le.mpr hlt)
  · refine length_le_of_full (r := []) hne (full_groups limit code) hallowed ?_
    rw [hothers, List.nil_append]
    exact (flatten_groups limit code).symm

/-- A piece beyond the limit, and two cuts with nothing between them. -/
theorem groups_fewest_beyond :
    let code : Text := "ab;;cdef\n"
    let others : List (List Text) :=
      [["ab".toList, [';']], [[], [';']], ["cdef".toList], [['\n'], []]]
    others.flatten = pieces code ∧ (∀ g ∈ others, Allowed 3 g) ∧
      ofCode 3 code = ["ab;".toList, [';'], "cdef".toList, ['\n']] ∧
      (groups 3 code).length ≤ others.length ∧ code ≠ [] ∧ [] ∉ ofCode 3 code := by
  intro code others
  have hflat : others.flatten = pieces code := by decide
  have hallowed : ∀ g ∈ others, Allowed 3 g := by decide
  have hcode : code ≠ [] := by decide
  obtain ⟨-, -, -, -, hfewest, hnil⟩ := groups_fewest 3 code
  exact ⟨hflat, hallowed, by decide, hfewest others hflat hallowed, hcode, hnil (by decide) hcode⟩

end SasMigration.Chunk
