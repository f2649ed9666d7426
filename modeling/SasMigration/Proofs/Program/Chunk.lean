import SasMigration.Program.Chunk
import SasMigration.Proofs.Text.Replacement

namespace SasMigration.Chunk

def cuts : List Char := [';', '\n']

theorem mem_cuts {c : Char} : c ∈ cuts ↔ c = ';' ∨ c = '\n' := by simp [cuts]

theorem pieces_of_cut {c : Char} (hc : c ∈ cuts) (rest : Text) :
    pieces (c :: rest) = [] :: [c] :: pieces rest := by
  rw [pieces, if_pos (mem_cuts.mp hc)]

theorem pieces_ne_nil (code : Text) : pieces code ≠ [] := by
  cases code with
  | nil => simp [pieces]
  | cons c rest =>
    rw [pieces]
    split
    · simp
    · split <;> simp

theorem pieces_of_not_cut {c : Char} (hc : c ∉ cuts) (rest : Text) :
    ∃ piece more, pieces rest = piece :: more ∧ pieces (c :: rest) = (c :: piece) :: more := by
  obtain ⟨piece, more, h⟩ := List.exists_cons_of_ne_nil (pieces_ne_nil rest)
  refine ⟨piece, more, h, ?_⟩
  rw [pieces, if_neg (fun h' ↦ hc (mem_cuts.mpr h')), h]

theorem flatten_pieces (code : Text) : (pieces code).flatten = code := by
  induction code with
  | nil => rfl
  | cons c rest ih =>
    by_cases hc : c ∈ cuts
    · rw [pieces_of_cut hc, List.flatten_cons, List.flatten_cons, ih]
      rfl
    · obtain ⟨piece, more, h, h'⟩ := pieces_of_not_cut hc rest
      rw [h, List.flatten_cons] at ih
      rw [h', List.flatten_cons, List.cons_append, ih]

theorem head?_of_pieces {code : Text} {more : List Text} (h : pieces code = [] :: more) :
    code = [] ∨ ∃ c ∈ cuts, code.head? = some c := by
  cases code with
  | nil => exact .inl rfl
  | cons c rest =>
    by_cases hc : c ∈ cuts
    · exact .inr ⟨c, hc, rfl⟩
    · obtain ⟨piece, more', -, h'⟩ := pieces_of_not_cut hc rest
      rw [h'] at h
      cases h

theorem allParted_pieces (code : Text) : Text.AllParted cuts (pieces code) := by
  induction code with
  | nil =>
    intro xs ys h
    have hflat : xs.flatten ++ ys.flatten = [] := by rw [← List.flatten_append, ← h]; rfl
    exact .inl (List.append_eq_nil_iff.mp hflat).1
  | cons c rest ih =>
    intro xs ys h
    cases xs with
    | nil => exact .inl rfl
    | cons x xs =>
      by_cases hc : c ∈ cuts
      · rw [pieces_of_cut hc, List.cons_append, List.cons.injEq] at h
        obtain ⟨rfl, h⟩ := h
        cases xs with
        | nil => exact .inl rfl
        | cons y xs =>
          rw [List.cons_append, List.cons.injEq] at h
          obtain ⟨rfl, h⟩ := h
          exact (ih xs ys h).cons fun _ ↦ .inr (.inr (.inl ⟨c, hc, rfl⟩))
      · obtain ⟨piece, more, hr, h'⟩ := pieces_of_not_cut hc rest
        rw [h', List.cons_append, List.cons.injEq] at h
        obtain ⟨rfl, rfl⟩ := h
        refine (ih (piece :: xs) ys hr).cons fun hx ↦ ?_
        -- nothing stands between the character and this place: the first piece of the rest is empty
        have hrest : rest = ys.flatten := by
          rw [← flatten_pieces rest, hr, ← List.cons_append, List.flatten_append, hx,
            List.nil_append]
        rw [List.flatten_cons, List.append_eq_nil_iff] at hx
        rw [hx.1] at hr
        exact .inr (hrest ▸ (head?_of_pieces hr).imp_right .inr)

theorem flatten_groupFrom (limit : Int) (begun : List Text) (size : Nat) (ps : List Text) :
    (groupFrom limit begun size ps).flatten = begun.reverse ++ ps := by
  induction ps generalizing begun size with
  | nil => cases begun <;> simp [groupFrom]
  | cons piece rest ih =>
    rw [groupFrom]
    split
    · rw [List.flatten_cons, ih]
      rfl
    · rw [ih, List.reverse_cons, List.append_assoc]
      rfl

theorem flatten_groups (limit : Int) (code : Text) :
    (groups limit code).flatten = pieces code := flatten_groupFrom limit [] 0 (pieces code)

theorem flatten_ofCode (limit : Int) (code : Text) : (ofCode limit code).flatten = code := by
  rw [ofCode, ← List.flatten_flatten, flatten_groups, flatten_pieces]

theorem allParted_ofCode (limit : Int) (code : Text) :
    Text.AllParted cuts (ofCode limit code) := by
  intro xs ys h
  obtain ⟨gs, hs, hg, rfl, rfl⟩ := List.map_eq_append_iff.mp h
  rw [← List.flatten_flatten, ← List.flatten_flatten]
  apply allParted_pieces code
  rw [← flatten_groups limit code, hg, List.flatten_append]

end SasMigration.Chunk
