import Mathlib.Data.List.Induction
import Mathlib.Tactic.Common
import SasMigration.Proofs.Text.Distinct
import SasMigration.Value.Basic

namespace SasMigration

section

variable {α β : Type} [BEq α] [LawfulBEq α] [DecidableEq α] {put : List (α × β) → List (α × β)}
  {key : α} {value : β}

/-- A way of setting a key: an old key keeps its place, a new key comes last. -/
structure Puts (put : List (α × β) → List (α × β)) (key : α) (value : β) : Prop where
  nil : put [] = [(key, value)]
  cons : ∀ e es, put (e :: es) = if e.1 = key then (key, value) :: es else e :: put es

theorem Puts.find? (h : Puts put key value) (k : α) (es : List (α × β)) :
    ((put es).find? fun e ↦ e.1 == k).map (·.2) =
      if k = key then some value else (es.find? fun e ↦ e.1 == k).map (·.2) := by
  induction es with
  | nil =>
    rw [h.nil]
    by_cases hk : k = key
    · simp [hk]
    · simp [hk, Ne.symm hk]
  | cons e es ih =>
    rw [h.cons]
    by_cases he : e.1 = key
    · rw [if_pos he]
      by_cases hk : k = key
      · simp [hk]
      · simp [hk, Ne.symm hk, he]
    · rw [if_neg he]
      by_cases hek : e.1 = k
      · have hk : k ≠ key := fun hk ↦ he (hek.trans hk)
        simp [hek, hk]
      · simpa [List.find?_cons, hek] using ih

theorem Puts.keys (h : Puts put key value) (es : List (α × β)) :
    (put es).map (·.1) = if key ∈ es.map (·.1) then es.map (·.1) else es.map (·.1) ++ [key] := by
  induction es with
  | nil =>
    rw [h.nil]
    rfl
  | cons e es ih =>
    rw [h.cons]
    by_cases he : e.1 = key
    · simp [he]
    · rw [if_neg he, List.map_cons, ih, List.map_cons]
      by_cases hes : key ∈ es.map (·.1)
      · rw [if_pos hes, if_pos (List.mem_cons_of_mem _ hes)]
      · have hmem : key ∉ e.1 :: es.map (·.1) := by
          rw [List.mem_cons]
          exact not_or.mpr ⟨Ne.symm he, hes⟩
        rw [if_neg hes, if_neg hmem, List.cons_append]

end

namespace Fields

theorem puts (key : Text) (v : Value) : Puts (fun fields : Fields ↦ fields.put key v) key v :=
  ⟨rfl, fun _ _ ↦ rfl⟩

theorem get?_put (fields : Fields) (k key : Text) (v : Value) :
    (fields.put k v).get? key = if key = k then some v else fields.get? key :=
  (puts k v).find? key fields

theorem get?_append (fields new : Fields) (key : Text) :
    get? (fields ++ new) key = (fields.get? key).or (new.get? key) := by
  rw [get?, List.find?_append, Option.map_or]
  rfl

theorem get?_singleton (field : Text × Value) (key : Text) :
    get? [field] key = if key = field.1 then some field.2 else none := by
  by_cases h : key = field.1
  · simp [get?, h]
  · simp [get?, h, Ne.symm h]

theorem get?_eq_some_iff {fields : Fields} {key : Text} {v : Value}
    (h : ∀ f ∈ fields, ∀ g ∈ fields, f.1 = g.1 → f.2 = g.2) :
    fields.get? key = some v ↔ (key, v) ∈ fields := by
  rw [get?, Option.map_eq_some_iff]
  constructor
  · rintro ⟨field, hfield, rfl⟩
    obtain rfl : field.1 = key := by simpa using List.find?_some hfield
    exact List.mem_of_find?_eq_some hfield
  · intro hmem
    have hsome : (fields.find? fun field ↦ field.1 == key).isSome :=
      List.find?_isSome.mpr ⟨(key, v), hmem, beq_self_eq_true key⟩
    obtain ⟨field, hfield⟩ := Option.isSome_iff_exists.mp hsome
    refine ⟨field, hfield, h field (List.mem_of_find?_eq_some hfield) _ hmem ?_⟩
    simpa using List.find?_some hfield

theorem get?_putAll (fields new : Fields) (key : Text) :
    (putAll fields new).get? key = (get? new.reverse key).or (fields.get? key) := by
  induction new generalizing fields with
  | nil => rfl
  | cons field new ih =>
    have hfold : putAll fields (field :: new) = putAll (fields.put field.1 field.2) new := rfl
    rw [hfold, ih, get?_put, List.reverse_cons, get?_append, get?_singleton, Option.or_assoc]
    split <;> rfl

theorem keys_putAll (new : Fields) :
    (putAll [] new).map (·.1) = Text.firstOccurrences (new.map (·.1)) := by
  induction new using List.reverseRecOn with
  | nil => rfl
  | append_singleton new field ih =>
    have hfold : putAll [] (new ++ [field]) = (putAll [] new).put field.1 field.2 :=
      List.foldl_concat ..
    rw [hfold, (puts field.1 field.2).keys, ih, List.map_append, List.map_cons, List.map_nil,
      Text.firstOccurrences_concat]
    simp only [Text.mem_firstOccurrences]

end Fields

end SasMigration
