import Mathlib.Data.List.Nodup
import Mathlib.Tactic.Common
import SasMigration.Database.Usage

namespace SasMigration.TableUse

variable {ts found : List TableUse} {table : Option Text} {op : Operation}
  {operations : List Operation}

theorem mem_addOperation {o : Operation} :
    o ∈ addOperation operations op ↔ o ∈ operations ∨ o = op := by
  unfold addOperation
  split
  · next h =>
    constructor
    · exact .inl
    · rintro (h' | rfl)
      · exact h'
      · exact h
  · rw [List.mem_append, List.mem_singleton]

theorem nodup_addOperation (h : operations.Nodup) : (addOperation operations op).Nodup := by
  unfold addOperation
  split
  · exact h
  · next hop => exact List.nodup_append.mpr ⟨h, List.nodup_singleton op, by grind⟩

theorem mem_foldl_addOperation {more : List Operation} {o : Operation} :
    o ∈ more.foldl addOperation operations ↔ o ∈ operations ∨ o ∈ more := by
  induction more generalizing operations with
  | nil => simp
  | cons op more ih => rw [List.foldl_cons, ih, mem_addOperation, List.mem_cons, or_assoc]

theorem nodup_foldl_addOperation {more : List Operation} (h : operations.Nodup) :
    (more.foldl addOperation operations).Nodup := by
  induction more generalizing operations with
  | nil => exact h
  | cons op more ih => exact ih (nodup_addOperation h)

/-- An operation on a table is listed. -/
def Has (ts : List TableUse) (table : Option Text) (op : Operation) : Prop :=
  ∃ t ∈ ts, t.table = table ∧ op ∈ t.operations

instance : Decidable (Has ts table op) :=
  inferInstanceAs (Decidable (∃ t ∈ ts, t.table = table ∧ op ∈ t.operations))

/-- No table is listed twice, and no operation twice for one table. -/
structure Distinct (ts : List TableUse) : Prop where
  tables : (ts.map TableUse.table).Nodup
  operations : ∀ t ∈ ts, t.operations.Nodup

theorem has_nil : ¬ Has [] table op := fun ⟨_, h, _⟩ ↦ nomatch h

theorem has_cons {t : TableUse} :
    Has (t :: ts) table op ↔ (t.table = table ∧ op ∈ t.operations) ∨ Has ts table op := by
  simp only [Has, List.exists_mem_cons_iff]

theorem has_merge {name : Option Text} :
    Has (merge name operations ts) table op ↔
      Has ts table op ∨ (name = table ∧ op ∈ operations) := by
  induction ts with
  | nil => simp [merge, has_cons, has_nil, mem_foldl_addOperation]
  | cons t ts ih =>
    rw [merge]
    split
    · next h =>
      simp only [has_cons, add, mem_foldl_addOperation, h]
      tauto
    · simp only [has_cons, ih, or_assoc]

theorem has_mergeAll :
    Has (mergeAll ts found) table op ↔ Has ts table op ∨ Has found table op := by
  induction found generalizing ts with
  | nil => simp [mergeAll, has_nil]
  | cons t found ih =>
    rw [mergeAll, List.foldl_cons]
    exact ih.trans (by rw [has_merge, has_cons, or_assoc])

theorem has_ofMentions {mentions : List Mention} :
    Has (ofMentions mentions) table op ↔ ⟨table, op⟩ ∈ mentions := by
  have h (ts : List TableUse) :
      Has (mentions.foldl (fun ts m ↦ merge m.table [m.operation] ts) ts) table op ↔
        Has ts table op ∨ ⟨table, op⟩ ∈ mentions := by
    induction mentions generalizing ts with
    | nil => simp
    | cons m mentions ih =>
      have hm : (⟨table, op⟩ : Mention) = m ↔ m.table = table ∧ op = m.operation := by
        cases m
        rw [Mention.mk.injEq, eq_comm (a := table)]
      rw [List.foldl_cons, ih, has_merge, or_assoc]
      simp only [List.mem_cons, List.not_mem_nil, or_false, hm]
  exact (h []).trans (or_iff_right has_nil)

theorem map_table_merge (name : Option Text) (operations : List Operation)
    (ts : List TableUse) :
    (merge name operations ts).map TableUse.table =
      if name ∈ ts.map TableUse.table then ts.map TableUse.table
      else ts.map TableUse.table ++ [name] := by
  induction ts with
  | nil => rfl
  | cons t ts ih =>
    rw [merge]
    by_cases h : t.table = name
    · simp [h, add]
    · have h' : name ≠ t.table := fun he ↦ h he.symm
      simp only [h, if_false, List.map_cons, ih, List.mem_cons, h', false_or]
      split <;> rfl

theorem distinct_nil : Distinct [] := ⟨List.nodup_nil, fun _ h ↦ nomatch h⟩

theorem Distinct.merge (h : Distinct ts) (name : Option Text) (operations : List Operation) :
    Distinct (merge name operations ts) := by
  constructor
  · rw [map_table_merge]
    split
    · exact h.tables
    · next hn => exact List.nodup_append.mpr ⟨h.tables, List.nodup_singleton name, by grind⟩
  · have hops := h.operations
    clear h
    induction ts with
    | nil =>
      intro t ht
      rw [List.mem_singleton.mp ht]
      exact nodup_foldl_addOperation List.nodup_nil
    | cons t ts ih =>
      rw [List.forall_mem_cons] at hops
      rw [TableUse.merge]
      split
      · exact List.forall_mem_cons.mpr ⟨nodup_foldl_addOperation hops.1, hops.2⟩
      · exact List.forall_mem_cons.mpr ⟨hops.1, ih hops.2⟩

theorem Distinct.mergeAll (h : Distinct ts) (found : List TableUse) :
    Distinct (mergeAll ts found) := by
  induction found generalizing ts with
  | nil => exact h
  | cons t found ih => exact ih (h.merge t.table t.operations)

theorem Distinct.filter (h : Distinct ts) (p : TableUse → Bool) : Distinct (ts.filter p) where
  tables := h.tables.sublist (List.filter_sublist.map _)
  operations t ht := h.operations t (List.mem_of_mem_filter ht)

theorem map_table_scan (sql : Text) (ts : List TableUse) :
    (scan sql ts).1.map TableUse.table = ts.map TableUse.table := by
  induction ts with
  | nil => rfl
  | cons t ts ih =>
    rw [scan]
    split
    · rfl
    · rw [List.map_cons, ih]
      rfl

theorem Distinct.scan (h : Distinct ts) (sql : Text) : Distinct (scan sql ts).1 := by
  constructor
  · rw [map_table_scan]
    exact h.tables
  · have hops := h.operations
    clear h
    induction ts with
    | nil => exact fun _ h ↦ nomatch h
    | cons t ts ih =>
      rw [TableUse.scan]
      split
      · exact hops
      · rw [List.forall_mem_cons] at hops
        exact List.forall_mem_cons.mpr ⟨nodup_foldl_addOperation hops.1, ih hops.2⟩

end SasMigration.TableUse
