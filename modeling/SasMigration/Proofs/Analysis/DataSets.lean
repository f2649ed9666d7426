import SasMigration.Analysis.Dependencies
import SasMigration.Proofs.Analysis.Sources

namespace SasMigration

namespace References

def tablesIn (code : Text) : List Text := dataSetsBy (asOption "table") code

end References

namespace DataSet

open References

theorem mem_names_iff {code name : Text} :
    name ∈ names code ↔ name ∈ inputsIn code ∨ name ∈ outputsIn code ∨ name ∈ tablesIn code := by
  rw [mem_names, inputsIn, outputsIn, tablesIn]
  simp only [patterns, List.exists_mem_cons_iff, List.not_mem_nil, false_and, exists_false,
    or_false, List.mem_append]
  constructor
  · rintro (hset | hdata | hfrom | htable | hout)
    · exact .inl (.inl hset)
    · exact .inr (.inl (.inl hdata))
    · exact .inl (.inr hfrom)
    · exact .inr (.inr htable)
    · exact .inr (.inl (.inr hout))
  · rintro ((hset | hfrom) | (hdata | hout) | htable)
    · exact .inl hset
    · exact .inr (.inr (.inl hfrom))
    · exact .inr (.inl hdata)
    · exact .inr (.inr (.inr (.inr hout)))
    · exact .inr (.inr (.inr (.inl htable)))

end DataSet

/-- Without a model both analyses of a program end, and the data sets that one of them lists are
those that the other lists as input or as output, with those that are given as a table. -/
theorem SourceAnalysis.mem_dataSets_iff (code : Text) :
    ∃ (sources dependencies : Fields) (all input output : List Text),
      SourceAnalysis.ofCode .absent code = .ok sources ∧
      DependencyAnalysis.ofCode .absent code = .ok dependencies ∧
      sources.get? "datasets" = some (.texts all) ∧
      dependencies.get? "dataset_usage" =
        some (.object [("input", .texts input), ("output", .texts output)]) ∧
      (all.Nodup ∧ input.Nodup ∧ output.Nodup) ∧
      ∀ name, name ∈ all ↔ name ∈ input ∨ name ∈ output ∨ name ∈ References.tablesIn code := by
  obtain ⟨schemas, -, hsources⟩ := exists_ofCode_eq code
  refine ⟨_, _, DataSet.names code, (References.ofCode code).usage.input,
    (References.ofCode code).usage.output, hsources .absent, rfl, ?_, rfl, ?_, fun name ↦ ?_⟩
  · exact get?_append_advice .absent rfl
  · exact ⟨Text.nodup_distinctSorted _, Text.nodup_distinctSorted _, Text.nodup_distinctSorted _⟩
  · rw [DataSet.mem_names_iff, References.ofCode, Text.mem_distinctSorted, Text.mem_distinctSorted]

end SasMigration
