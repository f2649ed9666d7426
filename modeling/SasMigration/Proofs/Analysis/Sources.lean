import SasMigration.Analysis.Sources
import SasMigration.Model.Prompt
import SasMigration.Proofs.Program.DataSet

namespace SasMigration.SourceAnalysis

def findings (code : Text) (schemas : List Schema) : Fields :=
  [("datasets", .texts (DataSet.names code)), ("schemas", Schema.toValue schemas)]

/-- What a model adds, if there is one to ask. -/
def advice (model : ChatModel) : Fields :=
  if model.isReady then [("enhanced_schemas", model.schemaAdvice)] else []

variable {code : Text} {schemas : List Schema}

theorem put_findings (v : Value) :
    (findings code schemas).put "enhanced_schemas" v =
      findings code schemas ++ ([("enhanced_schemas", v)] : Fields) := rfl

theorem exists_ofCode_eq (code : Text) :
    ∃ schemas, DataSet.schemas code (DataSet.names code) = .ok schemas ∧
      ∀ model, ofCode model code = .ok (findings code schemas ++ advice model) := by
  obtain ⟨schemas, hschemas⟩ := DataSet.exists_schemas_names code
  have hbasic : basic code = .ok (findings code schemas) := by
    rw [basic, hschemas]
    rfl
  refine ⟨schemas, hschemas, fun model ↦ ?_⟩
  rw [ofCode, hbasic, advice]
  by_cases h : model.isReady
  · rw [if_pos h, ← put_findings]
    exact congrArg Except.ok (if_pos h)
  · rw [if_neg h, List.append_nil]
    exact congrArg Except.ok (if_neg h)

theorem get?_append_advice {key : Text} (model : ChatModel) (h : (findings code schemas).has key) :
    Fields.get? (findings code schemas ++ advice model) key =
      (findings code schemas).get? key := by
  have hfound : ((findings code schemas).find? fun field ↦ field.1 == key).isSome := by
    rw [List.find?_isSome]
    exact List.any_eq_true.mp h
  rw [Fields.get?, Fields.get?, List.find?_append, Option.or_of_isSome hfound]

theorem get?_advice {model : ChatModel} (h : model.isReady) :
    Fields.get? (findings code schemas ++ advice model) "enhanced_schemas" =
      some model.schemaAdvice := by
  rw [advice, if_pos h]
  rfl

theorem keys_append_advice (model : ChatModel) :
    (findings code schemas ++ advice model).map Prod.fst =
      ("datasets" : Text) :: ("schemas" : Text) ::
        if model.isReady then [("enhanced_schemas" : Text)] else [] := by
  rw [List.map_append, advice]
  split <;> rfl

theorem exists_question (code : Text) (schemas : List Schema) :
    ∃ messages, Prompt.schemas code (findings code schemas) = .ok messages := ⟨_, rfl⟩

/-- Whatever two models do, the analyses with them end and report the same data sets and the same
schemas, those of the program. Neither has a field beside these but that for the advice, and that
only if there is a model to ask; and such a model can be asked, since the findings can always be put
to it. -/
theorem same_sources (code : Text) (model model' : ChatModel) :
    ∃ (schemas : List Schema) (fields fields' : Fields),
      DataSet.schemas code (DataSet.names code) = .ok schemas ∧
      ofCode model code = .ok fields ∧ ofCode model' code = .ok fields' ∧
      (fields.get? "datasets" = some (.texts (DataSet.names code)) ∧
        fields'.get? "datasets" = fields.get? "datasets") ∧
      (fields.get? "schemas" = some (Schema.toValue schemas) ∧
        fields'.get? "schemas" = fields.get? "schemas") ∧
      (fields.map Prod.fst = ("datasets" : Text) :: ("schemas" : Text) ::
        if model.isReady then [("enhanced_schemas" : Text)] else []) ∧
      (fields'.map Prod.fst = ("datasets" : Text) :: ("schemas" : Text) ::
        if model'.isReady then [("enhanced_schemas" : Text)] else []) ∧
      ∃ messages, Prompt.schemas code (fields.take 2) = .ok messages := by
  obtain ⟨schemas, hschemas, hofCode⟩ := exists_ofCode_eq code
  have hdataSets (model : ChatModel) :
      Fields.get? (findings code schemas ++ advice model) "datasets" =
        some (.texts (DataSet.names code)) := get?_append_advice model rfl
  have hfound (model : ChatModel) :
      Fields.get? (findings code schemas ++ advice model) "schemas" =
        some (Schema.toValue schemas) := get?_append_advice model rfl
  exact ⟨schemas, _, _, hschemas, hofCode model, hofCode model',
    ⟨hdataSets model, (hdataSets model').trans (hdataSets model).symm⟩,
    ⟨hfound model, (hfound model').trans (hfound model).symm⟩,
    keys_append_advice model, keys_append_advice model', exists_question code schemas⟩

end SasMigration.SourceAnalysis
