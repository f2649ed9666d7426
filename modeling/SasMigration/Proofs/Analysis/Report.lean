import SasMigration.Analysis.Report
import SasMigration.Proofs.Analysis.Sources

namespace SasMigration

namespace Value

def IsKey : Value → Prop
  | .list _ | .object _ => False
  | _ => True

inductive IsPair : Value → Prop
  | text (a b : Char) : IsPair (.text [a, b])
  | list {k : Value} (v : Value) (hk : k.IsKey) : IsPair (.list [k, v])
  | object (f g : Text × Value) : IsPair (.object [f, g])

/-- Values that stand for fields. -/
inductive IsMergeable : Value → Prop
  | object (fields : Fields) : IsMergeable (.object fields)
  | emptyText : IsMergeable (.text [])
  | list {items : List Value} (h : ∀ v ∈ items, v.IsPair) : IsMergeable (.list items)

end Value

namespace Fields

variable {fields new : Fields} {key : Text} {v : Value}

theorem exists_keyOf : (∃ t, keyOf v = .ok t) ↔ v.IsKey := by
  cases v with
  | null | bool | int | number | text => exact iff_of_true ⟨_, rfl⟩ trivial
  | list | object =>
    refine iff_of_false ?_ not_false
    rintro ⟨t, h⟩
    cases h

theorem exists_pairOf (index : Nat) : (∃ pair, pairOf index v = .ok pair) ↔ v.IsPair := by
  constructor
  · rintro ⟨pair, h⟩
    rw [pairOf.eq_def] at h
    split at h
    · exact .text _ _
    · cases h
    · next k w =>
      refine .list w (exists_keyOf.mp ?_)
      cases hk : keyOf k with
      | ok t => exact ⟨t, rfl⟩
      | error fault =>
        rw [hk] at h
        cases h
    · cases h
    · exact .object _ _
    · cases h
    · cases h
  · intro h
    cases h with
    | text a b => exact ⟨_, rfl⟩
    | list w hk =>
      obtain ⟨t, ht⟩ := exists_keyOf.mpr hk
      exact ⟨(t, w), by rw [pairOf, ht]; rfl⟩
    | object f g => exact ⟨_, rfl⟩

theorem exists_pairsFrom {vs : List Value} (index : Nat) :
    (∃ pairs, pairsFrom index vs = .ok pairs) ↔ ∀ v ∈ vs, v.IsPair := by
  induction vs generalizing index with
  | nil => exact iff_of_true ⟨[], rfl⟩ (by simp)
  | cons v vs ih =>
    rw [List.forall_mem_cons, ← exists_pairOf index, ← ih (index + 1), pairsFrom]
    constructor
    · rintro ⟨pairs, h⟩
      cases hv : pairOf index v with
      | error fault =>
        rw [hv] at h
        cases h
      | ok pair =>
        cases hvs : pairsFrom (index + 1) vs with
        | error fault =>
          rw [hv, hvs] at h
          cases h
        | ok more => exact ⟨⟨pair, rfl⟩, more, rfl⟩
    · rintro ⟨⟨pair, hv⟩, more, hvs⟩
      exact ⟨pair :: more, by rw [hv, hvs]; rfl⟩

theorem exists_ofValue : (∃ new, ofValue v = .ok new) ↔ v.IsMergeable := by
  cases v with
  | object fields => exact iff_of_true ⟨fields, rfl⟩ (.object fields)
  | list items =>
    rw [ofValue, exists_pairsFrom]
    exact ⟨.list, fun h ↦ by cases h; assumption⟩
  | text t =>
    rw [ofValue, exists_pairsFrom]
    cases t with
    | nil => exact iff_of_true (by simp) .emptyText
    | cons c t =>
      -- the first character would have to be a pair
      refine iff_of_false (fun h ↦ ?_) (fun h ↦ by cases h)
      cases h _ List.mem_cons_self
  | null | bool | int | number =>
    refine iff_of_false ?_ (fun h ↦ by cases h)
    rintro ⟨new, h⟩
    cases h

theorem exists_update : (∃ merged, update fields v = .ok merged) ↔ v.IsMergeable := by
  rw [← exists_ofValue, update]
  cases ofValue v <;> simp [Except.map]

theorem has_put (fields : Fields) (k key : Text) (v : Value) :
    (fields.put k v).has key = (fields.has key || k == key) := by
  simp only [put]
  induction fields with
  | nil => simp [putKey, has]
  | cons field fields ih =>
    rw [putKey]
    split
    · next hk => simp [has, hk, Bool.or_comm]
    · next hk =>
      simp only [has, List.any_cons] at ih ⊢
      rw [ih, Bool.or_assoc]

theorem has_putAll (h : fields.has key) : (fields.putAll new).has key := by
  rw [putAll]
  induction new generalizing fields with
  | nil => exact h
  | cons field new ih => exact ih (by rw [has_put, h, Bool.true_or])

theorem has_update {merged : Fields} (hmerged : update fields v = .ok merged)
    (h : fields.has key) : merged.has key := by
  rw [update] at hmerged
  cases hv : ofValue v with
  | error fault =>
    rw [hv] at hmerged
    cases hmerged
  | ok new =>
    rw [hv] at hmerged
    cases hmerged
    exact has_putAll h

end Fields

/-- Models that cost nothing: a reply may be no text or no document, but if it is read as a
document, that has to stand for fields. -/
inductive ChatModel.IsHarmless : ChatModel → Prop
  | absent : IsHarmless .absent
  | failing (reason : Text) : IsHarmless (.failing reason)
  | notText {content : Value} (h : ∀ t, content ≠ .text t) : IsHarmless (.replying content)
  | unreadable {t : Text} {fault : JsonFault} (h : Value.ofJson t = .error fault) :
    IsHarmless (.replying (.text t))
  | mergeable {t : Text} {v : Value} (h : Value.ofJson t = .ok v) (hv : v.IsMergeable) :
    IsHarmless (.replying (.text t))

theorem ChatModel.isMergeable_readReply {content : Value} :
    (readReply content unread).IsMergeable ↔ IsHarmless (.replying content) := by
  by_cases htext : ∃ t, content = .text t
  · obtain ⟨t, rfl⟩ := htext
    rw [readReply, readJson]
    cases ht : Value.ofJson t with
    | ok v =>
      refine ⟨.mergeable ht, fun h ↦ ?_⟩
      cases h with
      | notText h => exact absurd rfl (h t)
      | unreadable h => cases ht.symm.trans h
      | mergeable h hv => exact Except.ok.inj (ht.symm.trans h) ▸ hv
    | error fault =>
      refine iff_of_true ?_ (.unreadable ht)
      cases fault <;> exact .object _
  · have hnot (t : Text) : content ≠ .text t := fun h ↦ htext ⟨t, h⟩
    refine iff_of_true ?_ (.notText hnot)
    cases content with
    | text t => exact absurd rfl (hnot t)
    | _ => exact .object _

namespace DependencyAnalysis

variable {model : ChatModel} {code key : Text} {fields : Fields}

theorem ofCode_of_isReady (h : model.isReady) (code : Text) :
    ofCode model code = Fields.update (References.ofCode code).fields model.dependencyAdvice := by
  cases model with
  | failing reason | replying content => rfl
  | absent | refused reason | notInstalled reason => cases h

theorem exists_ofCode (model : ChatModel) (code : Text) :
    (∃ fields, ofCode model code = .ok fields) ↔ model.IsHarmless := by
  cases model with
  | absent => exact iff_of_true ⟨_, rfl⟩ .absent
  | failing reason =>
    rw [ofCode_of_isReady rfl]
    exact iff_of_true (Fields.exists_update.mpr (.object _)) (.failing reason)
  | replying content =>
    rw [ofCode_of_isReady rfl]
    exact Fields.exists_update.trans ChatModel.isMergeable_readReply
  | refused reason | notInstalled reason =>
    refine iff_of_false ?_ (fun h ↦ by cases h)
    rintro ⟨fields, h⟩
    cases h

theorem isSome_toOption_ofCode (model : ChatModel) (code : Text) :
    (ofCode model code).toOption.isSome ↔ model.IsHarmless := by
  rw [← exists_ofCode model code]
  cases ofCode model code <;> simp [Except.toOption]

theorem has_of_ofCode (h : ofCode model code = .ok fields)
    (hkey : (References.ofCode code).fields.has key) : fields.has key := by
  cases model with
  | absent =>
    cases h
    exact hkey
  | failing reason | replying content =>
    rw [ofCode_of_isReady rfl] at h
    exact Fields.has_update h hkey
  | refused reason | notInstalled reason => cases h

end DependencyAnalysis

instance (model : ChatModel) : Decidable model.IsHarmless :=
  decidable_of_iff _ (DependencyAnalysis.isSome_toOption_ofCode model [])

theorem SourceAnalysis.exists_ofCode (model : ChatModel) (code : Text) :
    ∃ fields, ofCode model code = .ok fields := by
  obtain ⟨schemas, -, hofCode⟩ := exists_ofCode_eq code
  exact ⟨_, hofCode model⟩

namespace Report

def dependencyKeys : List Text :=
  ["internal_dependencies", "external_dependencies", "dataset_usage"]

theorem has_dependencyKeys {code key : Text} (h : key ∈ dependencyKeys) :
    (References.ofCode code).fields.has key := by
  simp only [dependencyKeys, List.mem_cons, List.not_mem_nil, or_false] at h
  rcases h with rfl | rfl | rfl <;> rfl

/-- A report has its four sections, and the basic findings among the dependencies, exactly if the
model for dependencies costs nothing. Otherwise it only says what went wrong. The model for sources
can do whatever it wants. -/
theorem sections_iff_isHarmless (models : AnalysisModels) (size : Int) (code : Text) :
    let report := ofCode models (.int size) (.text code)
    (report.has "error" = false ↔ models.dependencies.IsHarmless) ∧
    (models.dependencies.IsHarmless →
      ∃ (division : Division) (dependencies sources : Fields),
        Division.ofCode (.int size) code [] = .ok division ∧
        DependencyAnalysis.ofCode models.dependencies code = .ok dependencies ∧
        SourceAnalysis.ofCode models.sources code = .ok sources ∧
        report = ([("chunking", division.toValue), ("complexity", (Complexity.ofCode code).toValue),
          ("dependencies", .object dependencies), ("data_sources", .object sources)] : Fields) ∧
        ∀ key ∈ dependencyKeys, dependencies.has key) ∧
    (¬ models.dependencies.IsHarmless → ∃ fault, report = failure fault) := by
  intro report
  let division : Division := ⟨MacroDefinition.all code [],
    Chunk.ofCode (4 * size) (MacroDefinition.mainBody code (MacroDefinition.all code []))⟩
  have hdivision : Division.ofCode (.int size) code [] = .ok division := rfl
  obtain ⟨sources, hsources⟩ := SourceAnalysis.exists_ofCode models.sources code
  have hexists := DependencyAnalysis.exists_ofCode models.dependencies code
  have hreport : report = orFailure (ofText models (.int size) code) := rfl
  rw [ofText, hdivision, hsources] at hreport
  -- only the advice on dependencies is left that can fail
  by_cases h : models.dependencies.IsHarmless
  · obtain ⟨dependencies, hdependencies⟩ := hexists.mpr h
    rw [hdependencies] at hreport
    refine ⟨iff_of_true (hreport ▸ rfl) h, fun _ ↦ ⟨division, dependencies, sources, hdivision,
      hdependencies, hsources, hreport, fun key hkey ↦ ?_⟩, fun hnot ↦ absurd h hnot⟩
    exact DependencyAnalysis.has_of_ofCode hdependencies (has_dependencyKeys hkey)
  · cases hdependencies : DependencyAnalysis.ofCode models.dependencies code with
    | ok dependencies => exact absurd (hexists.mp ⟨_, hdependencies⟩) h
    | error fault =>
      rw [hdependencies] at hreport
      have hfailure : report = failure fault := hreport
      refine ⟨iff_of_false ?_ h, fun hharmless ↦ absurd hharmless h, fun _ ↦ ⟨fault, hfailure⟩⟩
      rw [hfailure]
      exact Bool.noConfusion

/-- A reply whose only item is an object with two keys stands for a field, also where no character
stands for the keys. The model for sources cannot be set up. -/
theorem sections_iff_isHarmless_halves :
    let reply : Text := "[\x7b\"\\ud800\": 1, \"\\ud801\": 2\x7d]"
    let models : AnalysisModels := ⟨.replying (.text reply), .refused "no endpoint"⟩
    let report := ofCode models (.int (-1)) (.text "data a; set b; run;")
    models.dependencies.IsHarmless ∧ report.has "error" = false ∧ ∃ dependencies : Fields,
      report.get? "dependencies" = some (.object dependencies) ∧
      ∀ key ∈ dependencyKeys, dependencies.has key := by
  intro reply models report
  have h : models.dependencies.IsHarmless := by decide +kernel
  obtain ⟨hclear, hsections, -⟩ := sections_iff_isHarmless models (-1) "data a; set b; run;"
  obtain ⟨division, dependencies, sources, -, -, -, hreport, hkeys⟩ := hsections h
  have hget : report.get? "dependencies" = some (.object dependencies) := by
    rw [show report = _ from hreport]
    rfl
  exact ⟨h, hclear.mpr h, dependencies, hget, hkeys⟩

/-- A reply that is a list of a number costs the report of every program. -/
theorem exists_reply_without_sections :
    ∃ reply, ∀ sources size code,
      ofCode ⟨.replying (.text reply), sources⟩ (.int size) (.text code) =
        failure (.notPair 0) := by
  refine ⟨"[1]", fun sources size code ↦ ?_⟩
  rfl

end Report

end SasMigration
