import PromScribe.Client.Service
import PromScribe.Proofs.Series.Written

/-!
# Answers on their way

What the service answers is what its client takes from the answer: conversions, verdicts, names of
metrics and the wording of failures exactly, and results with each time as its digits are read,
which may be the double beside it if the digits are many.
-/

namespace PromScribe

open Document Http

namespace Conversion

/-- The members of the written form; what the conversion does not have is none. -/
theorem exists_members (conversion : Conversion) :
    ∃ members, conversion.toJson = .object members ∧
      (members.map Prod.fst).Sublist ["promql", "explanation", "warnings", "suggestions"] ∧
      members.lookup "promql" = some (.string conversion.promql) ∧
      members.lookup "explanation" = conversion.explanation.map .string ∧
      members.lookup "warnings" =
        (if conversion.warnings = [] then none else some (.strings conversion.warnings)) ∧
      members.lookup "suggestions" =
        (if conversion.suggestions = [] then none else some (.strings conversion.suggestions)) := by
  obtain ⟨promql, explanation, warnings, suggestions⟩ := conversion
  refine ⟨_, rfl, ?_⟩
  cases explanation <;> cases warnings <;> cases suggestions <;> simp [Keyed.lookup_cons_eq_ite]

theorem decode_toJson (conversion : Conversion) :
    decode (ofJson conversion.toJson) = .ok conversion := by
  obtain ⟨members, shape, within, promql, explanation, warnings, suggestions⟩ :=
    conversion.exists_members
  have explained : Shows (Decoder.optional Decoder.string) none conversion.explanation
      (members.lookup "explanation") := by
    rw [explanation]
    cases conversion.explanation <;> rfl
  have warned : Shows (Decoder.list Decoder.string) [] conversion.warnings
      (members.lookup "warnings") :=
    warnings ▸ shows_unless Eq.symm (Decoder.list_strings _)
  have suggested : Shows (Decoder.list Decoder.string) [] conversion.suggestions
      (members.lookup "suggestions") :=
    suggestions ▸ shows_unless Eq.symm (Decoder.list_strings _)
  have read : Decoder.string (ofJson (.string conversion.promql)) = .ok conversion.promql := rfl
  obtain ⟨record, taken, held⟩ := Record.exists_record
    [.of "promql" .required Decoder.string,
      .of "explanation" .nullable (Decoder.optional Decoder.string),
      .of "warnings" .defaulted (Decoder.list Decoder.string),
      .of "suggestions" .defaulted (Decoder.list Decoder.string)] members (by decide) within (by
        refine List.forall_mem_cons.mpr ⟨promql ▸ Field.fits_of read, ?_⟩
        refine List.forall_mem_cons.mpr ⟨Field.fits_of_shows nofun explained, ?_⟩
        refine List.forall_mem_cons.mpr ⟨Field.fits_of_shows nofun warned, ?_⟩
        exact List.forall_mem_singleton.mpr (Field.fits_of_shows nofun suggested))
  unfold decode
  rw [shape, taken]
  simp only [bind, Except.bind, Record.get_eq held promql read, Record.getD_eq held explained,
    Record.getD_eq held warned, Record.getD_eq held suggested]
  rfl

theorem readsAs_toJson (conversion : Conversion) :
    conversion.toJson.ReadsAs conversion.toJson := by
  refine Json.readsAs_object_self fun member mem => ?_
  simp only [List.mem_append, List.mem_singleton, List.mem_map] at mem
  rcases mem with ((rfl | ⟨text, -, rfl⟩) | warnings) | suggestions
  · exact Json.readsAs_string _
  · exact Json.readsAs_string _
  · split at warnings
    · cases warnings
    · rw [List.mem_singleton.mp warnings]
      exact Json.readsAs_strings _
  · split at suggestions
    · cases suggestions
    · rw [List.mem_singleton.mp suggestions]
      exact Json.readsAs_strings _

end Conversion

namespace Verdict

/-- The members of the written form; a missing error is none. -/
theorem exists_members (verdict : Verdict) :
    ∃ members, verdict.toJson = .object members ∧
      (members.map Prod.fst).Sublist ["valid", "warnings", "error"] ∧
      members.lookup "valid" = some (.bool verdict.valid) ∧
      members.lookup "warnings" = some (.strings verdict.warnings) ∧
      members.lookup "error" = verdict.error.map .string := by
  obtain ⟨valid, warnings, error⟩ := verdict
  refine ⟨_, rfl, ?_⟩
  cases error <;> simp [Keyed.lookup_cons_eq_ite]

theorem decode_toJson (verdict : Verdict) : decode (ofJson verdict.toJson) = .ok verdict := by
  obtain ⟨members, shape, within, valid, warnings, error⟩ := verdict.exists_members
  have warned : Shows (Decoder.list Decoder.string) [] verdict.warnings
      (members.lookup "warnings") :=
    warnings ▸ Decoder.list_strings _
  have explained : Shows (Decoder.optional Decoder.string) none verdict.error
      (members.lookup "error") := by
    rw [error]
    cases verdict.error <;> rfl
  have read : Decoder.bool (ofJson (.bool verdict.valid)) = .ok verdict.valid := rfl
  obtain ⟨record, taken, held⟩ := Record.exists_record
    [.of "valid" .required Decoder.bool,
      .of "warnings" .defaulted (Decoder.list Decoder.string),
      .of "error" .nullable (Decoder.optional Decoder.string)] members (by decide) within (by
        refine List.forall_mem_cons.mpr ⟨valid ▸ Field.fits_of read, ?_⟩
        refine List.forall_mem_cons.mpr ⟨Field.fits_of_shows nofun warned, ?_⟩
        exact List.forall_mem_singleton.mpr (Field.fits_of_shows nofun explained))
  unfold decode
  rw [shape, taken]
  simp only [bind, Except.bind, Record.get_eq held valid read, Record.getD_eq held warned,
    Record.getD_eq held explained]
  rfl

theorem readsAs_toJson (verdict : Verdict) : verdict.toJson.ReadsAs verdict.toJson := by
  refine Json.readsAs_object_self fun member mem => ?_
  simp only [List.mem_append, List.mem_cons, List.mem_map, List.not_mem_nil, or_false] at mem
  rcases mem with (rfl | rfl) | ⟨text, -, rfl⟩
  · exact Json.readsAs_bool _
  · exact Json.readsAs_strings _
  · exact Json.readsAs_string _

end Verdict

namespace Executed

/-- The reply that tells of an executed query. -/
def reply (executed : Executed) : ExecutionReply :=
  ⟨executed.data.kind.name, executed.data.result.toJson, executed.chart.name⟩

theorem decode_toJson (executed : Executed) :
    ExecutionReply.decode (ofJson executed.toJson) = .ok executed.reply := by
  have kind : Decoder.string (ofJson (.string executed.data.kind.name)) =
      .ok executed.data.kind.name := rfl
  have chart : Decoder.string (ofJson (.string executed.chart.name)) =
      .ok executed.chart.name := rfl
  have result : Decoder.value (depthLimit - ExecutionReply.resultDepth)
      (ofJson executed.data.result.toJson) = .ok executed.data.result.toJson := by
    have meaning : (ofJson executed.data.result.toJson).meaning?
        (depthLimit - ExecutionReply.resultDepth) = some executed.data.result.toJson :=
      meaning?_ofJson executed.data.result.isOrdered_toJson
    rw [Decoder.value, meaning]
  obtain ⟨record, taken, held⟩ := Record.exists_record
    [.of "resultType" .required Decoder.string,
      .of "result" .required (Decoder.value (depthLimit - ExecutionReply.resultDepth)),
      .of "chartType" .required Decoder.string]
    [("resultType", .string executed.data.kind.name), ("result", executed.data.result.toJson),
      ("chartType", .string executed.chart.name)] (by decide) (.refl _) (by
        refine List.forall_mem_cons.mpr ⟨Field.fits_of kind, ?_⟩
        refine List.forall_mem_cons.mpr ⟨Field.fits_of result, ?_⟩
        exact List.forall_mem_singleton.mpr (Field.fits_of chart))
  have first : record.get "resultType" Decoder.string = .ok _ := Record.get_eq held rfl kind
  have second : record.get "result" (Decoder.value (depthLimit - ExecutionReply.resultDepth)) =
      .ok _ := Record.get_eq held rfl result
  have third : record.get "chartType" Decoder.string = .ok _ := Record.get_eq held rfl chart
  unfold ExecutionReply.decode
  dsimp only
  rw [toJson, QueryData.members, List.cons_append, List.cons_append, List.nil_append, taken]
  simp only [bind, Except.bind, first, second, third]
  rfl

/-- The executed query with its times as they are read. -/
def reread (executed : Executed) : Executed :=
  { executed with data := executed.data.reread }

theorem readsAs_toJson (executed : Executed) : executed.toJson.ReadsAs executed.reread.toJson :=
  Json.readsAs_object
    (.cons ⟨rfl, Json.readsAs_string _⟩ (.cons ⟨rfl, executed.data.result.readsAs_toJson⟩
      (.cons ⟨rfl, Json.readsAs_string _⟩ .nil)))

end Executed

/-- A response that arrives as it was sent. -/
def Http.Response.arrival (response : Response) : Arrival :=
  ⟨response.status, response.body, true⟩

namespace ServiceClient

variable {α : Type} {decoder : Decoder α} {value other : Json}

end ServiceClient

/-- `1744538719.405` seconds. -/
def Double.plain : Double := ⟨false, 4745103933722717061, by decide⟩

/-- `1744538719.4054801` seconds. -/
def Double.long : Double := ⟨false, 4745103933722719075, by decide⟩

end PromScribe
