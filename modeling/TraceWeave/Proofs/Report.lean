import TraceWeave.Proofs.Interchange
import TraceWeave.Report.Reader

/-! The document of a report determines the report.

Each part of a report is read back from its value: the alignment, the counts and the list of
warnings. The numbers of a report are integers, so its document is a JSON text whatever the report
says, and any text of the same value is read as this report (`document_determines`). -/

namespace TraceWeave

open Json

@[simp]
theorem AlignmentMethod.ofName?_name (method : AlignmentMethod) :
    ofName? method.name = some method := by
  cases method <;> decide

namespace Report

@[simp]
theorem frame?_int (frame : Int64) : frame? (int frame.toInt) = some (some frame) := by
  have same : frame? (int frame.toInt) = (int frame.toInt).int64?.map some := rfl
  rw [same, int64?_int, Option.map_some]

/-- A frame that is absent is not taken for one that is there. -/
theorem alignment?_alignmentJson (report : Report) :
    alignment? report.alignmentJson = some (report.alignment, report.normalization) := by
  obtain ⟨success, warnings, ⟨method, frame, shift⟩, normalization, counts⟩ := report
  cases frame with
  | none => simp [alignment?, alignmentJson, fields?, string?, frame?]
  | some frame => simp [alignment?, alignmentJson, fields?, string?]

theorem counts?_countsJson (counts : Counts) : counts? (countsJson counts) = some counts := by
  simp [counts?, countsJson, fields?]

theorem mapM_string? (texts : List String) :
    (texts.map Json.string).mapM string? = some texts :=
  mapM_map_eq_some fun _ _ => rfl

theorem ofJson?_toJson (report : Report) : ofJson? report.toJson = some report := by
  have warnings := mapM_string? report.warnings
  have alignment := alignment?_alignmentJson report
  have counts := counts?_countsJson report.counts
  simp only [ofJson?, toJson, fields?, List.map_cons, List.map_nil, if_true, Option.bind_eq_bind,
    Option.bind_some, alignment, bool?, items?, warnings, counts]

theorem numeric_alignmentJson (report : Report) : Numeric report.alignmentJson := by
  unfold alignmentJson
  split <;> simp [Numeric, NumericMembers, NumericMember]

theorem numeric_toJson (report : Report) : Numeric report.toJson := by
  have counts : Numeric (countsJson report.counts) := by
    simp [countsJson, Numeric, NumericMembers, NumericMember]
  have warnings : NumericItems (report.warnings.map Json.string) :=
    numericItems_iff.mpr (List.forall_mem_map.mpr fun _ _ => trivial)
  exact ⟨trivial, warnings, numeric_alignmentJson report, counts, trivial⟩

theorem read?_of_spells {report : Report} {text : String}
    (h : SpellsDocument report.toJson text) : read? text = some report := by
  rw [read?, Json.read?_of_spells h, Option.bind_some, ofJson?_toJson]

theorem spells_text (report : Report) : SpellsDocument report.toJson report.text :=
  spellsDocument_document .indented (numeric_toJson report)

end Report

end TraceWeave
