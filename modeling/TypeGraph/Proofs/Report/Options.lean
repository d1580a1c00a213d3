import TypeGraph.Proofs.Report.Layout
import TypeGraph.Proofs.Report.Sections
import TypeGraph.Proofs.Undocumented

/-!
The options of a report. Each of them takes away the text that it names and leaves the rest as it
stands, in each section by itself. The line on unresolved types knows of neither.
-/

namespace TypeGraph.Report

/-- The imports are the last thing before the blank line of a section. -/
theorem sectionText_imports (t : DataType) (documentation : Bool) :
    ∃ before, sectionText ⟨true, documentation⟩ t = before ++ importsText t ++ "\n" ∧
      sectionText ⟨false, documentation⟩ t = before ++ "\n" := by
  refine ⟨headerText t ++ (if documentation then documentationLines (Section.ofType t) else "") ++
    Text.join (t.properties.entries.map (propertyText t)) ++ limitation (Section.ofType t), ?_, ?_⟩
  · rw [sectionText_eq]
    rfl
  · rw [sectionText_eq, sectionWith, if_neg Bool.false_ne_true, Text.append_empty]

theorem sectionText_undocumented (t : DataType) (imports documentation : Bool) :
    sectionText ⟨imports, documentation⟩ t.undocumented = sectionText ⟨imports, false⟩ t := by
  rw [sectionText, ofType_undocumented]
  cases documentation <;> rfl

theorem render_undocumented (types : Mapping DataType) {c c' : Config}
    (imports : c.showImports.holds = c'.showImports.holds)
    (hidden : c.showDocumentation.holds = false) :
    render types c = render (types.map DataType.undocumented) c' := by
  rw [render_eq_join, render_eq_join, unresolvedText, unresolvedText,
    unresolvedNames_undocumented, Mapping.values_map, List.map_map]
  have sections : sectionText (Options.ofConfig c) =
      sectionText (Options.ofConfig c') ∘ DataType.undocumented := by
    funext t
    rw [Function.comp_apply, Options.ofConfig, Options.ofConfig, sectionText_undocumented, imports,
      hidden]
  rw [sections]

/-- The text of the template is one section for each type and the line on unresolved types. Without
imports a section has lost its text on them, which is the last before its blank line, and without
documentation a report is that of the same types with none. -/
theorem options_hide_what_they_name (types : Mapping DataType) (c : Config) :
    Template.render layout (scope types c) = some (render types c) ∧
      render types c =
        Text.join (types.values.map (sectionText (Options.ofConfig c))) ++ unresolvedText types ∧
      (unresolvedText types ≠ "" ↔ unresolvedNames types ≠ []) ∧
      (∀ t : DataType, t.imports.toList.Pairwise (· < ·) ∧ ∀ documentation, ∃ before,
        sectionText ⟨true, documentation⟩ t = before ++ importsText t ++ "\n" ∧
          sectionText ⟨false, documentation⟩ t = before ++ "\n") ∧
      ∀ c' : Config, c'.showImports.holds = c.showImports.holds →
        c'.showDocumentation.holds = false →
          render types c' = render (types.map DataType.undocumented) c :=
  ⟨render_layout types c, render_eq_join types c, unresolvedText_ne_empty_iff types,
    fun t => ⟨t.imports.ascending, sectionText_imports t⟩,
    fun _ imports hidden => render_undocumented types imports hidden⟩

end TypeGraph.Report
