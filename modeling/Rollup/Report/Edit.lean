import Rollup.Report.Definition

/-!
# Drafts and patches

A report is created from a **draft**, its content and perhaps its id, and changed by a **patch**, which
names the parts to be replaced. Both leave stamps. A patch cannot empty the datastore of a report.
-/

namespace Rollup

/-- **What a report is created from.** -/
structure ReportDraft extends ReportContent where
  /-- The id, where one is wished for. -/
  reportId : Option ReportId := none
  deriving DecidableEq

namespace ReportDraft

/-- Reads a draft, which is always written as an object. -/
def decode? (j : Json) : Option ReportDraft := do
  let m ← j.asObject?
  return {
    toReportContent := ← ReportContent.ofMembers? m
    reportId := ← Decode.optional "report_id" ReportId.decode? m }

/-- **The definition that a draft makes**, under the id it wishes for or else a new one. -/
def define (newId : ReportId) (writer : String) (time : Instant) (d : ReportDraft) :
    ReportDefinition where
  toReportContent := d.toReportContent
  reportId := d.reportId.getD newId
  createdAt := time
  createdBy := writer
  updatedAt := time
  updatedBy := writer

end ReportDraft

/-- **What is changed of a report.** -/
structure ReportPatch where
  /-- The new datastore. -/
  datastoreId : Option String := none
  /-- The new name. -/
  name : Option String := none
  /-- The new place. -/
  displayOrder : Option Int64 := none
  /-- The new conditions. -/
  conditions : Option (List Condition) := none
  /-- The new way of combining them. -/
  combinator : Option String := none
  /-- The new mode. -/
  mode : Option ReportMode := none
  deriving DecidableEq

namespace ReportPatch

/-- The members in declared order. -/
def declared : List String :=
  ["datastore_id", "report_name", "display_order", "report_conditions", "condition_type", "mode"]

/-- Reads a patch. -/
def decode? (j : Json) : Option ReportPatch := do
  let m ← Decode.members? declared j
  return {
    datastoreId := ← Decode.optional "datastore_id" Decode.text m
    name := ← Decode.optional "report_name" Decode.text m
    displayOrder := ← Decode.optional "display_order" Decode.signed m
    conditions := ← Decode.optional "report_conditions" (Decode.list Condition.decode?) m
    combinator := ← Decode.optional "condition_type" Decode.text m
    mode := ← Decode.optional "mode" ReportMode.decode? m }

/-- The content with the patched parts replaced. -/
def applyTo (p : ReportPatch) (c : ReportContent) : ReportContent :=
  { c with
    datastoreId := (p.datastoreId.filter fun id => !id.isEmpty).getD c.datastoreId
    name := p.name.getD c.name
    displayOrder := p.displayOrder.getD c.displayOrder
    conditions := p.conditions.getD c.conditions
    combinator := p.combinator.getD c.combinator
    mode := p.mode.getD c.mode }

/-- **The definition with the patched parts replaced and stamped.** -/
def apply (p : ReportPatch) (writer : String) (time : Instant) (d : ReportDefinition) :
    ReportDefinition :=
  { d with
    toReportContent := p.applyTo d.toReportContent
    updatedAt := time
    updatedBy := writer }

end ReportPatch

end Rollup
