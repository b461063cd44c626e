import Rollup.Report.Definition
import Rollup.Stage.Basic

/-!
# Presentations

How the stored rows of a report are shown: values are labelled, grouped rows merged across access groups,
and rows sorted. Rows are sorted by the keys that ask for it. Where none does, grouped rows come in the
order of their keys, users left out, and listed rows in the order of their items.
-/

namespace Rollup

/-- **What a query does with stored rows.** -/
structure Presentation where
  /-- The fields that are labelled. -/
  lookups : List LabelLookup
  /-- How grouped rows are merged; listed rows are not. -/
  regroup : Option Regroup
  /-- How rows are sorted. -/
  sort : List SortKey
  /-- What is known of the columns, by field. -/
  fieldInfos : Keyed FieldInfo

namespace Presentation

/-- The labelling. -/
def lookupStages (p : Presentation) : List Stage := p.lookups.map Stage.lookup

/-- **All of the presentation**: labelling, merging and sorting. -/
def stages (p : Presentation) : List Stage :=
  p.lookupStages ++ (p.regroup.map Stage.regroup).toList ++ [.sort p.sort]

/-- The paths that rows are sorted by. -/
def sortPaths (p : Presentation) : List String := p.sort.map SortKey.path

/-! ## Presentations of reports -/

/-- Where the labels of a key come from; most keys have none. -/
def labelSource? (appId : String) (k : Key) : Option LabelSource :=
  match k.dataType with
  | .user => some .users
  | .options => some (.options appId k.optionId)
  | _ => none

/-- The labelling of a key: dynamic fields have their users and option values labelled. -/
def lookup? (appId : String) (k : Key) : Option LabelLookup :=
  if k.isDynamic then
    (labelSource? appId k).map fun source => ⟨k.fieldId, k.dataType, source⟩
  else none

/-- The sorting that keys ask for. -/
def sortOf (keys : List Key) : List SortKey :=
  keys.filterMap fun k => k.sort.map fun direction => ⟨k.valuePath, direction⟩

/-- A sorting, or another one in the place of none. -/
def orElse (sort other : List SortKey) : List SortKey :=
  if sort.isEmpty then other else sort

/-- **How rows are sorted.** -/
def sortFor (mode : ReportMode) : List SortKey :=
  match mode with
  | .group spec =>
    let byKeys := (spec.keys.filter fun k => k.dataType ≠ .user).map fun k => SortKey.ascending k.valuePath
    orElse (sortOf mode.keys) (orElse byKeys [.ascending Stage.updateTimePath])
  | .select keys => orElse (sortOf keys) [.ascending "item_id"]

/-- How grouped rows are merged. -/
def regrouping (spec : GroupSpec) : Regroup where
  keys := spec.keys.map Key.outputPath
  aggregates := spec.aggregates.map fun a => ⟨a.key.fieldId, a.reduction⟩
  showCount := spec.showCount

/-- **What is known of the columns**; of two columns of one field the later one counts. -/
def fieldInfosFor : ReportMode → Keyed FieldInfo
  | .group spec => Keyed.ofPairs <|
    spec.keys.map (fun k => (k.fieldId, k.fieldInfo))
      ++ spec.aggregates.map (fun a => (a.key.fieldId, a.fieldInfo))
      ++ if spec.showCount then [(FieldInfo.countColumn, FieldInfo.count)] else []
  | .select keys => Keyed.ofPairs (keys.map fun k => (k.fieldId, k.fieldInfo))

/-- The keys whose values may be labelled: those of aggregates hold numbers. -/
def labelledKeys : ReportMode → List Key
  | .group spec => spec.keys
  | .select keys => keys

/-- **The presentation of a report.** -/
def ofReport (c : ReportContent) : Presentation where
  lookups := (labelledKeys c.mode).filterMap (lookup? c.appId)
  regroup := c.mode.groupSpec?.map regrouping
  sort := sortFor c.mode
  fieldInfos := fieldInfosFor c.mode

end Presentation

end Rollup
