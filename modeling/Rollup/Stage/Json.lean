import Rollup.Condition.PredicateJson
import Rollup.Stage.Basic

/-!
# Stages as JSON

Plans can be shown, and stages written by hand. A stage is an object that names its kind. Formulas are
read, but not shown: of a computed field only its id and type appear.
-/

namespace Rollup

/-- Why a stage cannot be read. -/
inductive StageFault where
  /-- It is no stage. -/
  | malformed
  /-- A formula in it is faulty. -/
  | formula (cause : Formula.Error)

/-! ## Writing -/

/-- Where a key is read and written, as JSON. -/
def OutputKey.toJson (k : OutputKey) : Json :=
  .object [("source", .string k.source), ("target", .string k.target),
    ("wrap", (k.wrap.map DataType.toJson).getD .null)]

/-- A computed field as JSON, its formula left out. -/
def ComputedField.toJson (f : ComputedField) : Json :=
  .object [("field_id", .string f.fieldId), ("return_type", f.returnType.toJson)]

/-- Two paths that must agree, as JSON. -/
def JoinKey.toJson (k : JoinKey) : Json :=
  .object [("foreign", .string k.foreign), ("local", .string k.own)]

/-- An aggregate column as JSON. -/
def Aggregation.toJson (a : Aggregation) : Json :=
  .object [("field_id", .string a.fieldId), ("reduction", a.reduction.toJson),
    ("source", .string a.source)]

/-- An aggregate column of merged rows as JSON. -/
def MergedAggregate.toJson (a : MergedAggregate) : Json :=
  .object [("field_id", .string a.fieldId), ("reduction", a.reduction.toJson)]

namespace Stage

/-- The name of the kind of a stage. -/
def kind : Stage → String
  | .join _ => "join"
  | .filter _ => "filter"
  | .project _ => "project"
  | .group _ => "group"
  | .select _ => "select"
  | .lookup _ => "lookup"
  | .regroup _ => "regroup"
  | .sort _ => "sort"
  | .page .. => "page"

/-- The members of a stage beside its kind. -/
def toMembers : Stage → List (String × Json)
  | .join j => [("relation_id", .string j.relationId), ("from", .string j.collection),
      ("on", .array (j.keys.map JoinKey.toJson))]
  | .filter p => [("predicate", p.toJson)]
  | .project p => [("columns", .ofStrings p.columns), ("items", .ofStrings p.items),
      ("computed", .array (p.computed.map ComputedField.toJson)),
      ("keep_relations", .bool p.keepRelations)]
  | .group g => [("keys", .array (g.keys.map OutputKey.toJson)),
      ("aggregates", .array (g.aggregates.map Aggregation.toJson)), ("count", .bool g.showCount),
      ("update_time", g.updateTime.toJson)]
  | .select s => [("keys", .array (s.keys.map OutputKey.toJson)),
      ("update_time", s.updateTime.toJson)]
  | .lookup l =>
    [("field_id", .string l.fieldId), ("data_type", l.dataType.toJson)]
      ++ match l.source with
        | .options appId optionId => [("app_id", .string appId), ("option_id", .string optionId)]
        | .users => []
  | .regroup g => [("keys", .ofStrings g.keys),
      ("aggregates", .array (g.aggregates.map MergedAggregate.toJson)), ("count", .bool g.showCount)]
  | .sort keys => [("keys", .array (keys.map SortKey.toJson))]
  | .page skip limit =>
    [("skip", .ofCount skip), ("limit", (limit.map Json.ofCount).getD .null)]

/-- **A stage as JSON.** -/
def toJson (s : Stage) : Json := .ofMembers (("stage", .string s.kind) :: s.toMembers)

end Stage

/-! ## Reading -/

/-- Reads where a key is read and written. -/
def OutputKey.decode? (j : Json) : Option OutputKey := do
  let m ← j.asObject?
  return ⟨← Decode.required "source" Decode.text m, ← Decode.required "target" Decode.text m,
    ← Decode.optional "wrap" DataType.decode? m⟩

/-- Reads two paths that must agree. -/
def JoinKey.decode? (j : Json) : Option JoinKey := do
  let m ← j.asObject?
  return ⟨← Decode.required "local" Decode.text m, ← Decode.required "foreign" Decode.text m⟩

/-- Reads an aggregate column. -/
def Aggregation.decode? (j : Json) : Option Aggregation := do
  let m ← j.asObject?
  return ⟨← Decode.required "field_id" Decode.text m, ← Decode.required "source" Decode.text m,
    ← Decode.required "reduction" Reduction.decode? m⟩

/-- Reads an aggregate column of merged rows. -/
def MergedAggregate.decode? (j : Json) : Option MergedAggregate := do
  let m ← j.asObject?
  return ⟨← Decode.required "field_id" Decode.text m,
    ← Decode.required "reduction" Reduction.decode? m⟩

namespace StageFault

/-- What must be readable. -/
def orMalformed {α : Type} : Option α → Except StageFault α
  | some a => .ok a
  | none => .error .malformed

end StageFault

/-- Reads a computed field with its formula. -/
def ComputedField.read (j : Json) : Except StageFault ComputedField := do
  let m ← StageFault.orMalformed j.asObject?
  let fieldId ← StageFault.orMalformed (Decode.required "field_id" Decode.text m)
  let returnType ← StageFault.orMalformed (Decode.required "return_type" DataType.decode? m)
  let text ← StageFault.orMalformed (Decode.required "formula" Decode.text m)
  match Formula.parse text with
  | .ok formula => return { fieldId, returnType, formula }
  | .error e => throw (.formula e)

namespace Stage

/-- Reads a projection. -/
def readProjection (m : Keyed Json) : Except StageFault Projection := do
  let computed ← StageFault.orMalformed (Decode.listOrEmpty "computed" some m)
  return {
    columns := ← StageFault.orMalformed (Decode.required "columns" (Decode.list Decode.text) m)
    items := ← StageFault.orMalformed (Decode.required "items" (Decode.list Decode.text) m)
    computed := ← computed.mapM ComputedField.read
    keepRelations := ← StageFault.orMalformed (Decode.defaulted "keep_relations" false Decode.flag m) }

/-- Reads where labels come from. -/
def decodeSource? (m : Keyed Json) : Option LabelSource := do
  match ← Decode.optional "option_id" Decode.text m with
  | some optionId => return .options (← Decode.textOrEmpty "app_id" m) optionId
  | none => return .users

/-- Reads a stage without formulas. -/
def decodePlain? (kind : String) (m : Keyed Json) : Option Stage := do
  match kind with
  | "join" =>
    return .join ⟨← Decode.required "relation_id" Decode.text m, ← Decode.required "from" Decode.text m,
      ← Decode.required "on" (Decode.list JoinKey.decode?) m⟩
  | "filter" => return .filter (← Decode.required "predicate" Predicate.decode? m)
  | "group" =>
    return .group {
      keys := ← Decode.required "keys" (Decode.list OutputKey.decode?) m
      aggregates := ← Decode.listOrEmpty "aggregates" Aggregation.decode? m
      showCount := ← Decode.defaulted "count" false Decode.flag m
      updateTime := ← Decode.required "update_time" Decode.instant m }
  | "select" =>
    return .select {
      keys := ← Decode.required "keys" (Decode.list OutputKey.decode?) m
      updateTime := ← Decode.required "update_time" Decode.instant m }
  | "lookup" =>
    return .lookup ⟨← Decode.required "field_id" Decode.text m,
      ← Decode.required "data_type" DataType.decode? m, ← decodeSource? m⟩
  | "regroup" =>
    return .regroup ⟨← Decode.required "keys" (Decode.list Decode.text) m,
      ← Decode.listOrEmpty "aggregates" MergedAggregate.decode? m,
      ← Decode.defaulted "count" false Decode.flag m⟩
  | "sort" => return .sort (← Decode.required "keys" (Decode.list SortKey.decode?) m)
  | "page" =>
    return .page (← Decode.defaulted "skip" 0 Decode.word m).toNat
      ((← Decode.optional "limit" Decode.word m).map UInt64.toNat)
  | _ => none

/-- **Reads a stage.** -/
def read (j : Json) : Except StageFault Stage := do
  let m ← StageFault.orMalformed j.asObject?
  let kind ← StageFault.orMalformed (Decode.required "stage" Decode.text m)
  if kind = "project" then return .project (← readProjection m)
  else StageFault.orMalformed (decodePlain? kind m)

end Stage

end Rollup
