import Rollup.Condition.Basic
import Rollup.Json.Reader
import Rollup.Decimal.Power

/-!
# Queries

A query asks for the rows of one report that fulfil some conditions and that the caller's access groups
may see, page by page. Pages are numbered from one; without a page size there is one page of everything.
-/

namespace Rollup

/-- **A query for rows of a report.** -/
structure Query where
  /-- The report, as the caller names it. -/
  reportId : String
  /-- What the rows must fulfil. -/
  conditions : List Condition := []
  /-- How the conditions are combined. -/
  combinator : String := ""
  /-- The access groups of the caller. -/
  owners : List String := []
  /-- The page, counted from one. -/
  pageIndex : UInt64 := 1
  /-- Rows per page; zero stands for all. -/
  pageSize : UInt64 := 0
  deriving DecidableEq

namespace Query

/-- The query for all rows that some access groups may see. -/
def all (reportId : String) (owners : List String) : Query :=
  { reportId, combinator := "and", owners }

/-- The largest number of a word. -/
def wordMax : Nat := 2 ^ 64 - 1

/-- **How many rows come before the page, and how many it holds at most.** The page zero is taken for the
first, and numbers beyond a word for the largest word. -/
def page (q : Query) : Nat × Option Nat :=
  if q.pageSize = 0 then (0, none)
  else (min ((q.pageIndex.toNat - 1) * q.pageSize.toNat) wordMax, some q.pageSize.toNat)

/-- The members in declared order. -/
def declared : List String :=
  ["report_id", "conditions", "condition_type", "owners", "page_index", "page_size"]

/-- Reads a query. -/
def decode? (j : Json) : Option Query := do
  let m ← Decode.members? declared j
  return {
    reportId := ← Decode.required "report_id" Decode.text m
    conditions := ← Decode.listOrEmpty "conditions" Condition.decode? m
    combinator := ← Decode.textOrEmpty "condition_type" m
    owners := ← Decode.listOrEmpty "owners" Decode.text m
    pageIndex := ← Decode.defaulted "page_index" 1 Decode.word m
    pageSize := ← Decode.defaulted "page_size" 0 Decode.word m }

/-- **Reads the text of a query.** -/
def parse? (text : String) : Option Query :=
  (Json.readAs? (.ofDeclared declared [("conditions", .list (.ofDeclared Condition.declared))])
    text).bind decode?

/-- A query as JSON. -/
def toJson (q : Query) : Json :=
  .object [("condition_type", .string q.combinator),
    ("conditions", .array (q.conditions.map Condition.toJson)), ("owners", .ofStrings q.owners),
    ("page_index", .ofWord q.pageIndex), ("page_size", .ofWord q.pageSize),
    ("report_id", .string q.reportId)]

end Query

end Rollup
