import Rollup.Document.TupleKey
import Rollup.Stage.Basic

/-!
# Joining related documents

A record joins with every related document whose key values all equal its own, and makes one record per
match, in the order of the related documents. A record without a match, or with a key value missing or
`null`, stays as it is. The items of the match are put below the id of the relation.

Key values are compared by their canonical text, so the related documents are first arranged by it.
-/

namespace Rollup

namespace Join

/-- The canonical text of the values at some paths; none when one is missing or `null`. -/
def keyOf? (paths : List String) (document : Json) : Option String :=
  (paths.mapM fun path => (Document.get? path document).filter fun v => !v.isNull).map
    fun values => Document.tupleKey (values.map some)

/-- The related documents by the canonical text of their key values. -/
def index (j : Join) (related : List Json) : Keyed (List Json) :=
  related.foldr (fun d groups =>
    match keyOf? (j.keys.map JoinKey.foreign) d with
    | some k => Keyed.insert k (d :: (Keyed.get? k groups).getD []) groups
    | none => groups) []

/-- A record with the items of one match. -/
def attach (j : Join) (record related : Json) : Json :=
  Document.set ("relations." ++ j.relationId) ((related.member? "items").getD .null) record

/-- The records that a record and the arranged related documents make. -/
def expand (j : Join) (arranged : Keyed (List Json)) (record : Json) : List Json :=
  match (keyOf? (j.keys.map JoinKey.own) record).bind fun k => Keyed.get? k arranged with
  | some related => related.map (j.attach record)
  | none => [record]

/-- **Joins records with related documents.** -/
def run (j : Join) (related records : List Json) : List Json :=
  records.flatMap (j.expand (j.index related))

end Join

end Rollup
