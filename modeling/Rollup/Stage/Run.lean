import Rollup.Directory
import Rollup.Stage.Group
import Rollup.Stage.Join
import Rollup.Stage.Label
import Rollup.Stage.Project
import Rollup.Stage.Regroup

/-!
# Running stages

Most stages only look at the documents they are given. Joining and labelling also read the tenant's
documents: the related collection, the labels of an option set, the names of users.
-/

namespace Rollup

namespace Stage

/-- The labels that a lookup needs for some rows. -/
def labelsFor (l : LabelLookup) (rows : List Json) : TenantAction (Keyed String) :=
  match l.source with
  | .options appId optionId => Directory.labels appId optionId
  | .users => Directory.displayNames (l.usersIn rows)

/-- **Runs one stage.** -/
def run (stage : Stage) (documents : List Json) : TenantAction (List Json) :=
  match stage with
  | .join j => do
    let related ← TenantAction.onStore "load related records" (Store.find j.collection .everything {})
    return j.run related documents
  | .filter p => return documents.filter p.holds
  | .project p => TenantAction.ofExcept id (p.run documents)
  | .group g => return g.run documents
  | .select s => return s.run documents
  | .lookup l => do return l.run (← labelsFor l documents) documents
  | .regroup g => return g.run documents
  | .sort keys => return Document.sort keys documents
  | .page skip limit => return Store.cut skip limit documents

/-- **Runs stages one after the other.** -/
def runAll : List Stage → List Json → TenantAction (List Json)
  | [], documents => return documents
  | stage :: rest, documents => do runAll rest (← stage.run documents)

end Stage

end Rollup
