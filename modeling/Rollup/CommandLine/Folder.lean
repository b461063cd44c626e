import Rollup.Keyed
import Rollup.Text.Split

/-!
# Folders

A command finds its files from the folder it is run in. Here that folder holds files and no other folders,
so that a path leads to a file when it is the name of the file, perhaps behind steps that stay in place.
-/

namespace Rollup

/-- **A folder**, as the texts of its files by name. -/
abbrev Folder : Type := Keyed String

namespace Folder

/-- Whether a step of a path stays in place. -/
def staysInPlace (step : String) : Bool := step.isEmpty || step == "."

/-- The name of the file that a path leads to. A path that begins with a slash leads elsewhere, and nothing
may stand behind a file. -/
def fileName? (path : String) : Option String :=
  let steps := Text.split '/' path
  match steps.dropWhile staysInPlace with
  | [name] => if path.startsWith "/" then none else some name
  | _ => none

/-- **The text of the file that a path leads to.** -/
def read? (path : String) (folder : Folder) : Option String :=
  (fileName? path).bind fun name => Keyed.get? name folder

end Folder

end Rollup
