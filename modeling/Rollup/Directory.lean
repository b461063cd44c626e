import Rollup.Tenant

/-!
# Directories

Labels of options, names of users and settings of apps, as the tenant's own documents hold them. Of two
entries for one value the later one counts; of several documents of an app the first one does.
-/

namespace Rollup

namespace Directory

/-- Reads an option: its value and its label. -/
def decodeOption? (j : Json) : Option (String × String) := do
  let m ← Decode.members? ["option_value", "option_label"] j
  return (← Decode.required "option_value" Decode.text m, ← Decode.textOrEmpty "option_label" m)

/-- Reads a user: the id and the name. -/
def decodeUser? (j : Json) : Option (String × String) := do
  let m ← Decode.members? ["user_id", "user_name"] j
  return (← Decode.required "user_id" Decode.text m, ← Decode.textOrEmpty "user_name" m)

/-- Reads the processing period in the settings of an app. -/
def decodeSettings? (j : Json) : Option (Option String) := do
  let m ← Decode.members? ["processing_period"] j
  Decode.optional "processing_period" Decode.text m

/-- Reads an app: its processing period. -/
def decodeApp? (j : Json) : Option (Option String) := do
  let m ← Decode.members? ["configs"] j
  Decode.defaulted "configs" none decodeSettings? m

/-- Loads the documents of a directory that match a filter. -/
def load {α : Type} (operation collection : String) (filter : Predicate)
    (decode? : Json → Option α) : TenantAction (List α) := do
  let documents ← TenantAction.onStore operation (Store.find collection filter {})
  TenantAction.decodeAll operation collection decode? documents

/-- **The labels of the values of an option set.** -/
def labels (appId optionId : String) : TenantAction (Keyed String) := do
  let filter := Predicate.allOf
    [.compare "app_id" .eq (.text appId), .compare "option_id" .eq (.text optionId)]
  return Keyed.ofPairs (← load "load option labels" Store.options filter decodeOption?)

/-- **The names of users**; ids that are not known have none. -/
def displayNames (ids : List String) : TenantAction (Keyed String) := do
  if ids.isEmpty then return []
  return Keyed.ofPairs (← load "load user names" Store.users (.among "user_id" ids) decodeUser?)

/-- **The processing period of an app**, such as `2024-05`; an empty one is none. -/
def processingPeriod (appId : String) : TenantAction (Option String) := do
  let filter := Predicate.compare "app_id" .eq (.text appId)
  let periods ← load "load app config" Store.apps filter decodeApp?
  return (periods.head?.bind id).filter fun period => !period.isEmpty

end Directory

end Rollup
