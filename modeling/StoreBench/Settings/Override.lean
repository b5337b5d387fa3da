import StoreBench.Document.Loose

/-!
Settings from the environment.

A variable whose name starts with `KVARENA_`, in any letter case, sets one field of the settings
document.  The rest of its name is the path of the field, in lower case; double underscores and
dots divide the path.
-/

namespace StoreBench.Settings

open StoreBench.Document (Value Table)

def variableStart : List Char := "kvarena_".toList

def dividers : List Char → List Char
  | '_' :: '_' :: rest => '.' :: dividers rest
  | c :: rest => c :: dividers rest
  | [] => []

/-- The path of the field that a variable sets, if it sets one.  No part of a path is empty. -/
def overridePath? (name : String) : Option (List String) :=
  let name := (Text.trimChars name.toList).map Char.toLower
  if variableStart.isPrefixOf name then
    let path := Text.trimChars (dividers (name.drop variableStart.length))
    let parts := Text.splitAt '.' path
    if parts.any List.isEmpty then none else some (parts.map String.ofList)
  else none

/-- The fields that the variables set; of two variables for one field the later one counts. -/
def overrides (environment : List (String × String)) : Table :=
  environment.foldl
    (fun fields (name, text) =>
      match overridePath? name with
      | none | some [] => fields
      | some (field :: path) =>
        Table.over fields [(field, Table.nest path (Document.Loose.read text))])
    []

end StoreBench.Settings
