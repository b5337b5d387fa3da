/-!
Values of settings documents.

A table lists its fields in ascending order of their names, each name once; `Table.put` keeps it
so.  Tables are laid over one another field by field, and every other value replaces the one
beneath it.
-/

namespace StoreBench.Document

inductive Value where
  | text (value : String)
  | character (value : Char)
  | integer (value : Int)
  | number (value : Float)
  | truth (value : Bool)
  | moment (spelling : String)
  | list (items : List Value)
  | table (fields : List (String × Value))
  deriving Inhabited

abbrev Table := List (String × Value)

namespace Table

/-- Sets a field in place of any other with its name. -/
def put (name : String) (value : Value) : Table → Table
  | [] => [(name, value)]
  | (other, old) :: rest =>
    if name < other then (name, value) :: (other, old) :: rest
    else if name = other then (name, value) :: rest
    else (other, old) :: put name value rest

def nest : List String → Value → Value
  | [], value => value
  | name :: path, value => .table [(name, nest path value)]

end Table

mutual

/-- Lays a value over another one, if there is one beneath. -/
def Value.over (beneath : Option Value) : Value → Value
  | .table fields =>
    match beneath with
    | some (.table old) => .table (Table.over old fields)
    | _ => .table fields
  | value => value

def Table.over (beneath : Table) : List (String × Value) → Table
  | [] => beneath
  | (name, value) :: rest =>
    Table.over (Table.put name (value.over (List.lookup name beneath)) beneath) rest

end

end StoreBench.Document
