import StoreBench.Error
import StoreBench.Text.Blank

/-!
A tree of files in memory.

The tree is a list of entries, each with its path from the root.  A path is walked component by
component from the root or from the working folder; links on the way are followed, at most forty
of them.
-/

namespace StoreBench.Run

/-- What a path can lead to; a file has a content in `α`. -/
inductive Node (α : Type) where
  | folder
  | file (content : α)
  | link (target : String)

abbrev Location := List String

structure Files (α : Type) where
  entries : List (Location × Node α)
  here : Location

def components (path : String) : List String :=
  (Text.splitAt '/' path.toList).map String.ofList

namespace Files

variable {α : Type}

def fresh : Files α :=
  { entries := [(["tmp"], .folder), (["work"], .folder)], here := ["work"] }

def node? (files : Files α) (location : Location) : Option (Node α) :=
  if location.isEmpty then some .folder else files.entries.lookup location

def put (files : Files α) (location : Location) (node : Node α) : Files α :=
  { files with
    entries := files.entries.filter (·.1 != location) ++ [(location, node)] }

def startOf (files : Files α) (path : String) : Location :=
  if path.toList.head? = some '/' then [] else files.here

/-- Walks to the location that the components lead to from `location`, a folder.  The last
component need not exist; if it is a link, it is followed only on request. -/
def walk (files : Files α) (followLast : Bool) (links : Nat) (location : Location) :
    List String → Except FileError Location
  | [] => .ok location
  | name :: rest =>
    if name = "" || name = "." then files.walk followLast links location rest
    else if name = ".." then files.walk followLast links location.dropLast rest
    else if 255 < name.utf8ByteSize then .error .nameTooLong
    else
      let target := location ++ [name]
      match files.node? target with
      | none => if rest.isEmpty then .ok target else .error .notFound
      | some .folder => files.walk followLast links target rest
      | some (.file _) => if rest.isEmpty then .ok target else .error .notADirectory
      | some (.link path) =>
        if rest.isEmpty && !followLast then .ok target
        else
          match links with
          | 0 => .error .linkLoop
          | links + 1 =>
            let origin := if path.toList.head? = some '/' then [] else location
            files.walk followLast links origin (components path ++ rest)
termination_by names => (links, names.length)

def locate (files : Files α) (path : String) (followLast : Bool) : Except FileError Location :=
  if path.isEmpty then .error .notFound
  else files.walk followLast 40 (files.startOf path) (components path)

def makeFoldersFrom (files : Files α) (location : Location) :
    List String → Except FileError (Files α)
  | [] => .ok files
  | name :: rest =>
    if name = "" || name = "." then files.makeFoldersFrom location rest
    else if name = ".." then files.makeFoldersFrom location.dropLast rest
    else
      match files.walk true 40 location [name] with
      | .error cause => .error cause
      | .ok target =>
        match files.node? target with
        | some .folder => files.makeFoldersFrom target rest
        | none => (files.put target .folder).makeFoldersFrom target rest
        | some _ =>
          .error (if rest.all String.isEmpty then .alreadyExists else .notADirectory)

/-- Makes a folder and the folders on the way to it; nothing is made for the empty path. -/
def makeFolders (files : Files α) (path : String) : Except FileError (Files α) :=
  files.makeFoldersFrom (files.startOf path) (components path)

def create (files : Files α) (path : String) (content : α) : Except FileError (Files α) := do
  let location ← files.locate path true
  match files.node? location with
  | some .folder => throw .isADirectory
  | _ => return files.put location (.file content)

/-- Makes a link, whose target need not exist. -/
def makeLink (files : Files α) (path target : String) : Except FileError (Files α) := do
  let location ← files.locate path false
  match files.node? location with
  | some _ => throw .alreadyExists
  | none => return files.put location (.link target)

def read (files : Files α) (path : String) : Except FileError α := do
  let location ← files.locate path true
  match files.node? location with
  | none => throw .notFound
  | some (.file content) => return content
  | some _ => throw .isADirectory

/-- The files below the working folder, each with its path from there. -/
def below (files : Files α) : List (String × α) :=
  files.entries.filterMap fun (location, node) =>
    match node with
    | .file content =>
      if files.here.isPrefixOf location then
        some ("/".intercalate (location.drop files.here.length), content)
      else none
    | _ => none

def Node.bytes (size : α → Nat) : Node α → Nat
  | .folder => 0
  | .file content => size content
  | .link target => target.utf8ByteSize

/-- The bytes of everything at and below a path.  Links are counted and not followed. -/
def usage (files : Files α) (size : α → Nat) (path : String) : Except FileError Nat := do
  let location ← files.locate path false
  match files.node? location with
  | none => throw .notFound
  | some _ =>
    return (files.entries.map fun (place, node) =>
      if location.isPrefixOf place then Node.bytes size node else 0).foldl (· + ·) 0

end Files

end StoreBench.Run
