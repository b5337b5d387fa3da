import StoreBench.Document.Lines
import StoreBench.Settings.Basic
import StoreBench.Settings.Override

/-!
Configurations: an engine's name, its options, and the settings of a run.

A configuration is read from a document with a table `engine` and possibly a table `benchmark`.
Fields are taken in ascending order of their names, and the first one that cannot be taken is
reported with its path.  Fields that no setting has are passed over; a setting without a field
keeps its default.
-/

namespace StoreBench.Settings

open StoreBench.Document (Value Table)

/-- A result, or what is wrong and the path to the value it is wrong about. -/
abbrev Taken := Except (ReadError × List String)

section

variable {α : Type}

def refuse (cause : ReadError) : Taken α :=
  .error (cause, [])

def inField (name : String) (taken : Taken α) : Taken α :=
  taken.mapError fun (cause, path) => (cause, name :: path)

def takeNat : Value → Taken Nat
  | .integer value => if 0 ≤ value then .ok value.toNat else refuse .outOfRange
  | _ => refuse .wrongType

def takeTruth : Value → Taken Bool
  | .truth value => .ok value
  | _ => refuse .wrongType

def takeText : Value → Taken String
  | .text value => .ok value
  | .character value => .ok (String.ofList [value])
  | _ => refuse .wrongType

/-- An integer serves as a number too. -/
def takeNumber : Value → Taken Float
  | .number value => .ok value
  | .integer value =>
    .ok (if value < 0 then -Decimal.ofNat value.natAbs else Decimal.ofNat value.natAbs)
  | _ => refuse .wrongType

def takeTexts : Value → Taken (List String)
  | .list items =>
    items.zipIdx.mapM fun (item, index) => inField (toString index) (takeText item)
  | _ => refuse .wrongType

/-- One of several names.  A table names a mode by its first field, which has no use for a value;
a moment is taken for a table without any of the names. -/
def takeMode (names : List (String × α)) : Value → Taken α
  | .text value =>
    match names.lookup value with
    | some mode => .ok mode
    | none => refuse .unknownVariant
  | .table ((name, _) :: _) =>
    match names.lookup name with
    | some _ => inField name (refuse .wrongType)
    | none => refuse .unknownVariant
  | .moment _ => refuse .unknownVariant
  | _ => refuse .wrongType

end

def syncNames : List (String × SyncMode) :=
  [("sync", .sync), ("lazy", .lazy), ("nosync", .noSync)]

def logNames : List (String × LogMode) :=
  [("indef", .indefinite), ("on", .on), ("walon", .on), ("off", .off), ("waloff", .off)]

/-- Kinds by name; blank names stand for none. -/
def kindsOfNames (names : List String) : Taken (List Kind) :=
  (names.filter fun name => !(Text.trim name).isEmpty).mapM fun name =>
    match Kind.read? name with
    | some kind => .ok kind
    | none => refuse (.unknownKind name)

def textOf? : Value → Option String
  | .text value => some value
  | _ => none

/-- A list of names, or names between commas in one text. -/
def takeKinds : Value → Taken (List Kind)
  | .text value => kindsOfNames ((Text.splitAt ',' value.toList).map String.ofList)
  | .list items =>
    match items.mapM textOf? with
    | some names => kindsOfNames names
    | none => refuse .noSuchShape
  | _ => refuse .noSuchShape

def fieldNames : List String :=
  ["kinds", "count", "keys", "ksize", "vsize", "batch_length", "repeat", "sync", "wal", "rthr",
   "wthr", "continuous", "ignore_not_found", "binary", "csv_prefix", "seed", "datadir",
   "engine_options", "interval", "pin"]

def assign (settings : Settings) (name : String) (value : Value) : Taken Settings :=
  match name with
  | "kinds" => return { settings with kinds := ← takeKinds value }
  | "count" => return { settings with count := ← takeNat value }
  | "keys" => return { settings with keys := ← takeNat value }
  | "ksize" => return { settings with keySize := ← takeNat value }
  | "vsize" => return { settings with valueSize := ← takeNat value }
  | "batch_length" => return { settings with batchLength := ← takeNat value }
  | "repeat" => return { settings with passes := ← takeNat value }
  | "sync" =>
    return { settings with durability.sync := ← takeMode syncNames value }
  | "wal" =>
    return { settings with durability.log := ← takeMode logNames value }
  | "rthr" => return { settings with readers := ← takeNat value }
  | "wthr" => return { settings with writers := ← takeNat value }
  | "continuous" => return { settings with continuous := ← takeTruth value }
  | "ignore_not_found" => return { settings with ignoreMissing := ← takeTruth value }
  | "binary" => return { settings with binary := ← takeTruth value }
  | "csv_prefix" => return { settings with reports := some (← takeText value) }
  | "seed" => return { settings with seed := UInt64.ofNat (← takeNat value) }
  | "datadir" => return { settings with folder := ← takeText value }
  | "engine_options" => return { settings with engineOptions := ← takeTexts value }
  | "interval" => return { settings with interval := ← takeNumber value }
  | "pin" => return { settings with pinned := ← takeTruth value }
  | _ => return settings

/-- The settings of a table of fields, or of a list of values in the order of the settings. -/
def take : Value → Taken Settings
  | .table fields =>
    fields.foldlM (fun settings (name, value) => inField name (settings.assign name value))
      default
  | .list items =>
    (fieldNames.zip items).zipIdx.foldlM
      (fun settings ((name, value), index) =>
        inField (toString index) (settings.assign name value))
      default
  | .moment _ => .ok default
  | _ => refuse .wrongType

mutual

/-- Whether every integer of a value has 64 bits with its sign. -/
def isSigned : Value → Bool
  | .integer value => value < 0x8000000000000000
  | .list items => allSigned items
  | .table fields => allFieldsSigned fields
  | _ => true

def allSigned : List Value → Bool
  | [] => true
  | item :: items => isSigned item && allSigned items

def allFieldsSigned : List (String × Value) → Bool
  | [] => true
  | (_, value) :: fields => isSigned value && allFieldsSigned fields

end

end Settings

structure Configuration where
  engine : String
  options : Document.Table
  settings : Settings

namespace Configuration

open StoreBench.Settings (Taken refuse inField)

def takeEngine : Document.Value → Taken (String × Document.Table)
  | .table fields =>
    match fields.lookup "name" with
    | none => refuse (.missing "name")
    | some value => do
      let name ← inField "name" (Settings.takeText value)
      let options := fields.filter (·.1 != "name")
      if Settings.allFieldsSigned options then return (name, options) else refuse .malformed
  | .moment _ => refuse (.missing "name")
  | _ => refuse .wrongType

def ofDocument (document : Document.Table) : Taken Configuration := do
  let settings ←
    match document.lookup "benchmark" with
    | none => pure Settings.default
    | some value => inField "benchmark" (Settings.take value)
  match document.lookup "engine" with
  | none => refuse (.missing "engine")
  | some value =>
    let (engine, options) ← inField "engine" (takeEngine value)
    return { engine, options, settings }

/-- Reads a configuration; the variables of the environment are laid over the document. -/
def read (text : String) (environment : List (String × String)) : Except Failure Configuration :=
  match Document.read? text with
  | none => .error (.settings .malformed [])
  | some document =>
    (ofDocument (Document.Table.over document (Settings.overrides environment))).mapError
      fun (cause, path) => .settings cause path

end Configuration

end StoreBench
