/-
A store of compiled templates.

An artifact is kept under the name of its module, with the digest of the text that it was compiled
from, so that it is used again only while that text is the same.
-/
import Trellis.Files
import Trellis.Json.Reader
import Trellis.Json.Writer

namespace Trellis

/-- A compiled template that is kept.  `size` is the size that was recorded, in bytes. -/
structure Artifact where
  module : String
  digest : String
  data : String
  size : Int
  packed : Bool

/-- Artifacts in the order of their modules. -/
abbrev Shelf := List Artifact

namespace Shelf

/-- The artifact of a module. -/
def get? (s : Shelf) (module : String) : Option Artifact := s.find? (·.module == module)

/-- Keeps an artifact instead of the one that the module had. -/
def put (a : Artifact) : Shelf → Shelf
  | [] => [a]
  | b :: bs =>
    if b.module == a.module then a :: bs
    else if a.module < b.module then a :: b :: bs
    else b :: put a bs

/-- Takes the artifact of a module away. -/
def erase (s : Shelf) (module : String) : Shelf := s.filter (·.module != module)

/-- What the text of a shelf begins with. -/
def mark : String := "SQLite format 3\x00"

/-- The shelf as text. -/
def text (s : Shelf) : String :=
  mark ++ Json.text false (.list (s.map fun a => .record [
    ("module", .text a.module), ("digest", .text a.digest), ("data", .text a.data),
    ("size", .whole a.size), ("packed", .bool a.packed)]))

/-- An artifact that was written down. -/
def artifact? (d : Datum) : Option Artifact :=
  match d.field? "module", d.field? "digest", d.field? "data", d.field? "size", d.field? "packed" with
  | some (.text module), some (.text digest), some (.text data), some (.whole size),
    some (.bool packed) => some ⟨module, digest, data, size, packed⟩
  | _, _, _, _, _ => none

/-- Reads a shelf; an empty text is an empty shelf. -/
def parse? (s : String) : Option Shelf :=
  if s.isEmpty then some []
  else if !Text.startsWith s mark then none
  else
    match Json.parse? (Text.dropFront s mark) with
    | some (.list items) => items.mapM artifact?
    | _ => none

end Shelf

/-- A store: its artifacts, the file that they are kept in, if any, and whether new ones are
packed. -/
structure Store where
  shelf : Shelf := []
  file? : Option String := none
  packs : Bool := false
  isOpen : Bool := true

namespace Store

/-- The fault of an action on a store. -/
def failed (action : String) (why : String) : Fault :=
  (Fault.make .storeFailed [("Op", action)]).because (.plain why)

/-- Only an open store can be used. -/
def ifOpen {α : Type} (s : Store) (action : String) (result : Except Fault α) : Except Fault α :=
  if s.isOpen then result else .error (failed action "sql: database is closed")

/-- Keeps data for a module. -/
def put (s : Store) (module digest data : String) : Except Fault Store :=
  s.ifOpen "put" (.ok { s with
    shelf := s.shelf.put ⟨module, digest, data, data.utf8ByteSize, s.packs⟩ })

/-- The fault for a module without an artifact. -/
def noArtifact : Fault := { nature := .notFound, message := "artifact not found" }

/-- The artifact of a module.  Its data must have the recorded size. -/
def get (s : Store) (module : String) : Except Fault Artifact :=
  s.ifOpen "get" (match s.shelf.get? module with
    | none => .error noArtifact
    | some a =>
      if (a.data.utf8ByteSize : Int) == a.size then .ok a
      else .error ((Fault.make .corruptArtifact [("Module", module)]).because (.plain
        ("size " ++ Text.natText a.data.utf8ByteSize ++ ", want " ++ Text.intText a.size))))

/-- The data of a module, if it was compiled from the text with the given digest. -/
def lookup (s : Store) (module digest : String) : Except Fault (Option String) :=
  match s.get module with
  | .ok a => .ok (if a.digest == digest then some a.data else none)
  | .error ⟨.notFound, _, _, _, _, _, _⟩ => .ok none
  | .error f => .error f

/-- Takes the artifact of a module away. -/
def erase (s : Store) (module : String) : Except Fault Store :=
  s.ifOpen "delete" (.ok { s with shelf := s.shelf.erase module })

/-- The modules that have artifacts, in order. -/
def modules (s : Store) : Except Fault (List String) :=
  s.ifOpen "list" (.ok (s.shelf.map (·.module)))

/-- The name of a kind of store, of those that are known. -/
def kind? (driver : String) : Option String :=
  match driver with
  | "" | "sqlite" | "sqlite3" => some "sqlite"
  | "postgres" | "postgresql" => some "postgres"
  | "mysql" => some "mysql"
  | _ => none

/-- The fault of a store that cannot be opened. -/
def notOpened (driver : String) : Fault := Fault.make .storeNotOpened [("Driver", driver)]

/-- Why the text of an option of an address cannot be read: after `%` two hexadecimal digits must
follow. -/
def wrongEscape? : List Char → Option String
  | '%' :: cs =>
    let fits := (cs.take 2).length == 2 && (cs.take 2).all fun c => (Json.hexValue? c).isSome
    if fits then wrongEscape? cs
    else some ("invalid URL escape " ++ Text.quote (String.ofList ('%' :: cs.take 2)))
  | _ :: cs => wrongEscape? cs
  | [] => none

/-- Why the options of an address cannot be read.  Options are parted by `&`. -/
def wrongOptions? (options : String) : Option String :=
  let parts := Text.splitOnChar options '&'
  if parts.any fun p => Text.hasPiece p ";" then some "invalid semicolon separator in query"
  else parts.findSome? fun p => wrongEscape? p.toList

/-- What is added to the options of every address. -/
def ownOptions : String := "_pragma=journal_mode(WAL)&_pragma=busy_timeout(5000)"

/-- Opens a store: one in memory, or one that is kept in a file. -/
def start (files : Files) (driver address : String) (packs : Bool) :
    Except Fault (Store × Files) := do
  match kind? driver with
  | none => throw (notOpened driver)
  | some "sqlite" =>
    if address.isEmpty || address == ":memory:" then return ({ packs }, files)
    let because := fun (f : Fault) => (notOpened "sqlite").because f
    let files ← (files.makeFolder (Path.folder address)).mapError because
    let (path, options) := match Text.cut? address "?" with
      | some (path, options) => if path.isEmpty then (address, "") else (path, options ++ "?")
      | none => (address, "")
    if let some why := wrongOptions? (options ++ ownOptions) then throw (because (.plain why))
    match files.find path with
    | .ok (.folder _) =>
      throw (because (.plain "unable to open database file: out of memory (14)"))
    | .ok (.file body) =>
      match Shelf.parse? body with
      | some shelf => return ({ shelf, file? := some path, packs }, files)
      | none => throw (because (.plain "file is not a database (26)"))
    | .error _ => return ({ file? := some path, packs }, files.put path (Shelf.text []))
  | some kind => throw ((notOpened kind).because (.plain "no server"))

/-- The files after the store was written. -/
def save (s : Store) (files : Files) : Files :=
  match s.file? with
  | some path => files.put path s.shelf.text
  | none => files

end Store

end Trellis
