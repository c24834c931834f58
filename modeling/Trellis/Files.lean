/-
A tree of files, as far as programs look at it: texts in folders, and why a path leads nowhere.

A path, names parted by slashes, is cleaned by reading its names from left to right: empty names and
`.` are dropped, and `..` takes back the name before it.  Above the root there is nothing, so a
rooted path has no `..` left.
-/
import Trellis.Fault.Basic
import Trellis.Text.Search

namespace Trellis.Path

/-! ### Paths -/

/-- Whether a path starts at the root. -/
def isRooted (p : String) : Bool := Text.startsWith p "/"

/-- Reads one more name onto the names so far, last one first. -/
def push (rooted : Bool) (names : List String) (name : String) : List String :=
  if name.isEmpty || name == "." then names
  else if name == ".." then
    match names with
    | [] => if rooted then [] else [".."]
    | last :: rest => if last == ".." then ".." :: last :: rest else rest
  else name :: names

/-- The names of a path when it is cleaned. -/
def names (p : String) : List String :=
  ((Text.splitOnChar p '/').foldl (push (isRooted p)) []).reverse

/-- The path with given names. -/
def ofNames (rooted : Bool) (names : List String) : String :=
  if rooted then "/" ++ "/".intercalate names
  else if names.isEmpty then "."
  else "/".intercalate names

/-- The shortest path that means the same. -/
def clean (p : String) : String := ofNames (isRooted p) (names p)

/-- Paths after each other; empty ones are left out. -/
def join (ps : List String) : String :=
  match ps.filter (!·.isEmpty) with
  | [] => ""
  | qs => clean ("/".intercalate qs)

/-- What is left of two lists after their common start. -/
def apart : List String → List String → List String × List String
  | a :: as, b :: bs => if a == b then apart as bs else (a :: as, b :: bs)
  | as, bs => (as, bs)

/-- The path that leads from `base` to `target`, when there is one. -/
def relative? (base target : String) : Option String :=
  if isRooted base != isRooted target then none
  else
    let (up, down) := apart (names base) (names target)
    if up.contains ".." then none else some (ofNames false (up.map (fun _ => "..") ++ down))

/-- The part of a path before its last name. -/
def folder (p : String) : String :=
  clean (String.ofList (p.toList.reverse.dropWhile (· != '/')).reverse)

/-- The last name of a path. -/
def lastName (p : String) : String :=
  match (names p).reverse with
  | name :: _ => name
  | [] => if isRooted p then "/" else "."

/-- The ending of the last name, from its last dot on. -/
def ending (p : String) : String :=
  let last := (p.toList.reverse.takeWhile (· != '/')).reverse
  if last.contains '.' then
    String.ofList ('.' :: (last.reverse.takeWhile (· != '.')).reverse)
  else ""

end Trellis.Path

namespace Trellis

/-! ### Trees of files -/

/-- A file or a folder; entries stand in the order of their names. -/
inductive FileTree where
  | file (body : String)
  | folder (entries : List (String × FileTree))

instance : Inhabited FileTree := ⟨.folder []⟩

/-- Why a path leads nowhere. -/
inductive PathTrouble where
  | missing | notFolder | isFolder
deriving DecidableEq

/-- The wording of the system. -/
def PathTrouble.text : PathTrouble → String
  | .missing => "no such file or directory"
  | .notFolder => "not a directory"
  | .isFolder => "is a directory"

/-- The fault of an action on a path. -/
def PathTrouble.fault (t : PathTrouble) (action path : String) : Fault :=
  { nature := if t = .missing then .notFound else .plain
    message := action ++ " " ++ path ++ ": " ++ t.text }

namespace FileTree

/-- The entry with a name. -/
def child? (name : String) (entries : List (String × FileTree)) : Option FileTree :=
  (entries.find? (·.1 == name)).map (·.2)

/-- What stands at the end of some names. -/
def find (t : FileTree) : List String → Except PathTrouble FileTree
  | [] => .ok t
  | name :: rest =>
    match t with
    | .file _ => .error .notFolder
    | .folder entries =>
      match child? name entries with
      | none => .error .missing
      | some u => u.find rest

/-- Entries with one of them set, in order. -/
def setEntry (name : String) (t : FileTree) : List (String × FileTree) → List (String × FileTree)
  | [] => [(name, t)]
  | e :: es =>
    if e.1 == name then (name, t) :: es
    else if name < e.1 then (name, t) :: e :: es
    else e :: setEntry name t es

/-- The tree with something else at the end of some names; folders on the way are made. -/
def set (new : FileTree) : List String → FileTree → FileTree
  | [], _ => new
  | name :: rest, .folder entries =>
    .folder (setEntry name (set new rest ((child? name entries).getD (.folder []))) entries)
  | name :: rest, .file _ => .folder [(name, set new rest (.folder []))]

/-- The tree without what stands at the end of some names. -/
def erase : List String → FileTree → FileTree
  | [], t => t
  | [name], .folder entries => .folder (entries.filter (·.1 != name))
  | name :: rest, .folder entries =>
    match child? name entries with
    | some t => .folder (setEntry name (erase rest t) entries)
    | none => .folder entries
  | _ :: _, .file body => .file body

mutual
/-- All files with the names that lead to them, folder by folder; folders whose name is hidden
are left out. -/
def texts (hidden : String → Bool) (above : List String) : FileTree → List (List String × String)
  | .file body => [(above.reverse, body)]
  | .folder entries => textsOf hidden above entries

def textsOf (hidden : String → Bool) (above : List String) :
    List (String × FileTree) → List (List String × String)
  | [] => []
  | (name, .file body) :: es => ((name :: above).reverse, body) :: textsOf hidden above es
  | (name, .folder entries) :: es =>
    (if hidden name then [] else textsOf hidden (name :: above) entries) ++ textsOf hidden above es
end

end FileTree

/-- The files of a system and the folder in which relative paths start. -/
structure Files where
  tree : FileTree := .folder []
  here : String := "/"

namespace Files

/-- A path from the root. -/
def full (f : Files) (path : String) : String :=
  if Path.isRooted path then Path.clean path else Path.join [f.here, path]

/-- What stands at a path. -/
def find (f : Files) (path : String) : Except PathTrouble FileTree :=
  if path.isEmpty then .error .missing else f.tree.find (Path.names (f.full path))

/-- The text of a file. -/
def read (f : Files) (path : String) : Except Fault String :=
  match f.find path with
  | .ok (.file body) => .ok body
  | .ok (.folder _) => .error (PathTrouble.isFolder.fault "read" path)
  | .error t => .error (t.fault "open" path)

/-- Whether there is a file or a folder. -/
def has (f : Files) (path : String) : Bool :=
  match f.find path with
  | .ok _ => true
  | .error _ => false

/-- The entries of a folder. -/
def entries (f : Files) (path : String) : Except Fault (List (String × FileTree)) :=
  match f.find path with
  | .ok (.folder es) => .ok es
  | .ok (.file _) => .error (PathTrouble.notFolder.fault "open" path)
  | .error t => .error (t.fault "open" path)

/-- Writes a file; the folders on the way are made. -/
def put (f : Files) (path body : String) : Files :=
  { f with tree := FileTree.set (.file body) (Path.names (f.full path)) f.tree }

/-- Writes a file into a folder that is there. -/
def write (f : Files) (path body : String) : Except Fault Files :=
  match f.find path with
  | .ok (.folder _) => .error (PathTrouble.isFolder.fault "open" path)
  | .ok (.file _) => .ok (f.put path body)
  | .error .missing =>
    match f.find (Path.folder (f.full path)) with
    | .ok (.folder _) => .ok (f.put path body)
    | .ok (.file _) => .error (PathTrouble.notFolder.fault "open" path)
    | .error t => .error (t.fault "open" path)
  | .error t => .error (t.fault "open" path)

/-- The first folder on the way to some names that is a file. -/
def blocked? (t : FileTree) : List String → List String → Option (List String)
  | [], _ => none
  | name :: rest, done =>
    match t with
    | .file _ => some done.reverse
    | .folder es =>
      match FileTree.child? name es with
      | none => none
      | some (.file _) => some (name :: done).reverse
      | some u => blocked? u rest (name :: done)

/-- Makes a folder and the folders on the way to it. -/
def makeFolder (f : Files) (path : String) : Except Fault Files :=
  let names := Path.names (f.full path)
  match f.tree.find names with
  | .ok (.folder _) => .ok f
  | _ =>
    match blocked? f.tree names [] with
    | some at_ =>
      let shown := if Path.isRooted path then Path.ofNames true at_
        else Path.ofNames false (at_.drop (Path.names f.here).length)
      .error (PathTrouble.notFolder.fault "mkdir" shown)
    | none => .ok { f with tree := FileTree.set (.folder []) names f.tree }

/-- Takes a file away. -/
def remove (f : Files) (path : String) : Files :=
  { f with tree := FileTree.erase (Path.names (f.full path)) f.tree }

/-- All files below a folder with their paths; hidden folders are left out. -/
def below (f : Files) (path : String) (hidden : String → Bool) :
    Except Fault (List (String × String)) :=
  match f.find path with
  | .error t => .error (t.fault "lstat" path)
  | .ok (.file body) => .ok [(path, body)]
  | .ok t => .ok ((t.texts hidden []).map fun (names, body) =>
      (Path.join (path :: names), body))

end Files

end Trellis
