/-
A folder of files to try things in.  Documents write its path as `$ROOT`.
-/
import Trellis.Files

namespace Trellis

mutual
/-- A document with all its texts and names changed. -/
def Datum.mapTexts (f : String → String) : Datum → Datum
  | .text s => .text (f s)
  | .list items => .list (mapItems f items)
  | .record fields => .record (mapFields f fields)
  | d => d

def Datum.mapItems (f : String → String) : List Datum → List Datum
  | [] => []
  | d :: ds => d.mapTexts f :: mapItems f ds

def Datum.mapFields (f : String → String) : List (String × Datum) → List (String × Datum)
  | [] => []
  | (name, d) :: ds => (f name, d.mapTexts f) :: mapFields f ds
end

namespace Demo

/-- Where the folder is. -/
def root : String := "/tmp/demo"

/-- How documents write where the folder is. -/
def rootMark : String := "$ROOT"

/-- A document from outside: the mark is the path of the folder. -/
def entering (d : Datum) : Datum := d.mapTexts fun s => Text.replaceAll s rootMark root

/-- A document for outside: the path of the folder is the mark. -/
def leaving (d : Datum) : Datum := d.mapTexts fun s => Text.replaceAll s root rootMark

/-- The folder with some files; a name that ends in a slash is a folder. -/
def folder (files : List (String × String)) : Files :=
  let start : Files :=
    { tree := FileTree.set (.folder []) (Path.names root) (.folder []), here := root }
  files.foldl (fun f (name, body) =>
    let path := Path.join [root, name]
    if Text.endsWith name "/" then
      { f with tree := FileTree.set (.folder []) (Path.names path) f.tree }
    else f.put path body) start

end Demo

end Trellis
