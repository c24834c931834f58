/-
Catalogs: the dictionaries of several locales, as they are found in a folder.

A dictionary is a map of texts to translations; a map inside it holds the translations within a
context.
-/
import Trellis.Files
import Trellis.Locale.Match
import Trellis.Locale.Message
import Trellis.Yaml.Decode
import Trellis.Yaml.Writer

namespace Trellis

namespace Dictionary

/-- The translations within a context. -/
def ofContext (context : String) (entries : List (String × Yaml.Value)) :
    Except Fault Dictionary :=
  entries.mapM fun (text, v) =>
    match v with
    | .text s => .ok (key text context, s)
    | v => .error (.plain (context ++ "." ++ text ++ ": expected a string, got " ++ v.typeName))

/-- The translations that an entry holds. -/
def ofEntry (entry : String × Yaml.Value) : Except Fault Dictionary :=
  match entry.2 with
  | .text s => .ok [(entry.1, s)]
  | .map more => ofContext entry.1 more
  | .null => .ok []
  | v => .error (.plain (entry.1 ++ ": expected a string or a map, got " ++ v.typeName))

/-- Reads a dictionary. -/
def parse (s : String) : Except Fault Dictionary := do
  return ((← (← Yaml.parseMap s).mapM ofEntry)).flatten

/-- A dictionary with more translations, which count before those that it had. -/
def add (d more : Dictionary) : Dictionary :=
  d.filter (fun e => !more.any (·.1 == e.1)) ++ more

/-- Adds a key to an outline: texts without a context stand for themselves, others in the map of
their context. -/
def outlineWith (fields : List (String × Yaml.Draft)) (text context : String) :
    List (String × Yaml.Draft) :=
  let put := fun (name : String) (d : Yaml.Draft) => fields.filter (·.1 != name) ++ [(name, d)]
  if context.isEmpty then put text (.text text)
  else
    let group := match fields.find? (·.1 == context) with
      | some (_, .map entries) => entries
      | _ => []
    put context (.map (group.filter (·.1 != text) ++ [(text, .text text)]))

/-- The outline of a dictionary for keys, each a text and its context. -/
def outline (keys : List (String × String)) : String :=
  (Yaml.Draft.map (keys.foldl (fun fields k => outlineWith fields k.1 k.2) [])).write

end Dictionary

namespace Locale

/-- Dictionaries by locale, in the order in which the locales were added. -/
abbrev Catalog := List (Tag × Dictionary)

namespace Catalog

/-- Adds translations to a locale. -/
def add (c : Catalog) (tag : Tag) (d : Dictionary) : Catalog :=
  if c.any (·.1 == tag) then c.map fun e => if e.1 == tag then (tag, e.2.add d) else e
  else c ++ [(tag, d)]

/-- The dictionary of a locale. -/
def dictionary (c : Catalog) (tag : Tag) : Dictionary :=
  ((c.find? (·.1 == tag)).map (·.2)).getD []

/-- The fault of a dictionary that cannot be loaded. -/
def unreadable (path : String) (cause : Fault) : Fault :=
  (Fault.make .unreadableDictionary [("Path", path)]).because cause

/-- Adds the dictionary in a file, whose name says its locale. -/
def loadFile (c : Catalog) (path name ending body : String) : Except Fault Catalog := do
  let because := unreadable path
  let tag ← (Tag.parse (Text.dropBack name ending)).mapError fun p => because p.fault
  let d ← (Dictionary.parse body).mapError because
  return c.add tag (← d.shown.mapError because)

/-- Adds all dictionaries in a folder. -/
def loadFolder (c : Catalog) (files : Files) (folder : String) : Except Fault Catalog := do
  let entries ← (files.entries folder).mapError (unreadable folder)
  entries.foldlM (fun c (name, t) =>
    let ending := Path.ending name
    match t with
    | .file body =>
      if ending == ".yaml" || ending == ".yml" then
        loadFile c (Path.join [folder, name]) name ending body
      else .ok c
    | .folder _ => .ok c) c

/-- The locales that are there, in order. -/
def locales (c : Catalog) : List String := Text.sortTexts (c.map (·.1.text))

/-- The locale that serves another one best, and its dictionary. -/
def serve (c : Catalog) (locale : String) : Except Fault (Tag × Dictionary) := do
  let tag ← (Tag.parse locale).mapError fun p =>
    (Fault.make .invalidLocale [("Locale", locale)]).because p.fault
  let best := (tag.best? (c.map (·.1))).getD tag
  return (best, c.dictionary best)

end Catalog

end Locale

end Trellis
