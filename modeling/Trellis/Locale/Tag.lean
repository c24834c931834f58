/-
Language tags: a language, a script, a region, variants, and extensions led by a single letter.

A tag is read subtag by subtag.  Every part is looked up in the registry; the first part that is
not there is reported, unless the text is no tag at all, which counts more.  What is read is
written in one way only: variants and extensions stand in a fixed order, and codes that were
replaced give way to the present ones.
-/
import Trellis.Fault.Basic
import Trellis.Locale.Subtags
import Trellis.Text.Quoted

namespace Trellis.Locale

/-- A language tag; what is not said is empty. -/
structure Tag where
  /-- `und` when it is left open, and empty in a tag that is private throughout -/
  language : String
  script : String := ""
  region : String := ""
  variants : List String := []
  /-- each begins with its letter; all in lower case -/
  extensions : List (List String) := []
deriving DecidableEq, Repr

namespace Tag

/-- The text of a tag. -/
def text (t : Tag) : String :=
  "-".intercalate (([t.language, t.script, t.region].filter (!·.isEmpty)) ++ t.variants ++
    t.extensions.flatten)

/-- Whether a tag leaves its language open. -/
def isOpen (t : Tag) : Bool := t.language.isEmpty || t.language == "und"

/-- The tag of a language alone. -/
def base (t : Tag) : Tag := { language := t.language }

/-- What is wrong with a text that is no tag. -/
inductive Problem where
  | malformed
  /-- a subtag that nobody registered -/
  | unknown (subtag : String)
  /-- a keyword that is given twice, and differently -/
  | divergent
deriving DecidableEq, Repr

/-- The problem as a fault. -/
def Problem.fault : Problem → Fault
  | .malformed => .plain "language: tag is not well-formed"
  | .unknown subtag =>
    .plain ("language: subtag " ++ Text.quote subtag ++ " is well-formed but unknown")
  | .divergent => .plain "language: different values for same key in -u extension"

/-- Of two problems the first is told, unless the second one says that there is no tag. -/
def Problem.before : Option Problem → Option Problem → Option Problem
  | none, q => q
  | some p, q => if q == some .malformed then q else some p

def isLetter (c : Char) : Bool := ('a' ≤ c && c ≤ 'z') || ('A' ≤ c && c ≤ 'Z')

def isDigit (c : Char) : Bool := '0' ≤ c && c ≤ '9'

def areLetters (s : String) : Bool := s.toList.all isLetter

/-- Whether a subtag begins with a letter. -/
def isWordy (s : String) : Bool := s.toList.head?.any isLetter

/-- A subtag with a capital first letter. -/
def titled (s : String) : String :=
  match s.toLower.toList with
  | c :: cs => String.ofList (c.toUpper :: cs)
  | [] => ""

/-- The beginning of a subtag, by which it is sorted. -/
def start (n : Nat) (s : String) : String := String.ofList (s.toList.take n)

/-! ## Parts -/

/-- The language that a subtag stands for. -/
def language? (s : String) : Except Problem String :=
  let code := s.toLower
  if !areLetters s then .error .malformed
  else if languages2.contains code then .ok code
  else match meaning? overlong code with
    | some short => .ok short
    | none => if isLanguage3 code then .ok code else .error (.unknown code)

/-- The script that a subtag stands for. -/
def script? (s : String) : Except Problem String :=
  if !areLetters s then .error .malformed
  else if scripts.contains (titled s) then .ok (titled s)
  else .error (.unknown (titled s))

/-- The region that a subtag stands for: two letters or a number of three digits. -/
def region? (s : String) : Except Problem String :=
  if s.length == 2 && areLetters s then
    if regions.contains s.toUpper then .ok s.toUpper else .error (.unknown s.toUpper)
  else if s.length == 3 && s.toList.all isDigit then
    if regionGroups.contains s then .ok s
    else match meaning? numberedRegions s with
      | some code => .ok code
      | none => .error (.unknown "")
  else .error .malformed

/-- Variants in their order, each once. -/
def ordered (vs : List String) : List String :=
  Text.dedup (vs.mergeSort fun a b => knownVariants.idxOf a ≤ knownVariants.idxOf b)

/-- What is read of a tag: the tag so far, and the subtags that are left. -/
structure Reading where
  tag : Tag
  /-- further languages, as they were written -/
  beside : List String := []
  rest : List String
  problem : Option Problem := none

namespace Reading

/-- Notes a problem. -/
def noting (r : Reading) (p : Problem) : Reading :=
  { r with problem := Problem.before r.problem (some p) }

/-- Takes what a subtag stands for, or notes why it stands for nothing. -/
def use (r : Reading) (part : Except Problem String) (put : Tag → String → Tag) : Reading :=
  match part with
  | .ok s => { r with tag := put r.tag s }
  | .error p => r.noting p

/-- Takes the subtags of three letters after a language: each is a language that counts instead. -/
def narrowed (r : Reading) : List String → Reading
  | s :: rest =>
    if s.length == 3 && isWordy s then
      let r := r.use (language? s) fun t l => if l == "und" then t else { t with language := l }
      narrowed { r with beside := r.beside ++ [s.toLower] } rest
    else { r with rest := s :: rest }
  | [] => { r with rest := [] }

/-- Takes a script. -/
def scripted (r : Reading) : Reading :=
  match r.rest with
  | s :: rest =>
    if s.length == 4 && isWordy s then
      { r.use (script? s) fun t v => { t with script := v } with rest }
    else r
  | [] => r

/-- Takes a region. -/
def regional (r : Reading) : Reading :=
  match r.rest with
  | s :: rest =>
    if s.length == 2 || s.length == 3 then
      { r.use (region? s) fun t v => { t with region := v } with rest }
    else r
  | [] => r

/-- Takes variants. -/
def varied (r : Reading) : List String → Reading
  | s :: rest =>
    if s.length ≥ 4 then
      let v := s.toLower
      if knownVariants.contains v then
        varied { r with tag := { r.tag with variants := r.tag.variants ++ [v] } } rest
      else varied (r.noting (.unknown v)) rest
    else { r with rest := s :: rest }
  | [] => { r with rest := [] }

end Reading

/-- Reads language, script, region and variants.  With `beside`, further languages do not count
instead of the first. -/
def readParts (beside : Bool) (first : String) (rest : List String) : Reading :=
  let r := ({ tag := { language := "und" }, rest } : Reading).use (language? first)
    fun t l => { t with language := l }
  let n := r.narrowed rest
  let r := if beside then { r with beside := n.beside, rest := n.rest } else n
  let r := r.scripted.regional
  let r := r.varied r.rest
  { r with tag := { r.tag with variants := ordered r.tag.variants } }

/-! ## Extensions -/

/-- Subtags in groups, each led by a subtag of some length; what stands before the first is left
apart. -/
def groups (n : Nat) (subtags : List String) : List String × List (List String) :=
  subtags.foldr (fun s (pending, gs) =>
    if s.length == n then ([], (s :: pending) :: gs) else (s :: pending, gs)) ([], [])

/-- Keywords that are sorted by key, each key once. -/
def distinct : List (List String) → List (List String) × Option Problem
  | k :: l :: more =>
    let (rest, problem) := distinct (l :: more)
    if k.head? == l.head? then
      (k :: rest.drop 1, if k == l then problem else some .divergent)
    else (k :: rest, problem)
  | ks => (ks, none)

/-- The extension `u`: attributes, then keywords of two letters with values. -/
def keywords (body : List String) : List String × Option Problem :=
  let (attributes, ks) := groups 2 body
  let attributes := attributes.mergeSort fun a b => Text.textLe (start 3 a) (start 3 b)
  let (ks, problem) := distinct (ks.mergeSort fun a b => Text.textLe (a.headD "") (b.headD ""))
  ("u" :: attributes ++ ks.flatten, problem)

/-- The fields of an extension `t`: a letter and a digit, then values; and what is left. -/
def fields : List String → Bool → List String × List String
  | s :: rest, inside =>
    if s.length == 2 && !(s.toList.getLast?.any isLetter) || inside && s.length ≥ 3 then
      let (taken, left) := fields rest true
      (s :: taken, left)
    else ([], s :: rest)
  | [], _ => ([], [])

/-- The extension `t`: the tag that something was made from, and fields; and what is left. -/
def transformed (body : List String) : List String × List String × Option Problem :=
  match body with
  | first :: rest =>
    if (first.length == 2 || first.length == 3) && (first.toList.drop 1).head?.any isLetter then
      let r := readParts true first rest
      let t := r.tag
      let (taken, left) := fields r.rest false
      ("t" :: ([t.language] ++ r.beside ++ ([t.script, t.region].filter (!·.isEmpty)).map
        String.toLower
        ++ t.variants ++ taken), left, r.problem)
    else
      let (taken, left) := fields body false
      ("t" :: taken, left, none)
  | [] => (["t"], [], none)

/-- Reads extensions one after the other; what an extension `t` leaves ends the tag. -/
def readExtensions : List (List String) → List (List String) × Option Problem
  | [] => ([], none)
  | g :: more =>
    let (e, left, problem) := match g with
      | "u" :: body => let (e, problem) := keywords body; (e, [], problem)
      | "t" :: body => transformed body
      | g => (g, [], none)
    let problem := if e.length < 2 then some .malformed else problem
    if left.isEmpty then
      let (es, further) := readExtensions more
      (e :: es, Problem.before problem further)
    else ([e], problem)

/-- The extensions of a tag by letter, what is private last. -/
def extensionsOf (subtags : List String) : List (List String) × Option Problem :=
  let (public_, private_) := subtags.span (· != "x")
  let (es, problem) := readExtensions (groups 1 public_).2
  let es := es.mergeSort fun a b => Text.textLe (a.headD "") (b.headD "")
  match private_ with
  | [] => (es, problem)
  | ["x"] => (es, some .malformed)
  | _ => (es ++ [private_], problem)

/-! ## Tags -/

/-- A tag without codes that were replaced. -/
def canonical (t : Tag) : Tag :=
  let t := match meaning? replacedLanguages t.language with
    | some l => { t with
        language := l, region := if t.language == "mo" && t.region.isEmpty then "MD" else t.region }
    | none => t
  let t := match meaning? outgrownLanguages t.language with
    | some l => { t with
        language := l, script := if t.language == "sh" && t.script.isEmpty then "Latn"
          else t.script }
    | none => t
  { t with
    script := if t.script == "Qaai" then "Zinh" else t.script
    region := (meaning? replacedRegions t.region).getD t.region }

/-- A tag whose language is the wider one that it is the main form of. -/
def widened (t : Tag) : Tag :=
  { t with language := (meaning? widerLanguages t.language).getD t.language }

/-- Whether a subtag has the form of one. -/
def isSubtag (s : String) : Bool :=
  !s.isEmpty && s.length ≤ 8 && s.toList.all fun c => isLetter c || isDigit c

/-- Reads a tag from its subtags. -/
def ofSubtags (subtags : List String) : Except Problem Tag :=
  if !subtags.all isSubtag then .error .malformed
  else match subtags with
    | [] => .error .malformed
    | first :: rest =>
      if first.toLower == "x" && !rest.isEmpty then
        .ok { language := "", extensions := [subtags.map String.toLower] }
      else if first.length < 2 || first.length > 3 then .error .malformed
      else
        let r := readParts false first rest
        let (extensions, problem) := match r.rest with
          | [] => ([], none)
          | s :: more =>
            if s.length == 1 then extensionsOf ((s :: more).map String.toLower)
            else ([], some .malformed)
        match Problem.before r.problem problem with
        | some p => .error p
        | none => .ok { r.tag with extensions }

/-- A text by which a tag is read: subtags are divided by hyphens or underscores. -/
def hyphened (s : String) : String := s.map fun c => if c == '_' then '-' else c

/-- Reads a tag. -/
def parse (s : String) : Except Problem Tag := do
  let s := hyphened s
  let t ← ofSubtags (Text.splitOnChar ((meaning? wholeTags s.toLower).getD s) '-')
  return t.canonical

/-- The value of a keyword of the extension `u`. -/
def keyword? (t : Tag) (key : String) : Option String :=
  (t.extensions.find? (·.head? == some "u")).bind fun e =>
    ((groups 2 (e.drop 1)).2.find? (·.head? == some key)).map fun k => "-".intercalate (k.drop 1)

end Tag

end Trellis.Locale
