/-
Matching of language tags: which of the tags that are there serves best when one is wanted.

The tags that are there are put on shelves by language.  A tag also stands on the shelves of the
languages whose speakers understand its own, with less confidence.  On the shelf of the wanted
language the candidates are compared by confidence, then by how much of the wanted tag they say
themselves, then by how near their regions are.
-/
import Trellis.Locale.Likely

namespace Trellis.Locale

/-- How well a tag serves for another one. -/
inductive Confidence where
  | low
  | high
  | exact
deriving DecidableEq, Repr

namespace Confidence

/-- A number for a confidence, the better the larger. -/
def rank : Confidence → Nat
  | .low => 1
  | .high => 2
  | .exact => 3

/-- The lower of two confidences. -/
def least (a b : Confidence) : Confidence := if a.rank ≤ b.rank then a else b

end Confidence

/-! ## What is understood -/

/-- Languages of which each is understood by those who speak the other. -/
def kindred : List (String × String) := pairs
  "hr-bs sh-bs sh-hr sh-sr ssy-aa da-no da-nb nn-nb nn-no"

/-- Languages whose speakers understand another one. -/
def understood : List (String × String) := pairs
  "gsw-de lb-de ab-ru ach-en af-nl ak-en ay-es be-ru bem-en bh-hi br-fr ceb-fil chr-en ckb-ar co-fr
   crs-fr cy-en ee-en eo-en eu-es fo-da fy-nl ga-en gaa-en gd-en gl-es gn-es gu-hi ha-en haw-en
   ht-fr ia-en ig-en is-en jv-id kg-fr kk-ru kri-en ku-tr ky-ru la-it lg-en ln-fr loz-en lua-fr
   mfe-en mg-fr mi-en mn-ru mr-hi ms-id mt-en nso-en ny-en nyn-en oc-fr om-en pcm-en qu-es rm-de
   rn-en rw-fr sa-hi sn-en so-en sq-en st-en su-id sw-en tg-ru tlh-en tn-en to-en tt-ru tum-en ug-zh
   wo-fr xh-en yo-en za-zh zu-en"

/-- Scripts that are read where another one is wanted: the two languages, the wanted script and the
one that is there. -/
def readable : List (String × String × String × String) := [
  ("sr", "sr", "Latn", "Cyrl"), ("sr", "sr", "Cyrl", "Latn"), ("az", "ru", "Latn", "Cyrl"),
  ("bn", "en", "Beng", "Latn"), ("hy", "ru", "Armn", "Cyrl"), ("ka", "en", "Geor", "Latn"),
  ("km", "en", "Khmr", "Latn"), ("kn", "en", "Knda", "Latn"), ("lo", "en", "Laoo", "Latn"),
  ("ml", "en", "Mlym", "Latn"), ("my", "en", "Mymr", "Latn"), ("ne", "en", "Deva", "Latn"),
  ("or", "en", "Orya", "Latn"), ("pa", "en", "Guru", "Latn"), ("ps", "en", "Arab", "Latn"),
  ("sd", "en", "Arab", "Latn"), ("si", "en", "Sinh", "Latn"), ("ta", "en", "Taml", "Latn"),
  ("te", "en", "Telu", "Latn"), ("ti", "en", "Ethi", "Latn"), ("tk", "ru", "Latn", "Cyrl"),
  ("ur", "en", "Arab", "Latn"), ("uz", "ru", "Latn", "Cyrl"), ("yi", "en", "Hebr", "Latn"),
  ("zh", "zh", "Hans", "Hant"), ("zh", "zh", "Hant", "Hans")]

/-- The script for which another one can be read in a language. -/
def readableFor (language script : String) : String :=
  ((readable.find? fun (want, there, _, s) => (want == language || there == language) &&
    s == script).map
    (·.2.2.1)).getD ""

/-! ## Shelves -/

/-- A tag that is there. -/
structure Candidate where
  tag : Tag
  confidence : Confidence := .exact
  /-- its likely script -/
  script : String
  /-- its likely region -/
  region : String
  /-- the script in place of which its own can be read -/
  readFor : String
deriving DecidableEq, Repr

/-- What a tag says beside script and region. -/
def Tag.particulars (t : Tag) : List String :=
  t.variants ++ (if t.language.isEmpty then t.extensions.flatten else [])

/-- Whether two tags differ at most in their language and extensions. -/
def Tag.sameRest (a b : Tag) : Bool :=
  a.script == b.script && a.region == b.region && a.particulars == b.particulars

namespace Candidate

/-- A tag as a candidate, and the language that it stands for. -/
def ofTag (t : Tag) : Candidate × String :=
  let full := if t.isOpen && t.script.isEmpty && t.region.isEmpty then t
    else t.canonical.widened.full
  ({ tag := t, script := full.script, region := full.region
     readFor := readableFor full.language full.script }, full.language)

/-- Whether two candidates stand for the same script and region, and say the same beside. -/
def alike (a b : Candidate) : Bool :=
  a.script == b.script && a.region == b.region && a.tag.particulars == b.tag.particulars

end Candidate

/-- The candidates for a language. -/
structure Shelf where
  candidates : List Candidate := []
  /-- whether it holds tags of the language itself -/
  own : Bool := false

/-- Shelves by language. -/
abbrev Shelves := List (String × Shelf)

namespace Shelves

/-- The name of the shelf for a tag. -/
def name (t : Tag) : String := if t.isOpen then "und" else t.language

/-- The shelf of a language. -/
def shelf? (s : Shelves) (language : String) : Option Shelf :=
  (s.find? (·.1 == language)).map (·.2)

/-- Puts a candidate on the shelf of a language, unless one of the same kind is there. -/
def put (s : Shelves) (language : String) (c : Candidate) (own : Bool) : Shelves :=
  let old := (s.shelf? language).getD {}
  let candidates :=
    if old.candidates.any (·.tag.sameRest c.tag) then old.candidates else old.candidates ++ [c]
  let new : Shelf := { candidates, own := old.own || own }
  if (s.shelf? language).isSome then s.map fun e => if e.1 == language then (language, new) else e
  else s ++ [(language, new)]

/-- Puts the candidates for one language on the shelf of another one. -/
def share (s : Shelves) (want there : String) (confidence : Confidence) : Shelves :=
  match s.shelf? there with
  | none => s
  | some shelf =>
    if !shelf.own then s
    else shelf.candidates.foldl (fun (s : Shelves) c =>
      s.put want { c with
        confidence := c.confidence.least confidence
        readFor := if c.readFor.isEmpty then "" else readableFor want c.script }
        (confidence == .exact)) s

/-- Shares what a language and the one that it is replaced by hold. -/
def shareReplaced (s : Shelves) (replaced : List (String × String)) : Shelves :=
  replaced.foldl (fun (s : Shelves) (old, new) =>
    let confidence := if old == "sh" || old == "mo" then .high else .exact
    (s.share new old confidence).share old new confidence) s

/-- The shelves with the tags that are there. -/
def ofTags (tags : List Tag) : Shelves :=
  let s : Shelves := tags.foldl (fun (s : Shelves) t => s.put (name t) (Candidate.ofTag t).1 true)
    []
  let s := tags.foldl (fun (s : Shelves) t =>
    let (c, language) := Candidate.ofTag t
    if language == t.language || t.isOpen && language.isEmpty then s else s.put language c true) s
  let s := kindred.foldl (fun (s : Shelves) (a, b) => (s.share a b .high).share b a .high) s
  let s := understood.foldl (fun (s : Shelves) (a, b) => s.share a b .high) s
  let s := shareReplaced s (replacedLanguages ++ outgrownLanguages)
  widerLanguages.foldl (fun (s : Shelves) (a, b) => s.share a b .exact) s

end Shelves

/-! ## Comparison -/

/-- Whether a region belongs to the group by which a language is told apart, if there is such a
group. -/
def inGroup? (language script region : String) : Option Bool :=
  match language with
  | "ar" => some (["MA", "DZ", "TN", "LY", "MR", "EH"].contains region)
  | "en" => some (["AS", "GU", "MH", "MP", "PR", "UM", "US", "VI"].contains region)
  | "es" | "pt" => some (holds groupDepth "019" region)
  | "zh" => if script == "Hant" then some (["HK", "MO"].contains region) else none
  | _ => none

/-- Whether two regions are on the same side of the group of a language. -/
def near (language script a b : String) : Bool :=
  inGroup? language script a == inGroup? language script b

/-- Whether a region is one of the two after which a language is usually written. -/
def isModel (language region : String) : Bool :=
  match language with
  | "en" => region == "US" || region == "GB"
  | "es" => region == "ES" || region == "419"
  | "pt" => region == "BR" || region == "PT"
  | _ => false

/-- The choice among candidates so far. -/
structure Choice where
  candidate : Candidate
  confidence : Confidence
  /-- how good it is, compared place by place -/
  score : List Nat
  /-- whether its region is near the wanted one -/
  near : Bool

/-- What is wanted: the tag, with the likely region, and the likely script. -/
structure Wanted where
  tag : Tag
  script : String
  region : String

namespace Wanted

/-- How well a candidate serves. -/
def confidence? (w : Wanted) (c : Candidate) : Option Confidence :=
  if c.tag.sameRest w.tag then some c.confidence
  else if c.script != w.script then if c.readFor == w.script then some .low else none
  else if c.region != w.region then some (c.confidence.least .high)
  else some c.confidence

/-- Compares a candidate with the choice so far. -/
def weigh (w : Wanted) (best : Option Choice) (c : Candidate) : Option Choice :=
  let flag := fun (b : Bool) => if b then 1 else 0
  match w.confidence? c with
  | none => best
  | some confidence =>
    let close := near w.tag.language w.script c.region w.region
    let score := [confidence.rank, flag (c.tag.language == w.tag.language && !w.tag.isOpen),
      flag (c.tag.region == w.tag.region && !w.tag.region.isEmpty), flag close,
      flag (isModel w.tag.language c.region),
      flag (c.tag.script == w.tag.script && !w.tag.script.isEmpty)]
    let new : Choice := { candidate := c, confidence, score, near := close }
    match best with
    | none => some new
    | some b =>
      if b.near && !near w.tag.language c.script w.region c.region then best
      else if b.score < score then some new
      else best

/-- The best of the candidates.  The first exact one is only compared with those that are like
it. -/
def choose (w : Wanted) (best : Option Choice) : List Candidate → Option Choice
  | [] => best
  | c :: more =>
    let best := w.weigh best c
    if best.any (·.confidence == .exact) then (more.filter c.alike).foldl w.weigh best
    else choose w best more

end Wanted

namespace Tag

/-- The best of the tags that are there for one that is wanted. -/
def best? (want : Tag) (tags : List Tag) : Option Tag :=
  let shelves := Shelves.ofTags tags
  if want.isOpen then
    let same := ((shelves.shelf? "und").map (·.candidates)).getD [] |>.find? (·.tag.sameRest want)
    match same with
    | some c => some c.tag
    | none =>
      if want.script.isEmpty && want.region.isEmpty then none
      else
        let full := want.full
        (shelves.shelf? full.language).bind fun shelf =>
          ((Wanted.mk want full.script full.region).choose none shelf.candidates).map
            (·.candidate.tag)
  else
    let full := want.canonical.widened.full
    (shelves.shelf? want.language).bind fun shelf =>
      ((Wanted.mk { want with region := full.region } full.script full.region).choose none
        shelf.candidates).map (·.candidate.tag)

end Tag

end Trellis.Locale
