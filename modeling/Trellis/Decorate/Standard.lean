/-
What the standard decorators do with a value and their arguments.
-/
import Trellis.Decorate.Names
import Trellis.Locale.Numbers
import Trellis.Locale.Dates
import Trellis.Locale.DateText
import Trellis.Markdown.Html
import Trellis.Text.Case
import Trellis.Value.Each
import Trellis.Value.Json

namespace Trellis

namespace Formats

/-- The formats of a locale and a currency; when they are not given, those of the United States. -/
def ofNames (locale currency : String) (zone : Locale.Zone) : Except Fault Formats := do
  let locale := if locale.isEmpty then "en-US" else locale
  let currency := if currency.isEmpty then "USD" else currency
  let tag ← match Locale.Tag.parse locale with
    | .ok tag => pure tag
    | .error p => throw ((Fault.make .invalidLocale [("Locale", locale)]).because p.fault)
  let unit ← match Locale.Currency.parse currency with
    | .ok unit => pure unit
    | .error f => throw ((Fault.make .unknownCurrency [("Code", currency)]).because f)
  return { tag, dates := .ofTag locale, currency := unit, zone }

end Formats

namespace StandardDecorator

/-- A value with its first letter in upper case. -/
def capitalized (s : String) : String :=
  match s.toList with
  | c :: cs => String.ofList (Text.upperChar c :: cs)
  | [] => ""

/-- The first `n` characters with something after them, when there are more. -/
def truncated (s : String) (n : Int) (suffix : String) : String :=
  if n < 0 || s.length ≤ n.toNat then s else (s.take n.toNat).toString ++ suffix

/-- The whole number that an argument is cut to. -/
def wholeArgument (v : Value) : Int := WholeKind.int.ofFloat v.toNumber

/-- The point in time that a value stands for: text is read as a date, a number counts seconds. -/
def moment (m : Machine) (f : Formats) (v : Value) : Run Moment :=
  match v with
  | .instant t | .instantRef t _ => return t.moment
  | .text s =>
    match Locale.DateText.parse (!f.dates.dayFirst) f.zone (Text.trim s) with
    | .ok t => return t
    | .error e => throw (Fault.about "date" e)
  | v =>
    let x := v.toNumber
    if x.isNaN then throw (.plain ("date: cannot use " ++ v.typeName m.host ++ " as a date"))
    else return ⟨WholeKind.int64.ofFloat x, 0⟩

/-- Whether there is nothing to format. -/
def isVoid : Value → Bool
  | .text s => s.isEmpty
  | v => v.isNullish

/-- A number with the decimals that are asked for, otherwise with up to three. -/
def numberText (f : Formats) (v : Value) (digits : Option Value) : String :=
  let format := Locale.NumberFormat.ofTag f.tag
  match digits with
  | none => format.text 0 3 v.toNumber
  | some d =>
    let n := (wholeArgument d).toNat
    format.text n n v.toNumber

/-- An amount of money, in the currency that is asked for. -/
def moneyText (m : Machine) (f : Formats) (v : Value) (code : Option Value) : Run String := do
  let unit ← match code with
    | none => pure f.currency
    | some code => do
      let code ← code.toText m
      match Locale.Currency.parse code with
      | .ok unit => pure unit
      | .error _ => throw (.plain ("money: unknown currency " ++ Text.quote code))
  return unit.text f.tag v.toNumber

/-- What a decorator makes of a value, its first argument, and further arguments. -/
def apply (m : Machine) (f : Formats) (d : StandardDecorator) (args : List Value) : Run Value := do
  let v := args.headD .undefined
  let text := fun (change : String → String) => do return Value.text (change (← v.toText m))
  match d with
  | .trim => text Text.trim
  | .upper => text Text.upper
  | .lower => text Text.lower
  | .capitalize => text capitalized
  | .default => return if isVoid v then args.getD 1 .undefined else v
  | .truncate => do
    let s ← v.toText m
    let suffix ← match args[2]? with
      | some a => a.toText m
      | none => pure "…"
    return .text (truncated s (wholeArgument (args.getD 1 .undefined)) suffix)
  | .join => do
    let divider ← match args[1]? with
      | some a => a.toText m
      | none => pure ", "
    let parts ← v.walk m [] fun acc _ e => do return ((← e.toText m) :: acc, true)
    return .text (divider.intercalate parts.reverse)
  | .json =>
    if v.isUndefined then return .text ""
    else tryCatch (do return .text (← v.jsonText m.host)) fun e => throw (Fault.about "json" e)
  | .number => return .text (if v.isNullish then "" else numberText f v args[1]?)
  | .percent =>
    return .text (if v.isNullish then "" else (Locale.NumberFormat.ofTag f.tag).percentText
      v.toNumber)
  | .money => if v.isNullish then return .text "" else return .text (← moneyText m f v args[1]?)
  | .date =>
    if isVoid v then return .text ""
    else do
      let t ← moment m f v
      let style ← match args[1]? with
        | some a => a.toText m
        | none => pure "medium"
      return .text (f.dates.format style (f.zone.tell t))
  | .markdown => do return .raw (Text.trim (Markdown.html (← v.toText m)))

/-- The decorator with a name, on a machine. -/
def find? (m : Machine) (formats : Formats) (name : String) : Option (List Value → Run Value) :=
  (ofName? name).map fun d => d.apply m formats

end StandardDecorator

end Trellis
