/-
The standard decorators.
-/

namespace Trellis

/-- A decorator that every installation may have. -/
inductive StandardDecorator where
  | capitalize | date | default | join | json | lower | markdown | money | number | percent | trim
  | truncate | upper
deriving DecidableEq, Repr

namespace StandardDecorator

def name : StandardDecorator → String
  | .capitalize => "capitalize"
  | .date => "date"
  | .default => "default"
  | .join => "join"
  | .json => "json"
  | .lower => "lower"
  | .markdown => "markdown"
  | .money => "money"
  | .number => "number"
  | .percent => "percent"
  | .trim => "trim"
  | .truncate => "truncate"
  | .upper => "upper"

/-- All of them, in the order of their names. -/
def all : List StandardDecorator :=
  [.capitalize, .date, .default, .join, .json, .lower, .markdown, .money, .number, .percent,
    .trim, .truncate, .upper]

/-- The decorator with a name. -/
def ofName? (name : String) : Option StandardDecorator := all.find? (·.name == name)

/-- The names of all of them. -/
def names : List String := all.map (·.name)

end StandardDecorator

end Trellis
