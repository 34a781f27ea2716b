import FleetToken.Text.Basic

/-!
# Issues

What is wrong with values that do not fit the fields they are given for. Each issue says where the
value stands and what kind of fault it has.

## Main definitions

- `Issue`: a place and an `IssueKind`.
- `Checked`: a value, or all the issues that stand in its way.
-/

namespace FleetToken

/-- The kinds of faults of a value. -/
inductive IssueKind where
  | stringType
  /-- The value is no truth value, nor written like one. -/
  | boolType
  /-- The value is written like a truth value and is none. -/
  | boolParsing
  | listType
  | dictType
  /-- The value is no object of flags or claims. -/
  | modelType
  | datetimeType
  /-- The value stands for no date that is represented. -/
  | datetimeParsing
  /-- The text is neither a date with a time nor a date alone. -/
  | datetimeFromDateParsing
  /-- The text cannot be written in UTF-8. -/
  | stringUnicode
  | intParsing
  /-- The integer has too many digits. -/
  | intParsingSize
  /-- The text is not one of the names allowed. -/
  | notListed
deriving DecidableEq

def IssueKind.word : IssueKind → String
  | .stringType => "string_type"
  | .boolType => "bool_type"
  | .boolParsing => "bool_parsing"
  | .listType => "list_type"
  | .dictType => "dict_type"
  | .modelType => "model_type"
  | .datetimeType => "datetime_type"
  | .datetimeParsing => "datetime_parsing"
  | .datetimeFromDateParsing => "datetime_from_date_parsing"
  | .stringUnicode => "string_unicode"
  | .intParsing => "int_parsing"
  | .intParsingSize => "int_parsing_size"
  | .notListed => "enum"

/-- A step on the way to a value. -/
inductive PathStep where
  | key (name : Text)
  | index (position : Nat)
deriving DecidableEq

/-- A value that does not fit. -/
structure Issue where
  /-- Where the value stands. -/
  path : List PathStep
  /-- What is wrong with it. -/
  kind : IssueKind
deriving DecidableEq

/-- The same issue seen from one step further out. -/
def Issue.under (step : PathStep) (issue : Issue) : Issue :=
  { issue with path := step :: issue.path }

/-- A value, or the issues that stand in its way. Checks are combined so that the issues of all of
them are kept, in order. -/
inductive Checked (α : Type) where
  | ok (value : α)
  | issues (found : List Issue)

namespace Checked

/-- Applies a function to a checked value. -/
def map {α β : Type} (f : α → β) : Checked α → Checked β
  | ok a => ok (f a)
  | issues found => issues found

/-- Applies a checked function to a checked value; the issues of the function come first. -/
def ap {α β : Type} : Checked (α → β) → Checked α → Checked β
  | ok f, ok a => ok (f a)
  | ok _, issues found => issues found
  | issues found, ok _ => issues found
  | issues found, issues more => issues (found ++ more)

instance : Functor Checked where
  map := map

instance : Applicative Checked where
  pure := ok
  seq f x := ap f (x ())

/-- A single issue with the value at hand. -/
def fault {α : Type} (kind : IssueKind) : Checked α :=
  issues [⟨[], kind⟩]

/-- The result of a check made one step further in. -/
def under {α : Type} (step : PathStep) : Checked α → Checked α
  | ok a => ok a
  | issues found => issues (found.map (Issue.under step))

/-- All the checked values, or all the issues in order. -/
def all {α : Type} : List (Checked α) → Checked (List α)
  | [] => ok []
  | c :: cs => List.cons <$> c <*> all cs

/-- The value, or its issues as an error. -/
def toExcept {α : Type} : Checked α → Except (List Issue) α
  | ok a => .ok a
  | issues found => .error found

end Checked

end FleetToken
