/-!
# TOML values

A settings file holds tables of values. Of numbers with a fraction and of dates only the kind is
kept, since no setting is one. A table knows how it came about, because that decides whether later
parts of the file may add to it.
-/

set_option autoImplicit false

namespace SqlLint.Toml

/-- How a table came about. -/
inductive Origin
  /-- It was named on the way to another table. -/
  | implicit
  /-- A header opened it. -/
  | header
  /-- A dotted key opened it. -/
  | dotted
  /-- It was written as a value. -/
  | inline
deriving DecidableEq

inductive Value
  | string (text : String)
  | integer (value : Int)
  | boolean (value : Bool)
  /-- A number with a fraction or an exponent, an infinity, or no number. -/
  | float
  /-- A date, a time of day, or both. -/
  | moment
  /-- A list of values, or the tables that headers with double brackets opened. -/
  | array (ofTables : Bool) (elements : List Value)
  | table (origin : Origin) (entries : List (String × Value))

/-- The keys of a table with their values, in the order in which they came about. -/
abbrev Entries := List (String × Value)

end SqlLint.Toml
