/-
# FlawQuery.Report.Basic -- results in three formats

A report has a text of its own for people, and rows of named cells for the two formats that programs
read. In JSON the cells keep the order of the row.
-/

import FlawQuery.Json.Value
import FlawQuery.Report.Toon

namespace FlawQuery

/-- The formats of a result. -/
inductive OutputFormat where
  | table
  | json
  | toon
  deriving DecidableEq, Repr

namespace OutputFormat

/-- The name by which the format is asked for. -/
def name : OutputFormat → String
  | table => "table"
  | json => "json"
  | toon => "toon"

/-- The format with the given name. -/
def ofName? (s : String) : Option OutputFormat :=
  [table, json, toon].find? (·.name = s)

end OutputFormat

/-- A result in its readable form and as rows. -/
structure Report where
  table : String
  rows : List Row

namespace Report

/-- A cell as a JSON value. -/
def cellValue : Cell → Json.Value
  | .text s => .text s
  | .number n => .integer n
  | .flag b => .boolean b

/-- The rows as JSON text. -/
def json (r : Report) : String :=
  let record (row : Row) : Json.Value := .record (row.map fun (key, cell) => (key, cellValue cell))
  (Json.Value.record [("patterns", .list (r.rows.map record))]).pretty

/-- The result in a format. -/
def render (r : Report) : OutputFormat → String
  | .table => r.table
  | .json => r.json
  | .toon => Toon.table "patterns" r.rows

end Report

end FlawQuery
