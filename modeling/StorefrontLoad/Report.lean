import StorefrontLoad.Decimal.Fixed
import StorefrontLoad.Outcome.Summary
import StorefrontLoad.Text.Columns
import StorefrontLoad.Text.Split

/-!
# The report at the end of a run

A ruled table with one row per step. A column is as wide as its widest line, and every cell is
padded on the right; a cell of several lines makes its whole row several lines high.
-/

namespace StorefrontLoad.Report

open Text (joinWith)

/-- The lines of a cell. -/
abbrev Cell := List (List Char)

def cell (text : String) : Cell := Text.splitOn '\n' text.toList

/-- Two decimals, or a dash for what was never measured. -/
def latency : Option Float → String
  | some x => Decimal.fixed 2 x
  | none => "-"

def header : List String :=
  ["step", "attempted", "succeeded", "transport", "parse", "business", "no data", "avg_time_ms",
    "min_time_ms", "max_time_ms"]

def row (name : String) (s : StepSummary) : List String :=
  [name, toString s.attempted, toString s.succeeded, toString s.failedTransport,
    toString s.failedParse, toString s.failedBusiness, toString s.noUsableData,
    latency s.meanLatencyMs, latency s.minLatencyMs, latency s.maxLatencyMs]

def cellWidth (c : Cell) : Nat := (c.map Text.width).foldl max 0

/-- The widths of the columns of a table. -/
def columnWidths (rows : List (List Cell)) : List Nat :=
  rows.foldl (fun widths cells ↦ List.zipWith max widths (cells.map cellWidth))
    (header.map fun _ ↦ 0)

/-- A rule across the table; every column has a blank on each side. -/
def rule (left middle right : Char) (widths : List Nat) : List Char :=
  left :: joinWith middle (widths.map fun w ↦ List.replicate (w + 2) '─') ++ [right]

def padded (width : Nat) (line : List Char) : List Char :=
  ' ' :: line ++ List.replicate (width - Text.width line + 1) ' '

def rowLines (widths : List Nat) (cells : List Cell) : List (List Char) :=
  let height := (cells.map List.length).foldl max 1
  (List.range height).map fun i ↦
    '│' :: joinWith '│' (List.zipWith (fun w c ↦ padded w (c.getD i [])) widths cells) ++ ['│']

def table (rows : List (List Cell)) : List (List Char) :=
  let widths := columnWidths rows
  let between := rule '├' '┼' '┤' widths
  let body := (rows.map (rowLines widths)).intersperse [between]
  rule '┌' '┬' '┐' widths :: body.flatten ++ [rule '└' '┴' '┘' widths]

def render (outcome : OutcomeSummary) : String :=
  let rows := header :: outcome.steps.map fun (name, step) ↦ row name step
  let lines := table (rows.map (·.map cell))
  s!"Summary of {outcome.iterations} iterations\n" ++ String.ofList (joinWith '\n' lines)

/-- What is printed, with an empty line before the report. -/
def printed (outcome : OutcomeSummary) : String := "\n" ++ render outcome ++ "\n"

end StorefrontLoad.Report
