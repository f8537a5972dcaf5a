import WorkflowAudit.Json.Reader
import WorkflowAudit.Session.Basic

/-! # Bundles of texts

Several workflows kept in one text, each followed by a marker line, and several JSON values kept in
one file, each followed by a semicolon; and the lines of a file that contain a text.
-/

namespace WorkflowAudit.Bundle

/-- The line that ends a workflow. -/
def endMarker : List Char := "___WORKFLOW END___\n".toList

/-- The markers found in a text, from left to right. -/
def foundMarkers (text : List Char) : List (List Char) :=
  (Text.offsets endMarker text).map fun _ => endMarker

/-- The position at which a text is found in another one, `-1` when it is not. -/
def find (needle text : List Char) : Int :=
  ((Text.indexOf? needle text).map Int.ofNat).getD (-1)

/-- For each of some markers found in a text, where it is found and where the next one is; the last
one has none behind it, which `-1` says. -/
def pairsOf (text : List Char) : (found : List (List Char)) → List (Int × Int)
  | [] => []
  | [last] => [(find last text, -1)]
  | marker :: next :: rest => (find marker text, find next text) :: pairsOf text (next :: rest)

/-- The pairs of positions for the markers of a text. -/
def markerPairs (text : List Char) : List (Int × Int) :=
  pairsOf text (foundMarkers text)

/-- Says which markers a text has, and gives the pairs of their positions. -/
def separate (text : Value) : Audit (List (Int × Int)) := do
  match text with
  | .text s =>
    Audit.say (Value.plainList ((foundMarkers s.toList).map .ofChars)).displayed
    return markerPairs s.toList
  | other => throw (.notSearchable other.typeName)

/-- The numbers, from `number` on, of the lines that contain a text. -/
def linesWithFrom (needle : List Char) : (number : Nat) → List (List Char) → List Nat
  | _, [] => []
  | number, line :: rest =>
    if Text.occursIn needle line then number :: linesWithFrom needle (number + 1) rest
    else linesWithFrom needle (number + 1) rest

/-- The numbers of the lines of a file that contain a text. -/
def linesWith (path needle : Value) : Audit (List Nat) := do
  let lines := Text.linesKeepingEnds (← Audit.readTextOf path)
  match needle with
  | .text s => return linesWithFrom s.toList 1 lines
  | other => if lines.isEmpty then return [] else throw (.searchedFor other.typeName)

/-- The JSON values of a text, each of which a semicolon ends; what stands behind the last one is
left out. -/
def valuesOf (text : List Char) : Except Failure (List Value) :=
  (Text.pieces ';' text).dropLast.mapM Json.read

/-- The file of values that is read by default. -/
def defaultFile : String := "SWA.dat"

/-- Reads the default file of values. -/
def readDefault : Audit (List Value) := do
  Audit.check (valuesOf (← Audit.readText defaultFile))

end WorkflowAudit.Bundle
