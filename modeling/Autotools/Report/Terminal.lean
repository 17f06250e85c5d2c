import Autotools.Report.Finding
import Autotools.Text.Blank
import Autotools.Text.Width

/-! Findings drawn for a terminal: a message, then the lines of the source it is about, with a mark
under the place and a label at the mark. The bounds of a finding are taken as numbers of characters,
and the lines are those of running text, so that a form feed ends one too. -/

namespace Autotools.Terminal

/-- A color of a terminal. -/
inductive Shade where
  | red
  | yellow
  | indexed (n : Nat)
deriving DecidableEq, Inhabited, Repr

/-- The parameters that select a color. -/
def Shade.code : Shade → String
  | .red => "31"
  | .yellow => "33"
  | .indexed n => "38;5;" ++ toString n

/-- The color of margins, of the margins of rows without source, and of unmarked source. -/
def marginShade : Shade := .indexed 246
def gapShade : Shade := .indexed 240
def sourceShade : Shade := .indexed 249

/-- A text in a color, if colors are wanted. -/
def paint (color : Bool) (shade : Shade) (s : String) : String :=
  if color then "\x1b[" ++ shade.code ++ "m" ++ s ++ "\x1b[0m" else s

/-- A text several times over. -/
def times (n : Nat) (s : String) : String := String.join (List.replicate n s)

/-- The characters that end a line of running text. -/
def isLineEnd (c : Char) : Bool :=
  c == '\n' || c == '\r' || c == '\x0b' || c == '\x0c' || c == '\u0085' || c == '\u2028' ||
    c == '\u2029'

/-- The lines of a text, each with its line end. A carriage return and a newline end one line
together. -/
def splitLines : List Char → List (List Char)
  | [] => []
  | '\r' :: '\n' :: rest => ['\r', '\n'] :: splitLines rest
  | c :: rest =>
    if isLineEnd c then [c] :: splitLines rest
    else
      match splitLines rest with
      | [] => [[c]]
      | line :: others => (c :: line) :: others

/-- A line and the number of characters before it. -/
structure SourceLine where
  offset : Nat
  chars : List Char
deriving Inhabited

/-- Lines with their offsets, from an offset on. -/
def place (offset : Nat) : List (List Char) → List SourceLine
  | [] => []
  | line :: rest => ⟨offset, line⟩ :: place (offset + line.length) rest

/-- The lines of a source; the empty source has one empty line. -/
def sourceLines (source : List Char) : List SourceLine :=
  if source.isEmpty then [⟨0, []⟩] else place 0 (splitLines source)

/-- The number of the line that a character is in: the last one that starts no later. -/
def lineOf (lines : List SourceLine) (offset : Nat) : Nat :=
  lines.countP (·.offset ≤ offset) - 1

/-- Line and column, both counted from one, of a character. -/
def location (lines : List SourceLine) (offset : Nat) : Nat × Nat :=
  let row := lineOf lines offset
  (row + 1, offset - (lines[row]?.getD default).offset + 1)

/-- How a character is shown in a column, and how many columns it takes. A tab fills up to a
multiple of four, every other blank is a space. -/
def shown (c : Char) (column : Nat) : String × Nat :=
  if c = '\t' then (" ", (column / 4 + 1) * 4 - column)
  else if Text.isBlank c then (" ", 1)
  else (c.toString, Text.columns c)

/-- A drawing: the lines of a source, what is marked in them, and in which color if any. -/
structure Drawing where
  lines : List SourceLine
  color : Bool
  shade : Shade
  start : Nat
  stop : Nat
  label : String

namespace Drawing

variable (d : Drawing)

def line (i : Nat) : SourceLine := d.lines[i]?.getD default

/-- The first marked line, and the last. -/
def firstRow : Nat := lineOf d.lines d.start
def lastMarked : Nat := max (d.stop - 1) d.start
def lastRow : Nat := lineOf d.lines d.lastMarked

/-- The width of the line numbers. -/
def numberWidth : Nat := (toString (d.lastRow + 1)).length

/-- A piece in the color of the finding. -/
def ink (s : String) : String := paint d.color d.shade s

/-- The margin of a line of source. -/
def margin (row : Nat) : String :=
  let number := toString (row + 1)
  " " ++ paint d.color marginShade (times (d.numberWidth - number.length) " " ++ number ++ " │")
    ++ " "

/-- The margin of a row between lines of source. -/
def gap (bar : String) : String :=
  " " ++ paint d.color gapShade (times (d.numberWidth + 1) " " ++ bar) ++ " "

/-- Whether a character is marked. -/
def marks (offset : Nat) : Bool := d.start ≤ offset && offset < d.stop

/-- The source text of a line, without blanks at its end. -/
def sourceText (row : Nat) : String :=
  let line := d.line row
  String.join ((Text.trimEnd line.chars).mapIdx fun column c =>
    let shade := if d.marks (line.offset + column) then d.shade else sourceShade
    let (glyph, width) := shown c column
    if glyph = " " then times width (paint d.color shade " ") else paint d.color shade glyph)

/-- The widths of the first `n` characters of a line, one for every place past its end. -/
def widths (row n : Nat) : List Nat :=
  let chars := Text.trimEnd (d.line row).chars
  (List.range n).map fun column =>
    match chars[column]? with
    | some c => (shown c column).2
    | none => 1

/-- A row of glyphs under characters of given widths: the first glyph stands under the first column
of a character, the second under the others. -/
def row (widths : List Nat) (glyphs : Nat → String × String) : String :=
  String.join (widths.mapIdx fun column width =>
    if width = 0 then ""
    else (glyphs column).1 ++ times (width - 1) (glyphs column).2)

/-- The mark and the label of a finding within one line. The label hangs from the middle of the
mark. -/
def single : String :=
  let line := d.line d.firstRow
  if d.stop > line.offset + line.chars.length then d.gap "│" ++ "\n"
  else
    let widths := d.widths d.firstRow (d.stop - line.offset + 2)
    let middle := max ((d.start + d.stop) / 2) d.start - line.offset
    let mark (column : Nat) : String × String :=
      if column = middle then
        if d.marks (line.offset + column) then (d.ink "┬", d.ink "─") else (d.ink "│", d.ink " ")
      else if d.marks (line.offset + column) then (d.ink "─", d.ink "─")
      else (" ", " ")
    let pointer (column : Nat) : String × String :=
      if column = middle then (d.ink "╰", d.ink "─")
      else if column > middle then (d.ink "─", d.ink "─")
      else (" ", " ")
    d.margin d.firstRow ++ d.sourceText d.firstRow ++ "\n"
      ++ d.gap "│" ++ row widths mark ++ "\n"
      ++ d.gap "│" ++ row widths pointer ++ " " ++ d.label ++ "\n"

/-- A line at which a mark over several lines starts or ends. -/
def arrowed (corner : String) (i : Nat) : String :=
  d.margin i ++ d.ink corner ++ d.ink "─" ++ d.ink "▶" ++ d.ink " " ++ d.sourceText i ++ "\n"

/-- The lines after the first of a mark over several lines: the one that holds its end with the
label, and one row of dots for all others. -/
def following (dotted : Bool) : List Nat → String
  | [] => ""
  | i :: rest =>
    let line := d.line i
    if line.offset ≤ d.lastMarked && d.lastMarked < line.offset + line.chars.length then
      let width := (d.widths i (line.chars.length + 2)).sum
      d.arrowed "├" i
        ++ d.gap "│" ++ d.ink "│" ++ "   " ++ times width " " ++ "\n"
        ++ d.gap "│" ++ d.ink "╰" ++ times 3 (d.ink "─") ++ times width (d.ink "─") ++ " "
        ++ d.label ++ "\n" ++ following dotted rest
    else if dotted then following dotted rest
    else d.gap "┆" ++ d.ink "┆" ++ "   " ++ "\n" ++ following true rest

/-- The mark and the label of a finding over several lines. -/
def spread : String :=
  d.arrowed "╭" d.firstRow ++
    d.following false ((List.range (d.lastRow + 1)).filter (· > d.firstRow))

/-- The head of the drawing, which says where the finding is. -/
def head (filename : String) : String :=
  let margin (s : String) := paint d.color marginShade s
  let pad := times (d.numberWidth + 2) " "
  let (row, column) := location d.lines d.start
  pad ++ margin "╭" ++ margin "─" ++ margin "["
    ++ " " ++ filename ++ ":" ++ toString row ++ ":" ++ toString column ++ " "
    ++ margin "]" ++ "\n" ++ pad ++ margin "│" ++ "\n"

/-- The whole drawing. -/
def render (filename : String) : String :=
  d.head filename
    ++ (if d.stop > d.start && lineOf d.lines (d.stop - 1) ≠ d.firstRow then d.spread
      else d.single)
    ++ paint d.color marginShade (times (d.numberWidth + 2) "─" ++ "╯") ++ "\n"

end Drawing

/-- The color of a severity and the word that opens its message. -/
def shadeOf : Severity → Shade
  | .error => .red
  | .warning => .yellow

def opening : Severity → String
  | .error => "Error:"
  | .warning => "Warning:"

/-- One finding: its message, and the drawing if its bounds are in the source. -/
def renderFinding (source : List Char) (filename : String) (color : Bool) (f : Finding) : String :=
  let shade := shadeOf f.severity
  let lines := sourceLines source
  let drawing : Drawing := ⟨lines, color, shade, f.start, f.stop, f.label.getD f.message⟩
  paint color shade (opening f.severity) ++ " " ++ f.message ++ "\n" ++
    if f.start > source.length || (f.stop > f.start && f.stop - 1 > source.length) then ""
    else drawing.render filename

/-- All findings of a source one after the other. Bounds in the wrong order cannot be drawn. -/
def render? (source filename : String) (findings : List Finding) (color : Bool) :
    Option String :=
  if findings.all fun f => f.start ≤ f.stop then
    some (String.join (findings.map (renderFinding source.toList filename color)))
  else
    none

end Autotools.Terminal
