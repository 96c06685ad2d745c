import DexRefs.Console.Event
import DexRefs.Console.Layout

/-!
Console events as lines of plain text.
-/

set_option autoImplicit false

namespace DexRefs.Render

open Layout

inductive Fault where
  | markup (f : Markup.Fault)
  | unknownStyle (name : String)
  deriving DecidableEq, Repr

namespace Fault

def kind : Fault → String
  | markup .strayTag => "MarkupError"
  | markup (.share _) => "ValueError"
  | unknownStyle _ => "MissingStyle"

def message : Fault → String
  | markup .strayTag => "a closing tag has no opening one"
  | markup (.share f) => f.message
  | unknownStyle name => "there is no style " ++ quoted name

end Fault

/-- A console: its width, in which every column of a result's tables has room, and the emoji codes
that it knows. -/
structure Screen where
  columns : Nat
  codes : Emoji.Codes
  wide : 40 ≤ columns := by decide

abbrev Lines := Except Fault (List (List Char))

def known (style : List Char) : Except Fault Bool :=
  (TextStyle.isKnown style).mapError fun f => .markup (.share f)

/-- Tags may name what is no style, but not what cannot be read. -/
def look (styles : List (List Char)) : Except Fault Unit :=
  styles.forM fun style => do discard (known style)

variable (screen : Screen)

def runs (s : String) : Except Fault (List Markup.Run) :=
  (Markup.renderRuns screen.codes s.toList).mapError .markup

def shown (s : String) : Except Fault (List Char) := do
  let rs ← runs screen s
  look (rs.flatMap (·.styles))
  pure (rs.flatMap (·.chars))

/-- The lines of a marked-up text.  Styles that no character of a broken text is left to be shown
in are not looked at. -/
def textLines (columns : Nat) (s : String) : Lines := do
  let rs ← runs screen s
  let glyphs := rs.flatMap fun r => r.chars.map fun c => ⟨c, r.styles⟩
  let lines := wrap columns true glyphs
  look (if lines = [glyphs] then rs.flatMap (·.styles) else lines.flatten.flatMap (·.styles))
  pure (lines.map chars)

def sectionLines (title : String) : Lines := do
  let title := truncate (screen.columns - 4) true <| chars <| expandTabs <| unstyled <|
    (← shown screen ("  " ++ title ++ "  ")).map fun c => if c = '\n' then ' ' else c
  let side := (screen.columns - width title) / 2
  let line := List.replicate (side - 1) '─' ++ ' ' :: title ++ [' ']
  pure [line ++ List.replicate (screen.columns - width line) '─', []]

def barLine (bar : Char) (cells : List (List Char)) : List Char :=
  cells.flatMap (bar :: ·) ++ [bar]

def borderLine (left fill between right : Char) (widths : List Nat) : List Char :=
  left :: (List.intersperse [between] (widths.map fun w => List.replicate w fill)).flatten ++ [right]

/-- The lines of a row, whose cells may have several lines each; `bottom` moves cells with fewer
lines down.  Two columns of each width are blank, and if there are no others, all of them are. -/
def rowLines (bar : Char) (bottom : Bool) (widths : List Nat) (row : List (List Char)) :
    List (List Char) :=
  let cells := (row.zip widths).map fun (c, w) =>
    if w ≤ 2 then []
    else (wrapChars (w - 2) false c).map fun l =>
      ' ' :: padEnd (w - 2) (truncate (w - 2) true l) ++ [' ']
  let height := (cells.map List.length).foldl max 1
  (List.range height).map fun i =>
    barLine bar ((cells.zip widths).map fun (ls, w) =>
      let blank := List.replicate w ' '
      let ls := if bottom then List.replicate (height - ls.length) blank ++ ls else ls
      (ls[i]?).getD blank)

def annotationLines (total : Nat) (s : String) : Lines :=
  if s.isEmpty then .ok []
  else (shown screen s).map fun cs => (wrapChars total true cs).map (center total)

def cell (i : Nat) (row : List String) : String :=
  (row[i]?).getD ""

def columnCells (t : TableEvent) (i : Nat) : Except Fault (List (List Char)) := do
  let style := if i < t.columns.length then cell i (t.styles.getD []) else ""
  if ← known style.toList then (t.columns :: t.rows).mapM fun row => shown screen (cell i row)
  else .error (.unknownStyle style)

def tableLines (t : TableEvent) : Lines := do
  let columns := t.rows.foldl (fun n r => max n r.length) t.columns.length
  if columns = 0 then pure [[]]
  else
    let cells ← (List.range columns).mapM (columnCells screen t)
    let room := screen.columns - (columns + 1)
    let wanted := cells.map fun cs => min ((cs.map blockWidth).foldl max 0 + 2) room
    let widths := narrowWidths room (total wanted - room) wanted
    let whole := total widths + columns + 1
    let row (bar : Char) (i : Nat) :=
      rowLines bar (i = 0) widths (cells.map fun cs => (cs[i]?).getD [])
    let title ← annotationLines screen whole t.title
    let caption ← annotationLines screen whole (t.caption.getD "")
    pure (title ++ [borderLine '┏' '━' '┳' '┓' widths] ++ row '┃' 0 ++
      [borderLine '┡' '━' '╇' '┩' widths] ++
      (List.range t.rows.length).flatMap (fun i => row '│' (i + 1)) ++
      [borderLine '└' '─' '┴' '┘' widths] ++ caption)

def childLines (last : Bool) (label : String) : Lines := do
  let lines ← textLines screen (screen.columns - 4) label
  let first := if last then "└── ".toList else "├── ".toList
  let next := if last then "    ".toList else "│   ".toList
  match lines with
  | [] => pure []
  | l :: ls => pure ((first ++ l) :: ls.map (next ++ ·))

def childrenLines : List String → Lines
  | [] => .ok []
  | [c] => childLines screen true c
  | c :: cs => do
    let lines ← childLines screen false c
    let rest ← childrenLines cs
    pure (lines ++ rest)

/-- Texts are marked up; other values are shown as they are. -/
def printed : Value → Except Fault (List Char)
  | .text s => shown screen s
  | v => .ok v.display.toList

def printLines (vs : List Value) : Lines := do
  let parts ← vs.mapM (printed screen)
  pure (wrapChars screen.columns true ([' '].intercalate parts))

def messageLines (s : String) : Lines :=
  textLines screen screen.columns s

def eventLines : Event → Lines
  | .section_ title => sectionLines screen title
  | .success m => messageLines screen ("[deps.success][✔] SUCCESS:[/deps.success] " ++ m)
  | .warning m => messageLines screen ("[deps.warning][⚠] WARNING:[/deps.warning] " ++ m)
  | .error m => messageLines screen ("[deps.error][✘] ERROR:[/deps.error] " ++ m)
  | .table t => tableLines screen t
  | .tree label children => do
    let lines ← messageLines screen label
    let rest ← childrenLines screen children
    pure (lines ++ rest)
  | .print vs => printLines screen vs

def eventText (e : Event) : Except Fault String :=
  (eventLines screen e).map fun lines => String.join (lines.map fun l => String.ofList l ++ "\n")

def text (es : List Event) : Except Fault String :=
  (es.mapM (eventText screen)).map String.join

end DexRefs.Render
