import DexRefs.Number.Binary64
import DexRefs.Text.Blank
import DexRefs.Text.Width
import DexRefs.Total

/-!
Laying out text in lines of a limited width: expanding tabs, breaking lines between words, and
filling lines up.
-/

set_option autoImplicit false

namespace DexRefs.Layout

def width (cs : List Char) : Nat :=
  total (cs.map charWidth)

structure Glyph where
  char : Char
  styles : List (List Char) := []
  deriving DecidableEq, Repr

def unstyled (cs : List Char) : List Glyph :=
  cs.map fun c => { char := c }

def chars (gs : List Glyph) : List Char :=
  gs.map Glyph.char

def expandTabsFrom (column : Nat) : List Glyph → List Glyph
  | [] => []
  | g :: gs =>
    if g.char = '\t' then
      let n := 8 - column % 8
      List.replicate n { g with char := ' ' } ++ expandTabsFrom (column + n) gs
    else g :: expandTabsFrom (column + charWidth g.char) gs

def expandTabs (gs : List Glyph) : List Glyph :=
  expandTabsFrom 0 gs

/-- Words with the blanks after them; blanks in front belong to the first word, and blanks alone
are no word.  Each word takes at least one character, so `fuel` is their number. -/
def wordsFrom : (fuel : Nat) → List Glyph → List (List Glyph)
  | 0, _ => []
  | fuel + 1, gs =>
    let lead := gs.takeWhile (isBlank ·.char)
    let rest := gs.dropWhile (isBlank ·.char)
    let body := rest.takeWhile (!isBlank ·.char)
    let after := rest.dropWhile (!isBlank ·.char)
    if body.isEmpty then []
    else
      (lead ++ body ++ after.takeWhile (isBlank ·.char)) ::
        wordsFrom fuel (after.dropWhile (isBlank ·.char))

def chopFrom (limit : Nat) : (line : List Glyph) → (used : Nat) → List Glyph → List (List Glyph)
  | line, _, [] => [line.reverse]
  | line, used, g :: gs =>
    if limit < used + charWidth g.char then
      line.reverse :: chopFrom limit [g] (charWidth g.char) gs
    else chopFrom limit (g :: line) (used + charWidth g.char) gs

/-- Lines made of words, `line` being the one under way.  A word that does not fit starts a new
line; one that fits no line is cut where that is allowed. -/
def fillLines (limit : Nat) (fold : Bool) : (line : List Glyph) → (used : Nat) →
    List (List Glyph) → List (List Glyph)
  | line, _, [] => [line]
  | line, used, word :: ws =>
    let all := width (chars word)
    let length := width (trimEnd (chars word))
    if length + used ≤ limit then fillLines limit fold (line ++ word) (used + all) ws
    else if limit < length then
      if fold then
        let pieces := chopFrom limit [] 0 word
        let done := if line.isEmpty then [] else [line]
        match pieces.getLast? with
        | some last => done ++ pieces.dropLast ++ fillLines limit fold last (width (chars last)) ws
        | none => fillLines limit fold line used ws
      else if line.isEmpty then fillLines limit fold word all ws
      else line :: fillLines limit fold word all ws
    else if line.isEmpty then fillLines limit fold (line ++ word) (used + all) ws
    else line :: fillLines limit fold word all ws

def cropBlanks (limit : Nat) (gs : List Glyph) : List Glyph :=
  let blanks := (gs.reverse.takeWhile (isBlank ·.char)).length
  gs.take (gs.length - min blanks (gs.length - limit))

/-- How many characters of a text that is too wide fit into `limit` columns.  Halving finds one of
the places where they end; characters without width may stand before or after it. -/
def fittingFrom (limit : Nat) (cs : List Char) : (fuel start stop : Nat) → Nat
  | 0, _, _ => 0
  | fuel + 1, start, stop =>
    let pos := (start + stop) / 2
    let before := cs.take (pos + 1)
    if width before = limit + 1 && (before.getLast?).any (charWidth · = 2) then pos
    else if width before = limit then pos + 1
    else if limit < width before then fittingFrom limit cs fuel start pos
    else fittingFrom limit cs fuel pos stop

def fitting (limit : Nat) (cs : List Char) : Nat :=
  if limit = 0 then 0 else fittingFrom limit cs (cs.length + 1) 0 cs.length

/-- Cuts a line that is too wide; half of a wide character becomes a space. -/
def cutLine (limit : Nat) (gs : List Glyph) : List Glyph :=
  if width (chars gs) ≤ limit then gs
  else
    let kept := gs.take (fitting limit (chars gs))
    kept ++ List.replicate (limit - width (chars kept)) { char := ' ' }

def wrapLine (limit : Nat) (fold : Bool) (gs : List Glyph) : List (List Glyph) :=
  let gs := expandTabs gs
  let ws := wordsFrom (gs.length + 1) gs
  let lines := if ws.isEmpty then [gs] else fillLines limit fold [] 0 ws
  let lines := lines.map (cropBlanks limit)
  if fold then lines.map (cutLine limit) else lines

def wrap (limit : Nat) (fold : Bool) (gs : List Glyph) : List (List Glyph) :=
  (gs.splitOnP (·.char = '\n')).flatMap (wrapLine limit fold)

def wrapChars (limit : Nat) (fold : Bool) (cs : List Char) : List (List Char) :=
  (wrap limit fold (unstyled cs)).map chars

/-- A line of at most `limit` columns; an ellipsis takes one of them where the line is cut. -/
def truncate (limit : Nat) (ellipsis : Bool) (cs : List Char) : List Char :=
  let cut (n : Nat) := chars (cutLine n (unstyled cs))
  if width cs ≤ limit then cs else if ellipsis then cut (limit - 1) ++ ['…'] else cut limit

def padEnd (limit : Nat) (cs : List Char) : List Char :=
  cs ++ List.replicate (limit - width cs) ' '

def center (limit : Nat) (cs : List Char) : List Char :=
  let cs := truncate limit false (trimEnd cs)
  padEnd limit (List.replicate ((limit - width cs) / 2) ' ' ++ cs)

def isLineBreak (c : Char) : Bool :=
  let n := c.toNat
  (10 ≤ n && n ≤ 13) || (0x1c ≤ n && n ≤ 0x1e) || n = 0x85 || n = 0x2028 || n = 0x2029

def blockWidth (cs : List Char) : Nat :=
  ((cs.splitOnP isLineBreak).map width).foldl max 0

/-- Takes `excess` columns off the widths that are selected, `shares` of them, and at most `most` off
each. -/
def reduceWidths (selected : Nat → Bool) (most : Nat) : (excess shares : Nat) → List Nat → List Nat
  | _, _, [] => []
  | excess, shares, w :: ws =>
    if selected w then
      let off := min most (roundRatio excess shares)
      (w - off) :: reduceWidths selected most (excess - off) (shares - 1) ws
    else w :: reduceWidths selected most excess shares ws

/-- Widths that fit into `room` columns: the widest ones lose columns until they are as wide as the
next.  Each step takes off at least one column, so `fuel` is their excess. -/
def narrowWidths (room : Nat) : (fuel : Nat) → List Nat → List Nat
  | 0, ws => ws
  | fuel + 1, ws =>
    let excess := total ws - room
    if excess = 0 then ws
    else
      let widest := ws.foldl max 0
      let next := (ws.filter (· ≠ widest)).foldl max 0
      narrowWidths room fuel
        (reduceWidths (· = widest) (min excess (widest - next)) excess (ws.count widest) ws)

end DexRefs.Layout
