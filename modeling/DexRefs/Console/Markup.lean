import DexRefs.Console.Emoji
import DexRefs.Console.Style

/-!
Console markup.  A tag is a `[`, one of `a`–`z`, `#`, `/` and `@`, and whatever follows up to the
next `]`, without another `[`.  Backslashes before a tag are halved, and an odd one makes the tag
plain text.  A closing tag closes the last open tag of its style, or, without a style, the last
open tag; one that closes nothing is refused.
-/

set_option autoImplicit false

namespace DexRefs.Markup

def startsTag (c : Char) : Bool :=
  c.isLower || c = '#' || c = '/' || c = '@'

/-- What stands before the next `]`, if no `[` comes first, and what follows it. -/
def untilClose : List Char → Option (List Char × List Char)
  | [] => none
  | c :: cs =>
    if c = ']' then some ([], cs)
    else if c = '[' then none
    else (untilClose cs).map fun p => (c :: p.1, p.2)

def tag? : List Char → Option (List Char × List Char)
  | '[' :: c :: cs =>
    if startsTag c then (untilClose cs).map fun p => (c :: p.1, p.2) else none
  | _ => none

/-- What the characters start with: a tag after some backslashes, a run of backslashes without a
tag, or a single character. -/
inductive Token where
  | tag (backslashes : Nat) (content : List Char)
  | plain (cs : List Char)
  deriving DecidableEq, Repr

/-- The tokens of a text; each takes at least one character, so `fuel` is their number. -/
def tokensFrom : (fuel : Nat) → List Char → List Token
  | 0, _ => []
  | _, [] => []
  | fuel + 1, c :: cs =>
    let backslashes := (c :: cs).takeWhile (· = '\x5c')
    match tag? ((c :: cs).drop backslashes.length) with
    | some (content, rest) => .tag backslashes.length content :: tokensFrom fuel rest
    | none =>
      if backslashes.isEmpty then .plain [c] :: tokensFrom fuel cs
      else .plain backslashes :: tokensFrom fuel ((c :: cs).drop backslashes.length)

def tokens (cs : List Char) : List Token :=
  tokensFrom cs.length cs

def written (content : List Char) : List Char :=
  '[' :: content ++ [']']

def escapeToken : Token → List Char
  | .tag n content => List.replicate (2 * n + 1) '\x5c' ++ written content
  | .plain cs => cs

/-- A text that ends with a single backslash gets another one. -/
def closeBackslash (cs : List Char) : List Char :=
  match cs.reverse with
  | '\x5c' :: '\x5c' :: _ => cs
  | '\x5c' :: _ => cs ++ ['\x5c']
  | _ => cs

/-- Escapes a text, so that its tags are shown and not interpreted. -/
def escapeChars (cs : List Char) : List Char :=
  closeBackslash ((tokens cs).flatMap escapeToken)

def escape (s : String) : String :=
  String.ofList (escapeChars s.toList)

/-- In text between tags `\[` stands for `[`. -/
def unescape : List Char → List Char
  | '\x5c' :: '[' :: cs => '[' :: unescape cs
  | c :: cs => c :: unescape cs
  | [] => []

def nameOf (content : List Char) : List Char :=
  content.takeWhile (· ≠ '=')

def parameters? (content : List Char) : Option (List Char) :=
  (content.dropWhile (· ≠ '=')).tail?

structure OpenTag where
  name : String
  parameters : Option (List Char)
  deriving DecidableEq, Repr

def OpenTag.style (t : OpenTag) : List Char :=
  t.name.toList ++ (t.parameters.map (' ' :: ·)).getD []

inductive Fault where
  | strayTag
  | share (f : TextStyle.ShareFault)
  deriving DecidableEq, Repr

def styleName (name : List Char) : Except Fault String :=
  (TextStyle.normalName name).mapError .share

def openTag (content : List Char) : Except Fault OpenTag :=
  (styleName (nameOf content)).map fun name => { name, parameters := parameters? content }

def close (name : String) : List OpenTag → Except Fault (List OpenTag)
  | [] => .error .strayTag
  | t :: ts => if t.name = name then .ok ts else (close name ts).map (t :: ·)

/-- The open tags after one more tag, the last one first. -/
def push (content : List Char) (openTags : List OpenTag) : Except Fault (List OpenTag) :=
  match nameOf content with
  | '/' :: name =>
    if (trim name).isEmpty then
      match openTags with
      | [] => .error .strayTag
      | _ :: rest => .ok rest
    else do close (← styleName name) openTags
  | _ => (openTag content).map (· :: openTags)

structure Run where
  chars : List Char
  styles : List (List Char)
  deriving DecidableEq, Repr

def runOf (openTags : List OpenTag) (chars : List Char) : Run :=
  { chars, styles := openTags.map OpenTag.style }

/-- The text that remains, `pending` being text that no tag has followed yet. -/
def renderTokens : (openTags : List OpenTag) → (pending : List Char) → List Token →
    Except Fault (List Run)
  | openTags, pending, [] => .ok [runOf openTags (unescape pending)]
  | openTags, pending, .plain cs :: ts => renderTokens openTags (pending ++ cs) ts
  | openTags, pending, .tag n content :: ts =>
    let before := [runOf openTags (unescape pending), runOf openTags (List.replicate (n / 2) '\x5c')]
    if n % 2 = 1 then do
      let rest ← renderTokens openTags [] ts
      pure (before ++ runOf openTags (written content) :: rest)
    else do
      let tags ← push content openTags
      let rest ← renderTokens tags [] ts
      pure (before ++ rest)

def isControl (c : Char) : Bool :=
  c.toNat = 7 || c.toNat = 8 || c.toNat = 11 || c.toNat = 12 || c.toNat = 13

variable (codes : Emoji.Codes)

def finish (cs : List Char) : List Char :=
  (Emoji.replace codes cs).filter (!isControl ·)

def renderRuns (cs : List Char) : Except Fault (List Run) :=
  if cs.contains '[' then
    (renderTokens [] [] (tokens cs)).map (·.map fun r => { r with chars := finish codes r.chars })
  else .ok [runOf [] (finish codes cs)]

def render (s : String) : Except Fault String :=
  (renderRuns codes s.toList).map fun rs => String.ofList (rs.flatMap Run.chars)

end DexRefs.Markup
