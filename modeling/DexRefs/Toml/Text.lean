/-!
The text of a TOML document as a stream of characters: blanks, comments, keys and quoted texts.
Lines end in a line feed.
-/

set_option autoImplicit false

namespace DexRefs.Toml

abbrev Lexeme := StateT (List Char) Option

def isBlank (c : Char) : Bool :=
  c == ' ' || c == '\t'

def isControl (c : Char) : Bool :=
  (c < ' ' && c != '\t') || c == '\x7f'

def isBare (c : Char) : Bool :=
  c.isAlphanum || c == '-' || c == '_'

def hexDigit? (c : Char) : Option Nat :=
  if '0' ≤ c && c ≤ '9' then some (c.toNat - '0'.toNat)
  else if 'a' ≤ c && c ≤ 'f' then some (c.toNat - 'a'.toNat + 10)
  else if 'A' ≤ c && c ≤ 'F' then some (c.toNat - 'A'.toNat + 10)
  else none

namespace Lexeme

def nothing {α : Type} : Lexeme α :=
  fun _ => none

def char (c : Char) : Lexeme Unit
  | d :: cs => if d = c then some ((), cs) else none
  | [] => none

def oneOf (p : Char → Bool) : Lexeme Char
  | c :: cs => if p c then some (c, cs) else none
  | [] => none

def chars : List Char → Lexeme Unit
  | [] => pure ()
  | c :: cs => do
    char c
    chars cs

def accept (c : Char) : Lexeme Bool
  | d :: cs => some (if d = c then (true, cs) else (false, d :: cs))
  | [] => some (false, [])

def optional {α : Type} (l : Lexeme α) : Lexeme (Option α) :=
  fun cs =>
    match l cs with
    | some (a, rest) => some (some a, rest)
    | none => some (none, cs)

def blanks : Lexeme Unit :=
  fun cs => some ((), cs.dropWhile isBlank)

def comment : Lexeme Unit
  | '#' :: cs =>
    if (cs.takeWhile (· != '\n')).any isControl then none
    else some ((), cs.dropWhile (· != '\n'))
  | cs => some ((), cs)

/-- Blanks, line ends and comments.  `within` tells whether the text begins inside a comment. -/
def fillerFrom : (within : Bool) → Lexeme Unit
  | _, [] => some ((), [])
  | true, c :: cs =>
    if c = '\n' then fillerFrom false cs
    else if isControl c then none
    else fillerFrom true cs
  | false, c :: cs =>
    if c = '#' then fillerFrom true cs
    else if isBlank c || c = '\n' then fillerFrom false cs
    else some ((), c :: cs)

def filler : Lexeme Unit :=
  fillerFrom false

end Lexeme

/-! ### Quoted texts -/

/-- Where the reading of an escaped text stands: between characters, after a backslash, within the
digits of a character code, or among the blanks that a backslash at the end of a line takes away,
before or after the first line end. -/
inductive Escape where
  | none
  | opened
  | code (left value : Nat)
  | gap (crossed : Bool)
  deriving DecidableEq, Repr

def escaped? : Char → Option Char
  | 'b' => some '\x08'
  | 't' => some '\t'
  | 'n' => some '\n'
  | 'f' => some '\x0c'
  | 'r' => some '\r'
  | '"' => some '"'
  | '\\' => some '\\'
  | _ => none

/-- A text over several lines may end in one or two quotes of its own, before the three that
close it. -/
def closing (quote : Char) : List Char → List Char × List Char
  | a :: b :: cs =>
    if a = quote then if b = quote then ([a, b], cs) else ([a], b :: cs) else ([], a :: b :: cs)
  | [a] => if a = quote then ([a], []) else ([], [a])
  | [] => ([], [])

def pushFront (c : Char) : Option (List Char × List Char) → Option (List Char × List Char) :=
  Option.map fun r => (c :: r.1, r.2)

def escapedText (multiline : Bool) : Escape → Lexeme (List Char)
  | _, [] => none
  | e, c :: cs =>
    let e := if e = .gap true && !(isBlank c || c = '\n') then .none else e
    match e with
    | .none =>
      if c = '\\' then escapedText multiline .opened cs
      else if c = '"' then
        if multiline then
          match cs with
          | '"' :: '"' :: rest => some (closing '"' rest)
          | _ => pushFront c (escapedText multiline .none cs)
        else some ([], cs)
      else if isControl c && !(multiline && c = '\n') then none
      else pushFront c (escapedText multiline .none cs)
    | .opened =>
      if c = 'u' then escapedText multiline (.code 4 0) cs
      else if c = 'U' then escapedText multiline (.code 8 0) cs
      else if multiline && isBlank c then escapedText multiline (.gap false) cs
      else if multiline && c = '\n' then escapedText multiline (.gap true) cs
      else
        match escaped? c with
        | some d => pushFront d (escapedText multiline .none cs)
        | none => none
    | .code left value =>
      match hexDigit? c with
      | none => none
      | some d =>
        let value := value * 16 + d
        if left ≤ 1 then
          if value.isValidChar then
            pushFront (Char.ofNat value) (escapedText multiline .none cs)
          else none
        else escapedText multiline (.code (left - 1) value) cs
    | .gap crossed =>
      if isBlank c then escapedText multiline (.gap crossed) cs
      else if c = '\n' then escapedText multiline (.gap true) cs
      else none

def literalText : Lexeme (List Char) :=
  fun cs =>
    match cs.dropWhile (· != '\'') with
    | '\'' :: rest =>
      let body := cs.takeWhile (· != '\'')
      if body.any isControl then none else some (body, rest)
    | _ => none

def literalLines : Lexeme (List Char)
  | '\'' :: '\'' :: '\'' :: rest => some (closing '\'' rest)
  | c :: cs => if isControl c && c != '\n' then none else pushFront c (literalLines cs)
  | [] => none

/-- A line end directly after the opening quotes is no part of the text. -/
def skipLineEnd : List Char → List Char
  | '\n' :: cs => cs
  | cs => cs

namespace Lexeme

def quotedLine : Lexeme String
  | '"' :: cs => (String.ofList <$> escapedText false .none) cs
  | '\'' :: cs => (String.ofList <$> literalText) cs
  | _ => none

def quotedText : Lexeme String
  | '"' :: '"' :: '"' :: cs => (String.ofList <$> escapedText true .none) (skipLineEnd cs)
  | '\'' :: '\'' :: '\'' :: cs => (String.ofList <$> literalLines) (skipLineEnd cs)
  | cs => quotedLine cs

def bareWord : Lexeme String :=
  fun cs =>
    match cs.takeWhile isBare with
    | [] => none
    | word => some (String.ofList word, cs.dropWhile isBare)

def keyPart : Lexeme String :=
  quotedLine <|> bareWord

def keyParts : (n : Nat) → Lexeme (List String)
  | 0 => nothing
  | n + 1 => do
    let part ← keyPart
    blanks
    if ← accept '.' then
      blanks
      return part :: (← keyParts n)
    else return [part]

def key : Lexeme (List String) :=
  fun cs => keyParts (cs.length + 1) cs

end Lexeme

end DexRefs.Toml
