import DexRefs.Text.Blank
import DexRefs.Text.Letter

/-!
Emoji codes: a name between two colons, without blanks, stands for a glyph, if there is one of that
name.
-/

set_option autoImplicit false

namespace DexRefs.Emoji

abbrev Codes := List Char → Option (List Char)

def forms : List (List Char × Char) :=
  [("-emoji".toList, '\ufe0f'), ("-text".toList, '\ufe0e')]

def glyph (codes : Codes) (name : List Char) : Option (List Char) :=
  match forms.find? fun f => f.1.isSuffixOf name with
  | some (suffix, form) =>
    (codes (lower (name.take (name.length - suffix.length)))).map (· ++ [form])
  | none => codes (lower name)

/-- Replaces the codes of a text.  After a colon that may begin a code, `name` is what has followed
it so far, the last character first. -/
def replaceFrom (codes : Codes) : (name : Option (List Char)) → List Char → List Char
  | none, [] => []
  | some name, [] => ':' :: name.reverse
  | none, c :: cs =>
    if c = ':' then replaceFrom codes (some []) cs else c :: replaceFrom codes none cs
  | some name, c :: cs =>
    if c = ':' then
      (glyph codes name.reverse).getD (':' :: name.reverse ++ [':']) ++ replaceFrom codes none cs
    else if isBlank c then ':' :: name.reverse ++ c :: replaceFrom codes none cs
    else replaceFrom codes (some (c :: name)) cs

def replace (codes : Codes) (cs : List Char) : List Char :=
  replaceFrom codes none cs

end DexRefs.Emoji
