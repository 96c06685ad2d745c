import DexRefs.Calendar
import DexRefs.Number.Binary64
import DexRefs.Text.Quoted

/-!
Values of any type, as settings files and log contexts hold them.  Settings are not checked
against the types their readers expect, so a value has a truth value, a name for its type and two
texts: its own, and the one it has inside a message or a list, where texts are quoted.
-/

set_option autoImplicit false

namespace DexRefs

inductive Value where
  | null
  | bool (b : Bool)
  | int (i : Int)
  | float (x : Binary64)
  | text (s : String)
  | moment (m : Moment)
  | list (vs : List Value)
  | table (entries : List (String × Value))
  deriving Repr, Inhabited

namespace Value

/-- Nothing, zero and whatever is empty is false. -/
def truthy : Value → Bool
  | null => false
  | bool b => b
  | int i => i != 0
  | float x => !x.isZero
  | text s => !s.isEmpty
  | moment _ => true
  | list vs => !vs.isEmpty
  | table es => !es.isEmpty

def typeName : Value → String
  | null => "NoneType"
  | bool _ => "bool"
  | int _ => "int"
  | float _ => "float"
  | text _ => "str"
  | moment (.date _) => "datetime.date"
  | moment (.time _) => "datetime.time"
  | moment _ => "datetime.datetime"
  | list _ => "list"
  | table _ => "dict"

def get? (v : Value) (key : String) : Option Value :=
  match v with
  | table es => es.lookup key
  | _ => none

def commaSeparated (parts : List String) : String :=
  ", ".intercalate parts

def constructorText (name : String) (parts : List Nat) (optional : List Nat) (zone : String) :
    String :=
  let kept := (optional.reverse.dropWhile (· = 0)).reverse
  name ++ "(" ++ commaSeparated ((parts ++ kept).map decimal) ++ zone ++ ")"

def zoneText (minutes : Int) : String :=
  let seconds := minutes * 60
  let delta :=
    if seconds < 0 then
      "days=-1, seconds=" ++ decimalInt (seconds + 86400)
    else "seconds=" ++ decimalInt seconds
  if minutes = 0 then ", tzinfo=datetime.timezone.utc"
  else ", tzinfo=datetime.timezone(datetime.timedelta(" ++ delta ++ "))"

def momentQuoted : Moment → String
  | .date d => constructorText "datetime.date" [d.year, d.month, d.day] [] ""
  | .time t => constructorText "datetime.time" [t.hour, t.minute] [t.second, t.micro] ""
  | .local d t =>
    constructorText "datetime.datetime" [d.year, d.month, d.day, t.hour, t.minute]
      [t.second, t.micro] ""
  | .zoned d t offset =>
    constructorText "datetime.datetime" [d.year, d.month, d.day, t.hour, t.minute]
      [t.second, t.micro] (zoneText offset)

mutual

def quoted : Value → String
  | null => "None"
  | bool b => if b then "True" else "False"
  | int i => decimalInt i
  | float x => x.text
  | text s => DexRefs.quoted s
  | moment m => momentQuoted m
  | list vs => "[" ++ commaSeparated (quotedAll vs) ++ "]"
  | table es => "\x7b" ++ commaSeparated (quotedEntries es) ++ "\x7d"

def quotedAll : List Value → List String
  | [] => []
  | v :: vs => v.quoted :: quotedAll vs

def quotedEntries : List (String × Value) → List String
  | [] => []
  | (k, v) :: es => (DexRefs.quoted k ++ ": " ++ v.quoted) :: quotedEntries es

end

def display : Value → String
  | text s => s
  | moment m => m.isoWith " "
  | v => v.quoted

end Value

end DexRefs
