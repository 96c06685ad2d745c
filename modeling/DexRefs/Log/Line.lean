import DexRefs.Json
import DexRefs.Log.Record

/-!
Log records as they stand in a file: a plain line with its parts between bars, or a JSON object on
one line.
-/

set_option autoImplicit false

namespace DexRefs

def Moment.plainStamp : Moment → String
  | .zoned d t offset =>
    d.iso ++ "T" ++ { t with micro := 0 }.iso ++ String.ofList ((offsetText offset).toList.erase ':')
  | .local d t => d.iso ++ "T" ++ { t with micro := 0 }.iso
  | m => m.iso

namespace Record

def raisedText : List Raised → String
  | [] => "NoneType: None"
  | rs =>
    "\n\nDuring handling of the above exception, another exception occurred:\n\n".intercalate
      (rs.map fun r => r.origin ++ "\n" ++ r.error)

def levelCell (l : Level) : String :=
  l.name ++ String.ofList (List.replicate (8 - l.name.length) ' ')

/-- The record as a plain line, with the errors being handled on lines of their own. -/
def plain (moment : Moment) (r : Record) : String :=
  let line := " | ".intercalate [moment.plainStamp, levelCell r.level, r.logger, r.message]
  match r.raised with
  | none => line
  | some rs => line ++ (if line.endsWith "\n" then "" else "\n") ++ raisedText rs

def optionalEntry (name : String) : Option Value → List (String × Value)
  | none => []
  | some v => [(name, v)]

def raisedValue : Option (List Raised) → Option Value
  | some (r :: rs) => some (.text (raisedText (r :: rs)))
  | _ => none

/-- The record as an object.  A context is left out where it is empty. -/
def value (moment : Moment) (r : Record) : Value :=
  .table <|
    [("timestamp", .text moment.iso), ("level", .text r.level.name), ("logger", .text r.logger),
     ("message", .text r.message), ("tool_name", .text r.tool)] ++
    optionalEntry "operation" (r.operation.map .text) ++
    optionalEntry "context" (r.context.filter Value.truthy) ++
    optionalEntry "exc_info" (raisedValue r.raised)

def line (json : Bool) (moment : Moment) (r : Record) : String :=
  if json then Json.line (r.value moment) else r.plain moment

end Record

end DexRefs
