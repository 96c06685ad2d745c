import DexRefs.Console.Markup
import DexRefs.Graph.Usage
import DexRefs.Scan.Result
import DexRefs.Value

/-!
What is shown on the console, as a list of events with marked-up texts: headings, messages, tables
and trees; and how the result of a scan is shown.
-/

set_option autoImplicit false

namespace DexRefs

structure TableEvent where
  title : String
  columns : List String
  rows : List (List String)
  caption : Option String := none
  styles : Option (List String) := none
  deriving DecidableEq, Repr

inductive Event where
  | section_ (title : String)
  | success (message : String)
  | warning (message : String)
  | error (message : String)
  | table (t : TableEvent)
  | tree (label : String) (children : List String)
  | print (texts : List Value)
  deriving Repr

namespace Display

def scopeCell (internal : Bool) : String :=
  if internal then "[deps.internal]internal[/deps.internal]"
  else "[deps.external]external[/deps.external]"

def kindText (r : ImageResult) : String :=
  r.errorKind.getD "None"

def offsetText (offset : Int) : String :=
  " at offset 0x" ++ (if offset < 0 then "-" else "") ++ hexadecimal 0 offset.natAbs

def summaryRow (r : ImageResult) : List String :=
  if r.ok then
    [Markup.escape r.source, r.version, r.order, grouped r.counts.types,
     grouped r.internalClasses, grouped r.externalClasses, grouped r.fieldRefs,
     grouped r.methodRefs]
  else
    [Markup.escape r.source, "-", "-", "-", "-", "-", "-",
     "[deps.error]" ++ kindText r ++ "[/deps.error]"]

def summaryTable (r : ScanResult) : Event :=
  .table
    { title := Markup.escape r.target ++ " (" ++ r.scope.name ++ " references)"
      columns :=
        ["Source", "Version", "Endian", "Types", "Internal", "External", "Fields", "Methods"]
      rows := r.results.map summaryRow
      caption := some r.summary }

def classesTable (classes : List ClassRef) : Event :=
  .table
    { title := "Classes (" ++ grouped classes.length ++ ")"
      columns := ["Class", "Scope", "Fields", "Methods"]
      rows := classes.map fun c =>
        [Markup.escape c.dotName, scopeCell c.internal, decimal c.fields.length,
         decimal c.methods.length]
      styles := some ["bright_white", "", "dim", "dim"] }

/-- How many of the most used types are shown. -/
def rankingLength : Int := 10

def usageTable (classes : List ClassRef) : List Event :=
  let ranking := (Graph.ofListing classes).mostUsed rankingLength
  if ranking.isEmpty then []
  else
    [.table
      { title := "Most used types (top " ++ decimal ranking.length ++ ")"
        columns := ["Type", "Uses"]
        rows := ranking.map fun p => [Markup.escape (Descriptor.dotName p.1), decimal p.2]
        styles := some ["bright_white", "dim"] }]

def fieldLabel (f : FieldRef) : String :=
  "[deps.dim]field[/deps.dim]  " ++ Markup.escape f.name ++ ":" ++ Markup.escape f.typeName

def methodLabel (m : MethodRef) : String :=
  "[deps.dim]method[/deps.dim] " ++ Markup.escape m.name ++ Markup.escape m.descriptor

def memberTree (c : ClassRef) : Option Event :=
  if c.fields.isEmpty && c.methods.isEmpty then none
  else
    some (.tree (Markup.escape c.dotName ++ "  " ++ scopeCell c.internal)
      (c.fields.map fieldLabel ++ c.methods.map methodLabel))

def failureText (r : ImageResult) (error : String) : String :=
  kindText r ++ (r.errorOffset.map offsetText).getD "" ++ ": " ++ error

def image (members : Bool) (r : ImageResult) : List Event :=
  .section_ (Markup.escape r.source) ::
    match r.error with
    | some e => [.error (Markup.escape (failureText r e))]
    | none =>
      classesTable r.classes :: usageTable r.classes ++
        if members then r.classes.filterMap memberTree else []

/-- The result of a scan: a table of all images, then each image. -/
def result (members : Bool) (r : ScanResult) : List Event :=
  summaryTable r :: r.results.flatMap (image members)

end Display

end DexRefs
