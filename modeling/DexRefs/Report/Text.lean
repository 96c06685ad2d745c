import DexRefs.Scan.Result

/-!
The text report: a line for each image, and below it a line for each class and each member, or one
line that tells why the image was not decoded.
-/

set_option autoImplicit false

namespace DexRefs.Report

def tag (internal : Bool) : String :=
  if internal then "internal" else "external"

def fieldLine (f : FieldRef) : String :=
  "  field " ++ f.text ++ " " ++ tag f.internal

def methodLine (m : MethodRef) : String :=
  "  method " ++ m.text ++ " " ++ tag m.internal

def classLines (members : Bool) (c : ClassRef) : List String :=
  ("class " ++ c.dotName ++ " " ++ tag c.internal) ::
    if members then c.fields.map fieldLine ++ c.methods.map methodLine else []

def imageLines (members : Bool) (r : ImageResult) : List String :=
  ("# " ++ r.source) ::
    match r.error with
    | some e => ["! " ++ r.errorKind.getD "None" ++ ": " ++ e]
    | none => r.classes.flatMap (classLines members)

def text (members : Bool) (r : ScanResult) : String :=
  "\n".intercalate (r.results.flatMap (imageLines members)) ++ "\n"

end DexRefs.Report
