import DexRefs.Descriptor

/-!
References: what code in an image mentions.  A class reference holds the references to its
members, in the order in which the tables of the image list them; a member copies the internal
flag of its class.
-/

set_option autoImplicit false

namespace DexRefs

structure FieldRef where
  declaringClass : String
  name : String
  typeName : String
  internal : Bool := false
  deriving DecidableEq, Repr

structure MethodRef where
  declaringClass : String
  name : String
  argumentTypes : List String := []
  returnType : String := "V"
  internal : Bool := false
  deriving DecidableEq, Repr

structure ClassRef where
  name : String
  internal : Bool := false
  fields : List FieldRef := []
  methods : List MethodRef := []
  deriving DecidableEq, Repr

def FieldRef.dotClassName (f : FieldRef) : String :=
  Descriptor.dotName f.declaringClass

/-- `class.name:type`, by which a field is known in listings and graphs. -/
def FieldRef.text (f : FieldRef) : String :=
  f.dotClassName ++ "." ++ f.name ++ ":" ++ f.typeName

def MethodRef.dotClassName (m : MethodRef) : String :=
  Descriptor.dotName m.declaringClass

def MethodRef.descriptor (m : MethodRef) : String :=
  "(" ++ String.join m.argumentTypes ++ ")" ++ m.returnType

/-- `class.name(arguments)result`, by which a method is known in listings and graphs. -/
def MethodRef.text (m : MethodRef) : String :=
  m.dotClassName ++ "." ++ m.name ++ m.descriptor

def ClassRef.dotName (c : ClassRef) : String :=
  Descriptor.dotName c.name

def ClassRef.addField (c : ClassRef) (f : FieldRef) : ClassRef :=
  { c with fields := c.fields ++ [f] }

def ClassRef.addMethod (c : ClassRef) (m : MethodRef) : ClassRef :=
  { c with methods := c.methods ++ [m] }

end DexRefs
