import DexRefs.Image.Tables
import DexRefs.Reference
import DexRefs.Scope

/-!
From tables to references.  Classification decides for each type whether it is internal: defined
by the image, or a primitive or an array.  Assembly then lists the selected types as classes, in
ascending type index, and hands each its fields and methods in table order.

Both follow indices that need not be in range; an index is only followed where its row is
selected, and one that leads nowhere makes the whole listing fail.
-/

set_option autoImplicit false

namespace DexRefs

inductive ListingFault where
  | flagCount (found expected : Nat)
  | danglingIndex
  /-- A class definition holds a number that is no index: indices are signed words of 64 bits. -/
  | indexOverflow
  deriving DecidableEq, Repr

def ListingFault.message : ListingFault → String
  | flagCount found expected =>
    "Classification has " ++ decimal found ++ " entries, expected " ++ decimal expected
  | danglingIndex => "index out of range"
  | indexOverflow => "number too large for an index"

namespace Tables

def follow {α : Type} : Option α → Except ListingFault α
  | some a => .ok a
  | none => .error .danglingIndex

def indexLimit : Nat := 0x8000000000000000

/-- Why the flags of the defined types cannot be set.  All class definitions are made indices
before any of them is followed. -/
def definedFault (t : Tables) : ListingFault :=
  if t.classDefs.any (indexLimit ≤ ·) then .indexOverflow else .danglingIndex

/-- One flag for each type: whether a class definition names it, or its descriptor is built in. -/
def classify (t : Tables) : Except ListingFault (Array Bool) := do
  let defined := t.classDefs.foldl (fun flags c => flags.setIfInBounds c true)
    (Array.replicate t.types.size false)
  if t.classDefs.any (t.types.size ≤ ·) then .error t.definedFault
  let builtIn ← t.types.mapM fun d => Descriptor.isBuiltIn <$> follow t.strings[d]?
  pure (Array.zipWith (· || ·) defined builtIn)

def checkFlags (t : Tables) (flags : Array Bool) : Except ListingFault Unit :=
  if flags.size = t.types.size then pure ()
  else .error (.flagCount flags.size t.types.size)

structure Selection where
  internal : Bool
  external : Bool
  deriving DecidableEq, Repr

def Selection.ofScope (s : Scope) : Selection :=
  ⟨s.includesInternal, s.includesExternal⟩

def Selection.covers (s : Selection) (internal : Bool) : Bool :=
  (s.internal && internal) || (s.external && !internal)

/-- The listed classes by type index, without members; a type that is not listed has no slot. -/
def slots (t : Tables) (flags : Array Bool) (s : Selection) :
    Except ListingFault (Array (Option ClassRef)) :=
  Array.mapM (fun (p : Nat × Bool) =>
    if s.covers p.2 then do
      let name ← follow (t.descriptor? p.1)
      pure (some { name, internal := p.2 })
    else pure none)
    (Array.zip (Array.range t.types.size) flags)

def resolveField (t : Tables) (c : ClassRef) (f : FieldId) : Except ListingFault FieldRef := do
  let name ← follow t.strings[f.name]?
  let typeName ← follow (t.descriptor? f.type)
  pure { declaringClass := c.name, name, typeName, internal := c.internal }

def resolveMethod (t : Tables) (c : ClassRef) (m : MethodId) : Except ListingFault MethodRef := do
  let proto ← follow t.protos[m.proto]?
  let name ← follow t.strings[m.name]?
  let argumentTypes ← proto.parameters.mapM fun i => follow (t.descriptor? i)
  let returnType ← follow (t.descriptor? proto.returnType)
  pure { declaringClass := c.name, name, argumentTypes, returnType, internal := c.internal }

def addMember {α ρ : Type} (owner : α → Nat) (resolve : ClassRef → α → Except ListingFault ρ)
    (add : ClassRef → ρ → ClassRef) (slots : Array (Option ClassRef)) (a : α) :
    Except ListingFault (Array (Option ClassRef)) :=
  match slots[owner a]? with
  | some (some c) => do
    let r ← resolve c a
    pure (slots.setIfInBounds (owner a) (some (add c r)))
  | _ => pure slots

def addField (t : Tables) (slots : Array (Option ClassRef)) (f : FieldId) :
    Except ListingFault (Array (Option ClassRef)) :=
  addMember FieldId.owner t.resolveField ClassRef.addField slots f

def addMethod (t : Tables) (slots : Array (Option ClassRef)) (m : MethodId) :
    Except ListingFault (Array (Option ClassRef)) :=
  addMember MethodId.owner t.resolveMethod ClassRef.addMethod slots m

def assemble (t : Tables) (flags : Array Bool) (s : Selection) :
    Except ListingFault (List ClassRef) := do
  t.checkFlags flags
  let slots ← t.slots flags s
  let slots ← t.fields.foldlM t.addField slots
  let slots ← t.methods.foldlM t.addMethod slots
  pure (slots.toList.filterMap id)

end Tables

end DexRefs
