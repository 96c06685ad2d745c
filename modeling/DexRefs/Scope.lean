/-!
Which classes a listing covers.
-/

set_option autoImplicit false

namespace DexRefs

/-- Which classes a listing covers: all, those the image defines, or those it takes from
elsewhere. -/
inductive Scope where
  | all
  | internal
  | external
  deriving DecidableEq, Repr, Inhabited

namespace Scope

def name : Scope → String
  | all => "all"
  | internal => "internal"
  | external => "external"

def choices : List Scope := [all, internal, external]

def ofName? (s : String) : Option Scope :=
  choices.find? (·.name == s)

def includesInternal : Scope → Bool
  | external => false
  | _ => true

def includesExternal : Scope → Bool
  | internal => false
  | _ => true

end Scope

end DexRefs
