import DexRefs.Proofs.ArchiveFaults
import DexRefs.Proofs.CommandRun
import DexRefs.Proofs.DocumentReading

/-!
The exit code of a run that prints its result as JSON.  It tells whether the file has an image, and
all of them where the scan is to fail fast, that can be decoded; what is printed is the result, or
the fault where there is none.
-/

set_option autoImplicit false

namespace DexRefs

namespace Scan

open Logged (Ends)

variable {scope : Scope} {s : Source} {e : ImageResult}

end Scan

namespace Container

end Container

namespace Command

open Logged (Ends)

variable (path : String) (scope : Option Scope) (members : Option Bool) (failFast verbose : Bool)

theorem name_dashed (o : Switch) :
    o.name ≠ "--" ∧ o.name.toList.head? = some '-' ∧ o.name ≠ "-" := by
  cases o with
  | members shown => cases shown <;> decide
  | _ => decide

theorem dashed_name (o : Switch) : dashed o.name.toList =
    .ok (if o.takesValue then ([], some o) else ([.flag o], none)) := by
  cases o with
  | members shown => cases shown <;> rfl
  | _ => rfl

/-- What arguments stand for, whatever comes after them. -/
def Spells (as : List String) (ws : List Word) : Prop :=
  ∀ rest, words (as ++ rest) = (words rest).map (ws ++ ·)

namespace Spells

theorem nil : Spells [] [] := by
  intro rest
  rw [List.nil_append]
  cases words rest <;> rfl

theorem flag {o : Switch} (ho : o.takesValue = false) : Spells [o.name] [.flag o] := by
  intro rest
  rw [List.singleton_append, words, if_neg (name_dashed o).1, if_pos (name_dashed o).2, dashed_name,
    ho]
  change (words rest >>= fun ws => pure ([.flag o] ++ ws)) = _
  cases words rest <;> rfl

theorem option {o : Switch} (ho : o.takesValue = true) (v : String) :
    Spells [o.name, v] [.option o v] := by
  intro rest
  rw [List.cons_append, List.singleton_append, words, if_neg (name_dashed o).1,
    if_pos (name_dashed o).2, dashed_name, ho]
  change (words rest >>= fun ws => pure ([] ++ .option o v :: ws)) = _
  cases words rest <;> rfl

theorem append {as bs : List String} {ws vs : List Word} (h : Spells as ws) (h' : Spells bs vs) :
    Spells (as ++ bs) (ws ++ vs) := by
  intro rest
  rw [List.append_assoc, h, h']
  cases words rest with
  | error f => rfl
  | ok us => exact congrArg Except.ok (List.append_assoc ..).symm

end Spells

section Run

variable (screen : Render.Screen) (calls : Nat) (clock : Clock) (files : FileTree)

variable {path scope members failFast verbose screen calls clock files}

end Run

end Command

end DexRefs
