/-!
Lists of entries by key, in the order in which the keys first came.
-/

set_option autoImplicit false

namespace DexRefs

/-- Stores a value under a key: in the key's place if it has one, at the end otherwise. -/
def putEntry {κ α : Type} [DecidableEq κ] (k : κ) (a : α) : List (κ × α) → List (κ × α)
  | [] => [(k, a)]
  | p :: ps => if p.1 = k then (k, a) :: ps else p :: putEntry k a ps

theorem lookup_putEntry_self {κ α : Type} [DecidableEq κ] (k : κ) (a : α)
    (ps : List (κ × α)) : (putEntry k a ps).lookup k = some a := by
  induction ps with
  | nil => simp [putEntry]
  | cons p ps ih =>
    obtain ⟨l, b⟩ := p
    by_cases h : l = k
    · simp [putEntry, h]
    · have hk : (k == l) = false := by simpa using fun e => h e.symm
      simp [putEntry, h, List.lookup_cons, hk, ih]

theorem lookup_putEntry_ne {κ α : Type} [DecidableEq κ] {k l : κ} (a : α)
    (ps : List (κ × α)) (hl : l ≠ k) : (putEntry k a ps).lookup l = ps.lookup l := by
  have hlk : (l == k) = false := by simpa using hl
  induction ps with
  | nil => simp [putEntry, List.lookup_cons, hlk]
  | cons p ps ih =>
    obtain ⟨m, b⟩ := p
    by_cases h : m = k
    · simp [putEntry, h, List.lookup_cons, hlk]
    · simp [putEntry, h, List.lookup_cons, ih]

end DexRefs
