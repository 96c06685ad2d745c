import DexRefs.Keyed
import Mathlib.Data.List.Nodup
import Mathlib.Data.List.Induction

/-!
Entries stored one after the other.  The last entry of a key counts, and keys stay in the order in
which they first came.
-/

set_option autoImplicit false

namespace DexRefs

section

variable {κ α : Type} [DecidableEq κ] {k l : κ} {a : α} {ps qs : List (κ × α)}

def valueOf? (ps : List (κ × α)) (k : κ) : Option α :=
  ps.lookup k

theorem lookup_cons_if (p : κ × α) (ps : List (κ × α)) (k : κ) :
    (p :: ps).lookup k = if k = p.1 then some p.2 else ps.lookup k := by
  obtain ⟨l, a⟩ := p
  rw [List.lookup_cons]
  by_cases h : k = l
  · rw [if_pos h, beq_iff_eq.mpr h]
  · rw [if_neg h, beq_eq_false_iff_ne.mpr h]

theorem lookup_putEntry : (putEntry k a ps).lookup l = if l = k then some a else ps.lookup l := by
  by_cases h : l = k
  · rw [if_pos h, h, lookup_putEntry_self]
  · rw [if_neg h, lookup_putEntry_ne a ps h]

theorem keys_putEntry : (putEntry k a ps).map Prod.fst =
    if k ∈ ps.map Prod.fst then ps.map Prod.fst else ps.map Prod.fst ++ [k] := by
  induction ps with
  | nil => simp [putEntry]
  | cons p ps ih =>
    by_cases h : p.1 = k
    · simp [putEntry, h]
    · have hk : k ≠ p.1 := fun e => h e.symm
      simp only [putEntry, if_neg h, List.map_cons, ih, List.mem_cons, hk, false_or]
      split <;> rfl

theorem mem_of_mem_putEntry {p : κ × α} (h : p ∈ putEntry k a ps) : p = (k, a) ∨ p ∈ ps := by
  induction ps with
  | nil => simpa [putEntry] using h
  | cons q ps ih =>
    by_cases hq : q.1 = k
    · simp only [putEntry, if_pos hq, List.mem_cons] at h ⊢
      tauto
    · simp only [putEntry, if_neg hq, List.mem_cons] at h ⊢
      tauto

theorem mem_iff_lookup (h : (ps.map Prod.fst).Nodup) : (k, a) ∈ ps ↔ ps.lookup k = some a := by
  induction ps with
  | nil => simp
  | cons p ps ih =>
    obtain ⟨l, b⟩ := p
    rw [List.map_cons, List.nodup_cons] at h
    rw [lookup_cons_if]
    by_cases hk : k = l
    · subst hk
      have hm : (k, a) ∉ ps := fun hm => h.1 (List.mem_map.mpr ⟨_, hm, rfl⟩)
      simp [hm, eq_comm]
    · simp [hk, ih h.2]

theorem mem_keys_iff_lookup : k ∈ ps.map Prod.fst ↔ ∃ a, ps.lookup k = some a := by
  induction ps with
  | nil => simp
  | cons p ps ih =>
    rw [lookup_cons_if, List.map_cons, List.mem_cons, ih]
    by_cases hk : k = p.1 <;> simp [hk]

def putEntries (ps qs : List (κ × α)) : List (κ × α) :=
  qs.foldl (fun ps q => putEntry q.1 q.2 ps) ps

@[simp] theorem putEntries_nil (ps : List (κ × α)) : putEntries ps [] = ps := rfl

@[simp] theorem putEntries_cons (ps : List (κ × α)) (q : κ × α) (qs : List (κ × α)) :
    putEntries ps (q :: qs) = putEntries (putEntry q.1 q.2 ps) qs := rfl

theorem putEntries_append (ps qs rs : List (κ × α)) :
    putEntries ps (qs ++ rs) = putEntries (putEntries ps qs) rs :=
  List.foldl_append

theorem lookup_putEntries :
    (putEntries ps qs).lookup k = (qs.reverse.lookup k).or (ps.lookup k) := by
  induction qs generalizing ps with
  | nil => rfl
  | cons q qs ih =>
    rw [putEntries_cons, ih, lookup_putEntry, List.reverse_cons, List.lookup_append, lookup_cons_if]
    by_cases hk : k = q.1 <;> simp [hk]

theorem lookup_putEntries_of_notMem (h : k ∉ qs.map Prod.fst) :
    (putEntries ps qs).lookup k = ps.lookup k := by
  have hr : qs.reverse.lookup k = none := by
    rw [List.lookup_eq_none_iff]
    intro p hp
    simpa using fun e : k = p.1 => h (List.mem_map.mpr ⟨p, by simpa using hp, e.symm⟩)
  rw [lookup_putEntries, hr, Option.none_or]

theorem lookup_putEntries_of_nodup (hq : (qs.map Prod.fst).Nodup) (h : qs.lookup k = some a) :
    (putEntries ps qs).lookup k = some a := by
  have hr : qs.reverse.lookup k = some a := by
    rw [← mem_iff_lookup (by simpa using hq), List.mem_reverse]
    exact (mem_iff_lookup hq).mpr h
  rw [lookup_putEntries, hr, Option.some_or]

theorem lookup_putEntries_last (rs : List (κ × α)) (h : k ∉ rs.map Prod.fst) :
    (putEntries ps (qs ++ (k, a) :: rs)).lookup k = some a := by
  rw [putEntries_append, putEntries_cons, lookup_putEntries_of_notMem h, lookup_putEntry_self]

theorem nodup_putEntry (h : (ps.map Prod.fst).Nodup) :
    ((putEntry k a ps).map Prod.fst).Nodup := by
  rw [keys_putEntry]
  split
  next => exact h
  next hk => exact List.nodup_append'.mpr ⟨h, by simp, by simpa using hk⟩

theorem nodup_putEntries (h : (ps.map Prod.fst).Nodup) :
    ((putEntries ps qs).map Prod.fst).Nodup := by
  induction qs generalizing ps with
  | nil => exact h
  | cons q qs ih => exact ih (nodup_putEntry h)

theorem mem_keys_putEntries : k ∈ (putEntries ps qs).map Prod.fst ↔
    k ∈ ps.map Prod.fst ∨ k ∈ qs.map Prod.fst := by
  induction qs generalizing ps with
  | nil => simp
  | cons q qs ih =>
    have hput : k ∈ (putEntry q.1 q.2 ps).map Prod.fst ↔ k ∈ ps.map Prod.fst ∨ k = q.1 := by
      rw [keys_putEntry]
      split
      next hq => exact ⟨.inl, fun h => h.elim id fun e => e ▸ hq⟩
      next => simp
    rw [putEntries_cons, ih, hput, List.map_cons, List.mem_cons, or_assoc]

theorem mem_of_mem_putEntries {p : κ × α} (h : p ∈ putEntries ps qs) : p ∈ ps ∨ p ∈ qs := by
  induction qs generalizing ps with
  | nil => exact .inl h
  | cons q qs ih =>
    obtain h | h := ih h
    · obtain rfl | h := mem_of_mem_putEntry h
      · exact .inr (by simp)
      · exact .inl h
    · exact .inr (by simp [h])

theorem mem_putEntries_iff {p : κ × α} (h : ∀ q ∈ qs, ∀ q' ∈ qs, q.1 = q'.1 → q = q') :
    p ∈ putEntries [] qs ↔ p ∈ qs := by
  refine ⟨fun hp => by simpa using mem_of_mem_putEntries hp, fun hp => ?_⟩
  have hk : p.1 ∈ (putEntries [] qs).map Prod.fst :=
    mem_keys_putEntries.mpr (.inr (List.mem_map_of_mem hp))
  obtain ⟨q, hq, hkey⟩ := List.mem_map.mp hk
  have hq' : q ∈ qs := by simpa using mem_of_mem_putEntries hq
  rwa [h p hp q hq' hkey.symm]

theorem eraseDups_concat (ks : List κ) (k : κ) :
    (ks ++ [k]).eraseDups = if k ∈ ks then ks.eraseDups else ks.eraseDups ++ [k] := by
  rw [List.eraseDups_append]
  by_cases hk : k ∈ ks <;> simp [List.removeAll, hk, List.eraseDups_cons]

theorem keys_putEntries : (putEntries [] qs).map Prod.fst = (qs.map Prod.fst).eraseDups := by
  induction qs using List.reverseRecOn with
  | nil => rfl
  | append_singleton qs q ih =>
    rw [putEntries_append, putEntries_cons, putEntries_nil, keys_putEntry, ih, List.map_append,
      List.map_singleton, eraseDups_concat]
    simp only [List.mem_eraseDups]

theorem keys_prefix_putEntries : ps.map Prod.fst <+: (putEntries ps qs).map Prod.fst := by
  induction qs generalizing ps with
  | nil => exact List.prefix_rfl
  | cons q qs ih =>
    refine List.IsPrefix.trans ?_ ih
    rw [keys_putEntry]
    split
    · exact List.prefix_rfl
    · exact List.prefix_append _ _

end

end DexRefs
