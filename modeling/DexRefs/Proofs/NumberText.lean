import DexRefs.Report.Document
import Mathlib.Algebra.Order.Ring.Nat

/-!
Numerals.  Whole numbers and finite floating-point numbers are written as numerals: a whole part
without leading zeros, perhaps with a sign before it, a fraction after it and an exponent in the
end.
-/

set_option autoImplicit false

namespace DexRefs

namespace Json

def areDigits (cs : List Char) : Bool :=
  !cs.isEmpty && cs.all (·.isDigit)

def isWhole (cs : List Char) : Bool :=
  areDigits cs && (cs = ['0'] || cs.head? != some '0')

def withoutSign : List Char → List Char
  | '+' :: cs => cs
  | '-' :: cs => cs
  | cs => cs

def isExponent : List Char → Bool
  | [] => true
  | c :: cs => (c = 'e' || c = 'E') && areDigits (withoutSign cs)

def isFraction : List Char → Bool
  | '.' :: cs => areDigits (cs.takeWhile (·.isDigit)) && isExponent (cs.dropWhile (·.isDigit))
  | cs => isExponent cs

def isUnsigned (cs : List Char) : Bool :=
  isWhole (cs.takeWhile (·.isDigit)) && isFraction (cs.dropWhile (·.isDigit))

def isNumeral : List Char → Bool
  | '-' :: cs => isUnsigned cs
  | cs => isUnsigned cs

theorem areDigits_iff {cs : List Char} :
    areDigits cs = true ↔ cs ≠ [] ∧ ∀ c ∈ cs, c.isDigit = true := by
  simp [areDigits]

theorem head?_of_isExponent {cs : List Char} (h : isExponent cs = true) :
    ∀ c ∈ cs.head?, c.isDigit = false := by
  cases cs with
  | nil => simp
  | cons c cs =>
    simp only [isExponent, Bool.and_eq_true, Bool.or_eq_true, decide_eq_true_eq] at h
    simp only [List.head?_cons, Option.mem_some_iff, forall_eq']
    obtain rfl | rfl := h.1 <;> rfl

theorem head?_of_isFraction {cs : List Char} (h : isFraction cs = true) :
    ∀ c ∈ cs.head?, c.isDigit = false := by
  unfold isFraction at h
  split at h
  · simp
  · exact head?_of_isExponent h

theorem span_append {p : Char → Bool} {cs rest : List Char} (hcs : ∀ c ∈ cs, p c = true)
    (hrest : ∀ c ∈ rest.head?, p c = false) :
    (cs ++ rest).takeWhile p = cs ∧ (cs ++ rest).dropWhile p = rest := by
  rw [List.takeWhile_append_of_pos hcs, List.dropWhile_append_of_pos hcs]
  cases rest with
  | nil => simp
  | cons c rest => simp [hrest c (by simp)]

theorem isUnsigned_append {whole rest : List Char} (hwhole : isWhole whole = true)
    (hrest : isFraction rest = true) : isUnsigned (whole ++ rest) = true := by
  have hdigits := (areDigits_iff.mp (Bool.and_eq_true_iff.mp hwhole).1).2
  obtain ⟨htake, hdrop⟩ := span_append hdigits (head?_of_isFraction hrest)
  rw [isUnsigned, htake, hdrop, hwhole, hrest]
  rfl

theorem isFraction_append {ds rest : List Char} (hds : areDigits ds = true)
    (hrest : isExponent rest = true) : isFraction ('.' :: ds ++ rest) = true := by
  obtain ⟨htake, hdrop⟩ := span_append (areDigits_iff.mp hds).2 (head?_of_isExponent hrest)
  rw [List.cons_append, isFraction, htake, hdrop, hds, hrest]
  rfl

theorem isNumeral_sign (negative : Bool) {cs : List Char} (h : isUnsigned cs = true) :
    isNumeral ((Binary64.signText negative).toList ++ cs) = true := by
  cases negative with
  | true => exact h
  | false =>
    change isNumeral cs = true
    unfold isNumeral
    split
    · simp [isUnsigned, isWhole, areDigits] at h
    · exact h

/-! ### Digits of numbers -/

theorem areDigits_toDigits (n : Nat) : areDigits (Nat.toDigits 10 n) = true :=
  areDigits_iff.mpr ⟨Nat.toDigits_ne_nil, fun _ =>
    Nat.isDigit_of_mem_toDigits (by decide) (by decide)⟩

theorem head?_toDigits {n : Nat} (h : n ≠ 0) : (Nat.toDigits 10 n).head? ≠ some '0' := by
  induction n using Nat.strongRecOn with
  | ind n ih =>
    obtain hlt | hle := Nat.lt_or_ge n 10
    · rw [Nat.toDigits_of_lt_base hlt]
      have hdigit : ∀ k < 10, k ≠ 0 → [k.digitChar].head? ≠ some '0' := by decide
      exact hdigit n hlt h
    · rw [Nat.toDigits_of_base_le (by decide) hle]
      have hne : (Nat.toDigits 10 (n / 10)) ≠ [] := Nat.toDigits_ne_nil
      rw [List.head?_append, Option.or_of_isSome (by simp [hne])]
      exact ih (n / 10) (by omega) (by omega)

theorem isWhole_toDigits (n : Nat) : isWhole (Nat.toDigits 10 n) = true := by
  rw [isWhole, areDigits_toDigits, Bool.true_and]
  by_cases hn : n = 0
  · subst hn
    rfl
  · simp [head?_toDigits hn]

theorem isNumeral_decimalInt (i : Int) : isNumeral (decimalInt i).toList = true := by
  have hunsigned : isUnsigned (Nat.toDigits 10 i.natAbs ++ []) = true :=
    isUnsigned_append (isWhole_toDigits i.natAbs) rfl
  rw [List.append_nil] at hunsigned
  have hsign : (decimalInt i).toList =
      (Binary64.signText (decide (i < 0))).toList ++ Nat.toDigits 10 i.natAbs := by
    unfold decimalInt decimal Binary64.signText
    by_cases hi : i < 0 <;> simp [hi]
  rw [hsign]
  exact isNumeral_sign _ hunsigned

/-! ### Floating-point numbers -/

theorem isExponent_exponentText (e : Int) :
    isExponent (Binary64.exponentText e).toList = true := by
  have hdigits : areDigits ((if e.natAbs < 10 then ['0'] else []) ++ Nat.toDigits 10 e.natAbs) =
      true := by
    have hnat := areDigits_iff.mp (areDigits_toDigits e.natAbs)
    rw [areDigits_iff]
    split <;> simp_all
  have htext : (Binary64.exponentText e).toList = 'e' :: (if e < 0 then '-' else '+') ::
      ((if e.natAbs < 10 then ['0'] else []) ++ Nat.toDigits 10 e.natAbs) := by
    unfold Binary64.exponentText
    by_cases he : e < 0 <;> by_cases hten : e.natAbs < 10 <;> simp [he, hten]
  rw [htext, isExponent]
  by_cases he : e < 0 <;> simpa [he, withoutSign] using hdigits

theorem isFraction_fraction {ds rest : List Char} (hds : ∀ c ∈ ds, c.isDigit = true)
    (hrest : isExponent rest = true) :
    isFraction ((if ds.isEmpty then [] else '.' :: ds) ++ rest) = true := by
  cases ds with
  | nil =>
    unfold isFraction
    split
    next cs hcs => simp_all [isExponent]
    · exact hrest
  | cons d ds => exact isFraction_append (areDigits_iff.mpr ⟨by simp, hds⟩) hrest

theorem isWhole_of_head {c : Char} {cs : List Char} (hzero : c ≠ '0')
    (hdigits : ∀ d ∈ c :: cs, d.isDigit = true) : isWhole (c :: cs) = true := by
  rw [isWhole, areDigits_iff.mpr ⟨by simp, hdigits⟩]
  simp [hzero]

theorem isDigit_of_mem_zeros {n : Nat} {d : Char} (hd : d ∈ List.replicate n '0') :
    d.isDigit = true := by
  rw [List.eq_of_mem_replicate hd]
  rfl

theorem isUnsigned_layout {c : Char} {cs : List Char} (hzero : c ≠ '0')
    (hdigits : ∀ d ∈ c :: cs, d.isDigit = true) (k : Int) :
    isUnsigned ((Binary64.layout (c :: cs) k).1 ++ (Binary64.layout (c :: cs) k).2.toList) =
      true := by
  have hnone : isExponent [] = true := rfl
  unfold Binary64.layout
  split
  · split
    next hnonpos =>
      have hwhole : isWhole ['0'] = true := rfl
      have hzeros : ∀ d ∈ List.replicate (-k).toNat '0' ++ c :: cs, d.isDigit = true :=
        List.forall_mem_append.mpr ⟨fun _ => isDigit_of_mem_zeros, hdigits⟩
      have hfraction := isFraction_append (areDigits_iff.mpr ⟨by simp, hzeros⟩) hnone
      simpa using isUnsigned_append hwhole hfraction
    next hpos =>
      obtain ⟨j, hj⟩ : ∃ j, k.toNat = j + 1 := ⟨k.toNat - 1, by omega⟩
      have hwhole : isWhole ((c :: cs).take k.toNat ++
          List.replicate (k.toNat - (c :: cs).length) '0') = true := by
        rw [hj, List.take_succ_cons, List.cons_append]
        refine isWhole_of_head hzero (List.forall_mem_cons.mpr ⟨hdigits c (by simp), ?_⟩)
        refine List.forall_mem_append.mpr ⟨fun d hd => ?_, fun _ => isDigit_of_mem_zeros⟩
        exact hdigits d (List.mem_cons_of_mem c (List.mem_of_mem_take hd))
      have hrest : areDigits (if ((c :: cs).drop k.toNat).isEmpty then ['0']
          else (c :: cs).drop k.toNat) = true := by
        split
        · rfl
        next hne =>
          exact areDigits_iff.mpr ⟨by simpa using hne, fun d hd =>
            hdigits d (List.mem_of_mem_drop hd)⟩
      simpa using isUnsigned_append hwhole (isFraction_append hrest hnone)
  · have hwhole : isWhole [c] = true := isWhole_of_head hzero (by simp [hdigits c])
    have hrest := isFraction_fraction (fun d hd => hdigits d (List.mem_cons_of_mem c hd))
      (isExponent_exponentText (k - 1))
    have hunsigned := isUnsigned_append hwhole hrest
    by_cases hcs : cs = [] <;> simpa [hcs] using hunsigned

end Json

namespace Binary64

variable {m n : Nat} {e exp : Int}

theorem readsBack_zero (hm : m ≠ 0) (e exp : Int) : readsBack m e 0 exp = false := by
  have hlow : (scaleBinary (if m = carry / 2 ∧ leastExponent < e then 4 * m - 1
      else 4 * m - 2) 4 e).1 ≠ 0 := by
    refine (Nat.mul_pos ?_ (Nat.pow_pos (by decide))).ne'
    split <;> omega
  unfold readsBack
  simp only [Nat.zero_mul]
  split
  · simp [hlow]
  · simp

theorem candidate_ne_zero (hm : m ≠ 0) (h : candidate m e exp = some n) : n ≠ 0 := by
  rintro rfl
  have hzero := readsBack_zero hm e exp
  unfold candidate at h
  dsimp only at h
  split at h
  next hreads =>
    rw [Option.some.inj h, hzero] at hreads
    cases hreads
  · split at h
    next hreads =>
      rw [Option.some.inj h, hzero] at hreads
      cases hreads
    · split at h
      · cases h
      · cases h

theorem stripZeros_ne_zero {fuel : Nat} (hn : n ≠ 0) : (stripZeros fuel n exp).1 ≠ 0 := by
  induction fuel generalizing n exp with
  | zero => exact hn
  | succ fuel ih =>
    unfold stripZeros
    split
    · exact ih (by omega)
    · exact hn

theorem shortest_ne_zero (hm : m ≠ 0) (e : Int) : (shortest m e).1 ≠ 0 := by
  unfold shortest
  dsimp only
  split
  next n exp hfind =>
    obtain ⟨i, -, hi⟩ := List.exists_of_findSome?_eq_some hfind
    obtain ⟨n', hcandidate, hn'⟩ := Option.map_eq_some_iff.mp hi
    cases hn'
    exact stripZeros_ne_zero (candidate_ne_zero hm hcandidate)
  · have hpow (b k : Nat) (hb : 0 < b) : Nat.pow b k ≠ 0 := (Nat.pow_pos hb).ne'
    exact Nat.mul_ne_zero (Nat.mul_ne_zero hm (hpow 2 _ (by decide))) (hpow 5 _ (by decide))

theorem isUnsigned_parts (m : Nat) (e : Int) :
    Json.isUnsigned ((parts m e).1 ++ (parts m e).2.toList) = true := by
  unfold parts
  split
  · decide
  next hm =>
    dsimp only
    have hdigits := Json.areDigits_iff.mp (Json.areDigits_toDigits (shortest m e).1)
    have hhead := Json.head?_toDigits (shortest_ne_zero hm e)
    generalize (shortest m e).2 + ((Nat.toDigits 10 (shortest m e).1).length : Int) = k
    cases hds : Nat.toDigits 10 (shortest m e).1 with
    | nil => exact absurd hds hdigits.1
    | cons c cs =>
      rw [hds] at hdigits hhead
      exact Json.isUnsigned_layout (by simpa using hhead) hdigits.2 k

theorem isNumeral_text (negative : Bool) (m : Nat) (e : Int) :
    Json.isNumeral (finite negative m e).text.toList = true := by
  have htext : (finite negative m e).text.toList =
      (signText negative).toList ++ ((parts m e).1 ++ (parts m e).2.toList) := by
    simp [text]
  rw [htext]
  exact Json.isNumeral_sign negative (isUnsigned_parts m e)

end Binary64

end DexRefs
