import DexRefs.Console.EmojiCodes
import Mathlib.Tactic.Common

/-!
Which emoji codes a text has.  Its words are parted by colons, and what stands between the first
two colons of a word, between the next two and so on, are the names of its codes.
-/

set_option autoImplicit false

namespace DexRefs.Emoji

variable {codes : Codes} {name cs : List Char} {c : Char}

def paired : List (List Char) → List (List Char)
  | _ :: name :: rest :: more => name :: paired (rest :: more)
  | _ => []

def names (cs : List Char) : List (List Char) :=
  (cs.splitOnP isBlank).flatMap fun word => paired (word.splitOn ':')

theorem splitOnP_append {α : Type} {p : α → Bool} {xs : List α} (h : ∀ x ∈ xs, p x = false)
    (ys : List α) : (xs ++ ys).splitOnP p = (ys.splitOnP p).modifyHead (xs ++ ·) := by
  induction xs with
  | nil =>
    change ys.splitOnP p = (ys.splitOnP p).modifyHead id
    rw [List.modifyHead_id]
    rfl
  | cons x xs ih =>
    obtain ⟨hx, hxs⟩ := List.forall_mem_cons.mp h
    rw [List.cons_append, List.splitOnP_cons_eq_if_modifyHead, hx, ih hxs]
    cases ys.splitOnP p <;> simp

/-- The characters may stand in a name. -/
def Joined (cs : List Char) : Prop :=
  ∀ c ∈ cs, c ≠ ':' ∧ isBlank c = false

theorem Joined.not_blank (h : Joined name) : ∀ c ∈ ':' :: name, isBlank c = false :=
  List.forall_mem_cons.mpr ⟨rfl, fun c hc => (h c hc).2⟩

theorem Joined.not_colon (h : Joined name) : ':' ∉ name :=
  fun hc => (h _ hc).1 rfl

theorem paired_modifyHead (f : List Char → List Char) (ws : List (List Char)) :
    paired (ws.modifyHead f) = paired ws := by
  cases ws with
  | nil => rfl
  | cons w ws =>
    cases ws with
    | nil => rfl
    | cons v ws => cases ws <;> rfl

theorem paired_cons_cons (name : List Char) {ws : List (List Char)} (h : ws ≠ []) :
    paired ([] :: name :: ws) = name :: paired ws := by
  cases ws with
  | nil => exact absurd rfl h
  | cons w ws => rfl

theorem splitOn_colon (cs : List Char) : (':' :: cs).splitOn ':' = [] :: cs.splitOn ':' := by
  simp [List.splitOn_cons_eq_if_modifyHead]

theorem names_cons (h : c ≠ ':') : names (c :: cs) = names cs := by
  unfold names
  rw [List.splitOnP_cons_eq_if_modifyHead]
  split
  · rfl
  obtain ⟨w, ws, hws⟩ := List.exists_cons_of_ne_nil (List.splitOnP_ne_nil isBlank cs)
  have hword : paired ((c :: w).splitOn ':') = paired (w.splitOn ':') := by
    rw [List.splitOn_cons_eq_if_modifyHead, if_neg (by simpa using h), paired_modifyHead]
  rw [hws, List.modifyHead_cons, List.flatMap_cons, List.flatMap_cons, hword]

theorem names_code (h : Joined name) (cs : List Char) :
    names (':' :: (name ++ ':' :: cs)) = name :: names cs := by
  have hprefix : ∀ d ∈ ':' :: (name ++ [':']), isBlank d = false := by
    have hcolon : isBlank ':' = false := rfl
    simp only [List.mem_cons, List.mem_append, List.not_mem_nil, or_false]
    rintro d (rfl | hd | rfl)
    · exact hcolon
    · exact (h d hd).2
    · exact hcolon
  have hsplit := splitOnP_append hprefix cs
  obtain ⟨w, ws, hws⟩ := List.exists_cons_of_ne_nil (List.splitOnP_ne_nil isBlank cs)
  rw [hws, List.modifyHead_cons] at hsplit
  have hword : (':' :: (name ++ [':']) ++ w).splitOn ':' = [] :: name :: w.splitOn ':' := by
    have hrest : (name ++ ':' :: w).splitOn ':' = name :: w.splitOn ':' :=
      List.splitOnP_append_cons_of_forall_mem (fun d hd => by simpa using (h d hd).1) ':' rfl w
    rw [List.cons_append, List.append_assoc, List.singleton_append, splitOn_colon, hrest]
  have hne : w.splitOn ':' ≠ [] := List.splitOnP_ne_nil _ _
  have hlist : ':' :: (name ++ ':' :: cs) = ':' :: (name ++ [':']) ++ cs := by simp
  unfold names
  rw [hlist, hsplit, hws, List.flatMap_cons, List.flatMap_cons, hword,
    paired_cons_cons name hne, List.cons_append]

theorem paired_open (h : Joined name) : paired ((':' :: name).splitOn ':') = [] := by
  rw [splitOn_colon, List.splitOn_eq_singleton h.not_colon]
  rfl

theorem names_open (h : Joined name) : names (':' :: name) = [] := by
  unfold names
  rw [List.splitOnP_eq_singleton h.not_blank, List.flatMap_singleton, paired_open h]

theorem names_open_blank (h : Joined name) (hc : isBlank c = true) (cs : List Char) :
    names (':' :: (name ++ c :: cs)) = names cs := by
  have hsplit : (':' :: name ++ c :: cs).splitOnP isBlank = _ := List.splitOnP_append_cons _ _ hc
  unfold names
  rw [← List.cons_append, hsplit, List.flatMap_append,
    List.splitOnP_eq_singleton h.not_blank, List.flatMap_singleton, paired_open h,
    List.nil_append]

/-! ### Replacement -/

def known (codes : Codes) (name : List Char) : Bool :=
  (glyph codes name).isSome

/-- No glyph has a colon. -/
def Plain (codes : Codes) : Prop :=
  ∀ name g, codes name = some g → ':' ∉ g

theorem Plain.glyph (h : Plain codes) {g : List Char} (hg : glyph codes name = some g) :
    ':' ∉ g := by
  unfold Emoji.glyph at hg
  split at hg
  next suffix form hform =>
    obtain ⟨g', hcodes, rfl⟩ := Option.map_eq_some_iff.mp hg
    have hforms : ∀ f ∈ forms, ':' ≠ f.2 := by decide
    have hne : ':' ≠ form := hforms _ (List.mem_of_find?_eq_some hform)
    simp [h _ _ hcodes, hne]
  next => exact h _ _ hg

theorem mem_of_mem_splitOnP {α : Type} {p : α → Bool} {xs ys : List α}
    (h : ys ∈ xs.splitOnP p) : ∀ y ∈ ys, p y = false := by
  induction xs generalizing ys with
  | nil =>
    obtain rfl := List.mem_singleton.mp h
    simp
  | cons x xs ih =>
    rw [List.splitOnP_cons_eq_if_modifyHead] at h
    split at h
    · obtain rfl | h := List.mem_cons.mp h
      · simp
      · exact ih h
    next hx =>
      obtain ⟨z, zs, hzs⟩ := List.exists_cons_of_ne_nil (List.splitOnP_ne_nil p xs)
      rw [hzs, List.modifyHead_cons] at h
      obtain rfl | h := List.mem_cons.mp h
      · exact List.forall_mem_cons.mpr ⟨by simpa using hx, ih (hzs ▸ List.mem_cons_self)⟩
      · exact ih (hzs ▸ List.mem_cons_of_mem _ h)

theorem plain_published : Plain published := by
  intro name g hg
  obtain ⟨before, after, htable, -⟩ := List.lookup_eq_some_iff.mp hg
  have hentry : (name, g) ∈ publishedTable := by simp [htable]
  obtain ⟨line, -, hline⟩ := List.mem_flatMap.mp hentry
  obtain ⟨word, -, hword⟩ := List.mem_filterMap.mp hline
  unfold entry? at hword
  split at hword
  next hsplit =>
    cases hword
    intro hmem
    simpa using mem_of_mem_splitOnP (hsplit ▸ (by simp) : g ∈ word.splitOn ':') _ hmem
  next => cases hword

def begun : Option (List Char) → List Char
  | none => []
  | some name => ':' :: name.reverse

variable {s : Option (List Char)}

theorem replaceFrom_eq_self (hstate : ∀ name ∈ s, Joined name)
    (h : ∀ name ∈ names (begun s ++ cs), glyph codes name = none) :
    replaceFrom codes s cs = begun s ++ cs := by
  induction cs generalizing s with
  | nil => cases s <;> simp [replaceFrom, begun]
  | cons c cs ih =>
    have hrest (h : ∀ name ∈ names cs, glyph codes name = none) : replaceFrom codes none cs = cs :=
      ih (s := none) (by simp) h
    cases s with
    | none =>
      rw [replaceFrom]
      split
      next hc =>
        subst hc
        exact ih (s := some []) (by simp [Joined]) h
      next hc =>
        simp only [begun, List.nil_append, names_cons hc] at h ⊢
        rw [hrest h]
    | some name =>
      have hname : Joined name.reverse := fun d hd => hstate name rfl d (List.mem_reverse.mp hd)
      simp only [begun, List.cons_append] at h ⊢
      rw [replaceFrom]
      split
      next hc =>
        subst hc
        rw [names_code hname, List.forall_mem_cons] at h
        rw [h.1, hrest h.2]
        simp
      next hc =>
        split
        next hblank =>
          rw [names_open_blank hname hblank] at h
          rw [hrest h]
          simp
        next hblank =>
          have hcons : Joined (c :: name) :=
            List.forall_mem_cons.mpr ⟨⟨hc, by simpa using hblank⟩, hstate name rfl⟩
          have hnext := ih (s := some (c :: name)) (by simpa using hcons)
          simp only [begun, List.reverse_cons, List.cons_append, List.append_assoc,
            List.nil_append] at hnext
          exact hnext h

/-- Each code that is known takes its two colons with it. -/
theorem count_replaceFrom (hplain : Plain codes) (hstate : ∀ name ∈ s, Joined name)
    (cs : List Char) : (replaceFrom codes s cs).count ':' +
      2 * (names (begun s ++ cs)).countP (known codes) = (begun s ++ cs).count ':' := by
  induction cs generalizing s with
  | nil =>
    cases s with
    | none => rfl
    | some name =>
      have hname : Joined name.reverse := fun d hd => hstate name rfl d (List.mem_reverse.mp hd)
      simp [begun, replaceFrom, names_open hname]
  | cons c cs ih =>
    cases s with
    | none =>
      rw [replaceFrom]
      split
      next hc =>
        subst hc
        exact ih (s := some []) (by simp [Joined])
      next hc =>
        have hnext := ih (s := none) (by simp)
        simp only [begun, List.nil_append, names_cons hc] at hnext ⊢
        rw [List.count_cons_of_ne hc, List.count_cons_of_ne hc, hnext]
    | some name =>
      have hname : Joined name.reverse := fun d hd => hstate name rfl d (List.mem_reverse.mp hd)
      have hcolons : name.reverse.count ':' = 0 := List.count_eq_zero.mpr hname.not_colon
      have hnext := ih (s := none) (by simp)
      simp only [begun, List.nil_append, List.cons_append] at hnext ⊢
      rw [replaceFrom]
      split
      next hc =>
        subst hc
        rw [names_code hname, List.countP_cons, List.count_append, known]
        cases hg : glyph codes name.reverse with
        | none => simp [List.count_append, hcolons]; omega
        | some g =>
          have hzero : g.count ':' = 0 := List.count_eq_zero.mpr (hplain.glyph hg)
          simp [List.count_append, hcolons, hzero]
          omega
      next hc =>
        split
        next hblank =>
          rw [names_open_blank hname hblank]
          simp [List.count_append, hcolons, List.count_cons_of_ne hc]
          omega
        next hblank =>
          have hcons : Joined (c :: name) :=
            List.forall_mem_cons.mpr ⟨⟨hc, by simpa using hblank⟩, hstate name rfl⟩
          have hmore := ih (s := some (c :: name)) (by simpa using hcons)
          simpa [begun] using hmore

/-- A text stays as it is if and only if it has no code that is known; otherwise it loses
colons. -/
theorem replace_eq_self (h : ∀ name ∈ names cs, glyph codes name = none) :
    replace codes cs = cs :=
  replaceFrom_eq_self (s := none) (by simp) h

theorem count_replace (hplain : Plain codes) (cs : List Char) :
    (replace codes cs).count ':' + 2 * (names cs).countP (known codes) = cs.count ':' :=
  count_replaceFrom (s := none) hplain (by simp) cs

theorem forall_glyph_eq_none {ns : List (List Char)} (h : ns.countP (known codes) = 0) :
    ∀ name ∈ ns, glyph codes name = none := by
  intro name hname
  simpa [known] using List.countP_eq_zero.mp h name hname

end DexRefs.Emoji
