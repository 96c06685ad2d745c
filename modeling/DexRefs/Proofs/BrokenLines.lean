import DexRefs.Console.Layout
import Mathlib.Tactic.Tauto

/-!
What breaking a text into lines keeps.  Characters get lost at the ends of lines, and blanks take
the place of others, but no character gets a style that none had before.
-/

set_option autoImplicit false

namespace DexRefs

namespace Layout

variable {P : List (List Char) → Prop} {gs line piece word : List Glyph} {limit used : Nat}
  {fold : Bool}

def AllStyled (P : List (List Char) → Prop) (gs : List Glyph) : Prop :=
  ∀ g ∈ gs, P g.styles

theorem AllStyled.expandTabsFrom (h : AllStyled P gs) (column : Nat) :
    AllStyled P (expandTabsFrom column gs) := by
  induction gs generalizing column with
  | nil => exact h
  | cons g gs ih =>
    obtain ⟨hg, hgs⟩ := List.forall_mem_cons.mp h
    rw [Layout.expandTabsFrom]
    split
    · refine List.forall_mem_append.mpr ⟨fun g' hg' => ?_, ih hgs _⟩
      rw [(List.mem_replicate.mp hg').2]
      exact hg
    · exact List.forall_mem_cons.mpr ⟨hg, ih hgs _⟩

theorem subset_of_mem_wordsFrom {fuel : Nat} (h : word ∈ wordsFrom fuel gs) : word ⊆ gs := by
  induction fuel generalizing gs with
  | zero => cases h
  | succ fuel ih =>
    have hrest : gs.dropWhile (isBlank ·.char) ⊆ gs := (List.dropWhile_sublist _).subset
    have hafter : (gs.dropWhile (isBlank ·.char)).dropWhile (!isBlank ·.char) ⊆ gs :=
      List.Subset.trans (List.dropWhile_sublist _).subset hrest
    rw [wordsFrom] at h
    split at h
    · cases h
    · obtain rfl | h := List.mem_cons.mp h
      · simp only [List.append_subset]
        exact ⟨⟨(List.takeWhile_sublist _).subset,
          List.Subset.trans (List.takeWhile_sublist _).subset hrest⟩,
          List.Subset.trans (List.takeWhile_sublist _).subset hafter⟩
      · exact List.Subset.trans (ih h)
          (List.Subset.trans (List.dropWhile_sublist _).subset hafter)

theorem subset_of_mem_chopFrom (h : piece ∈ chopFrom limit line used gs) :
    piece ⊆ line ++ gs := by
  induction gs generalizing line used with
  | nil =>
    obtain rfl := List.mem_singleton.mp h
    simp
  | cons g gs ih =>
    rw [chopFrom] at h
    split at h
    · obtain rfl | h := List.mem_cons.mp h
      · exact fun g hg => List.mem_append_left _ (List.mem_reverse.mp hg)
      · exact List.Subset.trans (ih h) (by simp)
    · refine List.Subset.trans (ih h) fun g' hg' => ?_
      simp only [List.mem_append, List.mem_cons] at hg' ⊢
      tauto

theorem subset_of_mem_fillLines {l : List Glyph} {ws : List (List Glyph)}
    (h : l ∈ fillLines limit fold line used ws) : l ⊆ line ++ ws.flatten := by
  induction ws generalizing line used with
  | nil =>
    obtain rfl := List.mem_singleton.mp h
    simp
  | cons word ws ih =>
    have hjoined {used : Nat} (h : l ∈ fillLines limit fold (line ++ word) used ws) :
        l ⊆ line ++ (word :: ws).flatten := by simpa using ih h
    have hnext {first : List Glyph} {used : Nat} (hfirst : first ⊆ word)
        (h : l ∈ fillLines limit fold first used ws) : l ⊆ line ++ (word :: ws).flatten := by
      intro g hg
      have hmem := ih h hg
      simp only [List.flatten_cons, List.mem_append] at hmem ⊢
      exact .inr (hmem.imp_left (hfirst ·))
    have hline : line ⊆ line ++ (word :: ws).flatten := List.subset_append_left _ _
    have hpieces {piece : List Glyph} (h : piece ∈ chopFrom limit [] 0 word) : piece ⊆ word :=
      subset_of_mem_chopFrom h
    rw [fillLines] at h
    dsimp only at h
    split at h
    · exact hjoined h
    split at h
    · split at h
      · split at h
        next last hlast =>
          rw [List.append_assoc, List.mem_append, List.mem_append] at h
          obtain h | h | h := h
          · split at h
            · cases h
            · exact List.mem_singleton.mp h ▸ hline
          · have hsubset := hpieces (List.dropLast_subset _ h)
            intro g hg
            simp [hsubset hg]
          · exact hnext (hpieces (List.mem_of_getLast? hlast)) h
        next => exact List.Subset.trans (ih h) (by simp)
      · split at h
        · exact hnext (List.Subset.refl _) h
        · obtain rfl | h := List.mem_cons.mp h
          · exact hline
          · exact hnext (List.Subset.refl _) h
    · split at h
      · exact hjoined h
      · obtain rfl | h := List.mem_cons.mp h
        · exact hline
        · exact hnext (List.Subset.refl _) h

theorem AllStyled.cutLine (h : AllStyled P gs) (hempty : P []) : AllStyled P (cutLine limit gs) := by
  unfold Layout.cutLine
  split
  · exact h
  refine List.forall_mem_append.mpr ⟨fun g hg => ?_, fun g hg => ?_⟩
  · exact h g (List.mem_of_mem_take hg)
  · rw [(List.mem_replicate.mp hg).2]
    exact hempty

theorem AllStyled.wrapLine (h : AllStyled P gs) (hempty : P []) :
    ∀ line ∈ wrapLine limit fold gs, AllStyled P line := by
  have hexpanded : AllStyled P (expandTabs gs) := h.expandTabsFrom 0
  have hfilled (fuel : Nat) : ∀ line ∈ fillLines limit fold [] 0 (wordsFrom fuel (expandTabs gs)),
      line ⊆ expandTabs gs := by
    intro line hline g hg
    obtain ⟨word, hword, hg⟩ := List.mem_flatten.mp (by simpa using subset_of_mem_fillLines hline hg)
    exact subset_of_mem_wordsFrom hword hg
  have hcropped {lines : List (List Glyph)} (hlines : ∀ line ∈ lines, line ⊆ expandTabs gs) :
      ∀ line ∈ lines.map (cropBlanks limit), AllStyled P line :=
    List.forall_mem_map.mpr fun line hline g hg =>
      hexpanded g (hlines line hline (List.mem_of_mem_take hg))
  have hcut {lines : List (List Glyph)} (hlines : ∀ line ∈ lines, AllStyled P line) :
      ∀ line ∈ if fold then lines.map (Layout.cutLine limit) else lines, AllStyled P line := by
    split
    · exact List.forall_mem_map.mpr fun line hline => (hlines line hline).cutLine hempty
    · exact hlines
  refine hcut (hcropped ?_)
  split
  · simp
  · exact hfilled _

theorem subset_of_mem_splitOnP {α : Type} {p : α → Bool} {xs ys : List α}
    (h : ys ∈ xs.splitOnP p) : ys ⊆ xs := by
  induction xs generalizing ys with
  | nil => simp [List.mem_singleton.mp h]
  | cons x xs ih =>
    rw [List.splitOnP_cons_eq_if_modifyHead] at h
    split at h
    · obtain rfl | h := List.mem_cons.mp h
      · simp
      · exact List.subset_cons_of_subset x (ih h)
    · obtain ⟨z, zs, hzs⟩ := List.exists_cons_of_ne_nil (List.splitOnP_ne_nil p xs)
      rw [hzs] at ih
      rw [hzs, List.modifyHead_cons] at h
      obtain rfl | h := List.mem_cons.mp h
      · exact List.cons_subset_cons x (ih List.mem_cons_self)
      · exact List.subset_cons_of_subset x (ih (List.mem_cons_of_mem z h))

/-- Breaking a text gives its characters no other styles. -/
theorem forall_styles_wrap (h : AllStyled P gs) (hempty : P []) :
    ∀ line ∈ wrap limit fold gs, AllStyled P line := by
  refine List.forall_mem_flatMap.mpr fun part hpart => AllStyled.wrapLine (fun g hg => ?_) hempty
  exact h g (subset_of_mem_splitOnP hpart hg)

end Layout

end DexRefs
