import DexRefs.Proofs.ShownResults
import DexRefs.Proofs.ShownText

/-!
What the trees of members show.  A label joins a name and a type that are escaped apart from each
other; where both together are legible, the label shows them as they stand, and nowhere else.
-/

set_option autoImplicit false

namespace DexRefs

namespace Member

open Markup

variable {codes : Emoji.Codes}

/-- What the label is there to show. -/
def caption : Member → String
  | field f => "field  " ++ f.name ++ ":" ++ f.typeName
  | method m => "method " ++ m.name ++ m.descriptor

/-- The label shows the name and all that stands behind it as they are. -/
def Legible (codes : Emoji.Codes) (m : Member) : Prop :=
  Markup.Legible codes m.name.toList m.tail

theorem toList_caption (m : Member) : m.caption.toList =
    m.word.1 ++ List.replicate m.word.2 ' ' ++ (m.name.toList ++ m.tail) := by
  unfold caption word name tail
  cases m <;> simp [List.replicate_succ]

theorem render_eq_ok {s t : String} (hopen : '[' ∈ s.toList) : render codes s = .ok t ↔
    (pieces [] [] (tokens s.toList)).map (·.flatMap (finish codes)) = some t.toList := by
  rw [render, renderRuns, if_pos (by simpa using hopen), pieces]
  cases renderTokens [] [] (tokens s.toList) with
  | error f => simp [Except.map, Except.toOption]
  | ok rs =>
    simp only [Except.map, Except.toOption, Except.ok.injEq, Option.map_some, Option.some_inj,
      List.flatMap_map, ← String.toList_inj, String.toList_ofList]

theorem render_label_iff (hplain : Emoji.Plain codes) (m : Member) :
    render codes m.label = .ok m.caption ↔ m.Legible codes := by
  obtain ⟨c, s, htail, hc, hstarts⟩ := m.exists_tail
  have hopen : '[' ∈ m.label.toList := by
    rw [toList_label]
    simp [written]
  have hword : ∀ d ∈ m.word.1, (d ≠ '[' ∧ d ≠ '\x5c') ∧ d ≠ ':' ∧ isControl d = false := by
    have hall : (m.word.1.all fun d =>
        (d ≠ '[' ∧ d ≠ '\x5c') ∧ d ≠ ':' ∧ isControl d = false) = true := by
      cases m <;> rfl
    exact fun d hd => of_decide_eq_true (List.all_eq_true.mp hall d hd)
  have hcancel (x : Option (List Char)) (p cs : List Char) :
      x.map (p ++ ·) = some (p ++ cs) ↔ x = some cs := by
    cases x <;> simp
  rw [render_eq_ok hopen, toList_label, flatMap_finish_dim hword, toList_caption, hcancel, Legible,
    htail, flatMap_finish_pieces_iff hplain hc hstarts]

end Member

namespace Render

/-- If a result is displayed with its members, what it tells beside names can be shown, and a name
and a type share no tag or one that opens and whose name can be read.  If they share no tag or one
whose style can be looked up, the result is displayed.  The label of a member shows its caption
exactly if name and type share no tag, have backslashes before brackets only in front of tags, do
not end with a lone backslash, and hold no control characters and no emoji codes. -/
theorem labels_remain (screen : Screen) (r : ScanResult) :
    ((∃ t, text screen (Display.result true r) = .ok t) → Framed r ∧
      ∀ e ∈ r.results, e.ok = true → ∀ c ∈ e.classes, ∀ m ∈ c.members, m.Readable) ∧
    (Framed r →
      (∀ e ∈ r.results, e.ok = true → ∀ c ∈ e.classes, ∀ m ∈ c.members, m.Harmless) →
      ∃ t, text screen (Display.result true r) = .ok t) ∧
    ∀ (c : ClassRef) (label : String) (children : List String),
      Display.memberTree c = some (.tree label children) →
      children = c.members.map Member.label ∧
      ∀ m ∈ c.members, Emoji.Plain screen.codes →
        (Markup.render screen.codes m.label = .ok m.caption ↔ m.Legible screen.codes) := by
  rw [exists_text, displayed_result]
  refine ⟨?_, ?_, ?_⟩
  · rintro ⟨hframed, hfits⟩
    exact ⟨hframed, fun e he hok c hc m hm => (hfits rfl e he hok c hc m hm).readable⟩
  · intro hframed h
    exact ⟨hframed, fun _ e he hok c hc m hm => labelFits_of_harmless (h e he hok c hc m hm)⟩
  · intro c label children htree
    obtain ⟨-, rfl⟩ := Event.tree.inj (memberTree_eq htree)
    exact ⟨rfl, fun m _ hplain => m.render_label_iff hplain⟩

def fieldResult (name type : String) : ScanResult where
  target := "app.dex"
  started := .date ⟨2024, 1, 1⟩
  results := [{
    source := "classes.dex"
    classes := [{
      name := "LA;"
      fields := [{ declaringClass := "LA;", name, typeName := type }] }] }]

/-- A name with brackets that are no tag is shown before an array type. -/
theorem labels_remain_brackets : Emoji.Plain Emoji.published ∧
    (Member.field ⟨"LA;", "x[0]", "[I", false⟩).Legible Emoji.published := by
  have hplain := Emoji.plain_published
  let c : ClassRef := { name := "LA;", fields := [⟨"LA;", "x[0]", "[I", false⟩] }
  obtain ⟨-, hlabels⟩ := (labels_remain { columns := 80, codes := Emoji.published }
    (fieldResult "x[0]" "[I")).2.2 c _ _ rfl
  exact ⟨hplain, (hlabels (.field ⟨"LA;", "x[0]", "[I", false⟩) (by decide) hplain).mp
    (by decide +kernel)⟩

def crossScreen : Screen where
  columns := 160
  codes name := if name = ['x'] then some ['❌'] else none

/-- A name and a type make a closing tag, or a tag with a style that cannot be read, with which
nothing is displayed; or a tag or an emoji code that is gone from the label. -/
theorem labels_remain_tag :
    text crossScreen (Display.result true (fieldResult "[/x" "]")) =
      .error (.markup .strayTag) ∧
    text crossScreen (Display.result true (fieldResult "[rgb(,,) " "]")) =
      .error (.markup (.share .missing)) ∧
    Markup.render crossScreen.codes (Display.fieldLabel ⟨"LA;", "[x", "]", false⟩) =
      .ok "field  " ∧
    Markup.render crossScreen.codes (Display.fieldLabel ⟨"LA;", ":x", "I", false⟩) =
      .ok "field  ❌I" := by
  decide +kernel

end Render

end DexRefs
