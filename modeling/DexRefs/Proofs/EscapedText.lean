import DexRefs.Proofs.MarkupTags
import DexRefs.Proofs.Reading
import Mathlib.Data.List.TakeWhile
import Mathlib.Tactic.Tauto

/-!
Where marked-up text can be shown.  Only its tags matter: an odd number of backslashes makes a tag
plain text, and an even one lets it open or close.  The tags of an escaped text all have an odd
number, so that such a text is shown wherever it stands, unless it begins a tag that what follows
it ends.
-/

set_option autoImplicit false

namespace DexRefs.Markup

variable {cs ds content rest a p s w : List Char} {c : Char} {n : Nat}

theorem head?_escaped (cs : List Char) :
    (escaped cs).head? = cs.head? ∨ (escaped cs).head? = some '\x5c' := by
  induction cs using tokens_induction with
  | nil => exact .inl rfl
  | tag n content rest hcontent =>
    rw [escaped_of_tag hcontent]
    exact .inr rfl
  | backslashes n ds hds htag =>
    rw [escaped_of_backslashes hds htag]
    exact .inr rfl
  | char c ds hc htag =>
    rw [escaped_of_char hc htag]
    exact .inl rfl

theorem getLast?_escaped (cs : List Char) : (escaped cs).getLast? = cs.getLast? := by
  induction cs using tokens_induction with
  | nil => rfl
  | tag n content rest hcontent ih =>
    rw [escaped_of_tag hcontent]
    simp only [written, List.getLast?_append, ih, List.getLast?_singleton, Option.or_assoc,
      Option.some_or]
  | backslashes n ds hds htag ih =>
    rw [escaped_of_backslashes hds htag]
    simp [List.getLast?_append, ih]
  | char c ds hc htag ih =>
    rw [escaped_of_char hc htag, List.getLast?_cons, List.getLast?_cons, ih]

@[simp] theorem untilClose_backslashes :
    untilClose (List.replicate n '\x5c' ++ cs) = none ↔ untilClose cs = none := by
  induction n with
  | zero => simp
  | succ n ih => simpa [List.replicate_succ, untilClose] using ih

theorem untilClose_escaped (h : untilClose cs = none) : untilClose (escaped cs) = none := by
  induction cs using tokens_induction with
  | nil => rfl
  | tag n content rest hcontent ih =>
    rw [escaped_of_tag hcontent, untilClose_backslashes]
    simp [written, untilClose]
  | backslashes n ds hds htag ih =>
    rw [untilClose_backslashes] at h
    rw [escaped_of_backslashes hds htag, untilClose_backslashes, ih h]
  | char c ds hc htag ih =>
    rw [escaped_of_char hc htag]
    by_cases hclose : c = ']'
    · simp [untilClose, hclose] at h
    by_cases hopen : c = '['
    · simp [untilClose, hopen]
    simp only [untilClose, hclose, hopen, if_false, Option.map_eq_none_iff] at h ⊢
    exact ih h

theorem tag?_cons_escaped (h : tag? (c :: ds) = none) : tag? (c :: escaped ds) = none := by
  by_cases hopen : c = '['
  · subst hopen
    rw [tag?_bracket] at h ⊢
    intro e es he hstarts
    obtain ⟨hopen, hclose, hslash⟩ := startsTag_ne hstarts
    have hhead := head?_escaped ds
    rw [he] at hhead
    cases ds with
    | nil => cases he
    | cons d ds =>
      obtain hd | hd := hhead
      · obtain rfl : e = d := by simpa using hd
        have hnone : untilClose (escaped (e :: ds)) = none :=
          untilClose_escaped (by simpa [untilClose, hopen, hclose] using h e ds rfl hstarts)
        rw [he] at hnone
        simpa [untilClose, hopen, hclose] using hnone
      · exact absurd (by simpa using hd) hslash
  · exact tag?_of_ne hopen

theorem tag?_escaped (hds : ds.head? ≠ some '\x5c') (h : tag? ds = none) :
    (escaped ds).head? ≠ some '\x5c' ∧ tag? (escaped ds) = none := by
  cases ds with
  | nil => simp [tag?]
  | cons d ds =>
    rw [escaped_of_char (by simpa using hds) h]
    exact ⟨by simpa using hds, tag?_cons_escaped h⟩

/-- Escaping adds to the backslashes in front of each tag, and makes their number odd. -/
theorem marks_escaped (cs : List Char) :
    marks (escaped cs) = (marks cs).map fun p => (2 * p.1 + 1, p.2) := by
  induction cs using tokens_induction with
  | nil => rfl
  | tag n content rest hcontent ih =>
    rw [escaped_of_tag hcontent, marks_of_tag hcontent, marks_of_tag hcontent, ih, List.map_cons]
  | backslashes n ds hds htag ih =>
    obtain ⟨hhead, hnone⟩ := tag?_escaped hds htag
    rw [escaped_of_backslashes hds htag, marks_of_backslashes hhead hnone,
      marks_of_backslashes hds htag, ih]
  | char c ds hc htag ih =>
    rw [escaped_of_char hc htag, marks_of_char hc (tag?_cons_escaped htag), marks_of_char hc htag,
      ih]

theorem closeBackslash_cases (cs : List Char) :
    closeBackslash cs = cs ∨ closeBackslash cs = cs ++ ['\x5c'] := by
  unfold closeBackslash
  split
  · exact .inl rfl
  · exact .inr rfl
  · exact .inl rfl

theorem marks_backslash (cs : List Char) : marks (cs ++ ['\x5c']) = marks cs := by
  rw [marks_append (fun _ => rfl) (.of_untilClose rfl)]
  simp [marks_eq_nil]

theorem marks_closeBackslash (cs : List Char) : marks (closeBackslash cs) = marks cs := by
  obtain h | h := closeBackslash_cases cs <;> rw [h]
  exact marks_backslash cs

theorem marks_escapeChars (cs : List Char) :
    marks (escapeChars cs) = (marks cs).map fun p => (2 * p.1 + 1, p.2) := by
  rw [escapeChars, marks_closeBackslash, ← escaped, marks_escaped]

theorem closeBackslash_append (hc : c ≠ '\x5c') (p cs : List Char) :
    closeBackslash (p ++ c :: cs) = p ++ c :: closeBackslash cs := by
  unfold closeBackslash
  rw [List.reverse_append, List.reverse_cons]
  match hcs : cs.reverse with
  | [] => simp [hc]
  | [d] =>
    by_cases hd : d = '\x5c'
    · simp [hd, hc]
    · simp [hd]
  | d :: e :: ds =>
    by_cases hd : d = '\x5c' <;> by_cases he : e = '\x5c' <;> simp [hd, he]

theorem closeBackslash_cons (hc : c ≠ '\x5c') (cs : List Char) :
    closeBackslash (c :: cs) = c :: closeBackslash cs :=
  closeBackslash_append hc [] cs

theorem escapeChars_cons (hc : c ≠ '[' ∧ c ≠ '\x5c') (cs : List Char) :
    escapeChars (c :: cs) = c :: escapeChars cs := by
  rw [escapeChars, ← escaped, escaped_of_char hc.2 (tag?_of_ne hc.1), closeBackslash_cons hc.2]
  rfl

/-! ### Backslashes at the end -/

theorem exists_run_end (cs : List Char) :
    ∃ pre n, cs = pre ++ List.replicate n '\x5c' ∧ pre.getLast? ≠ some '\x5c' := by
  obtain ⟨n, ds, hds, hhead⟩ := exists_run cs.reverse
  refine ⟨ds.reverse, n, ?_, by rwa [List.getLast?_reverse]⟩
  rw [← List.reverse_reverse cs, hds, List.reverse_append, List.reverse_replicate]

def EndsLone (cs : List Char) : Prop :=
  ∃ ds, cs = ds ++ ['\x5c'] ∧ ds.getLast? ≠ some '\x5c'

theorem closeBackslash_run (h : p.getLast? ≠ some '\x5c') (n : Nat) :
    closeBackslash (p ++ List.replicate n '\x5c') =
      p ++ List.replicate (if n = 1 then 2 else n) '\x5c' := by
  have hreverse : p.reverse.head? ≠ some '\x5c' := by rwa [List.head?_reverse]
  unfold closeBackslash
  rw [List.reverse_append, List.reverse_replicate]
  match n with
  | 0 =>
    cases hp : p.reverse with
    | nil => simp
    | cons c cs =>
      have hc : c ≠ '\x5c' := by simpa [hp] using hreverse
      simp [hc]
  | 1 =>
    cases hp : p.reverse with
    | nil => simp
    | cons c cs =>
      have hc : c ≠ '\x5c' := by simpa [hp] using hreverse
      simp [hc]
  | n + 2 => simp [List.replicate_succ]

theorem endsLone_run (h : p.getLast? ≠ some '\x5c') (n : Nat) :
    EndsLone (p ++ List.replicate n '\x5c') ↔ n = 1 := by
  constructor
  · rintro ⟨ds, hds, hlast⟩
    match n with
    | 0 =>
      rw [List.replicate_zero, List.append_nil] at hds
      simp [hds] at h
    | 1 => rfl
    | n + 2 =>
      rw [List.replicate_succ', ← List.append_assoc] at hds
      rw [← List.append_cancel_right hds] at hlast
      simp [List.replicate_succ'] at hlast
  · rintro rfl
    exact ⟨p, rfl, h⟩

theorem closeBackslash_eq (cs : List Char) :
    EndsLone cs ∧ closeBackslash cs = cs ++ ['\x5c'] ∨ ¬EndsLone cs ∧ closeBackslash cs = cs := by
  obtain ⟨p, n, rfl, hp⟩ := exists_run_end cs
  rw [closeBackslash_run hp, endsLone_run hp]
  by_cases hn : n = 1
  · simp [hn, List.replicate_succ]
  · simp [hn]

theorem closeBackslash_of_not (h : ¬EndsLone cs) : closeBackslash cs = cs := by
  obtain ⟨hlone, -⟩ | ⟨-, hself⟩ := closeBackslash_eq cs
  · exact absurd hlone h
  · exact hself

theorem escapeChars_eq_escaped (cs : List Char) : escapeChars cs = escaped (closeBackslash cs) := by
  obtain ⟨p, n, rfl, hp⟩ := exists_run_end cs
  have hrun (n : Nat) : escaped (p ++ List.replicate n '\x5c') =
      escaped p ++ List.replicate n '\x5c' := by
    have hself : escaped (List.replicate n '\x5c') = List.replicate n '\x5c' :=
      escaped_eq_self (.inl (by simp))
    rw [escaped_append (fun h => absurd h hp) (.of_untilClose ?_), hself]
    have hnone : untilClose (List.replicate n '\x5c' ++ []) = none :=
      untilClose_backslashes.mpr rfl
    rwa [List.append_nil] at hnone
  have hescaped : (escaped p).getLast? ≠ some '\x5c' := by rwa [getLast?_escaped]
  rw [escapeChars, ← escaped, hrun, closeBackslash_run hescaped, closeBackslash_run hp, hrun]

/-! ### Open tags -/

/-- The open tags after all others are settled, if they can be. -/
def settle : List OpenTag → List (Nat × List Char) → Except Fault (List OpenTag)
  | tags, [] => .ok tags
  | tags, (n, content) :: ms =>
    if n % 2 = 1 then settle tags ms else push content tags >>= fun tags => settle tags ms

theorem settle_append (tags : List OpenTag) (ms ms' : List (Nat × List Char)) :
    settle tags (ms ++ ms') = settle tags ms >>= fun tags => settle tags ms' := by
  induction ms generalizing tags with
  | nil => rfl
  | cons m ms ih =>
    obtain ⟨n, content⟩ := m
    simp only [List.cons_append, settle]
    split
    · exact ih tags
    · cases push content tags with
      | error f => rfl
      | ok tags => exact ih tags

def Sound (content : List Char) : Prop :=
  ∃ t known, openTag content = .ok t ∧ TextStyle.isKnown t.style = .ok known

def AllSound (ms : List (Nat × List Char)) : Prop :=
  ∀ m ∈ ms, m.1 % 2 = 0 → m.2.head? ≠ some '/' → Sound m.2

/-- The tags can be settled, and their styles can be looked up. -/
structure Clear (ms : List (Nat × List Char)) : Prop where
  settles : ∃ tags, settle [] ms = .ok tags
  sound : AllSound ms

/-- The tags leave the open tags as they were. -/
structure Inert (ms : List (Nat × List Char)) : Prop where
  settle_eq : ∀ tags, settle tags ms = .ok tags
  sound : AllSound ms

variable {ms ms' : List (Nat × List Char)}

theorem Inert.clear (h : Inert ms) : Clear ms :=
  ⟨⟨_, h.settle_eq []⟩, h.sound⟩

theorem Inert.settle_append (h : Inert ms) (tags : List OpenTag) (ms' : List (Nat × List Char)) :
    settle tags (ms ++ ms') = settle tags ms' := by
  rw [Markup.settle_append, h.settle_eq]
  rfl

theorem Inert.clear_append (h : Inert ms) : Clear (ms ++ ms') ↔ Clear ms' := by
  constructor
  · rintro ⟨⟨tags, htags⟩, hsound⟩
    rw [h.settle_append] at htags
    exact ⟨⟨tags, htags⟩, fun m hm => hsound m (List.mem_append_right _ hm)⟩
  · rintro ⟨⟨tags, htags⟩, hsound⟩
    refine ⟨⟨tags, (h.settle_append [] ms').trans htags⟩, fun m hm => ?_⟩
    exact (List.mem_append.mp hm).elim (h.sound m) (hsound m)

theorem inert_nil : Inert [] :=
  ⟨fun _ => rfl, by simp [AllSound]⟩

theorem Inert.append (h : Inert ms) (h' : Inert ms') : Inert (ms ++ ms') := by
  refine ⟨fun tags => (h.settle_append tags ms').trans (h'.settle_eq tags), fun m hm => ?_⟩
  exact (List.mem_append.mp hm).elim (h.sound m) (h'.sound m)

theorem Inert.cons_odd (h : Inert ms) (n : Nat) (content : List Char) :
    Inert ((2 * n + 1, content) :: ms) := by
  refine ⟨fun tags => ?_, fun m hm => ?_⟩
  · rw [settle, if_pos (by omega), h.settle_eq]
  · obtain rfl | hm := List.mem_cons.mp hm
    · intro heven
      dsimp only at heven
      omega
    · exact h.sound m hm

theorem inert_odd (ms : List (Nat × List Char)) : Inert (ms.map fun p => (2 * p.1 + 1, p.2)) := by
  constructor
  · intro tags
    induction ms with
    | nil => rfl
    | cons m ms ih => simpa [settle] using ih
  · simp only [AllSound, List.forall_mem_map]
    intro m _ heven
    omega

def IsStyle (name : List Char) : Prop :=
  Content name ∧ '=' ∉ name ∧ name.head? ≠ some '/' ∧ (trim name).isEmpty = false ∧
    TextStyle.normalName name = .ok (String.ofList name) ∧ TextStyle.isKnown name = .ok true

instance (name : List Char) : Decidable (IsStyle name) :=
  inferInstanceAs (Decidable (_ ∧ _))

/-- A tag and the one that closes it leave the open tags as they were. -/
theorem inert_pair {name : List Char} (h : IsStyle name) :
    Inert [(0, name), (0, '/' :: name)] := by
  obtain ⟨-, hequals, hslash, hblank, hnormal, hknown⟩ := h
  have hname : nameOf name = name := by
    have hall : (name ++ []).takeWhile (· ≠ '=') = name ++ [].takeWhile (· ≠ '=') :=
      List.takeWhile_append_of_pos fun c hc => decide_eq_true fun h => hequals (h ▸ hc)
    simpa [nameOf] using hall
  have hstyle : styleName name = .ok (String.ofList name) := by
    rw [styleName, hnormal]
    rfl
  have hparameters : parameters? name = none := by
    have hnone : name.dropWhile (· ≠ '=') = [] := by
      rw [List.dropWhile_eq_nil_iff]
      exact fun c hc => decide_eq_true fun h => hequals (h ▸ hc)
    rw [parameters?, hnone]
    rfl
  have htag : openTag name = .ok ⟨String.ofList name, none⟩ := by
    rw [openTag, hname, hstyle, hparameters]
    rfl
  constructor
  · intro tags
    have hopen : push name tags = .ok (⟨String.ofList name, none⟩ :: tags) := by
      unfold push
      rw [hname, htag]
      split
      · simp at hslash
      · rfl
    have hclose : push ('/' :: name) (⟨String.ofList name, none⟩ :: tags) = .ok tags := by
      unfold push
      rw [nameOf, List.takeWhile_cons_of_pos (by decide), ← nameOf, hname]
      simp [hblank, hstyle, close, bind, Except.bind]
    simp [settle, hopen, hclose, bind, Except.bind]
  · have hsound : Sound name := by
      refine ⟨_, true, htag, ?_⟩
      simpa [OpenTag.style] using hknown
    simp only [AllSound, List.forall_mem_cons, List.not_mem_nil, false_imp_iff, implies_true,
      and_true]
    exact ⟨fun _ _ => hsound, fun _ h => absurd rfl h⟩

theorem marks_append_tag (hlast : cs.getLast? ≠ some '\x5c') (h : Content content)
    (rest : List Char) :
    marks (cs ++ (written content ++ rest)) = marks cs ++ (0, content) :: marks rest := by
  have htag : marks (List.replicate 0 '\x5c' ++ (written content ++ rest)) = _ := marks_of_tag h
  rw [marks_append (fun h => absurd h hlast) (.of_untilClose rfl)]
  rw [List.replicate_zero, List.nil_append] at htag
  rw [htag]

/-- The tags of a text that begins with a word in a style. -/
theorem marks_styled {name : List Char} (hname : IsStyle name) (hcs : marks cs = [])
    (hlast : cs.getLast? ≠ some '\x5c') (rest : List Char) :
    marks (written name ++ (cs ++ (written ('/' :: name) ++ rest))) =
      [(0, name), (0, '/' :: name)] ++ marks rest := by
  have hclose : Content ('/' :: name) :=
    ⟨List.forall_mem_cons.mpr ⟨by decide, hname.1.1⟩, '/', rfl, by decide⟩
  have hmarks : marks ([] ++ (written name ++ (cs ++ (written ('/' :: name) ++ rest)))) = _ :=
    marks_append_tag (by simp) hname.1 _
  rw [marks_append_tag hlast hclose, hcs] at hmarks
  exact hmarks

/-- No more than the tags decides whether a text can be read. -/
theorem exists_renderTokens (tags : List OpenTag) (pending : List Char) (ts : List Token) :
    (∃ rs, renderTokens tags pending ts = .ok rs) ↔
      ∃ tags', settle tags (ts.flatMap mark) = .ok tags' := by
  induction ts generalizing tags pending with
  | nil => exact iff_of_true ⟨_, rfl⟩ ⟨_, rfl⟩
  | cons t ts ih =>
    cases t with
    | plain cs => exact ih tags _
    | tag n content =>
      rw [renderTokens, List.flatMap_cons, mark, List.singleton_append, settle]
      split
      · rw [← ih tags []]
        cases renderTokens tags [] ts <;> simp [bind, Except.bind, pure, Except.pure]
      · cases push content tags with
        | error f => simp [bind, Except.bind]
        | ok tags' =>
          change (∃ rs, (renderTokens tags' [] ts >>= _) = .ok rs) ↔
            ∃ tags'', settle tags' (ts.flatMap mark) = .ok tags''
          rw [← ih tags' []]
          cases renderTokens tags' [] ts <;> simp [bind, Except.bind, pure, Except.pure]

theorem push_eq_ok {tags tags' : List OpenTag} (h : push content tags = .ok tags') :
    (content.head? ≠ some '/' ∧ ∃ t, openTag content = .ok t ∧ tags' = t :: tags) ∨
      content.head? = some '/' ∧ tags' ⊆ tags := by
  have hclose (name : String) {tags tags' : List OpenTag} (h : close name tags = .ok tags') :
      tags' ⊆ tags := by
    induction tags generalizing tags' with
    | nil => cases h
    | cons t tags ih =>
      rw [close] at h
      split at h
      · cases h
        exact List.subset_cons_self t tags
      · cases hrest : close name tags with
        | error f =>
          rw [hrest] at h
          cases h
        | ok rest =>
          rw [hrest] at h
          cases h
          exact List.cons_subset_cons t (ih hrest)
  have hhead : (nameOf content).head? = some '/' ↔ content.head? = some '/' := by
    cases content with
    | nil => rfl
    | cons c content => by_cases hc : c = '=' <;> simp [nameOf, hc]
  unfold push at h
  split at h
  next name hname =>
    refine .inr ⟨hhead.mp (by rw [hname]; rfl), ?_⟩
    split at h
    · split at h
      · cases h
      · cases h
        exact List.subset_cons_self _ _
    · cases hstyle : styleName name with
      | error f =>
        rw [hstyle] at h
        cases h
      | ok n =>
        rw [hstyle] at h
        exact hclose n h
  next hname =>
    refine .inl ⟨fun hslash => ?_, ?_⟩
    · obtain ⟨name, hname'⟩ := List.head?_eq_some_iff.mp (hhead.mpr hslash)
      exact hname name hname'
    · cases htag : openTag content with
      | error f =>
        rw [htag] at h
        cases h
      | ok t =>
        rw [htag] at h
        cases h
        exact ⟨t, rfl, rfl⟩

theorem allSound_cons {m : Nat × List Char} : AllSound (m :: ms) ↔
    (m.1 % 2 = 0 → m.2.head? ≠ some '/' → Sound m.2) ∧ AllSound ms :=
  List.forall_mem_cons

def Looks (style : List Char) : Prop :=
  ∃ known, TextStyle.isKnown style = .ok known

theorem looks_iff {tags : List OpenTag} {pending : List Char} {ts : List Token} {rs : List Run}
    (h : renderTokens tags pending ts = .ok rs) :
    (∀ r ∈ rs, ∀ style ∈ r.styles, Looks style) ↔
      (∀ t ∈ tags, Looks t.style) ∧ AllSound (ts.flatMap mark) := by
  have hrun (tags : List OpenTag) (cs : List Char) :
      (∀ style ∈ (runOf tags cs).styles, Looks style) ↔ ∀ t ∈ tags, Looks t.style := by
    rw [runOf, List.forall_mem_map]
  induction ts generalizing tags pending rs with
  | nil =>
    cases h
    simp [hrun, AllSound]
  | cons t ts ih =>
    cases t with
    | plain cs => exact ih h
    | tag n content =>
      rw [renderTokens] at h
      rw [List.flatMap_cons, mark, List.singleton_append, allSound_cons]
      split at h
      next hodd =>
        obtain ⟨rest, hrest, hrs⟩ := bind_eq_ok.mp h
        cases hrs
        have hnot : ¬n % 2 = 0 := by omega
        simp only [List.cons_append, List.nil_append, List.forall_mem_cons, hrun, ih hrest, hnot,
          false_imp_iff, true_and, and_self_left]
      next heven =>
        obtain ⟨tags', hpush, h⟩ := bind_eq_ok.mp h
        obtain ⟨rest, hrest, hrs⟩ := bind_eq_ok.mp h
        cases hrs
        have hzero : n % 2 = 0 := by omega
        simp only [List.cons_append, List.nil_append, List.forall_mem_cons, hrun, ih hrest, hzero,
          true_imp_iff, and_self_left]
        obtain ⟨hslash, t, htag, rfl⟩ | ⟨hslash, hsubset⟩ := push_eq_ok hpush
        · have hsound : Sound content ↔ Looks t.style := by
            simp only [Sound, htag, Except.ok.injEq, exists_and_left, exists_eq_left', Looks]
          simp only [List.forall_mem_cons, hslash, ne_eq, not_false_eq_true, true_imp_iff, hsound]
          tauto
        · have hrest : (∀ t ∈ tags, Looks t.style) → ∀ t ∈ tags', Looks t.style :=
            fun hall t ht => hall t (hsubset ht)
          simp only [hslash, ne_eq, not_true_eq_false, false_imp_iff, true_and]
          tauto

theorem inert_escapeChars (cs : List Char) : Inert (marks (escapeChars cs)) := by
  rw [marks_escapeChars]
  exact inert_odd _

/-- An escaped text is shown before any text that begins with no tag and no closing bracket. -/
theorem clear_escapeChars_append (cs : List Char) (hs : untilClose s = none)
    (hb : tag? (s.dropWhile (· = '\x5c')) = none) :
    Clear (marks (escapeChars cs ++ s)) ↔ Clear (marks s) := by
  rw [marks_append (fun _ => hb) (.of_untilClose hs), (inert_escapeChars cs).clear_append]

/-! ### Two escaped texts, one after the other -/

def Sealed (a : List Char) : Prop :=
  ∀ w, '[' :: w <:+ a → ¬Content w

variable {x y pre : List Char}

theorem Sealed.backslash (h : Sealed a) : Sealed (a ++ ['\x5c']) := by
  rintro w ⟨t, ht⟩ ⟨hbare, d, hd, hstarts⟩
  obtain ⟨w, rfl⟩ | rfl : (∃ v, w = v ++ ['\x5c']) ∨ w = [] := by
    cases hlast : w.getLast? with
    | none => exact .inr (List.getLast?_eq_none_iff.mp hlast)
    | some e =>
      have hall := congrArg List.getLast? ht
      simp only [List.getLast?_append, List.getLast?_cons, hlast] at hall
      obtain rfl : e = '\x5c' := by simpa using hall
      exact .inl (List.getLast?_eq_some_iff.mp hlast)
  · have heq : t ++ '[' :: w ++ ['\x5c'] = a ++ ['\x5c'] := by simpa using ht
    have hw : '[' :: w <:+ a := ⟨t, List.append_cancel_right heq⟩
    cases w with
    | nil =>
      obtain rfl : '\x5c' = d := by simpa using hd
      exact absurd rfl (startsTag_ne hstarts).2.2
    | cons e w =>
      exact h _ hw ⟨fun b hb => hbare b (List.mem_append_left _ hb), d, hd, hstarts⟩
  · cases hd

theorem Sealed.closeBackslash (h : Sealed a) : Sealed (closeBackslash a) := by
  obtain hcs | hcs := closeBackslash_cases a <;> rw [hcs]
  · exact h
  · exact h.backslash

theorem untilClose_closeBackslash (h : untilClose cs = none) :
    untilClose (closeBackslash cs) = none := by
  obtain hcs | hcs := closeBackslash_cases cs <;> rw [hcs]
  · exact h
  · exact untilClose_append h (.inl rfl)

theorem parted_closed (hstarts : startsTag c = false) (hc : c ≠ '\x5c')
    (h : untilClose (c :: s) = none ∨ Sealed a) :
    Parted (closeBackslash a) (closeBackslash (c :: s)) := by
  obtain h | h := h
  · exact .of_untilClose (untilClose_closeBackslash h)
  intro w hw hnone
  cases w with
  | nil => simp [closeBackslash_cons hc, tag?, hstarts]
  | cons d w => exact tag?_append hnone (.inr ⟨by simp, h.closeBackslash _ hw⟩)

theorem escapeChars_append_escapeChars (hstarts : startsTag c = false) (hc : c ≠ '[' ∧ c ≠ '\x5c')
    (h : untilClose (c :: s) = none ∨ Sealed a) :
    escapeChars a ++ escapeChars (c :: s) =
      escaped (closeBackslash a ++ closeBackslash (c :: s)) := by
  rw [escapeChars_eq_escaped, escapeChars_eq_escaped, escaped_append]
  · intro _
    simpa [closeBackslash_cons hc.2, hc.2] using tag?_of_ne hc.1
  · exact parted_closed hstarts hc.2 h

theorem inert_escapeChars_both (hc : c ≠ '[' ∧ c ≠ '\x5c') (hstarts : startsTag c = false)
    (h : untilClose (c :: s) = none ∨ Sealed a) :
    Inert (marks (escapeChars a ++ escapeChars (c :: s))) := by
  rw [escapeChars_append_escapeChars hstarts hc h, marks_escaped]
  exact inert_odd _

theorem exists_tail_escaped (hx : Bare x) (y : List Char) :
    ∃ y', escapeChars (x ++ ']' :: y) = x ++ ']' :: escaped y' ∧ (y' = y ∨ y' = y ++ ['\x5c']) := by
  have hopen : '[' ∉ x ++ [']'] := by
    intro hmem
    obtain h | h := List.mem_append.mp hmem
    · exact (hx _ h).1 rfl
    · simp at h
  have hescaped (y : List Char) : escaped (x ++ ']' :: y) = x ++ ']' :: escaped y := by
    have happend := escaped_append (a := x ++ [']']) (s := y) (by simp)
      fun w hw => absurd (hw.subset (by simp)) hopen
    have hself : escaped (x ++ [']']) = x ++ [']'] := escaped_eq_self (.inl hopen)
    rw [hself] at happend
    simpa using happend
  rw [escapeChars_eq_escaped]
  obtain hcs | hcs := closeBackslash_cases (x ++ ']' :: y)
  · exact ⟨y, by rw [hcs, hescaped], .inl rfl⟩
  · refine ⟨y ++ ['\x5c'], ?_, .inr rfl⟩
    rw [hcs, List.append_assoc, List.cons_append, hescaped]

theorem content_closeBackslash (h : Content w) :
    Content (closeBackslash w) ∧ (closeBackslash w).head? = w.head? := by
  obtain ⟨hbare, d, hd, hstarts⟩ := h
  obtain hcs | hcs := closeBackslash_cases w <;> rw [hcs]
  · exact ⟨⟨hbare, d, hd, hstarts⟩, rfl⟩
  · have hhead : (w ++ ['\x5c']).head? = w.head? := by
      rw [List.head?_append, Option.mem_def.mp hd, Option.some_or]
    exact ⟨⟨List.forall_mem_append.mpr ⟨hbare, by simp⟩, d, hhead ▸ hd, hstarts⟩, hhead⟩

theorem content_closeBackslash_append (hw : Content w) (hx : Bare x) :
    Content (closeBackslash w ++ x) := by
  obtain ⟨⟨hbare, d, hd, hstarts⟩, -⟩ := content_closeBackslash hw
  exact ⟨List.forall_mem_append.mpr ⟨hbare, hx⟩, d,
    by simp [List.head?_append, Option.mem_def.mp hd], hstarts⟩

theorem escapeChars_open (hlast : pre.getLast? ≠ some '\x5c') (hw : Content w) (n : Nat) :
    escapeChars (pre ++ (List.replicate n '\x5c' ++ '[' :: w)) =
      escaped pre ++ (List.replicate n '\x5c' ++ '[' :: closeBackslash w) := by
  have hclosed : closeBackslash (pre ++ (List.replicate n '\x5c' ++ '[' :: w)) =
      pre ++ (List.replicate n '\x5c' ++ '[' :: closeBackslash w) := by
    rw [← List.append_assoc, closeBackslash_append (by decide), List.append_assoc]
  have hself : escaped (List.replicate n '\x5c' ++ '[' :: closeBackslash w) =
      List.replicate n '\x5c' ++ '[' :: closeBackslash w := by
    refine escaped_eq_self (.inr ?_)
    simp only [List.mem_append, List.mem_replicate, List.mem_cons, not_or, not_and]
    exact ⟨by simp, by simp, fun h => ((content_closeBackslash hw).1.1 _ h).2 rfl⟩
  rw [escapeChars_eq_escaped, hclosed, escaped_append (fun h => absurd h hlast)
    (.of_untilClose ?_), hself]
  simp [untilClose]

/-- The one tag that counts where the first text begins it and the second one ends it. -/
theorem marks_crossing (hlast : pre.getLast? ≠ some '\x5c') (hw : Content w) (hx : Bare x)
    (n : Nat) (y : List Char) : ∃ before after, Inert before ∧ Inert after ∧
      marks (escapeChars (pre ++ (List.replicate n '\x5c' ++ '[' :: w)) ++
        escapeChars (x ++ ']' :: y)) = before ++ (n, closeBackslash w ++ x) :: after := by
  obtain ⟨y', hz, -⟩ := exists_tail_escaped hx y
  refine ⟨marks (escaped pre), marks (escaped y'), ?_, ?_, ?_⟩
  · rw [marks_escaped]
    exact inert_odd _
  · rw [marks_escaped]
    exact inert_odd _
  rw [escapeChars_open hlast hw, hz, ← marks_of_tag (content_closeBackslash_append hw hx),
    ← marks_append]
  · simp [written]
  · exact fun h => absurd ((getLast?_escaped pre).symm.trans h) hlast
  · exact .of_untilClose (by simp [written, untilClose])

theorem exists_push_nil : (∃ tags, push content [] = .ok tags) ↔
    content.head? ≠ some '/' ∧ ∃ t, openTag content = .ok t := by
  constructor
  · rintro ⟨tags, h⟩
    obtain ⟨hslash, t, htag, -⟩ | ⟨hslash, hsubset⟩ := push_eq_ok h
    · exact ⟨hslash, t, htag⟩
    · exfalso
      obtain ⟨cs, rfl⟩ := List.head?_eq_some_iff.mp hslash
      have hname : nameOf ('/' :: cs) = '/' :: nameOf cs := by simp [nameOf]
      have hpush : push ('/' :: cs) [] = if (trim (nameOf cs)).isEmpty then .error .strayTag
          else styleName (nameOf cs) >>= fun _ => .error .strayTag := by
        rw [push, hname]
        rfl
      rw [hpush] at h
      split at h
      · cases h
      · obtain ⟨-, -, h⟩ := bind_eq_ok.mp h
        cases h
  · rintro ⟨hslash, t, htag⟩
    refine ⟨[t], ?_⟩
    unfold push
    split
    next name hname =>
      refine absurd ?_ hslash
      cases content with
      | nil => cases hname
      | cons c content =>
        by_cases hc : c = '='
        · simp [nameOf, hc] at hname
        · simp only [nameOf, ne_eq, decide_not, List.takeWhile_cons, hc, decide_false,
            Bool.not_false, if_true, List.cons.injEq] at hname
          rw [hname.1]
          rfl
    next => rw [htag]; rfl

/-- The first text begins a tag, and the second one ends it. -/
def Overlaps (a s : List Char) : Prop :=
  ∃ pre n w x y, a = pre ++ (List.replicate n '\x5c' ++ '[' :: w) ∧
    pre.getLast? ≠ some '\x5c' ∧ Content w ∧ s = x ++ ']' :: y ∧ Bare x

/-- The first text begins a tag that no backslash keeps from being one, and the second text ends
it.  Of a lone backslash at its end escaping makes two. -/
def Shares (a s content : List Char) : Prop :=
  ∃ pre n w x y, a = pre ++ (List.replicate (2 * n) '\x5c' ++ '[' :: w) ∧
    pre.getLast? ≠ some '\x5c' ∧ Content w ∧ s = x ++ ']' :: y ∧ Bare x ∧
    content = closeBackslash w ++ x

theorem not_overlaps (h : ¬Overlaps a s) : untilClose s = none ∨ Sealed a := by
  refine Classical.not_not.mp fun hopen => ?_
  simp only [not_or, Sealed, Classical.not_forall, Classical.not_not] at hopen
  obtain ⟨hclose, w, ⟨pre, rfl⟩, hw⟩ := hopen
  obtain ⟨p, hp⟩ := Option.ne_none_iff_exists.mp hclose
  obtain ⟨hx, hs⟩ := untilClose_eq_some.mp hp.symm
  obtain ⟨pre, n, rfl, hlast⟩ := exists_run_end pre
  exact h ⟨pre, n, w, p.1, p.2, List.append_assoc .., hlast, hw, hs, hx⟩

/-- What holds of the tags of two escaped texts, one after the other, is decided by the tag that they
share, if they share one. -/
theorem marks_both_iff {P : List (Nat × List Char) → Prop} {Q : List Char → Prop}
    (hinert : ∀ ms, Inert ms → P ms)
    (hmark : ∀ before n content after, Inert before → Inert after →
      (P (before ++ (2 * n, content) :: after) ↔ Q content))
    (hc : c ≠ '[' ∧ c ≠ '\x5c') (hstarts : startsTag c = false) :
    P (marks (escapeChars a ++ escapeChars (c :: s))) ↔
      ∀ content, Shares a (c :: s) content → Q content := by
  constructor
  · rintro hP _ ⟨pre, n, w, x, y, rfl, hlast, hw, hs, hx, rfl⟩
    obtain ⟨before, after, hbefore, hafter, hmarks⟩ := marks_crossing hlast hw hx (2 * n) y
    rw [hs, hmarks] at hP
    exact (hmark _ _ _ _ hbefore hafter).mp hP
  · intro h
    by_cases hover : Overlaps a (c :: s)
    · obtain ⟨pre, n, w, x, y, rfl, hlast, hw, hs, hx⟩ := hover
      obtain ⟨before, after, hbefore, hafter, hmarks⟩ := marks_crossing hlast hw hx n y
      obtain ⟨k, rfl | rfl⟩ : ∃ k, n = 2 * k ∨ n = 2 * k + 1 := ⟨n / 2, by omega⟩
      · rw [hs, hmarks]
        exact (hmark _ _ _ _ hbefore hafter).mpr
          (h _ ⟨pre, k, w, x, y, rfl, hlast, hw, hs, hx, rfl⟩)
      · rw [hs, hmarks]
        exact hinert _ (hbefore.append (hafter.cons_odd k _))
    · exact hinert _ (inert_escapeChars_both hc hstarts (not_overlaps hover))

/-- Two escaped texts can be read one after the other unless they share a tag that closes, or one
whose name cannot be read. -/
theorem settle_both_iff (hc : c ≠ '[' ∧ c ≠ '\x5c') (hstarts : startsTag c = false) :
    (∃ tags, settle [] (marks (escapeChars a ++ escapeChars (c :: s))) = .ok tags) ↔
      ∀ content, Shares a (c :: s) content →
        content.head? ≠ some '/' ∧ ∃ t, openTag content = .ok t := by
  refine marks_both_iff (P := fun ms => ∃ tags, settle [] ms = .ok tags)
    (fun ms h => h.clear.settles) (fun before n content after hbefore hafter => ?_) hc hstarts
  rw [hbefore.settle_append, settle, if_neg (by omega), ← exists_push_nil]
  cases push content [] with
  | error f => simp [bind, Except.bind]
  | ok tags => simp [bind, Except.bind, hafter.settle_eq]

theorem clear_both_iff (hc : c ≠ '[' ∧ c ≠ '\x5c') (hstarts : startsTag c = false) :
    Clear (marks (escapeChars a ++ escapeChars (c :: s))) ↔
      ∀ content, Shares a (c :: s) content → content.head? ≠ some '/' ∧ Sound content := by
  refine marks_both_iff (fun ms h => h.clear)
    (fun before n content after hbefore hafter => ?_) hc hstarts
  rw [hbefore.clear_append]
  constructor
  · rintro ⟨⟨tags, htags⟩, hsound⟩
    rw [settle, if_neg (by omega)] at htags
    obtain ⟨tags', hpush, -⟩ := bind_eq_ok.mp htags
    have hslash := (exists_push_nil.mp ⟨tags', hpush⟩).1
    exact ⟨hslash, (allSound_cons.mp hsound).1 (Nat.mul_mod_right 2 n) hslash⟩
  · rintro ⟨hslash, hsound⟩
    have hopen : ∃ t, openTag content = .ok t := hsound.imp fun _ h => h.choose_spec.1
    obtain ⟨tags, hpush⟩ := exists_push_nil.mpr ⟨hslash, hopen⟩
    refine ⟨⟨tags, ?_⟩, allSound_cons.mpr ⟨fun _ _ => hsound, hafter.sound⟩⟩
    rw [settle, if_neg (by omega), hpush]
    exact hafter.settle_eq tags

end DexRefs.Markup
