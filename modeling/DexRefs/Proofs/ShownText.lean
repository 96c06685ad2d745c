import DexRefs.Proofs.EmojiNames
import DexRefs.Proofs.RemainingText

/-!
Which text is shown as it stands.  The console shows a text in parts, which its tags make, and
replaces emoji codes in each of them; a replacement takes colons away, and nothing brings colons
back.
-/

set_option autoImplicit false

namespace DexRefs.Markup

variable {a s w p cs ds content rest out : List Char} {c d : Char} {n : Nat}
  {tags : List OpenTag} {ts : List Token} {codes : Emoji.Codes}

/-! ### Parts -/

/-- The tags of a text, the backslashes in front of them, and what stands between. -/
def partsFrom : (pending : List Char) → List Token → List (List Char)
  | p, [] => [p]
  | p, .plain cs :: ts => partsFrom (p ++ cs) ts
  | p, .tag n content :: ts =>
    p :: List.replicate n '\x5c' :: written content :: partsFrom [] ts

def parts (cs : List Char) : List (List Char) :=
  partsFrom [] (tokens cs)

theorem flatten_partsFrom (p cs : List Char) : (partsFrom p (tokens cs)).flatten = p ++ cs := by
  induction cs using tokens_induction generalizing p with
  | nil => simp [partsFrom]
  | tag n content rest hcontent ih => simp [tokens_of_tag hcontent, partsFrom, ih]
  | backslashes n ds hds htag ih => simp [tokens_of_backslashes hds htag, partsFrom, ih]
  | char c ds hc htag ih => simp [tokens_of_char hc htag, partsFrom, ih]

theorem flatten_parts (cs : List Char) : (parts cs).flatten = cs :=
  flatten_partsFrom [] cs

theorem unescape_eq_self (h : '\x5c' ∉ cs ∨ '[' ∉ cs) : unescape cs = cs := by
  induction cs with
  | nil => rfl
  | cons c cs ih =>
    simp only [List.mem_cons, not_or] at h
    have hcons : c ≠ '\x5c' ∨ cs.head? ≠ some '[' :=
      h.imp (fun h => Ne.symm h.1) fun h hhead => h.2 (List.mem_of_head? hhead)
    rw [unescape_cons hcons, ih (h.imp And.right And.right)]

theorem unescape_written (h : Content content) : unescape (written content) = written content := by
  have hopen : '[' ∉ content ++ [']'] := by
    simp only [List.mem_append, List.mem_singleton, not_or]
    exact ⟨fun hmem => (h.1 _ hmem).1 rfl, by decide⟩
  rw [written, List.cons_append, unescape_cons (.inl (by decide)), unescape_eq_self (.inr hopen)]

theorem pieces_escaped (tags : List OpenTag) (p cs : List Char) :
    pieces tags p (tokens (escaped cs)) = some ((partsFrom p (tokens cs)).map unescape) := by
  induction cs using tokens_induction generalizing p with
  | nil => rfl
  | tag n content rest hcontent ih =>
    have hrun : unescape (List.replicate n '\x5c') = List.replicate n '\x5c' :=
      unescape_eq_self (.inr (by simp))
    rw [tokens_escaped_tag hcontent, tokens_of_tag hcontent, pieces_tag, if_pos (by omega), ih,
      show (2 * n + 1) / 2 = n by omega]
    simp only [Option.map_some, partsFrom, List.map_cons, hrun, unescape_written hcontent]
  | backslashes n ds hds htag ih =>
    rw [tokens_escaped_backslashes hds htag, tokens_of_backslashes hds htag, pieces_plain, ih,
      partsFrom]
  | char c ds hc htag ih =>
    rw [tokens_escaped_char hc htag, tokens_of_char hc htag, pieces_plain, ih, partsFrom]

theorem unescape_sublist (cs : List Char) : (unescape cs).Sublist cs := by
  induction cs using unescape.induct with
  | case1 cs ih => exact (ih.cons_cons '[').cons '\x5c'
  | case2 c cs hne ih =>
    rw [unescape.eq_2 c cs hne]
    exact ih.cons_cons c
  | case3 => exact .slnil

theorem map_unescape_eq_self {ps : List (List Char)}
    (h : (ps.map unescape).flatten = ps.flatten) : ps.map unescape = ps := by
  have hle (qs : List (List Char)) : (qs.map unescape).flatten.length ≤ qs.flatten.length := by
    induction qs with
    | nil => exact Nat.le_refl _
    | cons q qs ih =>
      have hq := (unescape_sublist q).length_le
      simp only [List.map_cons, List.flatten_cons, List.length_append]
      omega
  induction ps with
  | nil => rfl
  | cons p ps ih =>
    have hlength := congrArg List.length h
    have hp := (unescape_sublist p).length_le
    have hps := hle ps
    simp only [List.map_cons, List.flatten_cons, List.length_append] at h hlength
    obtain ⟨hfirst, hrest⟩ := List.append_inj h (by omega)
    rw [List.map_cons, hfirst, ih hrest]

/-- Two escaped texts that are whole are shown in the parts that both have together. -/
theorem Whole.pieces_eq (h : Whole a (c :: s)) (hc : c ≠ '[' ∧ c ≠ '\x5c')
    (hstarts : startsTag c = false) :
    pieces [] [] (tokens (escapeChars a ++ escapeChars (c :: s))) = some (parts (a ++ c :: s)) := by
  have hremains := (remains_eq_iff hc hstarts).mpr h
  have hpieces : pieces [] [] (tokens (escapeChars a ++ escapeChars (c :: s))) =
      some ((parts (a ++ c :: s)).map unescape) := by
    rw [escapeChars_append_escapeChars hstarts hc (not_overlaps h.apart),
      closeBackslash_of_not h.ends.1, closeBackslash_of_not h.ends.2, pieces_escaped, parts]
  rw [remains, hpieces, Option.map_some, Option.some_inj] at hremains
  rw [hpieces, map_unescape_eq_self (hremains.trans (flatten_parts _).symm)]

/-! ### Characters -/

def Token.chars : Token → List Char
  | .tag n content => List.replicate n '\x5c' ++ written content
  | .plain cs => cs

theorem flatMap_chars_tokens (cs : List Char) : (tokens cs).flatMap Token.chars = cs := by
  induction cs using tokens_induction with
  | nil => rfl
  | tag n content rest hcontent ih =>
    rw [tokens_of_tag hcontent, List.flatMap_cons, ih, Token.chars, List.append_assoc]
  | backslashes n ds hds htag ih =>
    rw [tokens_of_backslashes hds htag, List.flatMap_cons, ih, Token.chars]
  | char c ds hc htag ih =>
    rw [tokens_of_char hc htag, List.flatMap_cons, ih, Token.chars, List.singleton_append]

theorem remains_sublist (h : remains tags p ts = some out) :
    out.Sublist (p ++ ts.flatMap Token.chars) := by
  induction ts generalizing tags p out with
  | nil =>
    rw [remains_nil, Option.some_inj] at h
    simpa [← h] using unescape_sublist p
  | cons t ts ih =>
    cases t with
    | plain cs => simpa [Token.chars] using ih h
    | tag n content =>
      have hhalf : (List.replicate (n / 2) '\x5c').Sublist (List.replicate n '\x5c') :=
        (List.replicate_sublist_replicate '\x5c').mpr (by omega)
      have hfront := (unescape_sublist p).append hhalf
      rw [List.flatMap_cons, Token.chars]
      rw [remains_cons] at h
      split at h
      · obtain ⟨rest, hrest, rfl⟩ := Option.map_eq_some_iff.mp h
        simpa using (hfront.append (.refl (written content))).append (ih hrest)
      · cases hpush : (push content tags).toOption with
        | none => simp [hpush] at h
        | some tags' =>
          rw [hpush] at h
          obtain ⟨rest, hrest, rfl⟩ := Option.map_eq_some_iff.mp h
          have htag : rest.Sublist (written content ++ ts.flatMap Token.chars) :=
            (ih hrest).trans (List.sublist_append_right ..)
          simpa using hfront.append htag

theorem count_escapeChars (hd : d ≠ '\x5c') (cs : List Char) :
    (escapeChars cs).count d = cs.count d := by
  have hrun (n : Nat) : (List.replicate n '\x5c').count d = 0 := by
    simp [List.count_replicate, Ne.symm hd]
  have hescaped : (escaped cs).count d = cs.count d := by
    induction cs using tokens_induction with
    | nil => rfl
    | tag n content rest hcontent ih =>
      simp [escaped_of_tag hcontent, List.count_append, hrun, ih]
    | backslashes n ds hds htag ih =>
      simp [escaped_of_backslashes hds htag, List.count_append, hrun, ih]
    | char e ds he htag ih => simp [escaped_of_char he htag, List.count_cons, ih]
  rw [escapeChars, ← escaped, ← hescaped]
  obtain hcs | hcs := closeBackslash_cases (escaped cs) <;> rw [hcs]
  simp [List.count_append, Ne.symm hd]

theorem count_remains_le
    (h : remains [] [] (tokens (escapeChars a ++ escapeChars s)) = some out) (hd : d ≠ '\x5c') :
    out.count d ≤ (a ++ s).count d := by
  have hle := (remains_sublist h).count_le d
  rwa [List.nil_append, flatMap_chars_tokens, List.count_append, count_escapeChars hd,
    count_escapeChars hd, ← List.count_append] at hle

/-! ### Emoji codes and control characters -/

def Uncoded (codes : Emoji.Codes) (cs : List Char) : Prop :=
  ∀ name ∈ Emoji.names cs, Emoji.glyph codes name = none

theorem finish_eq_self (hcode : Uncoded codes cs) (hclean : ∀ c ∈ cs, isControl c = false) :
    finish codes cs = cs := by
  rw [finish, Emoji.replace_eq_self hcode]
  exact List.filter_eq_self.mpr fun c hc => by simp [hclean c hc]

theorem finish_append (h : ∀ c ∈ w, c ≠ ':' ∧ isControl c = false) (cs : List Char) :
    finish codes (w ++ cs) = w ++ finish codes cs := by
  induction w with
  | nil => rfl
  | cons c w ih =>
    obtain ⟨hc, hrest⟩ := List.forall_mem_cons.mp h
    have hcons (cs : List Char) : Emoji.replace codes (c :: cs) = c :: Emoji.replace codes cs := by
      simp [Emoji.replace, Emoji.replaceFrom, hc.1]
    have hfinish (cs : List Char) : finish codes (c :: cs) = c :: finish codes cs := by
      simp [finish, hcons, hc.2]
    rw [List.cons_append, hfinish, ih hrest, List.cons_append]

theorem count_finish (hplain : Emoji.Plain codes) (cs : List Char) :
    (finish codes cs).count ':' + 2 * (Emoji.names cs).countP (Emoji.known codes) =
      cs.count ':' := by
  have hcolon : isControl ':' = false := rfl
  rw [finish, List.count_filter (by simp [hcolon]), Emoji.count_replace hplain]

theorem count_flatMap_finish (hplain : Emoji.Plain codes) (ps : List (List Char)) :
    (ps.flatMap (finish codes)).count ':' +
      2 * (ps.flatMap Emoji.names).countP (Emoji.known codes) = ps.flatten.count ':' := by
  induction ps with
  | nil => rfl
  | cons p ps ih =>
    have hp := count_finish hplain p
    simp only [List.flatMap_cons, List.flatten_cons, List.count_append, List.countP_append]
    omega

/-- All of two escaped texts is shown as it stands. -/
structure Legible (codes : Emoji.Codes) (a s : List Char) : Prop where
  whole : Whole a s
  printable : ∀ d ∈ a ++ s, isControl d = false
  uncoded : ∀ part ∈ parts (a ++ s), Uncoded codes part

theorem flatMap_finish_eq_flatten {ps : List (List Char)} (hcode : ∀ part ∈ ps, Uncoded codes part)
    (hclean : ∀ d ∈ ps.flatten, isControl d = false) : ps.flatMap (finish codes) = ps.flatten := by
  rw [List.flatMap_def]
  refine congrArg List.flatten ((List.map_congr_left fun part hpart => ?_).trans (List.map_id ps))
  exact finish_eq_self (hcode part hpart) fun d hd => hclean d (List.mem_flatten_of_mem hpart hd)

/-- All of two escaped texts is shown if and only if it stays through reading, emoji codes and
control characters alike. -/
theorem flatMap_finish_pieces_iff (hplain : Emoji.Plain codes) (hc : c ≠ '[' ∧ c ≠ '\x5c')
    (hstarts : startsTag c = false) :
    (pieces [] [] (tokens (escapeChars a ++ escapeChars (c :: s)))).map
        (·.flatMap (finish codes)) = some (a ++ c :: s) ↔ Legible codes a (c :: s) := by
  constructor
  · intro h
    obtain ⟨ps, hps, hshown⟩ := Option.map_eq_some_iff.mp h
    have hremains : remains [] [] (tokens (escapeChars a ++ escapeChars (c :: s))) =
        some ps.flatten := by rw [remains, hps, Option.map_some]
    have hcolons : (ps.flatMap Emoji.names).countP (Emoji.known codes) = 0 := by
      have hle := count_remains_le hremains (d := ':') (by decide)
      have hcount := count_flatMap_finish hplain ps
      rw [hshown] at hcount
      omega
    have huncoded : ∀ part ∈ ps, Uncoded codes part := fun part hpart name hname =>
      Emoji.forall_glyph_eq_none hcolons name (List.mem_flatMap.mpr ⟨part, hpart, hname⟩)
    have hclean : ∀ d ∈ a ++ c :: s, isControl d = false := by
      simp [← hshown, finish]
    have hflatten : ps.flatten = a ++ c :: s := by
      rw [← flatMap_finish_eq_flatten huncoded fun d hd => ?_, hshown]
      by_cases hslash : d = '\x5c'
      · exact hslash ▸ rfl
      · refine hclean d (List.count_pos_iff.mp ?_)
        exact Nat.lt_of_lt_of_le (List.count_pos_iff.mpr hd) (count_remains_le hremains hslash)
    have hwhole := (remains_eq_iff hc hstarts).mp (hflatten ▸ hremains)
    obtain rfl := Option.some.inj (hps.symm.trans (hwhole.pieces_eq hc hstarts))
    exact ⟨hwhole, hclean, huncoded⟩
  · intro h
    rw [h.whole.pieces_eq hc hstarts, Option.map_some, flatMap_finish_eq_flatten h.uncoded,
      flatten_parts]
    exact (flatten_parts _).symm ▸ h.printable

/-! ### Words in a style -/

theorem pieces_append (h : p.getLast? ≠ some '\x5c') (q : List Char) :
    pieces tags (p ++ q) ts = (pieces tags q ts).map (·.modifyHead (unescape p ++ ·)) := by
  induction ts generalizing q with
  | nil => simp [pieces_nil, unescape_append h]
  | cons t ts ih =>
    cases t with
    | plain cs => rw [pieces_plain, pieces_plain, List.append_assoc, ih]
    | tag n content =>
      rw [pieces_tag, pieces_tag, unescape_append h]
      split
      · simp [Function.comp_def]
      · cases (push content tags).toOption <;> simp [Function.comp_def]

theorem pieces_word (hword : ∀ d ∈ w, d ≠ '[' ∧ d ≠ '\x5c') (cs : List Char) :
    pieces tags p (tokens (w ++ cs)) = pieces tags (p ++ w) (tokens cs) := by
  induction w generalizing p with
  | nil => rw [List.nil_append, List.append_nil]
  | cons d w ih =>
    obtain ⟨hd, hrest⟩ := List.forall_mem_cons.mp hword
    rw [List.cons_append, tokens_of_char hd.2 (tag?_of_ne hd.1), pieces_plain, ih hrest,
      List.append_assoc, List.singleton_append]

theorem pieces_dim (hword : ∀ d ∈ w, d ≠ '[' ∧ d ≠ '\x5c') (blanks : Nat) (cs : List Char) :
    pieces [] [] (tokens (written "deps.dim".toList ++ (w ++ (written "/deps.dim".toList ++
      (List.replicate blanks ' ' ++ cs))))) =
      (pieces [] [] (tokens cs)).map fun ps =>
        [] :: [] :: w :: [] :: ps.modifyHead (List.replicate blanks ' ' ++ ·) := by
  have hopen (rest : List Char) : tokens (written "deps.dim".toList ++ rest) =
      .tag 0 "deps.dim".toList :: tokens rest := tokens_of_tag (n := 0) (by decide)
  have hclose (rest : List Char) : tokens (written "/deps.dim".toList ++ rest) =
      .tag 0 "/deps.dim".toList :: tokens rest := tokens_of_tag (n := 0) (by decide)
  have hpush : (push "deps.dim".toList []).toOption = some [⟨"deps.dim", none⟩] := by decide +kernel
  have hpop : (push "/deps.dim".toList [⟨"deps.dim", none⟩]).toOption = some [] := by decide +kernel
  have hblanks : ∀ d ∈ List.replicate blanks ' ', d ≠ '[' ∧ d ≠ '\x5c' := by
    simp only [List.mem_replicate]
    rintro _ ⟨-, rfl⟩
    decide
  have hplain {v : List Char} (hv : ∀ d ∈ v, d ≠ '[' ∧ d ≠ '\x5c') : unescape v = v :=
    unescape_eq_self (.inl fun h => (hv _ h).2 rfl)
  have hlast : (List.replicate blanks ' ').getLast? ≠ some '\x5c' :=
    fun h => (hblanks _ (List.mem_of_getLast? h)).2 rfl
  have hrest : pieces [] [] (tokens (List.replicate blanks ' ' ++ cs)) =
      (pieces [] [] (tokens cs)).map (·.modifyHead (List.replicate blanks ' ' ++ ·)) := by
    rw [pieces_word hblanks, List.nil_append, ← List.append_nil (List.replicate blanks ' '),
      pieces_append hlast, hplain hblanks, List.append_nil]
  rw [hopen, pieces_tag, if_neg (by decide), hpush]
  dsimp only
  rw [pieces_word hword, hclose, pieces_tag, if_neg (by decide), hpop]
  dsimp only
  rw [hrest, List.nil_append, hplain hword]
  simp [Option.map_map, Function.comp_def, unescape]

theorem pieces_ne_nil {ps : List (List Char)} (h : pieces tags p ts = some ps) : ps ≠ [] := by
  induction ts generalizing tags p ps with
  | nil =>
    cases h
    simp
  | cons t ts ih =>
    cases t with
    | plain cs => exact ih h
    | tag n content =>
      rw [pieces_tag] at h
      split at h
      · obtain ⟨rest, -, rfl⟩ := Option.map_eq_some_iff.mp h
        simp
      · cases hpush : (push content tags).toOption with
        | none => simp [hpush] at h
        | some tags' =>
          rw [hpush] at h
          obtain ⟨rest, -, rfl⟩ := Option.map_eq_some_iff.mp h
          simp

theorem flatMap_finish_dim
    (hword : ∀ d ∈ w, (d ≠ '[' ∧ d ≠ '\x5c') ∧ d ≠ ':' ∧ isControl d = false) (blanks : Nat)
    (cs : List Char) :
    (pieces [] [] (tokens (written "deps.dim".toList ++ (w ++ (written "/deps.dim".toList ++
      (List.replicate blanks ' ' ++ cs)))))).map (·.flatMap (finish codes)) =
    ((pieces [] [] (tokens cs)).map (·.flatMap (finish codes))).map
      (w ++ List.replicate blanks ' ' ++ ·) := by
  have hw : ∀ d ∈ w, d ≠ ':' ∧ isControl d = false := fun d hd => (hword d hd).2
  have hblanks : ∀ d ∈ List.replicate blanks ' ', d ≠ ':' ∧ isControl d = false := by
    simp only [List.mem_replicate]
    rintro _ ⟨-, rfl⟩
    decide
  have hnil : finish codes [] = [] := rfl
  have hself : finish codes w = w := by
    rw [← List.append_nil w, finish_append hw, hnil]
  rw [pieces_dim fun d hd => (hword d hd).1]
  cases hps : pieces [] [] (tokens cs) with
  | none => rfl
  | some ps =>
    obtain ⟨q, qs, rfl⟩ := List.exists_cons_of_ne_nil (pieces_ne_nil hps)
    simp only [Option.map_some, List.modifyHead_cons, List.flatMap_cons, hnil, hself,
      finish_append hblanks, List.nil_append, List.append_assoc]

end DexRefs.Markup
