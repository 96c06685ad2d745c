import DexRefs.Proofs.EscapedText

/-!
What remains of marked-up text on the console.  Of an escaped text everything remains, but for a
backslash that stands before a bracket without being in front of a tag, and for one that escaping
adds at the end.
-/

set_option autoImplicit false

namespace DexRefs.Markup

variable {a s w x y p q cs ds content rest out : List Char} {c : Char} {n : Nat}
  {tags : List OpenTag} {ts : List Token}

/-! ### Backslashes before brackets -/

/-- The character is a backslash before a bracket where no tag begins. -/
def Idle (c : Char) (cs : List Char) : Prop :=
  c = '\x5c' ∧ cs.head? = some '[' ∧ (tag? cs).isNone = true

instance (c : Char) (cs : List Char) : Decidable (Idle c cs) :=
  inferInstanceAs (Decidable (_ ∧ _))

def remaining : List Char → List Char
  | [] => []
  | c :: cs => if Idle c cs then remaining cs else c :: remaining cs

theorem remaining_of_ne (hc : c ≠ '\x5c') (cs : List Char) :
    remaining (c :: cs) = c :: remaining cs := by
  rw [remaining, if_neg fun h => hc h.1]

theorem remaining_bare (hcs : Bare cs) (hs : s.head? ≠ some '[') :
    remaining (cs ++ s) = cs ++ remaining s := by
  induction cs with
  | nil => rfl
  | cons c cs ih =>
    obtain ⟨-, hbare⟩ := List.forall_mem_cons.mp hcs
    have hhead : (cs ++ s).head? ≠ some '[' := by
      cases cs with
      | nil => exact hs
      | cons d cs => simpa using (hbare d List.mem_cons_self).1
    rw [List.cons_append, remaining, if_neg fun h => hhead h.2.1, ih hbare, List.cons_append]

theorem remaining_backslashes (hds : ds.head? ≠ some '[' ∨ (tag? ds).isSome = true) (n : Nat) :
    remaining (List.replicate n '\x5c' ++ ds) = List.replicate n '\x5c' ++ remaining ds := by
  induction n with
  | zero => rfl
  | succ n ih =>
    have hidle : ¬Idle '\x5c' (List.replicate n '\x5c' ++ ds) := by
      rintro ⟨-, hhead, hnone⟩
      cases n with
      | zero => simp_all
      | succ n => simp [List.replicate_succ] at hhead
    rw [List.replicate_succ, List.cons_append, remaining, if_neg hidle, ih, List.cons_append]

theorem remaining_tag (h : Content content) (n : Nat) (rest : List Char) :
    remaining (List.replicate n '\x5c' ++ (written content ++ rest)) =
      List.replicate n '\x5c' ++ (written content ++ remaining rest) := by
  have hsome : (tag? (written content ++ rest)).isSome = true := by rw [tag?_written h]; rfl
  have hcontent : remaining (written content ++ rest) = written content ++ remaining rest := by
    have hbare : remaining (content ++ ']' :: rest) = content ++ remaining (']' :: rest) :=
      remaining_bare h.1 (by simp)
    have hlist (cs : List Char) : written content ++ cs = '[' :: (content ++ ']' :: cs) := by
      simp [written]
    rw [hlist, hlist, remaining_of_ne (by decide), hbare, remaining_of_ne (by decide)]
  rw [remaining_backslashes (.inr hsome), hcontent]

theorem remaining_idle (h : tag? ('[' :: ds) = none) (n : Nat) :
    remaining (List.replicate (n + 1) '\x5c' ++ '[' :: ds) =
      List.replicate n '\x5c' ++ '[' :: remaining ds := by
  have hidle : Idle '\x5c' ('[' :: ds) := ⟨rfl, rfl, by rw [h]; rfl⟩
  have hlast : remaining ('\x5c' :: '[' :: ds) = '[' :: remaining ds := by
    rw [remaining, if_pos hidle, remaining_of_ne (by decide)]
  rw [← List.replicate_append_replicate, List.append_assoc,
    remaining_backslashes (.inl (by simp)), List.replicate_one, List.singleton_append, hlast]

theorem unescape_cons (h : c ≠ '\x5c' ∨ cs.head? ≠ some '[') :
    unescape (c :: cs) = c :: unescape cs := by
  refine unescape.eq_2 c cs fun ds hc hcs => ?_
  subst hc hcs
  simp at h

theorem unescape_append (h : p.getLast? ≠ some '\x5c') (q : List Char) :
    unescape (p ++ q) = unescape p ++ unescape q := by
  induction p using unescape.induct with
  | case1 cs ih =>
    have hlast : cs.getLast? ≠ some '\x5c' := fun hcs => h (by simp [List.getLast?_cons, hcs])
    simp only [List.cons_append, unescape, ih hlast]
  | case2 c cs hne ih =>
    cases cs with
    | nil =>
      have hc : c ≠ '\x5c' := by simpa using h
      rw [List.singleton_append, unescape_cons (.inl hc), unescape_cons (.inl hc)]
      rfl
    | cons d cs =>
      have hcons : c ≠ '\x5c' ∨ d ≠ '[' := by
        refine Classical.not_not.mp fun hboth => ?_
        simp only [not_or, ne_eq, Decidable.not_not] at hboth
        exact hne cs hboth.1 (by rw [hboth.2])
      have hlast : (d :: cs).getLast? ≠ some '\x5c' := by simpa [List.getLast?_cons] using h
      have hwhole : unescape (c :: (d :: cs ++ q)) = c :: unescape (d :: cs ++ q) :=
        unescape_cons (by simpa using hcons)
      have hpart : unescape (c :: d :: cs) = c :: unescape (d :: cs) :=
        unescape_cons (by simpa using hcons)
      rw [List.cons_append, hwhole, ih hlast, hpart, List.cons_append]
  | case3 => rfl

theorem unescape_backslashes (hds : ds.head? ≠ some '[') (n : Nat) :
    unescape (List.replicate n '\x5c' ++ ds) = List.replicate n '\x5c' ++ unescape ds := by
  induction n with
  | zero => rfl
  | succ n ih =>
    have hhead : (List.replicate n '\x5c' ++ ds).head? ≠ some '[' := by
      cases n with
      | zero => exact hds
      | succ n => simp [List.replicate_succ]
    rw [List.replicate_succ, List.cons_append, unescape_cons (.inr hhead), ih, List.cons_append]

theorem unescape_idle (n : Nat) :
    unescape (List.replicate (n + 1) '\x5c' ++ ['[']) = List.replicate n '\x5c' ++ ['['] := by
  rw [← List.replicate_append_replicate, List.append_assoc, unescape_backslashes (by simp)]
  rfl

theorem remaining_char (hc : c ≠ '\x5c') (h : tag? (c :: ds) = none) (n : Nat) :
    remaining (List.replicate n '\x5c' ++ c :: ds) =
      unescape (List.replicate n '\x5c' ++ [c]) ++ remaining ds := by
  by_cases hopen : c = '['
  · subst hopen
    cases n with
    | zero =>
      rw [List.replicate_zero, List.nil_append, List.nil_append, remaining_of_ne hc]
      rfl
    | succ n => rw [remaining_idle h, unescape_idle, List.append_assoc, List.singleton_append]
  · have hself : unescape [c] = [c] := unescape_cons (.inl hc)
    rw [unescape_backslashes (by simpa using hopen), hself,
      remaining_backslashes (.inl (by simpa using hopen)), remaining_of_ne hc,
      List.append_assoc, List.singleton_append]

def pieces (tags : List OpenTag) (p : List Char) (ts : List Token) : Option (List (List Char)) :=
  (renderTokens tags p ts).toOption.map (·.map Run.chars)

def remains (tags : List OpenTag) (p : List Char) (ts : List Token) : Option (List Char) :=
  (pieces tags p ts).map List.flatten

theorem pieces_nil (tags : List OpenTag) (p : List Char) : pieces tags p [] = some [unescape p] :=
  rfl

theorem pieces_plain (tags : List OpenTag) (p cs : List Char) (ts : List Token) :
    pieces tags p (.plain cs :: ts) = pieces tags (p ++ cs) ts :=
  rfl

theorem pieces_tag (tags : List OpenTag) (p : List Char) (n : Nat) (content : List Char)
    (ts : List Token) : pieces tags p (.tag n content :: ts) =
      if n % 2 = 1 then
        (pieces tags [] ts).map fun rest =>
          unescape p :: List.replicate (n / 2) '\x5c' :: written content :: rest
      else
        match (push content tags).toOption with
        | none => none
        | some tags => (pieces tags [] ts).map fun rest =>
          unescape p :: List.replicate (n / 2) '\x5c' :: rest := by
  unfold pieces
  rw [renderTokens]
  split
  · cases renderTokens tags [] ts <;> rfl
  · cases push content tags with
    | error f => rfl
    | ok tags' =>
      cases hrest : renderTokens tags' [] ts <;>
        simp [hrest, Except.toOption, bind, Except.bind, pure, Except.pure, runOf]

theorem remains_nil (tags : List OpenTag) (p : List Char) :
    remains tags p [] = some (unescape p) := by
  simp [remains, pieces_nil]

theorem remains_plain (tags : List OpenTag) (p cs : List Char) (ts : List Token) :
    remains tags p (.plain cs :: ts) = remains tags (p ++ cs) ts :=
  rfl

theorem remains_cons (tags : List OpenTag) (p : List Char) (n : Nat) (content : List Char)
    (ts : List Token) : remains tags p (.tag n content :: ts) =
      if n % 2 = 1 then
        (remains tags [] ts).map fun rest =>
          unescape p ++ List.replicate (n / 2) '\x5c' ++ written content ++ rest
      else
        match (push content tags).toOption with
        | none => none
        | some tags => (remains tags [] ts).map fun rest =>
          unescape p ++ List.replicate (n / 2) '\x5c' ++ rest := by
  unfold remains
  rw [pieces_tag]
  split
  · cases pieces tags [] ts <;> simp
  · cases (push content tags).toOption with
    | none => rfl
    | some tags' => simp [Function.comp_def]

theorem remains_tag (p : List Char) (n : Nat) (content : List Char) :
    remains tags p (.tag n content :: ts) =
      (remains tags [] (.tag n content :: ts)).map (unescape p ++ ·) := by
  have hnil : unescape [] = [] := rfl
  rw [remains_cons, remains_cons, hnil]
  split
  · simp [Option.map_map, Function.comp_def]
  · cases (push content tags).toOption with
    | none => rfl
    | some tags => simp [Option.map_map, Function.comp_def]

theorem remains_append (h : p.getLast? ≠ some '\x5c') (q : List Char) :
    remains tags (p ++ q) ts = (remains tags q ts).map (unescape p ++ ·) := by
  induction ts generalizing q with
  | nil => simp [remains_nil, unescape_append h]
  | cons t ts ih =>
    cases t with
    | plain cs => rw [remains_plain, remains_plain, List.append_assoc, ih]
    | tag n content =>
      rw [remains_tag, remains_tag q, unescape_append h, Option.map_map]
      simp [Function.comp_def]

theorem tokens_escaped_tag (h : Content content) (n : Nat) (rest : List Char) :
    tokens (escaped (List.replicate n '\x5c' ++ (written content ++ rest))) =
      .tag (2 * n + 1) content :: tokens (escaped rest) := by
  rw [escaped_of_tag h, tokens_of_tag h]

theorem tokens_escaped_backslashes (hds : ds.head? ≠ some '\x5c') (h : tag? ds = none) (n : Nat) :
    tokens (escaped (List.replicate (n + 1) '\x5c' ++ ds)) =
      .plain (List.replicate (n + 1) '\x5c') :: tokens (escaped ds) := by
  obtain ⟨hhead, hnone⟩ := tag?_escaped hds h
  rw [escaped_of_backslashes hds h, tokens_of_backslashes hhead hnone]

theorem tokens_escaped_char (hc : c ≠ '\x5c') (h : tag? (c :: ds) = none) :
    tokens (escaped (c :: ds)) = .plain [c] :: tokens (escaped ds) := by
  rw [escaped_of_char hc h, tokens_of_char hc (tag?_cons_escaped h)]

/-- What remains of an escaped text, whatever tags are open. -/
theorem remains_escaped (cs : List Char) (tags : List OpenTag) :
    remains tags [] (tokens (escaped cs)) = some (remaining cs) := by
  suffices h : remains tags [] (tokens (escaped cs)) = some (remaining cs) ∧
      (cs.head? ≠ some '\x5c' → tag? cs = none → ∀ n,
        remains tags (List.replicate n '\x5c') (tokens (escaped cs)) =
          some (remaining (List.replicate n '\x5c' ++ cs))) from h.1
  induction cs using tokens_induction with
  | nil =>
    refine ⟨rfl, fun _ _ n => ?_⟩
    have hhead : ([] : List Char).head? ≠ some '[' := by simp
    have hremaining := remaining_backslashes (.inl hhead) n
    have hunescape := unescape_backslashes hhead n
    rw [List.append_nil] at hunescape
    rw [hremaining, escaped_nil, tokens_nil, remains_nil, hunescape]
    rfl
  | tag n content rest hcontent ih =>
    constructor
    · rw [tokens_escaped_tag hcontent, remains_cons, if_pos (by omega), ih.1,
        remaining_tag hcontent, show (2 * n + 1) / 2 = n by omega]
      simp [unescape]
    · intro hhead hnone
      cases n with
      | zero =>
        rw [List.replicate_zero, List.nil_append, tag?_written hcontent] at hnone
        cases hnone
      | succ n => simp [List.replicate_succ] at hhead
  | backslashes n ds hds htag ih =>
    constructor
    · rw [tokens_escaped_backslashes hds htag, remains_plain, List.nil_append, ih.2 hds htag]
    · intro hhead
      simp [List.replicate_succ] at hhead
  | char c ds hc htag ih =>
    constructor
    · rw [tokens_escaped_char hc htag, remains_plain, List.nil_append, ← List.append_nil [c],
        remains_append (by simpa using hc), ih.1, Option.map_some]
      exact congrArg some (remaining_char hc htag 0).symm
    · intro _ _ n
      rw [tokens_escaped_char hc htag, remains_plain, ← List.append_nil (_ ++ [c]),
        remains_append (by simpa using hc), ih.1, Option.map_some, remaining_char hc htag]

theorem remaining_cases (cs : List Char) :
    remaining cs = cs ∨
      ∃ p u v, remaining cs = p ++ '[' :: u ∧ cs = p ++ '\x5c' :: '[' :: v := by
  induction cs with
  | nil => exact .inl rfl
  | cons c cs ih =>
    by_cases hidle : Idle c cs
    · obtain ⟨rfl, hhead, hnone⟩ := hidle
      obtain ⟨ds, rfl⟩ := List.head?_eq_some_iff.mp hhead
      refine .inr ⟨[], remaining ds, ds, ?_, rfl⟩
      rw [remaining, if_pos ⟨rfl, hhead, hnone⟩, remaining_of_ne (by decide)]
      rfl
    · rw [remaining, if_neg hidle]
      obtain h | ⟨p, u, v, hu, hv⟩ := ih
      · exact .inl (by rw [h])
      · exact .inr ⟨c :: p, u, v, by rw [hu]; rfl, by rw [hv]; rfl⟩

/-- Each backslash before a bracket stands in front of a tag. -/
def Faithful (cs : List Char) : Prop :=
  ∀ w, '\x5c' :: '[' :: w <:+ cs → (tag? ('[' :: w)).isSome = true

theorem length_remaining_le (cs : List Char) : (remaining cs).length ≤ cs.length := by
  induction cs with
  | nil => exact Nat.le_refl _
  | cons c cs ih =>
    rw [remaining, List.length_cons]
    split
    · omega
    · rw [List.length_cons]
      omega

theorem faithful_cons : Faithful (c :: cs) ↔ ¬Idle c cs ∧ Faithful cs := by
  simp only [Faithful, List.suffix_cons_iff, or_imp, forall_and]
  refine and_congr_left fun _ => ⟨?_, ?_⟩
  · rintro h ⟨rfl, hhead, hnone⟩
    obtain ⟨ds, rfl⟩ := List.head?_eq_some_iff.mp hhead
    rw [Option.isNone_iff_eq_none] at hnone
    have hsome := h ds rfl
    rw [hnone] at hsome
    cases hsome
  · rintro h w hw
    obtain ⟨rfl, rfl⟩ := List.cons.inj hw
    simpa [Idle, Option.isSome_iff_ne_none] using h

theorem remaining_eq_self : remaining cs = cs ↔ Faithful cs := by
  induction cs with
  | nil => simp [remaining, Faithful]
  | cons c cs ih =>
    rw [faithful_cons, ← ih]
    by_cases hidle : Idle c cs
    · have hle := length_remaining_le cs
      have hne : remaining (c :: cs) ≠ c :: cs := by
        intro h
        rw [remaining, if_pos hidle] at h
        rw [h, List.length_cons] at hle
        omega
      simp [hne, hidle]
    · simp [remaining, hidle]

theorem tag?_of_append (h : tag? (a ++ s) = none) : tag? a = none := by
  cases htag : tag? a with
  | none => rfl
  | some p =>
    obtain ⟨hcontent, ha⟩ := tag?_eq_some.mp htag
    rw [ha, List.append_assoc, tag?_written hcontent] at h
    cases h

theorem remaining_append (hs : s.head? ≠ some '[') (h : Parted a s) :
    remaining (a ++ s) = remaining a ++ remaining s := by
  induction a with
  | nil => rfl
  | cons c a ih =>
    have hrest := ih (h.of_suffix (List.suffix_cons c a))
    have hidle : Idle c (a ++ s) ↔ Idle c a := by
      cases a with
      | nil => simp [Idle, hs]
      | cons d a =>
        simp only [Idle, List.cons_append, List.head?_cons, Option.isNone_iff_eq_none]
        refine and_congr_right fun _ => and_congr_right fun hd => ⟨?_, ?_⟩
        · exact tag?_of_append (a := d :: a)
        · obtain rfl := Option.some.inj hd
          exact h a (List.suffix_cons c _)
    rw [List.cons_append, remaining, remaining]
    simp only [hidle, hrest]
    split <;> rfl

/-- No tag reaches from the first text into the second one: then each of them remains on its own. -/
theorem remains_apart (hc : c ≠ '[' ∧ c ≠ '\x5c') (hstarts : startsTag c = false)
    (h : ¬Overlaps a (c :: s)) (tags : List OpenTag) :
    remains tags [] (tokens (escapeChars a ++ escapeChars (c :: s))) =
      some (remaining (closeBackslash a) ++ remaining (closeBackslash (c :: s))) := by
  have hapart := not_overlaps h
  have hhead : (closeBackslash (c :: s)).head? ≠ some '[' := by
    simpa [closeBackslash_cons hc.2] using hc.1
  rw [escapeChars_append_escapeChars hstarts hc hapart, remains_escaped,
    remaining_append hhead (parted_closed hstarts hc.2 hapart)]

/-! ### Tags that two texts share -/

theorem tokens_append (hlast : a.getLast? ≠ some '\x5c') (h : Parted a s) :
    tokens (a ++ s) = tokens a ++ tokens s := by
  induction a using tokens_induction with
  | nil => rfl
  | tag n content rest hcontent ih =>
    have hrest : rest.getLast? ≠ some '\x5c' :=
      fun hr => hlast (by simp [List.getLast?_append, hr])
    rw [List.append_assoc, List.append_assoc, tokens_of_tag hcontent, tokens_of_tag hcontent,
      ih hrest (h.of_suffix (by simp [List.suffix_append_of_suffix])),
      List.cons_append]
  | backslashes n ds hds htag ih =>
    cases ds with
    | nil => simp [List.getLast?_replicate] at hlast
    | cons d ds =>
      have hrest : (d :: ds).getLast? ≠ some '\x5c' :=
        fun hr => hlast (by simp [List.getLast?_append, hr])
      have hnone : tag? (d :: ds ++ s) = none := h.tag?_eq_none (List.suffix_append _ _) htag
      rw [List.append_assoc, tokens_of_backslashes (by simpa using hds) hnone,
        tokens_of_backslashes hds htag,
        ih hrest (h.of_suffix (List.suffix_append _ _)), List.cons_append]
  | char c ds hc htag ih =>
    have hrest : ds.getLast? ≠ some '\x5c' := fun hr => hlast (by simp [List.getLast?_cons, hr])
    have hnone := h.tag?_eq_none (List.suffix_refl _) htag
    rw [List.cons_append, tokens_of_char hc hnone, tokens_of_char hc htag,
      ih hrest (h.of_suffix (List.suffix_cons _ _)), List.cons_append]

theorem remains_before (hodd : ∀ m ∈ ts.flatMap mark, m.1 % 2 = 1)
    (hout : remains tags p ts = some out) (n : Nat) (content : List Char) (ts' : List Token) :
    remains tags p (ts ++ .tag n content :: ts') =
      (remains tags [] (.tag n content :: ts')).map (out ++ ·) := by
  induction ts generalizing p out with
  | nil =>
    obtain rfl := Option.some.inj ((remains_nil tags p).symm.trans hout)
    rw [List.nil_append, remains_tag]
  | cons t ts ih =>
    cases t with
    | plain cs => exact ih hodd hout
    | tag m inner =>
      obtain ⟨hm, hrest⟩ := List.forall_mem_cons.mp hodd
      rw [remains_cons, if_pos hm, Option.map_eq_some_iff] at hout
      obtain ⟨rest, hrender, rfl⟩ := hout
      rw [List.cons_append, remains_cons, if_pos hm, ih hrest hrender, Option.map_map]
      simp [Function.comp_def]

/-- What remains where two escaped texts share a tag, if anything does. -/
theorem remains_shared (hlast : p.getLast? ≠ some '\x5c') (hcontent : Content content)
    (n : Nat) (y : List Char) :
    remains [] [] (tokens (escaped p ++
      (List.replicate n '\x5c' ++ (written content ++ escaped y)))) =
    (if n % 2 = 1 then some (written content ++ remaining y)
      else (push content []).toOption.map fun _ => remaining y).map fun rest =>
        remaining p ++ (List.replicate (n / 2) '\x5c' ++ rest) := by
  have hescaped : (escaped p).getLast? ≠ some '\x5c' := by rwa [getLast?_escaped]
  have hodd : ∀ m ∈ (tokens (escaped p)).flatMap mark, m.1 % 2 = 1 := by
    rw [← marks, marks_escaped, List.forall_mem_map]
    exact fun m _ => by omega
  rw [tokens_append hescaped (.of_untilClose ?_), tokens_of_tag hcontent,
    remains_before hodd (remains_escaped p []), remains_cons]
  · simp only [remains_escaped]
    split
    · simp [unescape]
    · cases (push content []).toOption <;> simp [unescape]
  · simp [written, untilClose]

/-- A tag that two escaped texts share is not shown as it stands. -/
theorem remains_overlap (h : Overlaps a s) :
    remains [] [] (tokens (escapeChars a ++ escapeChars s)) ≠ some (a ++ s) := by
  obtain ⟨pre, n, w, x, y, rfl, hlast, hw, rfl, hx⟩ := h
  obtain ⟨y', hz, hy'⟩ := exists_tail_escaped hx y
  have hbody : escaped pre ++ (List.replicate n '\x5c' ++ '[' :: closeBackslash w) ++
      (x ++ ']' :: escaped y') = escaped pre ++
        (List.replicate n '\x5c' ++ (written (closeBackslash w ++ x) ++ escaped y')) := by
    simp [written]
  rw [escapeChars_open hlast hw, hz, hbody, remains_shared hlast (content_closeBackslash_append hw hx),
    ne_eq, Option.map_eq_some_iff]
  rintro ⟨rest, hrest, heq⟩
  have hpre : remaining pre = pre := by
    obtain hself | ⟨p, u, t, hu, ht⟩ := remaining_cases pre
    · exact hself
    · rw [hu, ht] at heq
      simp only [List.append_assoc, List.append_cancel_left_eq, List.cons_append,
        List.cons.injEq] at heq
      exact absurd heq.1 (by decide)
  simp only [hpre, List.append_assoc, List.append_cancel_left_eq] at heq
  split at hrest
  next hodd =>
    cases hrest
    obtain ⟨k, hk⟩ : ∃ k, n = n / 2 + (k + 1) := ⟨n - n / 2 - 1, by omega⟩
    rw [hk, ← List.replicate_append_replicate, ← hk, List.append_assoc,
      List.append_cancel_left_eq, written, List.replicate_succ, List.cons_append] at heq
    exact absurd (List.cons.inj heq).1 (by decide)
  next =>
    obtain ⟨tags, -, rfl⟩ := Option.map_eq_some_iff.mp hrest
    have hle := length_remaining_le y'
    have hy : y'.length ≤ y.length + 1 := by obtain rfl | rfl := hy' <;> simp
    have hlength := congrArg List.length heq
    simp only [List.length_append, List.length_replicate, List.length_cons] at hlength
    omega

/-! ### When all of a text remains -/

theorem whole_of_remaining (hq : q.head? ≠ some '\x5c')
    (h : remaining (closeBackslash a) ++ p = a ++ q) : Faithful a ∧ ¬EndsLone a := by
  obtain ⟨hlone, hclose⟩ | ⟨hlone, hclose⟩ := closeBackslash_eq a <;> rw [hclose] at h
  · refine absurd ?_ hq
    obtain hself | ⟨r, u, v, hu, hv⟩ := remaining_cases (a ++ ['\x5c'])
    · rw [hself, List.append_assoc, List.append_cancel_left_eq] at h
      rw [← h]
      rfl
    · obtain ⟨v, rfl⟩ : ∃ v', v = v' ++ ['\x5c'] := by
        have hlast := congrArg List.getLast? hv
        cases hlast' : v.getLast? with
        | none => simp [List.getLast?_append, List.getLast?_cons, hlast'] at hlast
        | some d =>
          obtain rfl : '\x5c' = d := by
            simpa [List.getLast?_append, List.getLast?_cons, hlast'] using hlast
          exact List.getLast?_eq_some_iff.mp hlast'
      have ha : a = r ++ '\x5c' :: '[' :: v := by
        refine List.append_cancel_right (hv.trans ?_)
        rw [List.append_assoc, List.cons_append, List.cons_append]
      rw [hu, ha] at h
      simp at h
  · obtain hself | ⟨r, u, v, hu, hv⟩ := remaining_cases a
    · exact ⟨remaining_eq_self.mp hself, hlone⟩
    · rw [hu, hv] at h
      simp at h

/-- Two escaped texts, one after the other, are shown as they stand. -/
structure Whole (a s : List Char) : Prop where
  apart : ¬Overlaps a s
  faithful : Faithful a ∧ Faithful s
  ends : ¬EndsLone a ∧ ¬EndsLone s

theorem remains_eq_iff (hc : c ≠ '[' ∧ c ≠ '\x5c') (hstarts : startsTag c = false) :
    remains [] [] (tokens (escapeChars a ++ escapeChars (c :: s))) = some (a ++ c :: s) ↔
      Whole a (c :: s) := by
  constructor
  · intro h
    have hapart : ¬Overlaps a (c :: s) := fun hover => remains_overlap hover h
    rw [remains_apart hc hstarts hapart, Option.some_inj] at h
    have ha := whole_of_remaining (by simpa using hc.2) h
    rw [closeBackslash_of_not ha.2, remaining_eq_self.mpr ha.1, List.append_cancel_left_eq] at h
    have hs := whole_of_remaining (a := c :: s) (p := []) (q := []) (by simp) (by simpa using h)
    exact ⟨hapart, ⟨ha.1, hs.1⟩, ha.2, hs.2⟩
  · rintro ⟨hapart, ⟨hfa, hfs⟩, hea, hes⟩
    rw [remains_apart hc hstarts hapart, closeBackslash_of_not hea,
      closeBackslash_of_not hes, remaining_eq_self.mpr hfa, remaining_eq_self.mpr hfs]

end DexRefs.Markup
