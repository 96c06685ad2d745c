import DexRefs.Console.Markup

/-!
The tags of marked-up text, each with the backslashes in front of it, and the text that escaping
makes of it.  Both are read off the tokens, and texts that stand one after the other can be read on
their own as long as no tag reaches from one into the other.
-/

set_option autoImplicit false

namespace DexRefs.Markup

variable {cs ds content rest : List Char} {c : Char} {n : Nat}

/-! ### Tags -/

def Bare (cs : List Char) : Prop :=
  ∀ c ∈ cs, c ≠ '[' ∧ c ≠ ']'

instance (cs : List Char) : Decidable (Bare cs) :=
  List.decidableBAll (fun c => c ≠ '[' ∧ c ≠ ']') cs

theorem untilClose_eq_some :
    untilClose cs = some (content, rest) ↔ Bare content ∧ cs = content ++ ']' :: rest := by
  induction cs generalizing content with
  | nil => simp [untilClose]
  | cons c cs ih =>
    by_cases hclose : c = ']'
    · subst hclose
      cases content with
      | nil => simp [untilClose, Bare, eq_comm]
      | cons d content =>
        simp only [untilClose, if_pos, Option.some.injEq, Prod.mk.injEq, List.nil_eq, reduceCtorEq,
          false_and, List.cons_append, List.cons.injEq, false_iff, not_and]
        rintro hbare rfl
        exact absurd rfl (hbare ']' (by simp)).2
    by_cases hopen : c = '['
    · subst hopen
      cases content with
      | nil => simp [untilClose]
      | cons d content =>
        simp only [untilClose, hclose, if_false, if_true, reduceCtorEq, List.cons_append,
          List.cons.injEq, false_iff, not_and]
        rintro hbare rfl
        exact absurd rfl (hbare '[' (by simp)).1
    rw [untilClose, if_neg hclose, if_neg hopen]
    cases content with
    | nil => simp [hclose]
    | cons d content =>
      simp only [Option.map_eq_some_iff, Prod.exists, Prod.mk.injEq, List.cons.injEq,
        List.cons_append]
      constructor
      · rintro ⟨x, y, hx, ⟨rfl, rfl⟩, rfl⟩
        obtain ⟨hbare, rfl⟩ := ih.mp hx
        exact ⟨List.forall_mem_cons.mpr ⟨⟨hopen, hclose⟩, hbare⟩, rfl, rfl⟩
      · rintro ⟨hbare, rfl, hcs⟩
        exact ⟨content, rest, ih.mpr ⟨(List.forall_mem_cons.mp hbare).2, hcs⟩, ⟨rfl, rfl⟩, rfl⟩

/-- What stands in a tag, or in one that is begun. -/
def Content (w : List Char) : Prop :=
  Bare w ∧ ∃ c ∈ w.head?, startsTag c = true

instance (w : List Char) : Decidable (Content w) :=
  letI : Decidable (∃ c ∈ w.head?, startsTag c = true) := Option.decidableExistsMem w.head?
  inferInstanceAs (Decidable (Bare w ∧ ∃ c ∈ w.head?, startsTag c = true))

theorem startsTag_ne (h : startsTag c = true) : c ≠ '[' ∧ c ≠ ']' ∧ c ≠ '\x5c' := by
  refine ⟨?_, ?_, ?_⟩ <;> rintro rfl <;> revert h <;> decide

theorem tag?_of_ne (h : c ≠ '[') : tag? (c :: cs) = none := by
  unfold tag?
  split
  next heq => exact absurd (List.cons.inj heq).1 h
  next => rfl

theorem tag?_eq_some :
    tag? ds = some (content, rest) ↔ Content content ∧ ds = written content ++ rest := by
  cases ds with
  | nil => simp [tag?, written]
  | cons b ds =>
    by_cases hb : b = '['
    · subst hb
      cases ds with
      | nil =>
        simp only [tag?, reduceCtorEq, written, List.cons_append, List.cons.injEq, true_and,
          false_iff, not_and]
        rintro - h
        simpa using congrArg List.length h
      | cons c ds =>
        cases hc : startsTag c with
        | false =>
          simp only [tag?, hc, Bool.false_eq_true, if_false, reduceCtorEq, false_iff, not_and,
            written, List.cons_append, List.cons.injEq, true_and]
          rintro ⟨-, d, hd, hstarts⟩ h
          cases content with
          | nil => cases hd
          | cons e content =>
            cases hd
            obtain ⟨rfl, -⟩ := List.cons.inj h
            rw [hc] at hstarts
            cases hstarts
        | true =>
          simp only [tag?, hc, if_true, Option.map_eq_some_iff, Prod.exists, Prod.mk.injEq,
            untilClose_eq_some, written]
          constructor
          · rintro ⟨x, y, ⟨hbare, rfl⟩, rfl, rfl⟩
            have hne := startsTag_ne hc
            exact ⟨⟨List.forall_mem_cons.mpr ⟨⟨hne.1, hne.2.1⟩, hbare⟩, c, rfl, hc⟩, by simp⟩
          · rintro ⟨⟨hbare, d, hd, -⟩, heq⟩
            cases content with
            | nil => cases hd
            | cons e content =>
              simp only [List.cons_append, List.cons.injEq, true_and, List.append_assoc] at heq
              obtain ⟨rfl, rfl⟩ := heq
              exact ⟨content, rest, ⟨(List.forall_mem_cons.mp hbare).2, rfl⟩, rfl, rfl⟩
    · rw [tag?_of_ne hb]
      simp [written, hb]

theorem tag?_written (h : Content content) :
    tag? (written content ++ rest) = some (content, rest) :=
  tag?_eq_some.mpr ⟨h, rfl⟩

/-! ### Tokens -/

theorem takeWhile_run (h : ds.head? ≠ some '\x5c') :
    (List.replicate n '\x5c' ++ ds).takeWhile (· = '\x5c') = List.replicate n '\x5c' := by
  rw [List.takeWhile_append_of_pos (by simp)]
  cases ds with
  | nil => simp
  | cons d ds => simp_all

theorem dropWhile_run (h : ds.head? ≠ some '\x5c') :
    (List.replicate n '\x5c' ++ ds).dropWhile (· = '\x5c') = ds := by
  rw [List.dropWhile_append_of_pos (by simp)]
  cases ds with
  | nil => simp
  | cons d ds => simp_all

theorem exists_run (cs : List Char) :
    ∃ n ds, cs = List.replicate n '\x5c' ++ ds ∧ ds.head? ≠ some '\x5c' := by
  induction cs with
  | nil => exact ⟨0, [], rfl, by simp⟩
  | cons c cs ih =>
    by_cases hc : c = '\x5c'
    · subst hc
      obtain ⟨n, ds, rfl, hds⟩ := ih
      exact ⟨n + 1, ds, rfl, hds⟩
    · exact ⟨0, c :: cs, rfl, by simpa using hc⟩

theorem tokensFrom_run {fuel : Nat} (hds : ds.head? ≠ some '\x5c')
    (hne : List.replicate n '\x5c' ++ ds ≠ []) :
    tokensFrom (fuel + 1) (List.replicate n '\x5c' ++ ds) =
      match tag? ds, n with
      | some (content, rest), n => .tag n content :: tokensFrom fuel rest
      | none, 0 => .plain (ds.take 1) :: tokensFrom fuel (ds.drop 1)
      | none, n + 1 => .plain (List.replicate (n + 1) '\x5c') :: tokensFrom fuel ds := by
  have hrun := takeWhile_run (n := n) hds
  have hdrop : (List.replicate n '\x5c' ++ ds).drop n = ds := by simp
  cases hcs : List.replicate n '\x5c' ++ ds with
  | nil => exact absurd hcs hne
  | cons c cs =>
    rw [hcs] at hrun hdrop
    rw [tokensFrom, hrun, List.length_replicate, hdrop]
    cases tag? ds with
    | some p => rfl
    | none =>
      cases n with
      | zero =>
        obtain rfl : ds = c :: cs := hcs
        rfl
      | succ n => rfl

theorem tokensFrom_fuel {fuel fuel' : Nat} (h : cs.length ≤ fuel) (h' : cs.length ≤ fuel') :
    tokensFrom fuel cs = tokensFrom fuel' cs := by
  -- a token takes at least one character, so that both bounds are still enough for the rest
  induction fuel generalizing cs fuel' with
  | zero =>
    obtain rfl := List.length_eq_zero_iff.mp (Nat.le_zero.mp h)
    cases fuel' <;> rfl
  | succ fuel ih =>
    cases fuel' with
    | zero =>
      obtain rfl := List.length_eq_zero_iff.mp (Nat.le_zero.mp h')
      rfl
    | succ fuel' =>
      obtain ⟨n, ds, rfl, hds⟩ := exists_run cs
      by_cases hne : List.replicate n '\x5c' ++ ds = []
      · rw [hne]
        rfl
      rw [tokensFrom_run hds hne, tokensFrom_run hds hne]
      simp only [List.length_append, List.length_replicate] at h h'
      cases htag : tag? ds with
      | some p =>
        obtain ⟨content, rest⟩ := p
        obtain ⟨-, rfl⟩ := tag?_eq_some.mp htag
        simp only [written, List.length_append, List.length_cons] at h h'
        have hfuel : rest.length ≤ fuel := by omega
        have hfuel' : rest.length ≤ fuel' := by omega
        simp only [ih hfuel hfuel']
      | none =>
        cases n with
        | zero =>
          cases ds with
          | nil => exact absurd rfl hne
          | cons d ds =>
            simp only [List.length_cons] at h h'
            have hfuel : ds.length ≤ fuel := by omega
            have hfuel' : ds.length ≤ fuel' := by omega
            simp only [List.drop_one, List.tail_cons, ih hfuel hfuel']
        | succ n =>
          have hfuel : ds.length ≤ fuel := by omega
          have hfuel' : ds.length ≤ fuel' := by omega
          simp only [ih hfuel hfuel']

theorem tokensFrom_eq_tokens {fuel : Nat} (h : cs.length ≤ fuel) :
    tokensFrom fuel cs = tokens cs :=
  tokensFrom_fuel h (Nat.le_refl _)

theorem tokens_run (hds : ds.head? ≠ some '\x5c') (hne : List.replicate n '\x5c' ++ ds ≠ []) :
    tokens (List.replicate n '\x5c' ++ ds) =
      match tag? ds, n with
      | some (content, rest), n => .tag n content :: tokens rest
      | none, 0 => .plain (ds.take 1) :: tokens (ds.drop 1)
      | none, n + 1 => .plain (List.replicate (n + 1) '\x5c') :: tokens ds := by
  rw [← tokensFrom_eq_tokens (Nat.le_succ _), tokensFrom_run hds hne]
  cases htag : tag? ds with
  | some p =>
    obtain ⟨content, rest⟩ := p
    obtain ⟨-, rfl⟩ := tag?_eq_some.mp htag
    dsimp only
    rw [tokensFrom_eq_tokens (by simp [written]; omega)]
  | none =>
    cases n with
    | zero =>
      dsimp only
      rw [tokensFrom_eq_tokens (by simp)]
    | succ n =>
      dsimp only
      rw [tokensFrom_eq_tokens (by simp)]

@[simp] theorem tokens_nil : tokens [] = [] := rfl

theorem tokens_of_tag (h : Content content) :
    tokens (List.replicate n '\x5c' ++ (written content ++ rest)) =
      .tag n content :: tokens rest := by
  rw [tokens_run (by simp [written]) (by simp [written]), tag?_written h]

theorem tokens_of_backslashes (hds : ds.head? ≠ some '\x5c') (h : tag? ds = none) :
    tokens (List.replicate (n + 1) '\x5c' ++ ds) =
      .plain (List.replicate (n + 1) '\x5c') :: tokens ds := by
  rw [tokens_run hds (by simp), h]

theorem tokens_of_char (hc : c ≠ '\x5c') (h : tag? (c :: ds) = none) :
    tokens (c :: ds) = .plain [c] :: tokens ds := by
  have hrun : tokens (List.replicate 0 '\x5c' ++ c :: ds) = _ :=
    tokens_run (by simpa using hc) (by simp)
  rwa [h] at hrun

/-- Induction on the tokens of a text. -/
@[elab_as_elim]
theorem tokens_induction {motive : List Char → Prop} (nil : motive [])
    (tag : ∀ n content rest, Content content → motive rest →
      motive (List.replicate n '\x5c' ++ (written content ++ rest)))
    (backslashes : ∀ n ds, ds.head? ≠ some '\x5c' → tag? ds = none → motive ds →
      motive (List.replicate (n + 1) '\x5c' ++ ds))
    (char : ∀ c ds, c ≠ '\x5c' → tag? (c :: ds) = none → motive ds → motive (c :: ds))
    (cs : List Char) : motive cs := by
  induction hlength : cs.length using Nat.strongRecOn generalizing cs with
  | _ k ih =>
    subst hlength
    obtain ⟨n, ds, rfl, hds⟩ := exists_run cs
    cases htag : tag? ds with
    | some p =>
      obtain ⟨hcontent, rfl⟩ := tag?_eq_some.mp htag
      exact tag n p.1 p.2 hcontent (ih _ (by simp [written]; omega) p.2 rfl)
    | none =>
      cases n with
      | succ n => exact backslashes n ds hds htag (ih _ (by simp) ds rfl)
      | zero =>
        cases ds with
        | nil => exact nil
        | cons c ds =>
          exact char c ds (by simpa using hds) htag (ih _ (by simp) ds rfl)

/-! ### Texts one after the other -/

theorem tag?_bracket {w : List Char} : tag? ('[' :: w) = none ↔
    ∀ c cs, w = c :: cs → startsTag c = true → untilClose cs = none := by
  cases w with
  | nil => simp [tag?]
  | cons c cs => cases hc : startsTag c <;> simp [tag?, hc]

theorem tag?_of_untilClose {w : List Char} (h : untilClose w = none) : tag? ('[' :: w) = none := by
  rw [tag?_bracket]
  rintro c cs rfl hc
  obtain ⟨hopen, hclose, -⟩ := startsTag_ne hc
  simpa [untilClose, hopen, hclose] using h

variable {a b s w : List Char}

theorem untilClose_append (h : untilClose cs = none) (hs : untilClose s = none ∨ ¬Bare cs) :
    untilClose (cs ++ s) = none := by
  induction cs with
  | nil => exact hs.resolve_right (by simp [Bare])
  | cons c cs ih =>
    by_cases hclose : c = ']'
    · simp [untilClose, hclose] at h
    by_cases hopen : c = '['
    · simp [untilClose, hopen]
    simp only [untilClose, List.cons_append, hclose, hopen, if_false, Option.map_eq_none_iff]
      at h ⊢
    refine ih h (hs.imp_right fun hbare hcs => hbare ?_)
    exact List.forall_mem_cons.mpr ⟨⟨hopen, hclose⟩, hcs⟩

/-- What follows begins with no closing bracket, or the text goes on after the bracket so that no
tag is left open: then what is no tag does not become one. -/
theorem tag?_append (h : tag? ('[' :: w) = none)
    (hs : untilClose s = none ∨ w ≠ [] ∧ ¬Content w) : tag? ('[' :: (w ++ s)) = none := by
  rw [tag?_bracket] at h
  cases w with
  | nil => exact tag?_of_untilClose (hs.resolve_right (by simp))
  | cons c cs =>
    rw [tag?_bracket]
    rintro _ _ ⟨⟩ hc
    obtain ⟨hopen, hclose, -⟩ := startsTag_ne hc
    refine untilClose_append (h c cs rfl hc) (hs.imp_right fun hw hcs => hw.2 ⟨?_, c, rfl, hc⟩)
    exact List.forall_mem_cons.mpr ⟨⟨hopen, hclose⟩, hcs⟩

/-- No tag begins in the first text and ends in the second one. -/
def Parted (a s : List Char) : Prop :=
  ∀ w, '[' :: w <:+ a → tag? ('[' :: w) = none → tag? ('[' :: (w ++ s)) = none

theorem Parted.of_untilClose (h : untilClose s = none) : Parted a s :=
  fun _ _ hnone => tag?_append hnone (.inl h)

theorem Parted.of_suffix (h : Parted a s) (hb : b <:+ a) : Parted b s :=
  fun w hw => h w (hw.trans hb)

theorem Parted.tag?_eq_none (h : Parted a s) (hsuffix : c :: ds <:+ a)
    (hnone : tag? (c :: ds) = none) : tag? (c :: (ds ++ s)) = none := by
  by_cases hc : c = '['
  · subst hc
    exact h ds hsuffix hnone
  · exact tag?_of_ne hc

/-- What is read from a text token by token is read from its parts, if it makes no difference where
a run of backslashes is cut and no tag reaches over the place between the parts. -/
theorem flatMap_tokens_append {β : Type} {g : Token → List β} (hnil : g (.plain []) = [])
    (hrun : ∀ m n, g (.plain (List.replicate (m + n) '\x5c')) =
      g (.plain (List.replicate m '\x5c')) ++ g (.plain (List.replicate n '\x5c')))
    (hb : a.getLast? = some '\x5c' → tag? (s.dropWhile (· = '\x5c')) = none)
    (ht : Parted a s) :
    (tokens (a ++ s)).flatMap g = (tokens a).flatMap g ++ (tokens s).flatMap g := by
  induction a using tokens_induction with
  | nil => simp
  | tag n content rest hcontent ih =>
    rw [List.append_assoc, List.append_assoc, tokens_of_tag hcontent, tokens_of_tag hcontent,
      List.flatMap_cons, List.flatMap_cons, List.append_assoc, ih]
    · exact fun h => hb (by simp [List.getLast?_append, h])
    · exact ht.of_suffix (by simp [List.suffix_append_of_suffix])
  | backslashes n ds hds htag ih =>
    have hrest := ih (fun h => hb (by simp [List.getLast?_append, h]))
      (ht.of_suffix (List.suffix_append _ _))
    rw [List.append_assoc, tokens_of_backslashes hds htag, List.flatMap_cons, List.append_assoc,
      ← hrest]
    cases ds with
    | nil =>
      obtain ⟨m, s, rfl, hs⟩ := exists_run s
      have hnone : tag? s = none := by
        have h := hb (by simp [List.getLast?_replicate])
        rwa [dropWhile_run hs] at h
      rw [List.nil_append, ← List.append_assoc, List.replicate_append_replicate,
        show n + 1 + m = n + m + 1 by omega, tokens_of_backslashes hs hnone,
        show n + m + 1 = n + 1 + m by omega, List.flatMap_cons, hrun, List.append_assoc]
      cases m with
      | zero => simp [hnil]
      | succ m => rw [tokens_of_backslashes hs hnone, List.flatMap_cons]
    | cons d ds =>
      have hnone : tag? (d :: ds ++ s) = none := ht.tag?_eq_none (List.suffix_append _ _) htag
      rw [tokens_of_backslashes (by simpa using hds) hnone, List.flatMap_cons]
  | char c ds hc htag ih =>
    have hrest := ih (fun h => hb (by simp [List.getLast?_cons, h]))
      (ht.of_suffix (List.suffix_cons _ _))
    have hnone := ht.tag?_eq_none (List.suffix_refl _) htag
    rw [List.cons_append, tokens_of_char hc hnone, tokens_of_char hc htag, List.flatMap_cons,
      List.flatMap_cons, List.append_assoc, hrest]

/-- A tag with the number of backslashes in front of it. -/
def mark : Token → List (Nat × List Char)
  | .tag n content => [(n, content)]
  | .plain _ => []

def marks (cs : List Char) : List (Nat × List Char) :=
  (tokens cs).flatMap mark

def escaped (cs : List Char) : List Char :=
  (tokens cs).flatMap escapeToken

theorem marks_append (hb : a.getLast? = some '\x5c' → tag? (s.dropWhile (· = '\x5c')) = none)
    (ht : Parted a s) :
    marks (a ++ s) = marks a ++ marks s :=
  flatMap_tokens_append rfl (fun _ _ => rfl) hb ht

theorem escaped_append (hb : a.getLast? = some '\x5c' → tag? (s.dropWhile (· = '\x5c')) = none)
    (ht : Parted a s) :
    escaped (a ++ s) = escaped a ++ escaped s :=
  flatMap_tokens_append rfl (fun _ _ => List.replicate_append_replicate.symm) hb ht

theorem marks_of_tag (h : Content content) :
    marks (List.replicate n '\x5c' ++ (written content ++ rest)) = (n, content) :: marks rest := by
  rw [marks, tokens_of_tag h]
  rfl

theorem marks_of_backslashes (hds : ds.head? ≠ some '\x5c') (h : tag? ds = none) :
    marks (List.replicate (n + 1) '\x5c' ++ ds) = marks ds := by
  rw [marks, tokens_of_backslashes hds h]
  rfl

theorem marks_of_char (hc : c ≠ '\x5c') (h : tag? (c :: ds) = none) :
    marks (c :: ds) = marks ds := by
  rw [marks, tokens_of_char hc h]
  rfl

theorem escaped_of_tag (h : Content content) :
    escaped (List.replicate n '\x5c' ++ (written content ++ rest)) =
      List.replicate (2 * n + 1) '\x5c' ++ (written content ++ escaped rest) := by
  rw [escaped, tokens_of_tag h, List.flatMap_cons, ← escaped, escapeToken, List.append_assoc]

theorem escaped_of_backslashes (hds : ds.head? ≠ some '\x5c') (h : tag? ds = none) :
    escaped (List.replicate (n + 1) '\x5c' ++ ds) =
      List.replicate (n + 1) '\x5c' ++ escaped ds := by
  rw [escaped, tokens_of_backslashes hds h]
  rfl

theorem escaped_of_char (hc : c ≠ '\x5c') (h : tag? (c :: ds) = none) :
    escaped (c :: ds) = c :: escaped ds := by
  rw [escaped, tokens_of_char hc h]
  rfl

@[simp] theorem marks_nil : marks [] = [] := rfl

@[simp] theorem escaped_nil : escaped [] = [] := rfl

/-- A text that lacks one of the two brackets has no tags. -/
theorem marks_eq_nil (h : '[' ∉ cs ∨ ']' ∉ cs) : marks cs = [] := by
  induction cs using tokens_induction with
  | nil => rfl
  | tag n content rest hcontent ih => simp [written] at h
  | backslashes n ds hds htag ih =>
    rw [marks_of_backslashes hds htag]
    exact ih (h.imp (fun h => by simp_all) fun h => by simp_all)
  | char c ds hc htag ih =>
    rw [marks_of_char hc htag]
    exact ih (h.imp (fun h => by simp_all) fun h => by simp_all)

theorem escaped_of_marks_eq_nil (h : marks cs = []) : escaped cs = cs := by
  induction cs using tokens_induction with
  | nil => rfl
  | tag n content rest hcontent ih =>
    rw [marks_of_tag hcontent] at h
    cases h
  | backslashes n ds hds htag ih =>
    rw [marks_of_backslashes hds htag] at h
    rw [escaped_of_backslashes hds htag, ih h]
  | char c ds hc htag ih =>
    rw [marks_of_char hc htag] at h
    rw [escaped_of_char hc htag, ih h]

theorem escaped_eq_self (h : '[' ∉ cs ∨ ']' ∉ cs) : escaped cs = cs :=
  escaped_of_marks_eq_nil (marks_eq_nil h)

end DexRefs.Markup
