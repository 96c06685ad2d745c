import DexRefs.Reference
import Mathlib.Data.List.DropRight
import Mathlib.Data.List.Nodup

/-!
What texts tell.  Well-formed descriptors have different source-level names, but for a primitive
and the class that is called like its keyword; and the text of a member tells whether it is a
field or a method, the name of its class, its own name, and its types.
-/

set_option autoImplicit false

namespace DexRefs

section Marks

variable {α : Type} {x : α} {as bs us vs : List α}

theorem first_mark_unique (ha : x ∉ as) (hb : x ∉ bs) (h : as ++ x :: us = bs ++ x :: vs) :
    as = bs ∧ us = vs := by
  induction as generalizing bs with
  | nil =>
    cases bs with
    | nil => simpa using h
    | cons b bs =>
      simp only [List.nil_append, List.cons_append, List.cons.injEq] at h
      simp [h.1] at hb
  | cons a as ih =>
    cases bs with
    | nil =>
      simp only [List.nil_append, List.cons_append, List.cons.injEq] at h
      simp [h.1] at ha
    | cons b bs =>
      simp only [List.cons_append, List.cons.injEq, List.mem_cons, not_or] at h ha hb
      simpa [h.1] using ih ha.2 hb.2 h.2

theorem last_mark_unique (hu : x ∉ us) (hv : x ∉ vs) (h : as ++ x :: us = bs ++ x :: vs) :
    as = bs ∧ us = vs := by
  have hr : us.reverse ++ x :: as.reverse = vs.reverse ++ x :: bs.reverse := by
    simpa using congrArg List.reverse h
  have hc := first_mark_unique (by simpa using hu) (by simpa using hv) hr
  exact ⟨List.reverse_injective hc.2, List.reverse_injective hc.1⟩

end Marks

namespace Descriptor

def primitives : List Char :=
  ['V', 'Z', 'B', 'S', 'C', 'I', 'J', 'F', 'D']

def punctuation : List Char :=
  ['.', ';', '[', ']', ':', '(', ')']

/-- The descriptor of a type that is no array. -/
inductive Base : List Char → Prop where
  | primitive {c : Char} : c ∈ primitives → Base [c]
  | named {name : List Char} : name ≠ [] → (∀ c ∈ name, c ∉ punctuation) →
      Base ('L' :: name ++ [';'])

/-- A well-formed descriptor: dimensions, then the descriptor of a type that is no array. -/
def WellFormed (d : String) : Prop :=
  ∃ n cs, Base cs ∧ d.toList = List.replicate n '[' ++ cs

/-- Two types of the same dimensions, over a primitive and over the class that is called like the
keyword of that primitive. -/
def Homonyms (d e : String) : Prop :=
  ∃ n c word, keyword? [c] = some word ∧ d.toList = List.replicate n '[' ++ [c] ∧
    e.toList = List.replicate n '[' ++ ('L' :: word.toList ++ [';'])

def dotted (name : List Char) : List Char :=
  name.map fun c => if c = '/' then '.' else c

def brackets (n : Nat) : List Char :=
  (List.replicate n ['[', ']']).flatten

@[simp] theorem brackets_zero : brackets 0 = [] := rfl

@[simp] theorem brackets_succ (n : Nat) : brackets (n + 1) = '[' :: ']' :: brackets n := by
  simp [brackets, List.replicate_succ]

theorem dotted_injective {xs ys : List Char} (hx : '.' ∉ xs) (hy : '.' ∉ ys)
    (h : dotted xs = dotted ys) : xs = ys := by
  induction xs generalizing ys with
  | nil => simpa [dotted] using h.symm
  | cons x xs ih =>
    cases ys with
    | nil => simp [dotted] at h
    | cons y ys =>
      simp only [dotted, List.map_cons, List.cons.injEq, List.mem_cons, not_or] at h hx hy
      have hxy : x = y := by grind
      rw [hxy, ih hx.2 hy.2 h.2]

theorem brackets_injective {m n : Nat} (h : brackets m = brackets n) : m = n := by
  induction m generalizing n with
  | zero =>
    cases n with
    | zero => rfl
    | succ n => simp at h
  | succ m ih =>
    cases n with
    | zero => simp at h
    | succ n =>
      simp only [brackets_succ, List.cons.injEq, true_and] at h
      rw [ih h]

theorem append_brackets_injective {xs ys : List Char} {m n : Nat} (hx : '[' ∉ xs)
    (hy : '[' ∉ ys) (h : xs ++ brackets m = ys ++ brackets n) : xs = ys ∧ m = n := by
  cases m with
  | zero =>
    cases n with
    | zero => simpa using h
    | succ n => simp [show xs = _ by simpa using h] at hx
  | succ m =>
    cases n with
    | zero => simp [show ys = _ by simpa using h.symm] at hy
    | succ n =>
      simp only [brackets_succ] at h
      have hc := first_mark_unique hx hy h
      rw [List.cons.injEq] at hc
      exact ⟨hc.1, by rw [brackets_injective hc.2.2]⟩

theorem baseName_named (name : List Char) : baseName ('L' :: name ++ [';']) = dotted name := by
  simp [baseName, className?, dotted]

theorem exists_keyword {c : Char} (hc : c ∈ primitives) : ∃ word, keyword? [c] = some word := by
  have h : primitives.all fun c => (keyword? [c]).isSome := by decide
  exact Option.isSome_iff_exists.mp (List.all_eq_true.mp h c hc)

theorem keyword_spec {c : Char} {word : String} (h : keyword? [c] = some word) :
    c ≠ '[' ∧ baseName [c] = word.toList ∧ '.' ∉ word.toList ∧
      dotted word.toList = word.toList := by
  unfold keyword? at h
  split at h <;> cases h <;> simp_all <;> decide

theorem baseName_primitive_injective {c d : Char} (hc : c ∈ primitives) (hd : d ∈ primitives)
    (h : baseName [c] = baseName [d]) : c = d := by
  have hn : (primitives.map fun c => baseName [c]).Nodup := by decide
  exact List.inj_on_of_nodup_map hn hc hd h

theorem keyword_of_baseName {c : Char} {name : List Char} (hc : c ∈ primitives)
    (hn : ∀ x ∈ name, x ∉ punctuation) (h : baseName [c] = baseName ('L' :: name ++ [';'])) :
    ∃ word, keyword? [c] = some word ∧ word.toList = name := by
  obtain ⟨word, hw⟩ := exists_keyword hc
  obtain ⟨-, hbase, hdot, hword⟩ := keyword_spec hw
  rw [hbase, baseName_named, ← hword] at h
  exact ⟨word, hw, dotted_injective hdot (fun hm => hn _ hm (by decide)) h⟩

theorem Base.baseName_injective {cs ds : List Char} (hc : Base cs) (hd : Base ds)
    (h : baseName cs = baseName ds) : cs = ds ∨ ∃ c word, keyword? [c] = some word ∧
      (cs = [c] ∧ ds = 'L' :: word.toList ++ [';'] ∨
        ds = [c] ∧ cs = 'L' :: word.toList ++ [';']) := by
  cases hc with
  | primitive hc =>
    cases hd with
    | primitive hd => exact .inl (by rw [baseName_primitive_injective hc hd h])
    | named _ hn =>
      obtain ⟨word, hw, rfl⟩ := keyword_of_baseName hc hn h
      exact .inr ⟨_, word, hw, .inl ⟨rfl, rfl⟩⟩
  | named _ hn =>
    cases hd with
    | primitive hd =>
      obtain ⟨word, hw, rfl⟩ := keyword_of_baseName hd hn h.symm
      exact .inr ⟨_, word, hw, .inr ⟨rfl, rfl⟩⟩
    | named _ hn' =>
      rw [baseName_named, baseName_named] at h
      have hname := dotted_injective (fun hm => hn _ hm (by decide))
        (fun hm => hn' _ hm (by decide)) h
      exact .inl (by rw [hname])

theorem Base.of_mem_baseName {cs : List Char} (h : Base cs) :
    ∀ c ∈ baseName cs, c ∉ [';', '[', ']', ':', '(', ')'] := by
  cases h with
  | primitive hc =>
    have hall : primitives.all fun c =>
        (baseName [c]).all (· ∉ [';', '[', ']', ':', '(', ')']) := by decide
    have hfree := List.all_eq_true.mp (List.all_eq_true.mp hall _ hc)
    exact fun x hx => of_decide_eq_true (hfree x hx)
  | @named name _ hn =>
    rw [baseName_named]
    intro c hc
    obtain ⟨x, hx, rfl⟩ := List.mem_map.mp hc
    split
    · decide
    · exact fun hm => hn x hx (List.mem_cons_of_mem _ hm)

theorem Base.of_mem {cs : List Char} (h : Base cs) :
    ∀ c ∈ cs, c ∉ ['.', '[', ']', ':', '(', ')'] := by
  cases h with
  | primitive hc =>
    have hall : primitives.all (· ∉ ['.', '[', ']', ':', '(', ')']) := by decide
    intro x hx
    rw [List.mem_singleton.mp hx]
    exact of_decide_eq_true (List.all_eq_true.mp hall _ hc)
  | named _ hn =>
    intro c hc hm
    simp only [List.mem_append, List.mem_cons, List.not_mem_nil, or_false] at hc
    obtain (rfl | hc) | rfl := hc
    · exact absurd hm (by decide)
    · have hsub : ['.', '[', ']', ':', '(', ')'] ⊆ punctuation := by decide
      exact hn c hc (hsub hm)
    · exact absurd hm (by decide)

theorem Base.ne_nil {cs : List Char} (h : Base cs) : cs ≠ [] := by
  cases h <;> simp

theorem Base.head_ne {cs : List Char} (h : Base cs) (rs : List Char) :
    (cs ++ rs).head? ≠ some '[' := by
  rw [List.head?_append_of_ne_nil _ h.ne_nil]
  intro hh
  exact h.of_mem _ (List.mem_of_mem_head? hh) (by decide)

theorem Base.append_injective {cs ds rs ss : List Char} (hc : Base cs) (hd : Base ds)
    (h : cs ++ rs = ds ++ ss) : cs = ds ∧ rs = ss := by
  cases hc with
  | primitive hc =>
    cases hd with
    | primitive hd => simpa using h
    | named =>
      simp only [List.cons_append, List.nil_append, List.cons.injEq] at h
      rw [h.1] at hc
      exact absurd hc (by decide)
  | @named name _ hn =>
    cases hd with
    | primitive hd =>
      simp only [List.cons_append, List.nil_append, List.cons.injEq] at h
      rw [← h.1] at hd
      exact absurd hd (by decide)
    | @named name' _ hn' =>
      simp only [List.cons_append, List.append_assoc, List.nil_append, List.cons.injEq,
        true_and] at h
      have hcut := first_mark_unique (fun hm => hn _ hm (by decide))
        (fun hm => hn' _ hm (by decide)) h
      simpa using hcut

theorem dimensions_elementChars_replicate {n : Nat} {cs : List Char} (h : cs.head? ≠ some '[') :
    dimensions (List.replicate n '[' ++ cs) = n ∧
      elementChars (List.replicate n '[' ++ cs) = cs := by
  induction n with
  | zero =>
    cases cs with
    | nil => exact ⟨rfl, rfl⟩
    | cons c cs =>
      have hc : c ≠ '[' := by simpa using h
      simp [dimensions, elementChars, hc]
  | succ n ih => simpa [dimensions, elementChars, List.replicate_succ] using ih

theorem dimensions_replicate {n : Nat} {cs : List Char} (h : cs.head? ≠ some '[') :
    dimensions (List.replicate n '[' ++ cs) = n :=
  (dimensions_elementChars_replicate h).1

theorem elementChars_replicate {n : Nat} {cs : List Char} (h : cs.head? ≠ some '[') :
    elementChars (List.replicate n '[' ++ cs) = cs :=
  (dimensions_elementChars_replicate h).2

theorem dotChars_replicate {n : Nat} {cs : List Char} (h : cs.head? ≠ some '[') :
    dotChars (List.replicate n '[' ++ cs) = baseName cs ++ brackets n := by
  rw [dotChars, elementChars_replicate h, dimensions_replicate h, brackets]

theorem dimensions_elementChars (cs : List Char) : dimensions (elementChars cs) = 0 := by
  induction cs with
  | nil => rfl
  | cons c cs ih =>
    by_cases hc : c = '['
    · simpa [elementChars, hc] using ih
    · simp [elementChars, dimensions, hc]

theorem toList_dotName (d : String) : (dotName d).toList =
    (dotName (element d)).toList ++ (List.replicate (dimensions d.toList) ['[', ']']).flatten := by
  have he : elementChars (elementChars d.toList) = elementChars d.toList :=
    List.dropWhile_idempotent _ _
  simp [dotName, element, dotChars, he, dimensions_elementChars]

theorem eq_of_className? {cs name : List Char} (h : className? cs = some name) :
    cs = 'L' :: name ++ [';'] := by
  unfold className? at h
  split at h
  next rest =>
    split at h
    next hlast =>
      cases h
      rw [List.cons_append, List.dropLast_append_getLast? ';' hlast]
    next => cases h
  next => cases h

theorem isAlpha_of_keyword? {cs : List Char} {word : String} (h : keyword? cs = some word) :
    ∀ c ∈ cs ++ word.toList, c.isAlpha = true := by
  unfold keyword? at h
  split at h <;> cases h <;> exact List.all_eq_true.mp (by decide)

section Characters

variable {c : Char}

theorem mem_elementChars (hc : c ≠ '[') (cs : List Char) : c ∈ elementChars cs ↔ c ∈ cs := by
  induction cs with
  | nil => rfl
  | cons x cs ih =>
    by_cases hx : x = '['
    · simpa [elementChars, hx, hc] using ih
    · simp [elementChars, hx]

theorem mem_dotted (hslash : c ≠ '/') (hdot : c ≠ '.') (name : List Char) :
    c ∈ dotted name ↔ c ∈ name := by
  rw [dotted, List.mem_map]
  constructor
  · rintro ⟨x, hx, rfl⟩
    split at hdot
    · exact absurd rfl hdot
    · rwa [if_neg ‹_›]
  · intro hc
    exact ⟨c, hc, if_neg hslash⟩

theorem mem_baseName (hletter : c.isAlpha = false) (hmark : c ∉ ['.', '/', ';'])
    (cs : List Char) : c ∈ baseName cs ↔ c ∈ cs := by
  have hne {x : Char} (hx : x.isAlpha = true) : c ≠ x := by
    rintro rfl
    simp [hx] at hletter
  simp only [List.mem_cons, List.not_mem_nil, or_false, not_or] at hmark
  obtain ⟨hdot, hslash, hend⟩ := hmark
  unfold baseName
  split
  next name hname =>
    have hL : c ≠ 'L' := hne (by decide)
    rw [eq_of_className? hname, ← dotted, mem_dotted hslash hdot]
    simp [hL, hend]
  next =>
    split
    next word hword =>
      have hmem : c ∉ cs ++ word.toList := fun hc => hne (isAlpha_of_keyword? hword c hc) rfl
      rw [List.mem_append, not_or] at hmem
      simp only [hmem]
    next => rfl

theorem mem_dotName {d : String} (hletter : c.isAlpha = false)
    (hmark : c ∉ ['.', '/', ';', '[', ']']) : c ∈ (dotName d).toList ↔ c ∈ d.toList := by
  have hbrackets (n : Nat) : c ∉ brackets n := by
    simp only [brackets, List.mem_flatten, List.mem_replicate, not_exists, not_and, and_imp]
    rintro _ - rfl hc
    exact hmark (List.mem_append_right ['.', '/', ';'] hc)
  have hbase := mem_baseName hletter fun h => hmark (List.mem_append_left ['[', ']'] h)
  have hopen : c ≠ '[' := fun h => hmark (by simp [h])
  rw [dotName, String.toList_ofList, dotChars, ← brackets, List.mem_append, hbase,
    mem_elementChars hopen]
  simp [hbrackets]

end Characters

theorem Homonyms.dotName_eq {d e : String} (h : Homonyms d e) : dotName d = dotName e := by
  obtain ⟨n, c, word, hw, hd, he⟩ := h
  obtain ⟨hc, hbase, -, hword⟩ := keyword_spec hw
  have hd' : dotChars d.toList = word.toList ++ brackets n := by
    rw [hd, dotChars_replicate (by simpa using hc), hbase]
  have he' : dotChars e.toList = word.toList ++ brackets n := by
    rw [he, dotChars_replicate (by simp), baseName_named, hword]
  rw [dotName, dotName, hd', he']

namespace WellFormed

variable {d e : String}

theorem dotName_eq_iff (hd : WellFormed d) (he : WellFormed e) :
    dotName d = dotName e ↔ d = e ∨ Homonyms d e ∨ Homonyms e d := by
  obtain ⟨m, cs, hc, hm⟩ := hd
  obtain ⟨n, ds, hs, hn⟩ := he
  constructor
  · intro h
    have hdots : baseName cs ++ brackets m = baseName ds ++ brackets n := by
      rw [← dotChars_replicate (by simpa using hc.head_ne []), ← hm,
        ← dotChars_replicate (by simpa using hs.head_ne []), ← hn]
      exact String.ofList_injective h
    obtain ⟨hbase, rfl⟩ := append_brackets_injective
      (fun hx => hc.of_mem_baseName _ hx (by decide))
      (fun hx => hs.of_mem_baseName _ hx (by decide)) hdots
    obtain rfl | ⟨c, word, hw, ⟨rfl, rfl⟩ | ⟨rfl, rfl⟩⟩ := hc.baseName_injective hs hbase
    · exact .inl (String.toList_injective (hm.trans hn.symm))
    · exact .inr (.inl ⟨m, c, word, hw, hm, hn⟩)
    · exact .inr (.inr ⟨m, c, word, hw, hn, hm⟩)
  · rintro (rfl | h | h)
    · rfl
    · exact h.dotName_eq
    · exact h.dotName_eq.symm

theorem of_mem (hd : WellFormed d) : ∀ c ∈ d.toList, c ∉ ['.', ']', ':', '(', ')'] := by
  obtain ⟨n, cs, hc, hn⟩ := hd
  intro c hm
  rw [hn, List.mem_append, List.mem_replicate] at hm
  obtain ⟨-, rfl⟩ | hm := hm
  · decide
  · have hsub : ['.', ']', ':', '(', ')'] ⊆ ['.', '[', ']', ':', '(', ')'] := by decide
    exact fun hp => hc.of_mem c hm (hsub hp)

theorem of_mem_dotName (hd : WellFormed d) : ∀ c ∈ (dotName d).toList, c ∉ [':', '(', ')'] := by
  obtain ⟨n, cs, hc, hn⟩ := hd
  intro c hm
  rw [dotName, String.toList_ofList, hn, dotChars_replicate (by simpa using hc.head_ne []),
    List.mem_append] at hm
  obtain hm | hm := hm
  · have hsub : [':', '(', ')'] ⊆ [';', '[', ']', ':', '(', ')'] := by decide
    exact fun hp => hc.of_mem_baseName c hm (hsub hp)
  · simp only [brackets, List.mem_flatten, List.mem_replicate] at hm
    obtain ⟨_, ⟨-, rfl⟩, hm⟩ := hm
    simp only [List.mem_cons, List.not_mem_nil, or_false] at hm
    obtain rfl | rfl := hm <;> decide

/-- Descriptors written one after the other are told apart. -/
theorem append_injective (hd : WellFormed d) (he : WellFormed e) {rs ss : List Char}
    (h : d.toList ++ rs = e.toList ++ ss) : d = e ∧ rs = ss := by
  obtain ⟨m, cs, hc, hm⟩ := hd
  obtain ⟨n, ds, hs, hn⟩ := he
  rw [hm, hn, List.append_assoc, List.append_assoc] at h
  have hdims := congrArg dimensions h
  have helem := congrArg elementChars h
  rw [dimensions_replicate (hc.head_ne _), dimensions_replicate (hs.head_ne _)] at hdims
  rw [elementChars_replicate (hc.head_ne _), elementChars_replicate (hs.head_ne _)] at helem
  obtain ⟨rfl, hrest⟩ := hc.append_injective hs helem
  exact ⟨String.toList_injective (by rw [hm, hn, hdims]), hrest⟩

theorem ne_nil (hd : WellFormed d) : d.toList ≠ [] := by
  obtain ⟨n, cs, hc, hn⟩ := hd
  simp [hn, hc.ne_nil]

theorem flatMap_injective {ds es : List String} (hd : ∀ d ∈ ds, WellFormed d)
    (he : ∀ e ∈ es, WellFormed e) (h : ds.flatMap String.toList = es.flatMap String.toList) :
    ds = es := by
  induction ds generalizing es with
  | nil =>
    cases es with
    | nil => rfl
    | cons e es =>
      simp only [List.flatMap_nil, List.flatMap_cons] at h
      exact absurd (List.append_eq_nil_iff.mp h.symm).1 (he e (by simp)).ne_nil
  | cons d ds ih =>
    cases es with
    | nil =>
      simp only [List.flatMap_nil, List.flatMap_cons] at h
      exact absurd (List.append_eq_nil_iff.mp h).1 (hd d (by simp)).ne_nil
    | cons e es =>
      rw [List.flatMap_cons, List.flatMap_cons] at h
      obtain ⟨rfl, hrest⟩ := (hd d (by simp)).append_injective (he e (by simp)) h
      rw [ih (fun d hm => hd d (by simp [hm])) (fun e hm => he e (by simp [hm])) hrest]

end WellFormed

end Descriptor

inductive Member where
  | field (f : FieldRef)
  | method (m : MethodRef)
  deriving DecidableEq, Repr

namespace Member

def text : Member → String
  | field f => f.text
  | method m => m.text

def declaringClass : Member → String
  | field f => f.declaringClass
  | method m => m.declaringClass

def name : Member → String
  | field f => f.name
  | method m => m.name

def types : Member → List String
  | field f => [f.typeName]
  | method m => m.argumentTypes ++ [m.returnType]

def names (m : Member) : List String :=
  m.declaringClass :: m.name :: m.types

/-- What the text of a member says. -/
def SameParts : Member → Member → Prop
  | field f, field g => f.dotClassName = g.dotClassName ∧ f.name = g.name ∧ f.typeName = g.typeName
  | method m, method n => m.dotClassName = n.dotClassName ∧ m.name = n.name ∧
      m.argumentTypes = n.argumentTypes ∧ m.returnType = n.returnType
  | _, _ => False

structure WellFormed (m : Member) : Prop where
  declaringClass : Descriptor.WellFormed m.declaringClass
  name_ne : m.name ≠ ""
  name : ∀ c ∈ m.name.toList, c ∉ ['.', ':', '(', ')', ';', '[', ']', '/']
  types : ∀ d ∈ m.types, Descriptor.WellFormed d

def head (m : Member) : List Char :=
  (Descriptor.dotName m.declaringClass).toList ++ '.' :: m.name.toList

theorem toList_text_field (f : FieldRef) :
    (field f).text.toList = (field f).head ++ ':' :: f.typeName.toList := by
  simp [text, FieldRef.text, FieldRef.dotClassName, head, declaringClass, name]

theorem toList_text_method (m : MethodRef) : (method m).text.toList = (method m).head ++
    '(' :: (m.argumentTypes.flatMap String.toList ++ ')' :: m.returnType.toList) := by
  simp [text, MethodRef.text, MethodRef.dotClassName, MethodRef.descriptor, head, declaringClass,
    name, String.toList_join]

variable {m n : Member}

theorem WellFormed.of_mem_head (h : m.WellFormed) : ∀ c ∈ m.head, c ∉ [':', '('] := by
  intro c hc
  rw [head, List.mem_append, List.mem_cons] at hc
  obtain hc | rfl | hc := hc
  · have hsub : [':', '('] ⊆ [':', '(', ')'] := by decide
    exact fun hp => h.declaringClass.of_mem_dotName c hc (hsub hp)
  · decide
  · have hsub : [':', '('] ⊆ ['.', ':', '(', ')', ';', '[', ']', '/'] := by decide
    exact fun hp => h.name c hc (hsub hp)

/-- The last dot stands before the name of the member. -/
theorem WellFormed.head_injective (hm : m.WellFormed) (hn : n.WellFormed) (h : m.head = n.head) :
    Descriptor.dotName m.declaringClass = Descriptor.dotName n.declaringClass ∧
      m.name = n.name := by
  obtain ⟨hclass, hname⟩ := last_mark_unique (fun hx => hm.name _ hx (by decide))
    (fun hx => hn.name _ hx (by decide)) h
  exact ⟨String.toList_injective hclass, String.toList_injective hname⟩

theorem WellFormed.method_types {m : MethodRef} (h : (method m).WellFormed) :
    (∀ d ∈ m.argumentTypes, Descriptor.WellFormed d) ∧ Descriptor.WellFormed m.returnType :=
  ⟨fun d hd => h.types d (List.mem_append_left _ hd), h.types m.returnType (by simp [Member.types])⟩

theorem WellFormed.parenthesis_not_mem {m : MethodRef} (h : (method m).WellFormed) :
    ')' ∉ m.argumentTypes.flatMap String.toList := by
  intro hx
  obtain ⟨d, hd, hx⟩ := List.mem_flatMap.mp hx
  exact (h.method_types.1 d hd).of_mem _ hx (by decide)

theorem WellFormed.colon_not_mem {m : MethodRef} (h : (method m).WellFormed) :
    ':' ∉ (method m).text.toList := by
  rw [toList_text_method]
  simp only [List.mem_append, List.mem_cons, List.mem_flatMap]
  rintro (hx | hx | ⟨d, hd, hx⟩ | hx | hx)
  · exact h.of_mem_head _ hx (by decide)
  · exact absurd hx (by decide)
  · exact (h.method_types.1 d hd).of_mem _ hx (by decide)
  · exact absurd hx (by decide)
  · exact h.method_types.2.of_mem _ hx (by decide)

theorem WellFormed.field_text_injective {f g : FieldRef} (hf : (field f).WellFormed)
    (hg : (field g).WellFormed) (h : (field f).text = (field g).text) :
    (field f).SameParts (field g) := by
  have ht := congrArg String.toList h
  rw [toList_text_field, toList_text_field] at ht
  obtain ⟨hhead, htype⟩ := first_mark_unique (fun hx => hf.of_mem_head _ hx (by decide))
    (fun hx => hg.of_mem_head _ hx (by decide)) ht
  obtain ⟨hclass, hname⟩ := hf.head_injective hg hhead
  exact ⟨hclass, hname, String.toList_injective htype⟩

theorem WellFormed.method_text_injective {m n : MethodRef} (hm : (method m).WellFormed)
    (hn : (method n).WellFormed) (h : (method m).text = (method n).text) :
    (method m).SameParts (method n) := by
  have ht := congrArg String.toList h
  rw [toList_text_method, toList_text_method] at ht
  obtain ⟨hhead, hrest⟩ := first_mark_unique (fun hx => hm.of_mem_head _ hx (by decide))
    (fun hx => hn.of_mem_head _ hx (by decide)) ht
  obtain ⟨hargs, hreturn⟩ := first_mark_unique hm.parenthesis_not_mem hn.parenthesis_not_mem hrest
  obtain ⟨hclass, hname⟩ := hm.head_injective hn hhead
  exact ⟨hclass, hname, Descriptor.WellFormed.flatMap_injective hm.method_types.1
    hn.method_types.1 hargs, String.toList_injective hreturn⟩

theorem SameParts.text_eq (h : m.SameParts n) : m.text = n.text := by
  cases m with
  | field f =>
    cases n with
    | field g =>
      obtain ⟨hc, hn, ht⟩ := h
      simp [text, FieldRef.text, hc, hn, ht]
    | method n => exact h.elim
  | method m =>
    cases n with
    | field g => exact h.elim
    | method n =>
      obtain ⟨hc, hn, ha, hr⟩ := h
      simp [text, MethodRef.text, MethodRef.descriptor, hc, hn, ha, hr]

theorem WellFormed.text_eq_iff (hm : m.WellFormed) (hn : n.WellFormed) :
    m.text = n.text ↔ m.SameParts n := by
  refine ⟨fun h => ?_, SameParts.text_eq⟩
  cases m with
  | field f =>
    cases n with
    | field g => exact hm.field_text_injective hn h
    | method n =>
      refine absurd ?_ hn.colon_not_mem
      rw [← h, toList_text_field]
      simp
  | method m =>
    cases n with
    | field g =>
      refine absurd ?_ hm.colon_not_mem
      rw [h, toList_text_field]
      simp
    | method n => exact hm.method_text_injective hn h

theorem mem_text {c : Char} {m : Member} (hletter : c.isAlpha = false)
    (hmark : c ∉ ['.', '/', ';', '[', ']', ':', '(', ')']) :
    c ∈ m.text.toList ↔ ∃ s ∈ m.names, c ∈ s.toList := by
  have hsub : ['.', '/', ';', '[', ']'] ⊆ ['.', '/', ';', '[', ']', ':', '(', ')'] := by decide
  have hclass := Descriptor.mem_dotName (d := m.declaringClass) hletter fun hc => hmark (hsub hc)
  have hpoint : c ≠ '.' ∧ c ≠ ':' ∧ c ≠ '(' ∧ c ≠ ')' := by
    simp only [List.mem_cons, not_or] at hmark
    tauto
  cases m with
  | field f =>
    rw [toList_text_field, head, List.mem_append, List.mem_append, hclass]
    simp [hpoint, names, types, or_assoc]
  | method m =>
    rw [toList_text_method, head, List.mem_append, List.mem_append, hclass]
    simp [hpoint, names, types, or_assoc, or_and_right, exists_or]

theorem dot_mem_text (m : Member) : '.' ∈ m.text.toList := by
  cases m with
  | field f => simp [toList_text_field, head]
  | method m => simp [toList_text_method, head]

/-- Names and texts as keys: well-formed descriptors share a name only as homonyms, well-formed
members share a text only where they agree in all that it says, and no member has the text of a
well-formed descriptor.  The name of an array is that of its element type, with brackets. -/
theorem text_faithful :
    (∀ d e, Descriptor.WellFormed d → Descriptor.WellFormed e →
      (Descriptor.dotName d = Descriptor.dotName e ↔
        d = e ∨ Descriptor.Homonyms d e ∨ Descriptor.Homonyms e d)) ∧
    (∀ m n : Member, m.WellFormed → n.WellFormed → (m.text = n.text ↔ m.SameParts n)) ∧
    (∀ (m : Member) (d : String), m.WellFormed → Descriptor.WellFormed d → m.text ≠ d) ∧
    ∀ d : String, (Descriptor.dotName d).toList =
      (Descriptor.dotName (Descriptor.element d)).toList ++
        (List.replicate (Descriptor.dimensions d.toList) ['[', ']']).flatten := by
  refine ⟨fun d e hd he => hd.dotName_eq_iff he, fun m n hm hn => hm.text_eq_iff hn, ?_,
    Descriptor.toList_dotName⟩
  rintro m d - hd rfl
  exact hd.of_mem _ m.dot_mem_text (by decide)

def initOf (owner : String) : MethodRef where
  declaringClass := owner
  name := "<init>"
  argumentTypes := ["[La/B;", "J"]

theorem text_faithful_int :
    Descriptor.WellFormed "I" ∧ Descriptor.WellFormed "Lint;" ∧
      (method (initOf "I")).WellFormed ∧ (method (initOf "Lint;")).WellFormed ∧
      Descriptor.dotName "I" = Descriptor.dotName "Lint;" ∧
      (method (initOf "I")).text = (method (initOf "Lint;")).text ∧
      (method (initOf "I")).text ≠ "Lint;" := by
  have hI : Descriptor.WellFormed "I" := ⟨0, ['I'], .primitive (by decide), rfl⟩
  have hInt : Descriptor.WellFormed "Lint;" :=
    ⟨0, _, .named (by decide : ['i', 'n', 't'] ≠ []) (by simp [Descriptor.punctuation]), rfl⟩
  have hB : Descriptor.WellFormed "[La/B;" :=
    ⟨1, _, .named (by decide : ['a', '/', 'B'] ≠ []) (by simp [Descriptor.punctuation]), rfl⟩
  have hJ : Descriptor.WellFormed "J" := ⟨0, ['J'], .primitive (by decide), rfl⟩
  have hV : Descriptor.WellFormed "V" := ⟨0, ['V'], .primitive (by decide), rfl⟩
  have hm {owner : String} (h : Descriptor.WellFormed owner) : (method (initOf owner)).WellFormed :=
    ⟨h, (by decide : "<init>" ≠ ""), by simp [name, initOf],
      by simp [types, initOf, hB, hJ, hV]⟩
  have hname := (text_faithful.1 "I" "Lint;" hI hInt).mpr
    (.inr (.inl ⟨0, 'I', "int", rfl, rfl, rfl⟩))
  exact ⟨hI, hInt, hm hI, hm hInt, hname,
    (text_faithful.2.1 _ _ (hm hI) (hm hInt)).mpr ⟨hname, rfl, rfl, rfl⟩,
    text_faithful.2.2.1 _ _ (hm hI) hInt⟩

end Member

def ClassRef.members (c : ClassRef) : List Member :=
  c.fields.map .field ++ c.methods.map .method

end DexRefs
