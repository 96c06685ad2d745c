import DexRefs.Graph.GraphML
import Mathlib.Tactic.SplitIfs

/-!
Documents of elements, attributes and text, and a reader for them.  The reader knows XML 1.0 as far
as such documents need it: it refuses characters that no document may hold, ends lines with a line
feed, and resolves references.  It is stricter than it would have to be where nothing is written
that way: names are ASCII, no blank stands around `=` or at the end of a closing tag, and `>` is
escaped in text.
-/

set_option autoImplicit false

namespace DexRefs.Xml

/-! ### The reader -/

def isChar (c : Char) : Bool :=
  c = '\t' || c = '\n' || c = '\r' || (0x20 ≤ c.toNat && c.toNat ≠ 0xfffe && c.toNat ≠ 0xffff)

def isBlank (c : Char) : Bool :=
  c = ' ' || c = '\t' || c = '\n' || c = '\r'

def startsName (c : Char) : Bool :=
  c.isAlpha || c = '_' || c = ':'

def isNameChar (c : Char) : Bool :=
  startsName c || c.isDigit || c = '-' || c = '.'

inductive Tree where
  | element (name : String) (attributes : List (String × String)) (children : List Tree)
  | char (c : Char)

structure Tag where
  name : String
  attributes : List (String × String) := []

/-- An element that is open, with its children so far. -/
structure Frame where
  tag : Tag
  children : List Tree := []

inductive Mode where
  | content
  | reference (cs : List Char)
  | opened
  | name (cs : List Char)
  | inside (t : Tag)
  | key (t : Tag) (cs : List Char)
  | equals (t : Tag) (key : String)
  | value (t : Tag) (key : String) (quote : Char) (cs : List Char)
  | valueReference (t : Tag) (key : String) (quote : Char) (cs reference : List Char)
  | valued (t : Tag)
  | slash (t : Tag)
  | closing (cs : List Char)

structure State where
  top : Frame
  outer : List Frame := []
  mode : Mode := .content

def Frame.add (f : Frame) (t : Tree) : Frame :=
  { f with children := f.children ++ [t] }

def resolve : List Char → Option Char
  | ['a', 'm', 'p'] => some '&'
  | ['l', 't'] => some '<'
  | ['g', 't'] => some '>'
  | ['q', 'u', 'o', 't'] => some '\x22'
  | ['a', 'p', 'o', 's'] => some '\x27'
  | '#' :: ds =>
    if !ds.isEmpty && ds.all Char.isDigit then
      let c := Char.ofNat (ds.foldl (fun n d => 10 * n + (d.toNat - 48)) 0)
      if isChar c then some c else none
    else none
  | _ => none

def State.start (s : State) (t : Tag) : State :=
  { top := { tag := t }, outer := s.top :: s.outer }

def State.addEmpty (s : State) (t : Tag) : State :=
  { s with top := s.top.add (.element t.name t.attributes []), mode := .content }

def State.finish (s : State) (name : String) : Option State :=
  match s.outer with
  | [] => none
  | f :: fs =>
    if s.top.tag.name = name then
      some { top := f.add (.element name s.top.tag.attributes s.top.children), outer := fs }
    else none

def afterValue (s : State) (t : Tag) (c : Char) : Option State :=
  if isBlank c then some { s with mode := .inside t }
  else if c = '>' then some (s.start t)
  else if c = '/' then some { s with mode := .slash t }
  else none

def step (s : State) (c : Char) : Option State :=
  match s.mode with
  | .content =>
    if c = '<' then some { s with mode := .opened }
    else if c = '&' ∧ s.outer ≠ [] then some { s with mode := .reference [] }
    else if c = '&' ∨ c = '>' then none
    else some { s with top := s.top.add (.char c) }
  | .reference cs =>
    if c = ';' then
      (resolve cs).map fun d => { s with top := s.top.add (.char d), mode := .content }
    else some { s with mode := .reference (cs ++ [c]) }
  | .opened =>
    if c = '/' then some { s with mode := .closing [] }
    else if startsName c then some { s with mode := .name [c] }
    else none
  | .name cs =>
    if isNameChar c then some { s with mode := .name (cs ++ [c]) }
    else afterValue s { name := String.ofList cs } c
  | .inside t =>
    if startsName c then some { s with mode := .key t [c] } else afterValue s t c
  | .key t cs =>
    if isNameChar c then some { s with mode := .key t (cs ++ [c]) }
    else if c = '=' ∧ String.ofList cs ∉ t.attributes.map Prod.fst then
      some { s with mode := .equals t (String.ofList cs) }
    else none
  | .equals t k =>
    if c = '\x22' || c = '\x27' then some { s with mode := .value t k c [] } else none
  | .value t k q cs =>
    if c = q then
      let attributes := t.attributes ++ [(k, String.ofList cs)]
      some { s with mode := .valued { t with attributes } }
    else if c = '<' then none
    else if c = '&' then some { s with mode := .valueReference t k q cs [] }
    else some { s with mode := .value t k q (cs ++ [if isBlank c then ' ' else c]) }
  | .valueReference t k q cs r =>
    if c = ';' then (resolve r).map fun d => { s with mode := .value t k q (cs ++ [d]) }
    else some { s with mode := .valueReference t k q cs (r ++ [c]) }
  | .valued t => afterValue s t c
  | .slash t => if c = '>' then some (s.addEmpty t) else none
  | .closing cs =>
    if isNameChar c then some { s with mode := .closing (cs ++ [c]) }
    else if c = '>' then s.finish (String.ofList cs)
    else none

def run (s : State) (cs : List Char) : Option State :=
  cs.foldlM step s

def endLines : List Char → List Char
  | [] => []
  | c :: cs =>
    if c = '\r' then if cs.head? = some '\n' then endLines cs else '\n' :: endLines cs
    else c :: endLines cs

def declaration : List Char :=
  "<?xml version='1.0' encoding='utf-8'?>".toList

def root? (ts : List Tree) : Option Tree :=
  match ts.filter fun | .char c => !isBlank c | .element .. => true with
  | [.element name attributes children] => some (.element name attributes children)
  | _ => none

def read (s : String) : Option Tree :=
  if s.toList.all isChar then
    let cs := endLines s.toList
    let cs := if declaration.isPrefixOf cs then cs.drop declaration.length else cs
    match run { top := { tag := { name := "" } } } cs with
    | some { top, outer := [], mode := .content } => root? top.children
    | _ => none
  else none

/-! ### Reading what is written -/

variable {s : State} {xs ys cs : List Char} {ts us : List Tree} {t : Tag} {c : Char}

theorem run_cons (s : State) (c : Char) (cs : List Char) :
    run s (c :: cs) = (step s c).bind (run · cs) := List.foldlM_cons

theorem run_append (s : State) (xs ys : List Char) :
    run s (xs ++ ys) = (run s xs).bind (run · ys) := List.foldlM_append

def Frame.adds (f : Frame) (ts : List Tree) : Frame :=
  { f with children := f.children ++ ts }

/-- Within an element the characters are read as these children, and nothing else changes. -/
def Reads (xs : List Char) (ts : List Tree) : Prop :=
  ∀ f g fs, run { top := f, outer := g :: fs } xs = some { top := f.adds ts, outer := g :: fs }

theorem Reads.nil : Reads [] [] := fun f g fs => by simp [run, Frame.adds]

theorem Reads.append (hx : Reads xs ts) (hy : Reads ys us) : Reads (xs ++ ys) (ts ++ us) := by
  intro f g fs
  rw [run_append, hx, Option.bind_some, hy]
  simp [Frame.adds]

theorem Reads.flatMap {α : Type} {g : α → List Char} {h : α → List Tree} {as : List α}
    (hr : ∀ a ∈ as, Reads (g a) (h a)) : Reads (as.flatMap g) (as.flatMap h) := by
  induction as with
  | nil => exact .nil
  | cons a as ih =>
    obtain ⟨ha, has⟩ := List.forall_mem_cons.mp hr
    exact ha.append (ih has)

theorem Reads.char (hc : c ≠ '<' ∧ c ≠ '&' ∧ c ≠ '>') : Reads [c] [.char c] := by
  intro f g fs
  simp [run, step, hc, Frame.add, Frame.adds]

theorem textChar_cases (c : Char) : c = '&' ∨ c = '<' ∨ c = '>' ∨
    (c ≠ '<' ∧ c ≠ '&' ∧ c ≠ '>') ∧ xmlTextChar c = [c] := by
  unfold xmlTextChar
  split_ifs with hamp hlt hgt
  · exact .inl hamp
  · exact .inr (.inl hlt)
  · exact .inr (.inr (.inl hgt))
  · exact .inr (.inr (.inr ⟨⟨hlt, hamp, hgt⟩, rfl⟩))

theorem attributeChar_cases (c : Char) : c = '\x22' ∨ c = '\r' ∨ c = '\n' ∨ c = '\t' ∨
    (c ≠ '\x22' ∧ c ≠ '\r' ∧ c ≠ '\n' ∧ c ≠ '\t') ∧ xmlAttributeChar c = xmlTextChar c := by
  unfold xmlAttributeChar
  split_ifs with hquote hcr hlf htab
  · exact .inl hquote
  · exact .inr (.inl hcr)
  · exact .inr (.inr (.inl hlf))
  · exact .inr (.inr (.inr (.inl htab)))
  · exact .inr (.inr (.inr (.inr ⟨⟨hquote, hcr, hlf, htab⟩, rfl⟩)))

theorem Reads.textChar (c : Char) : Reads (xmlTextChar c) [.char c] := by
  obtain rfl | rfl | rfl | ⟨hc, hself⟩ := textChar_cases c
  · exact fun _ _ _ => rfl
  · exact fun _ _ _ => rfl
  · exact fun _ _ _ => rfl
  · rw [hself]
    exact .char hc

theorem Reads.text (cs : List Char) : Reads (cs.flatMap xmlTextChar) (cs.map .char) := by
  rw [List.map_eq_flatMap]
  exact .flatMap fun c _ => .textChar c

/-! ### Tags -/

def isName (s : String) : Bool :=
  match s.toList with
  | [] => false
  | c :: cs => startsName c && cs.all isNameChar

theorem exists_of_isName {name : String} (h : isName name = true) :
    ∃ c cs, name.toList = c :: cs ∧ startsName c = true ∧ ∀ d ∈ cs, isNameChar d = true := by
  unfold isName at h
  split at h
  next => cases h
  next c cs hchars =>
    rw [Bool.and_eq_true, List.all_eq_true] at h
    exact ⟨c, cs, hchars, h⟩

def Gathers (m : List Char → Mode) : Prop :=
  ∀ (s : State) (cs : List Char) (d : Char), isNameChar d = true →
    step { s with mode := m cs } d = some { s with mode := m (cs ++ [d]) }

theorem gathers_name : Gathers .name := fun s cs d hd => by simp [step, hd]

theorem gathers_key (t : Tag) : Gathers (.key t) := fun s cs d hd => by simp [step, hd]

theorem gathers_closing : Gathers .closing := fun s cs d hd => by simp [step, hd]

theorem Gathers.run {m : List Char → Mode} (hm : Gathers m) (h : ∀ d ∈ xs, isNameChar d = true)
    (s : State) (cs : List Char) :
    run { s with mode := m cs } xs = some { s with mode := m (cs ++ xs) } := by
  induction xs generalizing cs with
  | nil => simp [Xml.run]
  | cons d xs ih =>
    obtain ⟨hd, hxs⟩ := List.forall_mem_cons.mp h
    rw [run_cons, hm s cs d hd, Option.bind_some, ih hxs, List.append_assoc,
      List.singleton_append]

theorem run_attributeChar (k : String) (cs : List Char) (c : Char) :
    run { s with mode := .value t k '\x22' cs } (xmlAttributeChar c) =
      some { s with mode := .value t k '\x22' (cs ++ [c]) } := by
  obtain rfl | rfl | rfl | rfl | ⟨⟨hquote, hcr, hlf, htab⟩, htext⟩ := attributeChar_cases c
  · rfl
  · rfl
  · rfl
  · rfl
  rw [htext]
  obtain rfl | rfl | rfl | ⟨⟨hlt, hamp, -⟩, hself⟩ := textChar_cases c
  · rfl
  · rfl
  · rfl
  have hblank : (if isBlank c then ' ' else c) = c := by
    by_cases hspace : c = ' '
    · subst hspace
      rfl
    · simp [isBlank, hspace, htab, hlf, hcr]
  rw [hself]
  simp [run, step, hquote, hlt, hamp, hblank]

theorem run_value (k : String) (cs v : List Char) :
    run { s with mode := .value t k '\x22' cs } (v.flatMap xmlAttributeChar) =
      some { s with mode := .value t k '\x22' (cs ++ v) } := by
  induction v generalizing cs with
  | nil => simp [run]
  | cons c v ih =>
    rw [List.flatMap_cons, run_append, run_attributeChar, Option.bind_some, ih, List.append_assoc,
      List.singleton_append]

theorem toList_xmlAttribute (k v : String) : (xmlAttribute k v).toList =
    ' ' :: (k.toList ++ '=' :: '\x22' :: (v.toList.flatMap xmlAttributeChar ++ ['\x22'])) := by
  unfold xmlAttribute
  simp

theorem run_attribute {k : String} (hk : isName k = true) (hnew : k ∉ t.attributes.map Prod.fst)
    (v : String) : run { s with mode := .valued t } (xmlAttribute k v).toList =
      some { s with mode := .valued { t with attributes := t.attributes ++ [(k, v)] } } := by
  obtain ⟨c, cs, hchars, hc, hcs⟩ := exists_of_isName hk
  have hkey : String.ofList (c :: cs) = k := by rw [← hchars, String.ofList_toList]
  have hblank : step { s with mode := .valued t } ' ' = some { s with mode := .inside t } := rfl
  have hstart : step { s with mode := .inside t } c = some { s with mode := .key t [c] } := by
    simp [step, hc]
  have hequals : step { s with mode := .key t (c :: cs) } '=' =
      some { s with mode := .equals t k } := by
    have hname : isNameChar '=' = false := by decide
    simp [step, hname, hkey, hnew]
  have hopen : step { s with mode := .equals t k } '\x22' =
      some { s with mode := .value t k '\x22' [] } := rfl
  have hclose : step { s with mode := .value t k '\x22' v.toList } '\x22' =
      some { s with mode := .valued { t with attributes := t.attributes ++ [(k, v)] } } := by
    simp [step]
  rw [toList_xmlAttribute, hchars, run_cons, hblank, Option.bind_some, List.cons_append, run_cons,
    hstart, Option.bind_some, run_append, (gathers_key t).run hcs, Option.bind_some,
    List.singleton_append, run_cons, hequals, Option.bind_some, run_cons, hopen, Option.bind_some,
    run_append, run_value, Option.bind_some, List.nil_append, run_cons, hclose]
  rfl

def attributesText (as : List (String × String)) : List Char :=
  as.flatMap fun a => (xmlAttribute a.1 a.2).toList

structure Names (ks : List String) : Prop where
  names : ∀ k ∈ ks, isName k = true
  nodup : ks.Nodup

instance (ks : List String) : Decidable (Names ks) :=
  decidable_of_iff (ks.all isName = true ∧ ks.Nodup)
    ⟨fun h => ⟨List.all_eq_true.mp h.1, h.2⟩, fun h => ⟨List.all_eq_true.mpr h.names, h.nodup⟩⟩

theorem run_attributes {as : List (String × String)}
    (has : Names ((t.attributes ++ as).map Prod.fst)) :
    run { s with mode := .valued t } (attributesText as) =
      some { s with mode := .valued { t with attributes := t.attributes ++ as } } := by
  -- the tag grows by the attributes that are read, and their names must be new to it each time
  induction as generalizing t with
  | nil => simp [attributesText, run]
  | cons a as ih =>
    have hlist : (t.attributes ++ [a]) ++ as = t.attributes ++ a :: as := by simp
    have hkeys : ((t.attributes ++ a :: as).map Prod.fst).Nodup := has.nodup
    have hnew : a.1 ∉ t.attributes.map Prod.fst := by
      rw [List.map_append, List.map_cons, List.nodup_append] at hkeys
      exact fun hmem => hkeys.2.2 a.1 hmem a.1 List.mem_cons_self rfl
    have hrest := ih (t := { t with attributes := t.attributes ++ [a] }) (hlist ▸ has)
    rw [attributesText, List.flatMap_cons, ← attributesText, run_append,
      run_attribute (has.names a.1 (by simp)) hnew, Option.bind_some, hrest, hlist]

def tagText (name : String) (as : List (String × String)) : List Char :=
  '<' :: (name.toList ++ attributesText as)

/-- Where a name ends, the reader is as far as behind a value. -/
theorem run_name_end {d : Char} (hd : isNameChar d = false) (s : State) (xs cs : List Char) :
    run { s with mode := .name xs } (d :: cs) =
      run { s with mode := .valued { name := String.ofList xs } } (d :: cs) := by
  have hstep : step { s with mode := .name xs } d =
      step { s with mode := .valued { name := String.ofList xs } } d := by
    simp [step, hd, afterValue, State.start]
  rw [run_cons, run_cons, hstep]

/-- A tag is read up to what ends it. -/
theorem run_tag {name : String} {as : List (String × String)} (hname : isName name = true)
    (has : Names (as.map Prod.fst)) (hc : isNameChar c = false) (cs : List Char) :
    run { s with mode := .content } (tagText name as ++ c :: cs) =
      run { s with mode := .valued { name, attributes := as } } (c :: cs) := by
  obtain ⟨b, bs, hchars, hb, hbs⟩ := exists_of_isName hname
  have hopen : step { s with mode := .content } '<' = some { s with mode := .opened } := rfl
  have hstart : step { s with mode := .opened } b = some { s with mode := .name [b] } := by
    have hslash : b ≠ '/' := by
      rintro rfl
      exact absurd hb (by decide)
    simp [step, hslash, hb]
  have hgather : run { s with mode := .name [b] } (bs ++ (attributesText as ++ c :: cs)) =
      run { s with mode := .valued { name } } (attributesText as ++ c :: cs) := by
    rw [run_append, gathers_name.run hbs, Option.bind_some, List.singleton_append, ← hchars]
    cases as with
    | nil =>
      have hend := run_name_end hc s name.toList cs
      rwa [String.ofList_toList] at hend
    | cons a as =>
      rw [attributesText, List.flatMap_cons, toList_xmlAttribute]
      have hend := fun cs => run_name_end (by decide : isNameChar ' ' = false) s name.toList cs
      simp only [String.ofList_toList] at hend
      exact hend _
  rw [tagText, hchars, List.cons_append, List.append_assoc, List.cons_append, run_cons, hopen,
    Option.bind_some, run_cons, hstart, Option.bind_some, hgather, run_append,
    run_attributes (by simpa using has), Option.bind_some, List.nil_append]

theorem run_closingTag {name : String} {as : List (String × String)} (hname : isName name = true)
    {g : Frame} (hg : g.tag = { name, attributes := as }) (f : Frame) (outer : List Frame) :
    run { top := g, outer := f :: outer } ('<' :: '/' :: (name.toList ++ ['>'])) =
      some { top := f.add (.element name as g.children), outer } := by
  obtain ⟨b, bs, hchars, hb, hbs⟩ := exists_of_isName hname
  have hall : ∀ d ∈ name.toList, isNameChar d = true := by
    rw [hchars]
    exact List.forall_mem_cons.mpr ⟨by simp [isNameChar, hb], hbs⟩
  have hopen : run { top := g, outer := f :: outer } ['<', '/'] =
      some { top := g, outer := f :: outer, mode := .closing [] } := rfl
  have hfinish : step { top := g, outer := f :: outer, mode := .closing name.toList } '>' =
      some { top := f.add (.element name as g.children), outer } := by
    have hend : isNameChar '>' = false := by decide
    simp [step, hend, State.finish, hg]
  have hlist : '<' :: '/' :: (name.toList ++ ['>']) = ['<', '/'] ++ (name.toList ++ ['>']) := rfl
  rw [hlist, run_append, hopen, Option.bind_some, run_append,
    gathers_closing.run hall { top := g, outer := f :: outer }, Option.bind_some,
    List.nil_append, run_cons, hfinish]
  rfl

theorem run_element {name : String} {as : List (String × String)} (hname : isName name = true)
    (has : Names (as.map Prod.fst)) (hbody : Reads xs ts) (f : Frame) (outer : List Frame) :
    run { top := f, outer }
        (tagText name as ++ '>' :: (xs ++ '<' :: '/' :: (name.toList ++ ['>']))) =
      some { top := f.add (.element name as ts), outer } := by
  have hstart : run { top := f, outer } (tagText name as ++
      '>' :: (xs ++ '<' :: '/' :: (name.toList ++ ['>']))) =
      run { top := { tag := { name, attributes := as } }, outer := f :: outer }
        (xs ++ '<' :: '/' :: (name.toList ++ ['>'])) := by
    have htag := run_tag (s := { top := f, outer }) hname has (by decide : isNameChar '>' = false)
      (xs ++ '<' :: '/' :: (name.toList ++ ['>']))
    rw [htag, run_cons]
    rfl
  rw [hstart, run_append, hbody, Option.bind_some, run_closingTag hname rfl]
  simp [Frame.adds]

theorem run_emptyElement {name : String} {as : List (String × String)} (hname : isName name = true)
    (has : Names (as.map Prod.fst)) (f : Frame) (outer : List Frame) :
    run { top := f, outer } (tagText name as ++ [' ', '/', '>']) =
      some { top := f.add (.element name as []), outer } := by
  have htag := run_tag (s := { top := f, outer }) hname has (by decide : isNameChar ' ' = false)
    ['/', '>']
  rw [htag]
  rfl

theorem Reads.element {name : String} {as : List (String × String)} (hname : isName name = true)
    (has : Names (as.map Prod.fst)) (hbody : Reads xs ts) :
    Reads (tagText name as ++ '>' :: (xs ++ '<' :: '/' :: (name.toList ++ ['>'])))
      [.element name as ts] :=
  fun f g fs => run_element hname has hbody f (g :: fs)

theorem Reads.emptyElement {name : String} {as : List (String × String)}
    (hname : isName name = true) (has : Names (as.map Prod.fst)) :
    Reads (tagText name as ++ [' ', '/', '>']) [.element name as []] :=
  fun f g fs => run_emptyElement hname has f (g :: fs)

/-! ### Line breaks -/

theorem endLines_cons (h : c ≠ '\r') (cs : List Char) : endLines (c :: cs) = c :: endLines cs := by
  rw [endLines, if_neg h]

theorem endLines_eq_self (h : '\r' ∉ cs) : endLines cs = cs := by
  induction cs with
  | nil => rfl
  | cons c cs ih =>
    simp only [List.mem_cons, not_or] at h
    rw [endLines_cons (Ne.symm h.1), ih h.2]

theorem not_mem_endLines (cs : List Char) : '\r' ∉ endLines cs := by
  induction cs with
  | nil => exact List.not_mem_nil
  | cons c cs ih =>
    rw [endLines]
    split
    · split
      · exact ih
      · simpa using ih
    next hc => simpa [Ne.symm hc] using ih

theorem endLines_eq_self_iff : endLines cs = cs ↔ '\r' ∉ cs :=
  ⟨fun h => h ▸ not_mem_endLines cs, endLines_eq_self⟩

/-- Two texts are read one after the other unless a line break reaches over the place between. -/
theorem endLines_append (h : xs.getLast? ≠ some '\r' ∨ ys.head? ≠ some '\n') :
    endLines (xs ++ ys) = endLines xs ++ endLines ys := by
  induction xs with
  | nil => rfl
  | cons c xs ih =>
    cases xs with
    | nil =>
      rw [List.singleton_append, endLines, endLines]
      by_cases hc : c = '\r'
      · have hys : ys.head? ≠ some '\n' := h.resolve_left (by simp [hc])
        simp [hc, hys, endLines]
      · simp [hc, endLines]
    | cons d xs =>
      have hrest := ih (h.imp_left fun hlast => by simpa [List.getLast?_cons] using hlast)
      rw [List.cons_append, endLines, endLines, hrest, List.cons_append, List.head?_cons,
        List.head?_cons]
      split
      · split <;> rfl
      · rfl

theorem endLines_eq_nil_iff : endLines cs = [] ↔ cs = [] := by
  refine ⟨fun h => ?_, fun h => by rw [h]; rfl⟩
  cases cs with
  | nil => rfl
  | cons c cs =>
    rw [endLines] at h
    split at h
    · split at h
      next hhead =>
        obtain ⟨ds, rfl⟩ := List.head?_eq_some_iff.mp hhead
        rw [endLines_cons (by decide)] at h
        cases h
      next => cases h
    · cases h

/-- Reading ends the lines of the first text as they stand in the second one, whatever follows. -/
structure Normalizes (xs ys : List Char) : Prop where
  last : xs.getLast? ≠ some '\r'
  endLines_eq : endLines xs = ys

namespace Normalizes

theorem self (h : '\r' ∉ xs) : Normalizes xs xs :=
  ⟨fun hlast => h (List.mem_of_getLast? hlast), endLines_eq_self h⟩

theorem append {xs' ys' : List Char} (h : Normalizes xs ys) (h' : Normalizes xs' ys') :
    Normalizes (xs ++ xs') (ys ++ ys') := by
  refine ⟨fun hlast => ?_, by rw [endLines_append (.inl h.last), h.endLines_eq, h'.endLines_eq]⟩
  rw [List.getLast?_append, Option.or_eq_some_iff] at hlast
  exact hlast.elim h'.last fun hlast => h.last hlast.2

theorem flatMap {α : Type} {f g : α → List Char} {as : List α}
    (h : ∀ a ∈ as, Normalizes (f a) (g a)) : Normalizes (as.flatMap f) (as.flatMap g) := by
  induction as with
  | nil => exact self List.not_mem_nil
  | cons a as ih =>
    obtain ⟨ha, has⟩ := List.forall_mem_cons.mp h
    exact ha.append (ih has)

end Normalizes

theorem cr_not_mem_textChar (h : c ≠ '\r') : '\r' ∉ xmlTextChar c := by
  obtain rfl | rfl | rfl | ⟨-, hself⟩ := textChar_cases c
  · decide
  · decide
  · decide
  · simpa [hself] using Ne.symm h

theorem cr_not_mem_attributeChar (c : Char) : '\r' ∉ xmlAttributeChar c := by
  obtain rfl | rfl | rfl | rfl | ⟨⟨-, hcr, -, -⟩, htext⟩ := attributeChar_cases c
  · decide
  · decide
  · decide
  · decide
  · rw [htext]
    exact cr_not_mem_textChar hcr

theorem cr_not_mem_xmlAttribute {k : String} (hk : '\r' ∉ k.toList) (v : String) :
    '\r' ∉ (xmlAttribute k v).toList := by
  simp [toList_xmlAttribute, hk, cr_not_mem_attributeChar]

theorem endLines_flatMap_textChar (cs : List Char) :
    endLines (cs.flatMap xmlTextChar) = (endLines cs).flatMap xmlTextChar := by
  have hhead (cs : List Char) :
      (cs.flatMap xmlTextChar).head? = some '\n' ↔ cs.head? = some '\n' := by
    cases cs with
    | nil => rfl
    | cons d cs =>
      rw [List.flatMap_cons, xmlTextChar]
      split_ifs <;> simp_all
  induction cs with
  | nil => rfl
  | cons c cs ih =>
    by_cases hc : c = '\r'
    · subst hc
      have hself : xmlTextChar '\r' = ['\r'] := by decide
      have hbreak : xmlTextChar '\n' = ['\n'] := by decide
      rw [List.flatMap_cons, hself, List.singleton_append, endLines, endLines, if_pos rfl,
        if_pos rfl]
      simp only [hhead, ih]
      split
      · rfl
      · rw [List.flatMap_cons, hbreak, List.singleton_append]
    · have hself := Normalizes.self (cr_not_mem_textChar hc)
      rw [List.flatMap_cons, endLines_append (.inl hself.last), hself.endLines_eq, ih,
        endLines_cons hc, List.flatMap_cons]

def normalText (s : String) : String :=
  String.ofList (endLines s.toList)

theorem normalText_eq_self {s : String} : normalText s = s ↔ '\r' ∉ s.toList := by
  rw [normalText, ← endLines_eq_self_iff]
  exact ⟨fun h => by rw [← String.toList_inj, String.toList_ofList] at h; exact h,
    fun h => by rw [h, String.ofList_toList]⟩

theorem normalText_eq_empty {s : String} : normalText s = "" ↔ s = "" := by
  rw [normalText, ← String.toList_inj, String.toList_ofList, ← String.toList_inj]
  exact endLines_eq_nil_iff

/-! ### Documents -/

/-- Only with characters that it may hold is a text read as a document. -/
theorem isChar_of_read {s : String} {t : Tree} (h : read s = some t) :
    ∀ c ∈ s.toList, isChar c = true := by
  unfold read at h
  split at h
  next hall => exact List.all_eq_true.mp hall
  next => cases h

/-- A document of one element is read as this element. -/
theorem read_document {s : String} {name : String} {as : List (String × String)}
    (hs : ∀ c ∈ s.toList, isChar c = true) (hname : isName name = true)
    (has : Names (as.map Prod.fst)) (hbody : Reads xs ts)
    (htext : endLines s.toList = declaration ++ '\n' ::
      (tagText name as ++ '>' :: (xs ++ '<' :: '/' :: (name.toList ++ ['>'])) ++ ['\n'])) :
    read s = some (.element name as ts) := by
  have hdeclared (cs : List Char) : declaration.isPrefixOf (declaration ++ cs) = true := by
    rw [List.isPrefixOf_iff_prefix]
    exact List.prefix_append _ _
  have hrun : run { top := { tag := { name := "" } } } ('\n' ::
      (tagText name as ++ '>' :: (xs ++ '<' :: '/' :: (name.toList ++ ['>'])) ++ ['\n'])) =
      some { top := { tag := { name := "" }
                      children := [.char '\n', .element name as ts, .char '\n'] } } := by
    have hbreak : step { top := { tag := { name := "" } } } '\n' =
        some { top := { tag := { name := "" }, children := [.char '\n'] } } := rfl
    rw [run_cons, hbreak, Option.bind_some, run_append, run_element hname has hbody]
    rfl
  unfold read
  rw [if_pos (List.all_eq_true.mpr hs), htext]
  dsimp only
  rw [if_pos (hdeclared _), List.drop_left, hrun]
  rfl

end DexRefs.Xml
