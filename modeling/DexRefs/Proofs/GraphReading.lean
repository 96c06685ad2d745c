import DexRefs.Proofs.GraphDocument
import DexRefs.Proofs.Isolation
import Mathlib.Data.List.ReduceOption

/-!
Graphs read back from their documents.  A reader takes the types of attributes from their keys and
does not tell an attribute that has no text.  So a document gives back its graph if and only if it
may hold all names, no label has a carriage return, and none is empty.
-/

set_option autoImplicit false

namespace DexRefs

open Xml

/-! ### The reader -/

namespace GraphML

inductive Datum where
  | text (s : String)
  | flag (b : Bool)
  deriving DecidableEq, Repr

/-- What a document tells of a graph: the attributes of nodes and edges by name. -/
structure Told where
  nodes : List (String × List (String × Datum))
  edges : List ((String × String) × List (String × Datum))
  deriving DecidableEq, Repr

def named (name : String) (ts : List Tree) : List (List (String × String) × List Tree) :=
  ts.filterMap fun
    | .element n attributes children => if n = name then some (attributes, children) else none
    | .char _ => none

def char? : Tree → Option Char
  | .char c => some c
  | .element .. => none

def plainText (ts : List Tree) : Option String :=
  (ts.mapM char?).map String.ofList

def Datum.read? (type text : String) : Option Datum :=
  if type = "string" then some (.text text)
  else if type = "boolean" then
    let word := String.ofList (text.toList.map Char.toLower)
    if word = "true" ∨ word = "1" then some (.flag true)
    else if word = "false" ∨ word = "0" then some (.flag false)
    else none
  else none

def readKey (e : List (String × String) × List Tree) : Option (String × (String × String)) := do
  return (← e.1.lookup "id", (← e.1.lookup "attr.name", ← e.1.lookup "attr.type"))

/-- An attribute under its key, unless it has no text. -/
def readDatum (keys : List (String × (String × String)))
    (e : List (String × String) × List Tree) : Option (Option (String × Datum)) := do
  let (name, type) ← keys.lookup (← e.1.lookup "key")
  let text ← plainText e.2
  if text = "" then return none
  return some (name, ← Datum.read? type text)

def readData (keys : List (String × (String × String))) (ts : List Tree) :
    Option (List (String × Datum)) :=
  ((named "data" ts).mapM (readDatum keys)).map List.reduceOption

def readNode (keys : List (String × (String × String)))
    (e : List (String × String) × List Tree) : Option (String × List (String × Datum)) := do
  return (← e.1.lookup "id", ← readData keys e.2)

def readEdge (keys : List (String × (String × String)))
    (e : List (String × String) × List Tree) :
    Option ((String × String) × List (String × Datum)) := do
  return ((← e.1.lookup "source", ← e.1.lookup "target"), ← readData keys e.2)

def read (s : String) : Option Told := do
  let .element "graphml" _ children ← Xml.read s | none
  let keys ← (named "key" children).mapM readKey
  let [(_, graph)] := named "graph" children | none
  return { nodes := ← (named "node" graph).mapM (readNode keys)
           edges := ← (named "edge" graph).mapM (readEdge keys) }

def Told.present (t : Told) : Told :=
  { t with nodes := t.nodes.map fun p => (p.1, p.2.filter (·.2 ≠ .text "")) }

end GraphML

open GraphML

def Node.data (n : Node) : List (String × Datum) :=
  [("kind", .text n.kind.name), ("internal", .flag n.internal), ("label", .text n.label)] ++
  match n.source with
  | some s => [("source", .text s)]
  | none => []

def Graph.told (g : Graph) : Told where
  nodes := g.nodes.map fun p => (p.1, p.2.data)
  edges := g.sortedEdges.map fun e => (e.1, [("relation", .text e.2.name)])

/-! ### Elements -/

namespace GraphML

variable {α β γ : Type} {name : String} {ts us : List Tree}

theorem mapM_map_eq_some {f : α → β} {x : β → Option γ} {h : α → γ} {l : List α}
    (hx : ∀ a ∈ l, x (f a) = some (h a)) : (l.map f).mapM x = some (l.map h) := by
  induction l with
  | nil => rfl
  | cons a l ih =>
    obtain ⟨ha, hl⟩ := List.forall_mem_cons.mp hx
    rw [List.map_cons, List.mapM_cons, ha, ih hl]
    rfl

theorem named_append : named name (ts ++ us) = named name ts ++ named name us :=
  List.filterMap_append

theorem named_char (c : Char) (ts : List Tree) : named name (.char c :: ts) = named name ts := rfl

theorem named_nil : named name [] = [] := rfl

theorem named_spaces (n : Nat) : named name (List.replicate n (.char ' ')) = [] := by
  simp [named]

theorem named_lineTree (indent : Nat) (n : String) (as : List (String × String))
    (ts : List Tree) : named name (lineTree indent (.element n as ts)) =
      if n = name then [(as, ts)] else [] := by
  rw [lineTree, named_append, named_spaces, List.nil_append]
  by_cases h : n = name <;> simp [named, h]

theorem named_flatMap (f : α → List Tree) (l : List α) :
    named name (l.flatMap f) = l.flatMap fun a => named name (f a) := by
  simp [named, List.filterMap_flatMap]

theorem plainText_chars (s : String) : plainText (s.toList.map .char) = some s := by
  have hchars : (s.toList.map Tree.char).mapM char? = some (s.toList.map id) :=
    mapM_map_eq_some fun c _ => rfl
  rw [plainText, hchars, List.map_id, Option.map_some, String.ofList_toList]

end GraphML

namespace Graph

/-! ### Keys -/

def keyTable (g : Graph) : List (String × (String × String)) :=
  g.allKeys.reverse.map fun k => ("d" ++ decimal k.2, k.1.2)

theorem readKeys (g : Graph) :
    (named "key" g.rootChildren).mapM readKey = some g.keyTable := by
  have hkeys : named "key" g.rootChildren = g.allKeys.reverse.map fun k =>
      ([("id", "d" ++ decimal k.2), ("for", k.1.1), ("attr.name", k.1.2.1),
        ("attr.type", k.1.2.2)], []) := by
    rw [rootChildren, named_char, named_append, named_flatMap, graphTree, named_lineTree,
      List.map_eq_flatMap]
    simp [keyTree, named_lineTree]
  rw [hkeys]
  exact mapM_map_eq_some fun k _ => rfl

/-- Keys have different numbers, so that a number leads to one key. -/
theorem nodup_keyTable (g : Graph) : (g.keyTable.map Prod.fst).Nodup := by
  have hids : g.keyTable.map Prod.fst = (g.allKeys.map Prod.snd).reverse.map fun i =>
      "d" ++ decimal i := by
    simp [keyTable, List.map_reverse, Function.comp_def]
  rw [hids, allKeys, List.zipIdx_map_snd]
  refine List.Nodup.map ?_ (List.nodup_reverse.mpr List.nodup_range')
  intro i j h
  exact decimal_injective (String.append_right_inj _ |>.mp h)

theorem lookup_keyTable {g : Graph} {i : Nat} (element : String) {key : String × String}
    (h : (g.nodeKeys.map (("node", ·)) ++ g.edgeKeys.map (("edge", ·)))[i]? = some (element, key)) :
    g.keyTable.lookup ("d" ++ decimal i) = some key := by
  rw [← mem_iff_lookup g.nodup_keyTable, keyTable, List.mem_map]
  exact ⟨((element, key), i), List.mem_reverse.mpr (List.mem_zipIdx_iff_getElem?.mpr h), rfl⟩

theorem lookup_nodeKey {g : Graph} {p : String × Node} (hp : p ∈ g.nodes)
    {a : (String × String) × String} (ha : a ∈ p.2.attributes) :
    g.keyTable.lookup ("d" ++ decimal (g.nodeKeys.idxOf a.1)) = some a.1 := by
  have hmem : a.1 ∈ g.nodeKeys := mem_nodeKeys.mpr ⟨p, hp, a, ha, rfl⟩
  refine lookup_keyTable "node" ?_
  rw [List.getElem?_append_left (by simpa using List.idxOf_lt_length_of_mem hmem),
    List.getElem?_map, List.getElem?_idxOf hmem]
  rfl

theorem lookup_edgeKey {g : Graph} (h : g.edges ≠ []) :
    g.keyTable.lookup ("d" ++ decimal g.nodeKeys.length) = some ("relation", "string") := by
  refine lookup_keyTable "edge" ?_
  rw [List.getElem?_append_right (by simp), List.length_map, Nat.sub_self, edgeKeys,
    if_neg (by simpa using h)]
  rfl

/-! ### Nodes and edges -/

variable {keys : List (String × (String × String))}

theorem readDatum_data {number : Nat} {key : String × String}
    (hkey : keys.lookup ("d" ++ decimal number) = some key) (value : String) :
    readDatum keys ([("key", "d" ++ decimal number)], value.toList.map .char) =
      if value = "" then some none else (Datum.read? key.2 value).map fun d => some (key.1, d) := by
  have hid : [("key", "d" ++ decimal number)].lookup "key" = some ("d" ++ decimal number) := rfl
  simp only [readDatum, hid, Option.bind_eq_bind, Option.bind_some, hkey, plainText_chars]
  split
  · rfl
  · rw [Option.map_eq_bind]
    rfl

structure Tells (a : (String × String) × String) (d : String × Datum) : Prop where
  name : a.1.1 = d.1
  value : Datum.read? a.1.2 a.2 = some d.2
  empty : a.2 = "" ↔ d.2 = .text ""

theorem tells_text (name s : String) : Tells ((name, "string"), s) (name, .text s) :=
  ⟨rfl, rfl, by simp⟩

theorem tells_flag (name : String) (b : Bool) :
    Tells ((name, "boolean"), if b then "True" else "False") (name, .flag b) := by
  have hvalue : Datum.read? "boolean" (if b then "True" else "False") = some (.flag b) := by
    cases b <;> decide +kernel
  have hne : (if b then "True" else "False") ≠ "" := by cases b <;> decide
  exact ⟨rfl, hvalue, by simp [hne]⟩

theorem tells_attributes (n : Node) : List.Forall₂ Tells n.attributes n.data := by
  have hthree : List.Forall₂ Tells
      [(("kind", "string"), n.kind.name),
        (("internal", "boolean"), if n.internal then "True" else "False"),
        (("label", "string"), n.label)]
      [("kind", .text n.kind.name), ("internal", .flag n.internal), ("label", .text n.label)] :=
    .cons (tells_text _ _) (.cons (tells_flag _ _) (.cons (tells_text _ _) .nil))
  unfold Node.attributes Node.data
  cases n.source with
  | none => exact List.rel_append hthree .nil
  | some s => exact List.rel_append hthree (.cons (tells_text _ _) .nil)

theorem readData_lines {l : List ((String × String) × String)} {ds : List (String × Datum)}
    (h : List.Forall₂ Tells l ds) (number : String × String → Nat)
    (hkeys : ∀ a ∈ l, keys.lookup ("d" ++ decimal (number a.1)) = some a.1) (n : Nat) :
    readData keys (.char '\n' :: l.flatMap (fun a => lineTree 6 (dataTree (number a.1) a.2)) ++
      List.replicate n (.char ' ')) = some (ds.filter (·.2 ≠ .text "")) := by
  have hnamed : named "data" (.char '\n' ::
      l.flatMap (fun a => lineTree 6 (dataTree (number a.1) a.2)) ++
        List.replicate n (.char ' ')) =
      l.map fun a => ([("key", "d" ++ decimal (number a.1))], a.2.toList.map .char) := by
    rw [List.cons_append, named_char, named_append, named_spaces, named_flatMap,
      List.map_eq_flatMap]
    simp [dataTree, named_lineTree]
  rw [readData, hnamed]
  clear hnamed
  induction h with
  | nil => rfl
  | @cons a d l ds ha _ ih =>
    obtain ⟨hkey, hkeys⟩ := List.forall_mem_cons.mp hkeys
    obtain ⟨os, hos, hrest⟩ := Option.map_eq_some_iff.mp (ih hkeys)
    rw [List.map_cons, List.mapM_cons, readDatum_data hkey, hos, ha.value]
    by_cases hempty : a.2 = ""
    · rw [List.filter_cons_of_neg (by simpa using ha.empty.mp hempty), if_pos hempty, ← hrest]
      rfl
    · rw [List.filter_cons_of_pos (by simpa using fun h => hempty (ha.empty.mpr h)),
        if_neg hempty, ← hrest, ha.name]
      rfl

theorem readNode_node {g : Graph} {p : String × Node} (hp : p ∈ g.nodes) :
    readNode g.keyTable ([("id", p.1)], nodeChildren g.nodeKeys p.2) =
      some (p.1, p.2.data.filter (·.2 ≠ .text "")) := by
  have hdata := readData_lines (tells_attributes p.2) (g.nodeKeys.idxOf ·)
    (fun a ha => lookup_nodeKey hp ha) 4
  simp only [readNode, nodeChildren, hdata]
  rfl

theorem readEdge_edge {g : Graph} {e : (String × String) × Relation} (he : e ∈ g.sortedEdges) :
    readEdge g.keyTable
        ([("source", e.1.1), ("target", e.1.2)], edgeChildren g.nodeKeys.length e.2) =
      some (e.1, [("relation", .text e.2.name)]) := by
  have hedges : g.edges ≠ [] := by
    obtain ⟨n, -, he⟩ := List.mem_flatMap.mp he
    exact List.ne_nil_of_mem (List.mem_of_mem_filter he)
  have htells : List.Forall₂ Tells [(("relation", "string"), e.2.name)]
      [("relation", .text e.2.name)] := .cons (tells_text _ _) .nil
  have hkeys : ∀ a ∈ [((("relation", "string") : String × String), e.2.name)],
      g.keyTable.lookup ("d" ++ decimal g.nodeKeys.length) = some a.1 := by
    rintro a ha
    rw [List.mem_singleton.mp ha]
    exact lookup_edgeKey hedges
  have hname : e.2.name ≠ "" := by cases e.2 <;> decide
  have hfilter : [("relation", Datum.text e.2.name)].filter (·.2 ≠ .text "") =
      [("relation", .text e.2.name)] := List.filter_cons_of_pos (by simpa using hname)
  have hdata := readData_lines htells (fun _ => g.nodeKeys.length) hkeys 4
  rw [List.flatMap_singleton, hfilter] at hdata
  simp only [readEdge, edgeChildren, hdata]
  rfl

theorem named_graphChildren (g : Graph) :
    named "node" g.graphChildren =
        g.nodes.map (fun p => ([("id", p.1)], nodeChildren g.nodeKeys p.2)) ∧
      named "edge" g.graphChildren = g.sortedEdges.map fun e =>
        ([("source", e.1.1), ("target", e.1.2)], edgeChildren g.nodeKeys.length e.2) := by
  rw [graphChildren]
  split
  next hempty =>
    have hnil : g.nodes = [] := List.isEmpty_iff.mp hempty
    simp [named, sortedEdges, hnil]
  next =>
    rw [List.map_eq_flatMap, List.map_eq_flatMap]
    simp [named_char, named_append, named_nil, named_flatMap, nodeTree, edgeTree, named_lineTree]

theorem read_root {s : String} {g : Graph}
    (h : Xml.read s = some (.element "graphml" rootAttributes g.rootChildren)) :
    GraphML.read s = some g.told.present := by
  have hgraph : named "graph" g.rootChildren =
      [([("edgedefault", "directed")], g.graphChildren)] := by
    rw [rootChildren, named_char, named_append, named_flatMap, graphTree, named_lineTree]
    simp [keyTree, named_lineTree]
  obtain ⟨hnodes, hedges⟩ := named_graphChildren g
  have hreadNodes : (named "node" g.graphChildren).mapM (readNode g.keyTable) =
      some (g.nodes.map fun p => (p.1, p.2.data.filter (·.2 ≠ .text ""))) := by
    rw [hnodes]
    exact mapM_map_eq_some fun p hp => readNode_node hp
  have hreadEdges : (named "edge" g.graphChildren).mapM (readEdge g.keyTable) =
      some (g.sortedEdges.map fun e => (e.1, [("relation", .text e.2.name)])) := by
    rw [hedges]
    exact mapM_map_eq_some fun e he => readEdge_edge he
  simp only [GraphML.read, h, Option.bind_eq_bind, Option.bind_some, readKeys, hgraph, hreadNodes,
    hreadEdges]
  simp [Told.present, told]

/-! ### Documents -/

/-- A document that may hold all its characters gives the graph as its line breaks are read,
without attributes that have no text. -/
theorem read_graphML {g : Graph} (hg : g.Simple) (hw : g.Writable) :
    Xml.read g.graphML = some (.element "graphml" rootAttributes g.normal.rootChildren) ∧
      GraphML.read g.graphML = some g.normal.told.present := by
  have hread : Xml.read g.graphML =
      some (.element "graphml" rootAttributes g.normal.rootChildren) :=
    read_of_endLines ((writable_graphML hg).mpr hw) g.endLines_graphML
  exact ⟨hread, read_root hread⟩

theorem writable_of_read {g : Graph} (hg : g.Simple) {t : Told}
    (h : GraphML.read g.graphML = some t) : g.Writable := by
  refine (writable_graphML hg).mp ?_
  cases htree : Xml.read g.graphML with
  | none =>
    rw [GraphML.read, htree] at h
    cases h
  | some tree => exact isChar_of_read htree

def Kept (n : Node) : Prop :=
  ∀ s ∈ n.label :: n.source.toList, s ≠ "" ∧ '\r' ∉ s.toList

theorem filter_text_iff (name s : String) (ds ds' : List (String × Datum)) :
    ((name, Datum.text (normalText s)) :: ds).filter (·.2 ≠ .text "") = (name, .text s) :: ds' ↔
      (s ≠ "" ∧ '\r' ∉ s.toList) ∧ ds.filter (·.2 ≠ .text "") = ds' := by
  by_cases hs : s = ""
  · refine iff_of_false (fun h => ?_) fun h => h.1.1 hs
    rw [hs, List.filter_cons_of_neg (by simpa using normalText_eq_empty.mpr rfl)] at h
    have hmem : (name, Datum.text "") ∈ ds.filter (·.2 ≠ .text "") := h ▸ List.mem_cons_self
    simpa using List.of_mem_filter hmem
  · have hne : normalText s ≠ "" := fun h => hs (normalText_eq_empty.mp h)
    rw [List.filter_cons_of_pos (by simpa using hne)]
    simp [hs, normalText_eq_self]

theorem filter_data_normal_iff (n : Node) :
    n.normal.data.filter (·.2 ≠ .text "") = n.data ↔ Kept n := by
  have hkind : n.kind.name ≠ "" := by cases n.kind <;> decide
  have hothers (ds : List (String × Datum)) :
      (("kind", Datum.text n.kind.name) :: ("internal", .flag n.internal) :: ds).filter
        (·.2 ≠ .text "") =
      ("kind", .text n.kind.name) :: ("internal", .flag n.internal) ::
        ds.filter (·.2 ≠ .text "") := by
    rw [List.filter_cons_of_pos (by simpa using hkind), List.filter_cons_of_pos (by simp)]
  unfold Node.data Node.normal Kept
  cases n.source with
  | none =>
    simp only [Option.map_none, List.append_nil, hothers, List.cons.injEq, true_and,
      filter_text_iff]
    simp
  | some source =>
    simp only [Option.map_some, List.cons_append, List.nil_append, hothers, List.cons.injEq,
      true_and, filter_text_iff]
    simp

/-- Exactly if a document may hold all names, and attributes have text and no carriage returns, it
gives back its graph. -/
theorem read_graphML_eq_iff {g : Graph} (hg : g.Simple) :
    GraphML.read g.graphML = some g.told ↔ g.Writable ∧ ∀ p ∈ g.nodes, Kept p.2 := by
  have htold : g.normal.told.present = g.told ↔ ∀ p ∈ g.nodes, Kept p.2 := by
    have hedges : g.normal.told.present.edges = g.told.edges := by
      simp [told, Told.present, sortedEdges_normal]
    have hnodes : g.normal.told.present.nodes = g.nodes.map fun p =>
        (p.1, p.2.normal.data.filter (·.2 ≠ .text "")) := by
      simp [told, Told.present, normal]
    rw [Told.mk.injEq, hedges, hnodes, told, List.map_inj_left]
    refine and_iff_left rfl |>.trans (forall₂_congr fun p _ => ?_)
    rw [Prod.mk.injEq, and_iff_right rfl]
    exact filter_data_normal_iff p.2
  constructor
  · intro h
    have hw := writable_of_read hg h
    rw [(read_graphML hg hw).2, Option.some_inj, htold] at h
    exact ⟨hw, h⟩
  · rintro ⟨hw, hkept⟩
    rw [(read_graphML hg hw).2, htold.mpr hkept]

end Graph

/-! ### Listings -/

def ClassRef.names (c : ClassRef) : List String :=
  c.name :: c.members.flatMap Member.names

namespace Graph

theorem not_mark_of_not_isChar {c : Char} (h : isChar c = false) :
    c.isAlpha = false ∧ c ∉ ['.', '/', ';', '[', ']', ':', '(', ')'] := by
  constructor
  · refine Bool.eq_false_iff.mpr fun halpha => ?_
    have hupper (hc : c.isUpper = true) : 65 ≤ c.toNat ∧ c.toNat ≤ 90 := by
      have hval : 'A'.val ≤ c.val ∧ c.val ≤ 'Z'.val := of_decide_eq_true hc
      exact ⟨UInt32.le_iff_toNat_le.mp hval.1, UInt32.le_iff_toNat_le.mp hval.2⟩
    have hlower (hc : c.isLower = true) : 97 ≤ c.toNat ∧ c.toNat ≤ 122 := by
      have hval := Bool.and_eq_true_iff.mp hc
      exact ⟨UInt32.le_iff_toNat_le.mp (of_decide_eq_true hval.1),
        UInt32.le_iff_toNat_le.mp (of_decide_eq_true hval.2)⟩
    have hrange : 65 ≤ c.toNat := by
      obtain hc | hc := Bool.or_eq_true_iff.mp halpha
      · exact (hupper hc).1
      · exact Nat.le_trans (by decide) (hlower hc).1
    have hbound : c.toNat ≤ 122 := by
      obtain hc | hc := Bool.or_eq_true_iff.mp halpha
      · exact Nat.le_trans (hupper hc).2 (by decide)
      · exact (hlower hc).2
    simp only [isChar, Bool.or_eq_false_iff, Bool.and_eq_false_iff, decide_eq_false_iff_not] at h
    omega
  · intro hmark
    have hmarks : ∀ d ∈ ['.', '/', ';', '[', ']', ':', '(', ')'], isChar d = true :=
      List.all_eq_true.mp (by decide)
    rw [hmarks c hmark] at h
    cases h

theorem writable_dotName {d : String} : Xml.Writable (Descriptor.dotName d) ↔ Xml.Writable d := by
  have hmarks : ['.', '/', ';', '[', ']'] ⊆ ['.', '/', ';', '[', ']', ':', '(', ')'] := by decide
  have hmem {c : Char} (hc : ¬isChar c = true) :
      c ∈ (Descriptor.dotName d).toList ↔ c ∈ d.toList := by
    obtain ⟨hletter, hmark⟩ := not_mark_of_not_isChar (Bool.eq_false_iff.mpr hc)
    exact Descriptor.mem_dotName hletter fun h => hmark (hmarks h)
  exact ⟨fun h c hc => Classical.not_not.mp fun hnot => hnot (h c ((hmem hnot).mpr hc)),
    fun h c hc => Classical.not_not.mp fun hnot => hnot (h c ((hmem hnot).mp hc))⟩

theorem writable_text {m : Member} : Xml.Writable m.text ↔ ∀ s ∈ m.names, Xml.Writable s := by
  have hmem {c : Char} (hc : ¬isChar c = true) :
      c ∈ m.text.toList ↔ ∃ s ∈ m.names, c ∈ s.toList := by
    obtain ⟨hletter, hmark⟩ := not_mark_of_not_isChar (Bool.eq_false_iff.mpr hc)
    exact Member.mem_text hletter hmark
  constructor
  · exact fun h s hs c hc =>
      Classical.not_not.mp fun hnot => hnot (h c ((hmem hnot).mpr ⟨s, hs, hc⟩))
  · refine fun h c hc => Classical.not_not.mp fun hnot => ?_
    obtain ⟨s, hs, hcs⟩ := (hmem hnot).mp hc
    exact hnot (h s hs c hcs)

theorem writable_attributes {n : Node} (hlabel : Xml.Writable n.label) (hsource : n.source = none) :
    ∀ a ∈ n.attributes, Xml.Writable a.2 := by
  have hkind : Xml.Writable n.kind.name := by cases n.kind <;> decide
  have hflag : Xml.Writable (if n.internal then "True" else "False") := by
    cases n.internal <;> decide
  simp [Node.attributes, hsource, hkind, hflag, hlabel]

theorem mem_nodes_cases {l : List ClassRef} {p : String × Node} (hp : p ∈ (ofListing l).nodes) :
    (∃ c ∈ l, p = (c.name, c.node)) ∨ ∃ c ∈ l, ∃ m ∈ c.members, p = (m.text, m.node) := by
  rw [nodes_ofListing] at hp
  obtain hp | hp := mem_of_mem_putEntries hp
  · cases hp
  · obtain hp | hp := List.mem_append.mp hp
    · obtain ⟨c, hc, rfl⟩ := List.mem_map.mp hp
      exact .inl ⟨c, hc, rfl⟩
    · obtain ⟨m, hm, rfl⟩ := List.mem_map.mp hp
      obtain ⟨c, hc, hm⟩ := List.mem_flatMap.mp hm
      exact .inr ⟨c, hc, m, hm, rfl⟩

theorem source_ofListing {l : List ClassRef} {p : String × Node} (hp : p ∈ (ofListing l).nodes) :
    p.2.source = none := by
  obtain ⟨c, -, rfl⟩ | ⟨c, -, m, -, rfl⟩ := mem_nodes_cases hp
  · rfl
  · cases m <;> rfl

/-- The document of a listing may hold its characters if and only if it may hold those of all names
that the image has. -/
theorem writable_ofListing (l : List ClassRef) :
    (ofListing l).Writable ↔ ∀ c ∈ l, ∀ s ∈ c.names, Xml.Writable s := by
  simp only [ClassRef.names, List.forall_mem_cons, List.forall_mem_flatMap]
  constructor
  · intro h
    have hkey {id : String} (hid : id ∈ (ofListing l).nodes.map Prod.fst) : Xml.Writable id := by
      obtain ⟨p, hp, rfl⟩ := List.mem_map.mp hid
      exact (h p hp).1
    refine fun c hc => ⟨hkey (mem_nodes_ofListing.mpr (.inl (List.mem_map_of_mem hc))), ?_⟩
    refine fun m hm => writable_text.mp (hkey (mem_nodes_ofListing.mpr (.inr ?_)))
    exact List.mem_map_of_mem (List.mem_flatMap.mpr ⟨c, hc, hm⟩)
  · intro h p hp
    have hsource := source_ofListing hp
    obtain ⟨c, hc, rfl⟩ | ⟨c, hc, m, hm, rfl⟩ := mem_nodes_cases hp
    · obtain ⟨hname, -⟩ := h c hc
      exact ⟨hname, writable_attributes (writable_dotName.mpr hname) hsource⟩
    · have hnames := (h c hc).2 m hm
      have hlabel : m.node.label ∈ m.names := by
        cases m <;> simp [Member.node, Member.names, Member.name]
      exact ⟨writable_text.mpr hnames, writable_attributes (hnames _ hlabel) hsource⟩

/-- What can be read back from the document of the graph of a listing. -/
structure ReadBack (l : List ClassRef) : Prop where
  edges : (ofListing l).told.edges.Perm
    ((ofListing l).edges.map fun e => (e.1, [("relation", .text e.2.name)]))
  wellFormed : (∃ t, Xml.read (ofListing l).graphML = some t) ↔
    ∀ c ∈ l, ∀ s ∈ c.names, Xml.Writable s
  read : (∀ c ∈ l, ∀ s ∈ c.names, Xml.Writable s) →
    GraphML.read (ofListing l).graphML = some (ofListing l).normal.told.present
  same : GraphML.read (ofListing l).graphML = some (ofListing l).told ↔
    (∀ c ∈ l, ∀ s ∈ c.names, Xml.Writable s) ∧
      ∀ p ∈ (ofListing l).nodes, p.2.label ≠ "" ∧ '\r' ∉ p.2.label.toList

theorem readBack (l : List ClassRef) : ReadBack l := by
  have hsimple := simple_ofListing l
  have hkept : (∀ p ∈ (ofListing l).nodes, Kept p.2) ↔
      ∀ p ∈ (ofListing l).nodes, p.2.label ≠ "" ∧ '\r' ∉ p.2.label.toList := by
    refine forall₂_congr fun p hp => ?_
    rw [Kept, source_ofListing hp]
    simp
  refine ⟨hsimple.sortedEdges_perm.map _, ?_, fun h => ?_, ?_⟩
  · rw [← writable_ofListing]
    constructor
    · rintro ⟨t, ht⟩
      exact (writable_graphML hsimple).mp (isChar_of_read ht)
    · exact fun h => ⟨_, (read_graphML hsimple h).1⟩
  · exact (read_graphML hsimple ((writable_ofListing l).mpr h)).2
  · rw [read_graphML_eq_iff hsimple, writable_ofListing, hkept]

/-- The document of the graph of an image can be read if and only if it may hold all characters in
the names that the image lists.  Then it gives the nodes and edges with their attributes, except
that line breaks in labels are read as line feeds and empty labels are not told; so it gives back
the graph itself exactly if no label is empty or has a carriage return. -/
theorem graphML_read_back {b : Bytes} {i : Image} (h : Image.load b = .ok i) (scope : Scope) :
    ∃ l, i.references scope = .ok l ∧ ReadBack l := by
  obtain ⟨l, hl⟩ := Image.exists_references h scope
  exact ⟨l, hl, readBack l⟩

def fieldImage (name : String) : Bytes :=
  ({ strings := ["LA;", name]
     types := [0]
     fields := [⟨0, 0, 1⟩]
     classDefs := [0] } : Contents).encode .little .v035

def fieldListing (name : String) : List ClassRef :=
  [{ name := "LA;", internal := true, fields := [⟨"LA;", name, "LA;", true⟩] }]

def listed? (b : Bytes) : Option (List ClassRef) :=
  match Image.load b with
  | .ok i => (i.references .all).toOption
  | .error _ => none

theorem exists_of_listed {b : Bytes} {l : List ClassRef} (h : listed? b = some l) :
    ∃ i, Image.load b = .ok i ∧ i.references .all = .ok l := by
  unfold listed? at h
  split at h
  next i hi => exact ⟨i, hi, toOption_eq_some.mp h⟩
  next => cases h

theorem graphML_read_back_markup :
    ∃ i, Image.load (fieldImage "<\n&>") = .ok i ∧
      i.references .all = .ok (fieldListing "<\n&>") ∧
      GraphML.read (ofListing (fieldListing "<\n&>")).graphML =
        some (ofListing (fieldListing "<\n&>")).told := by
  obtain ⟨i, hi, hlist⟩ := exists_of_listed (b := fieldImage "<\n&>")
    (l := fieldListing "<\n&>") (by decide +kernel)
  obtain ⟨l, hl, hread⟩ := graphML_read_back hi .all
  cases hlist.symm.trans hl
  exact ⟨i, hi, hlist, hread.same.mpr (by decide +kernel)⟩

/-- A carriage return in a label is read as a line feed, and no document holds a control
character. -/
theorem graphML_read_back_control :
    (∃ i, Image.load (fieldImage "x\ry") = .ok i ∧
      i.references .all = .ok (fieldListing "x\ry") ∧
      GraphML.read (ofListing (fieldListing "x\ry")).graphML =
        some (ofListing (fieldListing "x\ry")).normal.told ∧
      GraphML.read (ofListing (fieldListing "x\ry")).graphML ≠
        some (ofListing (fieldListing "x\ry")).told) ∧
    ∃ i, Image.load (fieldImage "\x01") = .ok i ∧
      i.references .all = .ok (fieldListing "\x01") ∧
      Xml.read (ofListing (fieldListing "\x01")).graphML = none := by
  constructor
  · obtain ⟨i, hi, hlist⟩ := exists_of_listed (b := fieldImage "x\ry") (l := fieldListing "x\ry")
      (by decide +kernel)
    have hread := readBack (fieldListing "x\ry")
    refine ⟨i, hi, hlist, ?_, hread.same.not.mpr (by decide +kernel)⟩
    rw [hread.read (by decide +kernel)]
    decide +kernel
  · obtain ⟨i, hi, hlist⟩ := exists_of_listed (b := fieldImage "\x01")
      (l := fieldListing "\x01") (by decide +kernel)
    refine ⟨i, hi, hlist, Option.eq_none_iff_forall_ne_some.mpr fun t ht => ?_⟩
    have hnames := (readBack (fieldListing "\x01")).wellFormed.mp ⟨t, ht⟩
    exact absurd hnames (by decide +kernel)

end Graph

end DexRefs
