import DexRefs.Proofs.ReferenceGraph
import DexRefs.Proofs.XmlText

/-!
Graphs as documents.  Line by line, the document of a graph is read as one element with the keys and
the graph in it; reading it ends lines in labels and sources with a line feed and leaves all else as
it is; and it may hold its characters if and only if it may hold those of its nodes.
-/

set_option autoImplicit false

namespace DexRefs

open Xml

/-! ### Lines -/

namespace Xml

variable {xs : List Char} {ts : List Tree} {t : Tree} {name : String}
  {as : List (String × String)} {indent : Nat}

def linesText (ls : List String) : List Char :=
  ls.flatMap fun l => l.toList ++ ['\n']

theorem linesText_append (ls ls' : List String) :
    linesText (ls ++ ls') = linesText ls ++ linesText ls' :=
  List.flatMap_append

theorem linesText_flatMap {α : Type} (f : α → List String) (as : List α) :
    linesText (as.flatMap f) = as.flatMap fun a => linesText (f a) :=
  List.flatMap_assoc

def lineTree (indent : Nat) (t : Tree) : List Tree :=
  List.replicate indent (.char ' ') ++ [t, .char '\n']

theorem Reads.spaces (n : Nat) : Reads (List.replicate n ' ') (List.replicate n (.char ' ')) := by
  induction n with
  | zero => exact .nil
  | succ n ih =>
    have hspace : Reads [' '] [.char ' '] := .char (by decide)
    exact hspace.append ih

theorem Reads.line {l : String} (h : Reads xs [t])
    (hl : l.toList = List.replicate indent ' ' ++ xs) :
    Reads (linesText [l]) (lineTree indent t) := by
  have hbreak : Reads ['\n'] [.char '\n'] := .char (by decide)
  have hline := ((Reads.spaces indent).append h).append hbreak
  simpa [linesText, hl, lineTree] using hline

theorem Reads.block {o c : String} {ls : List String} (hname : isName name = true)
    (has : Names (as.map Prod.fst)) (hbody : Reads (linesText ls) ts)
    (ho : o.toList = List.replicate indent ' ' ++ (tagText name as ++ ['>']))
    (hc : c.toList = List.replicate indent ' ' ++ '<' :: '/' :: (name.toList ++ ['>'])) :
    Reads (linesText ([o] ++ ls ++ [c])) (lineTree indent
      (.element name as (.char '\n' :: ts ++ List.replicate indent (.char ' ')))) := by
  have hbreak : Reads ['\n'] [.char '\n'] := .char (by decide)
  have helement := Reads.element hname has ((hbreak.append hbody).append (.spaces indent))
  have hlines := ((Reads.spaces indent).append helement).append hbreak
  rw [linesText_append, linesText_append]
  simpa [linesText, ho, hc, lineTree] using hlines

end Xml

/-! ### Documents -/

namespace Graph

def dataTree (number : Nat) (value : String) : Tree :=
  .element "data" [("key", "d" ++ decimal number)] (value.toList.map .char)

def keyTree (number : Nat) (element : String) (key : String × String) : Tree :=
  .element "key" [("id", "d" ++ decimal number), ("for", element), ("attr.name", key.1),
    ("attr.type", key.2)] []

def nodeChildren (keys : List (String × String)) (n : Node) : List Tree :=
  .char '\n' :: n.attributes.flatMap (fun a => lineTree 6 (dataTree (keys.idxOf a.1) a.2)) ++
    List.replicate 4 (.char ' ')

def edgeChildren (key : Nat) (r : Relation) : List Tree :=
  .char '\n' :: lineTree 6 (dataTree key r.name) ++ List.replicate 4 (.char ' ')

def nodeTree (keys : List (String × String)) (id : String) (n : Node) : Tree :=
  .element "node" [("id", id)] (nodeChildren keys n)

def edgeTree (key : Nat) (e : (String × String) × Relation) : Tree :=
  .element "edge" [("source", e.1.1), ("target", e.1.2)] (edgeChildren key e.2)

def allKeys (g : Graph) : List ((String × (String × String)) × Nat) :=
  (g.nodeKeys.map (("node", ·)) ++ g.edgeKeys.map (("edge", ·))).zipIdx

def graphChildren (g : Graph) : List Tree :=
  if g.nodes.isEmpty then [] else
    .char '\n' :: (g.nodes.flatMap (fun p => lineTree 4 (nodeTree g.nodeKeys p.1 p.2)) ++
      g.sortedEdges.flatMap (fun e => lineTree 4 (edgeTree g.nodeKeys.length e))) ++
    List.replicate 2 (.char ' ')

def graphTree (g : Graph) : Tree :=
  .element "graph" [("edgedefault", "directed")] g.graphChildren

def rootAttributes : List (String × String) :=
  [("xmlns", "http://graphml.graphdrawing.org/xmlns"),
   ("xmlns:xsi", "http://www.w3.org/2001/XMLSchema-instance"),
   ("xsi:schemaLocation", "http://graphml.graphdrawing.org/xmlns " ++
     "http://graphml.graphdrawing.org/xmlns/1.0/graphml.xsd")]

def rootChildren (g : Graph) : List Tree :=
  .char '\n' :: (g.allKeys.reverse.flatMap (fun k => lineTree 2 (keyTree k.2 k.1.1 k.1.2)) ++
    lineTree 2 g.graphTree)

theorem reads_dataLine (number : Nat) (value : String) :
    Reads (linesText [dataLine number value]) (lineTree 6 (dataTree number value)) := by
  have hname : isName "data" = true := by decide
  have hkey : Names ([("key", "d" ++ decimal number)].map Prod.fst) := (by decide : Names ["key"])
  by_cases hempty : value.isEmpty = true
  · obtain rfl : value = "" := String.isEmpty_iff.mp hempty
    refine Reads.line (.emptyElement hname hkey) ?_
    unfold dataLine
    rw [if_pos hempty]
    simp [tagText, attributesText, List.replicate_succ]
  · refine Reads.line (.element hname hkey (.text value.toList)) ?_
    unfold dataLine xmlText
    rw [if_neg hempty]
    simp [tagText, attributesText, List.replicate_succ]

theorem reads_keyLine (number : Nat) (element : String) (key : String × String) :
    Reads (linesText [keyLine number element key]) (lineTree 2 (keyTree number element key)) := by
  have hnames : Names ["id", "for", "attr.name", "attr.type"] := by decide
  refine Reads.line (.emptyElement (by decide) hnames) ?_
  unfold keyLine
  simp [tagText, attributesText, List.replicate_succ]

theorem reads_nodeLines (keys : List (String × String)) (id : String) (n : Node) :
    Reads (linesText (nodeLines keys id n)) (lineTree 4 (nodeTree keys id n)) := by
  have hnames : Names ["id"] := by decide
  refine Reads.block (by decide) hnames ?_ ?_ ?_
  · rw [List.map_eq_flatMap, linesText_flatMap]
    exact .flatMap fun a _ => reads_dataLine _ _
  · simp [tagText, attributesText, List.replicate_succ]
  · simp [List.replicate_succ]

theorem edgeLines_eq (key : Nat) (source target : String) (r : Relation) :
    edgeLines key source target r =
      ["    <edge" ++ xmlAttribute "source" source ++ xmlAttribute "target" target ++ ">"] ++
        [dataLine key r.name] ++ ["    </edge>"] := rfl

theorem reads_edgeLines (key : Nat) (e : (String × String) × Relation) :
    Reads (linesText (edgeLines key e.1.1 e.1.2 e.2)) (lineTree 4 (edgeTree key e)) := by
  have hnames : Names ["source", "target"] := by decide
  rw [edgeLines_eq]
  refine Reads.block (by decide) hnames (reads_dataLine key e.2.name) ?_ ?_
  · simp [tagText, attributesText, List.replicate_succ]
  · simp [List.replicate_succ]

theorem reads_bodyLines (g : Graph) :
    Reads (linesText g.bodyLines) (lineTree 2 g.graphTree) := by
  have hnames : Names ([("edgedefault", "directed")].map Prod.fst) :=
    (by decide : Names ["edgedefault"])
  unfold bodyLines graphTree graphChildren
  dsimp only
  split
  next =>
    refine Reads.line (.emptyElement (by decide) hnames) ?_
    rfl
  next =>
    have hnodes : Reads (linesText (g.nodes.flatMap fun p => nodeLines g.nodeKeys p.1 p.2))
        (g.nodes.flatMap fun p => lineTree 4 (nodeTree g.nodeKeys p.1 p.2)) := by
      rw [linesText_flatMap]
      exact .flatMap fun p _ => reads_nodeLines g.nodeKeys p.1 p.2
    have hedges : Reads
        (linesText (g.sortedEdges.flatMap fun e => edgeLines g.nodeKeys.length e.1.1 e.1.2 e.2))
        (g.sortedEdges.flatMap fun e => lineTree 4 (edgeTree g.nodeKeys.length e)) := by
      rw [linesText_flatMap]
      exact .flatMap fun e _ => reads_edgeLines g.nodeKeys.length e
    have hbody := hnodes.append hedges
    rw [← linesText_append] at hbody
    have ho : "  <graph edgedefault=\"directed\">".toList = List.replicate 2 ' ' ++
        (tagText "graph" [("edgedefault", "directed")] ++ ['>']) := rfl
    have hc : "  </graph>".toList =
        List.replicate 2 ' ' ++ '<' :: '/' :: ("graph".toList ++ ['>']) := rfl
    have hblock := Reads.block (by decide) hnames hbody ho hc
    rwa [← List.append_assoc] at hblock

theorem reads_keyLines (g : Graph) : Reads (linesText g.keyLines)
    (g.allKeys.reverse.flatMap fun k => lineTree 2 (keyTree k.2 k.1.1 k.1.2)) := by
  unfold keyLines
  dsimp only
  rw [← List.map_reverse, List.map_eq_flatMap, linesText_flatMap]
  exact .flatMap fun k _ => reads_keyLine k.2 k.1.1 k.1.2

def documentLines (g : Graph) : List String :=
  ["<?xml version='1.0' encoding='utf-8'?>",
   "<graphml xmlns=\"http://graphml.graphdrawing.org/xmlns\" " ++
     "xmlns:xsi=\"http://www.w3.org/2001/XMLSchema-instance\" " ++
     "xsi:schemaLocation=\"http://graphml.graphdrawing.org/xmlns " ++
     "http://graphml.graphdrawing.org/xmlns/1.0/graphml.xsd\">"] ++
  g.keyLines ++ g.bodyLines ++ ["</graphml>"]

theorem toList_graphML (g : Graph) : g.graphML.toList = linesText g.documentLines := by
  have hdocument : g.graphML = String.join (g.documentLines.map (· ++ "\n")) := rfl
  rw [hdocument, String.toList_join, linesText, List.flatMap_map]
  simp

/-- A document with allowed characters is read, as if its line breaks were line feeds. -/
theorem read_of_endLines {s : String} {g : Graph} (hs : ∀ c ∈ s.toList, isChar c = true)
    (hg : endLines s.toList = g.graphML.toList) :
    read s = some (.element "graphml" rootAttributes g.rootChildren) := by
  have hnames : Names (rootAttributes.map Prod.fst) :=
    (by decide : Names ["xmlns", "xmlns:xsi", "xsi:schemaLocation"])
  have hbreak : Reads ['\n'] [.char '\n'] := .char (by decide)
  have hbody := hbreak.append ((reads_keyLines g).append (reads_bodyLines g))
  refine read_document hs (by decide) hnames hbody ?_
  have hopen : ("<graphml xmlns=\"http://graphml.graphdrawing.org/xmlns\" " ++
     "xmlns:xsi=\"http://www.w3.org/2001/XMLSchema-instance\" " ++
     "xsi:schemaLocation=\"http://graphml.graphdrawing.org/xmlns " ++
     "http://graphml.graphdrawing.org/xmlns/1.0/graphml.xsd\">").toList =
      tagText "graphml" rootAttributes ++ ['>'] := by
    simp only [tagText, attributesText, rootAttributes, toList_xmlAttribute, String.toList_append,
      List.flatMap_cons, List.flatMap_nil, String.reduceToList]
    decide +kernel
  have hfirst : "<?xml version='1.0' encoding='utf-8'?>".toList = declaration := rfl
  have hclose : "</graphml>".toList = '<' :: '/' :: ("graphml".toList ++ ['>']) := rfl
  rw [hg, toList_graphML, documentLines, linesText_append, linesText_append, linesText_append]
  simp only [linesText, List.flatMap_cons, List.flatMap_nil, hfirst, hopen, hclose]
  simp

/-! ### Line breaks -/

end Graph

namespace Xml.Normalizes

variable {xs ys zs : List Char}

theorem line {l : String} (h : '\r' ∉ l.toList) : Normalizes (linesText [l]) (linesText [l]) :=
  .self (by simp [linesText, h])

theorem before (hy : Normalizes ys zs) (hne : ys ≠ []) (hhead : ys.head? ≠ some '\n') :
    Normalizes (xs ++ ys) (endLines xs ++ zs) := by
  refine ⟨?_, by rw [endLines_append (.inr hhead), hy.endLines_eq]⟩
  rw [List.getLast?_append_of_ne_nil _ hne]
  exact hy.last

end Xml.Normalizes

def Node.normal (n : Node) : Node :=
  { n with label := normalText n.label, source := n.source.map normalText }

theorem Node.attributes_normal (n : Node) :
    n.normal.attributes = n.attributes.map fun a => (a.1, normalText a.2) := by
  have hkind : normalText n.kind.name = n.kind.name := by cases n.kind <;> decide
  have hflag : normalText (if n.internal then "True" else "False") =
      if n.internal then "True" else "False" := by cases n.internal <;> decide
  cases hsource : n.source <;> simp [attributes, normal, hsource, hkind, hflag]

namespace Graph

def normal (g : Graph) : Graph :=
  { g with nodes := g.nodes.map fun p => (p.1, p.2.normal) }

theorem nodeKeys_normal (g : Graph) : g.normal.nodeKeys = g.nodeKeys := by
  simp [nodeKeys, normal, List.flatMap_map, Node.attributes_normal, Function.comp_def]

theorem sortedEdges_normal (g : Graph) : g.normal.sortedEdges = g.sortedEdges := by
  simp [sortedEdges, normal, List.flatMap_map]

theorem normalizes_keyLine (number : Nat) (element : String) (key : String × String) :
    Normalizes (linesText [keyLine number element key])
      (linesText [keyLine number element key]) := by
  refine .line ?_
  unfold keyLine
  simp [cr_not_mem_xmlAttribute]

theorem normalizes_dataLine (number : Nat) (value : String) :
    Normalizes (linesText [dataLine number value])
      (linesText [dataLine number (normalText value)]) := by
  have hkey (v : String) : '\r' ∉ (xmlAttribute "key" v).toList :=
    cr_not_mem_xmlAttribute (by decide) v
  by_cases hempty : value = ""
  · subst hempty
    refine .line ?_
    unfold dataLine
    simp [hkey]
  · have hne : normalText value ≠ "" := fun h => hempty (normalText_eq_empty.mp h)
    have hline (v : String) (hv : v ≠ "") : linesText [dataLine number v] =
        ("      <data" ++ xmlAttribute "key" ("d" ++ decimal number) ++ ">").toList ++
          (v.toList.flatMap xmlTextChar ++ "</data>\n".toList) := by
      unfold dataLine xmlText
      simp [linesText, String.isEmpty_iff, hv]
    have htext : (normalText value).toList.flatMap xmlTextChar =
        endLines (value.toList.flatMap xmlTextChar) := by
      rw [normalText, String.toList_ofList, endLines_flatMap_textChar]
    have hend : Normalizes "</data>\n".toList "</data>\n".toList := .self (by decide)
    rw [hline value hempty, hline _ hne, htext]
    exact (Normalizes.self (by simp [hkey])).append (hend.before (by simp) (by decide))

theorem normalizes_nodeLines (keys : List (String × String)) (id : String) (n : Node) :
    Normalizes (linesText (nodeLines keys id n)) (linesText (nodeLines keys id n.normal)) := by
  have hopen : '\r' ∉ ("    <node" ++ xmlAttribute "id" id ++ ">").toList := by
    simp [cr_not_mem_xmlAttribute]
  unfold nodeLines
  rw [Node.attributes_normal, List.map_map]
  simp only [linesText_append]
  refine ((Normalizes.line hopen).append ?_).append (.line (by decide))
  rw [List.map_eq_flatMap, List.map_eq_flatMap, linesText_flatMap, linesText_flatMap]
  exact .flatMap fun a _ => normalizes_dataLine _ _

theorem normalizes_edgeLines (key : Nat) (e : (String × String) × Relation) :
    Normalizes (linesText (edgeLines key e.1.1 e.1.2 e.2))
      (linesText (edgeLines key e.1.1 e.1.2 e.2)) := by
  have hopen : '\r' ∉ ("    <edge" ++ xmlAttribute "source" e.1.1 ++
      xmlAttribute "target" e.1.2 ++ ">").toList := by
    simp [cr_not_mem_xmlAttribute]
  have hname : normalText e.2.name = e.2.name := by cases e.2 <;> decide
  have hdata := normalizes_dataLine key e.2.name
  rw [hname] at hdata
  rw [edgeLines_eq, linesText_append, linesText_append]
  exact ((Normalizes.line hopen).append hdata).append (.line (by decide))

theorem normalizes_bodyLines (g : Graph) :
    Normalizes (linesText g.bodyLines) (linesText g.normal.bodyLines) := by
  unfold bodyLines
  dsimp only
  rw [nodeKeys_normal, sortedEdges_normal]
  have hempty : g.normal.nodes.isEmpty = g.nodes.isEmpty := by simp [normal]
  rw [hempty]
  split
  next => exact .line (by decide)
  next =>
    simp only [linesText_append, linesText_flatMap]
    refine (((Normalizes.line (by decide)).append ?_).append ?_).append (.line (by decide))
    · rw [normal, List.flatMap_map]
      exact .flatMap fun p _ => normalizes_nodeLines g.nodeKeys p.1 p.2
    · exact .flatMap fun e _ => normalizes_edgeLines _ e

theorem normalizes_keyLines (g : Graph) :
    Normalizes (linesText g.keyLines) (linesText g.normal.keyLines) := by
  have hkeys : g.normal.keyLines = g.keyLines := by
    unfold keyLines
    rw [nodeKeys_normal]
    rfl
  rw [hkeys]
  unfold keyLines
  dsimp only
  rw [← List.map_reverse, List.map_eq_flatMap, linesText_flatMap]
  exact .flatMap fun k _ => normalizes_keyLine k.2 k.1.1 k.1.2

theorem endLines_graphML (g : Graph) :
    endLines g.graphML.toList = g.normal.graphML.toList := by
  have hlines : Normalizes (linesText g.documentLines) (linesText g.normal.documentLines) := by
    unfold documentLines
    simp only [linesText_append]
    refine (((Normalizes.self ?_).append (normalizes_keyLines g)).append
      (normalizes_bodyLines g)).append (.line (by decide))
    simp only [linesText, List.flatMap_cons, List.flatMap_nil, String.toList_append,
      String.reduceToList]
    decide +kernel
  rw [toList_graphML, toList_graphML, hlines.endLines_eq]

end Graph

/-! ### Characters -/

namespace Xml

variable {s t : String} {ls : List String} {c : Char}

def Writable (s : String) : Prop :=
  ∀ c ∈ s.toList, isChar c = true

instance (s : String) : Decidable (Writable s) :=
  decidable_of_iff (s.toList.all isChar = true) List.all_eq_true

theorem writable_append : Writable (s ++ t) ↔ Writable s ∧ Writable t := by
  rw [Writable, String.toList_append, List.forall_mem_append]
  rfl

theorem forall_linesText :
    (∀ c ∈ linesText ls, isChar c = true) ↔ ∀ l ∈ ls, Writable l := by
  rw [linesText, List.forall_mem_flatMap]
  refine forall₂_congr fun l _ => ?_
  have hbreak : isChar '\n' = true := by decide
  simp [Writable, or_imp, forall_and, hbreak]

theorem forall_textChar (c : Char) :
    (∀ d ∈ xmlTextChar c, isChar d = true) ↔ isChar c = true := by
  rw [← List.all_eq_true]
  obtain rfl | rfl | rfl | ⟨-, hself⟩ := textChar_cases c
  · decide
  · decide
  · decide
  · simp [hself]

theorem forall_attributeChar (c : Char) :
    (∀ d ∈ xmlAttributeChar c, isChar d = true) ↔ isChar c = true := by
  obtain rfl | rfl | rfl | rfl | ⟨-, htext⟩ := attributeChar_cases c
  · rw [← List.all_eq_true]
    decide
  · rw [← List.all_eq_true]
    decide
  · rw [← List.all_eq_true]
    decide
  · rw [← List.all_eq_true]
    decide
  · rw [htext, forall_textChar]

theorem writable_xmlText : Writable (xmlText s) ↔ Writable s := by
  unfold Writable xmlText
  rw [String.toList_ofList, List.forall_mem_flatMap]
  exact forall₂_congr fun c _ => forall_textChar c

theorem writable_xmlAttribute {k v : String} (hk : Writable k) :
    Writable (xmlAttribute k v) ↔ Writable v := by
  have hmarks : isChar ' ' = true ∧ isChar '=' = true ∧ isChar '\x22' = true := by decide
  have hvalue : (∀ d ∈ v.toList.flatMap xmlAttributeChar, isChar d = true) ↔ Writable v := by
    rw [List.forall_mem_flatMap]
    exact forall₂_congr fun c _ => forall_attributeChar c
  rw [← hvalue, Writable, toList_xmlAttribute]
  simp only [List.forall_mem_cons, List.forall_mem_append, hmarks, true_and, List.not_mem_nil,
    false_imp_iff, implies_true, and_true]
  exact and_iff_right hk

theorem writable_decimal (n : Nat) : Writable (decimal n) := by
  intro c hc
  rw [decimal, String.toList_ofList] at hc
  have hdigit : c.isDigit = true := Nat.isDigit_of_mem_toDigits (by decide) (by decide) hc
  rw [Char.isDigit_iff_toNat] at hdigit
  have hzero : '0'.toNat = 48 := rfl
  have hnine : '9'.toNat = 57 := rfl
  simp only [isChar, Bool.or_eq_true, Bool.and_eq_true, decide_eq_true_eq]
  omega

end Xml

namespace Graph

/-- All characters in the names and attributes of the nodes may stand in a document. -/
def Writable (g : Graph) : Prop :=
  ∀ p ∈ g.nodes, Xml.Writable p.1 ∧ ∀ a ∈ p.2.attributes, Xml.Writable a.2

theorem writable_number (number : Nat) (k : String) (hk : Xml.Writable k) :
    Xml.Writable (xmlAttribute k ("d" ++ decimal number)) := by
  rw [writable_xmlAttribute hk, writable_append]
  exact ⟨by decide, writable_decimal number⟩

theorem writable_dataLine (number : Nat) (value : String) :
    Xml.Writable (dataLine number value) ↔ Xml.Writable value := by
  have hopen : Xml.Writable ("      <data" ++ xmlAttribute "key" ("d" ++ decimal number)) :=
    writable_append.mpr ⟨by decide, writable_number number "key" (by decide)⟩
  unfold dataLine
  rw [writable_append, and_iff_right hopen]
  split
  next hempty =>
    rw [String.isEmpty_iff.mp hempty]
    decide
  next =>
    have hmarks : Xml.Writable ">" ∧ Xml.Writable "</data>" := by decide
    rw [writable_append, writable_append, writable_xmlText]
    simp [hmarks]

theorem writable_nodeLines (keys : List (String × String)) (id : String) (n : Node) :
    (∀ l ∈ nodeLines keys id n, Xml.Writable l) ↔
      Xml.Writable id ∧ ∀ a ∈ n.attributes, Xml.Writable a.2 := by
  have hmarks : Xml.Writable "    <node" ∧ Xml.Writable ">" ∧ Xml.Writable "    </node>" := by
    decide
  have hid : Xml.Writable (xmlAttribute "id" id) ↔ Xml.Writable id :=
    writable_xmlAttribute (by decide)
  rw [nodeLines, List.forall_mem_append, List.forall_mem_append, List.forall_mem_map]
  simp only [List.mem_singleton, forall_eq, writable_append, hmarks, hid, writable_dataLine,
    true_and, and_true]

theorem writable_edgeLines (key : Nat) (source target : String) (r : Relation) :
    (∀ l ∈ edgeLines key source target r, Xml.Writable l) ↔
      Xml.Writable source ∧ Xml.Writable target := by
  have hmarks : Xml.Writable "    <edge" ∧ Xml.Writable ">" ∧ Xml.Writable "    </edge>" := by
    decide
  have hname : Xml.Writable r.name := by cases r <;> decide
  have hsource : Xml.Writable (xmlAttribute "source" source) ↔ Xml.Writable source :=
    writable_xmlAttribute (by decide)
  have htarget : Xml.Writable (xmlAttribute "target" target) ↔ Xml.Writable target :=
    writable_xmlAttribute (by decide)
  rw [edgeLines_eq]
  simp [writable_append, hmarks, hname, hsource, htarget, writable_dataLine]

theorem mem_nodeKeys {g : Graph} {key : String × String} :
    key ∈ g.nodeKeys ↔ ∃ p ∈ g.nodes, ∃ a ∈ p.2.attributes, a.1 = key := by
  simp [nodeKeys]

theorem mem_of_mem_attributes {n : Node} {a : (String × String) × String}
    (h : a ∈ n.attributes) :
    a.1 ∈ [("kind", "string"), ("internal", "boolean"), ("label", "string"),
      ("source", "string")] := by
  unfold Node.attributes at h
  cases hsource : n.source <;> rw [hsource] at h <;> revert a <;> simp

theorem writable_keyLines (g : Graph) : ∀ l ∈ g.keyLines, Xml.Writable l := by
  have hnames : ∀ key ∈ [("kind", "string"), ("internal", "boolean"), ("label", "string"),
      ("source", "string"), ("relation", "string")],
      Xml.Writable key.1 ∧ Xml.Writable key.2 := by decide
  have hkey : ∀ k ∈ g.nodeKeys.map (("node", ·)) ++ g.edgeKeys.map (("edge", ·)),
      Xml.Writable k.1 ∧ Xml.Writable k.2.1 ∧ Xml.Writable k.2.2 := by
    intro k hk
    rw [List.mem_append, List.mem_map, List.mem_map] at hk
    obtain ⟨key, hkey, rfl⟩ | ⟨key, hkey, rfl⟩ := hk
    · obtain ⟨p, -, a, ha, rfl⟩ := mem_nodeKeys.mp hkey
      have hmem := List.mem_append_left [("relation", "string")] (mem_of_mem_attributes ha)
      exact ⟨(by decide : Xml.Writable "node"), hnames a.1 hmem⟩
    · unfold edgeKeys at hkey
      split at hkey
      · cases hkey
      · rw [List.mem_singleton.mp hkey]
        decide
  intro l hl
  unfold keyLines at hl
  dsimp only at hl
  obtain ⟨k, hk, rfl⟩ := List.mem_map.mp (List.mem_reverse.mp hl)
  obtain ⟨helement, hname, htype⟩ := hkey k.1 (List.fst_mem_of_mem_zipIdx hk)
  have hid := writable_number k.2 "id" (by decide)
  have hattributes : Xml.Writable (xmlAttribute "for" k.1.1) ∧
      Xml.Writable (xmlAttribute "attr.name" k.1.2.1) ∧
      Xml.Writable (xmlAttribute "attr.type" k.1.2.2) :=
    ⟨(writable_xmlAttribute (by decide)).mpr helement,
      (writable_xmlAttribute (by decide)).mpr hname, (writable_xmlAttribute (by decide)).mpr htype⟩
  have hmarks : Xml.Writable "  <key" ∧ Xml.Writable " />" := by decide
  unfold keyLine
  simp [writable_append, hid, hattributes, hmarks]

/-- A document may hold all its characters if and only if it may hold those of its nodes. -/
theorem writable_graphML {g : Graph} (hg : g.Simple) : Xml.Writable g.graphML ↔ g.Writable := by
  have hends (h : g.Writable) : ∀ e ∈ g.sortedEdges,
      Xml.Writable e.1.1 ∧ Xml.Writable e.1.2 := by
    intro e he
    have he := hg.sortedEdges_perm.mem_iff.mp he
    obtain ⟨p, hp, hsource⟩ := List.mem_map.mp (hg.sources e he)
    obtain ⟨q, hq, htarget⟩ := List.mem_map.mp (hg.targets e he)
    exact ⟨hsource ▸ (h p hp).1, htarget ▸ (h q hq).1⟩
  have hbody : (∀ l ∈ g.bodyLines, Xml.Writable l) ↔ g.Writable := by
    unfold bodyLines
    dsimp only
    split
    next hempty =>
      have hnil : g.nodes = [] := List.isEmpty_iff.mp hempty
      have hline : Xml.Writable "  <graph edgedefault=\"directed\" />" := by decide
      rw [Writable, hnil]
      simp [hline]
    next =>
      have hmarks : Xml.Writable "  <graph edgedefault=\"directed\">" ∧
          Xml.Writable "  </graph>" := by decide
      simp only [List.forall_mem_append, List.forall_mem_flatMap, List.mem_singleton, forall_eq,
        writable_nodeLines, writable_edgeLines, hmarks, true_and, and_true]
      exact and_iff_left_of_imp hends
  have hheader : Xml.Writable "<?xml version='1.0' encoding='utf-8'?>" ∧
      Xml.Writable ("<graphml xmlns=\"http://graphml.graphdrawing.org/xmlns\" " ++
        "xmlns:xsi=\"http://www.w3.org/2001/XMLSchema-instance\" " ++
        "xsi:schemaLocation=\"http://graphml.graphdrawing.org/xmlns " ++
        "http://graphml.graphdrawing.org/xmlns/1.0/graphml.xsd\">") ∧
      Xml.Writable "</graphml>" := by
    simp only [Xml.Writable, ← List.all_eq_true, String.toList_append, String.reduceToList]
    decide +kernel
  rw [Xml.Writable, toList_graphML, forall_linesText, documentLines]
  rw [List.forall_mem_append, List.forall_mem_append, List.forall_mem_append, hbody]
  simp only [List.forall_mem_cons, List.mem_singleton, forall_eq, hheader, true_and, and_true]
  exact and_iff_right (writable_keyLines g)

end Graph

end DexRefs
