import DexRefs.Graph.Basic
import DexRefs.Text.Numerals

/-!
Reference graphs as GraphML.  Each attribute has a key, numbered in the order of first use, nodes
before edges, and declared in descending order.
-/

set_option autoImplicit false

namespace DexRefs

def xmlTextChar (c : Char) : List Char :=
  if c = '&' then "&amp;".toList
  else if c = '<' then "&lt;".toList
  else if c = '>' then "&gt;".toList
  else [c]

def xmlAttributeChar (c : Char) : List Char :=
  if c = '\x22' then "&quot;".toList
  else if c = '\r' then "&#13;".toList
  else if c = '\n' then "&#10;".toList
  else if c = '\t' then "&#09;".toList
  else xmlTextChar c

def xmlText (s : String) : String :=
  String.ofList (s.toList.flatMap xmlTextChar)

def xmlAttribute (name value : String) : String :=
  " " ++ name ++ "=\"" ++ String.ofList (value.toList.flatMap xmlAttributeChar) ++ "\""

def Node.attributes (n : Node) : List ((String × String) × String) :=
  [(("kind", "string"), n.kind.name),
   (("internal", "boolean"), if n.internal then "True" else "False"),
   (("label", "string"), n.label)] ++
  match n.source with
  | some s => [(("source", "string"), s)]
  | none => []

namespace Graph

def nodeKeys (g : Graph) : List (String × String) :=
  (g.nodes.flatMap fun p => p.2.attributes.map (·.1)).eraseDups

def edgeKeys (g : Graph) : List (String × String) :=
  if g.edges.isEmpty then [] else [("relation", "string")]

def keyLine (number : Nat) (element : String) (key : String × String) : String :=
  "  <key" ++ xmlAttribute "id" ("d" ++ decimal number) ++ xmlAttribute "for" element ++
    xmlAttribute "attr.name" key.1 ++ xmlAttribute "attr.type" key.2 ++ " />"

def keyLines (g : Graph) : List String :=
  let keys := g.nodeKeys.map (("node", ·)) ++ g.edgeKeys.map (("edge", ·))
  (keys.zipIdx.map fun k => keyLine k.2 k.1.1 k.1.2).reverse

def dataLine (number : Nat) (value : String) : String :=
  "      <data" ++ xmlAttribute "key" ("d" ++ decimal number) ++
    if value.isEmpty then " />" else ">" ++ xmlText value ++ "</data>"

def nodeLines (keys : List (String × String)) (id : String) (n : Node) : List String :=
  ["    <node" ++ xmlAttribute "id" id ++ ">"] ++
    n.attributes.map (fun a => dataLine (keys.idxOf a.1) a.2) ++ ["    </node>"]

def edgeLines (key : Nat) (source target : String) (r : Relation) : List String :=
  ["    <edge" ++ xmlAttribute "source" source ++ xmlAttribute "target" target ++ ">",
   dataLine key r.name, "    </edge>"]

def bodyLines (g : Graph) : List String :=
  let keys := g.nodeKeys
  if g.nodes.isEmpty then ["  <graph edgedefault=\"directed\" />"]
  else
    ["  <graph edgedefault=\"directed\">"] ++
      g.nodes.flatMap (fun p => nodeLines keys p.1 p.2) ++
      g.sortedEdges.flatMap (fun e => edgeLines keys.length e.1.1 e.1.2 e.2) ++ ["  </graph>"]

def graphML (g : Graph) : String :=
  let lines :=
    ["<?xml version='1.0' encoding='utf-8'?>",
     "<graphml xmlns=\"http://graphml.graphdrawing.org/xmlns\" " ++
       "xmlns:xsi=\"http://www.w3.org/2001/XMLSchema-instance\" " ++
       "xsi:schemaLocation=\"http://graphml.graphdrawing.org/xmlns " ++
       "http://graphml.graphdrawing.org/xmlns/1.0/graphml.xsd\">"] ++
    g.keyLines ++ g.bodyLines ++ ["</graphml>"]
  String.join (lines.map (· ++ "\n"))

end Graph

end DexRefs
