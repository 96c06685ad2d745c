import DexRefs.Keyed
import DexRefs.Reference

/-!
The reference graph of a listing.  Classes are known by their descriptors and members by their
texts; a class declares its members, and a member uses the listed classes that are element types
of its own types.  Nodes and edges keep the order in which they first came; coming again, they are
updated in their place.
-/

set_option autoImplicit false

namespace DexRefs

inductive NodeKind where
  | cls
  | field
  | method
  deriving DecidableEq, Repr

def NodeKind.name : NodeKind → String
  | cls => "class"
  | field => "field"
  | method => "method"

inductive Relation where
  | declares
  | uses
  deriving DecidableEq, Repr

def Relation.name : Relation → String
  | declares => "declares"
  | uses => "uses"

/-- What is known of a node.  Only graphs of several images tell the image a node comes from. -/
structure Node where
  kind : NodeKind
  internal : Bool
  label : String
  source : Option String := none
  deriving DecidableEq, Repr

structure Graph where
  nodes : List (String × Node) := []
  edges : List ((String × String) × Relation) := []
  deriving DecidableEq, Repr

namespace Graph

def addNode (g : Graph) (id : String) (n : Node) : Graph :=
  { g with nodes := putEntry id n g.nodes }

def addEdge (g : Graph) (source target : String) (r : Relation) : Graph :=
  { g with edges := putEntry (source, target) r g.edges }

def node? (g : Graph) (id : String) : Option Node :=
  g.nodes.lookup id

def sortedEdges (g : Graph) : List ((String × String) × Relation) :=
  g.nodes.flatMap fun n => g.edges.filter (·.1.1 = n.1)

def addClass (g : Graph) (c : ClassRef) : Graph :=
  g.addNode c.name { kind := .cls, internal := c.internal, label := c.dotName }

/-- A member uses the element type of a mentioned descriptor where that is a class node now. -/
def linkUse (member : String) (g : Graph) (descriptor : String) : Graph :=
  let target := Descriptor.element descriptor
  if (g.node? target).any (·.kind = .cls) then g.addEdge member target .uses else g

def addMember (g : Graph) (owner id : String) (n : Node) (mentioned : List String) : Graph :=
  mentioned.foldl (linkUse id) ((g.addNode id n).addEdge owner id .declares)

def addField (owner : String) (g : Graph) (f : FieldRef) : Graph :=
  g.addMember owner f.text { kind := .field, internal := f.internal, label := f.name }
    [f.typeName]

def addMethod (owner : String) (g : Graph) (m : MethodRef) : Graph :=
  g.addMember owner m.text { kind := .method, internal := m.internal, label := m.name }
    (m.argumentTypes ++ [m.returnType])

def addMembers (g : Graph) (c : ClassRef) : Graph :=
  c.methods.foldl (addMethod c.name) (c.fields.foldl (addField c.name) g)

def ofListing (classes : List ClassRef) : Graph :=
  classes.foldl addMembers (classes.foldl addClass {})

def fromSource (g : Graph) (source : String) : Graph :=
  { g with nodes := g.nodes.map fun p => (p.1, { p.2 with source := some source }) }

/-- Both graphs; where they share a node or an edge, the second one tells its attributes. -/
def union (g h : Graph) : Graph where
  nodes := h.nodes.foldl (fun ns p => putEntry p.1 p.2 ns) g.nodes
  edges := h.sortedEdges.foldl (fun es p => putEntry p.1 p.2 es) g.edges

end Graph

end DexRefs
