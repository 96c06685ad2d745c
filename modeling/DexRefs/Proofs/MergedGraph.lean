import DexRefs.Report.Graph
import DexRefs.Proofs.ReferenceGraph

/-!
The graph of a whole scan.  A union adds what is new and takes the attributes of what is not from
its second graph; over the decoded images of a scan, each node and each edge is told of by the last
image that has it.
-/

set_option autoImplicit false

namespace DexRefs

namespace Graph

def relation? (g : Graph) (source target : String) : Option Relation :=
  valueOf? g.edges (source, target)

variable {g h : Graph}

theorem nodes_union : (g.union h).nodes = putEntries g.nodes h.nodes := rfl

theorem edges_union : (g.union h).edges = putEntries g.edges h.sortedEdges := rfl

theorem node?_eq_none {id : String} : g.node? id = none ↔ id ∉ g.nodes.map Prod.fst := by
  rw [mem_keys_iff_lookup, node?, Option.eq_none_iff_forall_ne_some, not_exists]

theorem relation?_eq_none {x y : String} :
    g.relation? x y = none ↔ (x, y) ∉ g.edges.map Prod.fst := by
  rw [mem_keys_iff_lookup, relation?, valueOf?, Option.eq_none_iff_forall_ne_some, not_exists]

theorem Simple.mem_keys_sortedEdges (hh : h.Simple) {e : String × String} :
    e ∈ h.sortedEdges.map Prod.fst ↔ e ∈ h.edges.map Prod.fst :=
  (hh.sortedEdges_perm.map Prod.fst).mem_iff

theorem Simple.nodup_sortedEdges (hh : h.Simple) : (h.sortedEdges.map Prod.fst).Nodup :=
  (hh.sortedEdges_perm.map Prod.fst).nodup_iff.mpr hh.edges

theorem Simple.lookup_sortedEdges (hh : h.Simple) {x y : String} {r : Relation}
    (hr : h.relation? x y = some r) : valueOf? h.sortedEdges (x, y) = some r := by
  rw [relation?, valueOf?, ← mem_iff_lookup hh.edges] at hr
  rw [valueOf?, ← mem_iff_lookup hh.nodup_sortedEdges]
  exact hh.sortedEdges_perm.mem_iff.mpr hr

theorem mem_nodes_union {id : String} : id ∈ (g.union h).nodes.map Prod.fst ↔
    id ∈ g.nodes.map Prod.fst ∨ id ∈ h.nodes.map Prod.fst := by
  rw [nodes_union, mem_keys_putEntries]

theorem mem_edges_union (hh : h.Simple) {e : String × String} :
    e ∈ (g.union h).edges.map Prod.fst ↔
      e ∈ g.edges.map Prod.fst ∨ e ∈ h.edges.map Prod.fst := by
  rw [edges_union, mem_keys_putEntries, hh.mem_keys_sortedEdges]

theorem node?_union_left {id : String} (hid : h.node? id = none) :
    (g.union h).node? id = g.node? id :=
  lookup_putEntries_of_notMem (node?_eq_none.mp hid)

theorem node?_union_right (hh : h.Simple) {id : String} {n : Node} (hn : h.node? id = some n) :
    (g.union h).node? id = some n :=
  lookup_putEntries_of_nodup hh.nodes hn

theorem relation?_union_left (hh : h.Simple) {x y : String} (hxy : h.relation? x y = none) :
    (g.union h).relation? x y = g.relation? x y :=
  lookup_putEntries_of_notMem fun hm => relation?_eq_none.mp hxy (hh.mem_keys_sortedEdges.mp hm)

theorem relation?_union_right (hh : h.Simple) {x y : String} {r : Relation}
    (hr : h.relation? x y = some r) : (g.union h).relation? x y = some r :=
  lookup_putEntries_of_nodup hh.nodup_sortedEdges (hh.lookup_sortedEdges hr)

theorem Simple.union (hg : g.Simple) (hh : h.Simple) : (g.union h).Simple := by
  have hends {e : (String × String) × Relation} (he : e ∈ (g.union h).edges) :
      e ∈ g.edges ∨ e ∈ h.edges :=
    (mem_of_mem_putEntries he).imp_right hh.sortedEdges_perm.mem_iff.mp
  refine ⟨nodup_putEntries hg.nodes, nodup_putEntries hg.edges, fun e he => ?_, fun e he => ?_⟩
  · exact mem_nodes_union.mpr ((hends he).imp (hg.sources e) (hh.sources e))
  · exact mem_nodes_union.mpr ((hends he).imp (hg.targets e) (hh.targets e))

theorem nodes_fromSource (g : Graph) (source : String) :
    (g.fromSource source).nodes.map Prod.fst = g.nodes.map Prod.fst := by
  simp [fromSource]

theorem node?_fromSource (g : Graph) (source id : String) : (g.fromSource source).node? id =
    (g.node? id).map fun n => { n with source := some source } := by
  rw [node?, node?, fromSource]
  induction g.nodes with
  | nil => rfl
  | cons p ps ih =>
    rw [List.map_cons, lookup_cons_if, lookup_cons_if, ih]
    split <;> rfl

theorem Simple.fromSource (hg : g.Simple) (source : String) : (g.fromSource source).Simple := by
  have hnodes := nodes_fromSource g source
  exact ⟨hnodes ▸ hg.nodes, hg.edges, fun e he => hnodes ▸ hg.sources e he,
    fun e he => hnodes ▸ hg.targets e he⟩

end Graph

namespace Report

open DexRefs.Graph

theorem simple_imageGraph (i : ImageResult) : (imageGraph i).Simple :=
  (simple_ofListing i.classes).fromSource i.source

def unite (g : Graph) (is : List ImageResult) : Graph :=
  is.foldl (fun g i => g.union (imageGraph i)) g

theorem graph_eq (r : ScanResult) : graph r = unite {} r.decoded := rfl

variable {g : Graph} {is : List ImageResult}

theorem unite_append (g : Graph) (is js : List ImageResult) :
    unite g (is ++ js) = unite (unite g is) js := List.foldl_append

theorem simple_unite (hg : g.Simple) : (unite g is).Simple := by
  induction is generalizing g with
  | nil => exact hg
  | cons i is ih => exact ih (hg.union (simple_imageGraph i))

theorem nodes_unite : (unite g is).nodes =
    putEntries g.nodes (is.flatMap fun i => (imageGraph i).nodes) := by
  induction is generalizing g with
  | nil => rfl
  | cons i is ih => rw [List.flatMap_cons, putEntries_append]; exact ih

theorem mem_edges_unite {e : String × String} : e ∈ (unite g is).edges.map Prod.fst ↔
    e ∈ g.edges.map Prod.fst ∨
      ∃ i ∈ is, e ∈ (ofListing i.classes).edges.map Prod.fst := by
  induction is generalizing g with
  | nil => simp [unite]
  | cons i is ih =>
    have hi := mem_edges_union (g := g) (e := e) (simple_imageGraph i)
    have hu : unite g (i :: is) = unite (g.union (imageGraph i)) is := rfl
    rw [hu, ih, hi, or_assoc]
    simp [imageGraph, fromSource]

theorem node?_unite {id : String} (h : ∀ i ∈ is, (ofListing i.classes).node? id = none) :
    (unite g is).node? id = g.node? id := by
  induction is generalizing g with
  | nil => rfl
  | cons i is ih =>
    have hi : (imageGraph i).node? id = none := by
      rw [imageGraph, node?_fromSource, h i (by simp), Option.map_none]
    exact (ih fun j hj => h j (by simp [hj])).trans (node?_union_left hi)

theorem relation?_unite {x y : String}
    (h : ∀ i ∈ is, (ofListing i.classes).relation? x y = none) :
    (unite g is).relation? x y = g.relation? x y := by
  induction is generalizing g with
  | nil => rfl
  | cons i is ih =>
    exact (ih fun j hj => h j (by simp [hj])).trans
      (relation?_union_left (simple_imageGraph i) (h i (by simp)))

theorem node?_unite_last {before after : List ImageResult} {i : ImageResult} {id : String}
    {n : Node} (hn : (ofListing i.classes).node? id = some n)
    (hlast : ∀ j ∈ after, (ofListing j.classes).node? id = none) :
    (unite g (before ++ i :: after)).node? id = some { n with source := some i.source } := by
  rw [unite_append]
  refine (node?_unite hlast).trans (node?_union_right (simple_imageGraph i) ?_)
  rw [imageGraph, node?_fromSource, hn, Option.map_some]

theorem relation?_unite_last {before after : List ImageResult} {i : ImageResult} {x y : String}
    {r : Relation} (hr : (ofListing i.classes).relation? x y = some r)
    (hlast : ∀ j ∈ after, (ofListing j.classes).relation? x y = none) :
    (unite g (before ++ i :: after)).relation? x y = some r := by
  rw [unite_append]
  exact (relation?_unite hlast).trans (relation?_union_right (simple_imageGraph i) hr)

/-- Nodes stay in the order in which images first have them. -/
theorem nodes_graph (r : ScanResult) : (graph r).nodes.map Prod.fst =
    (r.decoded.flatMap fun i => (ofListing i.classes).nodes.map Prod.fst).eraseDups := by
  have hi (i : ImageResult) : (imageGraph i).nodes.map Prod.fst =
      (ofListing i.classes).nodes.map Prod.fst := nodes_fromSource _ _
  rw [graph_eq, nodes_unite, keys_putEntries, List.map_flatMap]
  simp only [hi]

theorem graph_concat (r : ScanResult) {i : ImageResult} (hi : i.ok = true) :
    graph { r with results := r.results ++ [i] } = (graph r).union (imageGraph i) := by
  have hd : ({ r with results := r.results ++ [i] } : ScanResult).decoded = r.decoded ++ [i] := by
    simp [ScanResult.decoded, hi]
  rw [graph_eq, hd, unite_append]
  rfl

theorem decoded_of_failed (r : ScanResult) {before after : List ImageResult} {i : ImageResult}
    (hr : r.results = before ++ i :: after) (hi : i.ok = false) :
    ({ r with results := before ++ after } : ScanResult).decoded = r.decoded := by
  simp [ScanResult.decoded, hr, hi]

/-- The graph of a scan is the union of the graphs of its decoded images: the last image that has a
node tells its attributes and its source, the last one that has an edge tells its relation, and one
more image changes only what it has itself. -/
theorem graph_merged (r : ScanResult) :
    let g := graph r
    let image (i : ImageResult) := ofListing i.classes
    g.Simple ∧
    (∀ id, id ∈ g.nodes.map Prod.fst ↔ ∃ i ∈ r.decoded, id ∈ (image i).nodes.map Prod.fst) ∧
    (∀ e, e ∈ g.edges.map Prod.fst ↔ ∃ i ∈ r.decoded, e ∈ (image i).edges.map Prod.fst) ∧
    (∀ before i after, r.decoded = before ++ i :: after →
      (∀ id n, (image i).node? id = some n → (∀ j ∈ after, (image j).node? id = none) →
        g.node? id = some { n with source := some i.source }) ∧
      ∀ x y rel, (image i).relation? x y = some rel →
        (∀ j ∈ after, (image j).relation? x y = none) → g.relation? x y = some rel) ∧
    g.nodes.map Prod.fst =
      (r.decoded.flatMap fun i => (image i).nodes.map Prod.fst).eraseDups ∧
    (∀ before i after, r.results = before ++ i :: after → i.ok = false →
      graph { r with results := before ++ after } = g) ∧
    ∀ i : ImageResult, i.ok = true →
      let g' := graph { r with results := r.results ++ [i] }
      g.nodes.map Prod.fst <+: g'.nodes.map Prod.fst ∧
      g.edges.map Prod.fst <+: g'.edges.map Prod.fst ∧
      (∀ id, (image i).node? id = none → g'.node? id = g.node? id) ∧
      ∀ x y, (image i).relation? x y = none → g'.relation? x y = g.relation? x y := by
  intro g image
  have hempty : ({} : Graph).Simple := ⟨List.nodup_nil, List.nodup_nil, by simp, by simp⟩
  refine ⟨simple_unite hempty, fun id => ?_, fun e => ?_, fun before i after hd => ⟨?_, ?_⟩,
    nodes_graph r, fun before i after hr hi => ?_, fun i hi => ?_⟩
  · rw [nodes_graph, List.mem_eraseDups, List.mem_flatMap]
  · rw [show g = _ from graph_eq r, mem_edges_unite]
    simp [image]
  · intro id n hn hlast
    rw [show g = _ from graph_eq r, hd]
    exact node?_unite_last hn hlast
  · intro x y rel hrel hlast
    rw [show g = _ from graph_eq r, hd]
    exact relation?_unite_last hrel hlast
  · rw [graph_eq, decoded_of_failed r hr hi]
    rfl
  · intro g'
    rw [show g' = _ from graph_concat r hi]
    refine ⟨keys_prefix_putEntries, keys_prefix_putEntries, fun id hid => ?_, fun x y hxy =>
      relation?_union_left (simple_imageGraph i) hxy⟩
    rw [node?_union_left]
    rw [imageGraph, node?_fromSource, hid, Option.map_none]

def definingImage : ImageResult where
  source := "classes.dex"
  classes := [{ name := "LA;", internal := true, fields := [⟨"LA;", "b", "I", true⟩] }]

def unreadImage : ImageResult where
  source := "classes2.dex"
  classes := [{ name := "LC;" }]
  error := some ""

def mentioningImage : ImageResult where
  source := "classes3.dex"
  classes := [{ name := "LA;" }, { name := "I", internal := true }]

def redefined : ScanResult where
  target := "app.apk"
  started := .date ⟨2024, 1, 2⟩
  results := [definingImage, unreadImage, mentioningImage]

theorem graph_merged_redefined :
    (graph redefined).node? "LA;" = some ⟨.cls, false, "A", some "classes3.dex"⟩ ∧
      (graph redefined).node? "A.b:I" = some ⟨.field, true, "b", some "classes.dex"⟩ ∧
      (graph redefined).relation? "LA;" "A.b:I" = some .declares ∧
      (graph redefined).nodes.map Prod.fst = ["LA;", "A.b:I", "I"] := by
  obtain ⟨-, -, -, hlast, horder, -⟩ := graph_merged redefined
  have hfirst := hlast [] definingImage [mentioningImage] rfl
  have hthird := hlast [definingImage] mentioningImage [] rfl
  refine ⟨?_, ?_, ?_, horder.trans ?_⟩
  · exact hthird.1 "LA;" ⟨.cls, false, "A", none⟩ (by decide) (by simp)
  · exact hfirst.1 "A.b:I" ⟨.field, true, "b", none⟩ (by decide) (by decide)
  · exact hfirst.2 "LA;" "A.b:I" .declares (by decide) (by decide)
  · decide

end Report

end DexRefs
