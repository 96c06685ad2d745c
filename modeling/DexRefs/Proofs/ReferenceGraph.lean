import DexRefs.Graph.Basic
import DexRefs.Proofs.Entries
import DexRefs.Proofs.MemberText
import Mathlib.Data.List.Perm.Basic

/-!
What the reference graph of a listing holds.  Members are followed one by one: what each of them
writes depends on the nodes alone, and of these only on which of them are classes still.
-/

set_option autoImplicit false

namespace DexRefs

def Member.node : Member → Node
  | field f => { kind := .field, internal := f.internal, label := f.name }
  | method m => { kind := .method, internal := m.internal, label := m.name }

theorem Member.node_kind (m : Member) : m.node.kind ≠ .cls := by
  cases m <;> simp [node]

def ClassRef.node (c : ClassRef) : Node :=
  { kind := .cls, internal := c.internal, label := c.dotName }

/-- The members of a listing, each with the name of the class that holds it. -/
def owned (classes : List ClassRef) : List (String × Member) :=
  classes.flatMap fun c => c.members.map (c.name, ·)

theorem mem_owned {classes : List ClassRef} {owner : String} {m : Member} :
    (owner, m) ∈ owned classes ↔ ∃ c ∈ classes, c.name = owner ∧ m ∈ c.members := by
  simp [owned, and_comm]

theorem map_snd_owned (classes : List ClassRef) :
    (owned classes).map Prod.snd = classes.flatMap ClassRef.members := by
  simp [owned, List.map_flatMap, Function.comp_def]

namespace Graph

/-- Each node and each edge is there once, and edges join nodes. -/
structure Simple (g : Graph) : Prop where
  nodes : (g.nodes.map Prod.fst).Nodup
  edges : (g.edges.map Prod.fst).Nodup
  sources : ∀ e ∈ g.edges, e.1.1 ∈ g.nodes.map Prod.fst
  targets : ∀ e ∈ g.edges, e.1.2 ∈ g.nodes.map Prod.fst

/-- Listing edges by their sources neither loses nor repeats one. -/
theorem Simple.sortedEdges_perm {g : Graph} (h : g.Simple) : g.sortedEdges.Perm g.edges := by
  have hedges : g.edges.Nodup := h.edges.of_map
  refine (List.perm_ext_iff_of_nodup ?_ hedges).mpr fun e => ?_
  · refine List.nodup_flatMap.mpr ⟨fun n _ => hedges.filter _, ?_⟩
    refine (List.pairwise_map.mp h.nodes).imp fun {n n'} hne => ?_
    simp only [List.disjoint_left, List.mem_filter, decide_eq_true_eq]
    exact fun e he he' => hne (he.2.symm.trans he'.2)
  · simp only [sortedEdges, List.mem_flatMap, List.mem_filter, decide_eq_true_eq]
    constructor
    · rintro ⟨n, -, he, -⟩
      exact he
    · intro he
      obtain ⟨n, hn, hs⟩ := List.mem_map.mp (h.sources e he)
      exact ⟨n, hn, he, hs.symm⟩

def isClass (g : Graph) (id : String) : Bool :=
  (g.node? id).any (·.kind = .cls)

def addOwned (g : Graph) (p : String × Member) : Graph :=
  g.addMember p.1 p.2.text p.2.node p.2.types

/-- What a member writes, given which of its types are classes. -/
def written (isClass : String → Bool) (p : String × Member) :
    List ((String × String) × Relation) :=
  ((p.1, p.2.text), .declares) ::
    ((p.2.types.map Descriptor.element).filter isClass).map fun d => ((p.2.text, d), .uses)

theorem addMembers_eq (g : Graph) (c : ClassRef) :
    g.addMembers c = (c.members.map (c.name, ·)).foldl addOwned g := by
  simp only [ClassRef.members, List.map_append, List.map_map, List.foldl_append, List.foldl_map]
  rfl

theorem ofListing_eq (classes : List ClassRef) :
    ofListing classes = (owned classes).foldl addOwned (classes.foldl addClass {}) := by
  have hfold : addMembers = fun g c => (c.members.map (c.name, ·)).foldl addOwned g := by
    funext g c
    exact addMembers_eq g c
  rw [ofListing, hfold, owned, List.foldl_flatMap]

theorem foldl_addClass (classes : List ClassRef) (g : Graph) : classes.foldl addClass g =
    { g with nodes := putEntries g.nodes (classes.map fun c => (c.name, c.node)) } := by
  induction classes generalizing g with
  | nil => rfl
  | cons c classes ih => rw [List.foldl_cons, ih]; rfl

theorem foldl_linkUse (id : String) (ds : List String) (g : Graph) : ds.foldl (linkUse id) g =
    { g with
      edges := putEntries g.edges
        (((ds.map Descriptor.element).filter g.isClass).map fun d => ((id, d), .uses)) } := by
  induction ds generalizing g with
  | nil => rfl
  | cons d ds ih =>
    rw [List.foldl_cons, ih]
    by_cases hd : g.isClass (Descriptor.element d) = true
    · have hlink : linkUse id g d = g.addEdge id (Descriptor.element d) .uses := if_pos hd
      rw [hlink, List.map_cons, List.filter_cons_of_pos hd]
      rfl
    · have hlink : linkUse id g d = g := if_neg hd
      rw [hlink, List.map_cons, List.filter_cons_of_neg hd]

theorem addOwned_eq (g : Graph) (p : String × Member) : g.addOwned p =
    { nodes := putEntry p.2.text p.2.node g.nodes
      edges := putEntries g.edges (written (g.addNode p.2.text p.2.node).isClass p) } := by
  rw [addOwned, addMember, foldl_linkUse]
  rfl

theorem isClass_eq (g : Graph) (id : String) :
    g.isClass id = (g.nodes.lookup id).any (·.kind = .cls) := rfl

theorem isClass_addOwned (g : Graph) (p : String × Member) (id : String) :
    (g.addOwned p).isClass id = (g.isClass id && id ≠ p.2.text) := by
  simp only [addOwned_eq, isClass_eq, lookup_putEntry]
  by_cases h : id = p.2.text
  · simp [h, p.2.node_kind]
  · simp [h]

theorem edges_addOwned (g : Graph) (p : String × Member) :
    (g.addOwned p).edges = putEntries g.edges (written (g.addOwned p).isClass p) := by
  rw [addOwned_eq]
  rfl

theorem nodes_foldl_addOwned (l : List (String × Member)) (g : Graph) :
    (l.foldl addOwned g).nodes =
      putEntries g.nodes (l.map fun p => (p.2.text, p.2.node)) := by
  induction l generalizing g with
  | nil => rfl
  | cons p l ih => rw [List.foldl_cons, ih, addOwned_eq]; rfl

/-- Classes come first, so that a member never finds its name taken by a later class. -/
theorem nodes_ofListing (classes : List ClassRef) : (ofListing classes).nodes =
    putEntries [] (classes.map (fun c => (c.name, c.node)) ++
      (classes.flatMap ClassRef.members).map fun m => (m.text, m.node)) := by
  rw [ofListing_eq, nodes_foldl_addOwned, foldl_addClass, putEntries_append, ← map_snd_owned,
    List.map_map]
  rfl

variable {names : List String}

theorem written_subset {isClass : String → Bool} (h : ∀ id, isClass id = true → id ∈ names)
    (p : String × Member) : written isClass p ⊆ written (· ∈ names) p := by
  refine List.cons_subset_cons _ (List.map_subset _ fun d hd => ?_)
  rw [List.mem_filter] at hd ⊢
  exact ⟨hd.1, by simpa using h d hd.2⟩

/-- Every edge is one that some member writes, given that classes are among `names`. -/
theorem mem_edges_foldl_addOwned {l : List (String × Member)} {g : Graph}
    (hg : ∀ id, g.isClass id = true → id ∈ names) {e : (String × String) × Relation}
    (he : e ∈ (l.foldl addOwned g).edges) :
    e ∈ g.edges ∨ ∃ p ∈ l, e ∈ written (· ∈ names) p := by
  induction l generalizing g with
  | nil => exact .inl he
  | cons p l ih =>
    have hg' (id : String) (h : (g.addOwned p).isClass id = true) : id ∈ names := by
      rw [isClass_addOwned, Bool.and_eq_true] at h
      exact hg id h.1
    obtain he | ⟨q, hq, he⟩ := ih hg' he
    · rw [edges_addOwned] at he
      obtain he | he := mem_of_mem_putEntries he
      · exact .inl he
      · exact .inr ⟨p, by simp, written_subset hg' p he⟩
    · exact .inr ⟨q, by simp [hq], he⟩

theorem edges_foldl_addOwned {l : List (String × Member)} {g : Graph}
    (hg : ∀ id, g.isClass id = decide (id ∈ names)) (hl : ∀ p ∈ l, p.2.text ∉ names) :
    (l.foldl addOwned g).edges = putEntries g.edges (l.flatMap (written (· ∈ names))) := by
  induction l generalizing g with
  | nil => rfl
  | cons p l ih =>
    have hg' (id : String) : (g.addOwned p).isClass id = decide (id ∈ names) := by
      rw [isClass_addOwned, hg]
      by_cases h : id = p.2.text
      · simp [h, hl p (by simp)]
      · simp [h]
    rw [List.foldl_cons, ih hg' fun q hq => hl q (by simp [hq]), edges_addOwned, funext hg',
      List.flatMap_cons, putEntries_append]

theorem nodup_edges_foldl_addOwned {l : List (String × Member)} {g : Graph}
    (h : (g.edges.map Prod.fst).Nodup) : ((l.foldl addOwned g).edges.map Prod.fst).Nodup := by
  induction l generalizing g with
  | nil => exact h
  | cons p l ih =>
    refine ih ?_
    rw [edges_addOwned]
    exact nodup_putEntries h

theorem mem_written {p : String × Member} {x y : String} {r : Relation} :
    ((x, y), r) ∈ written (· ∈ names) p ↔
      r = .declares ∧ x = p.1 ∧ y = p.2.text ∨
        r = .uses ∧ x = p.2.text ∧ y ∈ names ∧ y ∈ p.2.types.map Descriptor.element := by
  simp only [written, List.mem_cons, List.mem_map, List.mem_filter, decide_eq_true_eq,
    Prod.mk.injEq]
  grind

theorem isClass_classes (classes : List ClassRef) (id : String) :
    (classes.foldl addClass {}).isClass id = decide (id ∈ classes.map ClassRef.name) := by
  have hkeys : id ∈ classes.map ClassRef.name ↔
      ∃ n, (putEntries [] (classes.map fun c => (c.name, c.node))).lookup id = some n := by
    rw [← mem_keys_iff_lookup, mem_keys_putEntries]
    simp
  rw [foldl_addClass, isClass_eq]
  cases hn : (putEntries [] (classes.map fun c => (c.name, c.node))).lookup id with
  | none => simp [hkeys, hn]
  | some n =>
    have hnodup : ((putEntries [] (classes.map fun c => (c.name, c.node))).map Prod.fst).Nodup :=
      nodup_putEntries (by simp)
    obtain hm | hm := mem_of_mem_putEntries ((mem_iff_lookup hnodup).mpr hn)
    · cases hm
    · obtain ⟨c, -, hc⟩ := List.mem_map.mp hm
      cases hc
      simpa [ClassRef.node] using hkeys.mpr ⟨_, hn⟩

theorem mem_nodes_ofListing {classes : List ClassRef} {id : String} :
    id ∈ (ofListing classes).nodes.map Prod.fst ↔ id ∈ classes.map ClassRef.name ∨
      id ∈ (classes.flatMap ClassRef.members).map Member.text := by
  rw [nodes_ofListing, mem_keys_putEntries]
  simp

theorem of_mem_edges_ofListing {classes : List ClassRef} {e : (String × String) × Relation}
    (he : e ∈ (ofListing classes).edges) :
    ∃ p ∈ owned classes, e ∈ written (· ∈ classes.map ClassRef.name) p := by
  rw [ofListing_eq] at he
  have hg (id : String) (h : (classes.foldl addClass {}).isClass id = true) :
      id ∈ classes.map ClassRef.name := by simpa [isClass_classes] using h
  obtain he | he := mem_edges_foldl_addOwned hg he
  · rw [foldl_addClass] at he
    cases he
  · exact he

theorem simple_ofListing (classes : List ClassRef) : (ofListing classes).Simple := by
  have hends {x y : String} {r : Relation} (he : ((x, y), r) ∈ (ofListing classes).edges) :
      x ∈ (ofListing classes).nodes.map Prod.fst ∧ y ∈ (ofListing classes).nodes.map Prod.fst := by
    obtain ⟨⟨owner, m⟩, hp, he⟩ := of_mem_edges_ofListing he
    obtain ⟨c, hc, rfl, hm⟩ := mem_owned.mp hp
    have htext : m.text ∈ (classes.flatMap ClassRef.members).map Member.text :=
      List.mem_map_of_mem (List.mem_flatMap.mpr ⟨c, hc, hm⟩)
    rw [mem_nodes_ofListing, mem_nodes_ofListing]
    obtain ⟨-, rfl, rfl⟩ | ⟨-, rfl, hy, -⟩ := mem_written.mp he
    · exact ⟨.inl (List.mem_map_of_mem hc), .inr htext⟩
    · exact ⟨.inr htext, .inl hy⟩
  refine ⟨?_, ?_, fun e he => (hends he).1, fun e he => (hends he).2⟩
  · rw [nodes_ofListing]
    exact nodup_putEntries List.nodup_nil
  · rw [ofListing_eq]
    refine nodup_edges_foldl_addOwned ?_
    rw [foldl_addClass]
    exact List.nodup_nil

theorem head_element (d : String) : (Descriptor.element d).toList.head? ≠ some '[' := by
  rw [Descriptor.element, String.toList_ofList, Descriptor.elementChars]
  induction d.toList with
  | nil => simp
  | cons c cs ih => by_cases hc : c = '[' <;> simp [hc, ih]

/-- Where no member is called like a class, an edge is there if and only if a member writes it. -/
theorem mem_edges_ofListing {classes : List ClassRef}
    (h : ∀ m ∈ classes.flatMap ClassRef.members, m.text ∉ classes.map ClassRef.name)
    {e : (String × String) × Relation} : e ∈ (ofListing classes).edges ↔
      ∃ p ∈ owned classes, e ∈ written (· ∈ classes.map ClassRef.name) p := by
  have hl (p : String × Member) (hp : p ∈ owned classes) :
      p.2.text ∉ classes.map ClassRef.name := by
    refine h p.2 ?_
    rw [← map_snd_owned]
    exact List.mem_map_of_mem hp
  rw [ofListing_eq, edges_foldl_addOwned (isClass_classes classes) hl, foldl_addClass]
  rw [mem_putEntries_iff, List.mem_flatMap]
  rintro ⟨⟨x, y⟩, r⟩ hq ⟨⟨x', y'⟩, r'⟩ hq' hkey
  cases hkey
  have hends {r : Relation} (hq : ((x, y), r) ∈
      (owned classes).flatMap (written (· ∈ classes.map ClassRef.name))) :
      r = .declares ∧ x ∈ classes.map ClassRef.name ∨
        r = .uses ∧ x ∉ classes.map ClassRef.name := by
    obtain ⟨p, hp, hq⟩ := List.mem_flatMap.mp hq
    obtain ⟨hr, rfl, -⟩ | ⟨hr, rfl, -⟩ := mem_written.mp hq
    · obtain ⟨c, hc, hname, -⟩ := mem_owned.mp hp
      exact .inl ⟨hr, hname ▸ List.mem_map_of_mem hc⟩
    · exact .inr ⟨hr, hl p hp⟩
  have hr := hends hq
  have hr' := hends hq'
  grind

theorem node?_last_member {classes : List ClassRef} {before after : List Member} {m : Member}
    (hm : classes.flatMap ClassRef.members = before ++ m :: after)
    (hlast : m.text ∉ after.map Member.text) :
    (ofListing classes).node? m.text = some m.node := by
  rw [node?, nodes_ofListing, hm, List.map_append, List.map_cons, ← List.append_assoc]
  exact lookup_putEntries_last _ (by simpa using hlast)

theorem node?_last_class {before after : List ClassRef} {c : ClassRef}
    (hmembers : ∀ m ∈ (before ++ c :: after).flatMap ClassRef.members, m.text ≠ c.name)
    (hlast : c.name ∉ after.map ClassRef.name) :
    (ofListing (before ++ c :: after)).node? c.name = some c.node := by
  rw [node?, nodes_ofListing, putEntries_append, lookup_putEntries_of_notMem,
    List.map_append, List.map_cons]
  · exact lookup_putEntries_last _ (by simpa using hlast)
  · simp only [List.map_map, List.mem_map]
    rintro ⟨m, hm, hname⟩
    exact hmembers m hm hname

/-- The reference graph of a listing: its classes and members, each told of by the last of its
name, and what uses what.  Where no member is called like a class, the edges are those from classes
to their members and from members to the listed classes that their types have as elements. -/
theorem ofListing_exact (classes : List ClassRef) :
    let g := ofListing classes
    let names := classes.map ClassRef.name
    let members := classes.flatMap ClassRef.members
    g.Simple ∧
    (∀ id, id ∈ g.nodes.map Prod.fst ↔ id ∈ names ∨ id ∈ members.map Member.text) ∧
    (∀ x y, ((x, y), .uses) ∈ g.edges → y ∈ names ∧ y.toList.head? ≠ some '[' ∧
      ∃ m ∈ members, m.text = x ∧ y ∈ m.types.map Descriptor.element) ∧
    (∀ before m after, members = before ++ m :: after → m.text ∉ after.map Member.text →
      g.node? m.text = some m.node) ∧
    ((∀ m ∈ members, m.text ∉ names) →
      (∀ x y r, ((x, y), r) ∈ g.edges ↔
        r = .declares ∧ (∃ c ∈ classes, ∃ m ∈ c.members, x = c.name ∧ y = m.text) ∨
        r = .uses ∧ ∃ m ∈ members, x = m.text ∧ y ∈ names ∧
          y ∈ m.types.map Descriptor.element) ∧
      ∀ before c after, classes = before ++ c :: after → c.name ∉ after.map ClassRef.name →
        g.node? c.name = some { kind := .cls, internal := c.internal, label := c.dotName }) := by
  intro g names members
  refine ⟨simple_ofListing classes, fun id => mem_nodes_ofListing, fun x y he => ?_,
    fun before m after => node?_last_member, fun h => ⟨fun x y r => ?_, ?_⟩⟩
  · obtain ⟨⟨owner, m⟩, hp, he⟩ := of_mem_edges_ofListing he
    obtain ⟨c, hc, -, hm⟩ := mem_owned.mp hp
    obtain ⟨hr, -⟩ | ⟨-, rfl, hy, hd⟩ := mem_written.mp he
    · cases hr
    · obtain ⟨d, -, rfl⟩ := List.mem_map.mp hd
      exact ⟨hy, head_element d, m, List.mem_flatMap.mpr ⟨c, hc, hm⟩, rfl, hd⟩
  · rw [mem_edges_ofListing h]
    constructor
    · rintro ⟨⟨owner, m⟩, hp, he⟩
      obtain ⟨c, hc, rfl, hm⟩ := mem_owned.mp hp
      obtain ⟨hr, hx, hy⟩ | ⟨hr, hx, hy, hd⟩ := mem_written.mp he
      · exact .inl ⟨hr, c, hc, m, hm, hx, hy⟩
      · exact .inr ⟨hr, m, List.mem_flatMap.mpr ⟨c, hc, hm⟩, hx, hy, hd⟩
    · rintro (⟨hr, c, hc, m, hm, hx, hy⟩ | ⟨hr, m, hm, hx, hy, hd⟩)
      · exact ⟨(c.name, m), mem_owned.mpr ⟨c, hc, rfl, hm⟩, mem_written.mpr (.inl ⟨hr, hx, hy⟩)⟩
      · obtain ⟨c, hc, hm⟩ := List.mem_flatMap.mp hm
        exact ⟨(c.name, m), mem_owned.mpr ⟨c, hc, rfl, hm⟩,
          mem_written.mpr (.inr ⟨hr, hx, hy, hd⟩)⟩
  · rintro before c after rfl hlast
    refine node?_last_class (fun m hm heq => h m hm ?_) hlast
    simp [names, heq]

def entwined : List ClassRef :=
  [{ name := "LA;", internal := true, fields := [⟨"LA;", "b", "[LB;", true⟩] },
    { name := "LB;", methods := [⟨"LB;", "f", ["LA;", "J"], "LB;", false⟩] },
    { name := "LA;" }]

theorem ofListing_exact_entwined :
    (∀ m ∈ entwined.flatMap ClassRef.members, m.text ∉ entwined.map ClassRef.name) ∧
      (("A.b:[LB;", "LB;"), .uses) ∈ (ofListing entwined).edges ∧
      (("B.f(LA;J)LB;", "LA;"), .uses) ∈ (ofListing entwined).edges ∧
      (ofListing entwined).node? "LA;" = some ⟨.cls, false, "A", none⟩ := by
  have hapart : ∀ m ∈ entwined.flatMap ClassRef.members,
      m.text ∉ entwined.map ClassRef.name := by decide
  obtain ⟨hedges, hclass⟩ := (ofListing_exact entwined).2.2.2.2 hapart
  refine ⟨hapart, (hedges _ _ _).mpr (.inr ⟨rfl, ?_⟩), (hedges _ _ _).mpr (.inr ⟨rfl, ?_⟩),
    hclass (entwined.take 2) { name := "LA;" } [] rfl (by simp)⟩
  · decide
  · decide

end Graph

end DexRefs
