import DexRefs.Graph.Usage
import DexRefs.Proofs.ReferenceGraph
import Mathlib.Data.Finset.Card

/-!
Which classes are used most.  The edges of the reference graph count the uses of a class by the
texts of the members that mention it, so neither order nor repetition of a listing has a part in
the ranking.
-/

set_option autoImplicit false

namespace DexRefs

/-- The texts of the members that mention a descriptor as the element of one of their types. -/
def users (classes : List ClassRef) (d : String) : Finset String :=
  (((classes.flatMap ClassRef.members).filter fun m =>
    d ∈ m.types.map Descriptor.element).map Member.text).toFinset

theorem mem_users {classes : List ClassRef} {d x : String} :
    x ∈ users classes d ↔ ∃ m ∈ classes.flatMap ClassRef.members,
      d ∈ m.types.map Descriptor.element ∧ m.text = x := by
  simp [users, and_assoc]

/-- The same classes with the same members in another order, or some of them once more. -/
inductive Rearranged : List ClassRef → List ClassRef → Prop where
  | order {cs cs' : List ClassRef} (h : cs.Perm cs') : Rearranged cs cs'
  | members {c : ClassRef} {cs : List ClassRef} {fields : List FieldRef}
      {methods : List MethodRef} (hf : c.fields.Perm fields) (hm : c.methods.Perm methods) :
      Rearranged (c :: cs) ({ c with fields, methods } :: cs)
  | again (c : ClassRef) (cs : List ClassRef) : Rearranged (c :: cs) (c :: c :: cs)
  | trans {cs cs' cs'' : List ClassRef} (h : Rearranged cs cs') (h' : Rearranged cs' cs'') :
      Rearranged cs cs''

theorem Rearranged.names {cs cs' : List ClassRef} (h : Rearranged cs cs') (d : String) :
    d ∈ cs'.map ClassRef.name ↔ d ∈ cs.map ClassRef.name := by
  induction h with
  | order h => exact (h.map _).mem_iff.symm
  | members => simp
  | again => simp
  | trans _ _ ih ih' => exact ih'.trans ih

theorem Rearranged.mem_members {cs cs' : List ClassRef} (h : Rearranged cs cs') (m : Member) :
    m ∈ cs'.flatMap ClassRef.members ↔ m ∈ cs.flatMap ClassRef.members := by
  induction h with
  | order h => simp [h.mem_iff]
  | members hf hm => simp [ClassRef.members, hf.mem_iff, hm.mem_iff]
  | again => simp
  | trans _ _ ih ih' => exact ih'.trans ih

theorem Rearranged.users {cs cs' : List ClassRef} (h : Rearranged cs cs') (d : String) :
    users cs' d = users cs d := by
  ext x
  simp only [mem_users, h.mem_members]

def Ahead (p q : String × Nat) : Prop :=
  q.2 < p.2 ∨ p.2 = q.2 ∧ p.1 < q.1

theorem Ahead.asymm {p q : String × Nat} (h : Ahead p q) : ¬ Ahead q p := by
  rintro (h' | ⟨hn', h'⟩)
  · obtain h | ⟨hn, -⟩ := h <;> omega
  · obtain h | ⟨-, h⟩ := h
    · omega
    · exact String.lt_asymm h h'

/-- The listed classes that some member uses, each once with its number of users, in order. -/
structure IsRanking (classes : List ClassRef) (l : List (String × Nat)) : Prop where
  mem_iff : ∀ d n, (d, n) ∈ l ↔
    d ∈ classes.map ClassRef.name ∧ 0 < n ∧ n = (users classes d).card
  once : (l.map Prod.fst).Nodup
  sorted : l.Pairwise Ahead

theorem IsRanking.unique {classes : List ClassRef} {l l' : List (String × Nat)}
    (h : IsRanking classes l) (h' : IsRanking classes l') : l = l' := by
  have hperm : l.Perm l' := by
    rw [List.perm_ext_iff_of_nodup h.once.of_map h'.once.of_map]
    rintro ⟨d, n⟩
    rw [h.mem_iff, h'.mem_iff]
  exact hperm.eq_of_pairwise (fun p q _ _ hpq hqp => (hpq.asymm hqp).elim) h.sorted h'.sorted

theorem IsRanking.rearranged {cs cs' : List ClassRef} {l : List (String × Nat)}
    (hl : IsRanking cs l) (h : Rearranged cs cs') : IsRanking cs' l := by
  refine ⟨fun d n => ?_, hl.once, hl.sorted⟩
  rw [hl.mem_iff, h.names, h.users]

theorem ranksBefore_trans (p q r : String × Nat) (hpq : ranksBefore p q = true)
    (hqr : ranksBefore q r = true) : ranksBefore p r = true := by
  simp only [ranksBefore, Bool.or_eq_true, Bool.and_eq_true, decide_eq_true_eq, beq_iff_eq] at *
  obtain hpq | ⟨hpq, hle⟩ := hpq <;> obtain hqr | ⟨hqr, hle'⟩ := hqr
  · exact .inl (by omega)
  · exact .inl (by omega)
  · exact .inl (by omega)
  · exact .inr ⟨hpq.trans hqr, String.le_trans hle hle'⟩

theorem ranksBefore_total (p q : String × Nat) : (ranksBefore p q || ranksBefore q p) = true := by
  simp only [ranksBefore, Bool.or_eq_true, Bool.and_eq_true, decide_eq_true_eq, beq_iff_eq]
  have := String.le_total p.1 q.1
  grind

theorem ahead_of_ranksBefore {p q : String × Nat} (h : ranksBefore p q = true)
    (hne : p.1 ≠ q.1) : Ahead p q := by
  simp only [ranksBefore, Bool.or_eq_true, Bool.and_eq_true, decide_eq_true_eq, beq_iff_eq] at h
  refine h.imp_right fun ⟨hn, hle⟩ => ⟨hn, ?_⟩
  exact String.not_le.mp fun hge => hne (String.le_antisymm hle hge)

namespace Graph

variable {classes : List ClassRef}

theorem isClass_foldl_addOwned {names : List String} {l : List (String × Member)} {g : Graph}
    (hg : ∀ id, g.isClass id = decide (id ∈ names)) (hl : ∀ p ∈ l, p.2.text ∉ names)
    (id : String) : (l.foldl addOwned g).isClass id = decide (id ∈ names) := by
  induction l generalizing g with
  | nil => exact hg id
  | cons p l ih =>
    refine ih (fun id => ?_) fun q hq => hl q (by simp [hq])
    rw [isClass_addOwned, hg]
    by_cases h : id = p.2.text
    · simp [h, hl p (by simp)]
    · simp [h]

theorem isClass_ofListing
    (h : ∀ m ∈ classes.flatMap ClassRef.members, m.text ∉ classes.map ClassRef.name)
    (id : String) : (ofListing classes).isClass id = decide (id ∈ classes.map ClassRef.name) := by
  rw [ofListing_eq]
  refine isClass_foldl_addOwned (isClass_classes classes) (fun p hp => h p.2 ?_) id
  rw [← map_snd_owned]
  exact List.mem_map_of_mem hp

theorem Simple.uses_eq {g : Graph} (hg : g.Simple) (d : String) :
    g.uses d = ((g.edges.filter fun e => e.1.2 = d ∧ e.2 = .uses).map fun e => e.1.1).toFinset.card
    := by
  rw [List.toFinset_card_of_nodup, List.length_map, uses, List.countP_eq_length_filter]
  have hkeys : ((g.edges.filter fun e => e.1.2 = d ∧ e.2 = .uses).map Prod.fst).Nodup :=
    hg.edges.sublist (List.filter_sublist.map _)
  rw [← Function.comp_def, ← List.map_map]
  refine List.Nodup.map_on (fun x hx y hy hxy => ?_) hkeys
  simp only [List.mem_map, List.mem_filter, decide_eq_true_eq] at hx hy
  obtain ⟨e, ⟨-, he, -⟩, rfl⟩ := hx
  obtain ⟨e', ⟨-, he', -⟩, rfl⟩ := hy
  exact Prod.ext hxy (he.trans he'.symm)

theorem uses_ofListing
    (h : ∀ m ∈ classes.flatMap ClassRef.members, m.text ∉ classes.map ClassRef.name)
    {d : String} (hd : d ∈ classes.map ClassRef.name) :
    (ofListing classes).uses d = (users classes d).card := by
  rw [(simple_ofListing classes).uses_eq]
  congr 1
  ext x
  rw [mem_users, ← map_snd_owned, List.mem_toFinset, List.mem_map]
  simp only [List.mem_filter, decide_eq_true_eq]
  constructor
  · rintro ⟨⟨⟨x', d'⟩, r⟩, ⟨he, rfl, rfl⟩, rfl⟩
    obtain ⟨p, hp, he⟩ := of_mem_edges_ofListing he
    obtain ⟨hr, -⟩ | ⟨-, rfl, -, hmentions⟩ := mem_written.mp he
    · cases hr
    · exact ⟨p.2, List.mem_map_of_mem hp, hmentions, rfl⟩
  · rintro ⟨m, hm, hmentions, rfl⟩
    obtain ⟨p, hp, rfl⟩ := List.mem_map.mp hm
    refine ⟨((p.2.text, d), .uses), ⟨?_, rfl, rfl⟩, rfl⟩
    exact (mem_edges_ofListing h).mpr ⟨p, hp, mem_written.mpr (.inr ⟨rfl, rfl, hd, hmentions⟩)⟩

/-- The ranking before it is sorted. -/
theorem mem_ranking {g : Graph} (hg : g.Simple) {d : String} {n : Nat} :
    (d, n) ∈ g.ranking ↔ g.isClass d = true ∧ 0 < n ∧ n = g.uses d := by
  rw [ranking, List.mem_mergeSort, isClass_eq]
  simp only [List.mem_filterMap, List.mem_filter, decide_eq_true_eq]
  constructor
  · rintro ⟨⟨d', node⟩, ⟨hnode, hkind⟩, hp⟩
    split at hp
    · cases hp
    next hused =>
      cases hp
      rw [(mem_iff_lookup hg.nodes).mp hnode]
      exact ⟨by simpa using hkind, by omega, rfl⟩
  · rintro ⟨hclass, hn, rfl⟩
    rw [Option.any_eq_true] at hclass
    obtain ⟨node, hnode, hkind⟩ := hclass
    exact ⟨(d, node), ⟨(mem_iff_lookup hg.nodes).mpr hnode, by simpa using hkind⟩,
      if_neg (Nat.pos_iff_ne_zero.mp hn)⟩

theorem nodup_ranking {g : Graph} (hg : g.Simple) : (g.ranking.map Prod.fst).Nodup := by
  rw [ranking, ((List.mergeSort_perm _ _).map Prod.fst).nodup_iff, List.nodup_iff_pairwise_ne,
    List.pairwise_map]
  refine List.Pairwise.filterMap _ ?_ (List.Pairwise.filter _ (List.pairwise_map.mp hg.nodes))
  rintro p p' hne q hq q' hq'
  split at hq <;> cases hq
  split at hq' <;> cases hq'
  exact hne

theorem sorted_ranking {g : Graph} (hg : g.Simple) : g.ranking.Pairwise Ahead := by
  have hsorted : g.ranking.Pairwise fun p q => ranksBefore p q = true :=
    List.pairwise_mergeSort ranksBefore_trans ranksBefore_total _
  exact hsorted.imp₂ (fun _ _ => ahead_of_ranksBefore) (List.pairwise_map.mp (nodup_ranking hg))

theorem isRanking_ofListing
    (h : ∀ m ∈ classes.flatMap ClassRef.members, m.text ∉ classes.map ClassRef.name) :
    IsRanking classes (ofListing classes).ranking := by
  have hg := simple_ofListing classes
  refine ⟨fun d n => ?_, nodup_ranking hg, sorted_ranking hg⟩
  rw [mem_ranking hg, isClass_ofListing h, decide_eq_true_eq]
  refine and_congr_right fun hd => ?_
  rw [uses_ofListing h hd]

theorem mostUsed_eq_take (g : Graph) (n : Nat) : g.mostUsed n = g.ranking.take n := by
  rw [mostUsed, cutAt, if_neg (by omega), Int.toNat_natCast]

/-- Where no member is called like a class, the most used classes are the first of the ranking by
numbers of users.  Neither order nor repetition matters, and to ask for more adds to the end. -/
theorem mostUsed_exact
    (h : ∀ m ∈ classes.flatMap ClassRef.members, m.text ∉ classes.map ClassRef.name) :
    (∃ l, IsRanking classes l ∧ (∀ l', IsRanking classes l' → l' = l) ∧
      ∀ n : Nat, (ofListing classes).mostUsed n = l.take n) ∧
    (∀ classes', Rearranged classes classes' →
      ∀ n : Nat, (ofListing classes').mostUsed n = (ofListing classes).mostUsed n) ∧
    ∀ n n' : Nat, n ≤ n' →
      (ofListing classes).mostUsed n <+: (ofListing classes).mostUsed n' := by
  have hranking := isRanking_ofListing h
  refine ⟨⟨_, hranking, fun l' hl' => hl'.unique hranking, mostUsed_eq_take _⟩,
    fun classes' hclasses n => ?_, fun n n' hn => ?_⟩
  · have h' (m : Member) (hm : m ∈ classes'.flatMap ClassRef.members) :
        m.text ∉ classes'.map ClassRef.name := by
      rw [hclasses.names]
      exact h m ((hclasses.mem_members m).mp hm)
    rw [mostUsed_eq_take, mostUsed_eq_take,
      (isRanking_ofListing h').unique (hranking.rearranged hclasses)]
  · rw [mostUsed_eq_take, mostUsed_eq_take]
    exact List.take_prefix_take_left hn

theorem isRanking_entwined : IsRanking entwined [("LB;", 2), ("LA;", 1)] := by
  have hA : (users entwined "LA;").card = 1 := by decide
  have hB : (users entwined "LB;").card = 2 := by decide
  refine ⟨fun d n => ?_, by decide, by simp [Ahead]⟩
  have hnames : d ∈ entwined.map ClassRef.name ↔ d = "LA;" ∨ d = "LB;" := by
    simp [entwined, or_comm]
  rw [hnames]
  constructor
  · simp only [List.mem_cons, Prod.mk.injEq, List.not_mem_nil, or_false]
    rintro (⟨rfl, rfl⟩ | ⟨rfl, rfl⟩)
    · exact ⟨.inr rfl, by omega, hB.symm⟩
    · exact ⟨.inl rfl, by omega, hA.symm⟩
  · rintro ⟨rfl | rfl, -, rfl⟩
    · simp [hA]
    · simp [hB]

/-- A member that mentions a class twice counts once, and so does a class that is told again. -/
theorem mostUsed_exact_entwined :
    (∀ m ∈ entwined.flatMap ClassRef.members, m.text ∉ entwined.map ClassRef.name) ∧
      Rearranged entwined (entwined.take 1 ++ entwined).reverse ∧
      (ofListing entwined).mostUsed (2 : Nat) = [("LB;", 2), ("LA;", 1)] ∧
      (ofListing (entwined.take 1 ++ entwined).reverse).mostUsed (1 : Nat) = [("LB;", 2)] := by
  have hapart : ∀ m ∈ entwined.flatMap ClassRef.members,
      m.text ∉ entwined.map ClassRef.name := by decide
  have hagain : Rearranged entwined (entwined.take 1 ++ entwined).reverse :=
    .trans (.again _ _) (.order (List.reverse_perm _).symm)
  obtain ⟨⟨l, -, hunique, hmost⟩, hsame, -⟩ := mostUsed_exact hapart
  rw [← hunique _ isRanking_entwined] at hmost
  refine ⟨hapart, hagain, hmost 2, ?_⟩
  rw [hsame _ hagain, hmost]
  rfl

end Graph

end DexRefs
