import DexRefs.Image.Writer
import DexRefs.Proofs.Access
import DexRefs.Proofs.HeaderFields

/-!
What an image must hold for its tables to load.  A header places six tables; the tables load
exactly when every row, every string item and every parameter list lies within the bytes and every
index in a row is below the count that the header declares for the table it points into.  They are
then what stands at those places.
-/

set_option autoImplicit false

namespace DexRefs

namespace Extent

/-- Whether all rows of a table, `width` bytes each, lie within the bytes. -/
def Fits (e : Extent) (width : Nat) (b : Bytes) : Prop :=
  e.size = 0 ∨ e.off + width * e.size ≤ b.size

theorem fits_iff {e : Extent} {width : Nat} {b : Bytes} :
    e.Fits width b ↔ ∀ i < e.size, e.off + width * i + width ≤ b.size := by
  unfold Fits
  constructor
  · intro h i hi
    have hm : width * (i + 1) ≤ width * e.size := Nat.mul_le_mul_left width hi
    rw [Nat.mul_succ] at hm
    omega
  · intro h
    by_cases h0 : e.size = 0
    · exact .inl h0
    · have hl := h (e.size - 1) (by omega)
      have hs : width * (e.size - 1) + width = width * e.size := by
        rw [← Nat.mul_succ]
        congr 1
        omega
      omega

def rows {α : Type} (e : Extent) (width : Nat) (f : Nat → α) : Array α :=
  ((List.range e.size).map fun i => f (e.off + width * i)).toArray

@[simp] theorem size_rows {α : Type} (e : Extent) (width : Nat) (f : Nat → α) :
    (e.rows width f).size = e.size := by simp [rows]

theorem mem_rows {α : Type} {e : Extent} {width : Nat} {f : Nat → α} {a : α} :
    a ∈ e.rows width f ↔ ∃ i < e.size, f (e.off + width * i) = a := by
  simp [rows]

end Extent

def Header.counts (h : Header) : Counts :=
  ⟨h.strings.size, h.types.size, h.protos.size, h.fields.size, h.methods.size, h.classDefs.size⟩

namespace Tables

/-- Every index that a row holds is below the count of the table it points into. -/
structure Within (t : Tables) (n : Counts) : Prop where
  descriptors : ∀ d ∈ t.types, d < n.strings
  shorties : ∀ p ∈ t.protos, p.shorty < n.strings
  returnTypes : ∀ p ∈ t.protos, p.returnType < n.types
  parameters : ∀ p ∈ t.protos, ∀ type ∈ p.parameters, type < n.types
  fieldOwners : ∀ f ∈ t.fields, f.owner < n.types
  fieldTypes : ∀ f ∈ t.fields, f.type < n.types
  fieldNames : ∀ f ∈ t.fields, f.name < n.strings
  methodOwners : ∀ m ∈ t.methods, m.owner < n.types
  methodProtos : ∀ m ∈ t.methods, m.proto < n.protos
  methodNames : ∀ m ∈ t.methods, m.name < n.strings
  classDefs : ∀ c ∈ t.classDefs, c < n.types

section Places

variable (b : Bytes) (o : ByteOrder)

def stringOf (pos : Nat) : String :=
  ((b.stringAt (o.word b 4 pos)).toOption).getD ""

def protoRow (pos : Nat) : Proto :=
  ⟨o.word b 4 pos, o.word b 4 (pos + 4), o.word b 4 (pos + 8), []⟩

def parameterList (off : Nat) : List Nat :=
  if off = 0 then []
  else (List.range (o.word b 4 off)).map fun j => o.word b 2 (off + 4 + 2 * j)

def proto (pos : Nat) : Proto :=
  { protoRow b o pos with parameters := parameterList b o (o.word b 4 (pos + 8)) }

def field (pos : Nat) : FieldId := ⟨o.word b 2 pos, o.word b 2 (pos + 2), o.word b 4 (pos + 4)⟩

def method (pos : Nat) : MethodId := ⟨o.word b 2 pos, o.word b 2 (pos + 2), o.word b 4 (pos + 4)⟩

end Places

/-- What stands at the places that a header names, whether or not they lie within the bytes. -/
def located (b : Bytes) (h : Header) : Tables where
  strings := h.strings.rows 4 (stringOf b h.order)
  types := h.types.rows 4 (h.order.word b 4)
  protos := h.protos.rows 12 (proto b h.order)
  fields := h.fields.rows 8 (field b h.order)
  methods := h.methods.rows 8 (method b h.order)
  classDefs := h.classDefs.rows 32 (h.order.word b 4)

theorem counts_located (b : Bytes) (h : Header) : (located b h).counts = h.counts := by
  simp [located, counts, Header.counts]

/-- The tables of a header lie within the bytes, and their indices within the tables. -/
structure Placed (b : Bytes) (h : Header) : Prop where
  stringIds : h.strings.Fits 4 b
  strings : ∀ i < h.strings.size,
    ∃ s, b.stringAt (h.order.word b 4 (h.strings.off + 4 * i)) = .ok s
  types : h.types.Fits 4 b
  protos : h.protos.Fits 12 b
  fields : h.fields.Fits 8 b
  methods : h.methods.Fits 8 b
  classDefs : h.classDefs.Fits 32 b
  parameters : ∀ i < h.protos.size, ∀ p, p = h.order.word b 4 (h.protos.off + 12 * i + 8) →
    p ≠ 0 → p + 4 ≤ b.size ∧ p + 4 + 2 * h.order.word b 4 p ≤ b.size
  indices : (located b h).Within h.counts

section Rows

variable {b : Bytes} {o : ByteOrder}

theorem inRange_eq_ok {table : Table} {row index limit : Nat} {target : Table} {offset : Nat}
    {u : Unit} : inRange table row index limit target offset = .ok u ↔ index < limit := by
  unfold inRange
  split
  next h => simp [h]
  next h => simp [h]

theorem inRange_eq_error {table : Table} {row index limit : Nat} {target : Table} {offset : Nat}
    {f : Fault} : inRange table row index limit target offset = .error f ↔
      limit ≤ index ∧ f = .indexOutOfRange table row index limit target offset := by
  unfold inRange
  split
  next h => simp [Nat.not_le_of_lt h]
  next h => simp [Nat.le_of_not_lt h, eq_comm]

theorem rowsAt_eq_ok {α : Type} {width : Nat} {item : Nat → Nat → Except Fault α} {f : Nat → α}
    (Q : α → Prop)
    (h : ∀ i pos a, item i pos = .ok a ↔ (pos + width ≤ b.size ∧ Q (f pos)) ∧ a = f pos)
    (e : Extent) (as : Array α) :
    rowsAt e width item = .ok as ↔
      (e.Fits width b ∧ ∀ a ∈ e.rows width f, Q a) ∧ as = e.rows width f := by
  have hm := mapM_eq_ok (l := List.range e.size) (fun i _ a => h i (e.off + width * i) a)
  simp only [rowsAt, map_eq_ok, hm, List.mem_range, Extent.fits_iff, Extent.mem_rows]
  constructor
  · intro hx
    obtain ⟨_, ⟨hp, rfl⟩, rfl⟩ := hx
    refine ⟨⟨fun i hi => (hp i hi).1, ?_⟩, rfl⟩
    intro _ hx
    obtain ⟨i, hi, rfl⟩ := hx
    exact (hp i hi).2
  · intro hx
    obtain ⟨⟨hf, hq⟩, rfl⟩ := hx
    exact ⟨_, ⟨fun i hi => ⟨hf i hi, hq _ ⟨i, hi, rfl⟩⟩, rfl⟩, rfl⟩

theorem mapM_zipIdx_rows {α β : Type} (e : Extent) (width : Nat) (f : Nat → α)
    (x : α × Nat → Except Fault β) :
    (e.rows width f).toList.zipIdx.mapM x =
      (List.range e.size).mapM fun i => x (f (e.off + width * i), i) := by
  have hz : (e.rows width f).toList.zipIdx =
      (List.range e.size).map fun i => (f (e.off + width * i), i) := by
    apply List.ext_getElem
    · simp [Extent.rows]
    · intro i h₁ h₂
      simp [Extent.rows]
  rw [hz, List.mapM_map]
  rfl

theorem stringsAt_eq_ok {e : Extent} {ss : Array String} :
    stringsAt b o e = .ok ss ↔
      (e.Fits 4 b ∧ ∀ i < e.size, ∃ s, b.stringAt (o.word b 4 (e.off + 4 * i)) = .ok s) ∧
        ss = e.rows 4 (stringOf b o) := by
  have hw (_ pos off : Nat) :
      o.wordAt b 4 pos = .ok off ↔ (pos + 4 ≤ b.size ∧ True) ∧ off = o.word b 4 pos := by
    simp [ByteOrder.wordAt_eq_ok]
  have hs (i : Nat) (_ : i ∈ List.range e.size) (s : String) :
      b.stringAt (o.word b 4 (e.off + 4 * i)) = .ok s ↔
        (∃ s', b.stringAt (o.word b 4 (e.off + 4 * i)) = .ok s') ∧
          s = stringOf b o (e.off + 4 * i) := by
    unfold stringOf
    cases b.stringAt (o.word b 4 (e.off + 4 * i)) with
    | error f => simp
    | ok s' => simp [Except.toOption, eq_comm]
  simp only [stringsAt, bind_eq_ok, map_eq_ok, rowsAt_eq_ok (fun _ => True) hw]
  constructor
  · intro h
    obtain ⟨_, ⟨⟨hf, -⟩, rfl⟩, l, hl, rfl⟩ := h
    rw [mapM_zipIdx_rows, mapM_eq_ok hs] at hl
    obtain ⟨hp, rfl⟩ := hl
    exact ⟨⟨hf, fun i hi => hp i (List.mem_range.mpr hi)⟩, rfl⟩
  · intro h
    obtain ⟨⟨hf, hp⟩, rfl⟩ := h
    refine ⟨_, ⟨⟨hf, fun _ _ => trivial⟩, rfl⟩, _, ?_, rfl⟩
    rw [mapM_zipIdx_rows, mapM_eq_ok hs]
    exact ⟨fun i hi => hp i (List.mem_range.mp hi), rfl⟩

theorem columnAt_eq_ok {table target : Table} {width limit row pos offset n : Nat} :
    (o.wordAt b width pos >>= fun i =>
        inRange table row i limit target offset >>= fun _ => pure i) = .ok n ↔
      (pos + width ≤ b.size ∧ o.word b width pos < limit) ∧ n = o.word b width pos := by
  simp only [bind_eq_ok, pure_eq_ok, inRange_eq_ok, ByteOrder.wordAt_eq_ok]
  constructor
  · intro h
    obtain ⟨_, ⟨hp, rfl⟩, _, hn, rfl⟩ := h
    exact ⟨⟨hp, hn⟩, rfl⟩
  · intro h
    obtain ⟨⟨hp, hn⟩, rfl⟩ := h
    exact ⟨_, ⟨hp, rfl⟩, (), hn, rfl⟩

theorem protoRowAt_eq_ok {strings types row pos : Nat} {p : Proto} :
    protoRowAt b o strings types row pos = .ok p ↔
      (pos + 12 ≤ b.size ∧ (protoRow b o pos).shorty < strings ∧
        (protoRow b o pos).returnType < types) ∧ p = protoRow b o pos := by
  simp only [protoRowAt, bind_eq_ok, pure_eq_ok, inRange_eq_ok, ByteOrder.wordAt_eq_ok]
  constructor
  · intro h
    obtain ⟨_, ⟨-, rfl⟩, _, ⟨-, rfl⟩, _, ⟨hp, rfl⟩, _, hs, _, hr, rfl⟩ := h
    exact ⟨⟨by omega, hs, hr⟩, rfl⟩
  · intro h
    obtain ⟨⟨hp, hs, hr⟩, rfl⟩ := h
    exact ⟨_, ⟨by omega, rfl⟩, _, ⟨by omega, rfl⟩, _, ⟨by omega, rfl⟩, (), hs, (), hr, rfl⟩

def ListFits (b : Bytes) (o : ByteOrder) (off : Nat) : Prop :=
  off ≠ 0 → off + 4 ≤ b.size ∧ off + 4 + 2 * o.word b 4 off ≤ b.size

theorem parameterList_of_ne_zero {off : Nat} (h : off ≠ 0) :
    parameterList b o off = ((⟨o.word b 4 off, off + 4⟩ : Extent).rows 2 (o.word b 2)).toList := by
  simp [parameterList, h, Extent.rows]

theorem listFits_of_ne_zero {off : Nat} (h : off ≠ 0) :
    ListFits b o off ↔
      off + 4 ≤ b.size ∧ (⟨o.word b 4 off, off + 4⟩ : Extent).Fits 2 b := by
  unfold ListFits Extent.Fits
  constructor
  · intro hf
    have := hf h
    exact ⟨this.1, .inr this.2⟩
  · intro hx _
    obtain ⟨h₁, h₂⟩ := hx
    simp only at h₂
    omega

theorem parametersAt_eq_ok {types row : Nat} {p q : Proto} (hp : p.parameters = []) :
    parametersAt b o types row p = .ok q ↔
      (ListFits b o p.parametersOff ∧ ∀ t ∈ parameterList b o p.parametersOff, t < types) ∧
        q = { p with parameters := parameterList b o p.parametersOff } := by
  have hr (e : Extent) (ts : Array Nat) :
      rowsAt e 2 (fun _ => parameterAt b o types row) = .ok ts ↔
        (e.Fits 2 b ∧ ∀ t ∈ e.rows 2 (o.word b 2), t < types) ∧ ts = e.rows 2 (o.word b 2) :=
    rowsAt_eq_ok (· < types) (fun _ _ _ => columnAt_eq_ok) e ts
  unfold parametersAt
  by_cases h0 : p.parametersOff = 0
  · have hq : { p with parameters := [] } = p := by rw [← hp]
    have hl : parameterList b o p.parametersOff = [] := by simp [parameterList, h0]
    have hf : ListFits b o p.parametersOff := fun h => absurd h0 h
    rw [if_pos h0, pure_eq_ok, hl, hq]
    simp [hf, eq_comm]
  · rw [listFits_of_ne_zero h0, parameterList_of_ne_zero h0]
    simp only [h0, if_false, bind_eq_ok, pure_eq_ok, ByteOrder.wordAt_eq_ok, hr,
      Array.mem_toList_iff]
    constructor
    · intro h
      obtain ⟨_, ⟨h₁, rfl⟩, _, ⟨⟨h₂, ht⟩, rfl⟩, rfl⟩ := h
      exact ⟨⟨⟨h₁, h₂⟩, ht⟩, rfl⟩
    · intro h
      obtain ⟨⟨⟨h₁, h₂⟩, ht⟩, rfl⟩ := h
      exact ⟨_, ⟨h₁, rfl⟩, _, ⟨⟨h₂, ht⟩, rfl⟩, rfl⟩

theorem protosAt_eq_ok {e : Extent} {strings types : Nat} {ps : Array Proto} :
    protosAt b o e strings types = .ok ps ↔
      ((e.Fits 12 b ∧ ∀ i < e.size, ListFits b o (o.word b 4 (e.off + 12 * i + 8))) ∧
        ∀ p ∈ e.rows 12 (proto b o), p.shorty < strings ∧ p.returnType < types ∧
          ∀ t ∈ p.parameters, t < types) ∧
        ps = e.rows 12 (proto b o) := by
  have hr (rs : Array Proto) :
      rowsAt e 12 (protoRowAt b o strings types) = .ok rs ↔
        (e.Fits 12 b ∧ ∀ p ∈ e.rows 12 (protoRow b o), p.shorty < strings ∧ p.returnType < types) ∧
          rs = e.rows 12 (protoRow b o) :=
    rowsAt_eq_ok (fun p : Proto => p.shorty < strings ∧ p.returnType < types)
      (fun _ _ _ => protoRowAt_eq_ok) e rs
  have hl (i : Nat) (_ : i ∈ List.range e.size) (q : Proto) :
      parametersAt b o types i (protoRow b o (e.off + 12 * i)) = .ok q ↔
        (ListFits b o (o.word b 4 (e.off + 12 * i + 8)) ∧
          ∀ t ∈ parameterList b o (o.word b 4 (e.off + 12 * i + 8)), t < types) ∧
        q = proto b o (e.off + 12 * i) := parametersAt_eq_ok rfl
  -- the lists are read from the rows, which do not have theirs yet
  simp only [protosAt, bind_eq_ok, map_eq_ok, hr, Extent.mem_rows]
  constructor
  · intro h
    obtain ⟨_, ⟨⟨hf, hi⟩, rfl⟩, l, hm, rfl⟩ := h
    rw [mapM_zipIdx_rows, mapM_eq_ok hl] at hm
    obtain ⟨hp, rfl⟩ := hm
    refine ⟨⟨⟨hf, fun i h => (hp i (List.mem_range.mpr h)).1⟩, ?_⟩, rfl⟩
    intro _ hx
    obtain ⟨i, h, rfl⟩ := hx
    have hi := hi _ ⟨i, h, rfl⟩
    exact ⟨hi.1, hi.2, (hp i (List.mem_range.mpr h)).2⟩
  · intro hx
    obtain ⟨⟨⟨hf, hp⟩, hi⟩, rfl⟩ := hx
    refine ⟨_, ⟨⟨hf, ?_⟩, rfl⟩, _, ?_, rfl⟩
    · intro _ hx
      obtain ⟨i, h, rfl⟩ := hx
      have hi := hi _ ⟨i, h, rfl⟩
      exact ⟨hi.1, hi.2.1⟩
    · rw [mapM_zipIdx_rows, mapM_eq_ok hl]
      refine ⟨fun i h => ⟨hp i (List.mem_range.mp h), ?_⟩, rfl⟩
      exact (hi _ ⟨i, List.mem_range.mp h, rfl⟩).2.2

theorem memberAt_eq_ok {α : Type} {make : Nat → Nat → Nat → α} {table target : Table}
    {strings types limit row pos : Nat} {a : α} :
    memberAt b o make table target strings types limit row pos = .ok a ↔
      (pos + 8 ≤ b.size ∧ o.word b 2 pos < types ∧ o.word b 2 (pos + 2) < limit ∧
        o.word b 4 (pos + 4) < strings) ∧
        a = make (o.word b 2 pos) (o.word b 2 (pos + 2)) (o.word b 4 (pos + 4)) := by
  simp only [memberAt, bind_eq_ok, pure_eq_ok, inRange_eq_ok, ByteOrder.wordAt_eq_ok]
  constructor
  · intro h
    obtain ⟨_, ⟨-, rfl⟩, _, ⟨-, rfl⟩, _, ⟨hp, rfl⟩, _, ho, _, hi, _, hn, rfl⟩ := h
    exact ⟨⟨by omega, ho, hi, hn⟩, rfl⟩
  · intro h
    obtain ⟨⟨hp, ho, hi, hn⟩, rfl⟩ := h
    exact ⟨_, ⟨by omega, rfl⟩, _, ⟨by omega, rfl⟩, _, ⟨by omega, rfl⟩, (), ho, (), hi, (), hn, rfl⟩

theorem classDefAt_eq_ok {types row pos c : Nat} :
    classDefAt b o types row pos = .ok c ↔
      (pos + 32 ≤ b.size ∧ o.word b 4 pos < types) ∧ c = o.word b 4 pos := by
  simp only [classDefAt, bind_eq_ok, pure_eq_ok, inRange_eq_ok, ByteOrder.wordAt_eq_ok,
    Bytes.slice_eq_ok]
  constructor
  · intro h
    obtain ⟨_, ⟨-, rfl⟩, _, ⟨hp, -⟩, _, ht, rfl⟩ := h
    exact ⟨⟨by omega, ht⟩, rfl⟩
  · intro h
    obtain ⟨⟨hp, ht⟩, rfl⟩ := h
    exact ⟨_, ⟨by omega, rfl⟩, _, ⟨by omega, rfl⟩, (), ht, rfl⟩

theorem typesAt_eq_ok {e : Extent} {strings : Nat} {ts : Array Nat} :
    rowsAt e 4 (typeAt b o strings) = .ok ts ↔
      (e.Fits 4 b ∧ ∀ d ∈ e.rows 4 (o.word b 4), d < strings) ∧ ts = e.rows 4 (o.word b 4) :=
  rowsAt_eq_ok (· < strings) (fun _ _ _ => columnAt_eq_ok) e ts

theorem fieldsAt_eq_ok {e : Extent} {strings types : Nat} {fs : Array FieldId} :
    rowsAt e 8 (fieldAt b o strings types) = .ok fs ↔
      (e.Fits 8 b ∧ ∀ f ∈ e.rows 8 (field b o),
        f.owner < types ∧ f.type < types ∧ f.name < strings) ∧ fs = e.rows 8 (field b o) :=
  rowsAt_eq_ok (fun f : FieldId => f.owner < types ∧ f.type < types ∧ f.name < strings)
    (fun _ _ _ => memberAt_eq_ok) e fs

theorem methodsAt_eq_ok {e : Extent} {strings types protos : Nat} {ms : Array MethodId} :
    rowsAt e 8 (methodAt b o strings types protos) = .ok ms ↔
      (e.Fits 8 b ∧ ∀ m ∈ e.rows 8 (method b o),
        m.owner < types ∧ m.proto < protos ∧ m.name < strings) ∧ ms = e.rows 8 (method b o) :=
  rowsAt_eq_ok (fun m : MethodId => m.owner < types ∧ m.proto < protos ∧ m.name < strings)
    (fun _ _ _ => memberAt_eq_ok) e ms

theorem classDefsAt_eq_ok {e : Extent} {types : Nat} {cs : Array Nat} :
    rowsAt e 32 (classDefAt b o types) = .ok cs ↔
      (e.Fits 32 b ∧ ∀ c ∈ e.rows 32 (o.word b 4), c < types) ∧ cs = e.rows 32 (o.word b 4) :=
  rowsAt_eq_ok (· < types) (fun _ _ _ => classDefAt_eq_ok) e cs

end Rows

/-- Reading by position succeeds exactly on placed tables, and gives what stands there. -/
theorem ofBytes_eq_ok {b : Bytes} {h : Header} {t : Tables} :
    ofBytes b h = .ok t ↔ Placed b h ∧ t = located b h := by
  simp only [ofBytes, bind_eq_ok, pure_eq_ok, stringsAt_eq_ok, typesAt_eq_ok, protosAt_eq_ok,
    fieldsAt_eq_ok, methodsAt_eq_ok, classDefsAt_eq_ok]
  constructor
  · intro hx
    obtain ⟨_, ⟨⟨hs, hss⟩, rfl⟩, _, ⟨⟨ht, hti⟩, rfl⟩, _, ⟨⟨⟨hp, hpl⟩, hpi⟩, rfl⟩,
      _, ⟨⟨hf, hfi⟩, rfl⟩, _, ⟨⟨hm, hmi⟩, rfl⟩, _, ⟨⟨hc, hci⟩, rfl⟩, rfl⟩ := hx
    simp only [Extent.size_rows] at hti hpi hfi hmi hci
    refine ⟨⟨hs, hss, ht, hp, hf, hm, hc, ?_, ?_⟩, rfl⟩
    · intro i hi _ hx
      obtain rfl := hx
      exact hpl i hi
    · exact ⟨hti, fun p hp => (hpi p hp).1, fun p hp => (hpi p hp).2.1,
        fun p hp => (hpi p hp).2.2, fun f hf => (hfi f hf).1, fun f hf => (hfi f hf).2.1,
        fun f hf => (hfi f hf).2.2, fun m hm => (hmi m hm).1, fun m hm => (hmi m hm).2.1,
        fun m hm => (hmi m hm).2.2, hci⟩
  · intro hx
    obtain ⟨hb, rfl⟩ := hx
    have hi := hb.indices
    refine ⟨_, ⟨⟨hb.stringIds, hb.strings⟩, rfl⟩, _, ⟨⟨hb.types, ?_⟩, rfl⟩,
      _, ⟨⟨⟨hb.protos, fun i h => hb.parameters i h _ rfl⟩, ?_⟩, rfl⟩,
      _, ⟨⟨hb.fields, ?_⟩, rfl⟩, _, ⟨⟨hb.methods, ?_⟩, rfl⟩, _, ⟨⟨hb.classDefs, ?_⟩, rfl⟩, rfl⟩
    all_goals simp only [Extent.size_rows]
    · exact hi.descriptors
    · exact fun p hp => ⟨hi.shorties p hp, hi.returnTypes p hp, hi.parameters p hp⟩
    · exact fun f hf => ⟨hi.fieldOwners f hf, hi.fieldTypes f hf, hi.fieldNames f hf⟩
    · exact fun m hm => ⟨hi.methodOwners m hm, hi.methodProtos m hm, hi.methodNames m hm⟩
    · exact hi.classDefs

theorem stringOf_of_eq_ok {b : Bytes} {o : ByteOrder} {pos : Nat} {s : String}
    (h : b.stringAt (o.word b 4 pos) = .ok s) : stringOf b o pos = s := by
  rw [stringOf, h]
  rfl

/-- After a header, the tables load if and only if they are placed; they are then what stands at
their places, with as many rows as the header declares and each string read at its own offset. -/
theorem read_iff_placed {b : Bytes} {c₀ c : Cursor} {h : Header}
    (hh : Header.read b c₀ = .ok h c) :
    ((∃ t d, Tables.read h b c = .ok t d) ↔ Placed b h) ∧
      ∀ t d, Tables.read h b c = .ok t d →
        t = located b h ∧ t.counts = h.counts ∧
          ∀ i < h.strings.size, ∃ s,
            b.stringAt (h.order.word b 4 (h.strings.off + 4 * i)) = .ok s ∧
              t.strings[i]? = some s := by
  obtain ⟨-, rfl⟩ := Header.read_eq_ok.mp hh
  have hr (t : Tables) : (∃ d, Tables.read h b ⟨112, h.order⟩ = .ok t d) ↔
      Placed b h ∧ t = located b h :=
    ((read_jumps b h).eq_ok_iff 112 t).trans ofBytes_eq_ok
  constructor
  · constructor
    · intro hx
      obtain ⟨t, ht⟩ := hx
      exact ((hr t).mp ht).1
    · intro hp
      exact ⟨_, (hr _).mpr ⟨hp, rfl⟩⟩
  · intro t d ht
    obtain ⟨hp, rfl⟩ := (hr t).mp ⟨d, ht⟩
    refine ⟨rfl, counts_located b h, fun i hi => ?_⟩
    obtain ⟨s, hs⟩ := hp.strings i hi
    refine ⟨s, hs, ?_⟩
    have hg : (located b h).strings[i]? = some (stringOf b h.order (h.strings.off + 4 * i)) := by
      simp [located, Extent.rows, hi]
    rw [hg, stringOf_of_eq_ok hs]

def oneType : Bytes := ({ strings := ["I"], types := [0] } : Contents).encode .big .v035

theorem read_iff_placed_oneType : ∃ h c t d,
    Header.read oneType ⟨0, .little⟩ = .ok h c ∧ Placed oneType h ∧
      Tables.read h oneType c = .ok t d ∧ t.counts = ⟨1, 1, 0, 0, 0, 0⟩ := by
  have hh : Header.read oneType ⟨0, .little⟩ = .ok (.located oneType .big .v035) ⟨112, .big⟩ :=
    Header.read_eq_ok.mpr ⟨Header.ofBytes_eq_ok.mpr (by decide +kernel), rfl⟩
  have hc : (Header.located oneType .big .v035).counts = ⟨1, 1, 0, 0, 0, 0⟩ := by decide +kernel
  have hn := Counts.mk.inj hc
  have hs : (oneType.stringAt (ByteOrder.big.word oneType 4 (112 + 4 * 0))).toOption =
      some "I" := by decide +kernel
  have hp : Placed oneType (.located oneType .big .v035) := by
    refine ⟨.inr (by decide +kernel), fun i hi => ?_, .inr (by decide +kernel),
      .inl (by decide +kernel), .inl (by decide +kernel), .inl (by decide +kernel),
      .inl (by decide +kernel), fun i hi => ?_, ?_⟩
    · rw [hn.1] at hi
      obtain rfl : i = 0 := by omega
      have ho : (Header.located oneType .big .v035).strings.off = 112 := by decide +kernel
      rw [ho]
      exact ⟨"I", toOption_eq_some.mp hs⟩
    · rw [hn.2.2.1] at hi
      exact absurd hi (Nat.not_lt_zero i)
    · constructor <;> decide +kernel
  obtain ⟨hr, ht⟩ := read_iff_placed hh
  obtain ⟨t, d, hd⟩ := hr.mpr hp
  exact ⟨_, _, t, d, hh, hp, hd, (ht t d hd).2.1.trans hc⟩

end Tables

end DexRefs
