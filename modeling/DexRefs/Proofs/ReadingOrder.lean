import DexRefs.Proofs.Placement
import Mathlib.Algebra.GroupWithZero.Nat

/-!
The order in which an image's tables are read, as a list of items.  An item is read completely
before the indices in it are compared with the counts that the header declares.  The first item in
that order that does not fit, or holds an index out of range, decides the fault of the loader; the
loader succeeds where there is none.
-/

set_option autoImplicit false

namespace DexRefs

def Counts.of (n : Counts) : Table → Nat
  | .stringIds => n.strings
  | .typeIds => n.types
  | .protoIds => n.protos
  | .fieldIds => n.fields
  | .methodIds => n.methods
  | .classDefs => n.classDefs

namespace Tables

structure Column where
  index : Nat
  target : Table
  deriving DecidableEq, Repr

/-- What an item consists of: parts of fixed widths that follow one another, or a string item. -/
inductive Form where
  | parts (widths : List Nat)
  | string
  deriving DecidableEq, Repr

/-- What is read at one place for a row of a table, with the indices in it from left to right. -/
structure Item where
  table : Table
  row : Nat
  pos : Nat
  form : Form
  columns : List Column := []
  deriving DecidableEq, Repr

namespace Item

variable (b : Bytes) (n : Counts)

def Fits (it : Item) : Prop :=
  match it.form with
  | .parts ws => ws = [] ∨ it.pos + ws.sum ≤ b.size
  | .string => ∃ s, b.stringAt it.pos = .ok s

def Sound (it : Item) : Prop :=
  it.Fits b ∧ ∀ c ∈ it.columns, c.index < n.of c.target

/-- Where bytes are missed first, and how many were asked for there. -/
def missed : (pos : Nat) → (widths : List Nat) → Nat × Nat
  | pos, [] => (pos, 0)
  | pos, w :: ws => if pos + w ≤ b.size then missed (pos + w) ws else (pos, w)

/-- Where an item that does not fit misses bytes.  A string item is read byte by byte. -/
def shortfall (it : Item) : Nat × Nat :=
  match it.form with
  | .parts ws => missed b it.pos ws
  | .string => (max it.pos b.size, 1)

/-- The defect of an item, as a fault: bytes are missing, or all are there and a column, the first
such one, holds an index that its target does not have. -/
inductive Defect (it : Item) : Fault → Prop
  | short {o k : Nat} (hfit : ¬ it.Fits b) (hat : it.shortfall b = (o, k)) :
      Defect it (.truncated o k (b.size - o))
  | index {left right : List Column} {c : Column} (hfit : it.Fits b)
      (hcol : it.columns = left ++ c :: right) (hleft : ∀ d ∈ left, d.index < n.of d.target)
      (hout : n.of c.target ≤ c.index) :
      Defect it (.indexOutOfRange it.table it.row c.index (n.of c.target) c.target it.pos)

end Item

section Order

variable (b : Bytes) (o : ByteOrder)

def stringIdItem (row pos : Nat) : Item := ⟨.stringIds, row, pos, .parts [4], []⟩

def stringDataItem (row pos : Nat) : Item := ⟨.stringIds, row, o.word b 4 pos, .string, []⟩

def typeItem (row pos : Nat) : Item :=
  ⟨.typeIds, row, pos, .parts [4], [⟨o.word b 4 pos, .stringIds⟩]⟩

def protoItem (row pos : Nat) : Item :=
  ⟨.protoIds, row, pos, .parts [4, 4, 4],
    [⟨o.word b 4 pos, .stringIds⟩, ⟨o.word b 4 (pos + 4), .typeIds⟩]⟩

def parameterItem (row pos : Nat) : Item :=
  ⟨.protoIds, row, pos, .parts [2], [⟨o.word b 2 pos, .typeIds⟩]⟩

def memberItem (table target : Table) (row pos : Nat) : Item :=
  ⟨table, row, pos, .parts [2, 2, 4],
    [⟨o.word b 2 pos, .typeIds⟩, ⟨o.word b 2 (pos + 2), target⟩,
      ⟨o.word b 4 (pos + 4), .stringIds⟩]⟩

def classDefItem (row pos : Nat) : Item :=
  ⟨.classDefs, row, pos, .parts [4, 28], [⟨o.word b 4 pos, .typeIds⟩]⟩

def rowItems (e : Extent) (width : Nat) (item : Nat → Nat → Item) : List Item :=
  (List.range e.size).map fun i => item i (e.off + width * i)

def listItems (row off : Nat) : List Item :=
  if off = 0 then []
  else ⟨.protoIds, row, off, .parts [4], []⟩ ::
    rowItems ⟨o.word b 4 off, off + 4⟩ 2 fun _ => parameterItem b o row

/-- All that is read for the tables of a header, in the order in which it is read. -/
def readingOrder (h : Header) : List Item :=
  rowItems h.strings 4 stringIdItem ++ rowItems h.strings 4 (stringDataItem b h.order) ++
    rowItems h.types 4 (typeItem b h.order) ++ rowItems h.protos 12 (protoItem b h.order) ++
    (List.range h.protos.size).flatMap (fun i =>
      listItems b h.order i (h.order.word b 4 (h.protos.off + 12 * i + 8))) ++
    rowItems h.fields 8 (memberItem b h.order .fieldIds .typeIds) ++
    rowItems h.methods 8 (memberItem b h.order .methodIds .protoIds) ++
    rowItems h.classDefs 32 (classDefItem b h.order)

end Order

/-- An item of the reading order before which there is no defect. -/
def Reached (b : Bytes) (h : Header) (it : Item) : Prop :=
  ∃ before after, readingOrder b h = before ++ it :: after ∧
    ∀ i ∈ before, i.Sound b h.counts

def partsAt (b : Bytes) : (pos : Nat) → (widths : List Nat) → Except Fault Unit
  | _, [] => pure ()
  | pos, w :: ws => b.slice pos w >>= fun _ => partsAt b (pos + w) ws

theorem partsAt_eq_ok {b : Bytes} {pos : Nat} {ws : List Nat} :
    partsAt b pos ws = .ok () ↔ ws = [] ∨ pos + ws.sum ≤ b.size := by
  induction ws generalizing pos with
  | nil => simp [partsAt, pure, Except.pure]
  | cons w ws ih =>
    simp only [partsAt, bind_eq_ok, Bytes.slice_eq_ok, ih, List.sum_cons, reduceCtorEq, false_or]
    constructor
    · intro h
      obtain ⟨_, ⟨hw, -⟩, rfl | hs⟩ := h
      · simpa using hw
      · omega
    · intro h
      exact ⟨_, ⟨by omega, rfl⟩, .inr (by omega)⟩

theorem partsAt_eq_error {b : Bytes} {pos : Nat} {ws : List Nat} {f : Fault}
    (h : partsAt b pos ws = .error f) :
    f = .truncated (Item.missed b pos ws).1 (Item.missed b pos ws).2
      (b.size - (Item.missed b pos ws).1) := by
  induction ws generalizing pos with
  | nil => cases h
  | cons w ws ih =>
    rw [partsAt] at h
    unfold Bytes.slice at h
    unfold Item.missed
    split at h
    next hw =>
      rw [if_pos hw]
      exact ih h
    next hw =>
      cases h
      rw [if_neg hw]

namespace Item

variable {b : Bytes} {n : Counts} {it : Item}

def whole (b : Bytes) (it : Item) : Except Fault Unit :=
  match it.form with
  | .parts ws => partsAt b it.pos ws
  | .string => (fun _ => ()) <$> b.stringAt it.pos

theorem whole_eq_ok : it.whole b = .ok () ↔ it.Fits b := by
  unfold whole Fits
  cases it.form with
  | parts ws => exact partsAt_eq_ok
  | string => simp [map_eq_ok]

theorem whole_eq_error {f : Fault} :
    it.whole b = .error f ↔ ¬ it.Fits b ∧
      f = .truncated (it.shortfall b).1 (it.shortfall b).2 (b.size - (it.shortfall b).1) := by
  have herr (g : Fault) (hg : it.whole b = .error g) :
      g = .truncated (it.shortfall b).1 (it.shortfall b).2 (b.size - (it.shortfall b).1) := by
    unfold whole at hg
    unfold shortfall
    cases hf : it.form with
    | parts ws =>
      rw [hf] at hg
      exact partsAt_eq_error hg
    | string =>
      rw [hf] at hg
      cases hs : b.stringAt it.pos with
      | ok s =>
        rw [hs] at hg
        cases hg
      | error g' =>
        rw [hs] at hg
        cases hg
        have h0 : b.size - max it.pos b.size = 0 := by omega
        rw [h0]
        exact Bytes.stringAt_eq_error hs
  rw [← whole_eq_ok]
  constructor
  · intro h
    refine ⟨fun hok => ?_, herr f h⟩
    cases hok.symm.trans h
  · intro h
    cases hw : it.whole b with
    | ok u => exact absurd hw h.1
    | error g => rw [h.2, herr g hw]

def check (b : Bytes) (n : Counts) (it : Item) : Except Fault Unit :=
  it.whole b >>= fun _ => forM it.columns fun c =>
    inRange it.table it.row c.index (n.of c.target) c.target it.pos

theorem check_eq_ok : it.check b n = .ok () ↔ it.Sound b n := by
  simp only [check, Sound, bind_eq_ok, forM_eq_ok, inRange_eq_ok, ← whole_eq_ok]
  constructor
  · intro h
    obtain ⟨_, hw, hc⟩ := h
    exact ⟨hw, hc⟩
  · intro h
    exact ⟨(), h⟩

theorem check_eq_error {f : Fault} : it.check b n = .error f ↔ it.Defect b n f := by
  unfold check
  cases hw : it.whole b with
  | error g =>
    obtain ⟨hfit, rfl⟩ := whole_eq_error.mp hw
    constructor
    · intro h
      cases h
      exact .short hfit rfl
    · intro h
      cases h with
      | short _ hat => simp [hat, bind, Except.bind]
      | index hf => exact absurd hf hfit
  | ok u =>
    have hfit : it.Fits b := whole_eq_ok.mp hw
    simp only [bind, Except.bind, forM_eq_error, inRange_eq_ok, inRange_eq_error]
    constructor
    · intro h
      obtain ⟨left, c, right, hc, hl, ho, rfl⟩ := h
      exact .index hfit hc hl ho
    · intro h
      cases h with
      | short hn => exact absurd hfit hn
      | index _ hc hl ho => exact ⟨_, _, _, hc, hl, ho, rfl⟩

end Item

/-- The reading `x` goes through the items in turn and stops at the first that has a defect. -/
def Visits {α : Type} (b : Bytes) (n : Counts) (x : Except Fault α) (items : List Item) : Prop :=
  (fun _ => ()) <$> x = forM items (Item.check b n)

namespace Visits

variable {α β : Type} {b : Bytes} {n : Counts} {o : ByteOrder} {x : Except Fault α}
  {is js : List Item}

theorem pure (a : α) : Visits b n (pure a) [] := rfl

theorem bind {f : α → Except Fault β} (hx : Visits b n x is)
    (hf : ∀ a, x = .ok a → Visits b n (f a) js) : Visits b n (x >>= f) (is ++ js) := by
  unfold Visits at *
  rw [List.forM_append, ← hx]
  cases x with
  | error e => rfl
  | ok a => exact hf a rfl

theorem map (f : α → β) (hx : Visits b n x is) : Visits b n (f <$> x) is := by
  unfold Visits at *
  rw [← hx]
  cases x <;> rfl

theorem mapM {f : β → Except Fault α} {items : β → List Item} {l : List β}
    (h : ∀ a ∈ l, Visits b n (f a) (items a)) : Visits b n (l.mapM f) (l.flatMap items) := by
  induction l with
  | nil => exact .pure []
  | cons a l ih =>
    rw [List.mapM_cons, List.flatMap_cons]
    exact (h a (by simp)).bind fun c _ => (ih fun d hd => h d (by simp [hd])).map (c :: ·)

theorem rowsAt {e : Extent} {width : Nat} {f : Nat → Nat → Except Fault α}
    {item : Nat → Nat → Item} (h : ∀ row pos, Visits b n (f row pos) [item row pos]) :
    Visits b n (Tables.rowsAt e width f) (rowItems e width item) := by
  have hl : rowItems e width item =
      (List.range e.size).flatMap fun i => [item i (e.off + width * i)] :=
    List.map_eq_flatMap
  rw [hl]
  exact (mapM fun i _ => h i _).map List.toArray

theorem ok_iff (h : Visits b n x is) : (∃ a, x = .ok a) ↔ ∀ it ∈ is, it.Sound b n := by
  have hx : (∃ a, x = .ok a) ↔ (fun _ => ()) <$> x = .ok () := by simp [map_eq_ok]
  rw [hx, show (fun _ => ()) <$> x = _ from h, forM_eq_ok]
  simp only [Item.check_eq_ok]

theorem error_iff (h : Visits b n x is) (f : Fault) :
    x = .error f ↔ ∃ before it after, is = before ++ it :: after ∧
      (∀ i ∈ before, i.Sound b n) ∧ it.Defect b n f := by
  have hx : x = .error f ↔ (fun _ => ()) <$> x = .error f := by
    cases x <;> simp [Functor.map, Except.map]
  rw [hx, show (fun _ => ()) <$> x = _ from h, forM_eq_error]
  simp only [Item.check_eq_ok, Item.check_eq_error]

theorem one {it : Item} (h : (fun _ => ()) <$> x = it.check b n) : Visits b n x [it] := by
  unfold Visits
  rw [h]
  simp

/-- Only the place of a word decides whether it can be read. -/
theorem wordAt_bind {width pos : Nat} (f : Nat → Except Fault α) :
    o.wordAt b width pos >>= f = b.slice pos width >>= fun _ => f (o.word b width pos) := by
  rw [ByteOrder.wordAt_eq]
  unfold Bytes.slice
  split <;> rfl

section Rows

variable (o) (row pos : Nat)

theorem wordAt (table : Table) :
    Visits b n (o.wordAt b 4 pos) [⟨table, row, pos, .parts [4], []⟩] := by
  refine one ?_
  simp [Item.check, Item.whole, partsAt, ByteOrder.wordAt]

theorem stringData :
    Visits b n (b.stringAt (o.word b 4 pos)) [stringDataItem b o row pos] := by
  refine one ?_
  simp [Item.check, Item.whole, stringDataItem]

theorem typeAt :
    Visits b n (Tables.typeAt b o n.strings row pos) [typeItem b o row pos] := by
  refine one ?_
  simp [Item.check, Item.whole, typeItem, partsAt, Tables.typeAt, wordAt_bind, Counts.of]

theorem protoRowAt :
    Visits b n (Tables.protoRowAt b o n.strings n.types row pos) [protoItem b o row pos] := by
  refine one ?_
  simp [Item.check, Item.whole, protoItem, partsAt, Tables.protoRowAt, wordAt_bind, Counts.of]

theorem parameterAt :
    Visits b n (Tables.parameterAt b o n.types row pos) [parameterItem b o row pos] := by
  refine one ?_
  simp [Item.check, Item.whole, parameterItem, partsAt, Tables.parameterAt, wordAt_bind, Counts.of]

theorem memberAt (make : Nat → Nat → Nat → α) (table target : Table) :
    Visits b n (Tables.memberAt b o make table target n.strings n.types (n.of target) row pos)
      [memberItem b o table target row pos] := by
  refine one ?_
  simp [Item.check, Item.whole, memberItem, partsAt, Tables.memberAt, wordAt_bind, Counts.of]

theorem classDefAt :
    Visits b n (Tables.classDefAt b o n.types row pos) [classDefItem b o row pos] := by
  refine one ?_
  simp [Item.check, Item.whole, classDefItem, partsAt, Tables.classDefAt, wordAt_bind, Counts.of]

theorem parametersAt {p : Proto} :
    Visits b n (Tables.parametersAt b o n.types row p) (listItems b o row p.parametersOff) := by
  unfold Tables.parametersAt listItems
  split
  · exact .pure p
  · refine (wordAt o row p.parametersOff .protoIds).bind fun size hs => ?_
    obtain ⟨-, rfl⟩ := ByteOrder.wordAt_eq_ok.mp hs
    rw [bind_pure_comp]
    exact (rowsAt fun _ => parameterAt o row).map _

end Rows

theorem stringsAt (e : Extent) : Visits b n (Tables.stringsAt b o e)
    (rowItems e 4 stringIdItem ++ rowItems e 4 (stringDataItem b o)) := by
  refine (rowsAt fun row pos => wordAt o row pos .stringIds).bind fun offsets ho => ?_
  have hw (_ pos off : Nat) :
      o.wordAt b 4 pos = .ok off ↔ (pos + 4 ≤ b.size ∧ True) ∧ off = o.word b 4 pos := by
    simp [ByteOrder.wordAt_eq_ok]
  obtain ⟨-, rfl⟩ := (rowsAt_eq_ok (fun _ => True) hw e offsets).mp ho
  rw [mapM_zipIdx_rows]
  have hd : Visits b n (Tables.rowsAt e 4 fun _ pos => b.stringAt (o.word b 4 pos))
      (rowItems e 4 (stringDataItem b o)) := rowsAt fun row pos => stringData o row pos
  exact hd

theorem protosAt (e : Extent) : Visits b n (Tables.protosAt b o e n.strings n.types)
    (rowItems e 12 (protoItem b o) ++ (List.range e.size).flatMap fun i =>
      listItems b o i (o.word b 4 (e.off + 12 * i + 8))) := by
  refine (rowsAt fun row pos => protoRowAt o row pos).bind fun rows hr => ?_
  obtain ⟨-, rfl⟩ :=
    (rowsAt_eq_ok (fun p : Proto => p.shorty < n.strings ∧ p.returnType < n.types)
      (fun _ _ _ => protoRowAt_eq_ok) e rows).mp hr
  rw [mapM_zipIdx_rows]
  exact (mapM fun i _ => parametersAt o i).map List.toArray

theorem tables (h : Header) :
    Visits b h.counts (Tables.ofBytes b h) (readingOrder b h) := by
  unfold readingOrder Tables.ofBytes
  simp only [List.append_assoc]
  rw [← List.append_assoc]
  refine (stringsAt h.strings).bind fun strings hs => ?_
  obtain ⟨-, rfl⟩ := stringsAt_eq_ok.mp hs
  rw [Extent.size_rows]
  refine (rowsAt fun row pos => typeAt (n := h.counts) h.order row pos).bind fun types ht => ?_
  obtain ⟨-, rfl⟩ := typesAt_eq_ok.mp ht
  rw [Extent.size_rows, ← List.append_assoc]
  refine (protosAt (n := h.counts) h.protos).bind fun protos hp => ?_
  obtain ⟨-, rfl⟩ := protosAt_eq_ok.mp hp
  rw [Extent.size_rows]
  refine (rowsAt fun row pos =>
    memberAt (n := h.counts) h.order row pos _ .fieldIds .typeIds).bind fun fields _ => ?_
  refine (rowsAt fun row pos =>
    memberAt (n := h.counts) h.order row pos _ .methodIds .protoIds).bind fun methods _ => ?_
  rw [bind_pure_comp]
  exact (rowsAt fun row pos => classDefAt (n := h.counts) h.order row pos).map _

end Visits

end Tables

end DexRefs
