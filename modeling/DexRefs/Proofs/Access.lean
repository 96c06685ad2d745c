import DexRefs.Image.Tables
import DexRefs.Proofs.StringItem

/-!
The index tables read by position.  Every row stands at a place that its table's extent gives, so
that each can be read on its own, without a cursor and in any order of visits; what a loader gives
is the rows' values in turn, or the fault of the first row that has one.  The loaders of the
tables, which go through the bytes with one cursor, have exactly these outcomes.
-/

set_option autoImplicit false

namespace DexRefs

namespace Tables

section Places

variable (b : Bytes) (o : ByteOrder)

def inRange (table : Table) (row index limit : Nat) (target : Table) (offset : Nat) :
    Except Fault Unit :=
  if index < limit then .ok ()
  else .error (.indexOutOfRange table row index limit target offset)

def rowsAt {α : Type} (e : Extent) (width : Nat) (item : Nat → Nat → Except Fault α) :
    Except Fault (Array α) :=
  List.toArray <$> (List.range e.size).mapM fun i => item i (e.off + width * i)

def stringsAt (e : Extent) : Except Fault (Array String) := do
  let offsets ← rowsAt e 4 fun _ pos => o.wordAt b 4 pos
  List.toArray <$> offsets.toList.zipIdx.mapM fun p => b.stringAt p.1

def typeAt (strings row pos : Nat) : Except Fault Nat := do
  let descriptor ← o.wordAt b 4 pos
  inRange .typeIds row descriptor strings .stringIds pos
  pure descriptor

def protoRowAt (strings types row pos : Nat) : Except Fault Proto := do
  let shorty ← o.wordAt b 4 pos
  let returnType ← o.wordAt b 4 (pos + 4)
  let parametersOff ← o.wordAt b 4 (pos + 4 + 4)
  inRange .protoIds row shorty strings .stringIds pos
  inRange .protoIds row returnType types .typeIds pos
  pure ⟨shorty, returnType, parametersOff, []⟩

def parameterAt (types row pos : Nat) : Except Fault Nat := do
  let type ← o.wordAt b 2 pos
  inRange .protoIds row type types .typeIds pos
  pure type

def parametersAt (types row : Nat) (p : Proto) : Except Fault Proto :=
  if p.parametersOff = 0 then pure p
  else do
    let size ← o.wordAt b 4 p.parametersOff
    let parameters ← rowsAt ⟨size, p.parametersOff + 4⟩ 2 fun _ pos => parameterAt b o types row pos
    pure { p with parameters := parameters.toList }

def protosAt (e : Extent) (strings types : Nat) : Except Fault (Array Proto) := do
  let rows ← rowsAt e 12 (protoRowAt b o strings types)
  List.toArray <$> rows.toList.zipIdx.mapM fun p => parametersAt b o types p.2 p.1

def memberAt {α : Type} (make : Nat → Nat → Nat → α) (table target : Table)
    (strings types limit row pos : Nat) : Except Fault α := do
  let owner ← o.wordAt b 2 pos
  let index ← o.wordAt b 2 (pos + 2)
  let name ← o.wordAt b 4 (pos + 2 + 2)
  inRange table row owner types .typeIds pos
  inRange table row index limit target pos
  inRange table row name strings .stringIds pos
  pure (make owner index name)

def fieldAt (strings types row pos : Nat) : Except Fault FieldId :=
  memberAt b o FieldId.mk .fieldIds .typeIds strings types types row pos

def methodAt (strings types protos row pos : Nat) : Except Fault MethodId :=
  memberAt b o MethodId.mk .methodIds .protoIds strings types protos row pos

def classDefAt (types row pos : Nat) : Except Fault Nat := do
  let type ← o.wordAt b 4 pos
  let _ ← b.slice (pos + 4) 28
  inRange .classDefs row type types .typeIds pos
  pure type

end Places

/-- The tables that a header describes, read by position. -/
def ofBytes (b : Bytes) (h : Header) : Except Fault Tables := do
  let strings ← stringsAt b h.order h.strings
  let types ← rowsAt h.types 4 (typeAt b h.order strings.size)
  let protos ← protosAt b h.order h.protos strings.size types.size
  let fields ← rowsAt h.fields 8 (fieldAt b h.order strings.size types.size)
  let methods ← rowsAt h.methods 8 (methodAt b h.order strings.size types.size protos.size)
  let classDefs ← rowsAt h.classDefs 32 (classDefAt b h.order types.size)
  pure { strings, types, protos, fields, methods, classDefs }

variable {b : Bytes} {o : ByteOrder}

open Reader

theorem check_reads (table : Table) (row index limit : Nat) (target : Table) (offset : Nat)
    (c : Cursor) :
    Reads (check table row index limit target offset) b c
      (inRange table row index limit target offset) c := by
  unfold check inRange
  split
  · exact .pure ()
  · exact .fail _

theorem rows_jumps {α : Type} {item : Nat → Reader α} {x : Nat → Nat → Except Fault α}
    {width : Nat} (e : Extent)
    (h : ∀ i pos, Reads (item i) b ⟨pos, o⟩ (x i pos) ⟨pos + width, o⟩) :
    Jumps (seek e.off >>= fun _ => rows e.size item) b o (rowsAt e width x) :=
  .seek ⟨_, .rows e.size width e.off o fun i _ => h i _⟩

theorem readStrings_jumps (e : Extent) : Jumps (readStrings e) b o (stringsAt b o e) := by
  unfold readStrings
  split
  · next h =>
    have hx : stringsAt b o e = .ok #[] := by simp only [stringsAt, rowsAt, h]; rfl
    rw [hx]
    exact Jumps.pure #[] b o
  · refine .bind (rows_jumps e fun _ pos => .u32 b pos o) fun offsets _ => ?_
    refine .each (x := fun _ off => b.stringAt off) (fun _ off => ?_) offsets
    exact .seek (Reads.string b off o)

theorem readType_reads (strings row pos : Nat) :
    Reads (readType strings row) b ⟨pos, o⟩ (typeAt b o strings row pos) ⟨pos + 4, o⟩ :=
  .tell <| .bind (.u32 b pos o) fun _ _ =>
    .bind (check_reads ..) fun _ _ => .pure _

theorem readProtoRow_reads (strings types row pos : Nat) :
    Reads (readProtoRow strings types row) b ⟨pos, o⟩ (protoRowAt b o strings types row pos)
      ⟨pos + 12, o⟩ :=
  .tell <| .bind (.u32 b pos o) fun _ _ =>
    .bind (.u32 b (pos + 4) o) fun _ _ =>
    .bind (.u32 b (pos + 4 + 4) o) fun _ _ =>
    .bind (check_reads ..) fun _ _ => .bind (check_reads ..) fun _ _ => .pure _

theorem readParameter_reads (types row pos : Nat) :
    Reads (readParameter types row) b ⟨pos, o⟩ (parameterAt b o types row pos) ⟨pos + 2, o⟩ :=
  .tell <| .bind (.u16 b pos o) fun _ _ =>
    .bind (check_reads ..) fun _ _ => .pure _

theorem readParameters_jumps (types row : Nat) (p : Proto) :
    Jumps (readParameters types row p) b o (parametersAt b o types row p) := by
  unfold readParameters parametersAt
  split
  · exact .pure p b o
  · refine .seek (Reads.bind_exists (.u32 b _ o) fun size _ => ?_)
    have hr := Reads.rows size 2 (p.parametersOff + 4) o
      fun i _ => readParameter_reads (b := b) types row (p.parametersOff + 4 + 2 * i)
    exact ⟨_, hr.bind fun _ _ => .pure _⟩

theorem readProtos_jumps (e : Extent) (strings types : Nat) :
    Jumps (readProtos e strings types) b o (protosAt b o e strings types) :=
  .bind (rows_jumps e (readProtoRow_reads strings types)) fun rows _ =>
    .each (readParameters_jumps types) rows

def readMember {α : Type} (make : Nat → Nat → Nat → α) (table target : Table)
    (strings types limit row : Nat) : Reader α := do
  let off ← Reader.tell
  let owner ← Reader.u16
  let index ← Reader.u16
  let name ← Reader.u32
  check table row owner types .typeIds off
  check table row index limit target off
  check table row name strings .stringIds off
  pure (make owner index name)

theorem readMember_reads {α : Type} (make : Nat → Nat → Nat → α) (table target : Table)
    (strings types limit row pos : Nat) :
    Reads (readMember make table target strings types limit row) b ⟨pos, o⟩
      (memberAt b o make table target strings types limit row pos) ⟨pos + 8, o⟩ :=
  .tell <| .bind (.u16 b pos o) fun _ _ =>
    .bind (.u16 b (pos + 2) o) fun _ _ =>
    .bind (.u32 b (pos + 2 + 2) o) fun _ _ =>
    .bind (check_reads ..) fun _ _ => .bind (check_reads ..) fun _ _ =>
    .bind (check_reads ..) fun _ _ => .pure _

theorem readField_reads (strings types row pos : Nat) :
    Reads (readField strings types row) b ⟨pos, o⟩ (fieldAt b o strings types row pos)
      ⟨pos + 8, o⟩ :=
  readMember_reads FieldId.mk .fieldIds .typeIds strings types types row pos

theorem readMethod_reads (strings types protos row pos : Nat) :
    Reads (readMethod strings types protos row) b ⟨pos, o⟩
      (methodAt b o strings types protos row pos) ⟨pos + 8, o⟩ :=
  readMember_reads MethodId.mk .methodIds .protoIds strings types protos row pos

theorem readClassDef_reads (types row pos : Nat) :
    Reads (readClassDef types row) b ⟨pos, o⟩ (classDefAt b o types row pos) ⟨pos + 32, o⟩ :=
  .tell <| .bind (.u32 b pos o) fun _ _ =>
    .bind (.take (by decide) b (pos + 4) o) fun _ _ =>
    .bind (check_reads ..) fun _ _ => .pure _

/-- The loader, with its one cursor, has the outcome of reading by position. -/
theorem read_jumps (b : Bytes) (h : Header) :
    Jumps (Tables.read h) b h.order (ofBytes b h) :=
  .bind (readStrings_jumps h.strings) fun strings _ =>
    .bind (rows_jumps h.types (readType_reads strings.size)) fun types _ =>
    .bind (readProtos_jumps h.protos strings.size types.size) fun protos _ =>
    .bind (rows_jumps h.fields (readField_reads strings.size types.size)) fun _ _ =>
    .bind (rows_jumps h.methods (readMethod_reads strings.size types.size protos.size)) fun _ _ =>
    .bind (rows_jumps h.classDefs (readClassDef_reads types.size)) fun _ _ =>
    .pure _ b h.order

end Tables

end DexRefs
