import DexRefs.Proofs.MemberText
import DexRefs.Proofs.ShownResults
import DexRefs.Report.Text

/-!
The lines of the text report.  Each image, class and member that is reported begins a line of its
own, and so does the reason why an image was not decoded.  Such a line is cut where a name that it
shows has a line break, and nowhere else.
-/

set_option autoImplicit false

namespace DexRefs

/-! ### Lines -/

theorem splitOn_intercalate_eq_flatMap {α : Type} [BEq α] [LawfulBEq α] (x : α)
    {ls : List (List α)} (h : ls ≠ []) :
    ([x].intercalate ls).splitOn x = ls.flatMap (·.splitOn x) := by
  induction ls with
  | nil => exact absurd rfl h
  | cons l ls ih =>
    cases ls with
    | nil => simp
    | cons l' ls =>
      have hrest := ih (List.cons_ne_nil l' ls)
      rw [List.intercalate_cons_cons, List.append_assoc, List.singleton_append,
        List.splitOn_append_cons_self, hrest]
      rfl

theorem length_splitOn {α : Type} [BEq α] (x : α) (l : List α) :
    (l.splitOn x).length = l.count x + 1 := by
  induction l with
  | nil => rfl
  | cons a l ih =>
    rw [List.splitOn_cons_eq_if_modifyHead, List.count_cons]
    split
    next => rw [List.length_cons, ih]
    next => rw [List.length_modifyHead, ih, Nat.add_zero]

namespace Report

def pieces (s : String) : List String :=
  (s.toList.splitOn '\n').map String.ofList

def linesOf (s : String) : List String :=
  (s.toList.dropLast.splitOn '\n').map String.ofList

theorem length_pieces (s : String) : (pieces s).length = s.toList.count '\n' + 1 := by
  rw [pieces, List.length_map, length_splitOn]

theorem pieces_eq_singleton {s : String} (h : '\n' ∉ s.toList) : pieces s = [s] := by
  rw [pieces, List.splitOn_eq_singleton h, List.map_singleton, String.ofList_toList]

theorem linesOf_intercalate {ls : List String} (h : ls ≠ []) :
    linesOf ("\n".intercalate ls ++ "\n") = ls.flatMap pieces := by
  have hbreak : "\n".toList = ['\n'] := rfl
  have hne : ls.map String.toList ≠ [] := by simpa using h
  rw [linesOf, String.toList_append, String.toList_intercalate, hbreak, List.dropLast_concat,
    splitOn_intercalate_eq_flatMap '\n' hne, List.map_flatMap, List.flatMap_map]
  rfl

theorem total_eq_zero {ns : List Nat} : total ns = 0 ↔ ∀ n ∈ ns, n = 0 := by
  induction ns with
  | nil => simp [total]
  | cons n ns ih => simp [total, ih]

theorem length_flatMap_pieces (ls : List String) :
    (ls.flatMap pieces).length = ls.length + total (ls.map (·.toList.count '\n')) := by
  induction ls with
  | nil => rfl
  | cons l ls ih =>
    rw [List.flatMap_cons, List.length_append, ih, length_pieces, List.length_cons, List.map_cons,
      total]
    omega

/-- Texts are lines as they stand if and only if none of them has a line break. -/
theorem flatMap_pieces_eq_self {ls : List String} :
    ls.flatMap pieces = ls ↔ ∀ l ∈ ls, '\n' ∉ l.toList := by
  constructor
  · intro h l hl
    have hlength := length_flatMap_pieces ls
    rw [h, Nat.left_eq_add, total_eq_zero] at hlength
    exact List.count_eq_zero.mp (hlength _ (List.mem_map_of_mem hl))
  · intro h
    induction ls with
    | nil => rfl
    | cons l ls ih =>
      obtain ⟨hl, hls⟩ := List.forall_mem_cons.mp h
      rw [List.flatMap_cons, pieces_eq_singleton hl, ih hls, List.singleton_append]

/-! ### Items -/

/-- What the report tells: where an image is from, why it was not decoded, a class, a field, or a
method. -/
inductive Item where
  | image (source : String)
  | failure (kind error : String)
  | cls (c : ClassRef)
  | field (f : FieldRef)
  | method (m : MethodRef)

namespace Item

def heading : Item → String
  | image _ => "# "
  | failure _ _ => "! "
  | cls _ => "class "
  | field _ => "  field "
  | method _ => "  method "

def body : Item → String
  | image source => source
  | failure kind error => kind ++ ": " ++ error
  | cls c => c.dotName ++ " " ++ tag c.internal
  | field f => f.text ++ " " ++ tag f.internal
  | method m => m.text ++ " " ++ tag m.internal

def line (i : Item) : String :=
  i.heading ++ i.body

def texts : Item → List String
  | image source => [source]
  | failure kind error => [kind, error]
  | cls c => [c.name]
  | field f => (Member.field f).names
  | method m => (Member.method m).names

end Item

def classItems (members : Bool) (c : ClassRef) : List Item :=
  .cls c :: if members then c.fields.map .field ++ c.methods.map .method else []

def entryItems (members : Bool) (e : ImageResult) : List Item :=
  .image e.source ::
    match e.error with
    | some error => [.failure (e.errorKind.getD "None") error]
    | none => e.classes.flatMap (classItems members)

def items (members : Bool) (r : ScanResult) : List Item :=
  r.results.flatMap (entryItems members)

theorem classLines_eq_map (members : Bool) (c : ClassRef) :
    classLines members c = (classItems members c).map Item.line := by
  have hclass : "class " ++ c.dotName ++ " " ++ tag c.internal = (Item.cls c).line := by
    simp [Item.line, Item.heading, Item.body, String.append_assoc]
  have hfield : fieldLine = Item.line ∘ Item.field := by
    funext f
    simp [fieldLine, Item.line, Item.heading, Item.body, String.append_assoc]
  have hmethod : methodLine = Item.line ∘ Item.method := by
    funext m
    simp [methodLine, Item.line, Item.heading, Item.body, String.append_assoc]
  rw [classLines, classItems, hclass, hfield, hmethod]
  cases members <;> simp

theorem imageLines_eq_map (members : Bool) (e : ImageResult) :
    imageLines members e = (entryItems members e).map Item.line := by
  unfold imageLines entryItems
  cases e.error with
  | some error => simp [Item.line, Item.heading, Item.body, String.append_assoc]
  | none =>
    have hclasses : classLines members = fun c => (classItems members c).map Item.line :=
      funext (classLines_eq_map members)
    rw [List.map_cons, List.map_flatMap, hclasses]
    rfl

theorem text_eq_intercalate (members : Bool) (r : ScanResult) :
    text members r = "\n".intercalate ((items members r).map Item.line) ++ "\n" := by
  have himages : imageLines members = fun e => (entryItems members e).map Item.line :=
    funext (imageLines_eq_map members)
  rw [text, items, List.map_flatMap, himages]

/-! ### Line breaks -/

theorem newline_not_mem_hexDigits (width n : Nat) : '\n' ∉ hexDigits width n := by
  have hdigits : '\n' ∉ Nat.toDigits 16 n := by
    induction n using Nat.strongRecOn with
    | ind n ih =>
      rw [Nat.toDigits_eq_if (by decide)]
      split
      next => simp
      next hle =>
        have hlt : n / 16 < n := by omega
        simp [ih _ hlt]
  rw [hexDigits, padStart, List.mem_append, List.mem_replicate, not_or]
  exact ⟨fun h => absurd h.2 (by decide), hdigits⟩

theorem newline_not_mem_quotedBytes (bs : List UInt8) : '\n' ∉ (quotedBytes bs).toList := by
  have hmark (cs : List Char) : '\n' ≠ quoteMark cs := by
    unfold quoteMark
    split <;> simp
  have hescape (n : Nat) : '\n' ∉ numericEscape n := by
    unfold numericEscape
    split
    · simp [newline_not_mem_hexDigits]
    · split <;> simp [newline_not_mem_hexDigits]
  have hbyte (cs : List Char) (b : UInt8) : '\n' ∉ quotedByte (quoteMark cs) b := by
    unfold quotedByte
    dsimp only
    split
    next h =>
      simp only [Bool.or_eq_true, beq_iff_eq] at h
      obtain h | h := h <;> simp [h, hmark]
    iterate 3
      split
      next => decide
    split
    next => exact hescape _
    next hbreak _ _ => simpa using fun h => hbreak (by simp [← h])
  rw [quotedBytes, String.toList_ofList]
  simp [hmark, hbyte]

theorem newline_not_mem_message (f : Fault) : '\n' ∉ f.message.toList := by
  have hdecimal (n : Nat) : '\n' ∉ (decimal n).toList := not_mem_decimal (by decide) n
  have hhex (width n : Nat) : '\n' ∉ (hexadecimal width n).toList := by
    rw [hexadecimal, String.toList_ofList]
    exact newline_not_mem_hexDigits width n
  have htable (t : Table) : '\n' ∉ t.name.toList := by cases t <;> simp [Table.name]
  have hwording : '\n' ∉ f.wording.toList := by
    unfold Fault.wording
    split
    next => simp [newline_not_mem_quotedBytes]
    next => simp [hhex]
    next => simp [hdecimal]
    next => simp [hdecimal, htable]
  simp [Fault.message, hwording, hhex]

namespace Item

theorem newline_mem_line {i : Item} : '\n' ∈ i.line.toList ↔ ∃ s ∈ i.texts, '\n' ∈ s.toList := by
  have htag (internal : Bool) : '\n' ∉ (tag internal).toList := by
    cases internal <;> simp [tag]
  have hmember (m : Member) : '\n' ∈ m.text.toList ↔ ∃ s ∈ m.names, '\n' ∈ s.toList :=
    Member.mem_text (by decide) (by decide)
  cases i with
  | image source => simp [line, heading, body, texts]
  | failure kind error => simp [line, heading, body, texts]
  | cls c =>
    have hname : '\n' ∈ c.dotName.toList ↔ '\n' ∈ c.name.toList :=
      Descriptor.mem_dotName (by decide) (by decide)
    simp [line, heading, body, texts, hname, htag]
  | field f =>
    rw [texts, ← hmember, Member.text]
    simp [line, heading, body, htag]
  | method m =>
    rw [texts, ← hmember, Member.text]
    simp [line, heading, body, htag]

end Item

def begins (p l : String) : Bool :=
  p.toList.isPrefixOf l.toList

theorem begins_line {p : String} (hp : p ∈ ["class ", "  field ", "  method "]) (i : Item) :
    begins p i.line = (i.heading == p) := by
  simp only [List.mem_cons, List.not_mem_nil, or_false] at hp
  obtain rfl | rfl | rfl := hp <;> cases i <;>
    simp [begins, Item.line, Item.heading, List.isPrefixOf]

variable {members : Bool}

section Results

variable {r : ScanResult}

theorem linesOf_text (h : r.results ≠ []) :
    linesOf (text members r) = ((items members r).map Item.line).flatMap pieces := by
  have hne : (items members r).map Item.line ≠ [] := by
    obtain ⟨e, es, he⟩ := List.exists_cons_of_ne_nil h
    simp [items, he, entryItems]
  rw [text_eq_intercalate, linesOf_intercalate hne]

theorem linesOf_text_iff (h : r.results ≠ []) :
    linesOf (text members r) = (items members r).map Item.line ↔
      ∀ i ∈ items members r, ∀ s ∈ i.texts, '\n' ∉ s.toList := by
  rw [linesOf_text h, flatMap_pieces_eq_self, List.forall_mem_map]
  simp only [Item.newline_mem_line, not_exists, not_and]

/-- No name of a class that is reported, and none of a member of it, has a line break. -/
def Unbroken (members : Bool) (r : ScanResult) : Prop :=
  ∀ e ∈ r.results, ∀ c ∈ e.classes, '\n' ∉ c.name.toList ∧
    (members = true → ∀ m ∈ c.members, ∀ s ∈ m.names, '\n' ∉ s.toList)

instance (members : Bool) (r : ScanResult) : Decidable (Unbroken members r) :=
  inferInstanceAs (Decidable (∀ e ∈ r.results, ∀ c ∈ e.classes, _ ∧ _))

end Results

/-! ### Counts -/

section Counts

variable {p : String}

def share (p : String) (members : Bool) (c : ClassRef) : Nat :=
  (classItems members c).countP (·.heading == p)

theorem countP_flatMap_eq_total {α β : Type} (q : β → Bool) (f : α → List β) (as : List α) :
    (as.flatMap f).countP q = total (as.map fun a => (f a).countP q) := by
  induction as with
  | nil => rfl
  | cons a as ih => rw [List.flatMap_cons, List.countP_append, ih, List.map_cons, total]

theorem countP_entryItems (hp : p ∈ ["class ", "  field ", "  method "]) (e : ImageResult) :
    (entryItems members e).countP (·.heading == p) =
      if e.ok then total (e.classes.map (share p members)) else 0 := by
  have hother : ∀ q ∈ ["class ", "  field ", "  method "], "# " ≠ q ∧ "! " ≠ q := by simp
  have himage (source : String) : ((Item.image source).heading == p) = false :=
    beq_eq_false_iff_ne.mpr (hother p hp).1
  have hfailure (kind error : String) : ((Item.failure kind error).heading == p) = false :=
    beq_eq_false_iff_ne.mpr (hother p hp).2
  unfold entryItems ImageResult.ok
  cases e.error with
  | some error => simp [himage, hfailure]
  | none =>
    rw [List.countP_cons, countP_flatMap_eq_total, himage]
    rfl

theorem countP_items (hp : p ∈ ["class ", "  field ", "  method "]) (r : ScanResult) :
    (items members r).countP (·.heading == p) =
      total (r.decoded.map fun e => total (e.classes.map (share p members))) := by
  rw [items, countP_flatMap_eq_total, ScanResult.decoded]
  induction r.results with
  | nil => rfl
  | cons e es ih =>
    rw [List.map_cons, total, ih, countP_entryItems hp]
    cases he : e.ok <;> simp [he, total]

theorem total_replicate (k n : Nat) : total (List.replicate k n) = k * n := by
  induction k with
  | zero => simp [total]
  | succ k ih => rw [List.replicate_succ, total, ih, Nat.succ_mul, Nat.add_comm]

theorem share_class (c : ClassRef) : share "class " members c = 1 := by
  cases members <;> simp [share, classItems, Item.heading, Function.comp_def]

theorem share_field (c : ClassRef) :
    share "  field " members c = if members then c.fields.length else 0 := by
  cases members <;> simp [share, classItems, Item.heading, Function.comp_def]

theorem share_method (c : ClassRef) :
    share "  method " members c = if members then c.methods.length else 0 := by
  cases members <;> simp [share, classItems, Item.heading, Function.comp_def]

/-- There are as many items of each kind as classes, fields and methods in decoded images. -/
theorem countP_heading {r : ScanResult} :
    (items members r).countP (·.heading == "class ") = r.tally.classes ∧
    (items members r).countP (·.heading == "  field ") = (if members then r.tally.fields else 0) ∧
    (items members r).countP (·.heading == "  method ") =
      (if members then r.tally.methods else 0) := by
  have hclass : share "class " members = fun _ => 1 := funext share_class
  have hfield : share "  field " members = fun c => if members then c.fields.length else 0 :=
    funext share_field
  have hmethod : share "  method " members = fun c => if members then c.methods.length else 0 :=
    funext share_method
  rw [countP_items (by simp), countP_items (by simp), countP_items (by simp), hclass, hfield,
    hmethod]
  cases members <;>
    simp [ScanResult.tally, ImageResult.fieldRefs, ImageResult.methodRefs, total_replicate]

end Counts

/-! ### Scans -/

/-- How the text report of a result is made up of lines. -/
structure Lined (members : Bool) (r : ScanResult) : Prop where
  lines : linesOf (text members r) = ((items members r).map Item.line).flatMap pieces
  lines_iff : linesOf (text members r) = (items members r).map Item.line ↔ Unbroken members r
  counts : Unbroken members r →
    (linesOf (text members r)).countP (begins "class ") = r.tally.classes ∧
    (linesOf (text members r)).countP (begins "  field ") =
      (if members then r.tally.fields else 0) ∧
    (linesOf (text members r)).countP (begins "  method ") =
      (if members then r.tally.methods else 0)

theorem entryItems_unbroken {scope : Scope} {s : Source} {e : ImageResult}
    (h : Scan.EntryOf scope s e) (hs : '\n' ∉ s.name.toList) :
    (∀ i ∈ entryItems members e, ∀ t ∈ i.texts, '\n' ∉ t.toList) ↔
      ∀ c ∈ e.classes, '\n' ∉ c.name.toList ∧
        (members = true → ∀ m ∈ c.members, ∀ t ∈ m.names, '\n' ∉ t.toList) := by
  cases h with
  | failed hf =>
    rename_i f
    have hkind : '\n' ∉ f.kind.toList := by cases f <;> simp [Fault.kind]
    simp [entryItems, Item.texts, hs, hkind, newline_not_mem_message]
  | decoded hi hl =>
    simp only [entryItems, List.forall_mem_cons, List.forall_mem_flatMap, classItems, Item.texts]
    cases members <;> simp [hs, ClassRef.members, or_imp, forall_and]

theorem Lined.of_entries {r : ScanResult} (hne : r.results ≠ [])
    (h : ∀ e ∈ r.results, ∃ scope s, Scan.EntryOf scope s e ∧ '\n' ∉ s.name.toList) :
    Lined members r := by
  have hiff : linesOf (text members r) = (items members r).map Item.line ↔ Unbroken members r := by
    rw [linesOf_text_iff hne, items, List.forall_mem_flatMap]
    refine forall₂_congr fun e he => ?_
    obtain ⟨scope, s, hentry, hname⟩ := h e he
    exact entryItems_unbroken hentry hname
  refine ⟨linesOf_text hne, hiff, fun hunbroken => ?_⟩
  have hcount {p : String} (hp : p ∈ ["class ", "  field ", "  method "]) :
      (linesOf (text members r)).countP (begins p) =
        (items members r).countP (·.heading == p) := by
    rw [hiff.mpr hunbroken, List.countP_map]
    exact List.countP_congr fun i _ => by rw [Function.comp_apply, begins_line hp]
  rw [hcount (by simp), hcount (by simp), hcount (by simp)]
  exact countP_heading

end Report

namespace Scan

variable {clock : Clock} {settings : ScanSettings} {asked : Value} {target : String} {n : Nat}
  {contents : Vector Bytes n} {positions : Vector Nat n} {hs : List (StreamSource n)}
  {t u : Trace} {r : ScanResult}

theorem entries_of_streams
    (hrun : streams clock settings asked target contents positions hs t = .ok r u) :
    ∃ scope, (hs.map (·.source contents)).mapM (entry settings.failFast.truthy scope) =
      .ok r.results := by
  obtain ⟨_, htraces⟩ := exists_traces_streams clock settings asked target contents positions hs
  obtain ⟨scope, -, hresults⟩ := bind_eq_ok.mp (htraces.ends.eq_of_run hrun)
  obtain ⟨rs, hrs, hr⟩ := bind_eq_ok.mp hresults
  cases hr
  exact ⟨scope, hrs⟩

theorem EntryOf.source_eq {scope : Scope} {s : Source} {e : ImageResult}
    (h : EntryOf scope s e) : e.source = s.name := by
  cases h <;> rfl

end Scan

namespace Report

open Scan

/-- The report on sources without line breaks in their names names them in their order, and its
lines are the pieces between the line breaks of its items: they are the items themselves exactly if
no name that is shown has a line break, and then no kind of item can be counted wrong. -/
theorem text_lines {clock : Clock} {settings : ScanSettings} {asked : Value} {target : String}
    {n : Nat} {contents : Vector Bytes n} {positions : Vector Nat n} {hs : List (StreamSource n)}
    {t u : Trace} {r : ScanResult}
    (hrun : streams clock settings asked target contents positions hs t = .ok r u)
    (hne : hs ≠ []) (hnames : ∀ h ∈ hs, '\n' ∉ h.name.toList) (members : Bool) :
    r.results.map (·.source) = hs.map (·.name) ∧ Lined members r := by
  obtain ⟨scope, hentries⟩ := entries_of_streams hrun
  have hsources : r.results.map (·.source) = hs.map (·.name) := by
    rw [mapM_eq_ok_iff_forall₂, List.forall₂_map_left_iff] at hentries
    exact (map_eq_map_of_forall₂ hentries fun h e he => (entryOf_of_entry he).source_eq.symm).symm
  refine ⟨hsources, .of_entries ?_ fun e he => ?_⟩
  · rintro hnil
    rw [hnil, List.map_nil, eq_comm, List.map_eq_nil_iff] at hsources
    exact hne hsources
  · obtain ⟨s, hs, hentry⟩ := exists_of_mapM_eq_ok hentries e he
    obtain ⟨h, hh, rfl⟩ := List.mem_map.mp hs
    exact ⟨scope, _, entryOf_of_entry hentry, hnames h hh⟩

theorem text_lines_shared :
    ∃ r u, sharedScan .all (.bool false) {} = .ok r u ∧
      r.results.map (·.source) = ["a", "b", "c"] ∧ Lined true r ∧ Unbroken true r ∧
      (linesOf (text true r)).countP (begins "  field ") = 3 := by
  have hcheck : (match sharedScan .all (.bool false) {} with
      | .ok r _ => decide (Unbroken true r ∧ r.tally.fields = 3)
      | .error .. => false) = true := by
    decide +kernel
  cases hrun : sharedScan .all (.bool false) {} with
  | error f u =>
    rw [hrun] at hcheck
    cases hcheck
  | ok r u =>
    rw [hrun] at hcheck
    obtain ⟨hunbroken, hfields⟩ := of_decide_eq_true hcheck
    obtain ⟨hsources, hlined⟩ := text_lines hrun (by simp) (by simp) true
    refine ⟨r, u, rfl, hsources, hlined, hunbroken, ?_⟩
    rw [(hlined.counts hunbroken).2.1, if_pos rfl, hfields]

def brokenImage : Bytes :=
  ({ strings := ["LA internal\nclass B;"], types := [0], classDefs := [0] } : Contents).encode
    .little .v035

def brokenScan : Logged ScanFault ScanResult :=
  streams sharedClock { scope := .text "all", failFast := .bool false } .null "<memory>"
    #v[brokenImage] #v[0] [⟨"classes.dex", 0⟩]

/-- A name makes a line of a class that is not there. -/
theorem text_lines_broken :
    ∃ r u, brokenScan {} = .ok r u ∧ r.tally.classes = 1 ∧
      (items true r).map Item.line = ["# classes.dex", "class A internal\nclass B internal"] ∧
      linesOf (text true r) = ["# classes.dex", "class A internal", "class B internal"] := by
  have hcheck : (match brokenScan {} with
      | .ok r _ => decide (r.tally.classes = 1 ∧
          (items true r).map Item.line = ["# classes.dex", "class A internal\nclass B internal"] ∧
          linesOf (text true r) = ["# classes.dex", "class A internal", "class B internal"])
      | .error .. => false) = true := by
    decide +kernel
  cases hrun : brokenScan {} with
  | error f u =>
    rw [hrun] at hcheck
    cases hcheck
  | ok r u =>
    rw [hrun] at hcheck
    exact ⟨r, u, rfl, of_decide_eq_true hcheck⟩

end Report

end DexRefs
