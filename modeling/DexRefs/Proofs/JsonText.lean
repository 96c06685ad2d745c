import DexRefs.Proofs.NumberText
import Mathlib.Data.List.DropRight

/-!
Reading JSON.  A text that is written for a value is one JSON text, which says what the value
holds: reading it gives that back, and leaves nothing.
-/

set_option autoImplicit false

namespace DexRefs

namespace Json

/-- What a JSON text says.  Numbers are told apart by their numerals. -/
inductive Datum where
  | null
  | bool (b : Bool)
  | number (numeral : List Char)
  | string (s : String)
  | array (items : List Datum)
  | object (members : List (String × Datum))

def Datum.get? (d : Datum) (key : String) : Option Datum :=
  match d with
  | .object ms => ms.lookup key
  | _ => none

/-! ### The reader -/

def isBlank (c : Char) : Bool :=
  c = ' ' || c = '\n' || c = '\r' || c = '\t'

def skip (cs : List Char) : List Char :=
  cs.dropWhile isBlank

def hexValue? (c : Char) : Option Nat :=
  if c.isDigit then some (c.toNat - 48)
  else if 'a' ≤ c ∧ c ≤ 'f' then some (c.toNat - 87)
  else if 'A' ≤ c ∧ c ≤ 'F' then some (c.toNat - 55)
  else none

def charOf? (a b c d : Char) : Option Char := do
  let n := ((← hexValue? a) * 16 + (← hexValue? b)) * 256 + (← hexValue? c) * 16 + (← hexValue? d)
  if n.isValidChar then some (Char.ofNat n) else none

def escaped? : Char → Option Char
  | '\x22' => some '\x22'
  | '\x5c' => some '\x5c'
  | '/' => some '/'
  | 'b' => some '\x08'
  | 'f' => some '\x0c'
  | 'n' => some '\n'
  | 'r' => some '\r'
  | 't' => some '\t'
  | _ => none

def readString : List Char → Option (List Char × List Char)
  | [] => none
  | '\x22' :: cs => some ([], cs)
  | '\x5c' :: 'u' :: a :: b :: c :: d :: cs => do
    let x ← charOf? a b c d
    let (s, rest) ← readString cs
    some (x :: s, rest)
  | '\x5c' :: c :: cs => do
    let x ← escaped? c
    let (s, rest) ← readString cs
    some (x :: s, rest)
  | c :: cs =>
    if c.toNat < 0x20 then none
    else do
      let (s, rest) ← readString cs
      some (c :: s, rest)

def inNumeral (c : Char) : Bool :=
  c.isDigit || c = '-' || c = '+' || c = '.' || c = 'e' || c = 'E'

def readWord : List Char → Option (Datum × List Char)
  | 'n' :: 'u' :: 'l' :: 'l' :: cs => some (.null, cs)
  | 't' :: 'r' :: 'u' :: 'e' :: cs => some (.bool true, cs)
  | 'f' :: 'a' :: 'l' :: 's' :: 'e' :: cs => some (.bool false, cs)
  | cs =>
    let numeral := cs.takeWhile inNumeral
    if isNumeral numeral then some (.number numeral, cs.dropWhile inNumeral) else none

mutual

/-- Reads what a JSON text says, at most `fuel` levels and items of it. -/
def readDatum : (fuel : Nat) → List Char → Option (Datum × List Char)
  | 0, _ => none
  | fuel + 1, cs =>
    match skip cs with
    | '\x22' :: cs => (readString cs).map fun (s, rest) => (.string (String.ofList s), rest)
    | '[' :: cs =>
      match skip cs with
      | ']' :: rest => some (.array [], rest)
      | cs => (readItems fuel cs).map fun (ds, rest) => (.array ds, rest)
    | '\x7b' :: cs =>
      match skip cs with
      | '\x7d' :: rest => some (.object [], rest)
      | cs => (readMembers fuel cs).map fun (ms, rest) => (.object ms, rest)
    | cs => readWord cs

def readItems : (fuel : Nat) → List Char → Option (List Datum × List Char)
  | 0, _ => none
  | fuel + 1, cs => do
    let (d, cs) ← readDatum fuel cs
    match skip cs with
    | ',' :: cs =>
      let (ds, rest) ← readItems fuel cs
      some (d :: ds, rest)
    | ']' :: rest => some ([d], rest)
    | _ => none

def readMembers : (fuel : Nat) → List Char → Option (List (String × Datum) × List Char)
  | 0, _ => none
  | fuel + 1, cs =>
    match skip cs with
    | '\x22' :: cs => do
      let (k, cs) ← readString cs
      match skip cs with
      | ':' :: cs =>
        let (d, cs) ← readDatum fuel cs
        match skip cs with
        | ',' :: cs =>
          let (ms, rest) ← readMembers fuel cs
          some ((String.ofList k, d) :: ms, rest)
        | '\x7d' :: rest => some ([(String.ofList k, d)], rest)
        | _ => none
      | _ => none
    | _ => none

end

/-- Reads one JSON text, after which nothing may follow. -/
def read (s : String) : Option Datum :=
  match readDatum (s.toList.length + 1) s.toList with
  | some (d, rest) => if (skip rest).isEmpty then some d else none
  | none => none

/-! ### What is written -/

mutual

def datum : Value → Datum
  | .null => .null
  | .bool b => .bool b
  | .int i => .number (decimalInt i).toList
  | .float x => .number x.text.toList
  | .text s => .string s
  | .moment m => .string (m.isoWith " ")
  | .list vs => .array (data vs)
  | .table es => .object (members es)

def data : List Value → List Datum
  | [] => []
  | v :: vs => datum v :: data vs

def members : List (String × Value) → List (String × Datum)
  | [] => []
  | (k, v) :: es => (k, datum v) :: members es

end

mutual

def isWritable : Value → Bool
  | .float (.finite ..) => true
  | .float _ => false
  | .list vs => areWritable vs
  | .table es => entriesWritable es
  | _ => true

def areWritable : List Value → Bool
  | [] => true
  | v :: vs => isWritable v && areWritable vs

def entriesWritable : List (String × Value) → Bool
  | [] => true
  | (_, v) :: es => isWritable v && entriesWritable es

end

/-! ### Strings -/

theorem readString_control {n : Nat} (hn : n < 0x20) (cs : List Char) :
    readString ('\x5c' :: 'u' :: hexDigits 4 n ++ cs) =
      (readString cs).map fun p => (Char.ofNat n :: p.1, p.2) := by
  have hdigits : ∀ k < 0x20, hexDigits 4 k =
        ['0', '0', Nat.digitChar (k / 16), Nat.digitChar (k % 16)] ∧
      charOf? '0' '0' (Nat.digitChar (k / 16)) (Nat.digitChar (k % 16)) =
        some (Char.ofNat k) := by
    decide +kernel
  obtain ⟨hfour, hchar⟩ := hdigits n hn
  rw [hfour]
  simp only [List.cons_append, List.nil_append, readString, hchar]
  cases readString cs <;> rfl

theorem readString_escaped {l c : Char} (hl : l ≠ 'u') (hc : escaped? l = some c)
    (cs : List Char) :
    readString ('\x5c' :: l :: cs) = (readString cs).map fun p => (c :: p.1, p.2) := by
  rw [readString.eq_def]
  split
  next h => cases h
  next h => cases h
  next h =>
    cases h
    exact absurd rfl hl
  next h =>
    cases h
    simp only [hc]
    cases readString cs <;> rfl
  next hslash h =>
    cases h
    exact (hslash l cs rfl rfl).elim

/-- A character is written by a letter or by its number, or stands for itself. -/
theorem escapeChar_cases (c : Char) :
    (∃ l, l ≠ 'u' ∧ escaped? l = some c ∧ escapeChar c = ['\x5c', l]) ∨
      (c.toNat < 0x20 ∧ escapeChar c = '\x5c' :: 'u' :: hexDigits 4 c.toNat) ∨
      (¬c.toNat < 0x20 ∧ c ≠ '\x22' ∧ c ≠ '\x5c' ∧ escapeChar c = [c]) := by
  unfold escapeChar
  split_ifs with hquote hslash hline hreturn htab hback hfeed hcontrol
  · exact .inl ⟨'\x22', by decide, by subst hquote; rfl, rfl⟩
  · exact .inl ⟨'\x5c', by decide, by subst hslash; rfl, rfl⟩
  · exact .inl ⟨'n', by decide, by subst hline; rfl, rfl⟩
  · exact .inl ⟨'r', by decide, by subst hreturn; rfl, rfl⟩
  · exact .inl ⟨'t', by decide, by subst htab; rfl, rfl⟩
  · exact .inl ⟨'b', by decide, by subst hback; rfl, rfl⟩
  · exact .inl ⟨'f', by decide, by subst hfeed; rfl, rfl⟩
  · exact .inr (.inl ⟨hcontrol, rfl⟩)
  · exact .inr (.inr ⟨hcontrol, hquote, hslash, rfl⟩)

theorem readString_plain {c : Char} (hcontrol : ¬c.toNat < 0x20) (hquote : c ≠ '\x22')
    (hslash : c ≠ '\x5c') (cs : List Char) :
    readString (c :: cs) = (readString cs).map fun p => (c :: p.1, p.2) := by
  rw [readString.eq_def]
  split
  next h => cases h
  next h =>
    cases h
    exact absurd rfl hquote
  next h =>
    cases h
    exact absurd rfl hslash
  next h =>
    cases h
    exact absurd rfl hslash
  next h =>
    cases h
    rw [if_neg hcontrol]
    cases readString cs <;> rfl

theorem readString_escapeChar (c : Char) (cs : List Char) :
    readString (escapeChar c ++ cs) = (readString cs).map fun p => (c :: p.1, p.2) := by
  obtain ⟨l, hl, hc, htext⟩ | ⟨hcontrol, htext⟩ | ⟨hcontrol, hquote, hslash, htext⟩ :=
    escapeChar_cases c
  · rw [htext]
    exact readString_escaped hl hc cs
  · rw [htext, List.cons_append, List.cons_append]
    have h := readString_control hcontrol cs
    rwa [Char.ofNat_toNat] at h
  · rw [htext]
    exact readString_plain hcontrol hquote hslash cs

theorem readString_flatMap (s rest : List Char) :
    readString (s.flatMap escapeChar ++ '\x22' :: rest) = some (s, rest) := by
  induction s with
  | nil => rw [List.flatMap_nil, List.nil_append, readString]
  | cons c cs ih =>
    rw [List.flatMap_cons, List.append_assoc, readString_escapeChar, ih]
    rfl

/-! ### Words -/

theorem skip_append {bs : List Char} (h : ∀ b ∈ bs, isBlank b = true) (cs : List Char) :
    skip (bs ++ cs) = skip cs :=
  List.dropWhile_append_of_pos h

theorem skip_cons {c : Char} (h : isBlank c = false) (cs : List Char) :
    skip (c :: cs) = c :: cs :=
  List.dropWhile_cons_of_neg (by simp [h])

def Follows (rest : List Char) : Prop :=
  ∀ c ∈ rest.head?, inNumeral c = false

variable {fuel : Nat} {cs cs' rest : List Char}

theorem readDatum_skip (h : skip cs = skip cs') : readDatum fuel cs = readDatum fuel cs' := by
  cases fuel with
  | zero => rw [readDatum, readDatum]
  | succ fuel => rw [readDatum, readDatum, h]

theorem readItems_skip (h : skip cs = skip cs') : readItems fuel cs = readItems fuel cs' := by
  cases fuel with
  | zero => rw [readItems, readItems]
  | succ fuel => rw [readItems, readItems, readDatum_skip h]

theorem readMembers_skip (h : skip cs = skip cs') :
    readMembers fuel cs = readMembers fuel cs' := by
  cases fuel with
  | zero => rw [readMembers, readMembers]
  | succ fuel => rw [readMembers, readMembers, h]

def beginsNumeral (c : Char) : Bool :=
  c = '-' || c.isDigit

theorem readDatum_numeral {c : Char} (hc : beginsNumeral c = true) :
    readDatum (fuel + 1) (c :: cs) =
      if isNumeral ((c :: cs).takeWhile inNumeral) then
        some (.number ((c :: cs).takeWhile inNumeral), (c :: cs).dropWhile inNumeral)
      else none := by
  have hblank : isBlank c = false := by
    cases hb : isBlank c with
    | false => rfl
    | true =>
      simp only [isBlank, Bool.or_eq_true, decide_eq_true_eq] at hb
      obtain ((rfl | rfl) | rfl) | rfl := hb <;> cases hc
  rw [readDatum, skip_cons hblank]
  split
  next h =>
    cases h
    cases hc
  next h =>
    cases h
    cases hc
  next h =>
    cases h
    cases hc
  next =>
    rw [readWord.eq_def]
    split
    next h =>
      cases h
      cases hc
    next h =>
      cases h
      cases hc
    next h =>
      cases h
      cases hc
    next => rfl

theorem inNumeral_of_isDigit {c : Char} (h : c.isDigit = true) : inNumeral c = true := by
  simp [inNumeral, h]

theorem forall_inNumeral_of_isExponent (h : isExponent cs = true) :
    ∀ c ∈ cs, inNumeral c = true := by
  cases cs with
  | nil => simp
  | cons e cs =>
    simp only [isExponent, Bool.and_eq_true, Bool.or_eq_true, decide_eq_true_eq] at h
    obtain ⟨he, hdigits⟩ := h
    have hdigits := (areDigits_iff.mp hdigits).2
    refine List.forall_mem_cons.mpr ⟨by obtain rfl | rfl := he <;> rfl, fun c hc => ?_⟩
    unfold withoutSign at hdigits
    split at hdigits
    next =>
      obtain rfl | hc := List.mem_cons.mp hc
      · rfl
      · exact inNumeral_of_isDigit (hdigits c hc)
    next =>
      obtain rfl | hc := List.mem_cons.mp hc
      · rfl
      · exact inNumeral_of_isDigit (hdigits c hc)
    next => exact inNumeral_of_isDigit (hdigits c hc)

theorem forall_inNumeral_of_isFraction (h : isFraction cs = true) :
    ∀ c ∈ cs, inNumeral c = true := by
  unfold isFraction at h
  split at h
  next cs =>
    rw [Bool.and_eq_true] at h
    rw [← List.takeWhile_append_dropWhile (p := (·.isDigit)) (l := cs)]
    refine List.forall_mem_cons.mpr ⟨rfl, List.forall_mem_append.mpr ⟨fun c hc => ?_, ?_⟩⟩
    · exact inNumeral_of_isDigit ((areDigits_iff.mp h.1).2 c hc)
    · exact forall_inNumeral_of_isExponent h.2
  next => exact forall_inNumeral_of_isExponent h

theorem forall_inNumeral_of_isUnsigned (h : isUnsigned cs = true) :
    ∀ c ∈ cs, inNumeral c = true := by
  rw [isUnsigned, isWhole, Bool.and_eq_true, Bool.and_eq_true] at h
  rw [← List.takeWhile_append_dropWhile (p := (·.isDigit)) (l := cs)]
  refine List.forall_mem_append.mpr ⟨fun c hc => ?_, forall_inNumeral_of_isFraction h.2⟩
  exact inNumeral_of_isDigit ((areDigits_iff.mp h.1.1).2 c hc)

theorem forall_inNumeral (h : isNumeral cs = true) : ∀ c ∈ cs, inNumeral c = true := by
  unfold isNumeral at h
  split at h
  next => exact List.forall_mem_cons.mpr ⟨rfl, forall_inNumeral_of_isUnsigned h⟩
  next => exact forall_inNumeral_of_isUnsigned h

theorem exists_cons_of_isUnsigned (h : isUnsigned cs = true) :
    ∃ c ds, cs = c :: ds ∧ c.isDigit = true := by
  rw [isUnsigned, isWhole, Bool.and_eq_true, Bool.and_eq_true] at h
  have hne := (areDigits_iff.mp h.1.1).1
  cases cs with
  | nil => exact absurd rfl hne
  | cons c ds =>
    refine ⟨c, ds, rfl, ?_⟩
    cases hc : c.isDigit with
    | true => rfl
    | false => simp [hc] at hne

theorem exists_cons_of_isNumeral (h : isNumeral cs = true) :
    ∃ c ds, cs = c :: ds ∧ beginsNumeral c = true := by
  unfold isNumeral at h
  split at h
  next => exact ⟨_, _, rfl, rfl⟩
  next =>
    obtain ⟨c, ds, rfl, hc⟩ := exists_cons_of_isUnsigned h
    exact ⟨c, ds, rfl, by simp [beginsNumeral, hc]⟩

theorem readDatum_of_isNumeral (h : isNumeral cs = true) (hrest : Follows rest) :
    readDatum (fuel + 1) (cs ++ rest) = some (.number cs, rest) := by
  obtain ⟨htake, hdrop⟩ := span_append (forall_inNumeral h) hrest
  obtain ⟨c, ds, rfl, hc⟩ := exists_cons_of_isNumeral h
  rw [List.cons_append] at htake hdrop ⊢
  rw [readDatum_numeral hc, htake, hdrop, if_pos h]

theorem readDatum_string (s : String) :
    readDatum (fuel + 1) ((string s).toList ++ rest) = some (.string s, rest) := by
  have htext : (string s).toList ++ rest =
      '\x22' :: (s.toList.flatMap escapeChar ++ '\x22' :: rest) := by
    simp [string]
  have hquote : isBlank '\x22' = false := rfl
  rw [htext, readDatum, skip_cons hquote]
  simp only [readString_flatMap, Option.map_some, String.ofList_toList]

theorem readDatum_atom {v : Value} (hlist : ∀ vs, v ≠ .list vs) (htable : ∀ es, v ≠ .table es)
    (hv : isWritable v = true) (hrest : Follows rest) :
    readDatum (fuel + 1) ((atom v).toList ++ rest) = some (datum v, rest) := by
  cases v with
  | null => rfl
  | bool b => cases b <;> rfl
  | int i => exact readDatum_of_isNumeral (isNumeral_decimalInt i) hrest
  | float x =>
    cases x with
    | finite negative m e =>
      exact readDatum_of_isNumeral (Binary64.isNumeral_text negative m e) hrest
    | nan => cases hv
    | infinite => cases hv
  | text s => exact readDatum_string s
  | moment m => exact readDatum_string (m.isoWith " ")
  | list vs => exact absurd rfl (hlist vs)
  | table es => exact absurd rfl (htable es)

/-! ### Blocks -/

theorem isBlank_of_mem_lineBreak {depth : Nat} {b : Char} (hb : b ∈ (lineBreak depth).toList) :
    isBlank b = true := by
  simp only [lineBreak, String.toList_ofList, List.mem_cons, List.mem_replicate] at hb
  obtain rfl | ⟨-, rfl⟩ := hb <;> rfl

theorem skip_lineBreak (depth : Nat) (cs : List Char) :
    skip ((lineBreak depth).toList ++ cs) = skip cs :=
  skip_append (fun _ => isBlank_of_mem_lineBreak) cs

def listed (depth : Nat) : List String → List Char
  | [] => []
  | [s] => s.toList
  | s :: t :: ss => s.toList ++ ',' :: (lineBreak depth).toList ++ listed depth (t :: ss)

theorem listed_cons {depth : Nat} {s : String} {ss : List String} (h : ss ≠ []) :
    listed depth (s :: ss) = s.toList ++ ',' :: (lineBreak depth).toList ++ listed depth ss := by
  cases ss with
  | nil => exact absurd rfl h
  | cons t ss => rw [listed]

theorem toList_intercalate_lines (depth : Nat) (ss : List String) :
    (("," ++ lineBreak depth).intercalate ss).toList = listed depth ss := by
  induction ss with
  | nil => rfl
  | cons s ss ih =>
    cases ss with
    | nil => rw [String.intercalate_singleton, listed]
    | cons t ss =>
      rw [String.intercalate_cons_cons, String.toList_append, ih, listed]
      simp

theorem toList_block (left right : String) (depth : Nat) {items : List String}
    (h : items ≠ []) : (block left right depth items).toList =
      left.toList ++ ((lineBreak (depth + 1)).toList ++ (listed (depth + 1) items ++
        ((lineBreak depth).toList ++ right.toList))) := by
  have hempty : items.isEmpty = false := by simpa using h
  simp only [block, hempty, Bool.false_eq_true, if_false, String.toList_append,
    ← toList_intercalate_lines, List.append_assoc]

variable {d : Datum} {ds : List Datum} {ms : List (String × Datum)} {cs'' : List Char}

theorem follows_lineBreak (depth : Nat) (cs : List Char) :
    Follows ((lineBreak depth).toList ++ cs) := by
  simp [Follows, lineBreak, inNumeral]

theorem follows_comma (cs : List Char) : Follows (',' :: cs) := by
  simp [Follows, inNumeral]

theorem readItems_last (hd : readDatum fuel cs = some (d, cs')) (hend : skip cs' = ']' :: rest) :
    readItems (fuel + 1) cs = some ([d], rest) := by
  simp only [readItems, hd, Option.bind_eq_bind, Option.bind_some, hend]

theorem readItems_cons (hd : readDatum fuel cs = some (d, cs')) (hnext : skip cs' = ',' :: cs'')
    (hds : readItems fuel cs'' = some (ds, rest)) :
    readItems (fuel + 1) cs = some (d :: ds, rest) := by
  simp only [readItems, hd, Option.bind_eq_bind, Option.bind_some, hnext, hds]

theorem skip_ne_of_readItems (h : readItems fuel cs = some (ds, rest)) : skip cs ≠ ']' :: cs' := by
  intro hskip
  have hcs : skip cs = skip (']' :: cs') := hskip.trans (skip_cons rfl cs').symm
  rw [readItems_skip hcs] at h
  cases fuel with
  | zero => cases h
  | succ fuel =>
    cases fuel with
    | zero => cases h
    | succ fuel => cases h

theorem readDatum_array (h : readItems fuel cs = some (ds, rest)) :
    readDatum (fuel + 1) ('[' :: cs) = some (.array ds, rest) := by
  have hbracket : isBlank '[' = false := rfl
  simp only [readDatum, skip_cons hbracket]
  split
  next hskip => exact absurd hskip (skip_ne_of_readItems h)
  next =>
    have hskip : skip (skip cs) = skip cs := List.dropWhile_idempotent ..
    rw [readItems_skip hskip, h]
    rfl

theorem skip_ne_of_readMembers (h : readMembers fuel cs = some (ms, rest)) :
    skip cs ≠ '\x7d' :: cs' := by
  intro hskip
  cases fuel with
  | zero => cases h
  | succ fuel =>
    rw [readMembers, hskip] at h
    cases h

theorem readDatum_emptyArray : readDatum (fuel + 1) ('[' :: ']' :: rest) =
    some (.array [], rest) := by
  have hleft : isBlank '[' = false := rfl
  have hright : isBlank ']' = false := rfl
  simp only [readDatum, skip_cons hleft, skip_cons hright]

theorem readDatum_emptyObject : readDatum (fuel + 1) ('\x7b' :: '\x7d' :: rest) =
    some (.object [], rest) := by
  have hleft : isBlank '\x7b' = false := rfl
  have hright : isBlank '\x7d' = false := rfl
  simp only [readDatum, skip_cons hleft, skip_cons hright]

theorem readDatum_object (h : readMembers fuel cs = some (ms, rest)) :
    readDatum (fuel + 1) ('\x7b' :: cs) = some (.object ms, rest) := by
  have hbrace : isBlank '\x7b' = false := rfl
  simp only [readDatum, skip_cons hbrace]
  split
  next hskip => exact absurd hskip (skip_ne_of_readMembers h)
  next =>
    have hskip : skip (skip cs) = skip cs := List.dropWhile_idempotent ..
    rw [readMembers_skip hskip, h]
    rfl

theorem readMembers_key (k : String) (cs : List Char) :
    readMembers (fuel + 1) ((string k).toList ++ (": ".toList ++ cs)) =
      (readDatum fuel cs).bind fun (d, cs) =>
        match skip cs with
        | ',' :: cs => (readMembers fuel cs).bind fun (ms, rest) => some ((k, d) :: ms, rest)
        | '\x7d' :: rest => some ([(k, d)], rest)
        | _ => none := by
  have htext : (string k).toList ++ (": ".toList ++ cs) =
      '\x22' :: (k.toList.flatMap escapeChar ++ '\x22' :: ':' :: ' ' :: cs) := by
    simp [string]
  have hquote : isBlank '\x22' = false := rfl
  have hcolon : isBlank ':' = false := rfl
  have hspace : readDatum fuel (' ' :: cs) = readDatum fuel cs := readDatum_skip rfl
  rw [htext, readMembers, skip_cons hquote]
  simp only [readString_flatMap, Option.bind_eq_bind, Option.bind_some, skip_cons hcolon, hspace,
    String.ofList_toList]

theorem readMembers_last {k : String} (hd : readDatum fuel cs = some (d, cs'))
    (hend : skip cs' = '\x7d' :: rest) :
    readMembers (fuel + 1) ((string k).toList ++ (": ".toList ++ cs)) =
      some ([(k, d)], rest) := by
  rw [readMembers_key, hd, Option.bind_some]
  simp only [hend]

theorem readMembers_cons {k : String} (hd : readDatum fuel cs = some (d, cs'))
    (hnext : skip cs' = ',' :: cs'') (hms : readMembers fuel cs'' = some (ms, rest)) :
    readMembers (fuel + 1) ((string k).toList ++ (": ".toList ++ cs)) =
      some ((k, d) :: ms, rest) := by
  rw [readMembers_key, hd, Option.bind_some]
  simp only [hnext, hms, Option.bind_some]

theorem skip_end (outer : Nat) {c : Char} (hc : isBlank c = false) (cs : List Char) :
    skip ((lineBreak outer).toList ++ c :: cs) = c :: cs := by
  rw [skip_lineBreak, skip_cons hc]

theorem length_lineBreak (depth : Nat) : (lineBreak depth).toList.length = 2 * depth + 1 := by
  simp [lineBreak]

theorem indentedAll_ne_nil (depth : Nat) {vs : List Value} (h : vs ≠ []) :
    indentedAll depth vs ≠ [] := by
  cases vs with
  | nil => exact absurd rfl h
  | cons v vs => simp [indentedAll]

theorem indentedEntries_ne_nil (depth : Nat) {es : List (String × Value)} (h : es ≠ []) :
    indentedEntries depth es ≠ [] := by
  cases es with
  | nil => exact absurd rfl h
  | cons e es => simp [indentedEntries]

structure ReadsBack (fuel : Nat) : Prop where
  datum (v : Value) (depth : Nat) (rest : List Char) (hv : isWritable v = true)
    (hfuel : (indented depth v).toList.length < fuel) (hrest : Follows rest) :
    readDatum fuel ((indented depth v).toList ++ rest) = some (datum v, rest)
  items (vs : List Value) (depth outer : Nat) (rest : List Char) (hne : vs ≠ [])
    (hvs : areWritable vs = true)
    (hfuel : (listed depth (indentedAll depth vs)).length + 1 < fuel) :
    readItems fuel (listed depth (indentedAll depth vs) ++
      ((lineBreak outer).toList ++ ']' :: rest)) = some (data vs, rest)
  members (es : List (String × Value)) (depth outer : Nat) (rest : List Char) (hne : es ≠ [])
    (hes : entriesWritable es = true)
    (hfuel : (listed depth (indentedEntries depth es)).length + 1 < fuel) :
    readMembers fuel (listed depth (indentedEntries depth es) ++
      ((lineBreak outer).toList ++ '\x7d' :: rest)) = some (members es, rest)

namespace ReadsBack

variable (h : ReadsBack fuel) {depth outer : Nat}

include h

theorem readDatum_list {vs : List Value} (hvs : areWritable vs = true)
    (hfuel : (indented depth (.list vs)).toList.length < fuel + 1) :
    readDatum (fuel + 1) ((indented depth (.list vs)).toList ++ rest) =
      some (Json.datum (.list vs), rest) := by
  by_cases hne : vs = []
  · subst hne
    have htext : (indented depth (.list [])).toList = ['[', ']'] := by
      simp [indented, indentedAll, block]
    rw [htext]
    exact readDatum_emptyArray
  have htext := toList_block "[" "]" depth (indentedAll_ne_nil (depth + 1) hne)
  rw [indented, htext] at hfuel ⊢
  simp only [List.length_append, length_lineBreak] at hfuel
  have hitems := h.items vs (depth + 1) depth rest hne hvs (by omega)
  have hall : readItems fuel ((lineBreak (depth + 1)).toList ++
      (listed (depth + 1) (indentedAll (depth + 1) vs) ++
        ((lineBreak depth).toList ++ ']' :: rest))) = some (data vs, rest) := by
    rw [readItems_skip (skip_lineBreak ..), hitems]
  simpa [Json.datum] using readDatum_array hall

theorem readDatum_table {es : List (String × Value)} (hes : entriesWritable es = true)
    (hfuel : (indented depth (.table es)).toList.length < fuel + 1) :
    readDatum (fuel + 1) ((indented depth (.table es)).toList ++ rest) =
      some (Json.datum (.table es), rest) := by
  by_cases hne : es = []
  · subst hne
    have htext : (indented depth (.table [])).toList = ['\x7b', '\x7d'] := by
      simp [indented, indentedEntries, block, openBrace, closeBrace]
    rw [htext]
    exact readDatum_emptyObject
  have htext := toList_block openBrace closeBrace depth (indentedEntries_ne_nil (depth + 1) hne)
  rw [indented, htext] at hfuel ⊢
  simp only [List.length_append, length_lineBreak] at hfuel
  have hmembers := h.members es (depth + 1) depth rest hne hes (by omega)
  have hall : readMembers fuel ((lineBreak (depth + 1)).toList ++
      (listed (depth + 1) (indentedEntries (depth + 1) es) ++
        ((lineBreak depth).toList ++ '\x7d' :: rest))) = some (Json.members es, rest) := by
    rw [readMembers_skip (skip_lineBreak ..), hmembers]
  simpa [Json.datum, openBrace, closeBrace] using readDatum_object hall

theorem readDatum_succ (v : Value) (hv : isWritable v = true)
    (hfuel : (indented depth v).toList.length < fuel + 1) (hrest : Follows rest) :
    readDatum (fuel + 1) ((indented depth v).toList ++ rest) = some (Json.datum v, rest) := by
  cases v with
  | list vs => exact h.readDatum_list hv hfuel
  | table es => exact h.readDatum_table hv hfuel
  | _ => exact readDatum_atom (by simp) (by simp) hv hrest

theorem readItems_succ {vs : List Value} (hne : vs ≠ []) (hvs : areWritable vs = true)
    (hfuel : (listed depth (indentedAll depth vs)).length < fuel) :
    readItems (fuel + 1) (listed depth (indentedAll depth vs) ++
      ((lineBreak outer).toList ++ ']' :: rest)) = some (data vs, rest) := by
  match vs with
  | [] => exact absurd rfl hne
  | [v] =>
    simp only [areWritable, Bool.and_true] at hvs
    have hv := h.datum v depth _ hvs hfuel (follows_lineBreak outer (']' :: rest))
    exact readItems_last hv (skip_end outer rfl rest)
  | v :: w :: ws =>
    rw [areWritable, Bool.and_eq_true] at hvs
    rw [indentedAll] at hfuel ⊢
    rw [listed_cons (indentedAll_ne_nil depth (by simp))] at hfuel ⊢
    simp only [List.length_append, List.length_cons, length_lineBreak] at hfuel
    have hv := h.datum v depth (',' :: ((lineBreak depth).toList ++
      (listed depth (indentedAll depth (w :: ws)) ++ ((lineBreak outer).toList ++ ']' :: rest))))
      hvs.1 (by omega) (follows_comma _)
    have hws := h.items (w :: ws) depth outer rest (by simp) hvs.2 (by omega)
    rw [← readItems_skip (skip_lineBreak depth _)] at hws
    simp only [List.append_assoc, List.cons_append]
    exact readItems_cons hv (skip_cons rfl _) hws

theorem readMembers_succ {es : List (String × Value)} (hne : es ≠ [])
    (hes : entriesWritable es = true)
    (hfuel : (listed depth (indentedEntries depth es)).length < fuel) :
    readMembers (fuel + 1) (listed depth (indentedEntries depth es) ++
      ((lineBreak outer).toList ++ '\x7d' :: rest)) = some (Json.members es, rest) := by
  cases es with
  | nil => exact absurd rfl hne
  | cons e es =>
    obtain ⟨k, v⟩ := e
    cases es with
    | nil =>
      simp only [entriesWritable, Bool.and_true] at hes
      simp only [indentedEntries, listed, String.toList_append, List.length_append] at hfuel
      have hv := h.datum v depth _ hes (by omega) (follows_lineBreak outer ('\x7d' :: rest))
      simp only [indentedEntries, listed, String.toList_append, List.append_assoc]
      exact readMembers_last hv (skip_end outer rfl rest)
    | cons e es =>
      rw [entriesWritable, Bool.and_eq_true] at hes
      rw [indentedEntries] at hfuel ⊢
      rw [listed_cons (indentedEntries_ne_nil depth (by simp))] at hfuel ⊢
      simp only [String.toList_append, List.length_append, List.length_cons,
        length_lineBreak] at hfuel
      have hv := h.datum v depth (',' :: ((lineBreak depth).toList ++
        (listed depth (indentedEntries depth (e :: es)) ++
          ((lineBreak outer).toList ++ '\x7d' :: rest)))) hes.1 (by omega) (follows_comma _)
      have hall := h.members (e :: es) depth outer rest (by simp) hes.2 (by omega)
      rw [← readMembers_skip (skip_lineBreak depth _)] at hall
      simp only [String.toList_append, List.append_assoc, List.cons_append]
      exact readMembers_cons hv (skip_cons rfl _) hall

end ReadsBack

theorem readsBack (fuel : Nat) : ReadsBack fuel := by
  -- the characters that a value has beside its parts pay for the steps that lead to them
  induction fuel with
  | zero => exact ⟨by simp, by simp, by simp⟩
  | succ fuel ih =>
    exact ⟨fun v _ _ hv hfuel hrest => ih.readDatum_succ v hv hfuel hrest,
      fun vs _ _ _ hne hvs hfuel => ih.readItems_succ hne hvs (by omega),
      fun es _ _ _ hne hes hfuel => ih.readMembers_succ hne hes (by omega)⟩

end Json

end DexRefs
