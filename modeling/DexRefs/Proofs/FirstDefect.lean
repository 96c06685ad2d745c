import DexRefs.Proofs.ReadingOrder

/-!
Which fault ends the loading of tables.  It is that of the first item in reading order that does not
fit or holds an index out of range, and it tells where that item stands and what is stored there.
-/

set_option autoImplicit false

namespace DexRefs

def Header.extentOf (h : Header) : Table → Extent
  | .stringIds => h.strings
  | .typeIds => h.types
  | .protoIds => h.protos
  | .fieldIds => h.fields
  | .methodIds => h.methods
  | .classDefs => h.classDefs

def Table.width : Table → Nat
  | stringIds => 4
  | typeIds => 4
  | protoIds => 12
  | fieldIds => 8
  | methodIds => 8
  | classDefs => 32

namespace Tables

/-- The place of a row, or of a parameter of a prototype's row. -/
inductive RowAt (b : Bytes) (h : Header) (table : Table) (row : Nat) : Nat → Prop
  | row : RowAt b h table row ((h.extentOf table).off + table.width * row)
  | parameter {off j : Nat} (ht : table = .protoIds)
      (hoff : off = h.order.word b 4 (h.protos.off + 12 * row + 8)) (h0 : off ≠ 0)
      (hj : j < h.order.word b 4 off) : RowAt b h table row (off + 4 + 2 * j)

theorem mem_rowItems {e : Extent} {width : Nat} {item : Nat → Nat → Item} {it : Item} :
    it ∈ rowItems e width item ↔ ∃ i < e.size, item i (e.off + width * i) = it := by
  simp [rowItems]

theorem rowAt_of_mem {b : Bytes} {h : Header} {it : Item} (hit : it ∈ readingOrder b h)
    (hc : it.columns ≠ []) :
    it.row < (h.extentOf it.table).size ∧ RowAt b h it.table it.row it.pos := by
  simp only [readingOrder, List.mem_append, mem_rowItems, List.mem_flatMap, List.mem_range] at hit
  obtain (((((((⟨i, hi, rfl⟩ | ⟨i, hi, rfl⟩) | ⟨i, hi, rfl⟩) | ⟨i, hi, rfl⟩) | ⟨i, hi, hl⟩) |
    ⟨i, hi, rfl⟩) | ⟨i, hi, rfl⟩) | ⟨i, hi, rfl⟩) := hit
  · exact absurd rfl hc
  · exact absurd rfl hc
  · exact ⟨hi, .row⟩
  · exact ⟨hi, .row⟩
  · unfold listItems at hl
    split at hl
    · cases hl
    next h0 =>
      rcases List.mem_cons.mp hl with rfl | hp
      · exact absurd rfl hc
      · obtain ⟨j, hj, rfl⟩ := mem_rowItems.mp hp
        exact ⟨hi, .parameter rfl rfl h0 hj⟩
  · exact ⟨hi, .row⟩
  · exact ⟨hi, .row⟩
  · exact ⟨hi, .row⟩

theorem read_error_iff {b : Bytes} {h : Header} {c₀ c : Cursor} (hh : Header.read b c₀ = .ok h c)
    (f : Fault) : (∃ d, Tables.read h b c = .error f d) ↔
      ∃ it, Reached b h it ∧ it.Defect b h.counts f := by
  obtain ⟨-, rfl⟩ := Header.read_eq_ok.mp hh
  rw [(read_jumps b h).eq_error_iff, (Visits.tables h).error_iff]
  constructor
  · intro hx
    obtain ⟨before, it, after, hr, hb, hd⟩ := hx
    exact ⟨it, ⟨before, after, hr, hb⟩, hd⟩
  · intro hx
    obtain ⟨it, ⟨before, after, hr, hb⟩, hd⟩ := hx
    exact ⟨before, it, after, hr, hb, hd⟩

theorem shortfall_of_not_fits {b : Bytes} {it : Item} {o k : Nat} (hfit : ¬ it.Fits b)
    (hat : it.shortfall b = (o, k)) : it.pos ≤ o ∧ b.size < o + k := by
  have hparts (pos : Nat) (ws : List Nat) (hm : Item.missed b pos ws = (o, k))
      (hn : ¬ (ws = [] ∨ pos + ws.sum ≤ b.size)) : pos ≤ o ∧ b.size < o + k := by
    induction ws generalizing pos with
    | nil => simp at hn
    | cons w ws ih =>
      unfold Item.missed at hm
      rw [List.sum_cons] at hn
      by_cases hw : pos + w ≤ b.size
      · rw [if_pos hw] at hm
        cases ws with
        | nil => simp at hn; omega
        | cons v vs =>
          have hi := ih (pos + w) hm (by simp at hn ⊢; omega)
          omega
      · rw [if_neg hw] at hm
        cases hm
        omega
  unfold Item.Fits at hfit
  unfold Item.shortfall at hat
  cases hf : it.form with
  | parts ws =>
    rw [hf] at hfit hat
    exact hparts it.pos ws hat hfit
  | string =>
    rw [hf] at hat
    cases hat
    omega

/-- The first defect in reading order decides how loading ends.  Where it is an item that does not
fit, bytes are missed in that item.  Where it is an index, the first one from the left in an item
that fits, the fault tells the index as it is stored, where its row or parameter stands, and how
many rows the header declares for the target.  No other fault ends the loader. -/
theorem read_first_defect {b : Bytes} {h : Header} {c₀ c : Cursor}
    (hh : Header.read b c₀ = .ok h c) :
    ((∃ t d, Tables.read h b c = .ok t d) ↔ ∀ it ∈ readingOrder b h, it.Sound b h.counts) ∧
    (∀ o k a, (∃ d, Tables.read h b c = .error (.truncated o k a) d) ↔
      ∃ it, Reached b h it ∧ ¬ it.Fits b ∧ it.shortfall b = (o, k) ∧ a = b.size - o ∧
        it.pos ≤ o ∧ b.size < o + k) ∧
    (∀ table row index limit target offset,
      (∃ d, Tables.read h b c = .error (.indexOutOfRange table row index limit target offset) d) ↔
        ∃ it left right, Reached b h it ∧ it.Fits b ∧
          it.columns = left ++ ⟨index, target⟩ :: right ∧
          (∀ d ∈ left, d.index < h.counts.of d.target) ∧
          limit = h.counts.of target ∧ limit ≤ index ∧
          table = it.table ∧ row = it.row ∧ offset = it.pos ∧
          row < (h.extentOf table).size ∧ RowAt b h table row offset) ∧
    ∀ f d, Tables.read h b c = .error f d →
      f.kind = "TruncatedInputError" ∨ f.kind = "IndexOutOfRangeError" := by
  have herr := read_error_iff hh
  refine ⟨?_, fun o k a => ?_, fun table row index limit target offset => ?_, fun f d hf => ?_⟩
  · obtain ⟨-, rfl⟩ := Header.read_eq_ok.mp hh
    rw [← (Visits.tables h).ok_iff]
    exact exists_congr fun t => (read_jumps b h).eq_ok_iff 112 t
  · rw [herr]
    constructor
    · intro hx
      obtain ⟨it, hr, hd⟩ := hx
      cases hd with
      | short hfit hat => exact ⟨it, hr, hfit, hat, rfl, shortfall_of_not_fits hfit hat⟩
    · intro hx
      obtain ⟨it, hr, hfit, hat, rfl, -⟩ := hx
      exact ⟨it, hr, .short hfit hat⟩
  · rw [herr]
    constructor
    · intro hx
      obtain ⟨it, hr, hd⟩ := hx
      cases hd with
      | @index left right col hfit hcol hleft hout =>
        have hmem : it ∈ readingOrder b h := by
          obtain ⟨before, after, ho, -⟩ := hr
          simp [ho]
        have hat := rowAt_of_mem hmem (by simp [hcol])
        exact ⟨it, left, right, hr, hfit, hcol, hleft, rfl, hout, rfl, rfl, rfl, hat⟩
    · intro hx
      obtain ⟨it, left, right, hr, hfit, hcol, hleft, rfl, hout, rfl, rfl, rfl, -⟩ := hx
      exact ⟨it, hr, .index hfit hcol hleft hout⟩
  · obtain ⟨it, hr, hd⟩ := (herr f).mp ⟨d, hf⟩
    cases hd with
    | short => exact .inl rfl
    | index => exact .inr rfl

def lastRow (n : Nat) : Bytes :=
  (({ version := .v035, order := .big, fileSize := 112 + n, headerSize := 112, strings := ⟨0, 0⟩,
      types := ⟨0, 0⟩, protos := ⟨0, 0⟩, fields := ⟨0, 0⟩, methods := ⟨0, 0⟩,
      classDefs := ⟨1, 112⟩ } : Header).bytes 0 0 ++ (classDefBytes .big 7).take n).toArray

/-- An index is looked at only once its row is complete. -/
theorem read_first_defect_lastRow :
    (∃ h c, Header.read (lastRow 31) ⟨0, .little⟩ = .ok h c ∧
      ∃ d, Tables.read h (lastRow 31) c = .error (.truncated 116 28 27) d) ∧
    ∃ h c, Header.read (lastRow 32) ⟨0, .little⟩ = .ok h c ∧
      ∃ d, Tables.read h (lastRow 32) c =
        .error (.indexOutOfRange .classDefs 0 7 0 .typeIds 112) d := by
  have hh (n : Nat) (hn : n = 31 ∨ n = 32) :
      Header.read (lastRow n) ⟨0, .little⟩ =
        .ok (.located (lastRow n) .big .v035) ⟨112, .big⟩ := by
    refine Header.read_eq_ok.mpr ⟨Header.ofBytes_eq_ok.mpr ?_, rfl⟩
    rcases hn with rfl | rfl <;> decide +kernel
  have ho (n : Nat) (hn : n = 31 ∨ n = 32) :
      readingOrder (lastRow n) (.located (lastRow n) .big .v035) =
        [⟨.classDefs, 0, 112, .parts [4, 28], [⟨7, .typeIds⟩]⟩] := by
    rcases hn with rfl | rfl <;> decide +kernel
  have hcut := read_first_defect (hh 31 (.inl rfl))
  have hall := read_first_defect (hh 32 (.inr rfl))
  refine ⟨⟨_, _, hh 31 (.inl rfl), ?_⟩, ⟨_, _, hh 32 (.inr rfl), ?_⟩⟩
  · refine (hcut.2.1 116 28 27).mpr ⟨_, ⟨[], [], ho 31 (.inl rfl), by simp⟩, ?_, ?_, ?_, ?_, ?_⟩
    · show ¬ (_ ∨ _)
      decide +kernel
    all_goals decide +kernel
  · refine (hall.2.2.1 .classDefs 0 7 0 .typeIds 112).mpr
      ⟨_, [], [], ⟨[], [], ho 32 (.inr rfl), by simp⟩, ?_, rfl, by simp, by decide +kernel,
        by decide, rfl, rfl, rfl, by decide +kernel, ?_⟩
    · show _ ∨ _
      decide +kernel
    · have hrow : RowAt (lastRow 32) (.located (lastRow 32) .big .v035) .classDefs 0 _ := .row
      rwa [show Extent.off _ + Table.width .classDefs * 0 = 112 by decide +kernel] at hrow

end Tables

end DexRefs
