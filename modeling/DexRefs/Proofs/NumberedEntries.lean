import DexRefs.Proofs.ArchiveFaults

/-!
Which numbered entries of an archive are taken: the longest run of names from the first on that are
all listed, as far as the limit allows.  The run alone decides what the archive is resolved to, and
the first of its entries that cannot be read what it is refused for.
-/

set_option autoImplicit false

namespace DexRefs

namespace Entry

@[simp] theorem length_setBounds (es : List Entry) (bound : Int) :
    (setBounds bound es).length = es.length := by
  induction es generalizing bound with
  | nil => rfl
  | cons e es ih => simp [setBounds, ih]

theorem map_snd_zip_setBounds (bound : Int) (ps : List (Entry × Nat)) :
    ((setBounds bound (ps.map (·.1))).zip (ps.map (·.2))).map Prod.snd = ps.map (·.2) :=
  List.map_snd_zip (by simp)

end Entry

namespace Archive

theorem find?_eq_none {a : Archive} {name : String} :
    a.find? name = none ↔ name ∉ a.names := by
  unfold find?
  dsimp only
  cases hlast : (a.listed.zipIdx.filter (·.1.name = name)).getLast? with
  | none =>
    rw [List.getLast?_eq_none_iff, List.filter_eq_nil_iff] at hlast
    simp only [names, List.mem_map, not_exists, not_and, true_iff]
    intro e he hname
    obtain ⟨i, hi⟩ := List.getElem?_of_mem he
    exact hlast (e, i) (List.mem_zipIdx_iff_getElem?.mpr hi) (by simpa using hname)
  | some p =>
    obtain ⟨hp, hname⟩ := List.mem_filter.mp (List.mem_of_getLast? hlast)
    have hnames : name ∈ a.names := by
      rw [names, List.mem_map]
      exact ⟨p.1, List.fst_mem_of_mem_zipIdx hp, by simpa using hname⟩
    simp only [hnames, not_true_eq_false, iff_false, Option.map_eq_none_iff]
    intro hnone
    rw [List.find?_eq_none] at hnone
    have hpos : p.2 ∈ (a.listed.zipIdx.mergeSort
        fun x y => decide (y.1.offset ≤ x.1.offset)).map (·.2) :=
      List.mem_map_of_mem (List.mem_mergeSort.mpr hp)
    rw [← Entry.map_snd_zip_setBounds a.start] at hpos
    obtain ⟨q, hq, hqp⟩ := List.mem_map.mp hpos
    exact hnone q hq (by simpa using hqp)

theorem read?_eq_none {a : Archive} {name : String} : a.read? name = none ↔ name ∉ a.names := by
  rw [read?, Option.map_eq_none_iff, find?_eq_none]

/-- The entry under a name, if the directory lists the furthest entries first. -/
def findDescending? (a : Archive) (name : String) : Option Entry :=
  match (a.listed.zipIdx.filter (·.1.name = name)).getLast? with
  | some (_, i) => ((Entry.setBounds a.start a.listed).zipIdx.find? (·.2 = i)).map (·.1)
  | none => none

theorem find?_of_descending {a : Archive}
    (h : a.listed.Pairwise fun x y => y.offset ≤ x.offset) (name : String) :
    a.find? name = a.findDescending? name := by
  have hsorted : a.listed.zipIdx.Pairwise fun x y => decide (y.1.offset ≤ x.1.offset) = true := by
    rw [← List.zipIdx_map_fst 0 a.listed, List.pairwise_map] at h
    exact h.imp fun hxy => decide_eq_true hxy
  have hzip : (Entry.setBounds a.start a.listed).zipIdx =
      (Entry.setBounds a.start a.listed).zip (List.range' 0 a.listed.length) := by
    rw [List.zipIdx_eq_zip_range', Entry.length_setBounds]
  unfold find?
  simp only [List.mergeSort_of_pairwise hsorted, List.zipIdx_map_fst, List.zipIdx_map_snd]
  rw [← hzip]
  rfl

def refuses (a : Archive) (name : String) (f : ArchiveFault) : Bool :=
  match (a.findDescending? name).map (Entry.data a.bytes) with
  | some (.error g) => g = f
  | _ => false

theorem read?_of_refuses {a : Archive} {name : String} {f : ArchiveFault}
    (h : a.listed.Pairwise fun x y => y.offset ≤ x.offset) (hf : a.refuses name f = true) :
    a.read? name = some (.error f) := by
  unfold refuses at hf
  rw [read?, find?_of_descending h]
  split at hf
  next g hg => rw [hg, of_decide_eq_true hf]
  next => cases hf

theorem mem_names_of_read {a : Archive} {name : String} {x : Except ArchiveFault Bytes}
    (h : a.read? name = some x) : name ∈ a.names := by
  refine Classical.not_not.mp fun hn => ?_
  rw [read?_eq_none.mpr hn] at h
  cases h

end Archive

namespace Container

open Logged (Adds Ends)

theorem entryName_injective {i j : Nat} (h : entryName i = entryName j) : i = j := by
  have hname (n : Nat) (hn : n ≠ 1) : entryName n = "classes" ++ decimal n ++ ".dex" := by
    rw [entryName, if_neg (by omega), decimalInt, if_neg (by omega), Int.natAbs_natCast]
  have hfirst (n : Nat) (hn : n ≠ 1) : entryName n ≠ entryName (1 : Nat) := by
    rw [hname n hn]
    intro heq
    have hlength := congrArg (·.toList.length) heq
    simp [entryName, decimal] at hlength
  by_cases hi : i = 1 <;> by_cases hj : j = 1
  · rw [hi, hj]
  · exact absurd (hi ▸ h.symm) (hfirst j hj)
  · exact absurd (hj ▸ h) (hfirst i hi)
  · rw [hname i hi, hname j hj, String.append_left_inj, String.append_right_inj] at h
    exact decimal_injective h

/-- Numbers from 1 to `k` all have names in the list, and no greater `k` up to the limit does. -/
structure LongestRun (names : List String) (limit k : Nat) : Prop where
  le : k ≤ limit
  listed : ∀ i < k, entryName (1 + i : Nat) ∈ names
  greatest : ∀ j ≤ limit, (∀ i < j, entryName (1 + i : Nat) ∈ names) → j ≤ k

theorem LongestRun.unique {names : List String} {limit k k' : Nat} (h : LongestRun names limit k)
    (h' : LongestRun names limit k') : k = k' :=
  Nat.le_antisymm (h'.greatest k h.le h.listed) (h.greatest k' h'.le h'.listed)

theorem LongestRun.gap {names : List String} {limit k : Nat} (h : LongestRun names limit k)
    (hk : k < limit) : entryName (1 + k : Nat) ∉ names := by
  intro hmem
  have hle := h.greatest (k + 1) hk fun i hi => by
    obtain hi | rfl := Nat.lt_succ_iff_lt_or_eq.mp hi
    · exact h.listed i hi
    · exact hmem
  omega

theorem longestRun_of_gap {names : List String} {limit k : Nat} (le : k ≤ limit)
    (listed : ∀ i < k, entryName (1 + i : Nat) ∈ names)
    (gap : k < limit → entryName (1 + k : Nat) ∉ names) : LongestRun names limit k := by
  refine ⟨le, listed, fun j hj hlisted => Nat.not_lt.mp fun hkj => ?_⟩
  exact gap (by omega) (hlisted k hkj)

theorem exists_longestRun (names : List String) (limit : Nat) :
    ∃ k, LongestRun names limit k := by
  induction limit with
  | zero => exact ⟨0, longestRun_of_gap (Nat.le_refl 0) (by simp) (by simp)⟩
  | succ limit ih =>
    obtain ⟨k, hk⟩ := ih
    by_cases hnext : k = limit ∧ entryName (1 + k : Nat) ∈ names
    · obtain ⟨rfl, hmem⟩ := hnext
      refine ⟨k + 1, longestRun_of_gap (Nat.le_refl _) (fun i hi => ?_) (by simp)⟩
      obtain hi | rfl := Nat.lt_succ_iff_lt_or_eq.mp hi
      · exact hk.listed i hi
      · exact hmem
    · refine ⟨k, longestRun_of_gap (by have := hk.le; omega) hk.listed fun _ hmem => ?_⟩
      by_cases hlt : k < limit
      · exact hk.gap hlt hmem
      · exact hnext ⟨by have := hk.le; omega, hmem⟩

/-- Sources from number `n` on, each with the name of its number and the data under that name. -/
def Numbered (a : Archive) (n : Nat) (ss : List Source) : Prop :=
  ∀ i (h : i < ss.length), ss[i].name = entryName (n + i : Nat) ∧
    a.read? (entryName (n + i : Nat)) = some (.ok ss[i].bytes)

variable {a : Archive} {limit n : Nat} {ss : List Source} {complete : Bool}

theorem numbered_cons {s : Source} : Numbered a n (s :: ss) ↔
    (s.name = entryName n ∧ a.read? (entryName n) = some (.ok s.bytes)) ∧
      Numbered a (n + 1) ss := by
  simp only [Numbered, List.length_cons, Nat.forall_lt_succ_left', Nat.add_zero,
    List.getElem_cons_zero, List.getElem_cons_succ, ← Nat.add_assoc, Nat.add_right_comm n 1]

theorem walk_succ_eq_nil :
    walk a (limit + 1) n = .ok ([], complete) ↔ complete = false ∧ entryName n ∉ a.names := by
  rw [walk, ← Archive.read?_eq_none]
  cases a.read? (entryName n) with
  | none => simp [eq_comm]
  | some x => simp [bind_eq_ok, map_eq_ok]

theorem walk_succ_eq_cons {s : Source} :
    walk a (limit + 1) n = .ok (s :: ss, complete) ↔
      (s.name = entryName n ∧ a.read? (entryName n) = some (.ok s.bytes)) ∧
        walk a limit (n + 1) = .ok (ss, complete) := by
  obtain ⟨name, bytes⟩ := s
  rw [walk]
  cases a.read? (entryName n) with
  | none => simp
  | some x =>
    simp only [bind_eq_ok, pure_eq_ok, Prod.exists, Prod.mk.injEq, List.cons.injEq,
      Source.mk.injEq, Option.some.injEq]
    constructor
    · rintro ⟨b, rfl, rest, c, hrest, ⟨⟨rfl, rfl⟩, rfl⟩, rfl⟩
      exact ⟨⟨rfl, rfl⟩, hrest⟩
    · rintro ⟨⟨rfl, rfl⟩, hrest⟩
      exact ⟨bytes, rfl, ss, complete, hrest, ⟨⟨rfl, rfl⟩, rfl⟩, rfl⟩

/-- By induction on the limit: the walk goes on as long as there are names. -/
theorem walk_eq_ok : walk a limit n = .ok (ss, complete) ↔
    Numbered a n ss ∧ ss.length ≤ limit ∧ complete = decide (ss.length = limit) ∧
      (ss.length < limit → entryName (n + ss.length : Nat) ∉ a.names) := by
  induction limit generalizing n ss with
  | zero =>
    cases ss with
    | nil => simp [walk, Numbered, eq_comm]
    | cons s ss => simp [walk]
  | succ limit ih =>
    cases ss with
    | nil =>
      rw [walk_succ_eq_nil]
      simp [Numbered]
    | cons s ss =>
      rw [walk_succ_eq_cons, numbered_cons, ih, List.length_cons,
        show n + (ss.length + 1) = n + 1 + ss.length by omega]
      simp [and_assoc]

theorem Readable.listed {k : Nat} (h : Readable a n k) {i : Nat} (hi : i < k) :
    entryName (n + i : Nat) ∈ a.names := by
  obtain ⟨c, hc⟩ := h i hi
  exact Archive.mem_names_of_read hc

theorem LongestRun.lt_of_readable {k j : Nat} {f : ArchiveFault} (h : LongestRun a.names limit k)
    (hj : j < limit) (before : Readable a 1 j)
    (first : a.read? (entryName (1 + j : Nat)) = some (.error f)) : j < k := by
  refine h.greatest (j + 1) hj fun i hi => ?_
  obtain hi | rfl := Nat.lt_succ_iff_lt_or_eq.mp hi
  · exact before.listed hi
  · exact Archive.mem_names_of_read first

theorem longestRun_of_walk (h : walk a limit 1 = .ok (ss, complete)) :
    LongestRun a.names limit ss.length := by
  obtain ⟨hss, hle, -, hgap⟩ := walk_eq_ok.mp h
  exact longestRun_of_gap hle (fun i hi => Archive.mem_names_of_read (hss i hi).2) hgap

theorem Numbered.nodup_names (h : Numbered a n ss) : (ss.map (·.name)).Nodup := by
  refine List.pairwise_iff_getElem.mpr fun i j hi hj hij heq => ?_
  rw [List.length_map] at hi hj
  rw [List.getElem_map, List.getElem_map, (h i hi).1, (h j hj).1] at heq
  have := entryName_injective heq
  omega

def leftOut (names : List String) (limit k : Nat) : List Record :=
  if k = limit ∧ entryName (limit + 1) ∈ names then [stoppedRecord limit] else []

/-- What an archive whose longest run has `k` entries is resolved to, and what is logged. -/
inductive Resolves (a : Archive) (path : String) (limit k : Nat) :
    Except ScanFault (List Source) → List Record → Prop where
  | refused {j : Nat} {f : ArchiveFault} (inside : j < k) (before : Readable a 1 j)
      (first : a.read? (entryName (1 + j : Nat)) = some (.error f)) (defect : f.isDefect = true) :
      Resolves a path limit k (.error (.container (.unreadable path f))) []
  | escaped {j : Nat} {f : ArchiveFault} (inside : j < k) (before : Readable a 1 j)
      (first : a.read? (entryName (1 + j : Nat)) = some (.error f)) (other : f.isDefect = false) :
      Resolves a path limit k (.error (.archive f)) []
  | nothing (none : k = 0) :
      Resolves a path limit k (.error (.container (.noImages path))) (leftOut a.names limit k)
  | taken {ss : List Source} (some : 1 ≤ k) (length : ss.length = k) (numbered : Numbered a 1 ss)
      (distinct : (ss.map (·.name)).Nodup) :
      Resolves a path limit k (.ok ss) (leftOut a.names limit k ++ [heldRecord path k])

variable {b : Bytes} {e : EndRecord} {text : String}

theorem archived_resolves (hopened : Archive.ofEndRecord b e = .ok a) {k : Nat}
    (hk : LongestRun a.names limit k) :
    Resolves a text limit k (archived text b e (.int limit))
      (archivedRecords text b e (.int limit)) := by
  unfold archived archivedRecords
  simp only [hopened, count, Int.toNat_natCast]
  cases hwalk : walk a limit 1 with
  | error f =>
    obtain ⟨j, hj, before, first⟩ := walk_eq_error.mp hwalk
    have inside := hk.lt_of_readable hj before first
    simp only [ofArchiveFault]
    split
    next hf => exact .refused inside before first hf
    next hf => exact .escaped inside before first (by simpa using hf)
  | ok r =>
    obtain ⟨ss, complete⟩ := r
    obtain rfl := hk.unique (longestRun_of_walk hwalk)
    obtain ⟨hss, -, rfl, -⟩ := walk_eq_ok.mp hwalk
    have hleft : (if (decide (ss.length = limit) = true ∧
        a.names.contains (entryName (limit + 1)) = true) then [stoppedRecord limit] else []) =
          leftOut a.names limit ss.length := by
      simp [leftOut]
    dsimp only
    rw [hleft]
    cases ss with
    | nil => simpa using Resolves.nothing rfl
    | cons s ss => exact .taken (by simp) rfl hss hss.nodup_names

theorem walk_congr {a a' : Archive} {k : Nat}
    (hrun : ∀ i < k, a'.read? (entryName (n + i : Nat)) = a.read? (entryName (n + i : Nat)))
    (hgap : k < limit → entryName (n + k : Nat) ∉ a.names ∧ entryName (n + k : Nat) ∉ a'.names) :
    (walk a' limit n).map Prod.fst = (walk a limit n).map Prod.fst := by
  -- on the limit, with the run one shorter from the next number on
  induction limit generalizing n k with
  | zero => rfl
  | succ limit ih =>
    cases k with
    | zero =>
      obtain ⟨h, h'⟩ := hgap (by omega)
      rw [Nat.add_zero] at h h'
      have hnil {a : Archive} (h : entryName n ∉ a.names) :
          walk a (limit + 1) n = .ok ([], false) := walk_succ_eq_nil.mpr ⟨rfl, h⟩
      rw [hnil h, hnil h']
    | succ k =>
      have hrest := ih (n := n + 1) (k := k)
        (fun i hi => by
          have := hrun (i + 1) (by omega)
          rwa [show n + (i + 1) = n + 1 + i by omega] at this)
        (fun hk => by
          have := hgap (by omega)
          rwa [show n + (k + 1) = n + 1 + k by omega] at this)
      have hfirst := hrun 0 (by omega)
      rw [Nat.add_zero] at hfirst
      cases hread : a.read? (entryName n) with
      | none => rw [walk, walk, hfirst, hread]
      | some x =>
        rw [hread] at hfirst
        cases x with
        | error f => rw [walk_of_error hfirst, walk_of_error hread]
        | ok c =>
          have hcons (r : Except ArchiveFault (List Source × Bool)) :
              (r.map fun r => (⟨entryName n, c⟩ :: r.1, r.2)).map Prod.fst =
                (r.map Prod.fst).map (⟨entryName n, c⟩ :: ·) := by
            cases r <;> rfl
          rw [walk_of_read hfirst, walk_of_read hread, hcons, hcons, hrest]

theorem archived_congr {a' : Archive} {b' : Bytes} {e' : EndRecord}
    (hopened : Archive.ofEndRecord b e = .ok a) (hopened' : Archive.ofEndRecord b' e' = .ok a')
    (hwalk : (walk a' limit 1).map Prod.fst = (walk a limit 1).map Prod.fst) :
    archived text b' e' (.int limit) = archived text b e (.int limit) := by
  unfold archived
  simp only [hopened, hopened', count, Int.toNat_natCast]
  cases hw : walk a limit 1 <;> cases hw' : walk a' limit 1 <;> rw [hw, hw'] at hwalk
  · cases hwalk
    rfl
  · cases hwalk
  · cases hwalk
  · have hfst := Except.ok.inj hwalk
    dsimp only
    rw [hfst]

variable {files : FileTree} {path : String} {size : Value}

/-- An archive within the size limit is resolved to the entries of its longest run, or refused for
the first of them that cannot be read, or for having none.  Other archives with the same run are
resolved alike. -/
theorem openPath_numbered (hb : files.content? (Path.ofString path) = some b)
    (hsize : exceeds b.size size = .ok false) (hfind : EndRecord.find b = .ok (some e))
    (hopened : Archive.ofEndRecord b e = .ok a) (limit : Nat) :
    ∃ k, LongestRun a.names limit k ∧
      (∃ o rs, Resolves a (Path.ofString path).text limit k o rs ∧
        Adds (openPath files path ⟨size, .int limit⟩) o rs) ∧
      ∀ files' b' e' a', files'.content? (Path.ofString path) = some b' →
        exceeds b'.size size = .ok false → EndRecord.find b' = .ok (some e') →
        Archive.ofEndRecord b' e' = .ok a' → LongestRun a'.names limit k →
        (∀ i < k, a'.read? (entryName (1 + i : Nat)) = a.read? (entryName (1 + i : Nat))) →
        ∀ o, Ends (openPath files' path ⟨size, .int limit⟩) o ↔
          Ends (openPath files path ⟨size, .int limit⟩) o := by
  obtain ⟨k, hk⟩ := exists_longestRun a.names limit
  have hadds : Adds (openPath files path ⟨size, .int limit⟩) _ _ := openPath_adds hb hsize hfind
  refine ⟨k, hk, ⟨_, _, archived_resolves hopened hk, hadds⟩, ?_⟩
  intro files' b' e' a' hb' hsize' hfind' hopened' hk' hrun o
  have hadds' : Adds (openPath files' path ⟨size, .int limit⟩) _ _ :=
    openPath_adds hb' hsize' hfind'
  rw [archived_congr hopened hopened'
    (walk_congr hrun fun hlt => ⟨hk.gap hlt, hk'.gap hlt⟩)] at hadds'
  exact ⟨fun h => h.unique hadds'.ends ▸ hadds.ends, fun h => h.unique hadds.ends ▸ hadds'.ends⟩

/-- An entry to be stored as it is; its flags and its checksum may be wrong. -/
structure Stored where
  name : String
  data : List UInt8
  flags : Nat
  crc : Nat

def Stored.fields (s : Stored) : List UInt8 :=
  littleEndianBytes 2 20 ++ littleEndianBytes 2 s.flags ++ List.replicate 6 0 ++
    littleEndianBytes 4 s.crc ++ littleEndianBytes 4 s.data.length ++
    littleEndianBytes 4 s.data.length ++ littleEndianBytes 4 (utf8Bytes s.name).length

def Stored.file (s : Stored) : List UInt8 :=
  Entry.headerSignature ++ s.fields ++ utf8Bytes s.name ++ s.data

def Stored.listing (s : Stored) (offset : Nat) : List UInt8 :=
  Entry.directorySignature ++ littleEndianBytes 2 20 ++ s.fields ++ List.replicate 10 0 ++
    littleEndianBytes 4 offset ++ utf8Bytes s.name

def storedArchive (es : List Stored) : Bytes :=
  let (files, directory) := es.foldl
    (fun (files, directory) s => (files ++ s.file, s.listing files.length ++ directory)) ([], [])
  (files ++ directory ++ EndRecord.signature ++ List.replicate 4 0 ++
    littleEndianBytes 2 es.length ++ littleEndianBytes 2 es.length ++
    littleEndianBytes 4 directory.length ++ littleEndianBytes 4 files.length ++ [0, 0]).toArray

def opens (b : Bytes) (p : Archive → Bool) : Bool :=
  match EndRecord.find b with
  | .ok (some e) =>
    match Archive.ofEndRecord b e with
    | .ok a => p a
    | .error _ => false
  | _ => false

theorem exists_of_opens {b : Bytes} {p : Archive → Bool} (h : opens b p = true) :
    ∃ e a, EndRecord.find b = .ok (some e) ∧ Archive.ofEndRecord b e = .ok a ∧ p a = true := by
  unfold opens at h
  split at h
  next e he =>
    split at h
    next a ha => exact ⟨e, a, he, ha, h⟩
    next => cases h
  next => cases h

def gappedArchive : Bytes :=
  storedArchive [⟨"classes3.dex", [99], 0, 0⟩, ⟨"classes.dex", [97], 0, 3904355907⟩]

theorem openPath_numbered_gapped :
    (oneFile gappedArchive).content? (Path.ofString "app.dex") = some gappedArchive ∧
      exceeds gappedArchive.size .null = .ok false ∧
      ∃ e a, EndRecord.find gappedArchive = .ok (some e) ∧
        Archive.ofEndRecord gappedArchive e = .ok a ∧
        a.names = ["classes.dex", "classes3.dex"] ∧
        LongestRun a.names 100 1 ∧
        ∃ o rs, Resolves a "app.dex" 100 1 o rs ∧
          Adds (openPath (oneFile gappedArchive) "app.dex" ⟨.null, .int 100⟩) o rs := by
  have hb : (oneFile gappedArchive).content? (Path.ofString "app.dex") = some gappedArchive := rfl
  have hopens : opens gappedArchive (fun a => decide (a.names =
      ["classes.dex", "classes3.dex"])) = true := by
    decide +kernel
  obtain ⟨e, a, hfind, hopened, hnames⟩ := exists_of_opens hopens
  have hnames : a.names = _ := of_decide_eq_true hnames
  have hrun : LongestRun a.names 100 1 := by
    rw [hnames]
    exact longestRun_of_gap (by decide) (by decide +kernel) (by decide +kernel)
  have hsize : exceeds gappedArchive.size .null = .ok false := rfl
  obtain ⟨k, hk, hends, -⟩ := openPath_numbered hb hsize hfind hopened 100
  obtain rfl := hk.unique hrun
  exact ⟨hb, hsize, e, a, hfind, hopened, hnames, hrun, hends⟩

def lockedFirst : Bytes :=
  storedArchive [⟨"classes.dex", [97], 1, 3904355907⟩, ⟨"classes2.dex", [98], 0, 0⟩]

theorem openPath_numbered_lockedFirst :
    (oneFile lockedFirst).content? (Path.ofString "app.dex") = some lockedFirst ∧
      ∃ e a, EndRecord.find lockedFirst = .ok (some e) ∧ Archive.ofEndRecord lockedFirst e = .ok a ∧
        LongestRun a.names 100 2 ∧
        a.read? (entryName 2) = some (.error (.checksum "classes2.dex")) ∧
        (ArchiveFault.checksum "classes2.dex").isDefect = true ∧
        ¬ ∃ f, Ends (openPath (oneFile lockedFirst) "app.dex" {}) (.error (.container f)) := by
  have hopens : opens lockedFirst (fun a =>
      decide (a.names = ["classes2.dex", "classes.dex"] ∧
        (a.listed.Pairwise fun x y => y.offset ≤ x.offset) ∧
        a.refuses "classes.dex" (.encrypted "classes.dex") = true ∧
        a.refuses "classes2.dex" (.checksum "classes2.dex") = true)) = true := by
    decide +kernel
  obtain ⟨e, a, hfind, hopened, ha⟩ := exists_of_opens hopens
  obtain ⟨hnames, hdescending, hfirst, hsecond⟩ := of_decide_eq_true ha
  have hfirst := Archive.read?_of_refuses hdescending hfirst
  have hsecond := Archive.read?_of_refuses hdescending hsecond
  have hrun : LongestRun a.names 100 2 := by
    rw [hnames]
    exact longestRun_of_gap (by decide) (by decide +kernel) (by decide +kernel)
  have hwalk : walk a 100 1 = .error (.encrypted "classes.dex") :=
    walk_eq_error.mpr ⟨0, by decide, fun i hi => absurd hi (Nat.not_lt_zero i), hfirst⟩
  have hends : Ends (openPath (oneFile lockedFirst) "app.dex" {})
      (.error (.archive (.encrypted "classes.dex"))) := by
    have hadds : Adds (openPath (oneFile lockedFirst) "app.dex" {}) _ _ :=
      openPath_adds rfl rfl hfind
    simpa [archived, hopened, hwalk, count, ofArchiveFault, ArchiveFault.isDefect] using hadds.ends
  refine ⟨rfl, e, a, hfind, hopened, hrun, hsecond, rfl, ?_⟩
  rintro ⟨f, hf⟩
  cases hf.unique hends

end Container

end DexRefs
