import DexRefs.Proofs.ArchiveReading

/-!
Files that are neither resolved to images nor refused as containers.  A file of several volumes
and an archive with something that is not supported, if it comes up before anything else that is
wrong, end the resolution with faults of their own.
-/

set_option autoImplicit false

namespace DexRefs

namespace Entry

variable {b : Bytes} {e : Entry} {f : ArchiveFault}

structure Headed (b : Bytes) (e : Entry) (start : Nat) : Prop where
  located : e.headerStart = .ok start
  fits : start + headerLength ≤ b.size
  signature : b.hasAt start headerSignature = true

def headerName (b : Bytes) (start : Nat) : List UInt8 :=
  b.window (start + headerLength) (b.wordAt (start + 26) 2)

/-- Why the data of an entry cannot be read though it is not damaged. -/
inductive Unsupported (b : Bytes) (e : Entry) : ArchiveFault → Prop where
  | range (far : e.offset < -positionLimit ∨ positionLimit ≤ e.offset) : Unsupported b e .offsetRange
  | patched {start : Nat} (headed : Headed b e start) (flag : hasFlag e.flags 5 = true) :
      Unsupported b e .patchedData
  | strong {start : Nat} (headed : Headed b e start) (whole : hasFlag e.flags 5 = false)
      (flag : hasFlag e.flags 6 = true) : Unsupported b e .strongEncryption
  | name {start : Nat} (headed : Headed b e start) (whole : hasFlag e.flags 5 = false)
      (plain : hasFlag e.flags 6 = false) (flag : hasFlag (b.wordAt (start + 6) 2) 11 = true)
      (illFormed : utf8? (headerName b start) = none) :
      Unsupported b e (.nameEncoding (headerName b start))
  | encrypted {start : Nat} (begins : e.dataStart b = .ok start)
      (apart : start + e.packedSize ≤ e.bound) (flag : hasFlag e.flags 0 = true) :
      Unsupported b e (.encrypted e.name)
  | method {start : Nat} (begins : e.dataStart b = .ok start)
      (apart : start + e.packedSize ≤ e.bound) (plain : hasFlag e.flags 0 = false)
      (other : e.method ∉ methods) : Unsupported b e .method
  | lzma {start : Nat} {g : LzmaFault} (begins : e.dataStart b = .ok start)
      (apart : start + e.packedSize ≤ e.bound) (plain : hasFlag e.flags 0 = false)
      (method : e.method = 14) (damaged : unlzma (e.packed b start) = .error g) :
      Unsupported b e (.lzma g)
  | endOfFile {start : Nat} {u : Unpacked} (begins : e.dataStart b = .ok start)
      (apart : start + e.packedSize ≤ e.bound) (plain : hasFlag e.flags 0 = false)
      (known : e.method ∈ methods) (unpacked : unpack e.method (e.packed b start) = .ok u)
      (cut : (e.packed b start).size < e.packedSize)
      (starved : (e.packed b start).size = 0 ∨ u.ended = false ∧ u.out.size < e.size) :
      Unsupported b e .endOfFile

theorem headerStart_eq_error (hf : f.isDefect = false) :
    e.headerStart = .error f ↔
      (e.offset < -positionLimit ∨ positionLimit ≤ e.offset) ∧ f = .offsetRange := by
  unfold headerStart
  constructor
  · intro h
    split at h
    next hfar =>
      cases h
      exact ⟨hfar, rfl⟩
    next =>
      split at h <;> cases h
      cases hf
  · intro h
    rw [if_pos h.1, h.2]

theorem Headed.dataStart_eq {start : Nat} (h : Headed b e start) :
    e.dataStart b =
      if hasFlag e.flags 5 then .error .patchedData
      else if hasFlag e.flags 6 then .error .strongEncryption
      else
        decodeName (b.wordAt (start + 6) 2) (headerName b start) >>= fun name =>
          if name ≠ e.fullName then .error (.nameMismatch e.fullName (headerName b start))
          else
            let next := start + headerLength + (headerName b start).length
            .ok (next + (b.window next (b.wordAt (start + 28) 2)).length) := by
  have hfits : ¬ b.size < start + headerLength := Nat.not_lt.mpr h.fits
  have hsignature : ¬ (!b.hasAt start headerSignature) = true := by simp [h.signature]
  unfold dataStart
  rw [h.located]
  change (if _ then _ else _) = _
  rw [if_neg hfits]
  dsimp only
  rw [if_neg hsignature]
  rfl

theorem data_eq_of_apart {start : Nat} (begins : e.dataStart b = .ok start)
    (apart : start + e.packedSize ≤ e.bound) :
    e.data b =
      if hasFlag e.flags 0 then .error (.encrypted e.name)
      else if e.method ∉ methods then .error .method
      else
        unpack e.method (e.packed b start) >>= fun u =>
          if e.isCut (e.packed b start) u then .error .endOfFile
          else if (crc32 (u.out.extract 0 e.size)).toNat ≠ e.crc then .error (.checksum e.name)
          else .ok (u.out.extract 0 e.size) := by
  unfold data
  rw [begins]
  change (if _ then _ else _) = _
  rw [if_neg (by omega)]
  rfl

theorem dataStart_eq_error (hf : f.isDefect = false) (h : e.dataStart b = .error f) :
    e.headerStart = .error f ∨ ∃ start, Headed b e start := by
  unfold dataStart at h
  rw [bind_eq_error] at h
  rcases h with h | ⟨start, hstart, h⟩
  · exact .inl h
  dsimp only at h
  split at h
  · cases h
    cases hf
  next hfits =>
    split at h
    · cases h
      cases hf
    next hsignature => exact .inr ⟨start, hstart, by omega, by simpa using hsignature⟩

theorem Headed.unsupported {start : Nat} (hf : f.isDefect = false) (hheaded : Headed b e start)
    (h : e.dataStart b = .error f) : Unsupported b e f := by
  rw [hheaded.dataStart_eq] at h
  split at h
  next h5 =>
    cases h
    exact .patched hheaded h5
  next h5 =>
    rw [Bool.not_eq_true] at h5
    split at h
    next h6 =>
      cases h
      exact .strong hheaded h5 h6
    next h6 =>
      rw [Bool.not_eq_true] at h6
      rw [bind_eq_error] at h
      rcases h with h | ⟨name, -, h⟩
      · obtain ⟨hflag, hill, rfl⟩ := decodeName_eq_error.mp h
        exact .name hheaded h5 h6 hflag hill
      · split at h <;> cases h
        cases hf

theorem isCut_iff {packed : Bytes} {u : Unpacked} : e.isCut packed u = true ↔
    packed.size < e.packedSize ∧ (packed.size = 0 ∨ u.ended = false ∧ u.out.size < e.size) := by
  simp [isCut]

theorem unpack_eq_error {method : Nat} {packed : Bytes} (hf : f.isDefect = false) :
    unpack method packed = .error f ↔
      method = 14 ∧ ∃ g, unlzma packed = .error g ∧ f = .lzma g := by
  constructor
  · intro h
    unfold unpack at h
    split at h
    next =>
      obtain ⟨g, -, rfl⟩ := mapError_eq_error.mp h
      cases hf
    next =>
      obtain ⟨g, -, rfl⟩ := mapError_eq_error.mp h
      cases hf
    next => exact ⟨rfl, mapError_eq_error.mp h⟩
    next => cases h
  · rintro ⟨rfl, h⟩
    exact mapError_eq_error.mpr h

theorem unsupported_of_data (hf : f.isDefect = false) (h : e.data b = .error f) :
    Unsupported b e f := by
  cases hstart : e.dataStart b with
  | error g =>
    rw [data, hstart] at h
    cases h
    rcases dataStart_eq_error hf hstart with hrange | ⟨start, hheaded⟩
    · obtain ⟨hfar, rfl⟩ := (headerStart_eq_error hf).mp hrange
      exact .range hfar
    · exact hheaded.unsupported hf hstart
  | ok start =>
    by_cases hapart : start + e.packedSize ≤ e.bound
    · rw [data_eq_of_apart hstart hapart] at h
      split at h
      next h0 =>
        cases h
        exact .encrypted hstart hapart h0
      next h0 =>
        split at h
        next hother =>
          cases h
          exact .method hstart hapart (by simpa using h0) hother
        next hknown =>
          rw [Decidable.not_not] at hknown
          have hplain : hasFlag e.flags 0 = false := by simpa using h0
          rw [bind_eq_error] at h
          rcases h with h | ⟨u, hu, h⟩
          · obtain ⟨hmethod, g, hg, rfl⟩ := (unpack_eq_error hf).mp h
            exact .lzma hstart hapart hplain hmethod hg
          · split at h
            next hcut =>
              cases h
              obtain ⟨hshort, hstarved⟩ := isCut_iff.mp hcut
              exact .endOfFile hstart hapart hplain hknown hu hshort hstarved
            next =>
              split at h <;> cases h
              cases hf
    · unfold data at h
      rw [hstart] at h
      change (if _ then _ else _) = _ at h
      rw [if_pos (by omega)] at h
      cases h
      cases hf

theorem data_of_unsupported (h : Unsupported b e f) : e.data b = .error f := by
  have hearly (h : e.dataStart b = .error f) : e.data b = .error f := by
    rw [data, h]
    rfl
  cases h with
  | range far =>
    rw [data, dataStart, (headerStart_eq_error rfl).mpr ⟨far, rfl⟩]
    rfl
  | patched headed flag => exact hearly (by rw [headed.dataStart_eq, if_pos flag])
  | strong headed whole flag =>
    exact hearly (by rw [headed.dataStart_eq, whole, if_neg Bool.false_ne_true, if_pos flag])
  | name headed whole plain flag illFormed =>
    refine hearly ?_
    rw [headed.dataStart_eq, whole, plain, if_neg Bool.false_ne_true, if_neg Bool.false_ne_true,
      decodeName_eq_error.mpr ⟨flag, illFormed, rfl⟩]
    rfl
  | encrypted begins apart flag => rw [data_eq_of_apart begins apart, if_pos flag]
  | method begins apart plain other =>
    rw [data_eq_of_apart begins apart, plain, if_neg Bool.false_ne_true, if_pos other]
  | lzma begins apart plain method damaged =>
    have hknown : ¬e.method ∉ methods := by simp [method, methods]
    rw [data_eq_of_apart begins apart, plain, if_neg Bool.false_ne_true, if_neg hknown,
      (unpack_eq_error rfl).mpr ⟨method, _, damaged, rfl⟩]
    rfl
  | endOfFile begins apart plain known unpacked cut starved =>
    rw [data_eq_of_apart begins apart, plain, if_neg Bool.false_ne_true,
      if_neg (not_not_intro known), unpacked]
    exact if_pos (isCut_iff.mpr ⟨cut, starved⟩)

theorem Unsupported.isDefect (h : Unsupported b e f) : f.isDefect = false := by
  cases h <;> rfl

end Entry

namespace Container

open Logged (Ends)

/-- Why a file is neither resolved to its images nor refused as a container. -/
inductive Escapes (b : Bytes) (max : Int) : ArchiveFault → Prop where
  | volumes {pos : Nat} (spanned : EndRecord.Spanned b pos) : Escapes b max .severalVolumes
  | directory {e : EndRecord} {es : List Entry} {last : Nat} {f : ArchiveFault}
      (found : EndRecord.find b = .ok (some e)) (inside : 0 ≤ e.start)
      (listed : Entry.Listed (e.directory b) e.shift 0 es last)
      (more : last < (e.directory b).size) (unlisted : Entry.Unlisted (e.directory b) last f) :
      Escapes b max f
  | entry {e : EndRecord} {a : Archive} {k : Nat} {x : Entry} {f : ArchiveFault}
      (found : EndRecord.find b = .ok (some e)) (opened : Archive.ofEndRecord b e = .ok a)
      (below : k < max) (readable : Readable a 1 k)
      (held : a.find? (entryName (1 + k : Nat)) = some x) (unsupported : Entry.Unsupported b x f) :
      Escapes b max f

variable {b : Bytes} {e : EndRecord} {max : Int} {f : ArchiveFault}

theorem ofArchiveFault_eq_archive {text : String} {g : ArchiveFault} :
    ofArchiveFault text g = .archive f ↔ f.isDefect = false ∧ g = f := by
  unfold ofArchiveFault
  by_cases h : g = f
  · cases hf : f.isDefect <;> simp [h, hf]
  · cases g.isDefect <;> simp [h]

theorem read?_eq_error {a : Archive} {name : String} :
    a.read? name = some (.error f) ↔ ∃ x, a.find? name = some x ∧ x.data a.bytes = .error f := by
  simp [Archive.read?]

theorem archived_eq_archive {text : String} :
    archived text b e (.int max) = .error (.archive f) ↔ f.isDefect = false ∧
      (Archive.ofEndRecord b e = .error f ∨
        ∃ a, Archive.ofEndRecord b e = .ok a ∧ walk a max.toNat 1 = .error f) := by
  unfold archived
  cases Archive.ofEndRecord b e with
  | error g => simp [ofArchiveFault_eq_archive]
  | ok a =>
    dsimp only [count]
    cases hwalk : walk a max.toNat 1 with
    | error g => simp [ofArchiveFault_eq_archive, hwalk]
    | ok r =>
      dsimp only
      split <;> simp [hwalk]

theorem archived_escapes {text : String} (found : EndRecord.find b = .ok (some e)) :
    archived text b e (.int max) = .error (.archive f) ↔ Escapes b max f := by
  rw [archived_eq_archive]
  constructor
  · rintro ⟨hf, h | ⟨a, ha, hwalk⟩⟩
    · obtain ⟨inside, es, last, listed, more, unlisted⟩ := (Archive.ofEndRecord_eq_error hf).mp h
      exact .directory found inside listed more unlisted
    · obtain ⟨k, hk, readable, hlast⟩ := walk_eq_error.mp hwalk
      obtain ⟨x, held, hx⟩ := read?_eq_error.mp hlast
      exact .entry found ha (by omega) readable held
        (Archive.ofEndRecord_bytes ha ▸ Entry.unsupported_of_data hf hx)
  · intro h
    cases h with
    | volumes spanned =>
      cases found.symm.trans (EndRecord.find_eq_error.mpr ⟨rfl, _, spanned⟩)
    | directory found' inside listed more unlisted =>
      cases found.symm.trans found'
      exact ⟨unlisted.isDefect, .inl ((Archive.ofEndRecord_eq_error unlisted.isDefect).mpr
        ⟨inside, _, _, listed, more, unlisted⟩)⟩
    | entry found' opened below readable held unsupported =>
      cases found.symm.trans found'
      have hx := Entry.data_of_unsupported unsupported
      rw [← Archive.ofEndRecord_bytes opened] at hx
      exact ⟨unsupported.isDefect, .inr ⟨_, opened, walk_eq_error.mpr
        ⟨_, by omega, readable, read?_eq_error.mpr ⟨_, held, hx⟩⟩⟩⟩

theorem archived_cases {text : String} :
    (∃ ss, ss ≠ [] ∧ archived text b e (.int max) = .ok ss) ∨
      (∃ f, archived text b e (.int max) = .error (.container f)) ∨
      ∃ f, archived text b e (.int max) = .error (.archive f) := by
  have hfault (g : ArchiveFault) : (∃ f, ofArchiveFault text g = .container f) ∨
      ∃ f, ofArchiveFault text g = .archive f := by
    unfold ofArchiveFault
    split
    · exact .inl ⟨_, rfl⟩
    · exact .inr ⟨_, rfl⟩
  unfold archived
  cases Archive.ofEndRecord b e with
  | error g => exact .inr (by simpa using hfault g)
  | ok a =>
    dsimp only [count]
    cases walk a max.toNat 1 with
    | error g => exact .inr (by simpa using hfault g)
    | ok r =>
      dsimp only
      split
      · exact .inr (.inl ⟨_, rfl⟩)
      next hne => exact .inl ⟨r.1, by simpa using hne, rfl⟩

def sizeLimit : Option Int → Value
  | none => .null
  | some n => .int n

theorem exceeds_sizeLimit (size : Nat) (limit : Option Int) :
    exceeds size (sizeLimit limit) = .ok (decide (∃ n, limit = some n ∧ n < size)) := by
  cases limit <;> simp [sizeLimit, exceeds]

theorem Escapes.not_raw (h : Escapes b max f) : EndRecord.find b ≠ .ok none := by
  intro hraw
  cases h with
  | volumes spanned => cases hraw.symm.trans (EndRecord.find_eq_error.mpr ⟨rfl, _, spanned⟩)
  | directory found => cases hraw.symm.trans found
  | entry found => cases hraw.symm.trans found

variable {path : Path} {size : Option Int}

theorem held_cases :
    (∃ ss, ss ≠ [] ∧ held path b ⟨sizeLimit size, .int max⟩ = .ok ss) ∨
      (∃ f, held path b ⟨sizeLimit size, .int max⟩ = .error (.container f)) ∨
      ∃ f, held path b ⟨sizeLimit size, .int max⟩ = .error (.archive f) := by
  unfold held
  rw [exceeds_sizeLimit]
  cases decide (∃ n, size = some n ∧ n < b.size) with
  | true => exact .inr (.inl ⟨_, rfl⟩)
  | false =>
    dsimp only
    match EndRecord.find b with
    | .error g => exact .inr (.inr ⟨_, rfl⟩)
    | .ok none => exact .inl ⟨_, by simp, rfl⟩
    | .ok (some e) => exact archived_cases

theorem held_eq_archive :
    held path b ⟨sizeLimit size, .int max⟩ = .error (.archive f) ↔
      (∀ n, size = some n → b.size ≤ n) ∧ Escapes b max f := by
  have hsize : (∀ n, size = some n → (b.size : Int) ≤ n) ↔
      ¬ ∃ n, size = some n ∧ n < b.size := by simp
  unfold held
  rw [exceeds_sizeLimit, hsize]
  by_cases hlarge : ∃ n, size = some n ∧ n < b.size
  · simp [hlarge]
  simp only [hlarge, decide_false, not_false_eq_true, true_and]
  cases hfind : EndRecord.find b with
  | error g =>
    obtain ⟨rfl, pos, spanned⟩ := EndRecord.find_eq_error.mp hfind
    constructor
    · intro h
      cases h
      exact .volumes spanned
    · intro h
      cases h with
      | volumes => rfl
      | directory found => cases hfind.symm.trans found
      | entry found => cases hfind.symm.trans found
  | ok found =>
    cases found with
    | none => exact ⟨fun h => by (cases h), fun h => absurd hfind h.not_raw⟩
    | some e => exact archived_escapes hfind

theorem ends_openPath_iff {files : FileTree} {path : String} {limits : Limits}
    {o : Except ScanFault (List Source)} :
    Ends (openPath files path limits) o ↔ resolved files path limits = o :=
  ⟨(openPath_ends files path limits).unique, fun h => h ▸ openPath_ends files path limits⟩

/-- A file that is there gives its images, of which there is at least one, or is refused as a
container, or what keeps it from being read comes through as it is; and the last is so for a file
within the size limit that has one of the causes told by `Escapes`, and for no other. -/
theorem openPath_escapes {files : FileTree} {path : String}
    (hb : files.content? (Path.ofString path) = some b) (size : Option Int) (max : Int) :
    ((∃ ss, ss ≠ [] ∧ Ends (openPath files path ⟨sizeLimit size, .int max⟩) (.ok ss)) ∨
        (∃ f, Ends (openPath files path ⟨sizeLimit size, .int max⟩) (.error (.container f))) ∨
        ∃ f, Ends (openPath files path ⟨sizeLimit size, .int max⟩) (.error (.archive f))) ∧
      ∀ f, Ends (openPath files path ⟨sizeLimit size, .int max⟩) (.error (.archive f)) ↔
        (∀ n, size = some n → b.size ≤ n) ∧ Escapes b max f := by
  simp only [ends_openPath_iff, resolved_of_content hb]
  exact ⟨held_cases, fun f => held_eq_archive⟩

def archiveFault? {α : Type} : Except ScanFault α → Option ArchiveFault
  | .error (.archive f) => some f
  | _ => none

theorem archiveFault?_eq_some {α : Type} {x : Except ScanFault α} {f : ArchiveFault} :
    archiveFault? x = some f ↔ x = .error (.archive f) := by
  cases x with
  | error g => cases g <;> simp [archiveFault?]
  | ok a => simp [archiveFault?]

def lockedArchive : Bytes :=
  (Entry.headerSignature ++ [20, 0, 1, 0, 0, 0, 0, 0, 0, 0, 0, 0, 0, 0, 12, 0, 0, 0, 0, 0, 0, 0,
      11, 0, 0, 0] ++ utf8Bytes "classes.dex" ++ List.replicate 12 7 ++
    Entry.directorySignature ++ [20, 0, 20, 0, 1, 0, 0, 0, 0, 0, 0, 0, 0, 0, 0, 0, 12, 0, 0, 0,
      0, 0, 0, 0, 11, 0, 0, 0, 0, 0, 0, 0, 0, 0, 0, 0, 0, 0, 0, 0, 0, 0] ++
    utf8Bytes "classes.dex" ++
    EndRecord.signature ++ [0, 0, 0, 0, 1, 0, 1, 0, 57, 0, 0, 0, 53, 0, 0, 0, 0, 0]).toArray

theorem openPath_escapes_locked :
    (oneFile lockedArchive).content? (Path.ofString "app.dex") = some lockedArchive ∧
      Escapes lockedArchive 100 (.encrypted "classes.dex") := by
  have hb : (oneFile lockedArchive).content? (Path.ofString "app.dex") = some lockedArchive := rfl
  have hrun : archiveFault? (resolved (oneFile lockedArchive) "app.dex"
      ⟨sizeLimit none, .int 100⟩) = some (.encrypted "classes.dex") := by
    decide +kernel
  refine ⟨hb, (((openPath_escapes hb none 100).2 _).mp (ends_openPath_iff.mpr ?_)).2⟩
  exact archiveFault?_eq_some.mp hrun

def lastVolume : Bytes :=
  (EndRecord.locatorSignature ++ [1, 0, 0, 0, 0, 0, 0, 0, 0, 0, 0, 0, 2, 0, 0, 0] ++
    EndRecord.signature ++ List.replicate 18 0).toArray

theorem openPath_escapes_lastVolume :
    (oneFile lastVolume).content? (Path.ofString "app.dex") = some lastVolume ∧
      (¬ ∃ ss, Ends (openPath (oneFile lastVolume) "app.dex" {}) (.ok ss)) ∧
      ¬ ∃ f, Ends (openPath (oneFile lastVolume) "app.dex" {}) (.error (.container f)) := by
  have hrun : archiveFault? (resolved (oneFile lastVolume) "app.dex" {}) =
      some .severalVolumes := by
    decide +kernel
  simp only [ends_openPath_iff, archiveFault?_eq_some.mp hrun]
  exact ⟨rfl, by simp, by simp⟩

end Container

end DexRefs
