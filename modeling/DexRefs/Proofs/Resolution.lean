import DexRefs.Container
import DexRefs.Proofs.Outcomes

/-!
What a file resolves to, apart from what is logged on the way: its images, or the reason why there
are none.
-/

set_option autoImplicit false

namespace DexRefs

namespace Container

open Logged (Adds Ends Traces)

def archived (path : String) (b : Bytes) (e : EndRecord) (limit : Value) :
    Except ScanFault (List Source) :=
  match Archive.ofEndRecord b e with
  | .error f => .error (ofArchiveFault path f)
  | .ok archive =>
    match count limit with
    | .error f => .error (.setting f)
    | .ok max =>
      match walk archive max.toNat 1 with
      | .error f => .error (ofArchiveFault path f)
      | .ok (sources, _) =>
        if sources.isEmpty then .error (.container (.noImages path)) else .ok sources

def stoppedRecord (max : Int) : Record :=
  { level := .warning, logger, tool := logger
    message := "Stopped after " ++ decimalInt max ++ " DEX entries; '" ++ entryName (max + 1) ++
      "' and later entries are ignored" }

def heldRecord (path : String) (images : Nat) : Record :=
  { level := .debug, logger, tool := logger
    message := "Archive " ++ path ++ " holds " ++ decimal images ++ " DEX image(s)" }

def archivedRecords (path : String) (b : Bytes) (e : EndRecord) (limit : Value) : List Record :=
  match Archive.ofEndRecord b e with
  | .error _ => []
  | .ok archive =>
    match count limit with
    | .error _ => []
    | .ok max =>
      match walk archive max.toNat 1 with
      | .error _ => []
      | .ok (sources, complete) =>
        (if complete ∧ archive.names.contains (entryName (max + 1)) then [stoppedRecord max]
          else []) ++
        if sources.isEmpty then [] else [heldRecord path sources.length]

theorem openArchive_traces (path : String) (b : Bytes) (e : EndRecord) (limit : Value) :
    Traces (openArchive path b e limit) (archived path b e limit)
      fun _ => archivedRecords path b e limit := by
  unfold openArchive archived archivedRecords
  cases Archive.ofEndRecord b e with
  | error f => exact .bind_error (.throw _)
  | ok archive =>
    refine .pure_bind ?_
    dsimp only
    cases count limit with
    | error f => exact .bind_error (.throw _)
    | ok max =>
      refine .pure_bind ?_
      dsimp only
      cases walk archive max.toNat 1 with
      | error f => exact .bind_error (.throw _)
      | ok found =>
        have hlast : Traces (show Logged ScanFault (List Source) from do
            if found.1.isEmpty then throw (.container (.noImages path))
            Logged.note logger .debug
              ("Archive " ++ path ++ " holds " ++ decimal found.1.length ++ " DEX image(s)")
            pure found.1)
            (if found.1.isEmpty then .error (.container (.noImages path)) else .ok found.1)
            fun _ => if found.1.isEmpty then [] else [heldRecord path found.1.length] := by
          split
          · exact .bind_error (.throw _)
          · exact .bind_ok (.note ..) (.pure _)
        refine .pure_bind ?_
        dsimp only
        split
        · exact .bind_ok (.note ..) hlast
        · exact hlast

def held (path : Path) (b : Bytes) (limits : Limits) : Except ScanFault (List Source) :=
  match exceeds b.size limits.maxFileSize with
  | .error f => .error (.setting f)
  | .ok true => .error (.container (.tooLarge b.size (limitText limits.maxFileSize)))
  | .ok false =>
    match EndRecord.find b with
    | .error f => .error (.archive f)
    | .ok none => .ok [⟨path.name, b⟩]
    | .ok (some e) => archived path.text b e limits.maxDexEntries

theorem exists_traces_openBytes (path : Path) (b : Bytes) (limits : Limits) :
    ∃ rs, Traces (openBytes path b limits) (held path b limits) rs := by
  unfold openBytes held
  match exceeds b.size limits.maxFileSize with
  | .error f => exact ⟨_, .throw _⟩
  | .ok true => exact ⟨_, .throw _⟩
  | .ok false =>
    match EndRecord.find b with
    | .error f => exact ⟨_, .throw _⟩
    | .ok none => exact ⟨_, .pure _⟩
    | .ok (some e) => exact ⟨_, openArchive_traces ..⟩

def resolved (files : FileTree) (path : String) (limits : Limits) :
    Except ScanFault (List Source) :=
  match files.content? (Path.ofString path) with
  | some b => held (Path.ofString path) b limits
  | none => .error (.container (.notFound (Path.ofString path).text))

theorem resolved_of_content {files : FileTree} {path : String} {b : Bytes}
    (hb : files.content? (Path.ofString path) = some b) (limits : Limits) :
    resolved files path limits = held (Path.ofString path) b limits := by
  unfold resolved
  rw [hb]

theorem exists_traces_openPath (files : FileTree) (path : String) (limits : Limits) :
    ∃ rs, Traces (openPath files path limits) (resolved files path limits) rs := by
  unfold openPath resolved
  dsimp only
  match files.content? (Path.ofString path) with
  | some b => exact exists_traces_openBytes ..
  | none => exact ⟨_, .throw _⟩

theorem openPath_ends (files : FileTree) (path : String) (limits : Limits) :
    Ends (openPath files path limits) (resolved files path limits) := by
  obtain ⟨_, h⟩ := exists_traces_openPath files path limits
  exact h.ends

theorem openPath_adds {files : FileTree} {path : String} {b : Bytes} {limits : Limits}
    {e : EndRecord} (hb : files.content? (Path.ofString path) = some b)
    (hsize : exceeds b.size limits.maxFileSize = .ok false)
    (hfind : EndRecord.find b = .ok (some e)) :
    Adds (openPath files path limits)
      (archived (Path.ofString path).text b e limits.maxDexEntries)
      (archivedRecords (Path.ofString path).text b e limits.maxDexEntries) := by
  unfold openPath
  simp only [hb, openBytes, hsize, hfind]
  exact Adds.iff_traces.mpr (openArchive_traces ..)

end Container

end DexRefs
