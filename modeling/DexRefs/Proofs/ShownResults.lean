import DexRefs.Console.Render
import DexRefs.Proofs.BrokenLines
import DexRefs.Proofs.EscapedText
import DexRefs.Proofs.Isolation
import DexRefs.Proofs.MemberText

/-!
Which results can be shown on the console.  All names that come from an image are escaped, so that
tables, headings and messages are always shown; a member is not where its name begins a closing tag
and its type ends it.
-/

set_option autoImplicit false

namespace DexRefs

/-! ### Numerals -/

theorem not_mem_decimal {c : Char} (h : c.isDigit = false) (n : Nat) : c ∉ (decimal n).toList := by
  rw [decimal, String.toList_ofList]
  intro hc
  rw [Nat.isDigit_of_mem_toDigits (by decide) (by decide) hc] at h
  cases h

theorem mem_groupReversed {c : Char} {cs : List Char} (h : c ∈ groupReversed cs) :
    c = ',' ∨ c ∈ cs := by
  induction cs using groupReversed.induct with
  | case1 a b d e rest ih =>
    simp only [groupReversed, List.mem_cons] at h ih ⊢
    tauto
  | case2 cs hshort =>
    rw [groupReversed.eq_2 cs hshort] at h
    exact .inr h

theorem not_mem_grouped {c : Char} (h : c.isDigit = false) (hc : c ≠ ',') (n : Nat) :
    c ∉ (grouped n).toList := by
  have hdecimal := not_mem_decimal h n
  rw [decimal, String.toList_ofList] at hdecimal
  rw [grouped, String.toList_ofList, groupDigits, List.mem_reverse]
  intro hmem
  obtain hmem | hmem := mem_groupReversed hmem
  · exact hc hmem
  · exact hdecimal (List.mem_reverse.mp hmem)

theorem exists_map_iff {ε α β : Type} {x : Except ε α} {f : α → β} :
    (∃ b, x.map f = .ok b) ↔ ∃ a, x = .ok a := by
  cases x <;> simp [Except.map]

namespace Render

open Markup

/-! ### Texts -/

/-- The tags of the text can be settled. -/
def Reads (s : String) : Prop :=
  ∃ tags, settle [] (marks s.toList) = .ok tags

/-- The text can be shown whatever becomes of its characters. -/
def Shows (s : String) : Prop :=
  Clear (marks s.toList)

theorem look_eq_ok {styles : List (List Char)} :
    look styles = .ok () ↔ ∀ style ∈ styles, Looks style := by
  refine forM_eq_ok.trans (forall₂_congr fun style _ => ?_)
  unfold known Looks
  cases TextStyle.isKnown style with
  | error f => exact iff_of_false (by rintro ⟨⟩) (by simp)
  | ok b => exact iff_of_true rfl ⟨b, rfl⟩

theorem exists_renderRuns (codes : Emoji.Codes) (cs : List Char) :
    (∃ rs, renderRuns codes cs = .ok rs) ↔ ∃ tags, settle [] (marks cs) = .ok tags := by
  unfold renderRuns
  split
  · rw [exists_map_iff, exists_renderTokens, ← marks]
  next h => exact iff_of_true ⟨_, rfl⟩ ⟨[], by rw [marks_eq_nil (.inl (by simpa using h))]; rfl⟩

theorem looks_renderRuns {codes : Emoji.Codes} {cs : List Char} {rs : List Run}
    (h : renderRuns codes cs = .ok rs) :
    (∀ r ∈ rs, ∀ style ∈ r.styles, Looks style) ↔ AllSound (marks cs) := by
  unfold renderRuns at h
  split at h
  · obtain ⟨rs', hrs, rfl⟩ := map_eq_ok.mp h
    rw [List.forall_mem_map, looks_iff hrs, ← marks]
    simp
  next hopen =>
    cases h
    rw [marks_eq_nil (.inl (by simpa using hopen))]
    simp [runOf, AllSound]

variable (screen : Screen) {s t : String}

theorem runs_eq_ok {rs : List Run} :
    runs screen s = .ok rs ↔ renderRuns screen.codes s.toList = .ok rs := by
  rw [runs, mapError_eq_ok]

theorem exists_shown : (∃ cs, shown screen s = .ok cs) ↔ Shows s := by
  unfold shown
  simp only [bind_eq_ok, pure_eq_ok, runs_eq_ok]
  constructor
  · rintro ⟨_, rs, hrs, ⟨⟩, hlook, rfl⟩
    refine ⟨(exists_renderRuns screen.codes _).mp ⟨rs, hrs⟩, (looks_renderRuns hrs).mp ?_⟩
    exact List.forall_mem_flatMap.mp (look_eq_ok.mp hlook)
  · rintro ⟨hsettles, hsound⟩
    obtain ⟨rs, hrs⟩ := (exists_renderRuns screen.codes _).mpr hsettles
    refine ⟨_, rs, hrs, (), look_eq_ok.mpr ?_, rfl⟩
    exact List.forall_mem_flatMap.mpr ((looks_renderRuns hrs).mpr hsound)

theorem shows_of_plain (h : '[' ∉ s.toList) : Shows s := by
  rw [Shows, marks_eq_nil (.inl h)]
  exact inert_nil.clear

theorem shows_escape (s : String) : Shows (escape s) := by
  rw [Shows, escape, String.toList_ofList]
  exact (inert_escapeChars _).clear

theorem shows_escape_append (ht : untilClose t.toList = none)
    (hb : tag? (t.toList.dropWhile (· = '\x5c')) = none) :
    Shows (escape s ++ t) ↔ Shows t := by
  rw [Shows, Shows, escape, String.toList_append, String.toList_ofList,
    clear_escapeChars_append _ ht hb]

theorem marks_spaces (n : Nat) (cs : List Char) :
    marks (List.replicate n ' ' ++ cs) = marks cs := by
  induction n with
  | zero => rfl
  | succ n ih =>
    rw [List.replicate_succ, List.cons_append,
      marks_of_char (by decide) (tag?_of_ne (by decide)), ih]

theorem shows_spaces (n : Nat) :
    Shows (String.ofList (List.replicate n ' ') ++ s) ↔ Shows s := by
  rw [Shows, Shows, String.toList_append, String.toList_ofList, marks_spaces]

structure Styled (p name : String) (word : List Char) (blanks : Nat) : Prop where
  known : name ∈ TextStyle.palette
  untagged : marks word = []
  ends : word.getLast? ≠ some '\x5c'
  chars : p.toList = written name.toList ++
    (word ++ (written ('/' :: name.toList) ++ List.replicate blanks ' '))

theorem isStyle_of_mem_palette : ∀ name ∈ TextStyle.palette, IsStyle name.toList := by
  decide +kernel

theorem Styled.marks_append {p name : String} {word : List Char} {blanks : Nat}
    (h : Styled p name word blanks) (s : String) :
    ∃ ms, Inert ms ∧ marks (p ++ s).toList = ms ++ marks s.toList := by
  have hname := isStyle_of_mem_palette name h.known
  refine ⟨_, inert_pair hname, ?_⟩
  rw [String.toList_append, h.chars, List.append_assoc, List.append_assoc, List.append_assoc,
    marks_styled hname h.untagged h.ends, marks_spaces]

theorem Styled.shows_append {p name : String} {word : List Char} {blanks : Nat}
    (h : Styled p name word blanks) : Shows (p ++ s) ↔ Shows s := by
  obtain ⟨ms, hms, hmarks⟩ := h.marks_append s
  rw [Shows, Shows, hmarks, hms.clear_append]

theorem Styled.shows {p name : String} {word : List Char} {blanks : Nat}
    (h : Styled p name word blanks) : Shows p := by
  rw [← String.append_empty (s := p), h.shows_append]
  exact shows_of_plain (by decide)

/-! ### Lines -/

theorem exists_textLines (columns : Nat) (h : Shows s) :
    ∃ ls, textLines screen columns s = .ok ls := by
  obtain ⟨rs, hrs⟩ := (exists_renderRuns screen.codes _).mpr h.settles
  have hlooks := (looks_renderRuns hrs).mpr h.sound
  have hglyphs : Layout.AllStyled (fun styles => ∀ style ∈ styles, Looks style)
      (rs.flatMap fun r => r.chars.map fun c => ⟨c, r.styles⟩) := by
    refine List.forall_mem_flatMap.mpr fun r hr => List.forall_mem_map.mpr fun c _ => ?_
    exact hlooks r hr
  unfold textLines
  simp only [bind_eq_ok, pure_eq_ok, runs_eq_ok]
  refine ⟨_, rs, hrs, (), look_eq_ok.mpr ?_, rfl⟩
  split
  · exact List.forall_mem_flatMap.mpr hlooks
  · refine List.forall_mem_flatMap.mpr fun g hg => ?_
    obtain ⟨line, hline, hg⟩ := List.mem_flatten.mp hg
    exact Layout.forall_styles_wrap hglyphs (by simp) line hline g hg

theorem reads_of_textLines {columns : Nat} {ls : List (List Char)}
    (h : textLines screen columns s = .ok ls) : Reads s := by
  obtain ⟨rs, hrs, -⟩ := bind_eq_ok.mp h
  exact (exists_renderRuns screen.codes _).mp ⟨rs, (runs_eq_ok screen).mp hrs⟩

theorem exists_sectionLines :
    (∃ ls, sectionLines screen s = .ok ls) ↔ Shows ("  " ++ s ++ "  ") := by
  rw [← exists_shown screen, sectionLines]
  cases shown screen ("  " ++ s ++ "  ") <;> simp [bind, Except.bind, pure, Except.pure]

theorem exists_annotationLines (columns : Nat) :
    (∃ ls, annotationLines screen columns s = .ok ls) ↔ Shows s := by
  unfold annotationLines
  split
  next hempty =>
    rw [String.isEmpty_iff] at hempty
    exact iff_of_true ⟨_, rfl⟩ (hempty ▸ shows_of_plain (by decide))
  next => rw [exists_map_iff, exists_shown]

def texts (t : TableEvent) : List String :=
  t.title :: t.caption.getD "" :: (t.columns :: t.rows).flatten

theorem cell_of_lt {row : List String} {i : Nat} (h : i < row.length) : cell i row = row[i] := by
  rw [cell, List.getElem?_eq_getElem h, Option.getD_some]

theorem cell_cases (i : Nat) (row : List String) : cell i row ∈ row ∨ cell i row = "" := by
  by_cases h : i < row.length
  · exact .inl (cell_of_lt h ▸ List.getElem_mem h)
  · exact .inr (by rw [cell, List.getElem?_eq_none (Nat.not_lt.mp h), Option.getD_none])

def KnownStyles (t : TableEvent) : Prop :=
  ∀ style ∈ t.styles.getD [], TextStyle.isKnown style.toList = .ok true

variable {tbl : TableEvent}

theorem exists_columnCells (hstyles : KnownStyles tbl) (i : Nat) :
    (∃ cs, columnCells screen tbl i = .ok cs) ↔
      ∀ row ∈ tbl.columns :: tbl.rows, Shows (cell i row) := by
  have hempty : TextStyle.isKnown "".toList = .ok true := by decide +kernel
  have hknown : known (if i < tbl.columns.length then cell i (tbl.styles.getD []) else "").toList =
      .ok true := by
    unfold known
    split
    · obtain hi | hi := cell_cases i (tbl.styles.getD [])
      · rw [hstyles _ hi]
        rfl
      · rw [hi, hempty]
        rfl
    · rw [hempty]
      rfl
  have hcells : columnCells screen tbl i =
      (tbl.columns :: tbl.rows).mapM fun row => shown screen (cell i row) := by
    unfold columnCells
    dsimp only
    rw [hknown]
    rfl
  rw [hcells, exists_mapM_iff]
  exact forall₂_congr fun _ _ => exists_shown screen

theorem length_le_foldl_max (rows : List (List String)) (n : Nat) :
    n ≤ rows.foldl (fun n r => max n r.length) n ∧
      ∀ row ∈ rows, row.length ≤ rows.foldl (fun n r => max n r.length) n := by
  induction rows generalizing n with
  | nil => simp
  | cons row rows ih =>
    obtain ⟨hfirst, hrest⟩ := ih (max n row.length)
    simp only [List.foldl_cons, List.forall_mem_cons]
    exact ⟨by omega, by omega, hrest⟩

def columnCount (t : TableEvent) : Nat :=
  t.rows.foldl (fun n r => max n r.length) t.columns.length

theorem exists_cells (hstyles : KnownStyles tbl) :
    (∃ cells, (List.range (columnCount tbl)).mapM (columnCells screen tbl) = .ok cells) ↔
      ∀ s ∈ (tbl.columns :: tbl.rows).flatten, Shows s := by
  obtain ⟨hheads, hrows⟩ := length_le_foldl_max tbl.rows tbl.columns.length
  rw [exists_mapM_iff]
  simp only [exists_columnCells screen hstyles, List.mem_range, List.mem_flatten]
  constructor
  · rintro h s ⟨row, hrow, hs⟩
    obtain ⟨i, hi, rfl⟩ := List.mem_iff_getElem.mp hs
    have hle : row.length ≤ columnCount tbl := by
      obtain rfl | hrow := List.mem_cons.mp hrow
      · exact hheads
      · exact hrows row hrow
    exact cell_of_lt hi ▸ h i (by omega) row hrow
  · intro h i _ row hrow
    obtain hi | hi := cell_cases i row
    · exact h _ ⟨row, hrow, hi⟩
    · exact hi ▸ shows_of_plain (by decide)

/-- A table with columns can be shown if and only if each text in it can. -/
theorem exists_tableLines (hcolumns : tbl.columns ≠ []) (hstyles : KnownStyles tbl) :
    (∃ ls, tableLines screen tbl = .ok ls) ↔ ∀ s ∈ texts tbl, Shows s := by
  have hcount : columnCount tbl ≠ 0 := by
    have hheads : tbl.columns.length ≤ columnCount tbl :=
      (length_le_foldl_max tbl.rows tbl.columns.length).1
    have hpos := List.length_pos_iff.mpr hcolumns
    omega
  unfold tableLines
  dsimp only
  rw [← columnCount, if_neg hcount, texts, List.forall_mem_cons, List.forall_mem_cons,
    ← exists_cells screen hstyles]
  simp only [bind_eq_ok, pure_eq_ok]
  constructor
  · rintro ⟨_, cells, hcells, title, htitle, caption, hcaption, rfl⟩
    exact ⟨(exists_annotationLines ..).mp ⟨title, htitle⟩,
      (exists_annotationLines ..).mp ⟨caption, hcaption⟩, cells, hcells⟩
  · rintro ⟨htitle, hcaption, cells, hcells⟩
    obtain ⟨title, htitle⟩ := (exists_annotationLines screen _).mpr htitle
    obtain ⟨caption, hcaption⟩ := (exists_annotationLines screen _).mpr hcaption
    exact ⟨_, cells, hcells, title, htitle, caption, hcaption, rfl⟩

def Fits (columns : Nat) (s : String) : Prop :=
  ∃ ls, textLines screen columns s = .ok ls

theorem exists_childLines (last : Bool) :
    (∃ ls, childLines screen last s = .ok ls) ↔ Fits screen (screen.columns - 4) s := by
  rw [Fits, childLines]
  cases textLines screen (screen.columns - 4) s with
  | error f => simp [bind, Except.bind]
  | ok lines =>
    refine iff_of_true ?_ ⟨_, rfl⟩
    cases lines <;> exact ⟨_, rfl⟩

theorem exists_childrenLines {labels : List String} :
    (∃ ls, childrenLines screen labels = .ok ls) ↔
      ∀ s ∈ labels, Fits screen (screen.columns - 4) s := by
  induction labels with
  | nil => simp [childrenLines]
  | cons s labels ih =>
    cases labels with
    | nil => simpa [childrenLines] using exists_childLines screen true
    | cons t labels =>
      rw [childrenLines.eq_3 _ _ _ (by simp), List.forall_mem_cons, ← ih,
        ← exists_childLines screen false]
      simp only [bind_eq_ok, pure_eq_ok]
      constructor
      · rintro ⟨_, first, hfirst, rest, hrest, rfl⟩
        exact ⟨⟨first, hfirst⟩, rest, hrest⟩
      · rintro ⟨⟨first, hfirst⟩, rest, hrest⟩
        exact ⟨_, first, hfirst, rest, hrest, rfl⟩

/-! ### Events -/

def Displayed (e : Event) : Prop :=
  ∃ ls, eventLines screen e = .ok ls

theorem exists_text {es : List Event} :
    (∃ t, text screen es = .ok t) ↔ ∀ e ∈ es, Displayed screen e := by
  rw [text, exists_map_iff, exists_mapM_iff]
  exact forall₂_congr fun _ _ => exists_map_iff

variable {screen : Screen}

theorem displayed_success (h : Shows s) : Displayed screen (.success s) := by
  have hstyled : Styled "[deps.success][✔] SUCCESS:[/deps.success] " "deps.success"
      "[✔] SUCCESS:".toList 1 := ⟨by decide, rfl, by decide, rfl⟩
  exact exists_textLines screen _ (hstyled.shows_append.mpr h)

theorem displayed_warning (h : Shows s) : Displayed screen (.warning s) := by
  have hstyled : Styled "[deps.warning][⚠] WARNING:[/deps.warning] " "deps.warning"
      "[⚠] WARNING:".toList 1 := ⟨by decide, rfl, by decide, rfl⟩
  exact exists_textLines screen _ (hstyled.shows_append.mpr h)

theorem displayed_error (h : Shows s) : Displayed screen (.error s) := by
  have hstyled : Styled "[deps.error][✘] ERROR:[/deps.error] " "deps.error"
      "[✘] ERROR:".toList 1 := ⟨by decide, rfl, by decide, rfl⟩
  exact exists_textLines screen _ (hstyled.shows_append.mpr h)

theorem displayed_heading (s : String) : Displayed screen (.section_ (escape s)) := by
  refine (exists_sectionLines screen).mpr ?_
  rw [String.append_assoc]
  refine (shows_spaces 2).mpr ((shows_escape_append ?_ ?_).mpr (shows_of_plain ?_)) <;> decide

theorem displayed_table {title : String} {caption : Option String} {heads : List String}
    {rows : List (List String)} {styles : Option (List String)} (htitle : Shows title)
    (hne : heads ≠ []) (hheads : ∀ s ∈ heads, '[' ∉ s.toList)
    (hstyles : ∀ style ∈ styles.getD [], TextStyle.isKnown style.toList = .ok true) :
    Displayed screen (.table { title, caption, columns := heads, rows, styles }) ↔
      Shows (caption.getD "") ∧ ∀ row ∈ rows, ∀ s ∈ row, Shows s := by
  refine Iff.trans (exists_tableLines screen hne hstyles) ?_
  simp only [texts, List.flatten_cons, List.forall_mem_cons, List.forall_mem_append, htitle,
    true_and, List.mem_flatten, forall_exists_index, and_imp]
  refine and_congr_right fun _ => ⟨fun h row hrow s hs => h.2 s row hrow hs, fun h => ⟨?_, ?_⟩⟩
  · exact fun s hs => shows_of_plain (hheads s hs)
  · exact fun s row hrow hs => h row hrow s hs

theorem displayed_tree {labels : List String} : Displayed screen (.tree s labels) ↔
    Fits screen screen.columns s ∧ ∀ t ∈ labels, Fits screen (screen.columns - 4) t := by
  rw [← exists_childrenLines screen]
  simp only [Displayed, eventLines, bind_eq_ok, pure_eq_ok]
  constructor
  · rintro ⟨_, first, hfirst, rest, hrest, rfl⟩
    exact ⟨⟨first, hfirst⟩, rest, hrest⟩
  · rintro ⟨⟨first, hfirst⟩, rest, hrest⟩
    exact ⟨_, first, hfirst, rest, hrest, rfl⟩

/-! ### Results -/

theorem shows_scopeCell (internal : Bool) : Shows (Display.scopeCell internal) := by
  cases internal with
  | false =>
    have h : Styled "[deps.external]external[/deps.external]" "deps.external"
        "external".toList 0 := ⟨by decide, rfl, by decide, rfl⟩
    exact h.shows
  | true =>
    have h : Styled "[deps.internal]internal[/deps.internal]" "deps.internal"
        "internal".toList 0 := ⟨by decide, rfl, by decide, rfl⟩
    exact h.shows

theorem shows_decimal (n : Nat) : Shows (decimal n) :=
  shows_of_plain (not_mem_decimal (by decide) n)

theorem shows_grouped (n : Nat) : Shows (grouped n) :=
  shows_of_plain (not_mem_grouped (by decide) (by decide) n)

/-- What a scan itself wrote in the entry has no tags of its own. -/
structure Tame (r : ImageResult) : Prop where
  version : '[' ∉ r.version.toList
  order : '[' ∉ r.order.toList
  kind : '[' ∉ (Display.kindText r).toList ∧ (Display.kindText r).toList.getLast? ≠ some '\x5c'

theorem Tame.shows_kind {r : ImageResult} (h : Tame r) :
    Shows ("[deps.error]" ++ Display.kindText r ++ "[/deps.error]") := by
  have hstyled : Styled ("[deps.error]" ++ Display.kindText r ++ "[/deps.error]") "deps.error"
      (Display.kindText r).toList 0 :=
    ⟨by decide, marks_eq_nil (.inl h.kind.1), h.kind.2, by simp [written]⟩
  exact hstyled.shows

theorem tame_of_entryOf {scope : Scope} {source : Source} {r : ImageResult}
    (h : Scan.EntryOf scope source r) : Tame r := by
  have hkinds : ∀ kind ∈ ["None", "BadMagicError", "BadEndianTagError", "TruncatedInputError",
      "IndexOutOfRangeError"], '[' ∉ kind.toList ∧ kind.toList.getLast? ≠ some '\x5c' := by
    decide
  cases h with
  | @decoded i l hi hl =>
    have hversion (v : Version) : '[' ∉ v.digits.toList := by cases v <;> decide
    have horder (o : ByteOrder) : '[' ∉ o.name.toList := by cases o <;> decide
    exact ⟨hversion _, horder _, hkinds "None" (by simp)⟩
  | @failed f hf =>
    have hkind := hkinds f.kind (by cases f <;> simp [DexRefs.Fault.kind])
    exact ⟨by simp, by simp, hkind⟩

def EntryShows (e : ImageResult) : Prop :=
  if e.ok then Shows e.version ∧ Shows e.order
  else Shows ("[deps.error]" ++ Display.kindText e ++ "[/deps.error]")

theorem Tame.entryShows {e : ImageResult} (h : Tame e) : EntryShows e := by
  unfold EntryShows
  split
  · exact ⟨shows_of_plain h.version, shows_of_plain h.order⟩
  · exact h.shows_kind

theorem shows_summaryRow {e : ImageResult} :
    (∀ s ∈ Display.summaryRow e, Shows s) ↔ EntryShows e := by
  have hdash : Shows "-" := shows_of_plain (by decide)
  unfold Display.summaryRow EntryShows
  split <;> simp [shows_escape, shows_grouped, hdash]

/-- What a result tells, beside names, can be shown. -/
structure Framed (r : ScanResult) : Prop where
  entries : ∀ e ∈ r.results, EntryShows e
  summary : Shows r.summary

theorem framed_of_tame {r : ScanResult} (htame : ∀ e ∈ r.results, Tame e)
    (hsummary : '[' ∉ r.summary.toList) : Framed r :=
  ⟨fun e he => (htame e he).entryShows, shows_of_plain hsummary⟩

variable {r : ScanResult}

theorem displayed_summaryTable : Displayed screen (Display.summaryTable r) ↔ Framed r := by
  have htitle : Shows (escape r.target ++ " (" ++ r.scope.name ++ " references)") := by
    rw [String.append_assoc, String.append_assoc]
    cases r.scope <;>
      refine (shows_escape_append ?_ ?_).mpr (shows_of_plain ?_) <;> decide
  rw [Display.summaryTable, displayed_table htitle (by decide) (by decide) (by simp)]
  simp only [Option.getD_some, List.forall_mem_map, shows_summaryRow]
  exact ⟨fun h => ⟨h.2, h.1⟩, fun h => ⟨h.2, h.1⟩⟩

theorem displayed_classesTable (classes : List ClassRef) :
    Displayed screen (Display.classesTable classes) := by
  have hstyles : ∀ style ∈ (some ["bright_white", "", "dim", "dim"]).getD [],
      TextStyle.isKnown style.toList = .ok true := by decide +kernel
  have hrow (c : ClassRef) : ∀ s ∈ [Markup.escape c.dotName, Display.scopeCell c.internal,
      decimal c.fields.length, decimal c.methods.length], Shows s := by
    simp only [List.forall_mem_cons, List.not_mem_nil, false_imp_iff, implies_true, and_true]
    exact ⟨shows_escape _, shows_scopeCell _, shows_decimal _, shows_decimal _⟩
  refine (displayed_table (shows_of_plain ?_) (by decide) (by decide) hstyles).mpr
    ⟨shows_of_plain (by decide), List.forall_mem_map.mpr fun c _ => hrow c⟩
  simp [not_mem_grouped]

theorem displayed_usageTable {classes : List ClassRef} {e : Event}
    (he : e ∈ Display.usageTable classes) : Displayed screen e := by
  unfold Display.usageTable at he
  dsimp only at he
  split at he
  · cases he
  obtain rfl := List.mem_singleton.mp he
  have hstyles : ∀ style ∈ (some ["bright_white", "dim"]).getD [],
      TextStyle.isKnown style.toList = .ok true := by decide +kernel
  have hrow (p : String × Nat) :
      ∀ s ∈ [Markup.escape (Descriptor.dotName p.1), decimal p.2], Shows s := by
    simp only [List.forall_mem_cons, List.not_mem_nil, false_imp_iff, implies_true, and_true]
    exact ⟨shows_escape _, shows_decimal _⟩
  refine (displayed_table (shows_of_plain ?_) (by decide) (by decide) hstyles).mpr
    ⟨shows_of_plain (by decide), List.forall_mem_map.mpr fun p _ => hrow p⟩
  simp [not_mem_decimal]

end Render

namespace Member

open Markup

def label : Member → String
  | field f => Display.fieldLabel f
  | method m => Display.methodLabel m

def tail : Member → List Char
  | field f => ':' :: f.typeName.toList
  | method m => m.descriptor.toList

def word : Member → List Char × Nat
  | field _ => ("field".toList, 2)
  | method _ => ("method".toList, 1)

theorem exists_tail (m : Member) :
    ∃ c s, m.tail = c :: s ∧ (c ≠ '[' ∧ c ≠ '\x5c') ∧ startsTag c = false := by
  cases m with
  | field f => exact ⟨':', _, rfl, by decide, by decide⟩
  | method m =>
    refine ⟨'(', (String.join m.argumentTypes).toList ++ ')' :: m.returnType.toList, ?_, by decide,
      by decide⟩
    simp [tail, MethodRef.descriptor]

theorem toList_label (m : Member) : m.label.toList = written "deps.dim".toList ++ (m.word.1 ++
    (written "/deps.dim".toList ++ (List.replicate m.word.2 ' ' ++
      (escapeChars m.name.toList ++ escapeChars m.tail)))) := by
  cases m with
  | field f =>
    have hcolon : escapeChars (field f).tail = ':' :: escapeChars f.typeName.toList :=
      escapeChars_cons (by decide) _
    have hlabel : (field f).label.toList = "[deps.dim]field[/deps.dim]  ".toList ++
        (escapeChars f.name.toList ++ ':' :: escapeChars f.typeName.toList) := by
      unfold label Display.fieldLabel escape
      simp
    rw [hlabel, hcolon]
    rfl
  | method m =>
    have hlabel : (method m).label.toList = "[deps.dim]method[/deps.dim] ".toList ++
        (escapeChars m.name.toList ++ escapeChars m.descriptor.toList) := by
      unfold label Display.methodLabel escape
      simp
    rw [hlabel]
    rfl

/-- The tags that count in a label are those of the name and of what stands behind it. -/
theorem marks_label (m : Member) : ∃ ms, Inert ms ∧
    marks m.label.toList = ms ++ marks (escapeChars m.name.toList ++ escapeChars m.tail) := by
  have hword : marks m.word.1 = [] ∧ m.word.1.getLast? ≠ some '\x5c' := by
    cases m with
    | field f => exact ⟨rfl, by rintro ⟨⟩⟩
    | method m => exact ⟨rfl, by rintro ⟨⟩⟩
  have hstyle := Render.isStyle_of_mem_palette "deps.dim" (by decide)
  refine ⟨_, inert_pair hstyle, ?_⟩
  rw [toList_label, ← Render.marks_spaces m.word.2 (escapeChars m.name.toList ++ _)]
  exact marks_styled hstyle hword.1 hword.2 _

/-- Name and type share no tag, or one that opens and whose name can be read. -/
def Readable (m : Member) : Prop :=
  ∀ content, Shares m.name.toList m.tail content →
    content.head? ≠ some '/' ∧ ∃ t, openTag content = .ok t

/-- Name and type share no tag, or one that opens and whose style can be looked up. -/
def Harmless (m : Member) : Prop :=
  ∀ content, Shares m.name.toList m.tail content → content.head? ≠ some '/' ∧ Sound content

theorem reads_label (m : Member) : Render.Reads m.label ↔ m.Readable := by
  obtain ⟨c, s, htail, hc, hstarts⟩ := m.exists_tail
  obtain ⟨ms, hms, hmarks⟩ := m.marks_label
  rw [Render.Reads, hmarks, hms.settle_append, Readable, htail, settle_both_iff hc hstarts]

theorem shows_label (m : Member) : Render.Shows m.label ↔ m.Harmless := by
  obtain ⟨c, s, htail, hc, hstarts⟩ := m.exists_tail
  obtain ⟨ms, hms, hmarks⟩ := m.marks_label
  rw [Render.Shows, hmarks, hms.clear_append, Harmless, htail, clear_both_iff hc hstarts]

end Member

namespace Render

open Markup

variable {screen : Screen} {r : ScanResult}

theorem memberTree_eq {c : ClassRef} {e : Event} (h : Display.memberTree c = some e) :
    e = .tree (escape c.dotName ++ "  " ++ Display.scopeCell c.internal)
      (c.members.map Member.label) := by
  unfold Display.memberTree at h
  split at h
  · cases h
  · obtain rfl := Option.some.inj h
    rw [ClassRef.members, List.map_append, List.map_map, List.map_map]
    rfl

theorem members_of_none {c : ClassRef} (h : Display.memberTree c = none) : c.members = [] := by
  unfold Display.memberTree at h
  split at h
  next hnone =>
    obtain ⟨hfields, hmethods⟩ := Bool.and_eq_true_iff.mp hnone
    simp [ClassRef.members, List.isEmpty_iff.mp hfields, List.isEmpty_iff.mp hmethods]
  next => cases h

/-- The label of the member can be laid out in the tree of its class. -/
def LabelFits (screen : Screen) (m : Member) : Prop :=
  Fits screen (screen.columns - 4) m.label

theorem LabelFits.readable {m : Member} (h : LabelFits screen m) : m.Readable :=
  m.reads_label.mp (reads_of_textLines screen h.choose_spec)

theorem labelFits_of_harmless {m : Member} (h : m.Harmless) : LabelFits screen m :=
  exists_textLines screen _ (m.shows_label.mpr h)

theorem displayed_memberTree {c : ClassRef} {e : Event} (he : Display.memberTree c = some e) :
    Displayed screen e ↔ ∀ m ∈ c.members, LabelFits screen m := by
  have hlabel : Shows (escape c.dotName ++ "  " ++ Display.scopeCell c.internal) := by
    rw [String.append_assoc]
    refine (shows_escape_append ?_ ?_).mpr ((shows_spaces 2).mpr (shows_scopeCell _)) <;>
      cases c.internal <;> decide
  rw [memberTree_eq he, displayed_tree, List.forall_mem_map]
  exact and_iff_right (exists_textLines screen _ hlabel)

theorem displayed_failure (r : ImageResult) (error : String) :
    Displayed screen (.error (escape (Display.failureText r error))) :=
  displayed_error (shows_escape _)

def MembersFit (screen : Screen) (e : ImageResult) : Prop :=
  e.ok = true → ∀ c ∈ e.classes, ∀ m ∈ c.members, LabelFits screen m

theorem displayed_image (members : Bool) (e : ImageResult) :
    (∀ ev ∈ Display.image members e, Displayed screen ev) ↔
      (members = true → MembersFit screen e) := by
  unfold Display.image MembersFit ImageResult.ok
  cases e.error with
  | some error => simp [displayed_heading, displayed_failure]
  | none =>
    have husage : ∀ ev ∈ Display.usageTable e.classes, Displayed screen ev :=
      fun _ => displayed_usageTable
    cases members with
    | false => simpa [displayed_heading, displayed_classesTable] using husage
    | true =>
      have hmembers : (∀ ev ∈ e.classes.filterMap Display.memberTree, Displayed screen ev) ↔
          ∀ c ∈ e.classes, ∀ m ∈ c.members, LabelFits screen m := by
        simp only [List.mem_filterMap, forall_exists_index, and_imp]
        constructor
        · intro h c hc
          cases htree : Display.memberTree c with
          | none => simp [members_of_none htree]
          | some ev => exact (displayed_memberTree htree).mp (h ev c hc htree)
        · exact fun h ev c hc htree => (displayed_memberTree htree).mpr (h c hc)
      simp only [List.forall_mem_cons, List.forall_mem_append, displayed_heading,
        displayed_classesTable, if_true, true_and, List.cons_append, hmembers]
      simpa using fun _ => husage

/-- A result can be displayed if it is framed, and the labels of its members fit where they are
shown. -/
theorem displayed_result (members : Bool) :
    (∀ ev ∈ Display.result members r, Displayed screen ev) ↔
      Framed r ∧ (members = true → ∀ e ∈ r.results, MembersFit screen e) := by
  rw [Display.result, List.forall_mem_cons, displayed_summaryTable, List.forall_mem_flatMap]
  simp only [displayed_image]
  exact and_congr_right fun _ => ⟨fun h hmembers e he => h e he hmembers,
    fun h e he hmembers => h hmembers e he⟩

end Render

end DexRefs
