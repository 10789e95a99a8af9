import Clearance.Proofs.Report.Summary
import Clearance.Proofs.Report.Table
import Clearance.Proofs.Resolution.Queries
import Clearance.Proofs.Text.Order
import Clearance.Report.Terminal

/-!
# Reports agree

The rows of a register are what every report tells: the list of what needs review, the numbers and
the tables of the terminal report all follow from them (`Register.reports_agree`). To see that, the
terminal report is described a second time from rows alone: its numbers text by text
(`Report.Totals`), and its tables by what they show (`Report.Listing.Shows`).

The tables are told apart by the status of what they list. Each table lists all rows with its
status, so that no component is lost or listed twice. Where the ids are words, they are read back
from the first column of the table.
-/

set_option autoImplicit false

namespace Clearance

universe u

/-! ## Rows -/

namespace Register

/-- The register of a resolution holds every entry under its own id. -/
theorem isKeyed_of_resolve {σ : Type u} {providers : List (Provider σ)} {o : Options}
    {ids : List ComponentId} {world : σ} {resolution : Resolution σ}
    (h : resolve providers o ids world = .ok resolution) : resolution.register.IsKeyed := by
  cases hrefusal : o.refusal? with
  | some refusal =>
    rw [resolve_of_refusal hrefusal] at h
    cases h
  | none =>
    rw [resolve_eq_visit hrefusal] at h
    cases h
    have hgrows := Resolution.extends_visit (o.batchSize_pos hrefusal)
      (Options.concurrency_pos hrefusal) (ComponentId.firstOccurrences ids) providers
      ⟨.ofIds (ComponentId.firstOccurrences ids), world, [], []⟩
    rintro ⟨key, e⟩ hrow
    obtain ⟨more, hfind⟩ := hgrows key
    rw [mem_rows_iff.1 hrow, find?_ofIds (ComponentId.pairwise_firstOccurrences ids)] at hfind
    obtain ⟨_, hentry, rfl⟩ := Option.map_eq_some_iff.1 hfind.symm
    obtain ⟨id, hid, rfl⟩ := Option.map_eq_some_iff.1 hentry
    have hkey : id.canonical = key := by simpa using List.find?_some hid
    exact hkey

variable {r : Register}

/-- There is one row for each entry. -/
theorem length_reportRows (r : Register) : r.reportRows.length = r.size := by
  rw [reportRows, entries, List.length_map, List.length_map, size]

/-- The rows are ordered by the bytes of their ids, and no id has two of them. -/
theorem increasing_reportRows (keyed : r.IsKeyed) :
    r.reportRows.Pairwise fun a b => Text.utf8 a.id.canonical < Text.utf8 b.id.canonical := by
  have hrows := increasing_columns keyed
  simp only [columns, List.map_map, List.pairwise_map] at hrows
  exact hrows.imp Text.lt_iff_utf8_lt.1

/-- A row says what its entry says. -/
theorem mem_reportRows_iff {row : Row} :
    row ∈ r.reportRows ↔ ∃ key e, r.find? key = some e ∧
      row = ⟨e.id, e.license?, e.status, e.authority?, e.url?⟩ := by
  simp only [reportRows, entries, List.map_map, List.mem_map, Prod.exists, mem_rows_iff,
    Function.comp_apply, @eq_comm _ row]
  rfl

/-- The rows with some statuses are those of the entries with them. -/
theorem filter_reportRows (r : Register) (p : Status → Bool) :
    r.reportRows.filter (fun row => p row.status) =
      (r.entries.filter fun e => p e.status).map Row.ofEntry := by
  rw [reportRows, List.filter_map]
  rfl

/-- What needs review are the ids of the rows that are not approved. -/
theorem needsReview_eq (r : Register) :
    r.needsReview = (r.reportRows.filter fun row => row.status != .approved).map (·.id) := by
  rw [r.filter_reportRows (· != .approved), List.map_map]
  rfl

end Register

namespace Report

/-! ## Colors -/

/-- Text between the escape sequence with some codes and the one that ends it, if colors are
shown. -/
def colored (colors : Bool) (codes text : String) : String :=
  if colors then "\x1b[" ++ codes ++ "m" ++ text ++ "\x1b[0m" else text

/-! ## Numbers -/

/-- The numbers of a report. -/
structure Totals where
  total : ℕ
  approved : ℕ
  restricted : ℕ
  unresolved : ℕ

namespace Totals

/-- The number of all rows, and how many there are with each status. -/
def ofRows (rows : List Row) : Totals where
  total := rows.length
  approved := rows.countP (·.status == .approved)
  restricted := rows.countP (·.status == .restricted)
  unresolved := rows.countP (·.status == .unresolved)

/-- One more row is counted in the total, under one status, and in the list if it needs review. -/
theorem ofRows_cons (row : Row) (rows : List Row) :
    (ofRows (row :: rows)).total = (ofRows rows).total + 1 ∧
      (ofRows (row :: rows)).approved + (ofRows (row :: rows)).restricted +
        (ofRows (row :: rows)).unresolved =
        (ofRows rows).approved + (ofRows rows).restricted + (ofRows rows).unresolved + 1 ∧
      (ofRows (row :: rows)).restricted + (ofRows (row :: rows)).unresolved =
        (ofRows rows).restricted + (ofRows rows).unresolved +
          if row.status != .approved then 1 else 0 := by
  cases hstatus : row.status <;> simp [ofRows, hstatus] <;> omega

/-- Each row is counted under one status. -/
theorem add_eq_total (rows : List Row) :
    (ofRows rows).approved + (ofRows rows).restricted + (ofRows rows).unresolved =
      (ofRows rows).total := by
  induction rows with
  | nil => rfl
  | cons row rows ih =>
    obtain ⟨htotal, hsum, -⟩ := ofRows_cons row rows
    omega

/-- Restricted and unresolved rows together are those that need review. -/
theorem add_eq_length_filter (rows : List Row) :
    (ofRows rows).restricted + (ofRows rows).unresolved =
      (rows.filter fun row => row.status != .approved).length := by
  induction rows with
  | nil => rfl
  | cons row rows ih =>
    obtain ⟨-, -, hrest⟩ := ofRows_cons row rows
    rw [hrest, ih, List.filter_cons]
    split <;> simp

/-- The numbers on one line. -/
def line (colors : Bool) (t : Totals) : String :=
  "Total: " ++ toString t.total ++
    "  Approved: " ++ colored colors "32" (toString t.approved) ++
    "  Restricted: " ++ colored colors "31" (toString t.restricted) ++
    "  Unresolved: " ++ colored colors "33" (toString t.unresolved) ++ "\n"

/-- As many blanks. -/
def blanks (n : ℕ) : String := String.ofList (List.replicate n ' ')

/-- A line of the box, with blanks up to its border. -/
def boxed (content : String) : String :=
  " │  " ++ (content ++ blanks (48 - content.length)) ++ " │\n"

/-- The line about a status in the box: its mark and its name, how many there are, and what is said
about the licenses. -/
def statusText (colors : Bool) (codes mark label : String) (count : ℕ) (licenses : String) :
    String :=
  boxed (colored colors codes mark ++ "  " ++ label ++ ": " ++
    (blanks (4 - (toString count).length) ++ toString count) ++ licenses)

/-- The numbers in a box, with what is said about the licenses of a status. -/
def box (colors : Bool) (licenses : Status → String) (t : Totals) : String :=
  " ┌────────────────────────────────────────────────────┐\n" ++
    (" │  " ++ colored colors "1" ("SUMMARY" ++ blanks 41) ++ " │\n") ++
    boxed ("Total components   : " ++ toString t.total) ++
    (statusText colors "32" "✓" "Approved        " t.approved ("  " ++ licenses .approved) ++
      (statusText colors "31" "✗" "Restricted      " t.restricted ("  " ++ licenses .restricted) ++
        statusText colors "33" "?" "Unresolved      " t.unresolved "")) ++
    " └────────────────────────────────────────────────────┘\n\n"

end Totals

/-- As many components have a status as rows have it. -/
theorem count_eq (r : Register) (s : Status) :
    count r s = r.reportRows.countP (·.status == s) := by
  rw [List.countP_eq_length_filter, r.filter_reportRows (· == s), List.length_map]
  rfl

/-- The line of totals tells the numbers of the rows. -/
theorem totals_eq (colors : Bool) (r : Register) :
    totals colors r = (Totals.ofRows r.reportRows).line colors := by
  have hcount (s : Status) : paint colors [s.color] (toString (count r s)) =
      colored colors s.color.code (toString (r.reportRows.countP (·.status == s))) := by
    rw [count_eq]
    rfl
  unfold totals Totals.line
  simp only [hcount, ← r.length_reportRows]
  rfl

/-- The box tells the numbers of the rows, and the licenses that restrict. -/
theorem box_eq (colors : Bool) (r : Register) :
    box colors r = (Totals.ofRows r.reportRows).box colors r.licenseSummary := by
  have hlines : String.join ([.approved, .restricted, .unresolved].map (statusLine colors r)) =
      statusLine colors r .approved ++
        (statusLine colors r .restricted ++ statusLine colors r .unresolved) := by
    simp
  have hline (s : Status) : statusLine colors r s =
      Totals.statusText colors s.color.code s.mark (boxLabel s)
        (r.reportRows.countP (·.status == s))
        (if s = .unresolved then "" else "  " ++ r.licenseSummary s) := by
    rw [← count_eq]
    rfl
  unfold box Totals.box
  rw [hlines, hline, hline, hline, ← r.length_reportRows]
  rfl

/-! ## Tables -/

/-- A table of a report: the status that it is about, and the rows that it lists. -/
structure Listing where
  status : Status
  rows : List Row

namespace Listing

/-- What is shown of a license: nothing is known of one that is absent or empty. -/
def licenseCell : Option String → String
  | none => "unknown"
  | some license => if license = "" then "unknown" else license

/-- What is shown of an authority. -/
def authorityCell : Option String → String
  | none => "-"
  | some authority => authority

/-- What is shown of a status. -/
def statusCell : Status → String
  | .approved => "✓ approved"
  | .restricted => "✗ restricted"
  | .unresolved => "? unresolved"

/-- What a table shows of a row. -/
def cells (row : Row) : List String :=
  [row.id.canonical, licenseCell row.license, authorityCell row.authority, statusCell row.status]

/-- The heading of the table about a status. -/
def heading (colors : Bool) : Status → String
  | .approved => " " ++ colored colors "1;32" "[APPROVED]" ++ " " ++ "Approved content:"
  | .restricted => " " ++ colored colors "1;31" "[RESTRICTED]" ++ " " ++ "Restricted content:"
  | .unresolved => " " ++ colored colors "1;33" "[UNRESOLVED]" ++ " " ++ "No license data found:"

/-- The text shows the table under its heading. -/
def Shows (colors : Bool) (l : Listing) (text : String) : Prop :=
  ∃ lines, Table.Shows ["Content", "License", "Authority", "Status"] (l.rows.map cells) lines ∧
    text = heading colors l.status ++ "\n\n" ++ String.join (lines.map (· ++ "\n")) ++ "\n"

/-- The table under its heading, as it is printed. -/
def text (colors : Bool) (l : Listing) : String :=
  heading colors l.status ++ "\n\n" ++
    Table.text ⟨["Content", "License", "Authority", "Status"], l.rows.map cells⟩ ++ "\n"

/-- What is printed shows the table under its heading. -/
theorem shows_text (colors : Bool) (l : Listing) : l.Shows colors (l.text colors) := by
  let t : Table := ⟨["Content", "License", "Authority", "Status"], l.rows.map cells⟩
  have hsquare : ∀ row ∈ t.rows, row.length = t.header.length := by
    simp [t, cells]
  exact ⟨t.lines, Table.shows_lines hsquare, rfl⟩

/-- Where the ids of the rows are words, they are what the first column of the table holds. -/
theorem Shows.firstColumn_eq {colors : Bool} {l : Listing} {text : String}
    (shows : l.Shows colors text) (words : ∀ row ∈ l.rows, Table.IsWord row.id.canonical) :
    Table.firstColumn text = "Content" :: l.rows.map (·.id.canonical) := by
  obtain ⟨lines, hlines, rfl⟩ := shows
  have hheading : Table.firstColumn (heading colors l.status ++ "\n") = [] := by
    cases colors <;> cases l.status <;> decide +kernel
  have hlabel : Table.IsWord (Table.firstCell ["Content", "License", "Authority", "Status"]) := by
    decide +kernel
  have hfirst : (l.rows.map cells).map Table.firstCell = l.rows.map (·.id.canonical) := by
    rw [List.map_map]
    rfl
  have htable := Table.firstColumn_of_shows hlabel (by simpa [cells, Table.firstCell] using words)
    hlines
  rw [hfirst] at htable
  have hend : Table.firstColumn "" = [] := rfl
  have htext : heading colors l.status ++ "\n\n" ++ String.join (lines.map (· ++ "\n")) ++ "\n" =
      heading colors l.status ++ "\n" ++ "\n" ++ String.join (lines.map (· ++ "\n")) ++ "\n" ++
        "" := by
    simp only [String.append_empty, String.append_assoc]
    rfl
  rw [htext, Table.firstColumn_append, Table.firstColumn_append, hheading, htable, hend,
    List.nil_append, List.append_nil]
  rfl

end Listing

/-- The tables list all rows, but for the approved ones unless these are wanted: there is one table
for each status that occurs, with all the rows that have it, in their order. -/
structure Tabulates (verbose : Bool) (rows : List Row) (tables : List Listing) : Prop where
  distinct : (tables.map (·.status)).Nodup
  appears_iff : ∀ s, s ∈ tables.map (·.status) ↔
    (s = .approved → verbose = true) ∧ ∃ row ∈ rows, row.status = s
  lists : ∀ table ∈ tables, table.rows = rows.filter (·.status == table.status)
  once : (tables.flatMap (·.rows)).Perm
    (rows.filter fun row => row.status != .approved || verbose)

/-- The tables of a report. -/
def tables (verbose : Bool) (rows : List Row) : List Listing :=
  ((listed verbose).map fun s => ⟨s, rows.filter (·.status == s)⟩).filter fun table =>
    !table.rows.isEmpty

/-- The cells of an entry's row are what the table of its status is made from. -/
theorem cells_ofEntry (e : Entry) :
    Listing.cells (Row.ofEntry e) =
      [e.id.canonical, e.licenseLabel, e.authority?.getD "-",
        e.status.mark ++ " " ++ e.status.name] := by
  have hlicense : Listing.licenseCell e.license? = e.licenseLabel := by
    unfold Listing.licenseCell Entry.licenseLabel
    cases e.license? with
    | none => rfl
    | some license => by_cases h : license = "" <;> simp [Option.filter, h]
  have hauthority : Listing.authorityCell e.authority? = e.authority?.getD "-" := by
    cases e.authority? <;> rfl
  have hstatus : Listing.statusCell e.status = e.status.mark ++ " " ++ e.status.name := by
    cases e.status <;> decide +kernel
  rw [← hlicense, ← hauthority, ← hstatus]
  rfl

/-- The section about a status is the table of its rows, or nothing if there are none. -/
theorem statusSection_eq (colors : Bool) (r : Register) (s : Status) :
    statusSection colors r s =
      if (r.reportRows.filter (·.status == s)).isEmpty then ""
      else Listing.text colors ⟨s, r.reportRows.filter (·.status == s)⟩ := by
  have hrows := r.filter_reportRows (· == s)
  have hcount : count r s = 0 ↔ (r.reportRows.filter (·.status == s)).isEmpty = true := by
    rw [count_eq, List.countP_eq_length_filter, List.length_eq_zero_iff, List.isEmpty_iff]
  have htable : statusTable r s =
      ⟨["Content", "License", "Authority", "Status"],
        (r.reportRows.filter (·.status == s)).map Listing.cells⟩ := by
    rw [hrows, List.map_map, Function.comp_def]
    simp only [cells_ofEntry]
    rfl
  have hheading : " " ++ paint colors [.bold, s.color] s.heading.1 ++ " " ++ s.heading.2 =
      Listing.heading colors s := by
    cases s <;> rfl
  rw [statusSection, htable, hheading]
  simp only [hcount]
  rfl

/-- The sections of a report are its tables, one after the other. -/
theorem join_tables (colors verbose : Bool) (r : Register) :
    String.join ((listed verbose).map (statusSection colors r)) =
      String.join ((tables verbose r.reportRows).map (Listing.text colors)) := by
  rw [tables]
  induction listed verbose with
  | nil => rfl
  | cons s statuses ih =>
    rw [List.map_cons, List.map_cons, String.join_cons, ih, statusSection_eq]
    split
    · next hnone => simp [hnone]
    · next hsome => simp [hsome]

/-- Approved components are listed on demand only, and all others always. -/
theorem mem_listed_iff {verbose : Bool} {s : Status} :
    s ∈ listed verbose ↔ (s = .approved → verbose = true) := by
  cases verbose <;> cases s <;> simp [listed]

/-- A table of the report has all rows with its status, and at least one. -/
theorem mem_tables_iff {verbose : Bool} {rows : List Row} {table : Listing} :
    table ∈ tables verbose rows ↔ table.status ∈ listed verbose ∧
      table.rows = rows.filter (·.status == table.status) ∧ table.rows ≠ [] := by
  obtain ⟨s, listed⟩ := table
  simp only [tables, List.mem_filter, List.mem_map, Bool.not_eq_true', List.isEmpty_eq_false_iff,
    Listing.mk.injEq]
  constructor
  · rintro ⟨⟨_, hs, rfl, rfl⟩, hsome⟩
    exact ⟨hs, rfl, hsome⟩
  · rintro ⟨hs, rfl, hsome⟩
    exact ⟨⟨s, hs, rfl, rfl⟩, hsome⟩

/-- Tables without rows would list nothing. -/
theorem flatMap_tables (verbose : Bool) (rows : List Row) :
    (tables verbose rows).flatMap (·.rows) =
      (listed verbose).flatMap fun s => rows.filter (·.status == s) := by
  rw [tables]
  induction listed verbose with
  | nil => rfl
  | cons s statuses ih =>
    rw [List.map_cons, List.filter_cons, List.flatMap_cons, ← ih]
    split
    · rw [List.flatMap_cons]
    · next hnone =>
      have hempty : rows.filter (·.status == s) = [] := by simpa using hnone
      rw [hempty, List.nil_append]

/-- The tables of the report tabulate its rows. -/
theorem tabulates_tables (verbose : Bool) (rows : List Row) :
    Tabulates verbose rows (tables verbose rows) where
  distinct := by
    have hlisted : (listed verbose).Nodup := by cases verbose <;> decide
    have hall : ((listed verbose).map fun s =>
        (⟨s, rows.filter (·.status == s)⟩ : Listing)).map (·.status) = listed verbose := by
      rw [List.map_map]
      exact List.map_id _
    have hsub : ((tables verbose rows).map (·.status)).Sublist _ := List.filter_sublist.map _
    rw [hall] at hsub
    exact hlisted.sublist hsub
  appears_iff s := by
    rw [List.mem_map, ← mem_listed_iff]
    constructor
    · rintro ⟨table, htable, rfl⟩
      obtain ⟨hs, hrows, hsome⟩ := mem_tables_iff.1 htable
      obtain ⟨row, hrow⟩ := List.exists_mem_of_ne_nil _ hsome
      rw [hrows, List.mem_filter, beq_iff_eq] at hrow
      exact ⟨hs, row, hrow⟩
    · rintro ⟨hs, row, hrow, hstatus⟩
      have hmem : row ∈ rows.filter (·.status == s) :=
        List.mem_filter.2 ⟨hrow, beq_iff_eq.2 hstatus⟩
      exact ⟨⟨s, _⟩, mem_tables_iff.2 ⟨hs, rfl, List.ne_nil_of_mem hmem⟩, rfl⟩
  lists table htable := (mem_tables_iff.1 htable).2.1
  once := by
    have hcount (p : Row → Bool) (row : Row) :
        (rows.filter p).count row = if p row then rows.count row else 0 := by
      split
      · next hrow => exact List.count_filter hrow
      · next hrow => exact List.count_eq_zero.2 fun hmem => hrow (List.mem_filter.1 hmem).2
    -- A row counts in one table, that of its status.
    refine List.perm_iff_count.2 fun row => ?_
    rw [flatMap_tables, List.count_flatMap]
    simp only [Function.comp_def, hcount]
    cases verbose <;> cases row.status <;> simp [listed]

end Report

/-! ## All reports -/

/-- What every report of a register tells is in its rows, one for each entry, in the order of the
bytes of the ids where entries stand under their own ids, as those of a resolution do
(`isKeyed_of_resolve`). The components that need review are those of the rows that are not approved.
The numbers of the terminal report, quiet or not, are the numbers of rows, and its tables show the
rows, whose ids are read back from the first column where they are words. -/
theorem Register.reports_agree (r : Register) :
    (r.reportRows.length = r.size ∧
      (∀ row, row ∈ r.reportRows ↔ ∃ key e, r.find? key = some e ∧
        row = ⟨e.id, e.license?, e.status, e.authority?, e.url?⟩) ∧
      (r.IsKeyed →
        r.reportRows.Pairwise fun a b => Text.utf8 a.id.canonical < Text.utf8 b.id.canonical)) ∧
    r.needsReview = (r.reportRows.filter fun row => row.status != .approved).map (·.id) ∧
    let t := Report.Totals.ofRows r.reportRows
    t.total = r.reportRows.length ∧ t.approved + t.restricted + t.unresolved = t.total ∧
      t.restricted + t.unresolved = r.needsReview.length ∧
      ∀ colors verbose input,
        Report.terminal ⟨verbose, true, colors⟩ input r = t.line colors ∧
        ∃ tables texts, Report.Tabulates verbose r.reportRows tables ∧
          List.Forall₂ (fun table text => table.Shows colors text ∧
            ((∀ row ∈ table.rows, Table.IsWord row.id.canonical) →
              Table.firstColumn text = "Content" :: table.rows.map (·.id.canonical)))
            tables texts ∧
          Report.terminal ⟨verbose, false, colors⟩ input r =
            "\n " ++ Report.colored colors "1" "license-resolver" ++ " v0.1.0\n Input: " ++ input ++
              "\n\n" ++ t.box colors r.licenseSummary ++ String.join texts := by
  refine ⟨⟨r.length_reportRows, fun row => mem_reportRows_iff, increasing_reportRows⟩,
    r.needsReview_eq, rfl, Report.Totals.add_eq_total _, ?_,
    fun colors verbose input => ⟨?_, Report.tables verbose r.reportRows,
      (Report.tables verbose r.reportRows).map (Report.Listing.text colors),
      Report.tabulates_tables verbose r.reportRows, ?_, ?_⟩⟩
  · rw [Report.Totals.add_eq_length_filter, r.needsReview_eq, List.length_map]
  · exact Report.totals_eq colors r
  · rw [List.forall₂_map_right_iff, List.forall₂_same]
    exact fun table _ => ⟨table.shows_text colors, (table.shows_text colors).firstColumn_eq⟩
  · rw [Report.terminal, if_neg Bool.false_ne_true, Report.join_tables, Report.box_eq]
    rfl

/-- Without the approved component there are two tables, with it three. -/
theorem Register.reports_agree_of_three_statuses :
    let id (name : String) : ComponentId := .located ⟨"npm", "npmjs", none, name, "1"⟩
    let entry (name license : String) (verdict : Verdict) : Entry :=
      { id := id name, observations := [⟨id name, license, 90, verdict, "#1", none⟩] }
    let r : Register :=
      ⟨[("npm/npmjs/-/a/1", entry "a" "MIT" .approved), ("npm/npmjs/-/b/1", { id := id "b" }),
        ("npm/npmjs/-/c/1", entry "c" "GPL-3.0" .restricted)], by decide +kernel⟩
    r.IsKeyed ∧ r.reportRows.length = 3 ∧
      r.reportRows.Pairwise (fun a b => Text.utf8 a.id.canonical < Text.utf8 b.id.canonical) ∧
      r.needsReview = [id "b", id "c"] ∧
      Report.terminal ⟨true, true, false⟩ "-" r =
        "Total: 3  Approved: 1  Restricted: 1  Unresolved: 1\n" ∧
      Report.terminal ⟨false, false, false⟩ "-" r = String.join ([
        "",
        " license-resolver v0.1.0",
        " Input: -",
        "",
        " ┌────────────────────────────────────────────────────┐",
        " │  SUMMARY                                          │",
        " │  Total components   : 3                           │",
        " │  ✓  Approved        :    1  [MIT (1)]             │",
        " │  ✗  Restricted      :    1  [GPL-3.0 (1)]         │",
        " │  ?  Unresolved      :    1                        │",
        " └────────────────────────────────────────────────────┘",
        "",
        " [RESTRICTED] Restricted content:",
        "",
        "┌─────────────────┬─────────┬───────────┬──────────────┐",
        "│ Content         ┆ License ┆ Authority ┆ Status       │",
        "╞═════════════════╪═════════╪═══════════╪══════════════╡",
        "│ npm/npmjs/-/c/1 ┆ GPL-3.0 ┆ #1        ┆ ✗ restricted │",
        "└─────────────────┴─────────┴───────────┴──────────────┘",
        "",
        " [UNRESOLVED] No license data found:",
        "",
        "┌─────────────────┬─────────┬───────────┬──────────────┐",
        "│ Content         ┆ License ┆ Authority ┆ Status       │",
        "╞═════════════════╪═════════╪═══════════╪══════════════╡",
        "│ npm/npmjs/-/b/1 ┆ unknown ┆ -         ┆ ? unresolved │",
        "└─────────────────┴─────────┴───────────┴──────────────┘",
        ""].map (· ++ "\n")) ∧
      ∀ verbose, ∃ tables texts, Report.Tabulates verbose r.reportRows tables ∧
        (∀ s, s ∈ tables.map (·.status) ↔ (s = .approved → verbose = true)) ∧
        List.Forall₂ (fun table text => table.Shows false text ∧
          Table.firstColumn text = "Content" :: table.rows.map (·.id.canonical)) tables texts := by
  intro id entry r
  have keyed : r.IsKeyed := by decide +kernel
  obtain ⟨⟨hlength, -, hincreasing⟩, -, -, -, -, hterminal⟩ := r.reports_agree
  have hline : (Report.Totals.ofRows r.reportRows).line false =
      "Total: 3  Approved: 1  Restricted: 1  Unresolved: 1\n" := by
    decide +kernel
  have hall : ∀ s, ∃ row ∈ r.reportRows, row.status = s := by
    intro s
    cases s <;> decide +kernel
  have hwords : ∀ row ∈ r.reportRows, Table.IsWord row.id.canonical := by decide +kernel
  refine ⟨keyed, hlength, hincreasing keyed, by decide +kernel, ?_, by decide +kernel,
    fun verbose => ?_⟩
  · rw [(hterminal false true "-").1, hline]
  · obtain ⟨tables, texts, htables, htexts, -⟩ := (hterminal false verbose "-").2
    refine ⟨tables, texts, htables,
      fun s => (htables.appears_iff s).trans (and_iff_left (hall s)), ?_⟩
    have hmembers := (List.forall₂_and_left tables texts).2 ⟨fun _ h => h, htexts⟩
    refine hmembers.imp fun table text h => ?_
    obtain ⟨htable, hshows, hread⟩ := h
    refine ⟨hshows, hread fun row hrow => hwords row ?_⟩
    rw [htables.lists table htable] at hrow
    exact (List.mem_filter.1 hrow).1

end Clearance
