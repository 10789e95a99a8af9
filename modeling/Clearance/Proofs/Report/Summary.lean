import Clearance.Proofs.Component.Canonical
import Clearance.Proofs.Text.Parts
import Clearance.Report.Row

/-!
# Reading a summary

A line of a summary joins four columns, the id, the license, the status and the authority, with a
comma and a blank between them. Nothing in the columns is escaped, and only the status is one of
finitely many words: the other three hold what an entry of the dependency list and the answers of
the providers hold. So a line feed in one of them starts another line, and a separator in the id or
the license another column.

`Summary.read?` cuts a summary at the first places that can be meant. It reads back what was
written exactly if all columns are *tidy* (`Columns.IsTidy`): no line feed in any of them, and no
separator in front of the status. Between registers with tidy columns, equal summaries say the same
about the same components.
-/

set_option autoImplicit false

namespace Clearance

/-! ## The separator of the columns -/

namespace Text

/-- What is written between two columns. -/
def separator : List Char := [',', ' ']

/-- The parts before and after the first separator. -/
def cutSeparator : List Char → Option (List Char × List Char)
  | [] => none
  | c :: cs =>
    if separator.isPrefixOf (c :: cs) then some ([], cs.drop 1)
    else (cutSeparator cs).map fun parts => (c :: parts.1, parts.2)

/-- A text without one of its characters does not hold the separator. -/
theorem not_separator_infix {c : Char} (hc : c ∈ separator) {cs : List Char} (free : c ∉ cs) :
    ¬ separator <:+: cs :=
  fun h => free (h.subset hc)

/-- A separator that stands in front of another text does not begin in the text before it. -/
theorem isPrefixOf_separator_append {c : Char} {cs tail : List Char}
    (free : ¬ separator <:+: c :: cs) :
    separator.isPrefixOf (c :: cs ++ separator ++ tail) = false := by
  rw [← Bool.not_eq_true, List.isPrefixOf_iff_prefix]
  rintro ⟨rest, hrest⟩
  obtain ⟨hc, hcs⟩ := List.cons.inj hrest
  cases cs with
  | nil => exact absurd (List.cons.inj hcs).1 (by decide)
  | cons d cs =>
    obtain ⟨hd, -⟩ := List.cons.inj hcs
    refine free ⟨[], cs, ?_⟩
    rw [← hc, ← hd]
    rfl

/-- A text is cut at the separator if there is none before that. -/
theorem cutSeparator_append {before : List Char} (free : ¬ separator <:+: before)
    (after : List Char) : cutSeparator (before ++ separator ++ after) = some (before, after) := by
  induction before with
  | nil => rfl
  | cons c before ih =>
    have hrest : ¬ separator <:+: before :=
      fun h => free (h.trans (List.suffix_cons c before).isInfix)
    rw [List.cons_append, List.cons_append, cutSeparator, ← List.cons_append, ← List.cons_append,
      isPrefixOf_separator_append free, ih hrest]
    rfl

/-- A cut is at the first separator. -/
theorem cutSeparator_eq_some {cs before after : List Char}
    (h : cutSeparator cs = some (before, after)) :
    cs = before ++ separator ++ after ∧ ¬ separator <:+: before := by
  induction cs generalizing before with
  | nil => cases h
  | cons c cs ih =>
    rw [cutSeparator] at h
    split at h
    · next hprefix =>
      obtain ⟨rest, hrest⟩ := List.isPrefixOf_iff_prefix.1 hprefix
      obtain ⟨rfl, rfl⟩ := Prod.mk.inj (Option.some.inj h)
      obtain ⟨hc, hcs⟩ := List.cons.inj hrest
      refine ⟨?_, by decide⟩
      rw [← hc, ← hcs]
      rfl
    · next hprefix =>
      obtain ⟨⟨first, last⟩, hcut, heq⟩ := Option.map_eq_some_iff.1 h
      obtain ⟨rfl, rfl⟩ := Prod.mk.inj heq
      obtain ⟨rfl, hfree⟩ := ih hcut
      refine ⟨rfl, fun hinfix => ?_⟩
      rcases List.infix_cons_iff.1 hinfix with hhere | hthere
      · refine hprefix (List.isPrefixOf_iff_prefix.2 (hhere.trans ?_))
        exact ⟨separator ++ last, by simp⟩
      · exact hfree hthere

end Text

/-! ## Columns -/

/-- What a summary shows of one component. -/
structure Columns where
  id : String
  /-- The license, or what stands for none. -/
  license : String
  status : Status
  /-- The authority, or what stands for none. -/
  authority : String
  deriving DecidableEq

namespace Columns

open Text (separator cutSeparator)

/-- The line of the columns, without the line feed at its end. -/
def line (c : Columns) : List Char :=
  c.id.toList ++ separator ++ (c.license.toList ++ separator ++
    (c.status.name.toList ++ separator ++ c.authority.toList))

/-- The columns of a line, which ends each at the first separator that follows. -/
def read? (line : List Char) : Option Columns := do
  let (id, rest) ← cutSeparator line
  let (license, rest) ← cutSeparator rest
  let (status, authority) ← cutSeparator rest
  let status ← Status.ofName? (String.ofList status)
  some ⟨String.ofList id, String.ofList license, status, String.ofList authority⟩

/-- The columns that are not one of finitely many words. -/
def freeText (c : Columns) : List Char := c.id.toList ++ c.license.toList ++ c.authority.toList

/-- Nothing in front of the status can be taken for the end of a column. -/
def IsCut (c : Columns) : Prop :=
  ¬ separator <:+: c.id.toList ∧ ¬ separator <:+: c.license.toList

/-- Columns that a reader of their line can tell apart. -/
def IsTidy (c : Columns) : Prop := '\n' ∉ c.freeText ∧ c.IsCut

instance (c : Columns) : Decidable c.IsTidy := inferInstanceAs (Decidable (_ ∧ _ ∧ _))

/-- A line holds the line feeds of its free text, and no others. -/
theorem count_line (c : Columns) : c.line.count '\n' = c.freeText.count '\n' := by
  have hsep : separator.count '\n' = 0 := by decide
  have hstatus : c.status.name.toList.count '\n' = 0 := by cases c.status <;> rfl
  simp only [line, freeText, List.count_append, hsep, hstatus]
  omega

/-- A line is read as the columns that it was written from if they can be cut apart. -/
theorem read?_line_iff (c : Columns) : read? c.line = some c ↔ c.IsCut := by
  have hstatus : ¬ separator <:+: c.status.name.toList := by
    apply Text.not_separator_infix List.mem_cons_self
    cases c.status <;> decide
  constructor
  · intro h
    simp only [read?, Option.bind_eq_bind, Option.bind_eq_some_iff, Prod.exists] at h
    obtain ⟨id, _, hid, license, _, hlicense, _, _, -, _, -, hc⟩ := h
    rw [← Option.some.inj hc, IsCut, String.toList_ofList, String.toList_ofList]
    exact ⟨(Text.cutSeparator_eq_some hid).2, (Text.cutSeparator_eq_some hlicense).2⟩
  · rintro ⟨hid, hlicense⟩
    simp only [read?, line, Text.cutSeparator_append hid, Text.cutSeparator_append hlicense,
      Text.cutSeparator_append hstatus, Option.bind_eq_bind, Option.bind_some,
      String.ofList_toList, Status.ofName?_name]

end Columns

/-! ## Lines -/

namespace Summary

/-- The text of the lines of the rows. -/
def write (rows : List Columns) : List Char := rows.flatMap fun c => c.line ++ ['\n']

/-- The rows of a summary, one from each line. -/
def read? (text : List Char) : Option (List Columns) :=
  ((text.splitOn '\n').dropLast).mapM Columns.read?

variable {rows : List Columns}

/-- A line feed for each row, and those within the columns. -/
theorem count_write (rows : List Columns) :
    (write rows).count '\n' = rows.length + (rows.flatMap Columns.freeText).count '\n' := by
  induction rows with
  | nil => rfl
  | cons c rows ih =>
    have hfeed : ['\n'].count '\n' = 1 := rfl
    have hcons : write (c :: rows) = c.line ++ ['\n'] ++ write rows := rfl
    rw [hcons, List.count_append, List.count_append, c.count_line, hfeed, ih, List.length_cons,
      List.flatMap_cons, List.count_append]
    omega

/-- Cut at its line feeds, the summary is its lines, if none of them holds one. -/
theorem splitOn_write (single : ∀ c ∈ rows, '\n' ∉ c.freeText) :
    (write rows).splitOn '\n' = rows.map Columns.line ++ [[]] := by
  induction rows with
  | nil => rfl
  | cons c rows ih =>
    obtain ⟨hc, hrows⟩ := List.forall_mem_cons.1 single
    have hfree : '\n' ∉ c.line := by
      rwa [← List.count_eq_zero, c.count_line, List.count_eq_zero]
    have hcons : write (c :: rows) = c.line ++ '\n' :: write rows := by
      rw [write, List.flatMap_cons, List.append_assoc]
      rfl
    rw [hcons, splitOn_append_cons, List.splitOn_eq_singleton hfree, ih hrows]
    rfl

/-- What is written is read back exactly if all rows are tidy. -/
theorem read?_write_iff : read? (write rows) = some rows ↔ ∀ c ∈ rows, c.IsTidy := by
  constructor
  · intro h
    have hparts := mapM_eq_some_iff.1 h
    -- As many lines as rows, so no column starts another line.
    have hsingle : ∀ c ∈ rows, '\n' ∉ c.freeText := by
      have hlength := hparts.length_eq
      rw [List.length_dropLast, length_splitOn, count_write] at hlength
      have hfree : (rows.flatMap Columns.freeText).count '\n' = 0 := by omega
      intro c hc hfeed
      exact List.count_eq_zero.1 hfree (List.mem_flatMap.2 ⟨c, hc, hfeed⟩)
    rw [splitOn_write hsingle, List.dropLast_concat, List.forall₂_map_left_iff,
      List.forall₂_same] at hparts
    intro c hc
    exact ⟨hsingle c hc, c.read?_line_iff.1 (hparts c hc)⟩
  · intro h
    have hparts : List.Forall₂ (fun c d => Columns.read? c.line = some d) rows rows :=
      List.forall₂_same.2 fun c hc => c.read?_line_iff.2 (h c hc).2
    rw [read?, splitOn_write fun c hc => (h c hc).1, List.dropLast_concat]
    exact mapM_eq_some_iff.2 (List.forall₂_map_left_iff.2 hparts)

end Summary

/-! ## Registers -/

namespace Row

/-- The columns of the row. -/
def columns (row : Row) : Columns where
  id := row.id.canonical
  license := textOr "unknown" row.license
  status := row.status
  authority := textOr "none" row.authority

/-- A line of the summary is the line of its columns. -/
theorem toList_summaryLine (row : Row) : row.summaryLine.toList = row.columns.line ++ ['\n'] := by
  have hsep : ", ".toList = Text.separator := rfl
  have hfeed : "\n".toList = ['\n'] := rfl
  simp only [summaryLine, columns, Columns.line, String.toList_append, hsep, hfeed,
    List.append_assoc]

/-- A valid id holds no blank. -/
theorem isTidy_columns_iff {row : Row} (valid : row.id.isValid = true) :
    row.columns.IsTidy ↔
      ('\n' ∉ row.columns.license.toList ∧ ¬ Text.separator <:+: row.columns.license.toList) ∧
        '\n' ∉ row.columns.authority.toList := by
  have hblank : ∀ ch ∈ row.columns.id.toList, Text.isBlank ch = false := by
    cases hid : row.id with
    | located c =>
      rw [hid] at valid
      have hwell : c.isWellFormed = true := valid
      intro ch hch
      apply Coordinates.isBlank_of_mem_canonical hwell
      simpa [columns, hid, ComponentId.canonical] using hch
    | unrecognised text =>
      rw [hid] at valid
      cases valid
  have hfeed : '\n' ∉ row.columns.id.toList := fun h => absurd (hblank _ h) (by decide)
  have hsep : ¬ Text.separator <:+: row.columns.id.toList := by
    apply Text.not_separator_infix (List.mem_cons_of_mem _ List.mem_cons_self)
    exact fun h => absurd (hblank _ h) (by decide)
  simp only [Columns.IsTidy, Columns.IsCut, Columns.freeText, List.mem_append]
  tauto

end Row

namespace Register

/-- The columns of the rows of a register. -/
def columns (r : Register) : List Columns := r.reportRows.map Row.columns

/-- The summary of a register is written from its columns. -/
theorem toList_summary (r : Register) : r.summary.toList = Summary.write r.columns := by
  rw [summary, columns, Summary.write]
  induction r.reportRows with
  | nil => rfl
  | cons row rows ih =>
    simp [ih, Row.toList_summaryLine]

/-- Every entry stands under the canonical text of its id. -/
def IsKeyed (r : Register) : Prop := ∀ row ∈ r.rows, row.2.id.canonical = row.1

instance (r : Register) : Decidable r.IsKeyed := inferInstanceAs (Decidable (∀ row ∈ r.rows, _))

/-- A summary shows the components in the order of their ids. -/
theorem increasing_columns {r : Register} (keyed : r.IsKeyed) :
    (r.columns.map (·.id)).Pairwise (· < ·) := by
  have hids : r.columns.map (·.id) = r.rows.map (·.1) := by
    simp only [columns, reportRows, entries, List.map_map]
    exact List.map_congr_left fun row hrow => keyed row hrow
  rw [hids, List.pairwise_map]
  exact r.increasing

/-- Tidy columns can be told from their summary. -/
theorem summary_inj {r s : Register} (hr : ∀ c ∈ r.columns, c.IsTidy)
    (hs : ∀ c ∈ s.columns, c.IsTidy) : r.summary = s.summary ↔ r.columns = s.columns := by
  rw [← String.toList_inj, toList_summary, toList_summary]
  constructor
  · intro h
    have hread := Summary.read?_write_iff.2 hr
    rw [h, Summary.read?_write_iff.2 hs] at hread
    exact (Option.some.inj hread).symm
  · intro h
    rw [h]

/-- A summary has a line for each entry, and one more for each line feed in a column. It shows the
entries in the order of their ids, and it can be read back exactly if all columns are tidy; then it
is the summary of no other tidy columns. For a valid id this is a matter of what the providers say
about it. -/
theorem read?_summary_iff_isTidy (r : Register) :
    r.summary.toList.count '\n' = r.size + (r.columns.flatMap Columns.freeText).count '\n' ∧
      (r.IsKeyed → (r.columns.map (·.id)).Pairwise (· < ·)) ∧
      (Summary.read? r.summary.toList = some r.columns ↔ ∀ c ∈ r.columns, c.IsTidy) ∧
      (∀ s : Register, (∀ c ∈ r.columns, c.IsTidy) → (∀ c ∈ s.columns, c.IsTidy) →
        (r.summary = s.summary ↔ r.columns = s.columns)) ∧
      ∀ row ∈ r.reportRows, row.id.isValid = true →
        (row.columns.IsTidy ↔
          ('\n' ∉ row.columns.license.toList ∧ ¬ Text.separator <:+: row.columns.license.toList) ∧
            '\n' ∉ row.columns.authority.toList) := by
  have hsize : r.columns.length = r.size := by
    simp [columns, reportRows, entries, size]
  refine ⟨?_, increasing_columns, ?_, fun s => summary_inj, fun row _ => row.isTidy_columns_iff⟩
  · rw [toList_summary, Summary.count_write, hsize]
  · rw [toList_summary, Summary.read?_write_iff]

/-- Commas without a blank, and separators in the authority, are read back. -/
theorem read?_summary_iff_isTidy_of_two_registers :
    let id : ComponentId :=
      .located ⟨"maven", "mavencentral", some "com.google.guava", "guava", "15.0"⟩
    let guava (verdict : Verdict) : Entry :=
      { id, observations := [⟨id, "Apache-2.0,MIT", 100, verdict, "CQ7766, approved", none⟩] }
    let pad : Entry := { id := .located ⟨"npm", "npmjs", none, "left-pad", "1.3.0"⟩ }
    let register (verdict : Verdict) : Register :=
      ⟨[("maven/mavencentral/com.google.guava/guava/15.0", guava verdict),
        ("npm/npmjs/-/left-pad/1.3.0", pad)], by simp only [List.pairwise_pair]; decide +kernel⟩
    (∀ c ∈ (register .approved).columns, c.IsTidy) ∧
      (∀ c ∈ (register .restricted).columns, c.IsTidy) ∧
      (register .approved).IsKeyed ∧ id.isValid = true ∧
      ((register .approved).columns.map (·.id)).Pairwise (· < ·) ∧
      Summary.read? (register .approved).summary.toList = some (register .approved).columns ∧
      (register .approved).summary ≠ (register .restricted).summary ∧
      '\n' ∉ (Row.ofEntry (guava .restricted)).columns.authority.toList := by
  intro id guava pad register
  have happroved : ∀ c ∈ (register .approved).columns, c.IsTidy := by decide +kernel
  have hrestricted : ∀ c ∈ (register .restricted).columns, c.IsTidy := by decide +kernel
  have hkeyed : (register .approved).IsKeyed := by decide +kernel
  have hvalid : id.isValid = true := by decide +kernel
  obtain ⟨-, hordered, hread, hsame, -⟩ := read?_summary_iff_isTidy (register .approved)
  obtain ⟨-, -, -, -, htidy⟩ := read?_summary_iff_isTidy (register .restricted)
  have hrow : Row.ofEntry (guava .restricted) ∈ (register .restricted).reportRows :=
    List.mem_cons_self
  refine ⟨happroved, hrestricted, hkeyed, hvalid, hordered hkeyed, hread.2 happroved, ?_, ?_⟩
  · rw [ne_eq, hsame _ happroved hrestricted]
    decide +kernel
  · exact ((htidy _ hrow hvalid).1 (hrestricted _ List.mem_cons_self)).2

/-- A license with a line feed makes a restricted component read as an approved one, followed by a
component that nobody asked for. -/
theorem summary_eq_of_forged_line :
    let a : ComponentId := .located ⟨"npm", "npmjs", none, "a", "1"⟩
    let b : ComponentId := .located ⟨"npm", "npmjs", none, "b", "1"⟩
    let entry (id : ComponentId) (license : String) (verdict : Verdict) : Entry :=
      { id, observations := [⟨id, license, 1, verdict, "clearlydefined", none⟩] }
    let license := "MIT, approved, clearlydefined\nnpm/npmjs/-/b/1, GPL-3.0"
    let forged : Register := ⟨[("npm/npmjs/-/a/1", entry a license .restricted)], by decide⟩
    let honest : Register :=
      ⟨[("npm/npmjs/-/a/1", entry a "MIT" .approved),
        ("npm/npmjs/-/b/1", entry b "GPL-3.0" .restricted)], by decide +kernel⟩
    forged.summary = honest.summary ∧ forged.columns ≠ honest.columns ∧
      forged.size = 1 ∧ forged.summary.toList.count '\n' = 2 := by
  decide +kernel

end Register

end Clearance
