import Clearance.Proofs.Text.Parts
import Clearance.Report.Table
import Mathlib.Data.List.GetD

/-!
# What a table shows

A table shows the cells of its rows side by side, whatever they hold (`Table.Shows`): each line of a
row holds a line of each cell with blanks behind it, no line of a cell is left out, and rules part
the rows. How wide the columns are is left open, since nothing is told by it.

Whoever knows how the lines of a row start can read the first column back (`Table.firstColumn`).
That finds the cells of the column one after the other where they are words, texts without blanks
and line feeds.
-/

set_option autoImplicit false

namespace Clearance.Table

/-! ## Rows and rules -/

/-- The lines of a text, of which there is at least one. -/
def linesOf (text : String) : List (List Char) := text.toList.splitOn '\n'

/-- What is shown is a text with blanks behind it. -/
def Fills (text : List Char) (shown : String) : Prop :=
  ∃ n, shown.toList = text ++ List.replicate n ' '

/-- A line of a row shows the lines that the cells have at an index, and only blanks for a cell with
fewer lines. -/
def ShowsLine (cells : List String) (index : ℕ) (line : String) : Prop :=
  ∃ shown, List.Forall₂ (fun cell text => Fills ((linesOf cell).getD index []) text) cells shown ∧
    line = "│ " ++ " ┆ ".intercalate shown ++ " │"

/-- The lines show all lines of the cells. -/
structure ShowsRow (cells lines : List String) : Prop where
  whole : ∀ cell ∈ cells, (linesOf cell).length ≤ lines.length
  shows : ∀ index line, lines[index]? = some line → ShowsLine cells index line

/-- A line that is made of strokes. -/
def IsRule (strokes line : String) : Prop := line ≠ "" ∧ ∀ c ∈ line.toList, c ∈ strokes.toList

/-- The lines show the rows one after the other, with a rule between each two of them. -/
inductive ShowsRows : List (List String) → List String → Prop
  | none : ShowsRows [] []
  | last {cells lines : List String} (shows : ShowsRow cells lines) : ShowsRows [cells] lines
  | cons {cells next : List String} {rows : List (List String)} {lines rest : List String}
      {rule : String} (shows : ShowsRow cells lines) (isRule : IsRule "├╌┼┤" rule)
      (others : ShowsRows (next :: rows) rest) :
      ShowsRows (cells :: next :: rows) (lines ++ rule :: rest)

/-- The lines show the header and the rows, with rules around them. -/
structure Shows (header : List String) (rows : List (List String)) (lines : List String) :
    Prop where
  parts : ∃ top head middle body bottom,
    lines = top :: head ++ middle :: body ++ [bottom] ∧
      IsRule "┌─┬┐" top ∧ ShowsRow header head ∧ IsRule "╞═╪╡" middle ∧ ShowsRows rows body ∧
      IsRule "└─┴┘" bottom

/-! ## The lines of a table -/

/-- No element of a list is beyond the greatest. -/
theorem le_foldl_max {l : List ℕ} {n m : ℕ} (h : n ≤ m ∨ n ∈ l) : n ≤ l.foldl max m := by
  induction l generalizing m with
  | nil => exact h.resolve_right nofun
  | cons k l ih =>
    rw [List.foldl_cons]
    rcases h with hle | hmem
    · exact ih (Or.inl (Nat.le_trans hle (Nat.le_max_left m k)))
    · rcases List.mem_cons.1 hmem with rfl | hrest
      · exact ih (Or.inl (Nat.le_max_right m n))
      · exact ih (Or.inr hrest)

/-- Every column has a width. -/
theorem length_widths {t : Table} (square : ∀ cells ∈ t.rows, cells.length = t.header.length) :
    t.widths.length = t.header.length := by
  have hfold (rows : List (List String)) (widths : List ℕ)
      (hrows : ∀ cells ∈ rows, cells.length = widths.length) :
      (rows.foldl (fun widths row => List.zipWith max widths (row.map cellWidth)) widths).length =
        widths.length := by
    induction rows generalizing widths with
    | nil => rfl
    | cons cells rows ih =>
      obtain ⟨hcells, hrest⟩ := List.forall_mem_cons.1 hrows
      have hzip : (List.zipWith max widths (cells.map cellWidth)).length = widths.length := by
        rw [List.length_zipWith, List.length_map, hcells, Nat.min_self]
      rw [List.foldl_cons, ih _ (by simpa only [hzip] using hrest), hzip]
  rw [widths, hfold t.rows _ (by simpa using square), List.length_map]

/-- A line of a cell is shown where it is filled up. -/
theorem fills_fill (width index : ℕ) (cell : String) :
    Fills ((linesOf cell).getD index []) (fill width ((cellLines cell).getD index "")) := by
  have hline : (cellLines cell).getD index "" = String.ofList ((linesOf cell).getD index []) :=
    List.getD_map _ _ String.ofList
  rw [hline]
  exact ⟨_, by rw [fill, String.toList_append, String.toList_ofList, String.toList_ofList]⟩

/-- The cells are shown from left to right where there is a width for each of them. -/
theorem showsLine_rowLine {widths : List ℕ} {cells : List String}
    (enough : cells.length ≤ widths.length) (index : ℕ) :
    ShowsLine cells index (rowLine widths (cells.map cellLines) index) := by
  refine ⟨_, ?_, rfl⟩
  induction cells generalizing widths with
  | nil => simp
  | cons cell cells ih =>
    cases widths with
    | nil => simp at enough
    | cons width widths =>
      exact .cons (fills_fill width index cell) (ih (Nat.le_of_succ_le_succ enough))

/-- The lines of a row show its cells. -/
theorem showsRow_rowLines {widths : List ℕ} {cells : List String}
    (enough : cells.length ≤ widths.length) : ShowsRow cells (rowLines widths cells) where
  whole cell hcell := by
    rw [rowLines, List.length_map, List.length_range]
    refine le_foldl_max (Or.inr ?_)
    rw [List.map_map]
    refine List.mem_map.2 ⟨cell, hcell, ?_⟩
    rw [Function.comp_apply, cellLines, List.length_map, linesOf]
  shows index line hline := by
    rw [rowLines, List.getElem?_map, Option.map_eq_some_iff] at hline
    obtain ⟨k, hk, rfl⟩ := hline
    obtain ⟨-, rfl⟩ := List.getElem?_eq_some_iff.1 hk
    rw [List.getElem_range]
    exact showsLine_rowLine enough _

/-- A rule is made of what it is put together from. -/
theorem isRule_rule {left stroke crossing right strokes : String} (widths : List ℕ)
    (nonempty : left ≠ "")
    (made : ∀ c ∈ (left ++ stroke ++ crossing ++ right).toList, c ∈ strokes.toList) :
    IsRule strokes (rule left stroke crossing right widths) := by
  simp only [String.toList_append, List.mem_append] at made
  refine ⟨by simp [rule, nonempty], fun c hc => made c ?_⟩
  simp only [rule, String.toList_append, List.mem_append, String.toList_intercalate] at hc
  rcases hc with (hleft | hmiddle) | hright
  · simp [hleft]
  · rcases mem_intercalate hmiddle with hcrossing | ⟨part, hpart, hin⟩
    · simp [hcrossing]
    · simp only [List.map_map, List.mem_map] at hpart
      obtain ⟨width, -, rfl⟩ := hpart
      have hstroke : c ∈ stroke.toList := by
        simpa using hin
      simp [hstroke]
  · simp [hright]

/-- The lines below the header show the rows, with rules between them. -/
theorem showsRows_bodyLines {widths : List ℕ} {rows : List (List String)}
    (enough : ∀ cells ∈ rows, cells.length ≤ widths.length) :
    ShowsRows rows (bodyLines widths rows) := by
  induction rows with
  | nil => exact .none
  | cons cells rows ih =>
    obtain ⟨hcells, hrest⟩ := List.forall_mem_cons.1 enough
    cases rows with
    | nil =>
      have hlines : bodyLines widths [cells] = rowLines widths cells := by simp [bodyLines]
      rw [hlines]
      exact .last (showsRow_rowLines hcells)
    | cons next rows =>
      have hlines : bodyLines widths (cells :: next :: rows) =
          rowLines widths cells ++ rule "├" "╌" "┼" "┤" widths ::
            bodyLines widths (next :: rows) := by
        simp [bodyLines]
      rw [hlines]
      exact .cons (showsRow_rowLines hcells) (isRule_rule widths (by decide) (by simp))
        (ih hrest)

/-- The lines of a table show it if all rows have as many cells as the header. -/
theorem shows_lines {t : Table} (square : ∀ cells ∈ t.rows, cells.length = t.header.length) :
    Shows t.header t.rows t.lines := by
  have hwidths := length_widths square
  refine ⟨_, _, _, _, _, rfl, isRule_rule t.widths (by decide) (by simp),
    showsRow_rowLines (Nat.le_of_eq hwidths.symm), isRule_rule t.widths (by decide) (by simp),
    showsRows_bodyLines fun cells hcells => ?_, isRule_rule t.widths (by decide) (by simp)⟩
  exact Nat.le_of_eq ((square cells hcells).trans hwidths.symm)

/-! ## Reading the first column -/

/-- The text is not empty, and holds neither blanks nor line feeds. -/
def IsWord (text : String) : Prop := text ≠ "" ∧ ∀ c ∈ text.toList, c ≠ ' ' ∧ c ≠ '\n'

instance : DecidablePred IsWord :=
  -- The characters are tried one by one, where an instance for all of `Char` would try them all.
  fun text => @instDecidableAnd _ _ inferInstance (List.decidableBAll _ text.toList)

/-- What stands up to the first blank on a line of a row; nothing on other lines. -/
def firstWord? : List Char → Option String
  | '│' :: ' ' :: rest => some (String.ofList (rest.takeWhile (· != ' ')))
  | _ => none

/-- The words in the first column of the tables in a text. -/
def firstColumn (text : String) : List String :=
  ((linesOf text).filterMap firstWord?).filter (· != "")

/-- The first column of two texts is that of the one and then that of the other. -/
theorem firstColumn_append (a b : String) :
    firstColumn (a ++ "\n" ++ b) = firstColumn a ++ firstColumn b := by
  have htext : (a ++ "\n" ++ b).toList = a.toList ++ '\n' :: b.toList := by simp
  rw [firstColumn, linesOf, htext, splitOn_append_cons, List.filterMap_append, List.filter_append]
  rfl

/-- The first column is read line by line. -/
theorem firstColumn_join (lines : List String) :
    firstColumn (String.join (lines.map (· ++ "\n"))) = lines.flatMap firstColumn := by
  induction lines with
  | nil => rfl
  | cons line lines ih =>
    rw [List.map_cons, String.join_cons, firstColumn_append, ih, List.flatMap_cons]

/-- The first column of one line is its first word, if there is any. -/
theorem firstColumn_of_single {line : String} (single : '\n' ∉ line.toList) :
    firstColumn line = (firstWord? line.toList).toList.filter (· != "") := by
  rw [firstColumn, linesOf, List.splitOn_eq_singleton single]
  cases h : firstWord? line.toList <;> simp [h]

/-- A rule starts no row. -/
theorem firstColumn_of_isRule {strokes line : String} (isRule : IsRule strokes line)
    (bar : '│' ∉ strokes.toList) (feed : '\n' ∉ strokes.toList) : firstColumn line = [] := by
  have hfirst : firstWord? line.toList = none := by
    unfold firstWord?
    split
    · next hline => exact absurd (isRule.2 '│' (by simp [hline])) bar
    · rfl
  rw [firstColumn_of_single fun h => feed (isRule.2 _ h), hfirst]
  rfl

/-- What is shown in the first cell is read up to the blanks behind it. -/
theorem firstWord?_of_fills {text : List Char} {shown : String} (free : ' ' ∉ text)
    (fills : Fills text shown) (others : List String) :
    firstWord? ("│ " ++ " ┆ ".intercalate (shown :: others) ++ " │").toList =
      some (String.ofList text) := by
  obtain ⟨n, hshown⟩ := fills
  -- Behind the blanks there is the blank in front of the next cell, or else of the end.
  obtain ⟨rest, hrest⟩ : ∃ rest, (" ┆ ".intercalate (shown :: others) ++ " │").toList =
      shown.toList ++ ' ' :: rest := by
    cases others with
    | nil => exact ⟨['│'], by simp⟩
    | cons next others => exact ⟨_, by
        rw [String.intercalate_cons_cons, String.append_assoc, String.append_assoc,
          String.toList_append, String.toList_append]
        rfl⟩
  have htake : (text ++ (List.replicate n ' ' ++ ' ' :: rest)).takeWhile (· != ' ') = text := by
    rw [List.takeWhile_append_of_pos fun c hc => bne_iff_ne.2 (ne_of_mem_of_not_mem hc free)]
    cases n <;> simp [List.replicate_succ]
  rw [String.append_assoc, String.toList_append, hrest, hshown, List.append_assoc]
  exact congrArg (fun cs => some (String.ofList cs)) htake

/-- Neither the line of a cell nor what it is filled up with holds a line feed. -/
theorem Fills.single {cell shown : String} {index : ℕ}
    (fills : Fills ((linesOf cell).getD index []) shown) : '\n' ∉ shown.toList := by
  obtain ⟨n, hshown⟩ := fills
  rw [hshown, List.mem_append]
  rintro (hline | hblank)
  · rw [List.getD_eq_getElem?_getD] at hline
    cases hat : (linesOf cell)[index]? with
    | none => simp [hat] at hline
    | some part =>
      rw [hat] at hline
      exact not_mem_of_mem_splitOn (List.mem_of_getElem? hat) hline
  · exact absurd (List.eq_of_mem_replicate hblank) (by decide)

/-- No line of a row goes on behind a line feed. -/
theorem ShowsLine.single {cells : List String} {index : ℕ} {line : String}
    (shows : ShowsLine cells index line) : '\n' ∉ line.toList := by
  obtain ⟨shown, hshown, rfl⟩ := shows
  have hfree : ∀ text ∈ shown, '\n' ∉ text.toList := by
    induction hshown with
    | nil => simp
    | cons fills _ ih => exact List.forall_mem_cons.2 ⟨fills.single, ih⟩
  simp only [String.toList_append, List.mem_append, String.toList_intercalate]
  rintro ((hstart | hmiddle) | hend)
  · exact absurd hstart (by decide)
  · rcases mem_intercalate hmiddle with hsep | ⟨part, hpart, hin⟩
    · exact absurd hsep (by decide)
    · obtain ⟨text, htext, rfl⟩ := List.mem_map.1 hpart
      exact hfree text htext hin
  · exact absurd hend (by decide)

/-- On a line of a row the first cell is read up to the blanks behind it. -/
theorem firstColumn_of_showsLine {cell : String} {cells : List String} {index : ℕ}
    {line : String} (free : ' ' ∉ (linesOf cell).getD index [])
    (shows : ShowsLine (cell :: cells) index line) :
    firstColumn line =
      [String.ofList ((linesOf cell).getD index [])].filter (· != "") := by
  rw [firstColumn_of_single shows.single]
  obtain ⟨_, hshown, rfl⟩ := shows
  cases hshown with
  | cons fills _ =>
    rw [firstWord?_of_fills free fills]
    rfl

/-- A word in the first cell is read once, whatever else is in the row. -/
theorem firstColumn_of_showsRow {cell : String} {cells lines : List String} (word : IsWord cell)
    (shows : ShowsRow (cell :: cells) lines) : lines.flatMap firstColumn = [cell] := by
  have hlines : linesOf cell = [cell.toList] :=
    List.splitOn_eq_singleton fun h => (word.2 _ h).2 rfl
  have hblank : ' ' ∉ cell.toList := fun h => (word.2 _ h).1 rfl
  cases lines with
  | nil =>
    have hpos := shows.whole cell List.mem_cons_self
    rw [hlines] at hpos
    cases hpos
  | cons line lines =>
    have hfirst : firstColumn line = [cell] := by
      have hfree : ' ' ∉ (linesOf cell).getD 0 [] := by simpa [hlines] using hblank
      rw [firstColumn_of_showsLine hfree (shows.shows 0 line rfl), hlines]
      simp [word.1]
    have hrest : lines.flatMap firstColumn = [] := by
      refine List.flatMap_eq_nil_iff.2 fun later hlater => ?_
      obtain ⟨k, hk⟩ := List.getElem?_of_mem hlater
      rw [firstColumn_of_showsLine (by simp [hlines]) (shows.shows (k + 1) later hk), hlines]
      rfl
    rw [List.flatMap_cons, hfirst, hrest]
    rfl

/-- The text of a row's first cell. -/
def firstCell (cells : List String) : String := cells.headD ""

/-- The lines of a row are read as its first cell. -/
theorem firstColumn_of_showsRow_firstCell {cells lines : List String}
    (word : IsWord (firstCell cells)) (shows : ShowsRow cells lines) :
    lines.flatMap firstColumn = [firstCell cells] := by
  cases cells with
  | nil => exact absurd rfl word.1
  | cons cell cells => exact firstColumn_of_showsRow word shows

/-- The lines of the rows are read as their first cells. -/
theorem firstColumn_of_showsRows {rows : List (List String)} {lines : List String}
    (words : ∀ cells ∈ rows, IsWord (firstCell cells)) (shows : ShowsRows rows lines) :
    lines.flatMap firstColumn = rows.map firstCell := by
  induction shows with
  | none => rfl
  | last shows => exact firstColumn_of_showsRow_firstCell (words _ List.mem_cons_self) shows
  | cons shows isRule _ ih =>
    obtain ⟨hcells, hrest⟩ := List.forall_mem_cons.1 words
    rw [List.flatMap_append, List.flatMap_cons, firstColumn_of_showsRow_firstCell hcells shows,
      firstColumn_of_isRule isRule (by decide) (by decide), ih hrest]
    rfl

/-- Where the first column holds words, they are read back in their order. -/
theorem firstColumn_of_shows {header : List String} {rows : List (List String)}
    {lines : List String} (label : IsWord (firstCell header))
    (words : ∀ cells ∈ rows, IsWord (firstCell cells)) (shows : Shows header rows lines) :
    firstColumn (String.join (lines.map (· ++ "\n"))) = firstCell header :: rows.map firstCell := by
  obtain ⟨top, head, middle, body, bottom, rfl, htop, hhead, hmiddle, hbody, hbottom⟩ := shows
  rw [firstColumn_join, List.cons_append, List.cons_append, List.append_assoc, List.flatMap_cons,
    List.flatMap_append, List.cons_append, List.flatMap_cons, List.flatMap_append,
    firstColumn_of_isRule htop (by decide) (by decide),
    firstColumn_of_showsRow_firstCell label hhead,
    firstColumn_of_isRule hmiddle (by decide) (by decide), firstColumn_of_showsRows words hbody,
    List.flatMap_singleton, firstColumn_of_isRule hbottom (by decide) (by decide)]
  simp

end Clearance.Table
