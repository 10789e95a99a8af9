import Clearance.Proofs.Component.Hiding
import Clearance.Proofs.Component.Releases
import Clearance.Proofs.Text.Encoding

/-!
# Lists put together

Reading a dependency list keeps the ids that no earlier one is the same as, in one pass from the
first line to the last (`ComponentId.firstOccurrences_eq_foldl`). So of two lists one below the
other, the second adds what the first does not hold (`Listing.read?_append_lineFeed`), and blank
lines, white space around entries and repeated entries do not matter.

The list is bytes, and it is cut at line feeds before its lines are read as UTF-8. This is the same
as reading the whole as UTF-8, for the byte of a line feed belongs to no other character
(`Listing.isSome_ofUtf8?_iff_lines`).
-/

set_option autoImplicit false

namespace Clearance

/-! ## First occurrences -/

namespace ComponentId

/-- Being the same id is symmetric. -/
theorem sameAs_comm (a b : ComponentId) : a.sameAs b = b.sameAs a := by
  rw [Bool.eq_iff_iff, sameAs_iff, sameAs_iff, eq_comm]

/-- An id is in two lists after each other if it is in one of them. -/
theorem isIn_append (id : ComponentId) (a b : List ComponentId) :
    id.isIn (a ++ b) = (id.isIn a || id.isIn b) := List.any_append

/-- An id is in a list of one id if it is the same as that. -/
theorem isIn_singleton (id other : ComponentId) : id.isIn [other] = id.sameAs other := by
  rw [sameAs_comm]
  exact Bool.or_false _

/-- Leaving repetitions out loses no id. -/
theorem isIn_firstOccurrences (id : ComponentId) (ids : List ComponentId) :
    id.isIn (firstOccurrences ids) = id.isIn ids := by
  rw [Bool.eq_iff_iff, isIn_iff, isIn_iff]
  constructor
  · rintro ⟨other, hother, same⟩
    exact ⟨other, mem_of_mem_firstOccurrences hother, same⟩
  · rintro ⟨other, hother, same⟩
    obtain ⟨first, hfirst, hsame⟩ := exists_mem_firstOccurrences hother
    exact ⟨first, hfirst, hsame.trans same⟩

/-- The ids that are kept after one more: it is kept unless it is the same as an earlier one. -/
def keep (kept : List ComponentId) (id : ComponentId) : List ComponentId :=
  if id.isIn kept then kept else kept ++ [id]

/-- Leaving out the ids of a list leaves out any one of them. -/
theorem filter_filter_sameAs {id : ComponentId} {kept : List ComponentId} (h : id.isIn kept = true)
    (ids : List ComponentId) :
    (ids.filter fun other => !other.sameAs id).filter (fun other => !other.isIn kept) =
      ids.filter fun other => !other.isIn kept := by
  rw [List.filter_filter]
  refine List.filter_congr fun other _ => ?_
  cases hsame : other.sameAs id with
  | false => simp
  | true =>
    have hother : other.isIn kept = true := by
      rw [isIn_congr (sameAs_iff.1 hsame), h]
    simp [hother]

/-- Of more ids those are kept that occur first and are not kept already. -/
theorem foldl_keep (kept ids : List ComponentId) :
    ids.foldl keep kept = kept ++ (firstOccurrences ids).filter fun id => !id.isIn kept := by
  induction ids generalizing kept with
  | nil => simp [firstOccurrences]
  | cons id ids ih =>
    rw [List.foldl_cons, ih, keep, firstOccurrences]
    by_cases hid : id.isIn kept = true
    · rw [if_pos hid, List.filter_cons_of_neg (by simp [hid]), filter_filter_sameAs hid]
    · rw [if_neg hid, List.filter_cons_of_pos (by simpa using hid), List.filter_filter,
        List.append_assoc, List.singleton_append]
      congr 2
      refine List.filter_congr fun other _ => ?_
      rw [isIn_append, isIn_singleton, Bool.not_or]

/-- The first occurrences are kept one after the other. -/
theorem firstOccurrences_eq_foldl (ids : List ComponentId) :
    firstOccurrences ids = ids.foldl keep [] := by
  rw [foldl_keep]
  simp [isIn]

/-- Of a second list those ids are first occurrences that the first one does not hold. -/
theorem firstOccurrences_append (a b : List ComponentId) :
    firstOccurrences (a ++ b) =
      firstOccurrences a ++
        (firstOccurrences b).filter fun id => !id.isIn (firstOccurrences a) := by
  rw [firstOccurrences_eq_foldl (a ++ b), List.foldl_append, ← firstOccurrences_eq_foldl,
    foldl_keep]

/-- An id that is the same as an earlier one changes nothing. -/
theorem firstOccurrences_insert_of_isIn {x : ComponentId} {a : List ComponentId}
    (h : x.isIn a = true) (b : List ComponentId) :
    firstOccurrences (a ++ x :: b) = firstOccurrences (a ++ b) := by
  have hkeep : keep (firstOccurrences a) x = firstOccurrences a :=
    if_pos (by rw [isIn_firstOccurrences, h])
  rw [firstOccurrences_eq_foldl, firstOccurrences_eq_foldl (a ++ b), List.foldl_append,
    List.foldl_append, List.foldl_cons, ← firstOccurrences_eq_foldl a, hkeep]

/-- An id that is not among the earlier ones is a first occurrence. -/
theorem mem_firstOccurrences_of_not_isIn {x : ComponentId} {a : List ComponentId}
    (h : x.isIn a = false) (b : List ComponentId) : x ∈ firstOccurrences (a ++ x :: b) := by
  rw [firstOccurrences_append, List.mem_append, List.mem_filter, isIn_firstOccurrences, h]
  exact Or.inr ⟨List.mem_cons_self, rfl⟩

/-- Without one component the others are the same and in the same order. -/
theorem filter_firstOccurrences (x : ComponentId) (ids : List ComponentId) :
    (firstOccurrences ids).filter (fun id => !id.sameAs x) =
      firstOccurrences (ids.filter fun id => !id.sameAs x) := by
  induction ids with
  | nil => rfl
  | cons id ids ih =>
    by_cases hid : id.sameAs x = true
    · have hsame : (fun other : ComponentId => !other.sameAs id) =
          fun other => !other.sameAs x := by
        funext other
        rw [sameAs, sameAs, sameAs_iff.1 hid]
      rw [firstOccurrences, List.filter_cons_of_neg (by simp [hid]),
        List.filter_cons_of_neg (by simp [hid]), hsame, List.filter_filter, ← ih]
      simp only [Bool.and_self]
    · have hcons (rest : List ComponentId) :
          (id :: rest).filter (fun id => !id.sameAs x) =
            id :: rest.filter fun id => !id.sameAs x :=
        List.filter_cons_of_pos (by rw [Bool.eq_false_iff.2 hid, Bool.not_false])
      rw [firstOccurrences, hcons, hcons, firstOccurrences, List.filter_comm, ih]

/-- Lists with the same ids keep the same canonical texts, perhaps in another order. -/
theorem map_canonical_firstOccurrences_perm {a b : List ComponentId}
    (same : ∀ id : ComponentId, id.isIn a = id.isIn b) :
    ((firstOccurrences a).map (·.canonical)).Perm ((firstOccurrences b).map (·.canonical)) := by
  have hdistinct (ids : List ComponentId) :
      ((firstOccurrences ids).map (·.canonical)).Nodup :=
    List.pairwise_map.2 (pairwise_firstOccurrences ids)
  rw [List.perm_ext_iff_of_nodup (hdistinct a) (hdistinct b)]
  have hmem (ids : List ComponentId) (key : String) :
      key ∈ (firstOccurrences ids).map (·.canonical) ↔
        ∃ id : ComponentId, id.canonical = key ∧ id.isIn ids = true := by
    rw [List.mem_map]
    constructor
    · rintro ⟨id, hid, rfl⟩
      exact ⟨id, rfl, isIn_iff.2 ⟨id, mem_of_mem_firstOccurrences hid, rfl⟩⟩
    · rintro ⟨id, rfl, hid⟩
      rw [← isIn_firstOccurrences] at hid
      exact isIn_iff.1 hid
  intro key
  simp only [hmem, same]

/-- `ids` are those of `all` that no earlier one is the same as, in their order. -/
structure IsFirstOccurrences (all ids : List ComponentId) : Prop where
  distinct : ids.Pairwise fun a b => a.canonical ≠ b.canonical
  complete : ∀ id ∈ all, ∃ kept ∈ ids, kept.canonical = id.canonical
  first : ∀ id ∈ ids, all.find? (·.sameAs id) = some id
  ordered : ids.Pairwise fun a b => all.findIdx (·.sameAs a) < all.findIdx (·.sameAs b)

/-- What is kept of a list are its first occurrences. -/
theorem isFirstOccurrences (all : List ComponentId) :
    IsFirstOccurrences all (firstOccurrences all) where
  distinct := pairwise_firstOccurrences all
  complete _ h := exists_mem_firstOccurrences h
  first id hid := by
    have hfind := find?_of_mem (pairwise_firstOccurrences all) hid
    rwa [find?_firstOccurrences] at hfind
  ordered := by
    induction all with
    | nil => simp [firstOccurrences]
    | cons id ids ih =>
      have hlater : ∀ other ∈ (firstOccurrences ids).filter fun other => !other.sameAs id,
          (id :: ids).findIdx (·.sameAs other) = ids.findIdx (·.sameAs other) + 1 := by
        intro other hother
        have hdiff : id.sameAs other = false := by
          rw [sameAs_comm]
          simpa using (List.mem_filter.1 hother).2
        rw [List.findIdx_cons, hdiff, cond_false]
      rw [firstOccurrences, List.pairwise_cons]
      refine ⟨fun other hother => ?_, (ih.filter _).imp_of_mem fun ha hb hlt => ?_⟩
      · rw [hlater other hother, List.findIdx_cons, sameAs, beq_self_eq_true, cond_true]
        exact Nat.succ_pos _
      · rw [hlater _ ha, hlater _ hb]
        exact Nat.succ_lt_succ hlt

end ComponentId

/-! ## Lines -/

namespace Listing

/-- Bytes around a line feed are a text if those before and behind it are. -/
theorem isSome_ofUtf8?_append_lineFeed (a b : List UInt8) :
    (Text.ofUtf8? (a ++ lineFeed :: b)).isSome =
      ((Text.ofUtf8? a).isSome && (Text.ofUtf8? b).isSome) := by
  have hboundary : ∀ x ∈ (lineFeed :: b).head?, x.IsUTF8FirstByte := by
    rintro x ⟨⟩
    decide
  have hbreak : Text.ofUtf8? (lineFeed :: b) = (Text.ofUtf8? b).map (String.ofList ['\n'] ++ ·) :=
    Text.ofUtf8?_encode_append ['\n'] b
  rw [Text.ofUtf8?_append hboundary, hbreak]
  cases Text.ofUtf8? a <;> cases Text.ofUtf8? b <;> rfl

/-- A text is UTF-8 if each of its lines is: no character but the line feed has its byte. -/
theorem isSome_ofUtf8?_iff_lines (bytes : List UInt8) :
    (Text.ofUtf8? bytes).isSome = true ↔
      ∀ line ∈ bytes.splitOn lineFeed, (Text.ofUtf8? line).isSome = true := by
  have hparts (parts : List (List UInt8)) :
      (Text.ofUtf8? ([lineFeed].intercalate parts)).isSome = true ↔
        ∀ line ∈ parts, (Text.ofUtf8? line).isSome = true := by
    induction parts with
    | nil =>
      have hempty : Text.ofUtf8? [] = some (String.ofList []) := Text.ofUtf8?_encode []
      simp [hempty]
    | cons part parts ih =>
      cases parts with
      | nil => simp
      | cons next parts =>
        rw [intercalate_cons (List.cons_ne_nil _ _), isSome_ofUtf8?_append_lineFeed,
          Bool.and_eq_true, ih]
        simp only [List.forall_mem_cons]
  have hwhole : [lineFeed].intercalate (bytes.splitOn lineFeed) = bytes :=
    List.intercalate_splitOn lineFeed
  rw [← hparts, hwhole]

/-- The ids of two lists of lines are those of the first and then those of the second. -/
theorem denoted_append (a b : List String) : denoted (a ++ b) = denoted a ++ denoted b := by
  simp [denoted]

/-- The ids that lines denote, repeated ones included, if all lines are UTF-8. -/
def idsOf? (lines : List (List UInt8)) : Option (List ComponentId) :=
  (lines.mapM Text.ofUtf8?).map denoted

/-- A list is read line by line, and repetitions are left out. -/
theorem read?_eq (bytes : List UInt8) :
    read? bytes = (idsOf? (bytes.splitOn lineFeed)).map ComponentId.firstOccurrences := by
  rw [read?, lines?, idsOf?, Option.map_map]
  rfl

/-- Lines after each other are read after each other. -/
theorem idsOf?_append (a b : List (List UInt8)) :
    idsOf? (a ++ b) = (idsOf? a).bind fun before => (idsOf? b).map (before ++ ·) := by
  rw [idsOf?, idsOf?, idsOf?, List.mapM_append]
  cases a.mapM Text.ofUtf8? with
  | none => rfl
  | some before =>
    cases b.mapM Text.ofUtf8? with
    | none => rfl
    | some after => simp [denoted_append]

/-- The first line is read first. -/
theorem idsOf?_cons (line : List UInt8) (lines : List (List UInt8)) :
    idsOf? (line :: lines) = (idsOf? [line]).bind fun first => (idsOf? lines).map (first ++ ·) :=
  idsOf?_append [line] lines

/-- One line that is a text has at most one id. -/
theorem idsOf?_singleton (line : List UInt8) :
    idsOf? [line] = (Text.ofUtf8? line).map fun s => denoted [s] := by
  rw [idsOf?, List.mapM_cons]
  cases Text.ofUtf8? line <;> rfl

/-- Lines can be read exactly if each of them is a text. -/
theorem isSome_idsOf?_iff (lines : List (List UInt8)) :
    (idsOf? lines).isSome = true ↔ ∀ line ∈ lines, (Text.ofUtf8? line).isSome = true := by
  induction lines with
  | nil => simp [idsOf?]
  | cons line lines ih =>
    rw [idsOf?_cons, idsOf?_singleton, List.forall_mem_cons, ← ih]
    cases Text.ofUtf8? line <;> cases idsOf? lines <;> simp

/-- Lines that denote the same one by one denote the same together. -/
theorem idsOf?_congr {lines others : List (List UInt8)}
    (same : List.Forall₂ (fun line other => idsOf? [other] = idsOf? [line]) lines others) :
    idsOf? others = idsOf? lines := by
  induction same with
  | nil => rfl
  | cons hline _ ih => rw [idsOf?_cons, hline, ih, ← idsOf?_cons]

/-! ## Changes that leave a list as it is -/

/-- `line` with blanks around it. -/
def IsPadded (line padded : List UInt8) : Prop :=
  ∃ us vs : List Char, (∀ c ∈ us ++ vs, Text.isBlank c = true) ∧
    padded = us.flatMap String.utf8EncodeChar ++ line ++ vs.flatMap String.utf8EncodeChar

/-- White space around a line makes no difference to its ids. -/
theorem idsOf?_of_isPadded {line padded : List UInt8} (h : IsPadded line padded) :
    idsOf? [padded] = idsOf? [line] := by
  obtain ⟨us, vs, blank, rfl⟩ := h
  have htrim (s : String) :
      Text.trim (String.ofList us ++ s ++ String.ofList vs) = Text.trim s := by
    rw [Text.trim, String.toList_append, String.toList_append, String.toList_ofList,
      String.toList_ofList, Text.trimChars_blank_append blank, Text.trim]
  rw [idsOf?_singleton, idsOf?_singleton, Text.ofUtf8?_append_encode, Text.ofUtf8?_encode_append,
    Option.map_map, Option.map_map]
  refine Option.map_congr fun s _ => ?_
  simp only [denoted, Function.comp_apply, List.map_cons, List.map_nil, htrim]

/-- The byte of a carriage return. -/
def carriageReturn : UInt8 := 13

/-- The text with a carriage return before the end of every line. -/
def withCarriageReturns (bytes : List UInt8) : List UInt8 :=
  bytes.flatMap fun b => if b = lineFeed then [carriageReturn, lineFeed] else [b]

/-- A line is padded with nothing. -/
theorem isPadded_refl (line : List UInt8) : IsPadded line line :=
  ⟨[], [], by simp, by simp⟩

/-- A carriage return behind a line is white space. -/
theorem isPadded_carriageReturn (line : List UInt8) :
    IsPadded line (line ++ [carriageReturn]) := by
  have hbyte : String.utf8EncodeChar '\r' = [carriageReturn] := by decide
  refine ⟨[], ['\r'], fun c hc => ?_, by simp [hbyte]⟩
  obtain rfl : c = '\r' := by simpa using hc
  decide

/-- Without a line feed there is nothing to put a carriage return before. -/
theorem withCarriageReturns_of_free {bytes : List UInt8} (free : lineFeed ∉ bytes) :
    withCarriageReturns bytes = bytes := by
  have hbyte : ∀ b ∈ bytes,
      (if b = lineFeed then [carriageReturn, lineFeed] else [b]) = [b] := by
    intro b hb
    rw [if_neg]
    rintro rfl
    exact free hb
  rw [withCarriageReturns, List.flatMap_congr hbyte, List.flatMap_singleton']

/-- A line feed gets its carriage return, and so do the later ones. -/
theorem withCarriageReturns_append_lineFeed {before : List UInt8} (free : lineFeed ∉ before)
    (after : List UInt8) :
    withCarriageReturns (before ++ lineFeed :: after) =
      (before ++ [carriageReturn]) ++ lineFeed :: withCarriageReturns after := by
  have hbefore : withCarriageReturns before = before := withCarriageReturns_of_free free
  rw [withCarriageReturns] at hbefore ⊢
  rw [List.flatMap_append, hbefore, List.flatMap_cons, if_pos rfl, List.append_assoc]
  rfl

/-- Carriage returns before the line feeds only pad the lines. -/
theorem forall₂_isPadded_withCarriageReturns (bytes : List UInt8) :
    List.Forall₂ IsPadded (bytes.splitOn lineFeed)
      ((withCarriageReturns bytes).splitOn lineFeed) := by
  by_cases h : lineFeed ∈ bytes
  · obtain ⟨before, after, rfl, hfree⟩ := List.eq_append_cons_of_mem h
    have ih := forall₂_isPadded_withCarriageReturns after
    have hline : lineFeed ∉ before ++ [carriageReturn] := by
      rw [List.mem_append, not_or]
      exact ⟨hfree, by decide⟩
    rw [withCarriageReturns_append_lineFeed hfree, splitOn_append_cons, splitOn_append_cons,
      List.splitOn_eq_singleton hfree, List.splitOn_eq_singleton hline]
    exact List.Forall₂.cons (isPadded_carriageReturn before) ih
  · rw [withCarriageReturns_of_free h]
    exact List.forall₂_same.2 fun line _ => isPadded_refl line
termination_by bytes.length

/-- A list with padded lines is read as the list without the padding. -/
theorem read?_of_isPadded {bytes padded : List UInt8}
    (lines : List.Forall₂ IsPadded (bytes.splitOn lineFeed) (padded.splitOn lineFeed)) :
    read? padded = read? bytes := by
  rw [read?_eq, read?_eq, idsOf?_congr (lines.imp fun _ _ => idsOf?_of_isPadded)]

/-- The lines of `longer` are those of `bytes` and one more, behind those of `before`. -/
def IsInsertion (before : List (List UInt8)) (line bytes longer : List UInt8) : Prop :=
  ∃ after, bytes.splitOn lineFeed = before ++ after ∧
    longer.splitOn lineFeed = before ++ line :: after

/-- A blank line between the others makes no difference. -/
theorem read?_of_blank_line {before : List (List UInt8)} {line bytes longer : List UInt8}
    (inserted : IsInsertion before line bytes longer) {s : String}
    (text : Text.ofUtf8? line = some s) (blank : Text.trim s = "") :
    read? longer = read? bytes := by
  obtain ⟨after, hbytes, hlonger⟩ := inserted
  have hnothing : idsOf? [line] = some [] := by
    rw [idsOf?_singleton, text, Option.map_some]
    simp [denoted, blank]
  rw [read?_eq, read?_eq, hbytes, hlonger, idsOf?_append, idsOf?_append, idsOf?_cons line, hnothing]
  simp

/-- `line` is an entry for the component `id`. -/
def Denotes (line : List UInt8) (id : ComponentId) : Prop :=
  ∃ s, Text.ofUtf8? line = some s ∧ Text.trim s ≠ "" ∧ ComponentId.read (Text.trim s) = id

/-- A line that denotes an id is read as just this id. -/
theorem idsOf?_of_denotes {line : List UInt8} {id : ComponentId} (h : Denotes line id) :
    idsOf? [line] = some [id] := by
  obtain ⟨s, htext, hfilled, rfl⟩ := h
  rw [idsOf?_singleton, htext, Option.map_some]
  simp [denoted, hfilled]

/-- The ids that are read are those that some line denotes. -/
theorem mem_idsOf?_iff {lines : List (List UInt8)} {ids : List ComponentId}
    (h : idsOf? lines = some ids) {id : ComponentId} :
    id ∈ ids ↔ ∃ line ∈ lines, Denotes line id := by
  induction lines generalizing ids with
  | nil =>
    obtain rfl : [] = ids := Option.some.inj h
    simp
  | cons line lines ih =>
    rw [idsOf?_cons, idsOf?_singleton] at h
    obtain ⟨first, hfirst, hboth⟩ := Option.bind_eq_some_iff.1 h
    obtain ⟨s, htext, rfl⟩ := Option.map_eq_some_iff.1 hfirst
    obtain ⟨rest, hrest, rfl⟩ := Option.map_eq_some_iff.1 hboth
    have hline : id ∈ denoted [s] ↔ Denotes line id := by
      simp [mem_denoted_iff, Denotes, htext, ComponentId.read_trim]
    rw [List.mem_append, hline, ih hrest, List.exists_mem_cons_iff]

/-- An entry for a component that the list has anyway takes effect only before the others for it,
and then it is the one that is kept. The other components are the same and in the same order. -/
theorem read?_of_repeated_entry {before : List (List UInt8)} {line bytes longer : List UInt8}
    (inserted : IsInsertion before line bytes longer) {x : ComponentId} (entry : Denotes line x)
    {ids : List ComponentId} (result : read? bytes = some ids) (repeated : x.isIn ids = true) :
    ∃ ids', read? longer = some ids' ∧
      ids'.filter (fun id => !id.sameAs x) = ids.filter (fun id => !id.sameAs x) ∧
      (ids'.map (·.canonical)).Perm (ids.map (·.canonical)) ∧
      ((∃ earlier ∈ before, ∃ y, Denotes earlier y ∧ y.canonical = x.canonical) → ids' = ids) ∧
      ((¬ ∃ earlier ∈ before, ∃ y, Denotes earlier y ∧ y.canonical = x.canonical) → x ∈ ids') := by
  obtain ⟨after, hbytes, hlonger⟩ := inserted
  rw [read?_eq, hbytes, idsOf?_append] at result
  obtain ⟨all, hall, rfl⟩ := Option.map_eq_some_iff.1 result
  obtain ⟨a, ha, hrest⟩ := Option.bind_eq_some_iff.1 hall
  obtain ⟨b, hb, rfl⟩ := Option.map_eq_some_iff.1 hrest
  have hread : read? longer = some (ComponentId.firstOccurrences (a ++ x :: b)) := by
    rw [read?_eq, hlonger, idsOf?_append, idsOf?_cons, idsOf?_of_denotes entry, ha, hb]
    rfl
  have hearlier : x.isIn a = true ↔
      ∃ earlier ∈ before, ∃ y, Denotes earlier y ∧ y.canonical = x.canonical := by
    rw [ComponentId.isIn_iff]
    constructor
    · rintro ⟨y, hy, same⟩
      obtain ⟨earlier, hmem, hdenotes⟩ := (mem_idsOf?_iff ha).1 hy
      exact ⟨earlier, hmem, y, hdenotes, same⟩
    · rintro ⟨earlier, hmem, y, hdenotes, same⟩
      exact ⟨y, (mem_idsOf?_iff ha).2 ⟨earlier, hmem, hdenotes⟩, same⟩
  -- The id is there anyway, so the line decides at most about the place where it stands.
  rw [ComponentId.isIn_firstOccurrences] at repeated
  refine ⟨_, hread, ?_, ?_, fun h => ?_, fun h => ?_⟩
  · have hothers : (a ++ x :: b).filter (fun id => !id.sameAs x) =
        (a ++ b).filter fun id => !id.sameAs x := by
      rw [List.filter_append, List.filter_cons_of_neg (by simp), List.filter_append]
    rw [ComponentId.filter_firstOccurrences, ComponentId.filter_firstOccurrences, hothers]
  · apply ComponentId.map_canonical_firstOccurrences_perm
    intro id
    have hcons : id.isIn (a ++ x :: b) = (id.isIn (a ++ b) || id.sameAs x) := by
      rw [ComponentId.isIn_append, ← List.singleton_append, ComponentId.isIn_append,
        ComponentId.isIn_append, ComponentId.isIn_singleton, Bool.or_comm (id.sameAs x),
        Bool.or_assoc]
    rw [hcons]
    cases hsame : id.sameAs x with
    | false => rw [Bool.or_false]
    | true => rw [ComponentId.isIn_congr (ComponentId.sameAs_iff.1 hsame), repeated, Bool.or_true]
  · exact ComponentId.firstOccurrences_insert_of_isIn (hearlier.2 h) b
  · rw [← hearlier, Bool.not_eq_true] at h
    exact ComponentId.mem_firstOccurrences_of_not_isIn h b

/-- A list cannot be read exactly if one of its lines is no text. -/
theorem read?_eq_none_iff (bytes : List UInt8) :
    read? bytes = none ↔ ∃ line ∈ bytes.splitOn lineFeed, Text.ofUtf8? line = none := by
  rw [read?_eq, Option.map_eq_none_iff, ← Option.not_isSome_iff_eq_none, isSome_idsOf?_iff]
  push Not
  simp only [Option.not_isSome_iff_eq_none]

/-- Two texts that are UTF-8, one below the other, hold the ids of the first and then the new ones
of the second. -/
theorem read?_append_lineFeed {a b : List UInt8} (textA : (Text.ofUtf8? a).isSome = true)
    (textB : (Text.ofUtf8? b).isSome = true) :
    ∃ idsA idsB, read? a = some idsA ∧ read? b = some idsB ∧
      read? (a ++ lineFeed :: b) = some (idsA ++ idsB.filter fun id => !id.isIn idsA) := by
  rw [isSome_ofUtf8?_iff_lines, ← isSome_idsOf?_iff, Option.isSome_iff_exists] at textA textB
  obtain ⟨allA, hallA⟩ := textA
  obtain ⟨allB, hallB⟩ := textB
  refine ⟨ComponentId.firstOccurrences allA, ComponentId.firstOccurrences allB, ?_, ?_, ?_⟩
  · rw [read?_eq, hallA, Option.map_some]
  · rw [read?_eq, hallB, Option.map_some]
  · rw [read?_eq, splitOn_append_cons, idsOf?_append, hallA, hallB,
      ← ComponentId.firstOccurrences_append]
    rfl

/-- A list that can be read gives the first occurrences of the ids of its lines. -/
theorem isFirstOccurrences_of_read? {bytes : List UInt8} {ids : List ComponentId}
    (h : read? bytes = some ids) :
    ∃ lines, lines? bytes = some lines ∧ ComponentId.IsFirstOccurrences (denoted lines) ids := by
  obtain ⟨lines, hlines, rfl⟩ := Option.map_eq_some_iff.1 h
  exact ⟨lines, hlines, ComponentId.isFirstOccurrences _⟩

/-- What is read of a list are the first occurrences of its components, so lists can be put
together and changed in the ways below. -/
theorem read?_firstOccurrences :
    (∀ a b : List UInt8, (Text.ofUtf8? a).isSome = true → (Text.ofUtf8? b).isSome = true →
      ∃ idsA idsB, read? a = some idsA ∧ read? b = some idsB ∧
        read? (a ++ lineFeed :: b) = some (idsA ++ idsB.filter fun id => !id.isIn idsA)) ∧
    (∀ bytes ids, read? bytes = some ids →
      ∃ lines, lines? bytes = some lines ∧ ComponentId.IsFirstOccurrences (denoted lines) ids) ∧
    (∀ before line bytes longer s, IsInsertion before line bytes longer →
      Text.ofUtf8? line = some s → Text.trim s = "" → read? longer = read? bytes) ∧
    (∀ bytes padded : List UInt8,
      List.Forall₂ IsPadded (bytes.splitOn lineFeed) (padded.splitOn lineFeed) →
        read? padded = read? bytes) ∧
    (∀ bytes, read? (withCarriageReturns bytes) = read? bytes) ∧
    (∀ before line bytes longer x ids, IsInsertion before line bytes longer → Denotes line x →
      read? bytes = some ids → x.isIn ids = true →
        ∃ ids', read? longer = some ids' ∧
          ids'.filter (fun id => !id.sameAs x) = ids.filter (fun id => !id.sameAs x) ∧
          (ids'.map (·.canonical)).Perm (ids.map (·.canonical)) ∧
          ((∃ earlier ∈ before, ∃ y, Denotes earlier y ∧ y.canonical = x.canonical) → ids' = ids) ∧
          ((¬ ∃ earlier ∈ before, ∃ y, Denotes earlier y ∧ y.canonical = x.canonical) →
            x ∈ ids')) ∧
    ∀ bytes : List UInt8,
      read? bytes = none ↔ ∃ line ∈ bytes.splitOn lineFeed, Text.ofUtf8? line = none := by
  refine ⟨fun a b => read?_append_lineFeed, fun bytes ids => isFirstOccurrences_of_read?,
    fun before line bytes longer s inserted text blank =>
      read?_of_blank_line inserted text blank,
    fun bytes padded => read?_of_isPadded,
    fun bytes => read?_of_isPadded (forall₂_isPadded_withCarriageReturns bytes),
    fun before line bytes longer x ids inserted entry result repeated =>
      read?_of_repeated_entry inserted entry result repeated,
    read?_eq_none_iff⟩

/-- Two lines for one component and one for another. -/
theorem read?_firstOccurrences_of_two_texts :
    let encode (s : String) : List UInt8 := s.toList.flatMap String.utf8EncodeChar
    let a := encode "junit:junit:4.12"
    let b := encode "maven/mavencentral/junit/junit/4.12\nx@1"
    let whole := a ++ lineFeed :: b
    let junit : ComponentId := .located ⟨"maven", "mavencentral", some "junit", "junit", "4.12"⟩
    let x : ComponentId := .located ⟨"npm", "npmjs", none, "x", "1"⟩
    read? whole = some [junit, x] ∧
      (∃ lines, lines? whole = some lines ∧
        ComponentId.IsFirstOccurrences (denoted lines) [junit, x]) ∧
      read? (a ++ lineFeed :: encode " \u00A0" ++ lineFeed :: b) = some [junit, x] ∧
      read? (encode " " ++ a ++ encode "\u3000" ++ lineFeed :: b) = some [junit, x] ∧
      read? (withCarriageReturns whole) = some [junit, x] ∧
      read? (whole ++ lineFeed :: encode "x@1") = some [junit, x] ∧
      (∃ ids, read? (encode "x@1" ++ lineFeed :: whole) = some ids ∧ x ∈ ids ∧
        (ids.map (·.canonical)).Perm ([junit, x].map (·.canonical))) ∧
      read? (a ++ [lineFeed, 255]) = none := by
  intro encode a b whole junit x
  obtain ⟨happend, hfirst, hblank, hpadded, hreturns, hrepeated, hnone⟩ := read?_firstOccurrences
  have hwhole : read? whole = some [junit, x] := by
    obtain ⟨idsA, idsB, hA, hB, hAB⟩ := happend a b (by decide +kernel) (by decide +kernel)
    have ha : read? a = some [junit] := by decide +kernel
    have hb : read? b = some [junit, x] := by decide +kernel
    obtain rfl := Option.some.inj (ha.symm.trans hA)
    obtain rfl := Option.some.inj (hb.symm.trans hB)
    exact hAB
  have hentry : Denotes (encode "x@1") x :=
    ⟨"x@1", by decide +kernel, by decide +kernel, by decide +kernel⟩
  refine ⟨hwhole, hfirst whole _ hwhole, ?_, ?_, ?_, ?_, ?_, ?_⟩
  · rw [← hwhole]
    exact hblank [a] (encode " \u00A0") whole _ " \u00A0" ⟨b.splitOn lineFeed, by decide +kernel,
      by decide +kernel⟩ (by decide +kernel) (by decide +kernel)
  · rw [← hwhole]
    refine hpadded whole _ ?_
    have hlines : whole.splitOn lineFeed = [a, encode "maven/mavencentral/junit/junit/4.12",
        encode "x@1"] := by
      decide +kernel
    have hlines' : (encode " " ++ a ++ encode "\u3000" ++ lineFeed :: b).splitOn lineFeed =
        [encode " " ++ a ++ encode "\u3000", encode "maven/mavencentral/junit/junit/4.12",
          encode "x@1"] := by
      decide +kernel
    rw [hlines, hlines']
    refine .cons ⟨[' '], ['\u3000'], fun c hc => ?_, rfl⟩ ?_
    · obtain rfl | rfl : c = ' ' ∨ c = '\u3000' := by simpa using hc
      · decide
      · decide
    exact .cons (isPadded_refl _) (.cons (isPadded_refl _) .nil)
  · rw [hreturns, hwhole]
  · obtain ⟨ids, hids, -, -, hlast, -⟩ := hrepeated (whole.splitOn lineFeed) (encode "x@1") whole
      (whole ++ lineFeed :: encode "x@1") x [junit, x]
      ⟨[], by decide +kernel, by decide +kernel⟩ hentry hwhole (by decide +kernel)
    rw [hids, hlast ⟨encode "x@1", by decide +kernel, x, hentry, rfl⟩]
  · obtain ⟨ids, hids, -, hperm, -, hnew⟩ := hrepeated [] (encode "x@1") whole
      (encode "x@1" ++ lineFeed :: whole) x [junit, x]
      ⟨whole.splitOn lineFeed, by decide +kernel, by decide +kernel⟩ hentry hwhole
      (by decide +kernel)
    exact ⟨ids, hids, hnew (by simp), hperm⟩
  · exact (hnone _).2 ⟨[255], by decide +kernel, by decide +kernel⟩

end Listing

end Clearance
