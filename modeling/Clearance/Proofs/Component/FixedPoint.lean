import Clearance.Proofs.Session.ExitCode
import Clearance.Proofs.Text.Pattern
import Mathlib

/-!
# Ids that providers write

A provider writes ids in the five-part notation, which is a pattern of five groups
(`FivePart.read_eq_captures?`). Such an id is a fixed one: it is valid, and its canonical text is
read as the id itself, from a provider and from a dependency list (`ComponentId.IsFixed`). So the id
in a reply is the one that its text denotes as a line of a dependency list, even where the text is
one in other notations too.
-/

set_option autoImplicit false

namespace Clearance

universe u

namespace FivePart

open Pattern

/-! ## The pattern -/

/-- The escape of a slash, in either case. -/
def escapedSlash : Pattern := mark '%' ++ (mark '2' ++ one fun c => c == 'F' || c == 'f')

/-- A scope or a name. -/
def escapedField (allowed : Char → Bool) : Pattern :=
  (either (one allowed) escapedSlash).atLeastOnce

/-! ## Escapes -/

/-- What is left behind an escape, from behind its `%`. -/
def afterEscape? : List Char → Option (List Char)
  | '2' :: c :: cs => if c = 'F' ∨ c = 'f' then some cs else none
  | _ => none

/-- A character or an escape takes something from the text. -/
theorem consumes_unit (allowed : Char → Bool) : (either (one allowed) escapedSlash).Consumes :=
  (consumes_one allowed).either ((consumes_one _).append _)

section escapes

variable {allowed : Char → Bool} {β : Type} {cs tail : List Char} {next : Way → Option β}

/-- An escape begins with its `%`. -/
theorem tries_escapedSlash_of_ne {c : Char} (h : c ≠ '%') :
    escapedSlash.tries (c :: cs) next = none := by
  rw [escapedSlash, tries_append, mark, tries_one_cons, if_neg (by simpa using h)]

/-- An escape that the end of the field cuts short is none: a slash belongs to no escape. -/
theorem tries_escapedSlash (atEnd : AtEnd '/' tail) :
    escapedSlash.tries ('%' :: (cs ++ tail)) next =
      (afterEscape? cs).bind fun rest => next ⟨[], rest ++ tail⟩ := by
  rw [escapedSlash, tries_append, mark, tries_one_cons, beq_self_eq_true, if_pos rfl, tries_append]
  dsimp only
  cases cs with
  | nil =>
    rw [List.nil_append, mark, atEnd.tries_one (by decide)]
    rfl
  | cons d cs =>
    rw [List.cons_append, mark, tries_one_cons]
    by_cases hd : d = '2'
    · subst hd
      rw [beq_self_eq_true, if_pos rfl]
      dsimp only
      cases cs with
      | nil =>
        rw [List.nil_append, atEnd.tries_one (by decide)]
        rfl
      | cons c cs =>
        rw [List.cons_append, tries_one_cons, afterEscape?]
        by_cases hc : c = 'F' ∨ c = 'f'
        · simp [hc, Way.andThen]
        · simp [hc]
    · rw [if_neg (by simpa using hd)]
      simp [afterEscape?, hd]

/-- At the end of a field there is neither an allowed character nor an escape. -/
theorem tries_unit_atEnd (slash : allowed '/' = false) (atEnd : AtEnd '/' tail) :
    (either (one allowed) escapedSlash).tries tail next = none := by
  rw [tries_either, atEnd.tries_one slash, Option.none_or, escapedSlash, tries_append, mark,
    atEnd.tries_one (by decide)]

/-- One more allowed character is tried, and then an escape. -/
theorem tries_repeated_unit_cons {c : Char} (inField : c ≠ '/') (stops : StopsAt '/' next) :
    (repeated (either (one allowed) escapedSlash)).tries (c :: cs) next =
      (if allowed c then (repeated (either (one allowed) escapedSlash)).tries cs next
      else none).or
        (escapedSlash.tries (c :: cs) fun w =>
          (repeated (either (one allowed) escapedSlash)).tries w.rest fun v =>
            next (w.andThen v)) := by
  rw [tries_repeated (consumes_unit allowed), stops _ c _ inField, Option.or_none, atLeastOnce,
    tries_append, tries_either, tries_one_cons]
  rfl

end escapes

/-- The repeated unit reads the fields that are made of allowed characters and escapes. -/
theorem reads_repeated_unit {allowed : Char → Bool} (slash : allowed '/' = false)
    (percent : allowed '%' = false) :
    (repeated (either (one allowed) escapedSlash)).Reads '/' (allOrEscaped allowed) := by
  intro β field tail next free atEnd stops
  fun_induction allOrEscaped allowed field generalizing next with
  | case1 =>
    rw [List.nil_append, tries_repeated (consumes_unit allowed), atLeastOnce, tries_append,
      tries_unit_atEnd slash atEnd, Option.none_or, if_pos rfl]
  | case2 c cs hescape ih =>
    rw [List.cons_append, tries_repeated_unit_cons (by decide) stops, percent,
      if_neg Bool.false_ne_true, Option.none_or, tries_escapedSlash atEnd, afterEscape?,
      if_pos hescape, Option.bind_some]
    simp only [List.mem_cons, not_or] at free
    exact ih free.2.2.2 stops
  | case3 c cs hescape =>
    rw [List.cons_append, tries_repeated_unit_cons (by decide) stops, percent,
      tries_escapedSlash atEnd, afterEscape?, if_neg hescape]
    simp
  | case4 c cs hplain ih =>
    rw [List.mem_cons, not_or] at free
    rw [List.cons_append, tries_repeated_unit_cons (Ne.symm free.1) stops]
    by_cases hc : c = '%'
    · subst hc
      have hnone : afterEscape? cs = none := by
        unfold afterEscape?
        split
        · next d rest => exact (hplain d rest rfl rfl).elim
        · rfl
      simp [tries_escapedSlash atEnd, hnone, percent]
    · rw [tries_escapedSlash_of_ne hc, Option.or_none, ih free.2 stops]
      cases allowed c <;> rfl

/-- A scope or a name is read if it is not empty and made of allowed characters and escapes. -/
theorem reads_escapedField {allowed : Char → Bool} (slash : allowed '/' = false)
    (percent : allowed '%' = false) :
    (escapedField allowed).Reads '/' fun field => !field.isEmpty && allOrEscaped allowed field :=
  (reads_repeated_unit slash percent).atLeastOnce (consumes_unit allowed) fun _ _ _ atEnd =>
    tries_unit_atEnd slash atEnd

/-- The version is the last part and holds no slash. -/
theorem reads_version :
    (one fun c => c != '/' && !Text.isBlank c).atLeastOnce.Reads '/' fun field =>
      !field.isEmpty && field.all fun c => !Text.isBlank c := by
  refine (reads_atLeastOnce_one (by decide)).congr fun field free => ?_
  rw [all_ne_and free fun c => !Text.isBlank c]

/-! ## Parts as groups -/

/-- The type of the component. -/
def kindColumn : Column '/' where
  name := "type"
  field := (one isKindChar).atLeastOnce
  accepts kind := !kind.isEmpty && kind.all isKindChar
  reads := reads_atLeastOnce_one (by decide)

/-- The provider of the component. -/
def sourceColumn : Column '/' where
  name := "provider"
  field := (one isSourceChar).atLeastOnce
  accepts source := !source.isEmpty && source.all isSourceChar
  reads := reads_atLeastOnce_one (by decide)

/-- The scope of the component, in which `%` stands only in an escape. -/
def scopeColumn : Column '/' where
  name := "namespace"
  field := escapedField isScopeChar
  accepts scope := !scope.isEmpty && allOrEscaped isScopeChar scope
  reads := reads_escapedField (by decide) (by decide)

/-- The name of the component, in which `%` stands only in an escape. -/
def nameColumn : Column '/' where
  name := "name"
  field := escapedField isNameChar
  accepts name := !name.isEmpty && allOrEscaped isNameChar name
  reads := reads_escapedField (by decide) (by decide)

/-- The version of the component, which holds no blank. -/
def versionColumn : Column '/' where
  name := "revision"
  field := (one fun c => c != '/' && !Text.isBlank c).atLeastOnce
  accepts version := !version.isEmpty && version.all fun c => !Text.isBlank c
  reads := reads_version

/-- `type/provider/namespace/name/revision`. -/
def pattern : Pattern := row kindColumn [sourceColumn, scopeColumn, nameColumn, versionColumn]

/-- The coordinates that the captured parts are. -/
def capturedCoordinates (captured : List (String × List Char)) : Coordinates :=
  let part (name : String) := String.ofList ((captured.lookup name).getD [])
  .of (part "type") (part "provider") (some (part "namespace")) (part "name") (part "revision")

/-- Reading a text is matching the pattern. -/
theorem read_eq_captures? (s : String) :
    read s = (pattern.captures? (Text.trimChars s.toList)).map capturedCoordinates := by
  rw [pattern, captures?_row]
  unfold read
  split
  · next kind source scope name version hparts =>
    rw [hparts]
    show (if kindColumn.accepts kind && sourceColumn.accepts source && scopeColumn.accepts scope &&
        nameColumn.accepts name && versionColumn.accepts version then some _ else none) = _
    simp only [rowCaptures?]
    cases kindColumn.accepts kind <;> cases sourceColumn.accepts source <;>
      cases scopeColumn.accepts scope <;> cases nameColumn.accepts name <;>
        cases versionColumn.accepts version <;> rfl
  · next hother =>
    cases hcaptured : rowCaptures? _ ((Text.trimChars s.toList).splitOn '/') with
    | none => rfl
    | some captured =>
      have hlength := length_eq_of_rowCaptures? hcaptured
      -- A row has five columns, and such parts are those of the other case.
      rcases hparts : (Text.trimChars s.toList).splitOn '/' with
        _ | ⟨kind, _ | ⟨source, _ | ⟨scope, _ | ⟨name, _ | ⟨version, _ | ⟨extra, others⟩⟩⟩⟩⟩⟩
      case cons.cons.cons.cons.cons.nil =>
        exact (hother kind source scope name version hparts).elim
      all_goals
        rw [hparts] at hlength
        simp at hlength

/-- What a text in the notation denotes is read from its canonical text again. -/
theorem read_canonical_of_read {s : String} {c : Coordinates} (h : read s = some c) :
    read c.canonical = some c := by
  rw [canonical_of_read h, read_trim, h]

end FivePart

namespace ComponentId

/-- The id can be asked about, and its canonical text stands for it, whether a provider writes it or
a dependency list does. -/
structure IsFixed (id : ComponentId) : Prop where
  isValid : id.isValid = true
  ofCanonical?_canonical : ofCanonical? id.canonical = some id
  read_canonical : read id.canonical = id

/-- What is read as a canonical text is read as the same id among all notations. -/
theorem read_of_ofCanonical? {s : String} {id : ComponentId} (h : ofCanonical? s = some id) :
    read s = id := by
  obtain ⟨c, hc, rfl⟩ := Option.map_eq_some_iff.1 h
  exact read_of_first [] rfl (by simp) hc

/-- The canonical text of what is read as one is that text without white space around it. -/
theorem canonical_of_ofCanonical? {s : String} {id : ComponentId} (h : ofCanonical? s = some id) :
    id.canonical = Text.trim s := by
  obtain ⟨c, hc, rfl⟩ := Option.map_eq_some_iff.1 h
  exact FivePart.canonical_of_read hc

/-- An id that is read as a canonical text is fixed. -/
theorem isFixed_of_ofCanonical? {s : String} {id : ComponentId} (h : ofCanonical? s = some id) :
    id.IsFixed := by
  have hagain : ofCanonical? id.canonical = some id := by
    obtain ⟨c, hc, rfl⟩ := Option.map_eq_some_iff.1 h
    rw [ofCanonical?, canonical, FivePart.read_canonical_of_read hc, Option.map_some]
  refine ⟨?_, hagain, read_of_ofCanonical? hagain⟩
  obtain ⟨c, hc, rfl⟩ := Option.map_eq_some_iff.1 h
  exact FivePart.isWellFormed_of_read hc

/-- A canonical text is read exactly if the five-part pattern matches it. -/
theorem ofCanonical?_eq_captures? (s : String) :
    ofCanonical? s = (FivePart.pattern.captures? (Text.trimChars s.toList)).map fun captured =>
      located (FivePart.capturedCoordinates captured) := by
  rw [ofCanonical?, FivePart.read_eq_captures?, Option.map_map]
  rfl

/-- A canonical text has five parts, and they are the coordinates of the id. -/
theorem exists_parts_of_ofCanonical? {s : String} {id : ComponentId}
    (h : ofCanonical? s = some id) :
    ∃ kind source scope name version : String,
      (Text.trim s).toList.splitOn '/' =
          [kind, source, scope, name, version].map String.toList ∧
        id.coordinates? =
          some ⟨kind, source, if scope = "-" then none else some scope, name, version⟩ := by
  obtain ⟨c, hc, rfl⟩ := Option.map_eq_some_iff.1 h
  obtain ⟨kind, source, scope, name, version, hparts, -, rfl⟩ := FivePart.exists_of_read hc
  refine ⟨String.ofList kind, String.ofList source, String.ofList scope, String.ofList name,
    String.ofList version, ?_, ?_⟩
  · simp [Text.trim, hparts]
  · by_cases habsent : String.ofList scope = "-"
    · simp [coordinates?, Coordinates.of, Coordinates.absentScope, habsent]
    · simp [coordinates?, Coordinates.of, Coordinates.absentScope, habsent]

/-- A text from which a provider's id is read is the canonical text of the id, but for white space
around it. The id is a fixed one, and so is the id of every observation of a service. -/
theorem ofCanonical?_isFixed :
    (∀ s : String, ofCanonical? s =
      (FivePart.pattern.captures? (Text.trimChars s.toList)).map fun captured =>
        located (FivePart.capturedCoordinates captured)) ∧
    (∀ (s : String) (id : ComponentId), ofCanonical? s = some id →
      id.IsFixed ∧ id.canonical = Text.trim s ∧ read s = id ∧
        ∃ kind source scope name version : String,
          (Text.trim s).toList.splitOn '/' =
              [kind, source, scope, name, version].map String.toList ∧
            id.coordinates? =
              some ⟨kind, source, if scope = "-" then none else some scope, name, version⟩) ∧
      ∀ {σ : Type u} (settings : Settings) (transport : Transport σ) (service : Service)
        (batch : List ComponentId) (world : σ),
        ∀ obs ∈ ((settings.provider transport service).query batch world).1.found,
          obs.id.IsFixed := by
  refine ⟨ofCanonical?_eq_captures?, fun s id h => ⟨isFixed_of_ofCanonical? h,
    canonical_of_ofCanonical? h, read_of_ofCanonical? h, exists_parts_of_ofCanonical? h⟩, ?_⟩
  intro σ settings transport service batch world obs hobs
  obtain ⟨text, htext⟩ :=
    settings.exists_ofCanonical?_of_found transport service batch world hobs
  exact isFixed_of_ofCanonical? htext

/-- The text is a Maven dependency as well. -/
theorem ofCanonical?_isFixed_of_maven_text :
    let s := " k/s.t/-/a%2Fb/1:c:2\n"
    let id : ComponentId := .located ⟨"k", "s.t", none, "a%2Fb", "1:c:2"⟩
    let body := (Json.Value.object [("k/s.t/-/a%2Fb/1:c:2", .null), ("k/s.t", .null)]).print
    let transport : Transport Unit := fun _ world => (.answered 200 body, world)
    let p := ({} : Settings).provider transport .clearlyDefined
    Maven.read s = some ⟨"maven", "mavencentral", some "k/s.t/-/a%2Fb/1", "c", "2"⟩ ∧
      ofCanonical? s = some id ∧ read s = id ∧ id.IsFixed ∧
      (p.query [id] ()).1.found.map (·.id) = [id] ∧
      ∀ obs ∈ (p.query [id] ()).1.found, obs.id.IsFixed := by
  intro s id body transport p
  have hid : ofCanonical? s = some id := by decide +kernel
  obtain ⟨-, hids, hfound⟩ := ofCanonical?_isFixed.{0}
  obtain ⟨hfixed, -, hread, -⟩ := hids s id hid
  exact ⟨by decide +kernel, hid, hread, hfixed, by decide +kernel,
    hfound ({} : Settings) transport .clearlyDefined [id] ()⟩

end ComponentId

end Clearance
