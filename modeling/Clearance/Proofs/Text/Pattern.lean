import Clearance.Proofs.Text.Parts

/-!
# Patterns

Regular patterns with named groups. A pattern can match the beginning of a text in several ways,
and these have an order: a preferred alternative comes before the other one, and more repetitions
come before fewer. Of the ways that reach the end of the text the first one decides what the groups
capture (`Pattern.captures?`).

The patterns of notations cut a text into fields with a separator between them. What follows a
field in such a pattern begins with the separator or is the end (`Pattern.StopsAt`). Then there is
at most one way through the field, and it leads to the end of the field (`Pattern.Reads`).
-/

set_option autoImplicit false

namespace Clearance

/-- A pattern of characters. -/
inductive Pattern where
  | empty
  | one (allowed : Char → Bool)
  | seq (before after : Pattern)
  | either (preferred other : Pattern)
  | repeated (unit : Pattern)
  | group (name : String) (inner : Pattern)

namespace Pattern

instance : Append Pattern := ⟨seq⟩

/-- Just this character. -/
def mark (c : Char) : Pattern := one (· == c)

/-- The pattern or nothing, but the pattern where that is possible. -/
def optional (p : Pattern) : Pattern := either p empty

/-- The pattern once or more often. -/
def atLeastOnce (p : Pattern) : Pattern := p ++ repeated p

/-- A way to match the beginning of a text: what the groups capture, and what is left. -/
structure Way where
  captured : List (String × List Char)
  rest : List Char

/-- A way and then another one. -/
def Way.andThen (w next : Way) : Way := ⟨w.captured ++ next.captured, next.rest⟩

/-- The ways to match a unit any number of times, at most `most` times. No repetition is empty. -/
def repeatedWays (unit : List Char → List Way) : Nat → List Char → List Way
  | 0, cs => [⟨[], cs⟩]
  | most + 1, cs =>
    ((unit cs).filter fun w => w.rest.length < cs.length).flatMap
        (fun w => (repeatedWays unit most w.rest).map w.andThen) ++
      [⟨[], cs⟩]

/-- The ways to match the beginning of a text, the preferred one first. -/
def ways : Pattern → List Char → List Way
  | empty, cs => [⟨[], cs⟩]
  | one _, [] => []
  | one allowed, c :: cs => if allowed c then [⟨[], cs⟩] else []
  | seq p q, cs => (p.ways cs).flatMap fun w => (q.ways w.rest).map w.andThen
  | either p q, cs => p.ways cs ++ q.ways cs
  | repeated p, cs => repeatedWays p.ways cs.length cs
  | group name p, cs =>
    (p.ways cs).map fun w => ⟨(name, cs.take (cs.length - w.rest.length)) :: w.captured, w.rest⟩

/-- What the groups capture in the first way that matches the whole text, if there is one. -/
def captures? (p : Pattern) (cs : List Char) : Option (List (String × List Char)) :=
  ((p.ways cs).find? (·.rest.isEmpty)).map (·.captured)

/-! ## The first way that can be continued -/

section tries

variable {β : Type}

/-- What the first way leads to, of those from which `next` leads on. -/
def tries (p : Pattern) (cs : List Char) (next : Way → Option β) : Option β :=
  (p.ways cs).findSome? next

/-- Searching lists one after the other is searching for the first that has something. -/
theorem findSome?_flatMap {α γ : Type} (l : List α) (f : α → List γ) (g : γ → Option β) :
    (l.flatMap f).findSome? g = l.findSome? fun a => (f a).findSome? g := by
  induction l with
  | nil => rfl
  | cons a l ih =>
    rw [List.flatMap_cons, List.findSome?_append, ih, List.findSome?_cons]
    cases (f a).findSome? g <;> rfl

variable (p q : Pattern) (cs : List Char) (next : Way → Option β)

/-- The empty pattern leaves the whole text. -/
theorem tries_empty : empty.tries cs next = next ⟨[], cs⟩ := by
  simp [tries, ways]

/-- One character is taken if it is allowed. -/
theorem tries_one_cons (allowed : Char → Bool) (c : Char) :
    (one allowed).tries (c :: cs) next = if allowed c then next ⟨[], cs⟩ else none := by
  unfold tries ways
  split <;> simp

/-- A sequence tries the second pattern where the first one stops. -/
theorem tries_append :
    (p ++ q).tries cs next = p.tries cs fun w => q.tries w.rest fun v => next (w.andThen v) := by
  show ((seq p q).ways cs).findSome? next = _
  simp only [ways, tries, findSome?_flatMap, List.findSome?_map]
  rfl

/-- How sequences are grouped makes no difference. -/
theorem tries_append_assoc (r : Pattern) :
    (p ++ q ++ r).tries cs next = (p ++ (q ++ r)).tries cs next := by
  simp only [tries_append, Way.andThen, List.append_assoc]

/-- The empty pattern behind another one makes no difference. -/
theorem tries_append_empty : (p ++ empty).tries cs next = p.tries cs next := by
  simp only [tries_append, tries_empty, Way.andThen, List.append_nil]

/-- The other pattern is tried where the preferred one leads nowhere. -/
theorem tries_either : (either p q).tries cs next = (p.tries cs next).or (q.tries cs next) :=
  List.findSome?_append

/-- Nothing is taken where the pattern leads nowhere. -/
theorem tries_optional : p.optional.tries cs next = (p.tries cs next).or (next ⟨[], cs⟩) := by
  rw [optional, tries_either, tries_empty]

/-- The pattern is left out if nothing comes of it. -/
theorem tries_optional_append :
    (p.optional ++ q).tries cs next = ((p ++ q).tries cs next).or (q.tries cs next) := by
  rw [tries_append, tries_append, tries_optional]
  rfl

/-- A group captures what its pattern takes. -/
theorem tries_group (name : String) :
    (group name p).tries cs next = p.tries cs fun w =>
      next ⟨(name, cs.take (cs.length - w.rest.length)) :: w.captured, w.rest⟩ := by
  simp only [tries, ways, List.findSome?_map]
  rfl

end tries

/-! ## Repetition -/

/-- At the end of the text there is nothing to repeat. -/
theorem repeatedWays_nil (unit : List Char → List Way) (most : Nat) :
    repeatedWays unit most [] = [⟨[], []⟩] := by
  cases most with
  | zero => rfl
  | succ most => simp [repeatedWays]

/-- There are no more repetitions than characters. -/
theorem repeatedWays_eq (unit : List Char → List Way) {most most' : Nat} {cs : List Char}
    (enough : cs.length ≤ most) (enough' : cs.length ≤ most') :
    repeatedWays unit most cs = repeatedWays unit most' cs := by
  induction most generalizing most' cs with
  | zero =>
    obtain rfl : cs = [] := List.length_eq_zero_iff.1 (by omega)
    rw [repeatedWays_nil, repeatedWays_nil]
  | succ most ih =>
    cases most' with
    | zero =>
      obtain rfl : cs = [] := List.length_eq_zero_iff.1 (by omega)
      rw [repeatedWays_nil, repeatedWays_nil]
    | succ most' =>
      rw [repeatedWays, repeatedWays]
      congr 1
      refine List.flatMap_congr fun w hw => ?_
      have hshorter : w.rest.length < cs.length := of_decide_eq_true (List.mem_filter.1 hw).2
      rw [ih (by omega) (by omega : w.rest.length ≤ most')]

/-- Repetitions leave no more than there was. -/
theorem length_rest_le_of_mem_repeatedWays {unit : List Char → List Way} {most : Nat}
    {cs : List Char} {w : Way} (h : w ∈ repeatedWays unit most cs) :
    w.rest.length ≤ cs.length := by
  induction most generalizing cs w with
  | zero =>
    obtain rfl := List.mem_singleton.1 h
    exact Nat.le_refl _
  | succ most ih =>
    rw [repeatedWays, List.mem_append, List.mem_singleton] at h
    rcases h with hmore | rfl
    · obtain ⟨v, hv, hw⟩ := List.mem_flatMap.1 hmore
      obtain ⟨u, hu, rfl⟩ := List.mem_map.1 hw
      have hshorter : v.rest.length < cs.length := of_decide_eq_true (List.mem_filter.1 hv).2
      have hrest : u.rest.length ≤ v.rest.length := ih hu
      exact Nat.le_trans hrest (Nat.le_of_lt hshorter)
    · exact Nat.le_refl _

/-- A pattern leaves no more than there was. -/
theorem length_rest_le {p : Pattern} {cs : List Char} {w : Way} (h : w ∈ p.ways cs) :
    w.rest.length ≤ cs.length := by
  induction p generalizing cs w with
  | empty =>
    obtain rfl := List.mem_singleton.1 h
    exact Nat.le_refl _
  | one allowed =>
    cases cs with
    | nil => cases h
    | cons c cs =>
      unfold ways at h
      split at h
      · rw [List.mem_singleton.1 h]
        exact Nat.le_succ _
      · cases h
  | seq p q ihp ihq =>
    obtain ⟨v, hv, hw⟩ := List.mem_flatMap.1 h
    obtain ⟨u, hu, rfl⟩ := List.mem_map.1 hw
    have hrest : u.rest.length ≤ v.rest.length := ihq hu
    exact Nat.le_trans hrest (ihp hv)
  | either p q ihp ihq => exact (List.mem_append.1 h).elim ihp ihq
  | repeated p => exact length_rest_le_of_mem_repeatedWays h
  | group name p ih =>
    obtain ⟨v, hv, rfl⟩ := List.mem_map.1 h
    have hrest : v.rest.length ≤ cs.length := ih hv
    exact hrest

/-- No way is an empty one. -/
def Consumes (p : Pattern) : Prop :=
  ∀ ⦃cs : List Char⦄ ⦃w : Way⦄, w ∈ p.ways cs → w.rest.length < cs.length

/-- A pattern of one character takes something from the text. -/
theorem consumes_one (allowed : Char → Bool) : (one allowed).Consumes := by
  intro cs w hw
  cases cs with
  | nil => cases hw
  | cons c cs =>
    unfold ways at hw
    split at hw
    · rw [List.mem_singleton.1 hw]
      exact Nat.lt_succ_self _
    · cases hw

/-- A sequence takes something if its first pattern does. -/
theorem Consumes.append {p : Pattern} (h : p.Consumes) (q : Pattern) : (p ++ q).Consumes := by
  intro cs w hw
  obtain ⟨v, hv, hw⟩ := List.mem_flatMap.1 (show w ∈ (seq p q).ways cs from hw)
  obtain ⟨u, hu, rfl⟩ := List.mem_map.1 hw
  have hrest : u.rest.length ≤ v.rest.length := length_rest_le hu
  exact Nat.lt_of_le_of_lt hrest (h hv)

/-- An alternative takes something if both its patterns do. -/
theorem Consumes.either {p q : Pattern} (hp : p.Consumes) (hq : q.Consumes) :
    (either p q).Consumes :=
  fun _ _ hw => (List.mem_append.1 hw).elim (fun h => hp h) (fun h => hq h)

/-- As many repetitions as possible: one more is tried first, and none after that. -/
theorem ways_repeated {p : Pattern} (consumes : p.Consumes) (cs : List Char) :
    (repeated p).ways cs = p.atLeastOnce.ways cs ++ [⟨[], cs⟩] := by
  show repeatedWays p.ways cs.length cs =
    ((p.ways cs).flatMap fun w => (repeatedWays p.ways w.rest.length w.rest).map w.andThen) ++ _
  cases hlength : cs.length with
  | zero =>
    have hnone : p.ways cs = [] := by
      rw [List.eq_nil_iff_forall_not_mem]
      intro w hw
      have hshorter := consumes hw
      omega
    rw [hnone]
    rfl
  | succ most =>
    have hall : ((p.ways cs).filter fun w => w.rest.length < cs.length) = p.ways cs :=
      List.filter_eq_self.2 fun w hw => decide_eq_true (consumes hw)
    rw [repeatedWays, hall]
    congr 1
    refine List.flatMap_congr fun w hw => ?_
    have hshorter := consumes hw
    rw [repeatedWays_eq p.ways (by omega : w.rest.length ≤ most) (Nat.le_refl _)]

/-- A repetition is tried at least once before it is left out. -/
theorem tries_repeated {β : Type} {p : Pattern} (consumes : p.Consumes) (cs : List Char)
    (next : Way → Option β) :
    (repeated p).tries cs next = (p.atLeastOnce.tries cs next).or (next ⟨[], cs⟩) := by
  unfold tries
  rw [ways_repeated consumes, List.findSome?_append, List.findSome?_singleton]

/-! ## Fields -/

section fields

variable {β : Type} {sep : Char} {p q : Pattern} {field tail : List Char} {next : Way → Option β}

/-- Nothing is left, or the separator comes next. -/
def AtEnd (sep : Char) (tail : List Char) : Prop := ∀ c ∈ tail.head?, c = sep

/-- No way can be continued within a field. -/
def StopsAt (sep : Char) (next : Way → Option β) : Prop :=
  ∀ (captured : List (String × List Char)) (c : Char) (rest : List Char), c ≠ sep →
    next ⟨captured, c :: rest⟩ = none

/-- The pattern goes through fields with a property and through no others. -/
def Reads (p : Pattern) (sep : Char) (accepts : List Char → Bool) : Prop :=
  ∀ ⦃β : Type⦄ ⦃field tail : List Char⦄ ⦃next : Way → Option β⦄, sep ∉ field → AtEnd sep tail →
    StopsAt sep next →
      p.tries (field ++ tail) next = if accepts field then next ⟨[], tail⟩ else none

/-- What is captured does not decide whether a field is left. -/
theorem StopsAt.comp (stops : StopsAt sep next) (f : Way → List (String × List Char)) :
    StopsAt sep fun w => next ⟨f w, w.rest⟩ :=
  fun _ c rest hc => stops _ c rest hc

/-- At the end of a field no character of it is left. -/
theorem AtEnd.tries_one (h : AtEnd sep tail) {allowed : Char → Bool}
    (foreign : allowed sep = false) : (one allowed).tries tail next = none := by
  cases tail with
  | nil => rfl
  | cons c rest =>
    rw [tries_one_cons, h c rfl, foreign]
    rfl

/-- As many characters as possible are taken, and there is no way back into the field. -/
theorem reads_repeated_one {allowed : Char → Bool} (foreign : allowed sep = false) :
    (repeated (one allowed)).Reads sep (·.all allowed) := by
  intro β field tail next free atEnd stops
  induction field generalizing next with
  | nil =>
    rw [List.nil_append, tries_repeated (consumes_one allowed), atLeastOnce, tries_append,
      atEnd.tries_one foreign]
    rfl
  | cons c field ih =>
    rw [List.mem_cons, not_or] at free
    have hback : next ⟨[], c :: (field ++ tail)⟩ = none := stops _ c _ (Ne.symm free.1)
    rw [List.cons_append, tries_repeated (consumes_one allowed), hback, Option.or_none,
      atLeastOnce, tries_append, tries_one_cons]
    show _ = if allowed c && field.all allowed then next ⟨[], tail⟩ else none
    by_cases hc : allowed c = true
    · rw [if_pos hc, hc, Bool.true_and]
      exact ih free.2 stops
    · rw [if_neg hc, if_neg (by simp [hc])]

/-- One more allowed character is read in front of a field. -/
theorem Reads.one_append {accepts : List Char → Bool} (h : p.Reads sep accepts)
    (allowed : Char → Bool) (foreign : allowed sep = false) :
    (one allowed ++ p).Reads sep fun field =>
      match field with
      | [] => false
      | c :: field => allowed c && accepts field := by
  intro β field tail next free atEnd stops
  rw [tries_append]
  cases field with
  | nil => exact atEnd.tries_one foreign
  | cons c field =>
    rw [List.mem_cons, not_or] at free
    rw [List.cons_append, tries_one_cons]
    by_cases hc : allowed c = true
    · simp only [hc, if_true, Bool.true_and]
      exact h free.2 atEnd stops
    · simp [hc]

/-- A pattern reads what it accepts, however that is said. -/
theorem Reads.congr {accepts accepts' : List Char → Bool} (h : p.Reads sep accepts)
    (same : ∀ field, sep ∉ field → accepts' field = accepts field) : p.Reads sep accepts' := by
  intro β field tail next free atEnd stops
  rw [same field free]
  exact h free atEnd stops

/-- A pattern without a way at the end reads a field at least once if there is a field. -/
theorem Reads.atLeastOnce {accepts : List Char → Bool} (h : (repeated p).Reads sep accepts)
    (consumes : p.Consumes)
    (noWay : ∀ ⦃β : Type⦄ ⦃tail : List Char⦄ (next : Way → Option β), AtEnd sep tail →
      p.tries tail next = none) :
    p.atLeastOnce.Reads sep fun field => !field.isEmpty && accepts field := by
  intro β field tail next free atEnd stops
  cases field with
  | nil =>
    rw [List.nil_append, Pattern.atLeastOnce, tries_append, noWay _ atEnd]
    rfl
  | cons c field =>
    have hc : c ≠ sep := by
      rintro rfl
      exact free List.mem_cons_self
    have hback : next ⟨[], c :: field ++ tail⟩ = none := stops _ c _ hc
    have hrepeated := h free atEnd stops
    rw [tries_repeated consumes, hback, Option.or_none] at hrepeated
    rw [hrepeated]
    rfl

/-- Allowed characters, at least one, are read as a field. -/
theorem reads_atLeastOnce_one {allowed : Char → Bool} (foreign : allowed sep = false) :
    (one allowed).atLeastOnce.Reads sep fun field => !field.isEmpty && field.all allowed :=
  (reads_repeated_one foreign).atLeastOnce (consumes_one allowed) fun _ _ _ atEnd =>
    atEnd.tries_one foreign

/-- A field does not hold the separator, so nothing is lost if that is excluded. -/
theorem all_ne_and (free : sep ∉ field) (allowed : Char → Bool) :
    (field.all fun c => c != sep && allowed c) = field.all allowed := by
  rw [Bool.eq_iff_iff, List.all_eq_true, List.all_eq_true]
  refine forall₂_congr fun c hc => ?_
  have hne : c ≠ sep := by
    rintro rfl
    exact free hc
  simp [hne]

/-- An optional pattern in front is read where it is there and where it is not. -/
theorem Reads.optional_append {accepts accepts' : List Char → Bool}
    (taken : (p ++ q).Reads sep accepts) (left : q.Reads sep accepts') :
    (p.optional ++ q).Reads sep fun field => accepts field || accepts' field := by
  intro β field tail next free atEnd stops
  rw [tries_optional_append, taken free atEnd stops, left free atEnd stops]
  show _ = if accepts field || accepts' field then _ else none
  cases accepts field <;> cases accepts' field <;> simp

/-- A group captures the field that its pattern goes through. -/
theorem Reads.tries_group {accepts : List Char → Bool} (h : p.Reads sep accepts) (name : String)
    (free : sep ∉ field) (atEnd : AtEnd sep tail) (stops : StopsAt sep next) :
    (group name p).tries (field ++ tail) next =
      if accepts field then next ⟨[(name, field)], tail⟩ else none := by
  rw [Pattern.tries_group, h free atEnd (stops.comp _)]
  simp

end fields

/-! ## Whole texts -/

section finish

variable {sep : Char}

/-- Fields behind a first one, each with the separator before it. -/
def behind (sep : Char) (fields : List (List Char)) : List Char := fields.flatMap (sep :: ·)

/-- The first of the fields has the separator before it. -/
theorem behind_cons (sep : Char) (field : List Char) (fields : List (List Char)) :
    behind sep (field :: fields) = sep :: (field ++ behind sep fields) := rfl

/-- A separator or the end comes before fields behind a first one. -/
theorem atEnd_behind (sep : Char) (fields : List (List Char)) : AtEnd sep (behind sep fields) := by
  intro c hc
  cases fields with
  | nil => cases hc
  | cons field fields => exact (Option.some.inj hc).symm

/-- Fields with separators between them are the first one and those behind it. -/
theorem intercalate_eq_append_behind (sep : Char) (field : List Char) (fields : List (List Char)) :
    [sep].intercalate (field :: fields) = field ++ behind sep fields := by
  induction fields generalizing field with
  | nil => simp [behind]
  | cons next fields ih =>
    rw [intercalate_cons (List.cons_ne_nil _ _), ih, behind_cons]

/-- A text is its first field with the others behind it. -/
theorem exists_splitOn_eq_cons (sep : Char) (cs : List Char) :
    ∃ field fields, cs.splitOn sep = field :: fields ∧ cs = field ++ behind sep fields ∧
      ∀ f ∈ field :: fields, sep ∉ f := by
  obtain ⟨field, fields, hcut⟩ := List.exists_cons_of_ne_nil (List.splitOn_ne_nil sep cs)
  refine ⟨field, fields, hcut, ?_, fun f hf => not_mem_of_mem_splitOn (hcut ▸ hf)⟩
  have hwhole : [sep].intercalate (cs.splitOn sep) = cs := List.intercalate_splitOn sep
  rw [← intercalate_eq_append_behind, ← hcut, hwhole]

/-- What was captured, at the end of the text. -/
def finish (captured : List (String × List Char)) (w : Way) : Option (List (String × List Char)) :=
  if w.rest.isEmpty then some (captured ++ w.captured) else none

/-- What a way captures comes before what the next one does. -/
theorem finish_andThen (captured : List (String × List Char)) (w v : Way) :
    finish captured (w.andThen v) = finish (captured ++ w.captured) v := by
  unfold finish Way.andThen
  rw [List.append_assoc]

/-- The end is reached where no field is left. -/
theorem finish_behind (captured more : List (String × List Char)) (fields : List (List Char)) :
    finish captured ⟨more, behind sep fields⟩ =
      if fields.isEmpty then some (captured ++ more) else none := by
  cases fields <;> rfl

/-- A pattern captures what its first way to the end does. -/
theorem captures?_eq_tries (p : Pattern) (cs : List Char) :
    p.captures? cs = p.tries cs (finish []) := by
  unfold captures? tries
  induction p.ways cs with
  | nil => rfl
  | cons w ways ih =>
    rw [List.find?_cons, List.findSome?_cons, finish, List.nil_append]
    cases w.rest.isEmpty with
    | true => rfl
    | false => exact ih

/-- The pattern leads to the end from a separator or from the end only. -/
def Follows (q : Pattern) (sep : Char) : Prop :=
  ∀ (captured : List (String × List Char)) (c : Char) (rest : List Char), c ≠ sep →
    q.tries (c :: rest) (finish captured) = none

/-- From anywhere but the end the empty pattern does not lead there. -/
theorem follows_empty : empty.Follows sep := by
  intro captured c rest _
  rw [tries_empty]
  rfl

/-- What begins with the separator leads to the end from a separator only. -/
theorem follows_mark_append (q : Pattern) : (mark sep ++ q).Follows sep := by
  intro captured c rest hc
  rw [tries_append, mark, tries_one_cons, if_neg (by simpa using hc)]

/-- How sequences are grouped makes no difference to where they lead to the end from. -/
theorem Follows.append_assoc {p q r : Pattern} (h : (p ++ (q ++ r)).Follows sep) :
    (p ++ q ++ r).Follows sep := by
  intro captured c rest hc
  rw [tries_append_assoc]
  exact h captured c rest hc

/-- Left out or not, an optional pattern leads to the end from a separator or from there only. -/
theorem Follows.optional {p : Pattern} (h : p.Follows sep) : p.optional.Follows sep := by
  intro captured c rest hc
  rw [tries_optional, h captured c rest hc]
  rfl

/-- With or without what is optional a sequence leads to the end from a separator or from there
only. -/
theorem Follows.optional_append {p q : Pattern} (taken : (p ++ q).Follows sep)
    (left : q.Follows sep) : (p.optional ++ q).Follows sep := by
  intro captured c rest hc
  rw [tries_optional_append, taken captured c rest hc, left captured c rest hc]
  rfl

section fields

variable {p q : Pattern} {accepts : List Char → Bool} (reads : p.Reads sep accepts)
  (follows : q.Follows sep)

include reads follows

/-- The first field of a text is captured, and the others are left to what follows. -/
theorem tries_group_append (name : String) {field : List Char} (free : sep ∉ field)
    (fields : List (List Char)) (captured : List (String × List Char)) :
    (group name p ++ q).tries (field ++ behind sep fields) (finish captured) =
      if accepts field then
        q.tries (behind sep fields) (finish (captured ++ [(name, field)]))
      else none := by
  have hnext (w : Way) : (fun v => finish captured (w.andThen v)) =
      finish (captured ++ w.captured) := funext fun v => finish_andThen captured w v
  simp only [tries_append, hnext]
  exact reads.tries_group name free (atEnd_behind sep fields) fun more c rest hc =>
    follows (captured ++ more) c rest hc

/-- A field behind the separator is captured if it is accepted, and the rest is tried. -/
theorem tries_mark_group_append (name : String) {field : List Char} (free : sep ∉ field)
    (fields : List (List Char)) (captured : List (String × List Char)) :
    (mark sep ++ (group name p ++ q)).tries (behind sep (field :: fields)) (finish captured) =
      if accepts field then
        q.tries (behind sep fields) (finish (captured ++ [(name, field)]))
      else none := by
  rw [tries_append, behind_cons, mark, tries_one_cons, beq_self_eq_true, if_pos rfl]
  exact tries_group_append reads follows name free fields captured

omit follows in
/-- The last field of a text is captured. -/
theorem tries_mark_group (name : String) {field : List Char} (free : sep ∉ field)
    (fields : List (List Char)) (captured : List (String × List Char)) :
    (mark sep ++ group name p).tries (behind sep (field :: fields)) (finish captured) =
      if accepts field && fields.isEmpty then some (captured ++ [(name, field)]) else none := by
  have hlast := tries_mark_group_append reads follows_empty name free fields captured
  rw [← tries_append_assoc, tries_append_empty, tries_empty, finish_behind,
    List.append_nil] at hlast
  rw [hlast]
  cases accepts field <;> cases fields.isEmpty <;> rfl

end fields

/-- Where a separator has to come next, there is no way at the end. -/
theorem tries_mark_append_nil {β : Type} (q : Pattern) (next : Way → Option β) :
    (mark sep ++ q).tries (behind sep []) next = none := by
  rw [tries_append]
  rfl

/-! ## Rows of fields -/

/-- A field that a pattern reads, and the group that captures it. -/
structure Column (sep : Char) where
  name : String
  field : Pattern
  accepts : List Char → Bool
  reads : field.Reads sep accepts

/-- Fields behind a first one. -/
def rowBehind : List (Column sep) → Pattern
  | [] => empty
  | col :: cols => mark sep ++ (group col.name col.field ++ rowBehind cols)

/-- Fields with the separator between them. -/
def row (col : Column sep) (cols : List (Column sep)) : Pattern :=
  group col.name col.field ++ rowBehind cols

/-- What fields are captured as where there is one for each column and each is accepted. -/
def rowCaptures? : List (Column sep) → List (List Char) → Option (List (String × List Char))
  | [], [] => some []
  | col :: cols, field :: fields =>
    if col.accepts field then (rowCaptures? cols fields).map ((col.name, field) :: ·) else none
  | _, _ => none

/-- A row has a field for each column. -/
theorem length_eq_of_rowCaptures? {cols : List (Column sep)} {fields : List (List Char)}
    {captured : List (String × List Char)} (h : rowCaptures? cols fields = some captured) :
    fields.length = cols.length := by
  fun_induction rowCaptures? cols fields generalizing captured with
  | case1 => rfl
  | case2 col cols field fields _ ih =>
    obtain ⟨rest, hrest, -⟩ := Option.map_eq_some_iff.1 h
    rw [List.length_cons, List.length_cons, ih hrest]
  | case3 => cases h
  | case4 => cases h

/-- The columns behind the first one lead to the end from a separator or from there only. -/
theorem follows_rowBehind (cols : List (Column sep)) : (rowBehind cols).Follows sep := by
  cases cols with
  | nil => exact follows_empty
  | cons col cols => exact follows_mark_append _

/-- The columns behind the first one capture the fields behind the first one. -/
theorem tries_rowBehind {cols : List (Column sep)} {fields : List (List Char)}
    (free : ∀ f ∈ fields, sep ∉ f) (captured : List (String × List Char)) :
    (rowBehind cols).tries (behind sep fields) (finish captured) =
      (rowCaptures? cols fields).map (captured ++ ·) := by
  induction cols generalizing fields captured with
  | nil =>
    rw [rowBehind, tries_empty, finish_behind]
    cases fields <;> rfl
  | cons col cols ih =>
    rw [rowBehind]
    cases fields with
    | nil => exact tries_mark_append_nil _ _
    | cons field fields =>
      rw [List.forall_mem_cons] at free
      rw [tries_mark_group_append col.reads (follows_rowBehind cols) col.name free.1, ih free.2,
        rowCaptures?]
      cases col.accepts field with
      | true => simp [Function.comp_def]
      | false => rfl

/-- A row captures the pieces between the separators, one for each column. -/
theorem captures?_row (col : Column sep) (cols : List (Column sep)) (cs : List Char) :
    (row col cols).captures? cs = rowCaptures? (col :: cols) (cs.splitOn sep) := by
  obtain ⟨field, fields, hcut, htext, free⟩ := exists_splitOn_eq_cons sep cs
  rw [List.forall_mem_cons] at free
  rw [captures?_eq_tries, hcut, htext, row,
    tries_group_append col.reads (follows_rowBehind cols) col.name free.1,
    tries_rowBehind free.2, rowCaptures?]
  cases col.accepts field with
  | true => simp
  | false => rfl

end finish

end Pattern

end Clearance
