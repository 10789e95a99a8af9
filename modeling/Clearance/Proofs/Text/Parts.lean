import Mathlib.Data.List.Forall2

/-!
# Parts of a list

Lists are put together from parts with a separator between them, and cut again where the separator
stands. Both directions agree where no part holds it. What is read part by part is read if each
part is.
-/

set_option autoImplicit false

namespace Clearance

universe u v

/-! ## Cutting at a separator -/

/-- What is in a joined list is in the separator or in one of the parts. -/
theorem mem_intercalate {α : Type u} {sep : List α} {y : α} {parts : List (List α)}
    (h : y ∈ sep.intercalate parts) :
    y ∈ sep ∨ ∃ part ∈ parts, y ∈ part := by
  induction parts with
  | nil => simp at h
  | cons part parts ih =>
    cases parts with
    | nil =>
      rw [List.intercalate_singleton] at h
      exact Or.inr ⟨part, List.mem_cons_self, h⟩
    | cons next parts =>
      rw [List.intercalate_cons_cons, List.mem_append, List.mem_append] at h
      rcases h with (hhere | hsep) | hrest
      · exact Or.inr ⟨part, List.mem_cons_self, hhere⟩
      · exact Or.inl hsep
      · rcases ih hrest with hsep | ⟨other, hother, hin⟩
        · exact Or.inl hsep
        · exact Or.inr ⟨other, List.mem_cons_of_mem _ hother, hin⟩

/-- A separator follows every part but the last. -/
theorem intercalate_cons {α : Type u} {x : α} {part : List α} {parts : List (List α)}
    (nonempty : parts ≠ []) :
    [x].intercalate (part :: parts) = part ++ x :: [x].intercalate parts := by
  cases parts with
  | nil => exact absurd rfl nonempty
  | cons next parts =>
    rw [List.intercalate_cons_cons, List.append_assoc, List.singleton_append]

/-- A separator stands before the last part, if there are others. -/
theorem intercalate_concat {α : Type u} {x : α} {parts : List (List α)} (nonempty : parts ≠ [])
    (last : List α) :
    [x].intercalate (parts ++ [last]) = [x].intercalate parts ++ x :: last := by
  induction parts with
  | nil => exact absurd rfl nonempty
  | cons part parts ih =>
    cases parts with
    | nil => rw [List.singleton_append, List.intercalate_cons_cons, List.append_assoc,
        List.intercalate_singleton, List.intercalate_singleton, List.singleton_append]
    | cons next parts =>
      rw [List.cons_append, intercalate_cons (by simp), ih (List.cons_ne_nil _ _),
        intercalate_cons (List.cons_ne_nil _ _), List.append_assoc, List.cons_append]

section splitOn

variable {α : Type u} [BEq α]

/-- There is at least one piece. -/
theorem length_splitOn_pos (x : α) (l : List α) : 0 < (l.splitOn x).length :=
  List.length_pos_iff.2 (List.splitOn_ne_nil x l)

variable [LawfulBEq α]

/-- A list is cut at each separator on its own. -/
theorem splitOn_append_cons (x : α) (a b : List α) :
    (a ++ x :: b).splitOn x = a.splitOn x ++ b.splitOn x :=
  List.splitOnP_append_cons a b (beq_self_eq_true x)

/-- A list that is not cut does not hold the separator. -/
theorem splitOn_eq_singleton {x : α} {l : List α} (h : (l.splitOn x).length = 1) :
    l.splitOn x = [l] ∧ x ∉ l := by
  obtain ⟨part, hpart⟩ := List.length_eq_one_iff.1 h
  have hwhole : [x].intercalate (l.splitOn x) = l := List.intercalate_splitOn x
  rw [hpart, List.intercalate_singleton] at hwhole
  refine ⟨by rw [hpart, hwhole], ?_⟩
  intro hmem
  obtain ⟨a, b, hl⟩ := List.append_of_mem hmem
  rw [hl, splitOn_append_cons, List.length_append] at h
  have ha := length_splitOn_pos x a
  have hb := length_splitOn_pos x b
  omega

/-- Parts that are put together and cut again become no fewer. -/
theorem length_le_splitOn_intercalate (x : α) (parts : List (List α)) :
    parts.length ≤ (([x].intercalate parts).splitOn x).length := by
  induction parts with
  | nil => simp
  | cons part parts ih =>
    cases parts with
    | nil =>
      rw [List.intercalate_singleton]
      exact length_splitOn_pos x part
    | cons next parts =>
      have hpart := length_splitOn_pos x part
      rw [List.intercalate_cons_cons, List.append_assoc, List.singleton_append,
        splitOn_append_cons, List.length_append, List.length_cons]
      omega

/-- Parts that are put together and cut again are the same parts if there are no more of them than
before. -/
theorem splitOn_intercalate_of_length {x : α} {parts : List (List α)} (nonempty : parts ≠ [])
    (h : (([x].intercalate parts).splitOn x).length = parts.length) :
    ([x].intercalate parts).splitOn x = parts ∧ ∀ part ∈ parts, x ∉ part := by
  induction parts with
  | nil => exact absurd rfl nonempty
  | cons part parts ih =>
    cases parts with
    | nil =>
      rw [List.intercalate_singleton] at h ⊢
      obtain ⟨hwhole, hfree⟩ := splitOn_eq_singleton h
      exact ⟨hwhole, by simpa using hfree⟩
    | cons next parts =>
      rw [List.intercalate_cons_cons, List.append_assoc, List.singleton_append,
        splitOn_append_cons] at h ⊢
      have hpart := length_splitOn_pos x part
      have hrest := length_le_splitOn_intercalate x (next :: parts)
      rw [List.length_append, List.length_cons] at h
      obtain ⟨hfirst, hfree⟩ := splitOn_eq_singleton (x := x) (l := part) (by omega)
      obtain ⟨hothers, hfrees⟩ := ih (List.cons_ne_nil _ _) (by omega)
      refine ⟨by rw [hfirst, hothers]; rfl, ?_⟩
      exact List.forall_mem_cons.2 ⟨hfree, hfrees⟩

/-- No piece holds the separator. -/
theorem not_mem_of_mem_splitOn {x : α} {l part : List α} (h : part ∈ l.splitOn x) : x ∉ part := by
  have hwhole : [x].intercalate (l.splitOn x) = l := List.intercalate_splitOn x
  exact (splitOn_intercalate_of_length (List.splitOn_ne_nil x l) (by rw [hwhole])).2 part h

/-- There is one part more than separators. -/
theorem length_splitOn (x : α) (l : List α) : (l.splitOn x).length = l.count x + 1 := by
  by_cases h : x ∈ l
  · obtain ⟨before, after, rfl, hfree⟩ := List.eq_append_cons_of_mem h
    have ih := length_splitOn x after
    rw [splitOn_append_cons, List.splitOn_eq_singleton hfree, List.length_append, ih,
      List.count_append, List.count_eq_zero_of_not_mem hfree, List.count_cons_self,
      List.length_singleton]
    omega
  · rw [List.splitOn_eq_singleton h, List.count_eq_zero_of_not_mem h, List.length_singleton]
termination_by l.length

end splitOn

/-! ## Reading part by part -/

/-- A list is mapped to another one exactly if each item is mapped to its partner. -/
theorem mapM_eq_some_iff {α : Type u} {β : Type v} {f : α → Option β} {l : List α} {r : List β} :
    l.mapM f = some r ↔ List.Forall₂ (fun a b => f a = some b) l r := by
  induction l generalizing r with
  | nil => simp [eq_comm]
  | cons a l ih =>
    simp only [List.mapM_cons, Option.bind_eq_bind, Option.bind_eq_some_iff, Option.pure_def,
      Option.some.injEq, List.forall₂_cons_left_iff]
    constructor
    · rintro ⟨b, hb, bs, hbs, rfl⟩
      exact ⟨b, bs, hb, ih.1 hbs, rfl⟩
    · rintro ⟨b, bs, hb, hbs, rfl⟩
      exact ⟨b, hb, bs, ih.2 hbs, rfl⟩

end Clearance
