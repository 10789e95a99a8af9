import Clearance.Proofs.Text.Encoding
import Clearance.Proofs.Text.Parts
import Clearance.Text.Percent

/-!
# Reading forms

A form is a sequence of fields with `&` between them, each a name and a value around the first
equals sign. A form of one field is read as this field, whatever characters name and value hold
(`formFields?_formField`): neither of the two signs stands in encoded text, and neither does a plus
sign that is not a blank.
-/

set_option autoImplicit false

namespace Clearance.Text

/-- The text that a name or a value of a form stands for. -/
def formDecode? (cs : List Char) : Option String :=
  percentDecode? (cs.map fun c => if c = '+' then ' ' else c)

/-- A field of a form, cut at the first equals sign. -/
def formField? (cs : List Char) : Option (String × String) := do
  let (name, value) := (cutFirst '=' cs).getD (cs, [])
  return (← formDecode? name, ← formDecode? value)

/-- The fields of a form. -/
def formFields? (form : String) : Option (List (String × String)) :=
  (form.toList.splitOn '&').mapM formField?

/-- A value in a form is written in `+`, `%` and the characters that stand for themselves. -/
theorem mem_formEncode {cs : List Char} {c : Char} (h : c ∈ formEncode cs) :
    c = '+' ∨ c = '%' ∨ standsInForm c = true := by
  obtain ⟨d, -, hd⟩ := List.mem_flatMap.1 h
  split at hd
  · exact .inl (List.mem_singleton.1 hd)
  · rcases mem_percentEncode hd with hstands | rfl | halnum
    · exact .inr (.inr hstands)
    · exact .inr (.inl rfl)
    · exact .inr (.inr (by simp [standsInForm, halnum]))

/-- The separators of a form are always encoded. -/
theorem not_mem_formEncode {sep : Char} (separates : sep = '&' ∨ sep = '=') (cs : List Char) :
    sep ∉ formEncode cs := by
  intro hmem
  rcases separates with rfl | rfl
  · exact absurd (mem_formEncode hmem) (by decide)
  · exact absurd (mem_formEncode hmem) (by decide)

/-- Blanks for the plus signs make text in which a blank stands for itself. -/
theorem map_formEncode (cs : List Char) :
    (formEncode cs).map (fun c => if c = '+' then ' ' else c) =
      percentEncode (fun c => standsInForm c || c == ' ') cs := by
  induction cs with
  | nil => rfl
  | cons c cs ih =>
    have hform : formEncode (c :: cs) =
        (if c = ' ' then ['+'] else percentEncode standsInForm [c]) ++ formEncode cs :=
      List.flatMap_cons
    have hstands (stands : Char → Bool) :
        percentEncode stands (c :: cs) = percentEncode stands [c] ++ percentEncode stands cs := by
      rw [percentEncode, percentEncode, percentEncode, List.flatMap_cons, List.flatMap_singleton]
    rw [hform, List.map_append, ih, hstands]
    congr 1
    by_cases hc : c = ' '
    · subst hc
      rfl
    · -- No plus sign stands in what is encoded.
      have hplus : ∀ d ∈ percentEncode standsInForm [c], d ≠ '+' := by
        rintro d hd rfl
        exact absurd (mem_percentEncode hd) (by decide)
      rw [if_neg hc]
      calc (percentEncode standsInForm [c]).map (fun d => if d = '+' then ' ' else d)
          = (percentEncode standsInForm [c]).map id := by
            apply List.map_congr_left
            exact fun d hd => if_neg (hplus d hd)
        _ = percentEncode standsInForm [c] := List.map_id _
        _ = percentEncode (fun c => standsInForm c || c == ' ') [c] := by
            simp [percentEncode, hc]

/-- A value is decoded from its encoding. -/
theorem formDecode?_formEncode (cs : List Char) :
    formDecode? (formEncode cs) = some (String.ofList cs) := by
  rw [formDecode?, map_formEncode]
  exact percentDecode?_percentEncode (by decide) cs

/-- A form with one field is read as this field. -/
theorem formFields?_formField (name value : String) :
    formFields? (formField name value) = some [(name, value)] := by
  have hfree : '&' ∉ formEncode name.toList ++ '=' :: formEncode value.toList := by
    have hname := not_mem_formEncode (.inl rfl) name.toList
    have hvalue := not_mem_formEncode (.inl rfl) value.toList
    simp [hname, hvalue]
  have hcut := cutFirst_append (not_mem_formEncode (.inr rfl) name.toList)
    (formEncode value.toList)
  rw [formFields?, formField, String.toList_ofList, List.splitOn_eq_singleton hfree]
  simp [formField?, hcut, formDecode?_formEncode]

end Clearance.Text
