import Clearance.Json.Value
import Mathlib

/-!
# Changes within JSON values

`Value.changeAt` changes what stands at a path of names. A name on the path then leads to what the
change makes of its value (`Value.field?_changeAt`), other names lead where they led before
(`Value.field?_changeAt_of_ne`), and where the values of an object are taken one after the other,
one of them is exchanged (`exists_changeField`).
-/

set_option autoImplicit false

namespace Clearance.Json

/-- Fields with a change to the first value under a name. -/
def changeField (name : String) (f : Value → Value) :
    List (String × Value) → List (String × Value)
  | [] => []
  | (key, value) :: fields =>
    if key = name then (key, f value) :: fields else (key, value) :: changeField name f fields

/-- The value with a change to what a path leads to. -/
def Value.changeAt (f : Value → Value) : List String → Value → Value
  | [], v => f v
  | name :: path, .object fields => .object (changeField name (changeAt f path) fields)
  | _ :: _, v => v

variable {name other : String} {f : Value → Value} {fields : List (String × Value)} {v : Value}

/-- A change of one field leaves those with other names as they are. -/
theorem lookup_changeField_of_ne (h : other ≠ name) :
    (changeField name f fields).lookup other = fields.lookup other := by
  induction fields with
  | nil => rfl
  | cons field fields ih =>
    obtain ⟨key, value⟩ := field
    by_cases hkey : key = name
    · subst hkey
      have hother : (other == key) = false := beq_false_of_ne h
      simp [changeField, List.lookup_cons, hother]
    · simp [changeField, hkey, List.lookup_cons, ih]

/-- A change of one field is seen under its name. -/
theorem lookup_changeField :
    (changeField name f fields).lookup name = (fields.lookup name).map f := by
  induction fields with
  | nil => rfl
  | cons field fields ih =>
    obtain ⟨key, value⟩ := field
    by_cases hkey : key = name
    · simp [changeField, hkey]
    · have hname : (name == key) = false := beq_false_of_ne (Ne.symm hkey)
      simp [changeField, hkey, List.lookup_cons, hname, ih]

/-- A change of one field keeps all others in their places. -/
theorem exists_changeField (h : fields.lookup name = some v) :
    ∃ front back, fields = front ++ (name, v) :: back ∧
      changeField name f fields = front ++ (name, f v) :: back := by
  induction fields with
  | nil => cases h
  | cons field fields ih =>
    obtain ⟨key, value⟩ := field
    by_cases hkey : key = name
    · subst hkey
      rw [List.lookup_cons_self] at h
      cases h
      exact ⟨[], fields, rfl, if_pos rfl⟩
    · rw [List.lookup_cons, beq_false_of_ne (Ne.symm hkey)] at h
      obtain ⟨front, back, rfl, hchange⟩ := ih h
      refine ⟨(key, value) :: front, back, rfl, ?_⟩
      rw [changeField, if_neg hkey, hchange]
      rfl

namespace Value

/-- A longer path goes on from where the first part leads. -/
theorem at?_append (v : Value) (path more : List String) :
    v.at? (path ++ more) = (v.at? path).bind (·.at? more) := List.foldlM_append

/-- A change below one field leaves those with other names as they are. -/
theorem field?_changeAt_of_ne (h : other ≠ name) (path : List String) (v : Value) :
    (changeAt f (name :: path) v).field? other = v.field? other := by
  cases v with
  | object fields => exact lookup_changeField_of_ne h
  | _ => rfl

/-- A change below one field is a change of its value. -/
theorem field?_changeAt (path : List String) (v : Value) :
    (changeAt f (name :: path) v).field? name = (v.field? name).map (changeAt f path) := by
  cases v with
  | object fields => exact lookup_changeField
  | _ => rfl

/-- A change at a longer path is a change of what the first part leads to. -/
theorem changeAt_append (path more : List String) (v : Value) :
    changeAt f (path ++ more) v = changeAt (changeAt f more) path v := by
  induction path generalizing v with
  | nil => rfl
  | cons name path ih =>
    have hinner : changeAt f (path ++ more) = changeAt (changeAt f more) path := funext ih
    cases v with
    | object fields =>
      show object (changeField name (changeAt f (path ++ more)) fields) = _
      rw [hinner]
      rfl
    | _ => rfl

end Value

end Clearance.Json
