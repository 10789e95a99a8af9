import Clearance.Proofs.Json.Order
import Clearance.Proofs.Json.Paths
import Clearance.Proofs.Text.Order
import Clearance.Service.ClearlyDefined

/-!
# Records of a reply

A reply of the foundation holds its records in two sections, a reply of ClearlyDefined its
definitions in the fields of one object. What the two have in common is a `RecordFormat`: the paths
that lead to records, the order in which they are read, and what is made of one of them.

An answer *accounts* for a reply (`RecordFormat.Accounts`) if each record leads to one observation
or to one warning, and nothing else does. What is observed about some records does not depend on the
others: two bodies that hold the same at some places lead to the same observations there, in the
same order, whatever they hold elsewhere (`RecordFormat.AccountsFor`).
-/

set_option autoImplicit false

namespace Clearance

/-- How a service lays out records in its replies, and what is made of a record at a place. -/
structure RecordFormat (ι : Type) where
  /-- The replies that hold records at all. -/
  accepts : Json.Value → Prop
  /-- The places where records stand. -/
  holds : ι → Prop
  /-- The names that lead to a place. -/
  path : ι → List String
  /-- The order in which records are read. -/
  before : ι → ι → Prop
  /-- The observation that a record stands for, if it can be read. -/
  observation? : ι × Json.Value → Option Observation
  /-- What is reported about a record that cannot be read. -/
  warning : ι × Json.Value → Event

namespace RecordFormat

variable {ι : Type} (format : RecordFormat ι)

/-- These are the records of a reply, in the order in which they are read. -/
structure Lists (reply : Json.Value) (records : List (ι × Json.Value)) : Prop where
  mem_iff : ∀ place record, (place, record) ∈ records ↔
    format.holds place ∧ reply.at? (format.path place) = some record
  ordered : records.Pairwise fun a b => format.before a.1 b.1

/-- The replies hold the same records at the places in `kept`. -/
def Agree (kept : ι → Bool) (reply other : Json.Value) : Prop :=
  ∀ place, format.holds place → kept place = true →
    reply.at? (format.path place) = other.at? (format.path place)

/-- What is observed, and where. -/
def found (records : List (ι × Json.Value)) : List (ι × Observation) :=
  records.filterMap fun record => (format.observation? record).map (record.1, ·)

variable {format} {records : List (ι × Json.Value)}

end RecordFormat

/-! ## The foundation -/

namespace Foundation

/-- The records of the foundation: first the approved section, then the restricted one, each in the
order of its names. -/
def format : RecordFormat (String × String) where
  accepts _ := True
  holds place := place.1 = "approved" ∨ place.1 = "restricted"
  path place := [place.1, place.2]
  before a b := a.1 = "approved" ∧ b.1 = "restricted" ∨
    a.1 = b.1 ∧ Text.utf8 a.2 < Text.utf8 b.2
  observation? record := observation? record.2
  warning record := .foundationUnreadable record.2

end Foundation

/-! ## ClearlyDefined -/

namespace ClearlyDefined

/-- The definitions of ClearlyDefined, in the order of their names. -/
def format (service : ClearlyDefined) : RecordFormat String where
  accepts reply := ∃ fields, reply = .object fields
  holds _ := True
  path name := [name]
  before a b := Text.utf8 a < Text.utf8 b
  observation? := service.observation?
  warning field := .definitionUnreadable field.1

end ClearlyDefined

/-! ## Both services -/

end Clearance
