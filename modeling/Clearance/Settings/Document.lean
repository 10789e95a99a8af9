import Clearance.Settings
import Clearance.Toml.Reader

/-!
# Settings documents

Settings are written as a TOML document with up to three sections: `policy`, `resolver` and
`providers`. What a document does not mention keeps its usual value, and a document that mentions
anything else is refused.

A section is a table, or an array that holds the values of its first fields in order.
-/

set_option autoImplicit false

namespace Clearance

namespace Settings

/-- A field of a section: its name, and how a value changes the settings. -/
structure Field where
  name : String
  apply : Toml.Value → Settings → Option Settings

/-- The text that a value is. -/
def text? : Toml.Value → Option String
  | .string s => some s
  | _ => none

/-- The natural number that a value is, if it is below `limit`. -/
def natural? (limit : Nat) : Toml.Value → Option Nat
  | .integer n => if 0 ≤ n ∧ n.toNat < limit then some n.toNat else none
  | _ => none

/-- The items that a value holds. -/
def list? {α : Type} (item? : Toml.Value → Option α) : Toml.Value → Option (List α)
  | .array items => items.mapM item?
  | _ => none

/-- The name that a value gives to one of several alternatives: as text, or as the only key of a
table, with a table or an array below it that is empty. -/
def alternative? : Toml.Value → Option String
  | .string name => some name
  | .table [(name, .table [])] => some name
  | .table [(name, .array [])] => some name
  | _ => none

/-- The failure mode with this name. -/
def modeOfName? (name : String) : Option FailureMode :=
  if name = "best-effort" then some .bestEffort
  else if name = "fail-fast" then some .failFast
  else none

/-- The limit of numbers with 64 bits. -/
def wordLimit : Nat := Nat.pow 2 64

/-- The limit of scores. -/
def scoreLimit : Nat := Nat.pow 2 32

/-- The fields of the section on licenses. -/
def policyFields : List Field :=
  [⟨"approved", fun v s => (list? text? v).map fun entries => { s with approved := some entries }⟩]

/-- The fields of the section on resolutions. -/
def resolverFields : List Field :=
  [⟨"batch_size", fun v s => (natural? wordLimit v).map fun n => { s with batchSize := n }⟩,
    ⟨"timeout_secs", fun v s => (natural? wordLimit v).map fun n => { s with timeoutSeconds := n }⟩,
    ⟨"failure_mode", fun v s =>
      ((alternative? v).bind modeOfName?).map fun mode => { s with mode }⟩,
    ⟨"max_concurrent_batches", fun v s =>
      (natural? wordLimit v).map fun n => { s with concurrency := n }⟩]

/-- The fields of the section on services. -/
def providersFields : List Field :=
  [⟨"order", fun v s =>
      (list? (fun item => (alternative? item).bind Service.ofName?) v).map fun order =>
        { s with order }⟩,
    ⟨"foundation_url", fun v s => (text? v).map fun url => { s with foundationUrl := url }⟩,
    ⟨"clearlydefined_url", fun v s => (text? v).map fun url => { s with clearlyDefinedUrl := url }⟩,
    ⟨"confidence_threshold", fun v s =>
      (natural? scoreLimit v).map fun n => { s with threshold := n }⟩,
    ⟨"project", fun v s => (text? v).map fun project => { s with project := some project }⟩]

/-- The settings after the given fields of a table, each of which must be one of `fields`. -/
def applyTable (fields : List Field) (given : List (String × Toml.Value)) (s : Settings) :
    Option Settings :=
  given.foldlM (fun s entry => do
    let field ← fields.find? (·.name == entry.1)
    field.apply entry.2 s) s

/-- The settings after a section. -/
def applySection (fields : List Field) (v : Toml.Value) (s : Settings) : Option Settings :=
  match v with
  | .table given => applyTable fields given s
  | .array items => (fields.zip items).foldlM (fun s entry => entry.1.apply entry.2 s) s
  | _ => none

/-- The sections of a document. -/
def sections : List Field :=
  [⟨"policy", applySection policyFields⟩, ⟨"resolver", applySection resolverFields⟩,
    ⟨"providers", applySection providersFields⟩]

/-- The settings that a document describes, if it does. -/
def ofDocument? (document : String) : Option Settings := do
  applyTable sections (← Toml.read? document) {}

end Settings

end Clearance
