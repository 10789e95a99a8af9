import Clearance.Report.Table
import Clearance.Report.Tally

/-!
# The terminal report

A box with the totals and the most frequent licenses, and a table for each status that calls for
attention. The approved components are listed on request only. A quiet report is one line with the
totals. The components that are not approved are listed once more in a message about what needs
review.

Text is set in a color or in bold for terminals that are told to show it. A terminal is told by an
escape sequence before the text and another one after it.
-/

set_option autoImplicit false

namespace Clearance

/-- How text can be set off. -/
inductive Style where
  | bold
  | green
  | red
  | yellow
  | cyan
  deriving DecidableEq, Repr

namespace Style

/-- The number of a style in an escape sequence. -/
def code : Style → String
  | bold => "1"
  | green => "32"
  | red => "31"
  | yellow => "33"
  | cyan => "36"

end Style

/-- Text in some styles, if colors are shown. -/
def paint (colors : Bool) (styles : List Style) (text : String) : String :=
  if colors then
    "\x1b[" ++ ";".intercalate (styles.map (·.code)) ++ "m" ++ text ++ "\x1b[0m"
  else text

/-- How a terminal report is wanted. -/
structure ReportStyle where
  /-- Approved components are listed, too. -/
  verbose : Bool
  /-- Only the totals are reported. -/
  quiet : Bool
  colors : Bool
  deriving DecidableEq, Repr

namespace Status

/-- The mark of a status. -/
def mark : Status → String
  | approved => "✓"
  | restricted => "✗"
  | unresolved => "?"

/-- The color of a status. -/
def color : Status → Style
  | approved => .green
  | restricted => .red
  | unresolved => .yellow

/-- The heading of the table for a status: a word in capitals, and what the table lists. -/
def heading : Status → String × String
  | approved => ("[APPROVED]", "Approved content:")
  | restricted => ("[RESTRICTED]", "Restricted content:")
  | unresolved => ("[UNRESOLVED]", "No license data found:")

end Status

namespace Report

/-- Text with blanks behind it up to a number of characters. -/
def padRight (width : Nat) (s : String) : String :=
  s ++ String.ofList (List.replicate (width - s.length) ' ')

/-- Text with blanks in front of it up to a number of characters. -/
def padLeft (width : Nat) (s : String) : String :=
  String.ofList (List.replicate (width - s.length) ' ') ++ s

/-- The number of characters of a line in the box. -/
def boxWidth : Nat := 48

/-- A line of the box. -/
def boxLine (content : String) : String := " │  " ++ content ++ " │\n"

/-- The number of entries with a status. -/
def count (r : Register) (s : Status) : Nat := (r.withStatus s).length

/-- The name of a status in the box. -/
def boxLabel : Status → String
  | .approved => "Approved        "
  | .restricted => "Restricted      "
  | .unresolved => "Unresolved      "

/-- The line of a status in the box. The licenses of unresolved components are not known, and so
not listed. -/
def statusLine (colors : Bool) (r : Register) (s : Status) : String :=
  let totals := paint colors [s.color] s.mark ++ "  " ++ boxLabel s ++ ": " ++
    padLeft 4 (toString (count r s))
  let licenses := if s = .unresolved then "" else "  " ++ r.licenseSummary s
  boxLine (padRight boxWidth (totals ++ licenses))

/-- The box with the totals. -/
def box (colors : Bool) (r : Register) : String :=
  " ┌────────────────────────────────────────────────────┐\n" ++
    boxLine (paint colors [.bold] (padRight boxWidth "SUMMARY")) ++
    boxLine (padRight boxWidth ("Total components   : " ++ toString r.size)) ++
    String.join ([.approved, .restricted, .unresolved].map (statusLine colors r)) ++
    " └────────────────────────────────────────────────────┘\n\n"

/-- The table of the entries with a status. -/
def statusTable (r : Register) (s : Status) : Table where
  header := ["Content", "License", "Authority", "Status"]
  rows := (r.withStatus s).map fun e =>
    [e.id.canonical, e.licenseLabel, e.authority?.getD "-", e.status.mark ++ " " ++ e.status.name]

/-- The table of the entries with a status under its heading; nothing where there is none. -/
def statusSection (colors : Bool) (r : Register) (s : Status) : String :=
  if count r s = 0 then ""
  else
    " " ++ paint colors [.bold, s.color] s.heading.1 ++ " " ++ s.heading.2 ++ "\n\n" ++
      (statusTable r s).text ++ "\n"

/-- The statuses whose entries are listed. -/
def listed (verbose : Bool) : List Status :=
  if verbose then [.restricted, .unresolved, .approved] else [.restricted, .unresolved]

/-- The totals on one line. -/
def totals (colors : Bool) (r : Register) : String :=
  let shown (s : Status) : String := paint colors [s.color] (toString (count r s))
  "Total: " ++ toString r.size ++ "  Approved: " ++ shown .approved ++ "  Restricted: " ++
    shown .restricted ++ "  Unresolved: " ++ shown .unresolved ++ "\n"

/-- The terminal report about the components listed in `input`. -/
def terminal (style : ReportStyle) (input : String) (r : Register) : String :=
  if style.quiet then totals style.colors r
  else
    "\n " ++ paint style.colors [.bold] "license-resolver" ++ " v0.1.0\n Input: " ++ input ++
      "\n\n" ++ box style.colors r ++
      String.join ((listed style.verbose).map (statusSection style.colors r))

end Report

/-! ## What needs review -/

/-- The ids of the entries that are not approved, in order. -/
def Register.needsReview (r : Register) : List ComponentId :=
  (r.entries.filter (·.status != .approved)).map (·.id)

/-- The message about what needs review. -/
def reviewMessage (colors : Bool) (ids : List ComponentId) : String :=
  if ids.isEmpty then
    paint colors [.green] "✓" ++
      " Vetted license information was found for all content. No further investigation is required.\n"
  else
    paint colors [.red] "✗" ++
      " License information could not be automatically verified for the following content:\n\n" ++
      String.join (ids.map fun id => "    " ++ id.canonical ++ "\n") ++
      "\nThis content is either not correctly mapped by the system, or requires review.\n"

end Clearance
