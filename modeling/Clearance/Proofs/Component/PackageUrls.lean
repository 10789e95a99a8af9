import Clearance.Proofs.Component.Releases
import Clearance.Proofs.Component.Scheme
import Clearance.Proofs.Text.Encoding

/-!
# Written package URLs

A package with a type, perhaps a scope, a name and a version has a package URL, in which every byte
of its scope, name and version is escaped, except for ASCII letters and digits. The reader undoes
this (`Package.read_url_eq`): an escaped text holds none of the marks at which the URL is cut, and
qualifiers and subpath come after everything that is read, whatever they hold.

How the URL is opened does not matter. The scheme in another case and slashes behind it leave the
same body (`body?_of_spells`).
-/

set_option autoImplicit false

namespace Clearance

namespace PackageUrl

/-! ## The opening -/

section opening

variable {head : List Char} (spelled : Spells head) (slashes : Nat) (cs : List Char)

include spelled

/-- Neither the case of the scheme nor slashes behind it make a difference to what follows. -/
theorem body?_of_spells :
    body? (head ++ ':' :: (List.replicate slashes '/' ++ cs)) = body? ("pkg:".toList ++ cs) := by
  have hcolon : ':' ∉ head := spelled.not_mem (by decide)
  have hlower : head.map Char.toLower = scheme.toList := spelled
  have hslashes : (List.replicate slashes '/' ++ cs).dropWhile (· == '/') =
      cs.dropWhile (· == '/') := by
    apply List.dropWhile_append_of_pos
    intro c hc
    rw [List.eq_of_mem_replicate hc]
    rfl
  have hplain : ':' ∉ scheme.toList := by decide
  have hcut : Text.cutFirst ':' ("pkg:".toList ++ cs) = some (scheme.toList, cs) :=
    Text.cutFirst_append hplain cs
  have hscheme : scheme.toList.map Char.toLower = scheme.toList := by decide
  simp only [body?, Text.cutFirst_append hcolon, hcut, Option.bind_eq_bind, Option.bind_some,
    hlower, hscheme, if_true, hslashes]

/-- White space is cut off only at the end, since the scheme holds none. -/
theorem trimChars_of_spells :
    Text.trimChars (head ++ ':' :: (List.replicate slashes '/' ++ cs)) =
      head ++ ':' :: (List.replicate slashes '/' ++ Text.trimRight cs) := by
  have hfree : ∀ c ∈ head ++ ':' :: List.replicate slashes '/', Text.isBlank c = false := by
    rw [List.forall_mem_append, List.forall_mem_cons]
    refine ⟨fun c hc => isBlank_of_isPlainChar (spelled.isPlainChar c hc), by decide, ?_⟩
    intro c hc
    rw [List.eq_of_mem_replicate hc]
    decide
  have htrim := Text.trimChars_append (by simp) hfree cs
  simpa only [List.append_assoc, List.cons_append] using htrim

/-- A text is read in the same way however its scheme is spelled, with slashes or without. -/
theorem read_of_spells {s t : String}
    (hs : s.toList = head ++ ':' :: (List.replicate slashes '/' ++ cs))
    (ht : t.toList = "pkg:".toList ++ cs) : read s = read t := by
  have hplain : Text.trimChars t.toList = "pkg:".toList ++ Text.trimRight cs := by
    rw [ht]
    exact Text.trimChars_append (by simp) isBlank_of_mem_scheme cs
  unfold read
  rw [hs, trimChars_of_spells spelled, hplain, body?_of_spells spelled]

end opening

/-! ## Types and escaped texts -/

/-- Characters of a type behind its first letter. -/
def isTypeChar (c : Char) : Bool := c.isAlphanum || c == '.' || c == '+' || c == '-'

/-- A letter, and then characters of a type. -/
def isType (type : String) : Bool :=
  match type.toList with
  | [] => false
  | c :: cs => c.isAlpha && cs.all isTypeChar

/-- A type is made of the characters of types. -/
theorem isTypeChar_of_mem {type : String} (h : isType type = true) :
    ∀ c ∈ type.toList, isTypeChar c = true := by
  unfold isType at h
  cases hchars : type.toList with
  | nil => simp
  | cons c cs =>
    simp only [hchars, Bool.and_eq_true, List.all_eq_true] at h
    rw [List.forall_mem_cons]
    refine ⟨?_, h.2⟩
    simp [isTypeChar, Char.isAlphanum, h.1]

/-- A type is not empty. -/
theorem toList_ne_nil_of_isType {type : String} (h : isType type = true) : type.toList ≠ [] := by
  intro hnil
  simp [isType, hnil] at h

/-- The text with every byte escaped, except for ASCII letters and digits. -/
def escape (text : String) : String :=
  String.ofList (Text.percentEncode Char.isAlphanum text.toList)

/-- An escaped text is made of plain characters and `%`. -/
theorem mem_escape {text : String} {c : Char} (h : c ∈ (escape text).toList) :
    isPlainChar c = true ∨ c = '%' := by
  rw [escape, String.toList_ofList] at h
  rcases Text.mem_percentEncode h with hstands | rfl | hdigit
  · exact Or.inl (by simp [isPlainChar, hstands])
  · exact Or.inr rfl
  · exact Or.inl (by simp [isPlainChar, hdigit])

/-- Decoding undoes the escapes. -/
theorem percentDecode?_escape (text : String) :
    Text.percentDecode? (escape text).toList = some text := by
  rw [escape, String.toList_ofList, Text.percentDecode?_percentEncode (by decide),
    String.ofList_toList]

/-- The escaped form of a text that is not empty is not empty. -/
theorem toList_escape_ne_nil {text : String} (h : text ≠ "") : (escape text).toList ≠ [] := by
  rw [escape, String.toList_ofList]
  apply Text.percentEncode_ne_nil
  rwa [ne_eq, String.toList_eq_nil_iff]

end PackageUrl

/-! ## Packages -/

open PackageUrl

/-- What a package URL tells of a package. -/
structure Package where
  type : String
  scope : Option String
  name : String
  version : String
  typed : isType type = true
  someName : name ≠ ""
  someVersion : version ≠ ""

namespace Package

variable (p : Package)

/-- The place of publication is that of the type in lower case. -/
def coordinates : Coordinates :=
  let (kind, source) := origin (String.ofList (p.type.toList.map Char.toLower))
  .of kind source p.scope p.name p.version

/-- The URL behind its scheme, without qualifiers and subpath. -/
def body : String :=
  p.type ++ "/" ++ p.scope.elim "" (escape · ++ "/") ++ escape p.name ++ "@" ++ escape p.version

/-- The pieces of the URL, with the escapes in their place. -/
def pieces : Pieces where
  kind := p.type.toList
  scopes := p.scope.toList.map fun scope => (escape scope).toList
  name := (escape p.name).toList
  version := (escape p.version).toList

/-- The name stands in the URL with its escapes. -/
theorem pieces_name : p.pieces.name = (escape p.name).toList := by
  rw [pieces]

/-- The version stands in the URL with its escapes. -/
theorem pieces_version : p.pieces.version = (escape p.version).toList := by
  rw [pieces]

/-- What stands behind the scheme is put together from the pieces. -/
theorem toList_body : p.body.toList = p.pieces.body := by
  cases hscope : p.scope with
  | none => simp [body, pieces, Pieces.body, Pieces.path, Pieces.segments, hscope]
  | some scope => simp [body, pieces, Pieces.body, Pieces.path, Pieces.segments, hscope]

/-- Neither the type nor an escaped text holds a character that would end it. -/
theorem sound_pieces : p.pieces.Sound := by
  have hname : p.pieces.name ≠ [] := p.pieces_name ▸ toList_escape_ne_nil p.someName
  refine Pieces.sound_of_plain (toList_ne_nil_of_isType p.typed) hname ?_
  have hescaped (text : String) (c : Char) (hc : c ∈ (escape text).toList) :
      isPlainChar c = true ∨ c = '%' ∨ c = '+' :=
    (mem_escape hc).imp_right Or.inl
  simp only [pieces, Pieces.segments, List.forall_mem_cons, List.forall_mem_append,
    List.forall_mem_map]
  refine ⟨hescaped p.version, fun c hc => ?_, fun scope _ => hescaped scope, hescaped p.name,
    by simp⟩
  have htype := isTypeChar_of_mem p.typed c hc
  simp only [isTypeChar, Bool.or_eq_true, beq_iff_eq] at htype
  rcases htype with ((hletter | rfl) | rfl) | rfl
  · exact Or.inl (by simp [isPlainChar, hletter])
  · decide
  · decide
  · decide

/-- The segments of the path decode to the scope, if there is one, and the name. -/
theorem mapM_percentDecode?_segments :
    p.pieces.segments.mapM Text.percentDecode? = some (p.scope.toList ++ [p.name]) := by
  cases hscope : p.scope with
  | none => simp [pieces, Pieces.segments, hscope, percentDecode?_escape]
  | some scope => simp [pieces, Pieces.segments, hscope, percentDecode?_escape]

/-- The URL is read as its coordinates if the scheme is written as usual. -/
theorem read_plain {s : String} {tail : List Char} (tailed : IsTail tail)
    (text : s.toList = "pkg:".toList ++ (p.pieces.body ++ tail)) :
    read s = some p.coordinates := by
  have hnamed : scopeAndName? (p.scope.toList ++ [p.name]) = some (p.scope, p.name) := by
    cases p.scope <;> rfl
  have hversion : Text.percentDecode? p.pieces.version = some p.version :=
    p.pieces_version ▸ percentDecode?_escape p.version
  exact p.sound_pieces.read_eq tailed text p.mapM_percentDecode?_segments hnamed p.someName
    hversion p.someVersion

end Package

/-- The URL of a package is read as the coordinates of the package, by the reader of package URLs
and as an entry of a dependency list. The scheme can be spelled in any case with any number of
slashes behind it, and the qualifiers and the subpath can be any texts. -/
theorem Package.read_url_eq (p : Package) {head : List Char} (spelled : Spells head)
    (slashes : Nat) (qualifiers subpath : Option String) :
    let url := String.ofList head ++ ":" ++ String.ofList (List.replicate slashes '/') ++ p.body ++
      Release.urlTail qualifiers subpath
    PackageUrl.read url = some p.coordinates ∧ ComponentId.read url = .located p.coordinates := by
  intro url
  have htail := Release.isTail_urlTail qualifiers subpath
  have htext : url.toList = head ++ ':' :: (List.replicate slashes '/' ++
      (p.pieces.body ++ (Release.urlTail qualifiers subpath).toList)) := by
    simp [url, p.toList_body]
  have hread : PackageUrl.read url = some p.coordinates := by
    have hplain : ("pkg:" ++ p.body ++ Release.urlTail qualifiers subpath).toList =
        "pkg:".toList ++ (p.pieces.body ++ (Release.urlTail qualifiers subpath).toList) := by
      simp [p.toList_body]
    rw [read_of_spells spelled slashes _ htext hplain]
    exact p.read_plain htail hplain
  refine ⟨hread, ComponentId.read_of_first [.fivePart] rfl ?_ hread⟩
  have htrim := trimChars_of_spells spelled slashes
    (p.pieces.body ++ (Release.urlTail qualifiers subpath).toList)
  rw [← htext] at htrim
  have hfive : FivePart.read url = none := FivePart.read_eq_none_of_scheme htrim spelled
  simp [Notation.read, hfive]

/-- Marks of all kinds in a scope, a name and a version: `GitHub` in lower case has a source of its
own, and the scope `-` is an absent one. -/
theorem Package.read_url_eq_of_marked_parts :
    Spells "pKg".toList ∧
      PackageUrl.read "pKg://GitHub/%40a%2Fb/n%C3%A9%3F%23@1%252F%2B%20?x=@/#y?@ " =
        some ⟨"git", "github", some "@a/b", "né?#", "1%2F+ "⟩ ∧
      ComponentId.read "pKg:a.b+c-1/%2D/%C3%BC@2#@" =
        .located ⟨"a.b+c-1", "-", none, "ü", "2"⟩ := by
  have hspells : Spells "pKg".toList := by
    rw [Spells]
    decide
  let p : Package := ⟨"GitHub", some "@a/b", "né?#", "1%2F+ ", by decide, by decide, by decide⟩
  let q : Package := ⟨"a.b+c-1", some "-", "ü", "2", by decide, by decide, by decide⟩
  have hp : String.ofList "pKg".toList ++ ":" ++ String.ofList (List.replicate 2 '/') ++ p.body ++
      Release.urlTail (some "x=@/") (some "y?@ ") =
        "pKg://GitHub/%40a%2Fb/n%C3%A9%3F%23@1%252F%2B%20?x=@/#y?@ " := by
    decide +kernel
  have hq : String.ofList "pKg".toList ++ ":" ++ String.ofList (List.replicate 0 '/') ++ q.body ++
      Release.urlTail none (some "@") = "pKg:a.b+c-1/%2D/%C3%BC@2#@" := by
    decide +kernel
  have hmarked := p.read_url_eq hspells 2 (some "x=@/") (some "y?@ ")
  have hother := q.read_url_eq hspells 0 none (some "@")
  simp only [hp] at hmarked
  simp only [hq] at hother
  refine ⟨hspells, hmarked.1.trans ?_, hother.2.trans ?_⟩
  · decide +kernel
  · decide +kernel

end Clearance
