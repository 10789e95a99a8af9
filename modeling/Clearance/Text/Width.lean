import Clearance.Text.Joining
import Clearance.Text.Pictograph

/-!
# Display width

How many columns of a terminal a line takes. It is the sum of the widths of its characters, but for
the sequences that are drawn as one:

* a picture is two columns wide, also where it is made of a base and a variation selector, a base
  and a skin tone, or several pictures with joiners between them;
* a picture that a variation selector shows as text is one column wide;
* some letters of Arabic, Hebrew, Buginese, Khmer, Kirat Rai, Lisu, Old Turkic and Tifinagh are as
  wide together as one of them.

A line is measured from its end. What follows a character decides if it belongs to a sequence, and
`Tail` is what has to be known about it.
-/

set_option autoImplicit false

namespace Clearance.Text

namespace Width

/-- What stands behind a character, as far as the character can be drawn as one with it. -/
inductive Context where
  | plain
  /-- A picture. -/
  | pictograph
  | skinTone
  /-- One flag letter. -/
  | flagLetter
  /-- Several flag letters. -/
  | flagLetters
  /-- A joiner, and behind it a picture. -/
  | joined
  /-- The frame of a key, and behind it a joiner and a picture. -/
  | joinedKeycap
  /-- One flag letter, and behind it a joiner and a picture. -/
  | joinedLetter
  /-- Flag letters in pairs, and behind them a joiner and a picture. -/
  | joinedPairs
  /-- Three or more flag letters, one of them without a partner, and behind them a joiner and a
  picture. -/
  | joinedOdd
  /-- Tags that stand for letters with perhaps some for digits before them, the last tag, and then
  a joiner and a picture. -/
  | joinedTags (letters digits : Nat)
  /-- An Arabic alef. -/
  | alef
  /-- A Hebrew lamed. -/
  | lamed
  /-- A Buginese ya. -/
  | ya
  /-- The Buginese vowel sign that can be drawn as one with a ya, and the ya. -/
  | signAndYa
  /-- A Khmer letter that can be written below another. -/
  | subscript
  /-- A Tifinagh consonant. -/
  | consonant
  /-- The sign that joins Tifinagh consonants, and a consonant. -/
  | signAndConsonant
  /-- The second of two tone letters of Lisu. -/
  | tone
  /-- The Old Turkic letter i. -/
  | orkhonI
  /-- The Kirat Rai vowel sign e. -/
  | vowelE
  /-- The Kirat Rai vowel sign ai, in one character or in two. -/
  | vowelAi
  deriving DecidableEq, Repr

namespace Context

/-- The context that a character makes for what stands before it. -/
def of (c : Char) : Context :=
  if c = '\u05DC' then lamed
  else if isAlef c then alef
  else if isSubscriptLetter c then subscript
  else if c = '\u1A10' then ya
  else if isTifinaghConsonant c then consonant
  else if isSecondToneLetter c then tone
  else if c = Char.ofNat 0x10C03 then orkhonI
  else if c = Char.ofNat 0x16D67 then vowelE
  else if c = Char.ofNat 0x16D68 then vowelAi
  else if isFlagLetter c then flagLetter
  else if isSkinTone c then skinTone
  else if isPictograph c then pictograph
  else plain

/-- Ignorable marks and a joiner may stand before the context without ending it. -/
def isLigature : Context → Bool
  | lamed | ya | signAndYa | subscript | consonant | signAndConsonant | tone | orkhonI => true
  | _ => false

/-- Variation selectors may stand before the context without ending it. -/
def keepsSelectors (k : Context) : Bool := k.isLigature || k == alef

/-- A picture that a variation selector makes here is part of the picture that follows. -/
def isJoined (k : Context) : Bool := k == joined || k == joinedKeycap

/-- What a flag letter, a tag or another part of a picture adds to the width before a picture with
a joiner, and the context that it makes. -/
def beforeJoined? (c : Char) : Context → Option (Int × Context)
  | joined =>
    if c = keycapFrame then some (0, joinedKeycap)
    else if isFlagLetter c then some (1, joinedLetter)
    else if isSkinTone c then some (0, skinTone)
    else if c = lastTag then some (0, joinedTags 0 0)
    else if isPictograph c then some (0, pictograph)
    else none
  | joinedLetter => if isFlagLetter c then some (-1, joinedPairs) else none
  | joinedOdd =>
    if isFlagLetter c then some (-1, joinedPairs)
    else if c = joiner then some (0, joined)
    else none
  | joinedPairs =>
    if isFlagLetter c then some (3, joinedOdd)
    else if c = joiner then some (0, joined)
    else none
  | joinedTags letters digits =>
    if isTagLetter c && digits == 0 && letters < 6 then some (0, joinedTags (letters + 1) 0)
    else if isTagDigit c && digits < 3 && (letters < 5 || digits != 0) then
      some (0, joinedTags letters (digits + 1))
    else if c = blackFlag ∧ (digits = 3 ∨ (digits = 0 ∧ 3 ≤ letters)) then some (0, pictograph)
    else none
  | _ => none

/-- What a letter adds to the width before letters that it can be drawn as one with, and the
context that it makes; `afterJoiner` says that a joiner stands between them. -/
def beforeLetters? (afterJoiner : Bool) (c : Char) : Context → Option (Int × Context)
  | alef =>
    if isLam c then some (0, plain) else if isTransparent c then some (0, alef) else none
  | lamed => if afterJoiner ∧ c = '\u05D0' then some (0, plain) else none
  | ya => if afterJoiner ∧ c = '\u1A17' then some (0, signAndYa) else none
  | signAndYa => if c = '\u1A15' then some (0, plain) else none
  | subscript => if c = '\u17D2' then some (-1, plain) else none
  | consonant =>
    if c = '\u2D7F' then some (1, signAndConsonant)
    else if afterJoiner && isTifinaghConsonant c then some (0, plain)
    else none
  | signAndConsonant => if isTifinaghConsonant c then some (-1, plain) else none
  | tone => if isFirstToneLetter c then some (0, plain) else none
  | orkhonI => if afterJoiner ∧ c = Char.ofNat 0x10C32 then some (0, plain) else none
  | vowelE =>
    if c = Char.ofNat 0x16D63 ∨ c = Char.ofNat 0x16D69 then some (0, plain)
    else if c = Char.ofNat 0x16D67 then some (0, vowelAi)
    else if c = Char.ofNat 0x16D68 then some (1, vowelE)
    else none
  | vowelAi => if c = Char.ofNat 0x16D63 then some (0, plain) else none
  | _ => none

/-- What a character adds to the width before a context that it is drawn as one with, and the
context that it makes. -/
def before? (afterJoiner : Bool) (c : Char) (k : Context) : Option (Int × Context) :=
  match k with
  | pictograph => if c = joiner then some (0, joined) else none
  | skinTone =>
    if isToneBase c then some (0, pictograph)
    else if c = joiner then some (0, joined)
    else none
  | flagLetter => if isFlagLetter c then some (1, flagLetters) else none
  | flagLetters =>
    if isFlagLetter c then some (1, flagLetters)
    else if c = joiner then some (0, joined)
    else none
  | k => (k.beforeJoined? c).or (k.beforeLetters? afterJoiner c)

end Context

/-- What a variation selector asks for. -/
inductive Selector where
  /-- A picture. -/
  | picture
  /-- Text instead of a picture. -/
  | text
  /-- A quotation mark in two columns. -/
  | wide
  deriving DecidableEq, Repr

/-- What a character asks for, if it is a variation selector that matters here. -/
def Selector.ofChar? (c : Char) : Option Selector :=
  if c = '\uFE0F' then some picture
  else if c = '\uFE0E' then some text
  else if c = '\uFE01' then some wide
  else none

/-- What follows a character. -/
structure Tail where
  context : Context := .plain
  /-- A joiner stands before the context. -/
  joiner : Bool := false
  /-- The next character is to be a picture. -/
  picture : Bool := false
  /-- The next character is to be text. -/
  text : Bool := false
  /-- The next character is to be wide. -/
  wide : Bool := false
  deriving DecidableEq, Repr

namespace Tail

/-- The tail with what a variation selector asks for. -/
def mark (t : Tail) : Selector → Tail
  | .picture => { t with picture := true }
  | .text => { t with text := true }
  | .wide => { t with wide := true }

/-- The tail behind a variation selector: most contexts end there. -/
def select (t : Tail) (s : Selector) : Tail :=
  if t.context.keepsSelectors then t.mark s
  else if s = .picture ∧ t.context.isJoined then mark { context := t.context } s
  else mark {} s

/-- The tail for a character that cannot be the picture that is asked for. -/
def withoutPicture (t : Tail) : Tail :=
  if t.picture && !t.context.keepsSelectors then {} else { t with picture := false }

/-- The tail for a character that can be neither the text nor the wide mark that is asked for; text
is given up first. -/
def withoutStyle (t : Tail) : Tail :=
  if t.text then { t with text := false } else { t with wide := false }

/-- What a character adds to the width when no variation selector applies to it, and the tail that
it makes. -/
def extend (t : Tail) (c : Char) : Int × Tail :=
  if t.context.isLigature && c == Text.joiner then (0, { t with joiner := true })
  else if t.context.isLigature && isIgnorableMark c then (0, t)
  else
    match if t.wide then none else t.context.before? t.joiner c with
    | some (width, context) => (width, { context })
    | none => (charWidth c, { context := .of c })

/-- What a character that is not the picture asked for adds to the width, and the tail that it
makes. -/
def stepPlain (c : Char) (t : Tail) : Int × Tail :=
  match Selector.ofChar? c with
  | some s => (0, t.select s)
  | none =>
    if t.text && isTextBase c then (1, {})
    else if !t.text && t.wide && isQuotationMark c then (2, {})
    else t.withoutStyle.extend c

/-- What a character adds to the width before a tail, and the tail that it makes. -/
def step (c : Char) (t : Tail) : Int × Tail :=
  if t.picture && isVariationBase c then
    (if t.context.isJoined then 0 else 2, { context := .pictograph })
  else if c.toNat ≤ 0xA0 then (1, {})
  else t.withoutPicture.stepPlain c

/-- The width of a text, and the tail that it makes for what stands before it. -/
def measure (cs : List Char) : Int × Tail :=
  cs.foldr (fun c rest => let (added, tail) := rest.2.step c; (rest.1 + added, tail)) (0, {})

end Tail

end Width

/-- The number of columns that a line takes. -/
def width (line : String) : Nat := (Width.Tail.measure line.toList).1.toNat

end Clearance.Text
