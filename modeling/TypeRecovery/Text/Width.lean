import TypeRecovery.Text.Property

/-!
# Widths of texts

How many columns a text takes on a terminal. A wide character takes two columns, a combining one
none and most others one, but letters and emoji that are drawn as one sign are counted together. A
text is read from its end, because what a character joins stands behind it.
-/

namespace TypeRecovery

/-! ## Characters -/

def isFlagLetter (c : Char) : Bool := inRanges [(0x1F1E6, 0x1F1FF)] c

def isSkinTone (c : Char) : Bool := inRanges [(0x1F3FB, 0x1F3FF)] c

def isTagLetter (c : Char) : Bool := inRanges [(0xE0061, 0xE007A)] c

def isTagDigit (c : Char) : Bool := inRanges [(0xE0030, 0xE0039)] c

/-- Tifinagh consonants that are written into one with another. -/
def isTifinaghConsonant (c : Char) : Bool := inRanges [(0x2D31, 0x2D65), (0x2D6F, 0x2D6F)] c

/-- Arabic letters of the form of lam. -/
def isLam (c : Char) : Bool :=
  inRanges [(0x644, 0x644), (0x6B5, 0x6B8), (0x76A, 0x76A), (0x8A6, 0x8A6), (0x8C7, 0x8C7)] c

/-- Arabic letters of the form of alef. -/
def isAlef (c : Char) : Bool :=
  inRanges
    [ (0x622, 0x623), (0x625, 0x625), (0x627, 0x627), (0x671, 0x673), (0x675, 0x675),
      (0x773, 0x774), (0x870, 0x882) ] c

/-- Khmer letters that have a form below another letter. -/
def isKhmerSubscript (c : Char) : Bool :=
  inRanges
    [ (0x1780, 0x1782), (0x1784, 0x1787), (0x1789, 0x178C), (0x178E, 0x1793), (0x1795, 0x1798),
      (0x179B, 0x179D), (0x17A0, 0x17A0), (0x17A2, 0x17A2), (0x17A7, 0x17A7), (0x17AB, 0x17AC),
      (0x17AF, 0x17AF) ] c

/-- Marks that do not keep letters from joining, and the joiner. -/
def isJoinTransparent (c : Char) : Bool :=
  inRanges
    [ (0x34F, 0x34F), (0x17B4, 0x17B5), (0x180B, 0x180D), (0x180F, 0x180F), (0x200D, 0x200D),
      (0xFE00, 0xFE0F), (0xE0100, 0xE01EF) ] c

/-- Columns of a character by itself. One Khmer sign is as wide as the three letters it stands
for. -/
def charWidth (c : Char) : Nat :=
  if c.toNat ≤ 0xA0 then 1
  else if c.toNat = 0x17D8 then 3
  else if inRanges wideRanges c then 2
  else if inRanges zeroWidthRanges c then 0
  else 1

/-! ## What stands behind -/

inductive Selector where
  | emoji
  | text
  | wideQuote
  deriving DecidableEq, Repr

def Selector.ofChar? (c : Char) : Option Selector :=
  match c.toNat with
  | 0xFE0F => some .emoji
  | 0xFE0E => some .text
  | 0xFE01 => some .wideQuote
  | _ => none

/-- The start of what stands behind a character, as far as the character can join it. `joined` says
that a joiner stands between them. -/
inductive Follower where
  | other
  | alef
  | lamed (joined : Bool)
  | ya (joined : Bool)
  /-- A vowel sign that is joined with the letter ya. -/
  | vowelYa
  | consonant (joined : Bool)
  /-- A consonant with the mark that joins consonants. -/
  | markedConsonant
  | khmerLetter
  | toneLetter
  | orkhonI (joined : Bool)
  | raiE
  | raiAi
  | emoji
  | skinTone
  /-- Letters of flags. -/
  | flag (several : Bool)
  | joinedEmoji
  | joinedKeycap
  /-- Letters of flags in front of a joined emoji. -/
  | joinedFlag (letters : Nat)
  /-- The end of a tag in front of a joined emoji, with the letters that belong to it. -/
  | tagLetters (count : Nat)
  | tagDigits (count : Nat)
  deriving DecidableEq, Repr

namespace Follower

/-- What a character is to the one in front of it. -/
def ofChar (c : Char) : Follower :=
  if isAlef c then .alef
  else if c.toNat = 0x5DC then .lamed false
  else if isKhmerSubscript c then .khmerLetter
  else if c.toNat = 0x1A10 then .ya false
  else if isTifinaghConsonant c then .consonant false
  else if inRanges [(0xA4FC, 0xA4FD)] c then .toneLetter
  else if c.toNat = 0x10C03 then .orkhonI false
  else if c.toNat = 0x16D67 then .raiE
  else if c.toNat = 0x16D68 then .raiAi
  else if isFlagLetter c then .flag false
  else if isSkinTone c then .skinTone
  else if inRanges emojiRanges c then .emoji
  else .other

/-- A letter that joins others across a variation selector. -/
def isLetter : Follower → Bool
  | .alef | .lamed _ | .ya _ | .vowelYa | .consonant _ | .markedConsonant | .khmerLetter
  | .toneLetter | .orkhonI _ => true
  | _ => false

/-- What is left behind a variation selector that a character does not take up. -/
def withoutSelector (f : Follower) : Follower := if f.isLetter then f else .other

/-- What is left behind a variation selector. -/
def behind (f : Follower) (s : Selector) : Follower :=
  match f, s with
  | .joinedEmoji, .emoji | .joinedKeycap, .emoji => f
  | _, _ => f.withoutSelector

/-- A letter with a joiner in front of it. -/
def join : Follower → Follower
  | .lamed _ => .lamed true
  | .ya _ => .ya true
  | .consonant _ => .consonant true
  | .orkhonI _ => .orkhonI true
  | f => f

/-- A letter with a character in front of it, if that is drawn into one with it: the columns that
come to those of the letter, and what the two are to the next one. -/
def joinLetter (f : Follower) (c : Char) : Option (Int × Follower) :=
  match f, c.toNat with
  | .lamed true, 0x5D0 => some (0, .other)
  | .khmerLetter, 0x17D2 => some (-1, .other)
  | .ya true, 0x1A17 => some (0, .vowelYa)
  | .vowelYa, 0x1A15 => some (0, .other)
  | .consonant _, 0x2D7F => some (1, .markedConsonant)
  | .consonant true, _ => if isTifinaghConsonant c then some (0, .other) else none
  | .markedConsonant, _ => if isTifinaghConsonant c then some (-1, .other) else none
  | .toneLetter, _ => if inRanges [(0xA4F8, 0xA4FB)] c then some (0, .other) else none
  | .orkhonI true, 0x10C32 => some (0, .other)
  | .raiE, 0x16D63 => some (0, .other)
  | .raiE, 0x16D67 => some (0, .raiAi)
  | .raiE, 0x16D68 => some (1, .raiE)
  | .raiE, 0x16D69 => some (0, .other)
  | .raiAi, 0x16D63 => some (0, .other)
  | _, _ => none

/-- An emoji that a joiner stands in front of, with the character in front of that. -/
def joinEmoji (c : Char) : Option (Int × Follower) :=
  if c.toNat = 0x20E3 then some (0, .joinedKeycap)
  else if isFlagLetter c then some (1, .joinedFlag 1)
  else if isSkinTone c then some (0, .skinTone)
  else if c.toNat = 0xE007F then some (0, .tagLetters 0)
  else if inRanges emojiRanges c then some (0, .emoji)
  else none

/-- The letters and digits of a tag, which stand behind a black flag. -/
def joinTag (f : Follower) (c : Char) : Option (Int × Follower) :=
  match f with
  | .tagLetters n =>
    if isTagLetter c then if n < 6 then some (0, .tagLetters (n + 1)) else none
    else if isTagDigit c then if n ≤ 4 then some (0, .tagDigits 1) else none
    else if c.toNat = 0x1F3F4 ∧ 3 ≤ n then some (0, .emoji)
    else none
  | .tagDigits n =>
    if isTagDigit c then if n < 3 then some (0, .tagDigits (n + 1)) else none
    else if c.toNat = 0x1F3F4 ∧ n = 3 then some (0, .emoji)
    else none
  | _ => none

/-- Something that a joiner can stand in front of to make it part of an emoji. -/
def takesJoiner : Follower → Bool
  | .emoji | .skinTone | .flag true => true
  | .joinedFlag n => 2 ≤ n
  | _ => false

/-- Emoji and flags with a character in front of them. Two letters make a flag. -/
def joinSign (f : Follower) (c : Char) : Option (Int × Follower) :=
  if c.toNat = 0x200D ∧ f.takesJoiner then some (0, .joinedEmoji)
  else
    match f with
    | .skinTone => if inRanges modifierBaseRanges c then some (0, .emoji) else none
    | .flag _ => if isFlagLetter c then some (1, .flag true) else none
    | .joinedEmoji => joinEmoji c
    | .joinedFlag n =>
      if isFlagLetter c then some (if n % 2 = 1 then -1 else 3, .joinedFlag (n + 1)) else none
    | f => f.joinTag c

/-- What a character comes to in front of a follower, if not to its own width. -/
def before (f : Follower) (c : Char) : Option (Int × Follower) :=
  if f = .alef then
    if isLam c then some (0, .other)
    else if charWidth c = 0 ∧ !inRanges separatingRanges c then some (0, .alef)
    else none
  else if f.isLetter ∧ c.toNat = 0x200D then some (0, f.join)
  else if f.isLetter ∧ isJoinTransparent c then some (0, f)
  else (f.joinLetter c).or (f.joinSign c)

end Follower

/-! ## Texts -/

/-- A text that has been read from its end: its columns so far, what it is to the character in front
of it, and the variation selectors that wait for a character to take them up. -/
structure Ending where
  columns : Int := 0
  follower : Follower := .other
  waiting : List Selector := []
  deriving DecidableEq, Repr

namespace Ending

/-- Puts a character of some columns in front. No selector waits any longer. -/
def push (e : Ending) (columns : Int) (follower : Follower) : Ending :=
  ⟨e.columns + columns, follower, []⟩

/-- Puts a variation selector in front. Several of them can wait in front of a letter, but only the
last one does elsewhere. -/
def putSelector (e : Ending) (s : Selector) : Ending :=
  ⟨e.columns, e.follower.behind s, if e.follower.isLetter then e.waiting.insert s else [s]⟩

def putPlain (e : Ending) (c : Char) : Ending :=
  if c.toNat ≤ 0xA0 then e.push 1 .other
  else
    match Selector.ofChar? c with
    | some s => e.putSelector s
    | none =>
      if .text ∈ e.waiting ∧ inRanges textStyleRanges c then e.push 1 .other
      else if .wideQuote ∈ e.waiting ∧ inRanges [(0x2018, 0x2019), (0x201C, 0x201D)] c then
        e.push 2 .other
      else
        match e.follower.before c with
        | some (columns, follower) => e.push columns follower
        | none => e.push (charWidth c) (.ofChar c)

/-- Puts a character in front. One that a selector makes an emoji counts two, or nothing if it joins
the emoji behind it. -/
def put (e : Ending) (c : Char) : Ending :=
  if .emoji ∈ e.waiting then
    if inRanges emojiStyleRanges c then
      let joins := e.follower = .joinedEmoji ∨ e.follower = .joinedKeycap
      e.push (if joins then 0 else 2) .emoji
    else putPlain ⟨e.columns, e.follower.withoutSelector, e.waiting.erase .emoji⟩ c
  else e.putPlain c

end Ending

def textWidth (s : String) : Nat :=
  (s.toList.foldr (fun c (e : Ending) => e.put c) {}).columns.toNat

end TypeRecovery
