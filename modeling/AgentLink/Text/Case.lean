import AgentLink.Text.Cased

/-!
# Letter case

Two case mappings of Unicode text.

*Upper case into ASCII* (`Text.upperAscii?`) is the full upper case of a character when that is
made of ASCII characters only. Names that must equal an ASCII word up to case, such as request
methods and environment variables, compare through it: only the few characters whose upper case
is ASCII can matter, and among them are the dotless i, the long s, the sharp s and the Latin
ligatures.

*Lower case* (`Text.lower`) is the full lower case of every character, from a table of ranges
(`Text.lowerRules`) covering the Latin, Greek, Cyrillic, Armenian, Georgian and Cherokee
alphabets, the letterlike symbols, the Roman numerals, the circled and the full-width letters
and the Deseret, Vithkuqi and Adlam scripts. A capital dotted I lowers to a small i and a
combining dot, and a capital sigma at the end of a word to the final sigma: after a cased
letter and before none, looking past the case-ignorable characters (`Text.isCased`,
`Text.isCaseIgnorable`).
-/

namespace AgentLink.Text

/-- The upper case of a character when it is made of ASCII characters only: ASCII letters
map to capitals, other ASCII stays, and the dotless i, the long s, the sharp s and the Latin
ligatures map to their capital spellings. Any other character has an upper case beyond ASCII. -/
def upperAscii? (c : Char) : Option String :=
  let n := c.toNat
  if 0x61 ≤ n ∧ n ≤ 0x7A then some (String.singleton (Char.ofNat (n - 32)))
  else if n < 0x80 then some (String.singleton c)
  else match n with
    | 0x131 => some "I"
    | 0x17F => some "S"
    | 0xDF => some "SS"
    | 0xFB00 => some "FF"
    | 0xFB01 => some "FI"
    | 0xFB02 => some "FL"
    | 0xFB03 => some "FFI"
    | 0xFB04 => some "FFL"
    | 0xFB05 => some "ST"
    | 0xFB06 => some "ST"
    | _ => none

/-- The upper case of a text, if it is ASCII. -/
def upperAsciiText? (s : String) : Option String :=
  String.join <$> s.toList.mapM upperAscii?

/-- A rule of the lower-case table: the code points from `first` to `last` that lie a multiple
of `step` after `first` lower to the code point `shift` away. A step of one shifts a whole
range, a step of two maps the capitals of alternating capital and small pairs. -/
structure LowerRule where
  first : Nat
  last : Nat
  step : Nat := 1
  shift : Int
  deriving Repr, Inhabited

/-- Whether a rule maps a code point. -/
def LowerRule.covers (r : LowerRule) (n : Nat) : Bool :=
  r.first ≤ n && n ≤ r.last && (n - r.first) % r.step == 0

/-- A range shifted as a whole. -/
def shifted (first last : Nat) (shift : Int) : LowerRule :=
  { first, last, shift }

/-- Alternating capital and small pairs, the capitals from `first` on. -/
def paired (first last : Nat) : LowerRule :=
  { first, last, step := 2, shift := 1 }

/-- One capital and its small letter. -/
def single (capital small : Nat) : LowerRule :=
  { first := capital, last := capital, shift := (small : Int) - capital }

/-- The lower-case table, by ranges of capitals. -/
def lowerRules : List LowerRule :=
  [shifted 0x41 0x5A 32, shifted 0xC0 0xD6 32, shifted 0xD8 0xDE 32,
   paired 0x100 0x12E, paired 0x132 0x136, paired 0x139 0x147, paired 0x14A 0x176,
   single 0x178 0xFF, paired 0x179 0x17D,
   single 0x181 0x253, paired 0x182 0x184, single 0x186 0x254, single 0x187 0x188,
   single 0x189 0x256, single 0x18A 0x257, single 0x18B 0x18C, single 0x18E 0x1DD,
   single 0x18F 0x259, single 0x190 0x25B, single 0x191 0x192, single 0x193 0x260,
   single 0x194 0x263, single 0x196 0x269, single 0x197 0x268, single 0x198 0x199,
   single 0x19C 0x26F, single 0x19D 0x272, single 0x19F 0x275, paired 0x1A0 0x1A4,
   single 0x1A6 0x280, single 0x1A7 0x1A8, single 0x1A9 0x283, single 0x1AC 0x1AD,
   single 0x1AE 0x288, single 0x1AF 0x1B0, single 0x1B1 0x28A, single 0x1B2 0x28B,
   single 0x1B3 0x1B4, single 0x1B5 0x1B6, single 0x1B7 0x292, single 0x1B8 0x1B9,
   single 0x1BC 0x1BD, single 0x1C4 0x1C6, single 0x1C5 0x1C6, single 0x1C7 0x1C9,
   single 0x1C8 0x1C9, single 0x1CA 0x1CC, single 0x1CB 0x1CC, paired 0x1CD 0x1DB,
   paired 0x1DE 0x1EE, single 0x1F1 0x1F3, single 0x1F2 0x1F3, single 0x1F4 0x1F5,
   single 0x1F6 0x195, single 0x1F7 0x1BF, paired 0x1F8 0x21E, single 0x220 0x19E,
   paired 0x222 0x232, single 0x23A 0x2C65, single 0x23B 0x23C, single 0x23D 0x19A,
   single 0x23E 0x2C66, single 0x241 0x242, single 0x243 0x180, single 0x244 0x289,
   single 0x245 0x28C, paired 0x246 0x24E,
   paired 0x370 0x372, single 0x376 0x377, single 0x37F 0x3F3, single 0x386 0x3AC,
   shifted 0x388 0x38A 37, single 0x38C 0x3CC, shifted 0x38E 0x38F 63,
   shifted 0x391 0x3A1 32, shifted 0x3A3 0x3AB 32, single 0x3CF 0x3D7, paired 0x3D8 0x3EE,
   single 0x3F4 0x3B8, single 0x3F7 0x3F8, single 0x3F9 0x3F2, single 0x3FA 0x3FB,
   shifted 0x3FD 0x3FF (-130),
   shifted 0x400 0x40F 80, shifted 0x410 0x42F 32, paired 0x460 0x480, paired 0x48A 0x4BE,
   single 0x4C0 0x4CF, paired 0x4C1 0x4CD, paired 0x4D0 0x52E,
   shifted 0x531 0x556 48,
   shifted 0x10A0 0x10C5 7264, single 0x10C7 0x2D27, single 0x10CD 0x2D2D,
   shifted 0x13A0 0x13EF 38864, shifted 0x13F0 0x13F5 8,
   shifted 0x1C90 0x1CBA (-3008), shifted 0x1CBD 0x1CBF (-3008),
   paired 0x1E00 0x1E94, single 0x1E9E 0xDF, paired 0x1EA0 0x1EFE,
   shifted 0x1F08 0x1F0F (-8), shifted 0x1F18 0x1F1D (-8), shifted 0x1F28 0x1F2F (-8),
   shifted 0x1F38 0x1F3F (-8), shifted 0x1F48 0x1F4D (-8),
   { first := 0x1F59, last := 0x1F5F, step := 2, shift := -8 },
   shifted 0x1F68 0x1F6F (-8), shifted 0x1F88 0x1F8F (-8), shifted 0x1F98 0x1F9F (-8),
   shifted 0x1FA8 0x1FAF (-8), shifted 0x1FB8 0x1FB9 (-8), shifted 0x1FBA 0x1FBB (-74),
   single 0x1FBC 0x1FB3, shifted 0x1FC8 0x1FCB (-86), single 0x1FCC 0x1FC3,
   shifted 0x1FD8 0x1FD9 (-8), shifted 0x1FDA 0x1FDB (-100), shifted 0x1FE8 0x1FE9 (-8),
   shifted 0x1FEA 0x1FEB (-112), single 0x1FEC 0x1FE5, shifted 0x1FF8 0x1FF9 (-128),
   shifted 0x1FFA 0x1FFB (-126), single 0x1FFC 0x1FF3,
   single 0x2126 0x3C9, single 0x212A 0x6B, single 0x212B 0xE5, single 0x2132 0x214E,
   shifted 0x2160 0x216F 16, single 0x2183 0x2184, shifted 0x24B6 0x24CF 26,
   shifted 0x2C00 0x2C2F 48, single 0x2C60 0x2C61, single 0x2C62 0x26B, single 0x2C63 0x1D7D,
   single 0x2C64 0x27D, paired 0x2C67 0x2C6B, single 0x2C6D 0x251, single 0x2C6E 0x271,
   single 0x2C6F 0x250, single 0x2C70 0x252, single 0x2C72 0x2C73, single 0x2C75 0x2C76,
   shifted 0x2C7E 0x2C7F (-10815), paired 0x2C80 0x2CE2, paired 0x2CEB 0x2CED,
   single 0x2CF2 0x2CF3,
   paired 0xA640 0xA66C, paired 0xA680 0xA69A, paired 0xA722 0xA72E, paired 0xA732 0xA76E,
   paired 0xA779 0xA77B, single 0xA77D 0x1D79, paired 0xA77E 0xA786, single 0xA78B 0xA78C,
   single 0xA78D 0x265, paired 0xA790 0xA792, paired 0xA796 0xA7A8, single 0xA7AA 0x266,
   single 0xA7AB 0x25C, single 0xA7AC 0x261, single 0xA7AD 0x26C, single 0xA7AE 0x26A,
   single 0xA7B0 0x29E, single 0xA7B1 0x287, single 0xA7B2 0x29D, single 0xA7B3 0xAB53,
   paired 0xA7B4 0xA7C2, single 0xA7C4 0xA794, single 0xA7C5 0x282, single 0xA7C6 0x1D8E,
   paired 0xA7C7 0xA7C9, single 0xA7D0 0xA7D1, paired 0xA7D6 0xA7D8, single 0xA7F5 0xA7F6,
   shifted 0xFF21 0xFF3A 32,
   shifted 0x10400 0x10427 40, shifted 0x104B0 0x104D3 40,
   shifted 0x10570 0x1057A 39, shifted 0x1057C 0x1058A 39, shifted 0x1058C 0x10592 39,
   shifted 0x10594 0x10595 39, shifted 0x10C80 0x10CB2 64,
   shifted 0x118A0 0x118BF 32, shifted 0x16E40 0x16E5F 32, shifted 0x1E900 0x1E921 34]

/-- The lower case of a character: a capital dotted I lowers to `i` and a combining dot, a
capital in the table to its small letter, and any other character stays. -/
def lowerChar (c : Char) : String :=
  let n := c.toNat
  if n == 0x130 then "i̇"
  else match lowerRules.find? (·.covers n) with
    | some r => String.singleton (Char.ofNat (n + r.shift).toNat)
    | none => String.singleton c

/-- Whether a capital sigma ends a word: a cased letter comes before it and none after it,
looking past the characters whose case is ignored; `before` is the text before, reversed. -/
def endsWord (before after : List Char) : Bool :=
  (match before.dropWhile isCaseIgnorable with
    | c :: _ => isCased c
    | [] => false) &&
  (match after.dropWhile isCaseIgnorable with
    | c :: _ => !isCased c
    | [] => true)

/-- The lower case of the characters after `before`, the text before them reversed: a capital
sigma that ends a word lowers to the final sigma. -/
def lowerFrom (before : List Char) : List Char → String
  | [] => ""
  | c :: after =>
    (if c.toNat == 0x3A3 then (if endsWord before after then "ς" else "σ") else lowerChar c) ++
      lowerFrom (c :: before) after

/-- The lower case of a text, character by character, with the final sigma at the end of a
word. -/
def lower (s : String) : String :=
  lowerFrom [] s.toList

end AgentLink.Text
