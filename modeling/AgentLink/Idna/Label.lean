import AgentLink.Idna.Class
import AgentLink.Idna.Joining
import AgentLink.Text.Combining
import AgentLink.Text.Quote

/-!
# Checking a label

A label of an internationalized host name must pass the checks of IDNA 2008, which
`Idna.checkLabel` applies in order, stopping at the first that fails (`Idna.LabelError`):

1. the label is not empty, and is in the composed normal form;
2. it has no hyphens in both its third and fourth places, and neither starts nor ends with one;
3. it does not start with a mark;
4. from the first character on, each is valid (`Idna.isValid`), or valid where it stands
   (`Idna.contextAllowed`);
5. when it holds a right-to-left character or an Arabic number, it keeps the bidirectional
   rules (`Idna.checkBidi`): it starts with a left-to-right or a right-to-left letter, holds
   only the classes its direction admits, in a right-to-left label does not mix Arabic and
   European numbers, and ends, marks aside, in a letter or number of its direction.

A label is read as its code points, so a lone surrogate is a code point like any other, and never
valid. The messages count positions from one.
-/

namespace AgentLink.Idna

/-- Whether a code point is a Greek letter. -/
def isGreek (n : Nat) : Bool :=
  (0x370 ≤ n && n ≤ 0x3FF && n != 0x374 && n != 0x37E && n != 0x385 && n != 0x387 &&
    !(0x3E2 ≤ n && n ≤ 0x3EF)) ||
  (0x1D26 ≤ n && n ≤ 0x1D2A) || (0x1D5D ≤ n && n ≤ 0x1D61) || (0x1D66 ≤ n && n ≤ 0x1D6A) ||
  n == 0x1DBF || (0x1F00 ≤ n && n ≤ 0x1FFE) || n == 0x2126 || n == 0xAB65 ||
  (0x10140 ≤ n && n ≤ 0x1018E) || n == 0x101A0 || (0x1D200 ≤ n && n ≤ 0x1D245)

/-- Whether a code point is a Hebrew character. -/
def isHebrew (n : Nat) : Bool :=
  (0x591 ≤ n && n ≤ 0x5F4) || (0xFB1D ≤ n && n ≤ 0xFB4F)

/-- Whether a code point is a hiragana, katakana or Han character. -/
def isJapaneseOrHan (n : Nat) : Bool :=
  (0x3041 ≤ n && n ≤ 0x309F && !(0x3099 ≤ n && n ≤ 0x309C)) ||
  (0x30A1 ≤ n && n ≤ 0x30FF && n != 0x30FB && n != 0x30FC) ||
  (0x31F0 ≤ n && n ≤ 0x31FF) || (0x32D0 ≤ n && n ≤ 0x32FE) || (0x3300 ≤ n && n ≤ 0x3357) ||
  (0xFF66 ≤ n && n ≤ 0xFF9D && n != 0xFF70) ||
  (0x1AFF0 ≤ n && n ≤ 0x1B16F) || n == 0x1F200 ||
  (0x2E80 ≤ n && n ≤ 0x2FD5) || n == 0x3005 || n == 0x3007 || (0x3021 ≤ n && n ≤ 0x3029) ||
  (0x3038 ≤ n && n ≤ 0x303B) || (0x3400 ≤ n && n ≤ 0x4DBF) || (0x4E00 ≤ n && n ≤ 0x9FFF) ||
  (0xF900 ≤ n && n ≤ 0xFAD9) || (0x16FE2 ≤ n && n ≤ 0x16FF1 && n != 0x16FE4) ||
  (0x20000 ≤ n && n ≤ 0x3134A)

/-- The character of a code point; a lone surrogate reads as the null character, which is in no
class the checks look for. -/
def charOf (n : Nat) : Char :=
  Char.ofNat n

/-- The character at a position of a label, the null character past its ends. -/
def charAt (ns : List Nat) (i : Nat) : Char :=
  charOf (ns.getD i 0)

/-- Whether the character at `pos` of a label, valid only in context, stands where its rule
admits it. -/
def contextAllowed (ns : List Nat) (pos : Nat) : ContextRule → Bool
  | .nonJoiner => (0 < pos && Text.combiningClass (charAt ns (pos - 1)) == 9) ||
      breaksJoin ((ns.take pos).reverse.map charOf) ((ns.drop (pos + 1)).map charOf)
  | .joiner => 0 < pos && Text.combiningClass (charAt ns (pos - 1)) == 9
  | .middleDot => 0 < pos && pos + 1 < ns.length && ns.getD (pos - 1) 0 == 0x6C &&
      ns.getD (pos + 1) 0 == 0x6C
  | .keraia => pos + 1 < ns.length && isGreek (ns.getD (pos + 1) 0)
  | .geresh => 0 < pos && isHebrew (ns.getD (pos - 1) 0)
  | .katakanaDot => ns.any isJapaneseOrHan
  | .arabicDigit => !ns.any fun n => 0x6F0 ≤ n && n ≤ 0x6F9
  | .extendedArabicDigit => !ns.any fun n => 0x660 ≤ n && n ≤ 0x669

/-- The kinds of error about a host name: a general one, and three narrower ones. -/
inductive ErrorKind where
  | general
  | bidi
  | invalidCodepoint
  | codepointContext
  deriving DecidableEq, Repr

/-- The name of a kind of host name error. -/
def ErrorKind.name : ErrorKind → String
  | .general => "IDNAError"
  | .bidi => "IDNABidiError"
  | .invalidCodepoint => "InvalidCodepoint"
  | .codepointContext => "InvalidCodepointContext"

/-- Why a label fails the checks. -/
inductive LabelError where
  | empty
  | notComposed
  | hyphensInThirdAndFourth
  | hyphenAtEnd
  | startsWithMark
  /-- A joiner that stands where its rule does not admit it: its code point, its position,
  and the label. The protocol reports it as a joiner next to a character it does not know. -/
  | joiner (code pos : Nat) (label : List Nat)
  /-- Another character valid only in context, where its rule does not admit it. -/
  | outOfContext (code pos : Nat) (label : List Nat)
  /-- A character that is never valid. -/
  | invalid (code pos : Nat) (label : List Nat)
  /-- A label with right-to-left characters that starts with neither kind of letter. -/
  | firstDirection (label : List Nat)
  /-- A class that a right-to-left label does not admit, at a position. -/
  | rtlDirection (pos : Nat)
  /-- Arabic and European numbers in one right-to-left label. -/
  | mixedNumbers
  /-- A class that a left-to-right label does not admit, at a position. -/
  | ltrDirection (pos : Nat)
  /-- A label that ends, marks aside, in no letter or number of its direction. -/
  | badEnding
  deriving DecidableEq, Repr

/-- A code point as `U+` and at least four upper-case hexadecimal digits. -/
def codeName (n : Nat) : String :=
  "U+" ++ String.ofList ((Text.hexPadded 4 n).toList.map Char.toUpper)

/-- A label as the program quotes it. -/
def quoteLabel (ns : List Nat) : String :=
  Text.quote (String.ofList (Text.writeCodePoints ns))

/-- The message of a failed check. -/
def LabelError.message : LabelError → String
  | .empty => "Empty Label"
  | .notComposed => "Label must be in Normalization Form C"
  | .hyphensInThirdAndFourth => "Label has disallowed hyphens in 3rd and 4th position"
  | .hyphenAtEnd => "Label must not start or end with a hyphen"
  | .startsWithMark => "Label begins with an illegal combining character"
  | .joiner n pos l =>
    "Unknown codepoint adjacent to joiner " ++ codeName n ++ " at position " ++ toString pos ++
      " in " ++ quoteLabel l
  | .outOfContext n pos l =>
    "Codepoint " ++ codeName n ++ " not allowed at position " ++ toString pos ++ " in " ++
      quoteLabel l
  | .invalid n pos l =>
    "Codepoint " ++ codeName n ++ " at position " ++ toString pos ++ " of " ++ quoteLabel l ++
      " not allowed"
  | .firstDirection l =>
    "First codepoint in label " ++ quoteLabel l ++ " must be directionality L, R or AL"
  | .rtlDirection pos =>
    "Invalid direction for codepoint at position " ++ toString pos ++ " in a right-to-left label"
  | .mixedNumbers => "Can not mix numeral types in a right-to-left label"
  | .ltrDirection pos =>
    "Invalid direction for codepoint at position " ++ toString pos ++ " in a left-to-right label"
  | .badEnding => "Label ends with illegal codepoint directionality"

/-- The kind of a failed check. -/
def LabelError.kind : LabelError → ErrorKind
  | .outOfContext .. => .codepointContext
  | .invalid .. => .invalidCodepoint
  | .firstDirection _ | .rtlDirection _ | .mixedNumbers | .ltrDirection _ | .badEnding => .bidi
  | _ => .general

/-- Checks the characters of a label from position `pos` on. -/
def checkCharacters (label : List Nat) : Nat → List Nat → Except LabelError Unit
  | _, [] => .ok ()
  | pos, n :: rest =>
    if !Text.isSurrogate n && isValid (charOf n) then checkCharacters label (pos + 1) rest
    else
      match (if Text.isSurrogate n then none else contextual? (charOf n)) with
      | some rule =>
        if contextAllowed label pos rule then checkCharacters label (pos + 1) rest
        else if rule == .nonJoiner || rule == .joiner then .error (.joiner n (pos + 1) label)
        else .error (.outOfContext n (pos + 1) label)
      | none => .error (.invalid n (pos + 1) label)

/-- The bidirectional class of a code point of a label that passed the character checks. -/
def classOf (n : Nat) : BidiClass :=
  bidiClass (charOf n)

/-- Follows a right-to-left label from position `pos`: whether it ends well so far, and the
kind of number seen first. -/
def checkRtl : Nat → Bool → Option BidiClass → List BidiClass → Except LabelError Unit
  | _, ending, _, [] => if ending then .ok () else .error .badEnding
  | pos, ending, number, k :: rest =>
    if k == .ltr then .error (.rtlDirection pos)
    else
      let ending :=
        if k == .rtl || k == .europeanNumber || k == .arabicNumber then true
        else if k == .mark then ending else false
      if k == .arabicNumber || k == .europeanNumber then
        match number with
        | some first => if first != k then .error .mixedNumbers else checkRtl (pos + 1) ending number rest
        | none => checkRtl (pos + 1) ending (some k) rest
      else checkRtl (pos + 1) ending number rest

/-- Follows a left-to-right label from position `pos`: whether it ends well so far. -/
def checkLtr : Nat → Bool → List BidiClass → Except LabelError Unit
  | _, ending, [] => if ending then .ok () else .error .badEnding
  | pos, ending, k :: rest =>
    if k == .rtl || k == .arabicNumber then .error (.ltrDirection pos)
    else
      let ending :=
        if k == .ltr || k == .europeanNumber then true
        else if k == .mark then ending else false
      checkLtr (pos + 1) ending rest

/-- Checks the bidirectional rules of a label, which apply only when it holds a right-to-left
character or an Arabic number. -/
def checkBidi (label : List Nat) : Except LabelError Unit :=
  let classes := label.map classOf
  if !classes.any (fun k => k == .rtl || k == .arabicNumber) then .ok ()
  else
    match classes.head? with
    | some .rtl => checkRtl 1 false none classes
    | some .ltr => checkLtr 1 false classes
    | _ => .error (.firstDirection label)

/-- Whether the hyphens of a label are where they may be; if not, why. -/
def checkHyphens (label : List Nat) : Except LabelError Unit :=
  if label.getD 2 0 == 0x2D && label.getD 3 0 == 0x2D then .error .hyphensInThirdAndFourth
  else if label.head? == some 0x2D || label.getLast? == some 0x2D then .error .hyphenAtEnd
  else .ok ()

/-- Applies every check of the protocol to a label, in order. -/
def checkLabel (label : List Nat) : Except LabelError Unit := do
  if label.isEmpty then throw .empty
  if !Text.isComposed label then throw .notComposed
  checkHyphens label
  if label.head?.any (fun n => !Text.isSurrogate n && Text.isMark (charOf n)) then
    throw .startsWithMark
  checkCharacters label 0 label
  checkBidi label

/-- Whether a label passes every check of the protocol. -/
def labelAllowed (label : List Nat) : Bool :=
  match checkLabel label with
  | .ok () => true
  | .error _ => false

end AgentLink.Idna
