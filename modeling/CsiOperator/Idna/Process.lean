import CsiOperator.Idna.Normalize
import CsiOperator.Idna.Punycode
/-!
Converting a domain to ASCII by UTS 46, as the URL standard asks: nontransitional processing,
hyphens allowed anywhere, the joiner and bidi rules checked, DNS lengths not checked, and the
forbidden domain code points of URLs refused.

The domain's bytes must be UTF-8. Its code points are mapped by the IDNA mapping table (any
disallowed code point makes the domain invalid), brought to Normalization Form C, and split into
labels at full stops. A label starting with `xn--` must be ASCII and valid Punycode, decoding to
a non-empty text that is not all ASCII, is already in form C, and holds only code points that
stand as they are (neither mapped nor ignored nor disallowed, and no full stop or forbidden
ASCII). Every label, decoded where it was Punycode, must not start with a mark, and a zero
width joiner or non-joiner in it must be allowed by its neighbours. When any label holds a
right-to-left code point, every label must satisfy the bidi rule.

A domain of lowercase ASCII letters and full stops passes as it is. The ASCII form of a valid
domain keeps its ASCII labels and writes every other label as Punycode after `xn--`; here only
whether that form is empty and whether it ends in a number matter, so such labels are written as
`xn--` alone, which decides both the same way.
-/

namespace CsiOperator.Idna

/-- The ASCII code points a domain in a URL cannot hold: the controls, space and delete, and
`%#/:<>?@[\]^|`. -/
def forbiddenAscii (c : Char) : Bool :=
  c.toNat ≤ 0x20 || c.toNat == 0x7F || "%#/:<>?@[\\]^|".toList.contains c

/-- The text of a domain after mapping, unless it holds a disallowed code point. -/
def mapDomain (cs : List Char) : Option (List Char) :=
  cs.foldr (fun c acc => acc.bind fun rest =>
    match status c with
    | .valid | .deviation => some (c :: rest)
    | .ignored => some rest
    | .mapped image => some (image ++ rest)
    | .disallowed => none) (some [])

/-- The code points of a Punycode label after its `xn--`, if they make a valid label. -/
def decodeLabel (label : List Char) : Option (List Char) := do
  if label.any (·.toNat ≥ 0x80) then none
  let decoded ← Punycode.decode (label.drop 4)
  if decoded.isEmpty || decoded.all (·.toNat < 0x80) then none
  if decoded.any fun c => !(status c).keeps || (c.toNat < 0x80 && (forbiddenAscii c || c == '.')) then none
  if nfc decoded != decoded then none
  some decoded

/-- Whether the first code point, of those given, whose joining type is not transparent joins
as `want` asks; a code point that does not join fails. -/
def joinsFirst (want : JoiningType → Bool) : List Char → Bool
  | [] => false
  | c :: cs =>
    match joiningType c with
    | some .transparent => joinsFirst want cs
    | some t => want t
    | none => false

/-- Whether the zero width joiners and non-joiners of a label are allowed, given the code points
before the rest (nearest first). A joiner needs a virama just before it; a non-joiner is allowed
after a virama, or between a code point joining to the left and one joining to the right, with
only transparent code points between. -/
def joinersAllowed : List Char → List Char → Bool
  | _, [] => true
  | before, c :: after =>
    let fine :=
      if c.toNat == 0x200C || c.toNat == 0x200D then
        match before with
        | [] => false
        | p :: _ =>
          combiningClass p == 9 ||
            (c.toNat == 0x200C && joinsFirst (fun t => t == .left || t == .dual) before &&
              joinsFirst (fun t => t == .right || t == .dual) after)
      else true
    fine && joinersAllowed (c :: before) after

/-- Whether a label, decoded where it was Punycode, is valid: it does not start with a mark, and
its joiners are allowed. -/
def labelValid (label : List Char) : Bool :=
  (match label with
    | c :: _ => !isMark c
    | [] => true) && joinersAllowed [] label

/-- Whether a code point is written right to left or is an Arabic digit. -/
def rightToLeft (c : Char) : Bool :=
  let b := bidiClass c
  b == .R || b == .AL || b == .AN

/-- The last code point of a label that is not a nonspacing mark, if any. -/
def lastSpacing (label : List Char) : Option Char :=
  label.reverse.find? fun c => bidiClass c != .NSM

/-- The bidi rule for one label of a domain that has right-to-left labels. A label starting left
to right holds only left-to-right, European digit and neutral classes and ends, before any
nonspacing marks, left to right or with a European digit. A label starting right to left holds
no left-to-right code point, does not mix European and Arabic digits, and ends right to left or
with a digit. Other first code points are refused; empty labels pass. -/
def bidiValid (label : List Char) : Bool :=
  match label with
  | [] => true
  | first :: _ =>
    let cls := label.map bidiClass
    let ends (ok : BidiClass → Bool) : Bool := ((lastSpacing label).map fun c => ok (bidiClass c)).getD true
    match bidiClass first with
    | .L =>
      cls.all (fun b => ([.L, .EN, .ES, .CS, .ET, .ON, .BN, .NSM] : List BidiClass).contains b) &&
        ends fun b => b == .L || b == .EN
    | .R | .AL =>
      cls.all (fun b => ([.R, .AL, .AN, .EN, .ES, .CS, .ET, .ON, .BN, .NSM] : List BidiClass).contains b) &&
        ends (fun b => b == .R || b == .AL || b == .EN || b == .AN) &&
        !(cls.contains .EN && cls.contains .AN)
    | _ => false

/-- Splits a text into labels at full stops. -/
def labels (cs : List Char) : List (List Char) :=
  let (cur, done) := cs.foldl (fun (cur, done) c =>
    if c == '.' then ([], cur.reverse :: done) else (c :: cur, done)) (([] : List Char), ([] : List (List Char)))
  (cur.reverse :: done).reverse

/-- Converts a domain, given as the bytes of its percent-decoded text, to ASCII; none when it is
not a valid domain. -/
def toAscii (bytes : ByteArray) : Option String := do
  if bytes.toList.all fun b => (97 ≤ b && b ≤ 122) || b == 46 then
    return String.ofList (bytes.toList.map fun b => Char.ofNat b.toNat)
  let text ← String.fromUTF8? bytes
  let mapped ← mapDomain text.toList
  if mapped.any fun c => c.toNat < 0x80 && forbiddenAscii c then none
  let parts := labels (nfc mapped)
  let decoded ← parts.mapM fun l =>
    if l.take 4 == ['x', 'n', '-', '-'] then decodeLabel l else some l
  if !decoded.all labelValid then none
  if decoded.any (·.any rightToLeft) && !decoded.all bidiValid then none
  some (".".intercalate (parts.map fun l => if l.all (·.toNat < 0x80) then String.ofList l else "xn--"))

end CsiOperator.Idna
