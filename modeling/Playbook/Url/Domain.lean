import Playbook.Text.Printable
import Playbook.Url.Characters
import Playbook.Url.Punycode
import Playbook.Url.Address

/-!
Names of hosts. A name is folded to lower case and to plain spellings, and then each label between
points has to be one that can be written in ASCII: without forbidden characters, not starting with
a mark, and with its letters running in one direction.
-/

namespace Playbook.Url

open Text (inRanges isPrintable)

/-- ASCII characters that no host name holds. -/
def isForbidden (c : Char) : Bool :=
  c.toNat ≤ 0x20 || c.toNat == 0x7f ||
    ['%', '#', '/', ':', '<', '>', '?', '@', '[', '\\', ']', '^', '|'].contains c

/-- Invisible characters that a name may hold and that are left out of it. -/
def isIgnored (c : Char) : Bool :=
  let n := c.toNat
  n == 0xad || n == 0x34f || (0x180b ≤ n && n ≤ 0x180d) || n == 0x180f || n == 0x200b ||
    n == 0x2060 || n == 0x2064 || (0xfe00 ≤ n && n ≤ 0xfe0f) || n == 0xfeff ||
    (0x1bca0 ≤ n && n ≤ 0x1bca3) || (0xe0100 ≤ n && n ≤ 0xe01ef)

/-- The two characters that keep letters apart or join them. -/
def isJoiner (c : Char) : Bool := c.toNat == 0x200c || c.toNat == 0x200d

/-- Visible characters that no name holds. -/
def isExcluded (c : Char) : Bool :=
  let n := c.toNat
  (0x2ff0 ≤ n && n ≤ 0x2ffb) || n == 0x115f || n == 0x1160 || n == 0x3164 || n == 0xffa0 ||
    n == 0x17b4 || n == 0x17b5 || n == 0xfffc || n == 0xfffd

/-- Full stops of other scripts. -/
def isIdeographicStop (c : Char) : Bool := c.toNat == 0x3002 || c.toNat == 0xff61

/-- The image of a code point in the ranges that fold into single ASCII characters. -/
def asciiImage? (code : Nat) : Option Char :=
  match asciiImages.find? fun r => r.1 ≤ code && code ≤ r.2.1 with
  | some (first, _, image) => some (Char.ofNat (image + (code - first)))
  | none => none

/-- The folded form of one character; `none` when no name holds it. -/
def fold? (c : Char) : Option (List Char) :=
  if c.toNat < 128 then (if isForbidden c then none else some [c.toLower])
  else if isIgnored c then some []
  else if isJoiner c then some [c]
  else if isIdeographicStop c then some ['.']
  else if !isPrintable c || isExcluded c || inRanges forbiddenRanges c.toNat then none
  else match asciiImage? c.toNat with
    | some image => some [image]
    | none =>
      match asciiWords.find? fun w => w.1 == c.toNat with
      | some (_, word) => some word.toList
      | none => some [c]

/-- The folded form of a name. -/
def foldName? : List Char → Option (List Char)
  | [] => some []
  | c :: rest =>
    match fold? c, foldName? rest with
    | some cs, some more => some (cs ++ more)
    | _, _ => none

def isNonspacing (c : Char) : Bool := inRanges nonspacingRanges c.toNat

def isMark (c : Char) : Bool := isNonspacing c || inRanges spacingMarkRanges c.toNat

def isRightToLeft (c : Char) : Bool := inRanges rightToLeftRanges c.toNat

def isArabicNumber (c : Char) : Bool := inRanges arabicNumberRanges c.toNat

def isNumber (c : Char) : Bool := inRanges numberRanges c.toNat

def isNeutral (c : Char) : Bool :=
  isNonspacing c || isJoiner c || inRanges neutralRanges c.toNat

/-- The characters that a joiner may have before it, nearest first, and after it. -/
def joinerAllowed (joiner : Char) (before after : List Char) : Bool :=
  match before with
  | [] => false
  | last :: _ =>
    if inRanges viramaRanges last.toNat then true
    else if joiner.toNat == 0x200d then false
    else
      match before.dropWhile isNonspacing, after.dropWhile isNonspacing with
      | l :: _, r :: _ =>
        (inRanges leftJoiningRanges l.toNat || inRanges dualJoiningRanges l.toNat) &&
          (inRanges rightJoiningRanges r.toNat || inRanges dualJoiningRanges r.toNat)
      | _, _ => false

/-- Whether every joiner of a label stands where letters join. -/
def joinersAllowed : List Char → List Char → Bool
  | _, [] => true
  | before, c :: rest =>
    (!isJoiner c || joinerAllowed c before rest) && joinersAllowed (c :: before) rest

/-- Whether a name holds letters or numbers that run from right to left. -/
def runsBothWays (name : List Char) : Bool :=
  name.any fun c => isRightToLeft c || isArabicNumber c

/-- Whether a label of a name that runs both ways keeps to one direction. -/
def keepsDirection (label : List Char) : Bool :=
  let lastStrong := (label.reverse.dropWhile isNonspacing).head?
  match label, lastStrong with
  | first :: _, some last =>
    if isRightToLeft first then
      label.all (fun c => isRightToLeft c || isArabicNumber c || isNumber c || isNeutral c) &&
        (isRightToLeft last || isArabicNumber last || isNumber last) &&
        !(label.any isNumber && label.any isArabicNumber)
    else
      !isNumber first && !isNeutral first && !isArabicNumber first &&
        label.all (fun c => !isRightToLeft c && !isArabicNumber c) && !isNeutral last
  | _, _ => true

/-- Whether a character stands for itself in a folded name. -/
def isFolded (c : Char) : Bool := fold? c == some [c]

/-- The characters of a folded label; a label behind `xn--` stands for what it encodes. -/
def decodeLabel? (label : List Char) : Option (List Char) :=
  match label with
  | 'x' :: 'n' :: '-' :: '-' :: code =>
    match Punycode.decode? code with
    | none => none
    | some cs => if cs.all isFolded && cs.any (fun c => 128 ≤ c.toNat) then some cs else none
  | _ => some label

/-- Whether decoded characters make up a label. -/
def isLabel (cs : List Char) : Bool :=
  match cs with
  | [] => true
  | first :: _ => !isMark first && joinersAllowed [] cs

/-- The ASCII-compatible view of a name: the folded name, if all its labels are allowed. -/
def asciiName? (cs : List Char) : Option (List Char) :=
  match foldName? cs with
  | none => none
  | some name =>
    let labels := (splitAt '.' name).map decodeLabel?
    if labels.all Option.isSome then
      let decoded := labels.filterMap id
      let directed := !decoded.any runsBothWays || decoded.all keepsDirection
      if decoded.all isLabel && directed then some name else none
    else none

end Playbook.Url
