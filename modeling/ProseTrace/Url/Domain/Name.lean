import ProseTrace.Url.Domain.Context
import ProseTrace.Url.Domain.Direction
import ProseTrace.Url.Domain.Letters
import ProseTrace.Url.Domain.NormalForm
import ProseTrace.Url.Domain.Punycode

/-!
# Internationalised domain names

A domain name is a row of labels with dots between them, and perhaps one behind the last.  A label
holds small letters, digits and hyphens of any script (RFC 5891).  In the form that is sent, labels
beyond ASCII are encoded; the length of a label and of the whole is limited in that form.
-/

namespace ProseTrace.Url.Domain

def isDot (c : Char) : Bool :=
  c == '.' || c == '\u3002' || c == '\uff0e' || c == '\uff61'

/-- All characters behind those in `before` (the nearest first) may stand where they do. -/
def mayStand (label before : List Char) : List Char → Bool
  | [] => true
  | c :: rest =>
    (isLetter c || suits label before c rest) && mayStand label (c :: before) rest

/-- Hyphens stand neither at an end nor as a pair behind two characters. -/
def keepsHyphens (label : List Char) : Bool :=
  label.head? != some '-' && label.getLast? != some '-' && (label.drop 2).take 2 != ['-', '-']

def isLabel (label : List Char) : Bool :=
  (label.head?.any fun c => !isMark c) && keepsHyphens label && mayStand label [] label &&
    normalForm label == label && isDirected label

private def isAscii (label : List Char) : Bool := label.all fun c => c.toNat < 0x80

def encodedPrefix : List Char := ['x', 'n', '-', '-']

/-- The rules on a label in the form that is sent; what is encoded in it is a label. -/
def isSentLabel (label : List Char) : Bool :=
  if label.take 4 = encodedPrefix then
    let code := label.drop 4
    !code.isEmpty && code.getLast? != some '-' && (Punycode.decode? code).any isLabel
  else isLabel label

def maxLabelSize : Nat := 63

def maxNameSize : Nat := 253

/-- A label in the form that is sent; that form is never shorter than the label. -/
def sendLabel? (label : List Char) : Option (List Char) :=
  if maxLabelSize < label.length then none
  else if isAscii label then if isSentLabel label then some label else none
  else if isLabel label then
    let sent := encodedPrefix ++ Punycode.encode label
    if sent.length ≤ maxLabelSize then some sent else none
  else none

def send? (name : List Char) : Option (List Char) := do
  let parts := name.splitOnP isDot
  let isRooted := parts.getLast? = some []
  let sent ← (if isRooted then parts.dropLast else parts).mapM sendLabel?
  let joined := ['.'].intercalate sent
  if joined.length ≤ maxNameSize then return if isRooted then joined ++ ['.'] else joined
  else none

end ProseTrace.Url.Domain
