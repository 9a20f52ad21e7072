/-!
# Addresses of machines

The numbers of a machine that may stand in a URL in place of its name: four of up to 255, or eight
groups of hexadecimal digits, of which a run of zeros may be left out and the last two may be
written as four numbers.
-/

namespace ProseTrace.Url

/-- A number of up to 255, without needless zeros. -/
def isOctet (part : List Char) : Bool :=
  !part.isEmpty && part.length ≤ 3 && part.all Char.isDigit &&
    (part.head? != some '0' || part.length == 1) &&
    part.foldl (fun n c => 10 * n + (c.toNat - '0'.toNat)) 0 ≤ 255

def isIpv4 (address : List Char) : Bool :=
  let parts := address.splitOn '.'
  parts.length == 4 && parts.all isOctet

/-- The text could be meant as four numbers: four runs of digits with dots between them. -/
def resemblesIpv4 (host : List Char) : Bool :=
  let parts := host.splitOn '.'
  parts.length == 4 && parts.all fun part => !part.isEmpty && part.all Char.isDigit

private def isHexDigit (c : Char) : Bool :=
  c.isDigit || ('a' ≤ c && c ≤ 'f') || ('A' ≤ c && c ≤ 'F')

def isGroup (part : List Char) : Bool :=
  !part.isEmpty && part.length ≤ 4 && part.all isHexDigit

def groups (address : List Char) : List (List Char) :=
  let parts := address.splitOn ':'
  if parts.getLast?.any isIpv4 then parts.dropLast ++ [['0'], ['0']] else parts

def beside (parts : List (List Char)) : List (List Char) := if parts = [[]] then [] else parts

/-- Eight groups, or less around a gap. -/
def isGrouped (parts : List (List Char)) : Bool :=
  let inner := parts.drop 1 |>.dropLast
  match inner.findIdx? List.isEmpty with
  | some i =>
    let written := beside (parts.take (i + 1)) ++ beside (parts.drop (i + 2))
    written.length ≤ 7 && written.all isGroup
  | none => parts.length == 8 && parts.all isGroup

/-- An address of eight groups, perhaps with the name of a network behind a percent sign. -/
def isIpv6 (address : List Char) : Bool :=
  match address.splitOn '%' with
  | [groupsOnly] => isGrouped (groups groupsOnly)
  | [written, zone] => !zone.isEmpty && isGrouped (groups written)
  | _ => false

end ProseTrace.Url
