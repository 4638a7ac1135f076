import AdminPanel.Text.Blank

/-!
# Hosts

The host of an authority, and whether a certificate can be issued for it: it must be a domain name
or an address of four numbers.
-/

namespace AdminPanel.Address

/-- The host of an authority: without user, without port, brackets included. -/
def hostOf (authority : String) : List Char :=
  let hostAndPort := (authority.toList.reverse.takeWhile (· != '@')).reverse
  match hostAndPort with
  | '[' :: _ => hostAndPort.takeWhile (· != ']') ++ [']']
  | _ => hostAndPort.takeWhile (· != ':')

/-- The parts of a text between points. -/
def splitDots (cs : List Char) : List (List Char) :=
  cs.foldr (fun c parts =>
    if c = '.' then [] :: parts
    else
      match parts with
      | [] => [[c]]
      | part :: rest => (c :: part) :: rest) [[]]

/-- A label of a domain name: at most 63 letters, digits, underscores and hyphens, no hyphen at
either end. -/
def isLabel (cs : List Char) : Bool :=
  !cs.isEmpty && cs.length ≤ 63
    && cs.all (fun c => c.isAlpha || c.isDigit || c == '_' || c == '-')
    && cs.head? != some '-' && cs.getLast? != some '-'

/-- The labels of a domain name, the last one first. A point may end the name: nothing follows
it. -/
def labelsFromLast (cs : List Char) : List (List Char) :=
  match (splitDots cs).reverse with
  | [] :: labels => labels
  | labels => labels

/-- A domain name: at most 253 characters in labels, the last of which is not a number. -/
def isDomainName (cs : List Char) : Bool :=
  cs.length ≤ 253 && (labelsFromLast cs).all isLabel
    && (labelsFromLast cs).head?.any (fun last => !last.all Char.isDigit)

/-- A number from 0 to 255 without leading zeros. -/
def isOctet (cs : List Char) : Bool :=
  !cs.isEmpty && cs.length ≤ 3 && cs.all Char.isDigit
    && (cs.head? != some '0' || cs.length == 1)
    && cs.foldl (fun n c => n * 10 + (c.toNat - '0'.toNat)) 0 ≤ 255

/-- Four numbers with points between them. -/
def isAddressOfFour (cs : List Char) : Bool :=
  let parts := splitDots cs
  parts.length == 4 && parts.all isOctet

/-- Whether a certificate can be issued for the host of an authority. -/
def isCertifiable (authority : String) : Bool :=
  isDomainName (hostOf authority) || isAddressOfFour (hostOf authority)

end AdminPanel.Address
