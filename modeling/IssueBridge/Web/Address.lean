import IssueBridge.Text.DecimalDigit
import IssueBridge.Text.Hex
import IssueBridge.Web.Message

/-! # Addresses

The framework puts the full address of a request together from the header `Host` and the path, as they were sent, and
takes it apart again. So marks in the header can make another part of the address the path, or leave an
address that cannot be read. The routes see the path that was sent.
-/

namespace IssueBridge.Web

namespace Address

/-- One of the eight blocks of an address of version 6. -/
def isBlock (cs : List Char) : Bool :=
  !cs.isEmpty && cs.length ≤ 4 && cs.all fun c => (Text.Hex.value? c).isSome

/-- A number below 256, without zeros in front. -/
def isOctet (cs : List Char) : Bool :=
  !cs.isEmpty && cs.length ≤ 3 && cs.all (fun c => '0' ≤ c && c ≤ '9') &&
    (cs = ['0'] || cs.head? ≠ some '0') && Text.numberFrom 0 cs ≤ 255

/-- Two blocks may be written as an address of version 4. -/
def isVersion4 (cs : List Char) : Bool :=
  let octets := cs.splitOn '.'
  octets.length = 4 && octets.all isOctet

/-- The blocks on one side of a gap; a gap may stand at the end. -/
def sideBlocks? (blocks : List (List Char)) : Option Nat :=
  if blocks = [[]] then some 0
  else if blocks.all isBlock then some blocks.length
  else none

/-- Eight blocks, or fewer with one gap between colons. -/
def areBlocks (blocks : List (List Char)) : Bool :=
  let inner := (blocks.drop 1).dropLast
  match inner.count [] with
  | 0 => blocks.length = 8 && blocks.all isBlock
  | 1 =>
    let gap := 1 + inner.idxOf []
    match sideBlocks? (blocks.take gap), sideBlocks? (blocks.drop (gap + 1)) with
    | some before, some after => before + after ≤ 7
    | _, _ => false
  | _ => false

/-- An address of version 6, perhaps with a zone behind a percent sign. -/
def isVersion6 (cs : List Char) : Bool :=
  let address := cs.takeWhile (· ≠ '%')
  let zone := cs.drop address.length
  let blocks := address.splitOn ':'
  let last := blocks.getLastD []
  let written :=
    if last.contains '.' then
      if isVersion4 last then some (blocks.dropLast ++ [['0'], ['0']]) else none
    else some blocks
  (zone = [] || 2 ≤ zone.length && zone.count '%' = 1) && 3 ≤ blocks.length && written.any areBlocks

/-- An address of a version to come. -/
def isLaterVersion (cs : List Char) : Bool :=
  let version := (cs.drop 1).takeWhile fun c => (Text.Hex.value? c).isSome
  let rest := cs.drop (1 + version.length)
  cs.head? = some 'v' && !version.isEmpty && rest.head? = some '.' && 2 ≤ rest.length

def isBracketed (cs : List Char) : Bool := if cs.head? = some 'v' then isLaterVersion cs else isVersion6 cs

/-- What stands between the scheme and the path can be read: brackets stand around an address that is bracketed, or
there are none. -/
def isPlace (cs : List Char) : Bool :=
  if cs.contains '[' && cs.contains ']' then
    isBracketed (((cs.dropWhile (· ≠ '[')).drop 1).takeWhile (· ≠ ']'))
  else !cs.contains '[' && !cs.contains ']'

def isBreak (c : Char) : Bool := c = '\t' || c = '\n' || c = '\r'

def isEnd (c : Char) : Bool := c = '?' || c = '#'

/-- The path of an address that is put together from a host and a path, if it can be read. Tabs and line ends are no
part of it. -/
def path? (host path : String) : Option String :=
  let cs := (host ++ path).toList.filter (!isBreak ·)
  let place := cs.takeWhile fun c => c ≠ '/' && !isEnd c
  if isPlace place then some (String.ofList ((cs.drop place.length).takeWhile (!isEnd ·))) else none

end Address

/-- The path as the full address shows it, if that can be read. Without the header, the name of the server stands in
the address, which has no marks. -/
def Request.shownPath? (r : Request) : Option String :=
  Address.path? ((r.header? "host").getD "") r.target.path

end IssueBridge.Web
