import Typewright.Text.Lines

/-!
# Addresses of documents

An address names a document on another machine when it has a scheme and an authority. The scheme is
what stands before the first colon, if it starts with a letter and has only letters, digits and
`+-.`; the authority is what stands between two slashes after that and the next `/`, `?` or `#`.

An authority that cannot be read is refused: one with an unpaired bracket, one with brackets whose
host is something else than an address of version 6 or of a later version, and one with a character
that looks like a mark of addresses. The host stands after the last `@` and before the port; if it
is in brackets, nothing else may stand beside them.
-/

namespace Typewright.Url

/-! ## Hosts in brackets -/

/-- A hexadecimal digit. -/
def isHex (c : Char) : Bool :=
  ('0' ≤ c && c ≤ '9') || ('a' ≤ c && c ≤ 'f') || ('A' ≤ c && c ≤ 'F')

/-- A decimal digit. -/
def isDigit (c : Char) : Bool := '0' ≤ c && c ≤ '9'

/-- One number of an address of version 4: up to 255, without zeros in front. -/
def isOctet (cs : List Char) : Bool :=
  !cs.isEmpty && cs.all isDigit && cs.length ≤ 3 && (cs.length == 1 || cs.head? != some '0') &&
    cs.foldl (fun n c => 10 * n + (c.toNat - '0'.toNat)) 0 ≤ 255

/-- An address of version 4. -/
def isVersion4 (cs : List Char) : Bool :=
  let parts := Text.split '.' cs
  parts.length == 4 && parts.all isOctet

/-- One group of an address of version 6. -/
def isGroup (cs : List Char) : Bool := !cs.isEmpty && cs.length ≤ 4 && cs.all isHex

/-- The groups of an address of version 6, in which an address of version 4 at the end is two. -/
def groups? (cs : List Char) : Option (List (List Char)) :=
  let parts := Text.split ':' cs
  match parts.getLast? with
  | some last =>
    if parts.length < 3 then none
    else if last.contains '.' then
      if isVersion4 last then some (parts.dropLast ++ [['0'], ['0']]) else none
    else some parts
  | none => none

/-- Groups before or after the gap: the one at the outer end may be empty if it is the only one. -/
def isSide (groups : List (List Char)) : Bool :=
  groups == [[]] || groups.all isGroup

/-- An address of version 6, without a zone. -/
def isVersion6 (cs : List Char) : Bool :=
  match groups? cs with
  | none => false
  | some groups =>
    let inner := groups.tail.dropLast
    if groups.length > 9 then false
    else if inner.count [] > 1 then false
    else if inner.count [] = 1 then
      let front := groups.head?.toList ++ inner.takeWhile (· ≠ [])
      let back := (inner.dropWhile (· ≠ [])).tail ++ groups.getLast?.toList
      let size (side : List (List Char)) : Nat := if side == [[]] then 0 else side.length
      isSide front && isSide back && size front + size back < 8
    else groups.length == 8 && groups.all isGroup

/-- An address of version 6 with or without a zone. -/
def isZoned (cs : List Char) : Bool :=
  match Text.split '%' cs with
  | [address] => isVersion6 address
  | [address, zone] => isVersion6 address && !zone.isEmpty
  | _ => false

/-- An address of a later version: `v`, hexadecimal digits, a point, and more. -/
def isLater (cs : List Char) : Bool :=
  match cs with
  | 'v' :: rest =>
    let digits := rest.takeWhile isHex
    match rest.dropWhile isHex with
    | '.' :: c :: more => !digits.isEmpty && !(c :: more).contains '\n'
    | _ => false
  | _ => false

/-- Whether what stands in brackets is a host. -/
def isBracketedHost (cs : List Char) : Bool :=
  if cs.head? == some 'v' then isLater cs else isZoned cs

/-! ## Authorities -/

/-- Characters that look like marks of addresses, or hold one. -/
def lookalikes : List Char :=
  ['⁇', '⁈', '⁉', '℀', '℁', '℅', '℆', '⩴', '︓', '︖', '﹕', '﹖', '﹟', '﹫', '＃', '／', '：', '？',
    '＠']

/-- The host and the port of an authority: what stands after the last `@`. -/
def hostAndPort (cs : List Char) : List Char := (cs.reverse.takeWhile (· != '@')).reverse

/-- The host without its brackets and its port, unless something stands beside the brackets. -/
def host? (cs : List Char) : Option (List Char) :=
  match cs.dropWhile (· != '[') with
  | [] => some (cs.takeWhile (· != ':'))
  | _ :: inside =>
    let port := (inside.dropWhile (· != ']')).tail
    if cs.head? == some '[' && (port.head?.map (· == ':')).getD true then
      some (inside.takeWhile (· != ']'))
    else none

/-- Whether the brackets of an authority are paired, and those of a host it can be named by. -/
def hasGoodBrackets (cs : List Char) : Bool :=
  if cs.contains '[' && cs.contains ']' then
    ((host? (hostAndPort cs)).map isBracketedHost).getD false
  else !cs.contains '[' && !cs.contains ']'

/-- Whether an authority can be read. -/
def isAuthority (cs : List Char) : Bool := hasGoodBrackets cs && !cs.any lookalikes.contains

/-! ## Addresses -/

/-- An ASCII letter. -/
def isLetter (c : Char) : Bool := ('a' ≤ c && c ≤ 'z') || ('A' ≤ c && c ≤ 'Z')

/-- A character of a scheme. -/
def isSchemeChar (c : Char) : Bool := isLetter c || isDigit c || c == '+' || c == '-' || c == '.'

/-- An address without what is not read: controls and spaces in front, and line ends and tabs. -/
def cleaned (cs : List Char) : List Char :=
  (cs.dropWhile (· ≤ ' ')).filter fun c => c != '\t' && c != '\r' && c != '\n'

/-- The scheme of an address and what follows its colon; without a scheme all follows. -/
def schemeAndRest (cs : List Char) : List Char × List Char :=
  let before := cs.takeWhile (· != ':')
  match cs.dropWhile (· != ':') with
  | _ :: after =>
    if (before.head?.map isLetter).getD false && before.all isSchemeChar then (before, after)
    else ([], cs)
  | [] => ([], cs)

/-- The authority at the start of what follows the scheme. -/
def authority (cs : List Char) : List Char :=
  match cs with
  | '/' :: '/' :: rest => rest.takeWhile fun c => c != '/' && c != '?' && c != '#'
  | _ => []

/-- What an address can be used for. -/
inductive Reading where
  /-- It names a document on another machine. -/
  | complete
  /-- It lacks a scheme or an authority. -/
  | incomplete
  /-- Its authority cannot be read. -/
  | unreadable
  deriving DecidableEq, Repr

/-- What an address can be used for. -/
def read (url : String) : Reading :=
  let (scheme, rest) := schemeAndRest (cleaned url.toList)
  let host := authority rest
  if !isAuthority host then .unreadable
  else if scheme.isEmpty || host.isEmpty then .incomplete
  else .complete

end Typewright.Url
