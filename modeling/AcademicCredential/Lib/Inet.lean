import AcademicCredential.Lib.Hex

/-!
# Network addresses

The texts that `ipaddress.ip_address` or `ipaddress.ip_interface` reads, which are those that the
driver binds to a column of type `INET`: an IPv4 or IPv6 address, alone or with a prefix length
or, for IPv4, a mask.
-/

namespace AcademicCredential.Lib.Inet

/-- The value of decimal digits. -/
def decimal (digits : List Char) : Nat :=
  digits.foldl (fun value digit => 10 * value + (digit.toNat - '0'.toNat)) 0

/-- `_parse_octet`: a number up to 255 without leading zeros. -/
def isOctet (text : List Char) : Bool :=
  text != [] && text.length ≤ 3 && text.all Char.isDigit &&
    (text == ['0'] || text.head? != some '0') && decimal text ≤ 255

/-- `IPv4Address`: four octets. -/
def isIPv4 (text : List Char) : Bool :=
  let octets := text.splitOn '.'
  octets.length == 4 && octets.all isOctet

/-- `_parse_hextet`: one to four hexadecimal digits. -/
def isHextet (text : List Char) : Bool := text != [] && text.length ≤ 4 && text.all Hex.isDigit

/-- An IPv4 address in the last place stands for two groups. -/
def groups? (parts : List (List Char)) : Option (List (List Char)) :=
  match parts.getLast? with
  | some last =>
      if last.contains '.' then
        if isIPv4 last then some (parts.dropLast ++ [['0'], ['0']]) else none
      else
        some parts
  | none => none

/-- The groups on one side of `::`; at an end of the address there may be none. -/
def isSide (groups : List (List Char)) : Bool := groups == [[]] || groups.all isHextet

/-- The number of groups on a side. -/
def sideLength (groups : List (List Char)) : Nat := if groups == [[]] then 0 else groups.length

/-- `IPv6Address`, without a scope: eight groups, or fewer with one `::` for the rest. -/
def isIPv6Groups (groups : List (List Char)) : Bool :=
  let inner := (groups.drop 1).dropLast
  if inner.all (· != []) then
    groups.length == 8 && groups.all isHextet
  else
    let high := groups.take 1 ++ inner.takeWhile (· != [])
    let behind := (inner.dropWhile (· != [])).drop 1
    let low := behind ++ groups.drop (groups.length - 1)
    behind.all (· != []) && groups.length ≤ 9 && isSide high && isSide low &&
      sideLength high + sideLength low < 8

/-- `IPv6Address`: at least two colons, and behind a `%` perhaps a scope. -/
def isIPv6 (text : List Char) : Bool :=
  let address := text.takeWhile (· != '%')
  let scope := text.dropWhile (· != '%')
  let parts := address.splitOn ':'
  (scope == [] || (scope.length ≥ 2 && !(scope.drop 1).contains '%')) && 3 ≤ parts.length &&
    (groups? parts).any isIPv6Groups

/-- A prefix length of at most `bits`; `int` reads up to 4300 digits. -/
def isPrefixLength (bits : Nat) (text : List Char) : Bool :=
  text != [] && text.length ≤ 4300 && text.all Char.isDigit && decimal text ≤ bits

/-- The number of an IPv4 address. -/
def ipv4Number (text : List Char) : Nat :=
  (text.splitOn '.').foldl (fun number octet => 256 * number + decimal octet) 0

/-- The netmasks, and the hostmasks that are their complements. -/
def masks : List Nat :=
  (List.range 33).flatMap fun bits => [2 ^ 32 - 2 ^ (32 - bits), 2 ^ (32 - bits) - 1]

/-- A netmask or hostmask in the form of an address. -/
def isMask (text : List Char) : Bool := isIPv4 text && masks.contains (ipv4Number text)

/-- A text that can be bound to a column of type `INET`. -/
def isInetText (text : String) : Bool :=
  match text.toList.splitOn '/' with
  | [address] => isIPv4 address || isIPv6 address
  | [address, mask] =>
      (isIPv4 address && (isPrefixLength 32 mask || isMask mask)) ||
        (isIPv6 address && isPrefixLength 128 mask)
  | _ => false

example : isInetText "::ffff:203.0.113.7/96" = true := by decide

example : isInetText "unknown" = false := by decide

end AcademicCredential.Lib.Inet
