import Citations.Path.Basic

/-!
# File addresses

The address of an absolute path is `file://`, then every component after a slash. A component
is written in octets: letters, digits and most ASCII punctuation as they are, every other octet
as a percent sign and two capital hexadecimal digits.
-/
namespace Citations.FileUrl

/-- Whether an octet is written as it is: printable ASCII other than the space and the
characters that would end or split a component. -/
def isPlain (octet : UInt8) : Bool :=
  let c := Char.ofNat octet.toNat
  0x20 < octet && octet < 0x7F && !("\"#%/<>?\\`\x7b\x7d".toList.contains c)

/-- A hexadecimal digit in capitals. -/
def hexDigit (n : Nat) : Char := (Nat.digitChar n).toUpper

/-- The written form of one octet. -/
def encodeOctet (octet : UInt8) : Text :=
  if isPlain octet then [Char.ofNat octet.toNat]
  else ['%', hexDigit (octet.toNat / 16), hexDigit (octet.toNat % 16)]

/-- The written form of one component. -/
def encode (text : Text) : Text :=
  text.flatMap fun c => (String.utf8EncodeChar c).flatMap encodeOctet

/-- The address of an absolute path; a relative path has none. -/
def ofPath? (path : Path) : Option Text :=
  if path.isAbsolute then
    let tail := path.components.flatMap fun component => '/' :: encode component.segment
    some ("file://".toList ++ if tail = [] then ['/'] else tail)
  else none

end Citations.FileUrl
