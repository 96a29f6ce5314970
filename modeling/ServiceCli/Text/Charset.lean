import ServiceCli.Text.Charset.Basic
import ServiceCli.Text.Charset.Chinese
import ServiceCli.Text.Charset.EightBit
import ServiceCli.Text.Charset.Escaped
import ServiceCli.Text.Charset.Iso2022
import ServiceCli.Text.Charset.Japanese
import ServiceCli.Text.Charset.Korean
import ServiceCli.Text.Charset.Punycode
import ServiceCli.Text.Charset.Unicode

set_option autoImplicit false
set_option relaxedAutoImplicit false

namespace ServiceCli.Text

def Charset.ofFault (name : String) (aliases : List String) (fault : ReadingFault) : Charset :=
  { name, aliases, read := fun _ => .error fault }

/-- The names that stand for no character set. -/
def transformationCharsets : List Charset := [
  .ofFault "base64_codec" ["base64", "base_64"] .transformsBytes,
  .ofFault "bz2_codec" ["bz2"] .transformsBytes,
  .ofFault "hex_codec" ["hex"] .transformsBytes,
  .ofFault "quopri_codec" ["quopri", "quoted_printable", "quotedprintable"] .transformsBytes,
  .ofFault "uu_codec" ["uu"] .transformsBytes,
  .ofFault "zlib_codec" ["zip", "zlib"] .transformsBytes,
  .ofFault "rot_13" ["rot13"] .transformsText,
  .ofFault "idna" [] .undecodable,
  .ofFault "undefined" [] .undecodable]

/-- The character sets whose characters have the numbers of their bytes. -/
def plainCharsets : List Charset := [
  .ofTable "ascii"
    ["646", "ansi_x3.4_1968", "ansi_x3.4_1986", "ansi_x3_4_1968", "cp367", "csascii", "ibm367",
      "iso646_us", "iso_646.irv_1991", "iso_ir_6", "us", "us_ascii"]
    0x80 "",
  .ofTable "latin_1"
    ["8859", "cp819", "csisolatin1", "ibm819", "iso8859", "iso8859_1", "iso_8859_1",
      "iso_8859_1_1987", "iso_ir_100", "l1", "latin", "latin1"]
    0x100 "",
  .ofTable "charmap" [] 0x100 ""]

namespace Charset

def all : List Charset :=
  unicodeCharsets ++ plainCharsets ++ isoCharsets ++ windowsCharsets ++ dosCharsets
    ++ macintoshCharsets ++ ebcdicCharsets ++ regionalCharsets ++ chineseCharsets
    ++ japaneseCharsets ++ koreanCharsets ++ Iso2022.charsets ++ escapedCharsets
    ++ [Punycode.charset] ++ transformationCharsets

/-- The character set with a name; small and capital letters do not differ. -/
def ofName? (name : String) : Option Charset := all.find? (·.isNamed (plainName name))

/-- The text that bytes stand for. No bytes are an empty text in every character set. -/
def decode (charset : Charset) (bytes : List UInt8) : Except ReadingFault String :=
  if bytes.isEmpty then .ok "" else (charset.read bytes).map Reading.text

end Charset

end ServiceCli.Text
