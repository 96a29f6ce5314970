import ServiceCli.Compression.Frame
import ServiceCli.Text.Character
import ServiceCli.Text.LetterCase
import ServiceCli.Text.Split
import ServiceCli.Web.Header

set_option autoImplicit false
set_option relaxedAutoImplicit false

namespace ServiceCli.Web

open ServiceCli.Compression

/-- A content coding. -/
inductive ContentCoding where
  | identity
  | deflate
  | gzip
  deriving DecidableEq, Repr

namespace ContentCoding

def ofName? : String → Option ContentCoding
  | "identity" => some .identity
  | "deflate" => some .deflate
  | "gzip" => some .gzip
  | _ => none

/-- The content codings that headers name; those that are not known count as none. -/
def ofHeaders (headers : Headers) : List ContentCoding :=
  ((headers.values "content-encoding").flatMap (Text.split ',')).filterMap fun name =>
    ofName? (Text.lower (Text.strip name))

/-- Undoes a content coding. Deflated bytes may come with the short frame or without a frame. -/
def undo (bytes : List UInt8) : ContentCoding → Expanded
  | .identity => .ok bytes
  | .gzip => expandLong bytes
  | .deflate =>
    match expandShort bytes with
    | .ok expanded => .ok expanded
    | .error _ => expandBare bytes

/-- Undoes content codings, the last one first. Nothing is left as it is. -/
def undoAll (codings : List ContentCoding) (bytes : List UInt8) : Expanded :=
  if bytes.isEmpty then .ok [] else codings.reverse.foldlM undo bytes

end ContentCoding

/-- The wording of a body that cannot be expanded. -/
def expansionReason (cause : Corruption) : String :=
  s!"Error -3 while decompressing data: {cause.message}"

end ServiceCli.Web
