import SvgPage.Text.Base64
import SvgPage.Text.Blank
import SvgPage.Text.Case
import SvgPage.Text.Percent

namespace SvgPage

/-- An address that holds the data it stands for. -/
structure DataUri where
  mediaType : String
  base64 : Bool
  payload : String
deriving DecidableEq, Repr

namespace DataUri

def scheme : String := "data:"

/-- Whether a source is meant as such an address. -/
def hasScheme (source : String) : Bool :=
  scheme.toList.isPrefixOf (Text.lower (Text.trimStart source)).toList

def base64Mark : String := ";base64"

/-- Splits an address at its first comma. A mark before the comma says that the data is in base 64. -/
def parse? (source : String) : Option DataUri := do
  let cs := (Text.trim source).toList
  guard (scheme.toList.isPrefixOf (cs.take scheme.length |>.map Char.toLower))
  let rest := cs.drop scheme.length
  let head := rest.takeWhile (· != ',')
  match rest.dropWhile (· != ',') with
  | [] => none
  | _ :: payload =>
    let marked := base64Mark.toList.isSuffixOf (head.map Char.toLower)
    let type := if marked then head.take (head.length - base64Mark.length) else head
    return ⟨String.ofList type, marked, String.ofList payload⟩

/-- The media type without its parameters. -/
def essence (uri : DataUri) : String :=
  Text.lower (Text.trim (String.ofList (uri.mediaType.toList.takeWhile (· != ';'))))

/-- The bytes of the data. Blanks in base 64 do not count, and text with escapes has to be valid. -/
def bytes? (uri : DataUri) : Option (List UInt8) :=
  if uri.base64 then
    some (Base64.decode (String.ofList (uri.payload.toList.filter (!Text.isBlank ·))))
  else
    Percent.decode? uri.payload

/-- The bytes in an address. -/
def decode? (source : String) : Option (List UInt8) := parse? source >>= bytes?

end DataUri

/-- Finds the bytes behind a reference: those of the file with that name, or those that the reference
    holds itself. -/
def findBytes (file? : String → Option (List UInt8)) (source : String) : Option (List UInt8) :=
  (file? source).or (if DataUri.hasScheme source then DataUri.decode? source else none)

/-- Whether a reference leads to an SVG document, by its media type or the ending of its path. -/
def isDocumentReference (href : String) : Bool :=
  if DataUri.hasScheme href then
    (DataUri.parse? href).map DataUri.essence == some "image/svg+xml"
  else
    let path := href.toList.takeWhile fun c => c != '?' && c != '#'
    ".svg".toList.isSuffixOf (path.map Char.toLower)

end SvgPage
