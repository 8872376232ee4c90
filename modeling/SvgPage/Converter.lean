import SvgPage.Drawing.Convert

namespace SvgPage

variable {α : Type} [Scalar α]

/-- The markup behind a source: the source itself if it starts with a tag or, apart from a mark, with `@`;
    else the text of the bytes it refers to. -/
def readSource (load : String → Option (List UInt8)) (source : String) : Except (Failure α) String :=
  match source.toList with
  | '@' :: markup => .ok (String.ofList markup)
  | _ =>
    if (Text.trimStart source).toList.head? == some '<' then
      .ok source
    else
      let name := Text.trim source
      match if name.isEmpty then none else load name with
      | some bytes => .ok (Utf8.decodeText bytes)
      | none => .error .unreadableSource

/-- A series of conversions: the documents that have been converted, in the order of their handles, and what
    is kept of all conversions. -/
structure Converter (α : Type) where
  options : Options α
  documents : Array (DocumentTree α) := #[]
  ledger : Ledger α := {}

namespace Converter

/-- The setting of a document drawn at a point of a page. -/
def setting (options : Options α) (x y : α) (size : Size α) (pageHeight : α) : Setting α where
  options
  pageHeight
  depth := 0
  placement := ⟨.shift x y, size⟩

def embeddedCount : DocumentTree α → Nat
  | .node _ _ embedded => embedded.length

/-- Converts a document and gives it the next handle. A conversion that fails takes no handle. -/
def convert (converter : Converter α) (source : String) (x y : α) (size : Size α) (pageHeight : α) :
    Except (Failure α) Nat × Converter α :=
  let options := converter.options
  match readSource options.load source with
  | .error failure => (.error failure, converter)
  | .ok markup =>
    if (Text.trim markup).isEmpty then
      (.error .emptySource, converter)
    else
      match convertDocument (setting options x y size pageHeight) markup converter.ledger with
      | (.error failure, ledger) => (.error failure, { converter with ledger })
      | (.ok tree, ledger) =>
        let handle := converter.documents.size + 1
        let ((), ledger) := Ledger.notify (.converted handle (embeddedCount tree)) ledger
        (.ok handle, { converter with documents := converter.documents.push tree, ledger })

/-- The operators of a converted document and of those embedded in it. -/
def render (converter : Converter α) (handle : Int) : Except (Failure α) (List (Operator α)) :=
  if handle ≤ 0 then
    .error (.unknownHandle handle)
  else
    match converter.documents[(handle - 1).toNat]? with
    | some tree => .ok tree.operators
    | none => .error (.unknownHandle handle)

end Converter

end SvgPage
