import SvgPage.Drawing.Draw
import SvgPage.Markup.Reader

namespace SvgPage

variable {α : Type} [Scalar α]

/-- Draws a document up to its end, or up to the first place where it is not well-formed. -/
def convertWith (embed : Option (Embedding α)) : Embedding α := fun setting markup ledger =>
  let reading := Markup.read markup
  let (result, drawing) :=
    Draw.events setting embed reading.events (.initial setting ledger)
  match result, reading.errorLine with
  | .error failure, _ => (.error failure, drawing.ledger)
  | .ok (), some line => (.error (.malformed line), drawing.ledger)
  | .ok (), none => (.ok (.node setting drawing.document drawing.embedded), drawing.ledger)

/-- Draws a document in which others may be embedded to a number of levels. -/
def convertNested : (levels : Nat) → Embedding α
  | 0 => convertWith none
  | levels + 1 => convertWith (some (convertNested levels))

/-- How the documents in a document that nothing surrounds are drawn, if there may be any. -/
def NestingLimit.embedding? (limit : NestingLimit) : Option (Embedding α) :=
  match limit.documentLevels with
  | 0 => none
  | levels + 1 => some (convertNested levels)

/-- Draws a document that nothing surrounds. -/
def convertDocument : Embedding α := fun setting markup =>
  convertNested setting.options.nesting.documentLevels setting markup

end SvgPage
