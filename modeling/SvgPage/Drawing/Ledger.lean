import SvgPage.Content.Resource
import SvgPage.Content.TextRun
import SvgPage.Drawing.Notice

namespace SvgPage

/-- What is kept of all drawings, also of those that fail: the resources they use, the notices about them
    and the runs of text they lay out, each in order. -/
structure Ledger (α : Type) where
  resources : Array (Resource α) := #[]
  notices : Array (Notice α) := #[]
  runs : Array (TextRun α) := #[]

namespace Ledger

variable {α : Type}

/-- Adds a resource and returns its number among those of its kind. -/
def register (resource : Resource α) : StateM (Ledger α) Nat := fun ledger =>
  (Resource.numberAfter ledger.resources resource.kind,
    { ledger with resources := ledger.resources.push resource })

def notify (notice : Notice α) : StateM (Ledger α) Unit := fun ledger =>
  ((), { ledger with notices := ledger.notices.push notice })

def layOut (run : TextRun α) : StateM (Ledger α) Unit := fun ledger =>
  ((), { ledger with runs := ledger.runs.push run })

end Ledger

end SvgPage
