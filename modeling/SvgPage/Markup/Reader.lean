import SvgPage.Markup.Entity
import SvgPage.Markup.Event
import SvgPage.Text.Units

namespace SvgPage.Markup

/-- A start tag as far as it has been read; the last attribute comes first. -/
structure TagDraft where
  name : String
  attributes : List (String × String)

/-- Where a reference stands: in text, or in the value of an attribute. -/
inductive ReferencePlace where
  | text
  | value (tag : TagDraft) (name : String) (quote : Char) (value : List Char)

/-- Where a document type declaration is being read. -/
inductive DoctypePlace where
  | outer
  | quoted (quote : Char)
  | subset
  | subsetQuoted (quote : Char)
  | subsetMarkup
  | subsetBang (hyphen : Bool)
  | subsetComment (hyphens : Nat)
  | subsetInstruction (ending : Bool)

/-- Where an XML declaration is being read. -/
inductive DeclarationPlace where
  | blank
  | name (name : List Char)
  | equals (name : String)
  | valueStart (name : String)
  | value (name : String) (quote : Char) (value : List Char)
  | afterValue
  | ending

/-- Where a document is being read. Characters that are being collected stand in reverse. -/
inductive Phase where
  /-- Before anything but blanks; `untouched` means that there were none. -/
  | leading (untouched : Bool)
  /-- In text. Inside the root, `brackets` counts the closing brackets just read, up to two; outside it,
      `solid` tells whether there was anything but blanks. -/
  | text (brackets : Nat) (solid : Bool)
  | reference (place : ReferencePlace) (name : List Char)
  | markup (declarable : Bool)
  | bang (collected : List Char)
  | comment (hyphens : Nat)
  | characterData (text : List Char) (brackets : Nat)
  | doctype (text : List Char) (place : DoctypePlace)
  | instructionStart (declarable : Bool)
  | instructionTarget (declarable : Bool) (target : List Char)
  | instructionBody (target : String) (ending : Bool)
  | declaration (expected : List String) (place : DeclarationPlace)
  | tagName (name : List Char)
  | tagBlank (tag : TagDraft)
  | tagSlash (tag : TagDraft)
  | attributeName (tag : TagDraft) (name : List Char)
  | attributeEquals (tag : TagDraft) (name : String)
  | attributeStart (tag : TagDraft) (name : String)
  | attributeValue (tag : TagDraft) (name : String) (quote : Char) (value : List Char)
  | attributeEnd (tag : TagDraft)
  | endName (name : List Char)
  | endBlank (name : List Char)
  | failed

/-- A reader of markup between two characters: the line it has reached, the elements that are open, the
    text since the last markup, and the events so far, both in reverse. -/
structure Reader where
  phase : Phase := .leading true
  line : Nat := 1
  afterReturn : Bool := false
  later : Bool := false
  rootSeen : Bool := false
  doctypeSeen : Bool := false
  openElements : List String := []
  entities : Table String := Entity.predefined
  text : List Char := []
  events : List MarkupEvent := []

namespace Reader

def enter (r : Reader) (phase : Phase) : Reader := { r with phase }

def fail (r : Reader) : Reader := r.enter .failed

/-- Fails unless the condition holds. -/
def require (r : Reader) (condition : Bool) (phase : Phase) : Reader :=
  if condition then r.enter phase else r.fail

def toText (r : Reader) : Reader := r.enter (.text 0 false)

def isInsideRoot (r : Reader) : Bool := !r.openElements.isEmpty

def emit (r : Reader) (event : MarkupEvent) : Reader := { r with events := event :: r.events }

/-- Reports the text since the last markup, if there is any. -/
def flushText (r : Reader) : Reader :=
  if r.text.isEmpty then r
  else { r.emit (.text (String.ofList r.text.reverse)) with text := [] }

def push (r : Reader) (c : Char) : Reader := { r with text := c :: r.text }

/-- Whether an attribute occurs twice. -/
def hasRepetition (attributes : List (String × String)) : Bool :=
  match attributes with
  | [] => false
  | (name, _) :: rest => (rest.lookup name).isSome || hasRepetition rest

def startEvent (tag : TagDraft) : MarkupEvent :=
  .startTag tag.name (Table.ofList tag.attributes.reverse)

def openTag (r : Reader) (tag : TagDraft) : Reader :=
  if hasRepetition tag.attributes then r.fail
  else { (r.emit (startEvent tag)).toText with openElements := tag.name :: r.openElements }

def openAndClose (r : Reader) (tag : TagDraft) : Reader :=
  if hasRepetition tag.attributes then r.fail
  else ((r.emit (startEvent tag)).emit (.endTag tag.name)).toText

/-- Ends the innermost open element. If the tag is for another one, that is found out too late for its
    end to go unreported. -/
def closeTag (r : Reader) (name : String) : Reader :=
  match r.openElements with
  | [] => r.fail
  | innermost :: outer =>
    if name.isEmpty then r.fail
    else
      let closed := { r.emit (.endTag innermost) with openElements := outer }
      if innermost == name then closed.toText else closed.fail

/-- After the name of a tag or a blank in it, or after the value of an attribute. -/
def afterTagPart (r : Reader) (tag : TagDraft) (c : Char) : Reader :=
  if c == '>' then r.openTag tag
  else if c == '/' then r.enter (.tagSlash tag)
  else r.require (isBlank c) (.tagBlank tag)

def stepText (r : Reader) (brackets : Nat) (solid : Bool) (c : Char) : Reader :=
  if r.isInsideRoot then
    if c == '<' then r.flushText.enter (.markup false)
    else if c == '&' then r.enter (.reference .text [])
    else if c == ']' then (r.push c).enter (.text (min (brackets + 1) 2) false)
    else if c == '>' && brackets == 2 then r.fail
    else (r.push c).toText
  else
    if c == '<' then r.flushText.require (!solid) (.markup false)
    else if c == '&' then r.fail
    else (r.push c).enter (.text 0 (solid || !isBlank c))

def stepReference (r : Reader) (place : ReferencePlace) (name : List Char) (c : Char) : Reader :=
  if c != ';' then
    r.enter (.reference place (c :: name))
  else
    match Entity.resolve? r.entities r.later name.reverse with
    | none => r.fail
    | some text =>
      match place with
      | .text => { r.toText with text := text.toList.reverse ++ r.text }
      | .value tag attributeName quote value =>
        r.enter (.attributeValue tag attributeName quote (text.toList.reverse ++ value))

def stepMarkup (r : Reader) (declarable : Bool) (c : Char) : Reader :=
  if isNameStart c then r.enter (.tagName [c])
  else if c == '/' then r.enter (.endName [])
  else if c == '!' then r.enter (.bang [])
  else r.require (c == '?') (.instructionStart declarable)

/-- No start of markup with an exclamation mark is longer than seven units. -/
def stepBang (r : Reader) (collected : List Char) (c : Char) : Reader :=
  let collected := c :: collected
  let text := String.ofList collected.reverse
  if text == "[CDATA[" then r.require r.isInsideRoot (.characterData [] 0)
  else if text == "--" then r.enter (.comment 0)
  else if text == "DOCTYPE" then r.require (!r.doctypeSeen && !r.rootSeen) (.doctype [] .outer)
  else r.require (Text.unitLength text < 7) (.bang collected)

/-- Two hyphens in a comment have to be followed by its end. -/
def stepComment (r : Reader) (hyphens : Nat) (c : Char) : Reader :=
  if hyphens == 2 then r.require (c == '>') (.text 0 false)
  else r.enter (.comment (if c == '-' then hyphens + 1 else 0))

def stepCharacterData (r : Reader) (text : List Char) (brackets : Nat) (c : Char) : Reader :=
  if brackets == 2 && c == '>' then
    (r.emit (.text (String.ofList ((text.drop 2).reverse)))).toText
  else if c == ']' then
    r.enter (.characterData (c :: text) (min (brackets + 1) 2))
  else
    r.enter (.characterData (c :: text) 0)

/-- The place after a character of a document type declaration; there is none after two hyphens that do
    not end a comment. -/
def DoctypePlace.next? (place : DoctypePlace) (c : Char) : Option DoctypePlace :=
  match place with
  | .outer =>
    if c == '[' then some .subset else if isQuote c then some (.quoted c) else some .outer
  | .quoted quote => some (if c == quote then .outer else place)
  | .subset =>
    if c == ']' then some .outer
    else if c == '<' then some .subsetMarkup
    else if isQuote c then some (.subsetQuoted c)
    else some .subset
  | .subsetQuoted quote => some (if c == quote then .subset else place)
  | .subsetMarkup =>
    if c == '!' then some (.subsetBang false)
    else if c == '?' then some (.subsetInstruction false)
    else some .subset
  | .subsetBang hyphen =>
    if c != '-' then some .subset
    else if hyphen then some (.subsetComment 0)
    else some (.subsetBang true)
  | .subsetComment hyphens =>
    if hyphens == 2 then if c == '>' then some .subset else none
    else some (.subsetComment (if c == '-' then hyphens + 1 else 0))
  | .subsetInstruction ending =>
    if ending then some (if c == '>' then .subset else place)
    else some (.subsetInstruction (c == '?'))

/-- The declared entities go before those that every document has. -/
def stepDoctype (r : Reader) (text : List Char) (place : DoctypePlace) (c : Char) : Reader :=
  match place, c with
  | .outer, '>' =>
    let declared := Entity.declarations (String.ofList text.reverse)
    { r.toText with doctypeSeen := true, entities := r.entities.setAll declared.entries }
  | _, _ =>
    match DoctypePlace.next? place c with
    | some next => r.enter (.doctype (c :: text) next)
    | none => r.fail

def stepInstructionTarget (r : Reader) (declarable : Bool) (target : List Char) (c : Char) : Reader :=
  let ending := c == '?'
  let name := String.ofList target.reverse
  if isNameChar c then r.enter (.instructionTarget declarable (c :: target))
  else if !(ending || isBlank c) then r.fail
  else if name == "xml" then
    r.require declarable (.declaration ["version"] (if ending then .ending else .blank))
  else r.enter (.instructionBody name ending)

def stepInstructionBody (r : Reader) (target : String) (ending : Bool) (c : Char) : Reader :=
  if ending && c == '>' then r.require (Text.lowerAscii target != "xml") (.text 0 false)
  else r.enter (.instructionBody target (c == '?'))

def isVersion : List Char → Bool
  | '1' :: '.' :: digits => !digits.isEmpty && digits.all Char.isDigit
  | _ => false

def isEncoding : List Char → Bool
  | c :: rest =>
    c.isAlpha && rest.all fun c => c.isAlphanum || c == '.' || c == '_' || c == '-'
  | [] => false

/-- Takes a value of the XML declaration. From a later version on, other rules for characters hold. -/
def declare (r : Reader) (name : String) (value : List Char) : Reader :=
  let next (condition : Bool) (expected : List String) : Reader :=
    r.require condition (.declaration expected .afterValue)
  if name == "version" then
    { next (isVersion value) ["encoding", "standalone"] with later := value != "1.0".toList }
  else if name == "encoding" then next (isEncoding value) ["standalone"]
  else next (value == "yes".toList || value == "no".toList) []

def stepDeclaration (r : Reader) (expected : List String) (place : DeclarationPlace) (c : Char) : Reader :=
  let go (place : DeclarationPlace) : Reader := r.enter (.declaration expected place)
  match place with
  | .blank => if c == '?' then go .ending else if isBlank c then go .blank else go (.name [c])
  | .name name =>
    if c == '?' then r.fail
    else if isBlank c || c == '=' then
      let name := String.ofList name.reverse
      if !expected.contains name then r.fail
      else go (if c == '=' then .valueStart name else .equals name)
    else go (.name (c :: name))
  | .equals name =>
    if isBlank c then go (.equals name)
    else r.require (c == '=') (.declaration expected (.valueStart name))
  | .valueStart name =>
    if isBlank c then go (.valueStart name)
    else r.require (isQuote c) (.declaration expected (.value name c []))
  | .value name quote value =>
    if c == quote then r.declare name value.reverse
    else r.require (c != '?') (.declaration expected (.value name quote (c :: value)))
  | .afterValue =>
    if c == '?' then go .ending else r.require (isBlank c) (.declaration expected .blank)
  | .ending => r.require (c == '>' && !expected.contains "version") (.text 0 false)

/-- A second root is noticed after its name. -/
def stepTagName (r : Reader) (name : List Char) (c : Char) : Reader :=
  if isNameChar c then r.enter (.tagName (c :: name))
  else if r.rootSeen && !r.isInsideRoot then r.fail
  else { r with rootSeen := true }.afterTagPart ⟨String.ofList name.reverse, []⟩ c

def stepAttributeName (r : Reader) (tag : TagDraft) (name : List Char) (c : Char) : Reader :=
  if isNameChar c then r.enter (.attributeName tag (c :: name))
  else if c == '=' then r.enter (.attributeStart tag (String.ofList name.reverse))
  else r.require (isBlank c) (.attributeEquals tag (String.ofList name.reverse))

def stepAttributeValue (r : Reader) (tag : TagDraft) (name : String) (quote : Char) (value : List Char)
    (c : Char) : Reader :=
  if c == quote then
    r.enter (.attributeEnd { tag with attributes := (name, String.ofList value.reverse) :: tag.attributes })
  else if c == '&' then r.enter (.reference (.value tag name quote value) [])
  else r.require (c != '<') (.attributeValue tag name quote ((if isBlank c then ' ' else c) :: value))

/-- Reads a character that is allowed; ends of lines are all alike. -/
def step (r : Reader) (c : Char) : Reader :=
  match r.phase with
  | .leading untouched =>
    if isBlank c then r.enter (.leading false)
    else if c == '<' then r.enter (.markup untouched)
    else r.stepText 0 false c
  | .text brackets solid => r.stepText brackets solid c
  | .reference place name => r.stepReference place name c
  | .markup declarable => r.stepMarkup declarable c
  | .bang collected => r.stepBang collected c
  | .comment hyphens => r.stepComment hyphens c
  | .characterData text brackets => r.stepCharacterData text brackets c
  | .doctype text place => r.stepDoctype text place c
  | .instructionStart declarable => r.require (isNameStart c) (.instructionTarget declarable [c])
  | .instructionTarget declarable target => r.stepInstructionTarget declarable target c
  | .instructionBody target ending => r.stepInstructionBody target ending c
  | .declaration expected place => r.stepDeclaration expected place c
  | .tagName name => r.stepTagName name c
  | .tagBlank tag =>
    if isNameStart c then r.enter (.attributeName tag [c]) else r.afterTagPart tag c
  | .tagSlash tag => if c == '>' then r.openAndClose tag else r.fail
  | .attributeName tag name => r.stepAttributeName tag name c
  | .attributeEquals tag name =>
    if isBlank c then r else r.require (c == '=') (.attributeStart tag name)
  | .attributeStart tag name =>
    if isBlank c then r else r.require (isQuote c) (.attributeValue tag name c [])
  | .attributeValue tag name quote value => r.stepAttributeValue tag name quote value c
  | .attributeEnd tag => r.afterTagPart tag c
  | .endName name =>
    if isNameChar c then r.enter (.endName (c :: name))
    else if c == '>' then r.closeTag (String.ofList name.reverse)
    else r.require (isBlank c) (.endBlank name)
  | .endBlank name =>
    if isBlank c then r
    else if c == '>' then r.closeTag (String.ofList name.reverse)
    else r.fail
  | .failed => r

/-- Reads a character. A return and the character after it can make one end of a line. -/
def read (r : Reader) (c : Char) : Reader :=
  match r.phase with
  | .failed => r
  | _ =>
    if r.afterReturn && (c == '\n' || (r.later && c == '\u0085')) then
      { r with afterReturn := false }
    else if isLineEnd r.later c then
      { r with line := r.line + 1, afterReturn := c == '\r' }.step '\n'
    else if if r.later then isForbiddenLater c else isForbidden c then
      r.fail
    else
      { r with afterReturn := false }.step c

/-- Ends the document. It has to be complete. Text outside the root is noticed before a return at the very
    end is taken for the end of a line. -/
def finish (r : Reader) : Reading :=
  match r.phase with
  | .text _ solid =>
    if !r.isInsideRoot && solid then
      ⟨r.events.reverse, some (if r.afterReturn then r.line - 1 else r.line)⟩
    else if r.rootSeen && !r.isInsideRoot then
      ⟨r.flushText.events.reverse, none⟩
    else
      ⟨r.events.reverse, some r.line⟩
  | _ => ⟨r.events.reverse, some r.line⟩

end Reader

/-- Reads a document. A byte order mark before it does not count. -/
def read (document : String) : Reading :=
  let cs := match document.toList with
    | '\uFEFF' :: rest => rest
    | cs => cs
  (cs.foldl Reader.read {}).finish

end SvgPage.Markup
