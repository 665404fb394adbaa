import UnitResolution.Markup.Element

/-!
# The outline of a document

`scriptSources` reads a document as a browser does that runs scripts, and finds the sources of its
scripts in the order of the document. Tags that are missing are supplied, tags that do not fit are
ignored, and what is misplaced in a table comes in front of it. Scripts in a template do not
belong to the document; nor do those in the body of a document that turns out to be a set of
frames.

An `Outline` is the state of the reading: the open elements, the innermost first, and the mode that
they give rise to. Elements that are nested in each other without a bearing on tables, templates
and foreign content need not be told apart to find scripts in their order, so the ends of paragraphs
and list items that are only implied are left to the elements around them.
-/

namespace UnitResolution.Markup

/-- The modes of reading, by what surrounds the current place. -/
inductive Mode
  | head
  | body
  | table
  | caption
  | columnGroup
  | tableBody
  | row
  | cell
  | select
  | selectInTable
  | template
  deriving Repr, DecidableEq

/-- The state of reading a document. -/
structure Outline where
  /-- The open elements, the innermost first. -/
  frames : List Frame
  mode : Mode := .head
  /-- The modes of the open templates, the innermost first. -/
  templateModes : List Mode := []
  /-- Nothing has been read that a set of frames cannot follow. -/
  framesetAllowed : Bool := true
  deriving Repr, DecidableEq

/-- How the text behind a token is read. -/
inductive Continuation
  | markup
  /-- Raw text up to the end tag of the given name. -/
  | raw (name : String)
  | script
  /-- Nothing of it counts. -/
  | nothing
  deriving Repr, DecidableEq

namespace Outline

/-- The outline of a document of which nothing has been read. -/
def start : Outline := { frames := [{ name := "html" }] }

/-! ## Closing elements -/

/-- Add what has been found to the innermost of some elements. -/
def addFound (found : List String) : List Frame → List Frame
  | [] => []
  | f :: outer => { f with found := found ++ f.found } :: outer

/-- Add what has been found in front of the innermost table, or to the innermost template if that
comes first. -/
def addInFront (found : List String) : List Frame → List Frame
  | [] => []
  | [f] => addFound found [f]
  | f :: outer =>
      if f.isHtml "table" then f :: addFound found outer
      else if f.isHtml "template" then addFound found (f :: outer)
      else f :: addInFront found outer

/-- Close an element inside others: what has been found in it belongs to the document, unless it is
a template. -/
def deliver (f : Frame) (outer : List Frame) : List Frame :=
  if f.isHtml "template" then outer
  else if f.displaced then addInFront f.found outer
  else addFound f.found outer

/-- Close the innermost element, but never the last one. -/
def closeFrame : List Frame → List Frame
  | f :: g :: outer => deliver f (g :: outer)
  | frames => frames

/-- Close the innermost elements, as many as given. -/
def closeTimes (n : Nat) (frames : List Frame) : List Frame := Nat.repeat closeFrame n frames

/-- Close elements from the innermost on, as long as a condition holds. -/
def closeWhile (condition : Frame → Bool) (frames : List Frame) : List Frame :=
  closeTimes (frames.takeWhile condition).length frames

/-- Close elements from the innermost on, up to one of the HTML elements of the given names. -/
def closeThrough (names : List String) (frames : List Frame) : List Frame :=
  closeTimes ((frames.takeWhile (!·.isOneOf names)).length + 1) frames

/-- Close elements up to one of the given names, or up to the root. -/
def closeTo (names : List String) (frames : List Frame) : List Frame :=
  closeWhile (!·.isOneOf names) frames

/-! ## Modes -/

/-- Whether a table is open around a list of options, within the innermost template. -/
def isInTable : List Frame → Bool
  | [] => false
  | f :: outer => !f.isHtml "template" && (f.isHtml "table" || isInTable outer)

/-- The mode that the open elements give rise to. -/
def modeOf (templateModes : List Mode) : List Frame → Mode
  | [] => .head
  | f :: outer =>
      if f.isHtml "select" then if isInTable outer then .selectInTable else .select
      else if f.isOneOf ["td", "th"] then .cell
      else if f.isHtml "tr" then .row
      else if f.isOneOf rowGroups then .tableBody
      else if f.isHtml "caption" then .caption
      else if f.isHtml "colgroup" then .columnGroup
      else if f.isHtml "table" then .table
      else if f.isHtml "template" then templateModes.headD .template
      else if f.isHtml "body" then .body
      else modeOf templateModes outer

/-- The outline in the mode that its open elements give rise to. -/
def reset (o : Outline) : Outline := { o with mode := modeOf o.templateModes o.frames }

/-- The outline with its open elements changed. -/
def onFrames (change : List Frame → List Frame) (o : Outline) : Outline :=
  { o with frames := change o.frames }

/-- The outline in another mode. -/
def inMode (mode : Mode) (o : Outline) : Outline := { o with mode }

/-- The outline of a document that cannot be a set of frames any more. -/
def withoutFrameset (o : Outline) : Outline := { o with framesetAllowed := false }

/-! ## Opening elements -/

/-- Open an HTML element. -/
def openFrame (name : String) (o : Outline) : Outline :=
  { o with frames := { name } :: o.frames }

/-- Whether the innermost element is part of a table, but takes no contents itself. -/
def atTableStructure (o : Outline) : Bool :=
  match o.frames with
  | f :: _ => f.isOneOf tableStructure
  | [] => false

/-- Open an element, which is `misplaced` if it does not belong to the table around it. -/
def openElement (misplaced : Bool) (f : Frame) (o : Outline) : Outline :=
  let displaced := misplaced && o.atTableStructure
  { o with frames := { f with displaced } :: o.frames }

/-- Take in the source of a script, if it has one. -/
def addScript (t : Tag) (o : Outline) : Outline :=
  match t.attribute? "src" with
  | some source => { o with frames := addFound [source] o.frames }
  | none => o

/-- Open the body of a document. -/
def openBody (o : Outline) : Outline := inMode .body (openFrame "body" o)

/-! ## Steps -/

/-- What a token does to an outline: either that is done, or the token is to be looked at again. -/
inductive Progress
  | done (o : Outline) (behind : Continuation := .markup)
  | again (o : Outline)

open Progress

/-- Whether a set of frames can take the place of the body. -/
def canBecomeFrameset (o : Outline) : Bool :=
  o.framesetAllowed &&
    (match o.frames.reverse with
      | _ :: f :: _ => f.isHtml "body"
      | _ => false)

/-- The start tag of an element that stands in the head of a document. -/
def startInHead (t : Tag) (o : Outline) : Progress :=
  if t.name = "script" then done (addScript t o) .script
  else if rawHeadElements.contains t.name then done o (.raw t.name)
  else if t.name = "template" then
    done { withoutFrameset (openFrame "template" o) with
      mode := .template, templateModes := .template :: o.templateModes }
  else done o

/-- The end tag of a template. -/
def endTemplate (o : Outline) : Progress :=
  if o.frames.any (·.isHtml "template") then
    done (reset { o with
      frames := closeThrough ["template"] o.frames, templateModes := o.templateModes.tail })
  else done o

/-- A start tag in the body. -/
def startInBody (misplaced : Bool) (t : Tag) (o : Outline) : Progress :=
  let name := t.name
  if headElements.contains name then startInHead t o
  else if name = "html" ∨ misplacedElements.contains name then done o
  else if name = "body" then done (withoutFrameset o)
  else if name = "frameset" then
    if o.canBecomeFrameset then done (onFrames (fun f => f.drop (f.length - 1)) o) .nothing
    else done o
  else
    let isShownInput := name = "input" ∧
      ((t.attribute? "type").map fun v => v.toList.map Char.toLower) ≠ some "hidden".toList
    let o := if framelessElements.contains name ∨ isShownInput then withoutFrameset o else o
    if name = "plaintext" then done o .nothing
    else if rawElements.contains name then done o (.raw name)
    else if emptyElements.contains name then done o
    else if name = "svg" ∨ name = "math" then
      if t.selfClosing then done o
      else
        let vocabulary := if name = "svg" then Vocabulary.svg else .math
        done (openElement misplaced { name, vocabulary } o)
    else if name = "table" then done (inMode .table (openElement misplaced { name } o))
    else if name = "select" then
      let isTable := [Mode.table, .caption, .tableBody, .row, .cell].contains o.mode
      done (inMode (if isTable then .selectInTable else .select) (openElement misplaced { name } o))
    else done (openElement misplaced { name } o)

/-- The end tag of an element that changes how text looks. -/
def endFormatting (name : String) (frames : List Frame) : List Frame :=
  if !inScope boundsScope [name] frames then frames
  else
    let inner := frames.takeWhile (!·.isHtml name)
    match frames.drop inner.length with
    | f :: outer =>
        if inner.any Frame.isSpecial then
          -- the elements inside stay open, in the place of the element
          let moved := inner.dropLast ++
            (inner.getLast?.map fun g => { g with displaced := g.displaced || f.displaced }).toList
          moved ++ deliver f outer
        else closeTimes (inner.length + 1) frames
    | [] => frames

/-- An end tag that closes its element, unless a special element is open inside it. -/
def endOther (name : String) (frames : List Frame) : List Frame :=
  let inner := frames.takeWhile fun f => !f.isHtml name && !f.isSpecial
  match frames.drop inner.length with
  | f :: _ => if f.isHtml name then closeTimes (inner.length + 1) frames else frames
  | [] => frames

/-- Close the elements up to one of some names, if it is in scope. -/
def closeInScope (bounds : Frame → Bool) (names : List String) (frames : List Frame) : List Frame :=
  if inScope bounds names frames then closeThrough names frames else frames

/-- An end tag in the body. -/
def endInBody (name : String) (o : Outline) : Progress :=
  if name = "template" then endTemplate o
  else if name = "body" ∨ name = "html" then done o
  else if name = "br" then done (withoutFrameset o)
  else if headings.contains name then done (onFrames (closeInScope boundsScope headings) o)
  else if blockElements.contains name then done (onFrames (closeInScope boundsScope [name]) o)
  else if formattingElements.contains name then done (onFrames (endFormatting name) o)
  else done (onFrames (endOther name) o)

/-- A token in the body. -/
def stepInBody (misplaced : Bool) (token : Token) (o : Outline) : Progress :=
  match token with
  | .text blank => done (if blank then o else withoutFrameset o)
  | .startTag t => startInBody misplaced t o
  | .endTag name => endInBody name o

/-- A token in front of the body. -/
def stepInHead (token : Token) (o : Outline) : Progress :=
  match token with
  | .text blank => if blank then done o else again (openBody o)
  | .startTag t =>
      if t.name = "html" ∨ t.name = "head" then done o
      else if headElements.contains t.name then startInHead t o
      else if t.name = "noscript" then done o (.raw "noscript")
      else if t.name = "body" then done (withoutFrameset (openBody o))
      else if t.name = "frameset" then done o .nothing
      else again (openBody o)
  | .endTag name =>
      if name = "template" then endTemplate o
      else if name = "body" ∨ name = "html" ∨ name = "br" then again (openBody o)
      else done o

/-- Close a part of a table, if it is in the scope of the table, and look at the token again. -/
def leave (names : List String) (mode : Mode) (o : Outline) : Progress :=
  if inScope boundsTableScope names o.frames then
    again (inMode mode (onFrames (closeThrough names) o))
  else done o

/-- Close a part of a table by its own end tag, if it is in the scope of the table. -/
def close (names : List String) (mode : Mode) (o : Outline) : Progress :=
  if inScope boundsTableScope names o.frames then
    done (inMode mode (onFrames (closeThrough names) o))
  else done o

/-- Close everything inside some elements, and open a part of a table there. -/
def openPart (around : List String) (name : String) (mode : Mode) (o : Outline) : Outline :=
  inMode mode (openFrame name (onFrames (closeTo around) o))

/-- Close a table and look at the token again, or not. -/
def closeTable (next : Outline → Progress) (o : Outline) : Progress :=
  if inScope boundsTableScope ["table"] o.frames then
    next (reset (onFrames (closeThrough ["table"]) o))
  else done o

/-- A token directly in a table. -/
def stepInTable (token : Token) (o : Outline) : Progress :=
  let around := ["table", "template"]
  match token with
  | .startTag t =>
      let name := t.name
      if name = "caption" then done (openPart around name .caption o)
      else if name = "colgroup" then done (openPart around name .columnGroup o)
      else if name = "col" then again (openPart around "colgroup" .columnGroup o)
      else if rowGroups.contains name then done (openPart around name .tableBody o)
      else if name = "td" ∨ name = "th" ∨ name = "tr" then
        again (openPart around "tbody" .tableBody o)
      else if name = "table" then closeTable again o
      else if name = "style" ∨ name = "script" ∨ name = "template" then startInHead t o
      else if name = "form" then done o
      else stepInBody true token o
  | .endTag name =>
      if name = "table" then closeTable done o
      else if tableParts.contains name then done o
      else stepInBody true token o
  | .text _ => stepInBody true token o

/-- A token in the caption of a table. -/
def stepInCaption (token : Token) (o : Outline) : Progress :=
  match token with
  | .startTag t =>
      if tableParts.contains t.name then leave ["caption"] .table o else stepInBody false token o
  | .endTag name =>
      if name = "caption" then close ["caption"] .table o
      else if name = "table" then leave ["caption"] .table o
      else if tableParts.contains name then done o
      else stepInBody false token o
  | .text _ => stepInBody false token o

/-- A token in a group of columns. -/
def stepInColumnGroup (token : Token) (o : Outline) : Progress :=
  let isInnermost := (o.frames.head?.map (·.isHtml "colgroup")).getD false
  let closed := inMode .table (onFrames closeFrame o)
  let other := if isInnermost then again closed else done o
  match token with
  | .text blank => if blank then done o else other
  | .startTag t =>
      if t.name = "col" ∨ t.name = "html" then done o
      else if t.name = "template" then startInHead t o
      else other
  | .endTag name =>
      if name = "colgroup" then done (if isInnermost then closed else o)
      else if name = "col" then done o
      else if name = "template" then endTemplate o
      else other

/-- A token between the rows of a table. -/
def stepInTableBody (token : Token) (o : Outline) : Progress :=
  let around := "template" :: rowGroups
  match token with
  | .startTag t =>
      if t.name = "tr" then done (openPart around "tr" .row o)
      else if t.name = "td" ∨ t.name = "th" then again (openPart around "tr" .row o)
      else if tableParts.contains t.name then leave rowGroups .table o
      else stepInTable token o
  | .endTag name =>
      if rowGroups.contains name then close [name] .table o
      else if name = "table" then leave rowGroups .table o
      else if tableParts.contains name then done o
      else stepInTable token o
  | .text _ => stepInTable token o

/-- A token in a row of a table. -/
def stepInRow (token : Token) (o : Outline) : Progress :=
  match token with
  | .startTag t =>
      if t.name = "td" ∨ t.name = "th" then done (openPart ["tr", "template"] t.name .cell o)
      else if tableParts.contains t.name then leave ["tr"] .tableBody o
      else stepInTable token o
  | .endTag name =>
      if name = "tr" then close ["tr"] .tableBody o
      else if name = "table" then leave ["tr"] .tableBody o
      else if rowGroups.contains name then
        if inScope boundsTableScope [name] o.frames then leave ["tr"] .tableBody o else done o
      else if tableParts.contains name then done o
      else stepInTable token o
  | .text _ => stepInTable token o

/-- A token in a cell of a table. -/
def stepInCell (token : Token) (o : Outline) : Progress :=
  let cells := ["td", "th"]
  match token with
  | .startTag t =>
      if tableParts.contains t.name then leave cells .row o else stepInBody false token o
  | .endTag name =>
      if cells.contains name then close [name] .row o
      else if name = "table" ∨ name = "tr" ∨ rowGroups.contains name then
        if inScope boundsTableScope [name] o.frames then leave cells .row o else done o
      else if tableParts.contains name then done o
      else stepInBody false token o
  | .text _ => stepInBody false token o

/-- Close a list of options. -/
def closeSelect (o : Outline) : Outline := reset (onFrames (closeThrough ["select"]) o)

/-- A token in a list of options. -/
def stepInSelect (token : Token) (o : Outline) : Progress :=
  let isOpen := inScope boundsSelectScope ["select"] o.frames
  match token with
  | .startTag t =>
      if t.name = "select" then done (if isOpen then closeSelect o else o)
      else if ["input", "keygen", "textarea"].contains t.name then
        if isOpen then again (closeSelect o) else done o
      else if t.name = "script" ∨ t.name = "template" then startInHead t o
      else done o
  | .endTag name =>
      if name = "select" then done (if isOpen then closeSelect o else o)
      else if name = "template" then endTemplate o
      else done o
  | .text _ => done o

/-- A token in a list of options in a table. -/
def stepInSelectInTable (token : Token) (o : Outline) : Progress :=
  let names := ["caption", "table", "tbody", "tfoot", "thead", "tr", "td", "th"]
  match token with
  | .startTag t =>
      if names.contains t.name then again (closeSelect o) else stepInSelect token o
  | .endTag name =>
      if names.contains name then
        if inScope boundsTableScope [name] o.frames then again (closeSelect o) else done o
      else stepInSelect token o
  | .text _ => stepInSelect token o

/-- The mode that a start tag gives to a template. -/
def modeInTemplate (name : String) : Mode :=
  if name = "caption" ∨ name = "colgroup" ∨ rowGroups.contains name then .table
  else if name = "col" then .columnGroup
  else if name = "tr" then .tableBody
  else if name = "td" ∨ name = "th" then .row
  else .body

/-- A token directly in a template. -/
def stepInTemplate (token : Token) (o : Outline) : Progress :=
  match token with
  | .startTag t =>
      if headElements.contains t.name then startInHead t o
      else
        let mode := modeInTemplate t.name
        again { o with mode, templateModes := mode :: o.templateModes.tail }
  | .endTag name => if name = "template" then endTemplate o else done o
  | .text _ => stepInBody false token o

/-- A token where HTML is read. -/
def stepInMarkup (token : Token) (o : Outline) : Progress :=
  match o.mode with
  | .head => stepInHead token o
  | .body => stepInBody false token o
  | .table => stepInTable token o
  | .caption => stepInCaption token o
  | .columnGroup => stepInColumnGroup token o
  | .tableBody => stepInTableBody token o
  | .row => stepInRow token o
  | .cell => stepInCell token o
  | .select => stepInSelect token o
  | .selectInTable => stepInSelectInTable token o
  | .template => stepInTemplate token o

/-! ## Foreign content -/

/-- Whether a token inside an element is read as foreign content. -/
def isForeign (token : Token) (f : Frame) : Bool :=
  f.vocabulary ≠ .html &&
    (match token with
      | .text _ => !f.isIntegrated
      | .startTag t =>
          !(f.hostsMarkup || (f.hostsText && t.name != "mglyph" && t.name != "malignmark") ||
            (f.vocabulary = .math && f.name == "annotation-xml" && t.name == "svg"))
      | .endTag _ => true)

/-- A start tag in foreign content of a vocabulary. -/
def startInForeign (vocabulary : Vocabulary) (t : Tag) (o : Outline) : Outline :=
  let o := if t.name = "script" then addScript t o else o
  if t.selfClosing then o
  else
    { o with frames := { name := t.name, vocabulary, hostsMarkup := hostsMarkup vocabulary t } ::
      o.frames }

/-- An end tag in foreign content. -/
def endInForeign (name : String) (o : Outline) : Progress :=
  let inner := o.frames.takeWhile fun f => f.vocabulary ≠ .html && f.name != name
  match o.frames.drop inner.length with
  | f :: _ =>
      if f.vocabulary ≠ .html then done (onFrames (closeTimes (inner.length + 1)) o)
      else stepInMarkup (.endTag name) o
  | [] => done o

/-- A token in foreign content of a vocabulary. -/
def stepInForeign (vocabulary : Vocabulary) (token : Token) (o : Outline) : Progress :=
  let outside := onFrames (closeWhile (!·.isIntegrated)) o
  match token with
  | .text blank => done (if blank then o else withoutFrameset o)
  | .startTag t =>
      if breaksOut t then stepInMarkup token outside
      else done (startInForeign vocabulary t o)
  | .endTag name =>
      if name = "p" ∨ name = "br" then stepInMarkup token outside else endInForeign name o

/-! ## Reading a document -/

/-- What a token does to an outline. -/
def step (token : Token) (o : Outline) : Progress :=
  match o.frames with
  | f :: _ => if isForeign token f then stepInForeign f.vocabulary token o else stepInMarkup token o
  | [] => done o

/-- Look at a token until that is done, at most `n` times. -/
def settle (token : Token) : (n : Nat) → Outline → Outline × Continuation
  | 0, o => (o, .markup)
  | n + 1, o =>
      match step token o with
      | .done o behind => (o, behind)
      | .again o => settle token n o

/-- Take in a token. Every further look at it either closes an element or opens one that it implies,
of which there are no more than four. -/
def take (token : Token) (o : Outline) : Outline × Continuation :=
  settle token (o.frames.length + 8) o

/-- Whether the innermost element is foreign. -/
def isInForeign (o : Outline) : Bool :=
  match o.frames with
  | f :: _ => f.vocabulary ≠ .html
  | [] => false

/-- The text behind a continuation. -/
def skip (behind : Continuation) (s : List Char) : List Char :=
  match behind with
  | .markup => s
  | .raw name => skipRaw name s
  | .script => skipScript .plain s
  | .nothing => []

/-- Read a document to its end, at most `n` tokens of it. -/
def readFrom : (n : Nat) → Outline → List Char → Outline
  | 0, o, _ => o
  | n + 1, o, s =>
      match Token.next? o.isInForeign s with
      | none => o
      | some ⟨none, rest⟩ => readFrom n o rest
      | some ⟨some token, rest⟩ =>
          let (o, behind) := o.take token
          readFrom n o (skip behind rest)

/-- Read a document. Every token takes a character, so there are no more tokens than characters. -/
def read (s : List Char) : Outline := readFrom s.length .start s

/-- The sources of the scripts found in a document, in its order. -/
def sources (o : Outline) : List String :=
  match closeTimes o.frames.length o.frames with
  | root :: _ => root.found.reverse
  | [] => []

end Outline

/-- The sources of the scripts in a document, in its order. -/
def scriptSources (text : List Char) : List String := (Outline.read (normalizeLines text)).sources

end UnitResolution.Markup
