import UnitResolution.Markup.Token

/-!
# Kinds of elements

What the shape of a document hangs on are classes of elements: which are empty, which hold raw text,
which bound a search along the open elements, which take over foreign content. An open element is a
`Frame`: it has a vocabulary, and the sources of the scripts that have been found in it so far.
-/

namespace UnitResolution.Markup

/-- The vocabularies from which an element can come. -/
inductive Vocabulary
  | html
  | svg
  | math
  deriving Repr, DecidableEq

/-- An open element. -/
structure Frame where
  name : String
  vocabulary : Vocabulary := .html
  /-- The element stands where it is in the text, but belongs in front of the table around it. -/
  displaced : Bool := false
  /-- HTML inside the element is read as such, although the element is foreign. -/
  hostsMarkup : Bool := false
  /-- The sources of the scripts found in the element, the last one first. -/
  found : List String := []
  deriving Repr, DecidableEq

namespace Frame

/-- Whether an element is the HTML element of the given name. -/
def isHtml (f : Frame) (name : String) : Bool := f.vocabulary = .html && f.name == name

/-- Whether an element is one of the HTML elements of the given names. -/
def isOneOf (f : Frame) (names : List String) : Bool :=
  f.vocabulary = .html && names.contains f.name

/-- Whether text and most tags inside an element of mathematics are read as HTML. -/
def hostsText (f : Frame) : Bool :=
  f.vocabulary = .math && ["mi", "mo", "mn", "ms", "mtext"].contains f.name

/-- Whether HTML can stand in an element. -/
def isIntegrated (f : Frame) : Bool := f.vocabulary = .html || f.hostsText || f.hostsMarkup

end Frame

/-- Whether an element of a vocabulary takes HTML as it stands. -/
def hostsMarkup (vocabulary : Vocabulary) (t : Tag) : Bool :=
  match vocabulary with
  | .svg => ["foreignobject", "desc", "title"].contains t.name
  | .math =>
      t.name == "annotation-xml" &&
        (((t.attribute? "encoding").map fun e =>
          let encoding := String.ofList (e.toList.map Char.toLower)
          encoding == "text/html" || encoding == "application/xhtml+xml").getD false)
  | .html => false

/-! ## Classes of HTML elements -/

/-- Elements that never have contents. -/
def emptyElements : List String := [
  "area", "base", "basefont", "bgsound", "br", "col", "embed", "frame", "hr", "image", "img",
  "input", "keygen", "link", "meta", "param", "source", "track", "wbr"]

/-- Elements that stand in the head of a document. -/
def headElements : List String := [
  "base", "basefont", "bgsound", "link", "meta", "noframes", "script", "style", "template", "title"]

/-- Elements with raw text in the head of a document. -/
def rawHeadElements : List String := ["noframes", "style", "title"]

/-- Elements with raw text elsewhere. -/
def rawElements : List String := ["iframe", "noembed", "noscript", "textarea", "xmp"]

/-- Elements that only count inside a table or in the frame of a document. -/
def misplacedElements : List String := [
  "caption", "col", "colgroup", "frame", "head", "tbody", "td", "tfoot", "th", "thead", "tr"]

/-- Elements behind which a document cannot be a set of frames any more. -/
def framelessElements : List String := [
  "applet", "area", "br", "button", "dd", "dt", "embed", "hr", "iframe", "image", "img", "keygen",
  "li", "listing", "marquee", "object", "pre", "select", "table", "textarea", "wbr", "xmp"]

/-- Elements that a search for another end tag does not pass. -/
def specialElements : List String := [
  "address", "applet", "area", "article", "aside", "base", "basefont", "bgsound", "blockquote",
  "body", "br", "button", "caption", "center", "col", "colgroup", "dd", "details", "dir", "div",
  "dl", "dt", "embed", "fieldset", "figcaption", "figure", "footer", "form", "frame", "frameset",
  "h1", "h2", "h3", "h4", "h5", "h6", "head", "header", "hgroup", "hr", "html", "iframe", "img",
  "input", "keygen", "li", "link", "listing", "main", "marquee", "menu", "meta", "nav", "noembed",
  "noframes", "noscript", "object", "ol", "p", "param", "plaintext", "pre", "script", "section",
  "select", "source", "style", "summary", "table", "tbody", "td", "template", "textarea", "tfoot",
  "th", "thead", "title", "tr", "track", "ul", "wbr", "xmp"]

/-- Whether a search for another end tag does not pass an element. -/
def Frame.isSpecial (f : Frame) : Bool :=
  match f.vocabulary with
  | .html => specialElements.contains f.name
  | .math => ["mi", "mo", "mn", "ms", "mtext", "annotation-xml"].contains f.name
  | .svg => ["foreignobject", "desc", "title"].contains f.name

/-- Elements that are closed by their own end tag, however deep they are, if it is in scope. -/
def blockElements : List String := [
  "address", "applet", "article", "aside", "blockquote", "button", "center", "dd", "details",
  "dialog", "dir", "div", "dl", "dt", "fieldset", "figcaption", "figure", "footer", "form", "h1",
  "h2", "h3", "h4", "h5", "h6", "header", "hgroup", "li", "listing", "main", "marquee", "menu",
  "nav", "object", "ol", "p", "pre", "search", "section", "summary", "ul"]

/-- Headings, any of which an end tag of a heading closes. -/
def headings : List String := ["h1", "h2", "h3", "h4", "h5", "h6"]

/-- Elements that change how text looks; their end tags do not close what is around text. -/
def formattingElements : List String := [
  "a", "b", "big", "code", "em", "font", "i", "nobr", "s", "small", "strike", "strong", "tt", "u"]

/-- Elements that end foreign content. -/
def breakoutElements : List String := [
  "b", "big", "blockquote", "body", "br", "center", "code", "dd", "div", "dl", "dt", "em", "embed",
  "h1", "h2", "h3", "h4", "h5", "h6", "head", "hr", "i", "img", "li", "listing", "menu", "meta",
  "nobr", "ol", "p", "pre", "ruby", "s", "small", "span", "strong", "strike", "sub", "sup", "table",
  "tt", "u", "ul", "var"]

/-- Whether a start tag ends foreign content. -/
def breaksOut (t : Tag) : Bool :=
  breakoutElements.contains t.name ||
    (t.name == "font" &&
      ["color", "face", "size"].any fun name => (t.attribute? name).isSome)

/-- The elements of a table that can be the current one while something is misplaced. -/
def tableStructure : List String := ["table", "tbody", "tfoot", "thead", "tr"]

/-- The parts of a table. -/
def tableParts : List String :=
  ["caption", "col", "colgroup", "tbody", "td", "tfoot", "th", "thead", "tr"]

/-- The groups of rows of a table. -/
def rowGroups : List String := ["tbody", "tfoot", "thead"]

/-! ## Scopes -/

/-- The elements that bound an ordinary scope. -/
def boundsScope (f : Frame) : Bool :=
  match f.vocabulary with
  | .html =>
      ["applet", "caption", "html", "table", "td", "th", "marquee", "object", "template"].contains
        f.name
  | _ => f.isSpecial

/-- The elements that bound the scope of a table. -/
def boundsTableScope (f : Frame) : Bool := f.isOneOf ["html", "table", "template"]

/-- The elements that bound the scope of a list of options. -/
def boundsSelectScope (f : Frame) : Bool := !f.isOneOf ["optgroup", "option"]

/-- Whether one of some HTML elements is open inside the scope with the given bounds. -/
def inScope (bounds : Frame → Bool) (names : List String) : List Frame → Bool
  | [] => false
  | f :: outer => f.isOneOf names || (!bounds f && inScope bounds names outer)

end UnitResolution.Markup
