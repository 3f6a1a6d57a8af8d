import FpgaHost.Xml.Token

/-!
# Documents

A document is one element around nested elements. `Element.ofTokens?` builds it from the pieces of
markup with a stack of the elements still open, so nesting needs no recursion of its own;
`parse?` is the reader from text. Names are resolved against the scopes that `xmlns` attributes
declare: a scope that no enclosing tag declares makes the document void, and so do two attributes
of one tag whose resolved names agree. The scope `xml` is known without declaration, for attributes
alone: declaring it adds nothing, and a tag cannot be taken from it.

A document has no type declaration, and the values in its own declaration are not consulted: the
text is decoded already.
-/

namespace FpgaHost.Xml

/-- An element: its name, the attributes that are no declarations of scopes, and the elements in
it. -/
inductive Element where
  /-- An element from its parts. -/
  | mk (name : QName) (attributes : List Attribute) (children : List Element)

namespace Element

/-- The name of an element. -/
def name : Element → QName
  | mk name _ _ => name

/-- The attributes of an element, in order. -/
def attributes : Element → List Attribute
  | mk _ attributes _ => attributes

/-- The elements in an element, in order. -/
def children : Element → List Element
  | mk _ _ children => children

/-- The base of an element's name. -/
def tag (e : Element) : String := e.name.base

/-- The value of the attribute without scope that has a name. -/
def attribute? (e : Element) (base : String) : Option String :=
  (e.attributes.find? fun a => a.name = ⟨none, base⟩).map (·.value)

/-- The elements in an element that have a tag, in order. -/
def childrenTagged (e : Element) (tag : String) : List Element :=
  e.children.filter fun c => c.tag = tag

/-- The first element in an element that has a tag. -/
def child? (e : Element) (tag : String) : Option Element :=
  e.children.find? fun c => c.tag = tag

end Element

/-! ### Scopes -/

/-- The scopes in force: names with the identifiers they stand for, innermost first. -/
abbrev Scopes := List (String × String)

/-- The scope of attributes that concern the markup itself. It needs no declaration, and only
attributes are taken from it. -/
def markupScope : String := "xml"

/-- The name that declares: alone the default scope, as a scope the one of that base. -/
def declarator : String := "xmlns"

/-- The identifier that the scope of markup stands for. -/
def markupIdentifier : String :=
  "/".intercalate ["http:", "", ".".intercalate ["www", "w3", "org"], "XML", "1998", "namespace"]

/-- The identifier that belongs to declarations and is no scope's. -/
def declarationIdentifier : String :=
  "/".intercalate ["http:", "", ".".intercalate ["www", "w3", "org"], "2000", "xmlns", ""]

/-- The scope that an attribute declares by name. -/
def Attribute.declaredScope? (a : Attribute) : Option String :=
  if a.name.scope = some declarator then some a.name.base else none

/-- Whether an attribute declares the default scope. What stands before its colon is not looked
at. -/
def Attribute.declaresDefault (a : Attribute) : Bool :=
  a.declaredScope?.isNone && a.name.base = declarator

/-- Whether an attribute is a declaration. -/
def Attribute.declares (a : Attribute) : Bool := a.declaredScope?.isSome || a.declaresDefault

/-- Whether a declaration leaves the built-in scopes as they are: the scope of markup and its
identifier belong together, and the identifier of declarations cannot be had. -/
def Attribute.isSound (a : Attribute) : Bool :=
  a.value ≠ declarationIdentifier &&
    (a.declaredScope? == some markupScope) == (a.value == markupIdentifier)

/-- The scope that a declaration adds. The default scope concerns no attribute and no tag by its
base, and the scope of markup is there already. -/
def Attribute.scope? (a : Attribute) : Option (String × String) :=
  (a.declaredScope?.filter (· ≠ markupScope)).map fun scope => (scope, a.value)

/-- A name with the identifier of its scope instead of the scope's name. Without a scope a name
belongs to none. -/
def Scopes.resolve? (scopes : Scopes) (name : QName) : Option (Option String × String) :=
  match name.scope with
  | none => some (none, name.base)
  | some scope => (scopes.lookup scope).map fun identifier => (some identifier, name.base)

/-- The name of an attribute, resolved; only here the scope of markup is known. -/
def Scopes.resolveAttribute? (scopes : Scopes) (a : Attribute) : Option (Option String × String) :=
  if a.name.scope = some markupScope then some (some markupIdentifier, a.name.base)
  else scopes.resolve? a.name

/-- Whether no entry of a list occurs again later. -/
def distinct {α : Type} [DecidableEq α] : List α → Bool
  | [] => true
  | a :: rest => !rest.contains a && distinct rest

/-- The scopes in force inside a tag and its proper attributes, if its declarations are sound and
declare no scope twice, all its names resolve and no two attributes agree. -/
def enter? (outer : Scopes) (name : QName) (attributes : List Attribute) :
    Option (Scopes × List Attribute) :=
  let declarations := attributes.filter (·.declares)
  let proper := attributes.filter (!·.declares)
  let declared : Scopes := declarations.filterMap (·.scope?)
  let scopes := declared ++ outer
  if declarations.all (·.isSound) && distinct (declared.map (·.1)) &&
      name.scope ≠ some declarator && (scopes.resolve? name).isSome then
    (proper.mapM scopes.resolveAttribute?).bind fun resolved =>
      if distinct resolved then some (scopes, proper) else none
  else none

/-! ### Elements from markup -/

/-- An element whose end tag is still to come. -/
structure OpenElement where
  /-- The name. -/
  name : QName
  /-- The proper attributes. -/
  attributes : List Attribute
  /-- The scopes in force inside. -/
  scopes : Scopes
  /-- The elements read so far, last first. -/
  children : List Element

/-- The scopes in force inside the innermost open element. -/
def scopesOf : List OpenElement → Scopes
  | [] => []
  | top :: _ => top.scopes

/-- The state between two pieces of markup: the outermost element once it has ended, and the open
elements, innermost first. -/
structure Reading where
  /-- The outermost element, once it has ended. -/
  root : Option Element := none
  /-- The open elements, innermost first. -/
  stack : List OpenElement := []

/-- Puts an element that has ended into the innermost open one, or makes it the outermost. -/
def Reading.attach (r : Reading) (e : Element) : Reading :=
  match r.stack with
  | [] => { r with root := some e }
  | top :: below => { r with stack := { top with children := e :: top.children } :: below }

/-- Takes one piece of markup into account; `none` where it cannot stand. -/
def Reading.step (r : Reading) : Token → Option Reading
  | .aside => some r
  | .blank => some r
  | .data => if r.stack.isEmpty then none else some r
  | .opening name attributes closed =>
    if r.stack.isEmpty && r.root.isSome then none
    else (enter? (scopesOf r.stack) name attributes).map fun (scopes, proper) =>
      if closed then r.attach (.mk name proper [])
      else { r with stack := ⟨name, proper, scopes, []⟩ :: r.stack }
  | .closing name =>
    match r.stack with
    | [] => none
    | top :: below =>
      if top.name = name then
        some ({ r with stack := below }.attach (.mk top.name top.attributes top.children.reverse))
      else none

/-- The element that a sequence of pieces spells. -/
def Element.ofTokens? (ts : List Token) : Option Element :=
  (ts.foldlM Reading.step {}).bind fun r => if r.stack.isEmpty then r.root else none

/-! ### Documents from text -/

/-- The white space between two entries of a declaration is dropped; before its end there need be
none. -/
def afterGap? (s : List Char) : Option (List Char) :=
  if s.head?.any isSpace || ['?', '>'].isPrefixOf s then some (s.dropWhile isSpace) else none

/-- What follows an entry of a declaration. Its value is not looked at. -/
def afterEntry? (s : List Char) : Option (List Char) :=
  (rawAttribute? s).bind fun r => afterGap? r.2

/-- What follows an entry whose name begins with a keyword, if there is one. -/
def afterOptional? (keyword : String) (s : List Char) : Option (List Char) :=
  if keyword.toList.isPrefixOf s then afterEntry? s else some s

/-- What follows a declaration, given what stands in it: the version, and then encoding and
standing if they are said, in this order. -/
def afterEntries? (s : List Char) : Option (List Char) := do
  if !"version".toList.isPrefixOf s then none
  let s ← afterEntry? s
  let s ← afterOptional? "encoding" s
  let s ← afterOptional? "standalone" s
  match s with
  | '?' :: '>' :: rest => some rest
  | _ => none

/-- What follows the declaration at the start of a document, if there is one. -/
def afterDeclaration? (s : List Char) : Option (List Char) :=
  let mark := '<' :: '?' :: declarationMark
  if mark.isPrefixOf s then afterEntries? ((s.drop mark.length).dropWhile isSpace) else some s

/-- A text without the byte order mark that may precede a document. -/
def afterMark : List Char → List Char
  | [] => []
  | c :: rest => if c = '\uFEFF' then rest else c :: rest

/-- A reader of documents: the outermost element of a text, `none` if it takes the text for no
document. -/
abbrev Reader := List Char → Option Element

/-- The outermost element of a well-formed document; `none` for any other text. -/
def parse? (text : List Char) : Option Element :=
  let s := afterMark text
  if s.all isChar then
    (afterDeclaration? s).bind fun rest => (tokens rest).bind Element.ofTokens?
  else none

end FpgaHost.Xml
