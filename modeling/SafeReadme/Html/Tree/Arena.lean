import SafeReadme.Html.Tree.Name

/-!
# Trees under construction

While a tree is built its nodes move about, so they are kept in an array and refer to each other by
number. The children of a node are listed last first. `nodes?` reads the finished tree.
-/

namespace SafeReadme.Html

abbrev NodeId := Nat

inductive Content where
  | element (name : ElementName) (attributes : List Attribute)
  | text (content : String)
  | comment
  /-- The top of a tree: the document, or the contents of a template. -/
  | root
  deriving DecidableEq, Repr, Inhabited

structure Entry where
  content : Content
  parent : Option NodeId
  /-- The last child first. -/
  children : List NodeId
  /-- Where the contents of a template hang. -/
  contents : Option NodeId
  deriving Repr, Inhabited

structure Arena where
  entries : Array Entry
  deriving Repr, Inhabited

namespace Arena

def entry (a : Arena) (id : NodeId) : Entry :=
  a.entries[id]?.getD ⟨.root, none, [], none⟩

def content (a : Arena) (id : NodeId) : Content :=
  (a.entry id).content

/-- The name of an element; the top of a tree counts as `html`. -/
def name (a : Arena) (id : NodeId) : ElementName :=
  match a.content id with
  | .element name _ => name
  | _ => ⟨.html, "html"⟩

def modify (a : Arena) (id : NodeId) (f : Entry → Entry) : Arena :=
  ⟨a.entries.modify id f⟩

def size (a : Arena) : NodeId :=
  a.entries.size

/-- Adds a node without a place; its number is `a.size`. -/
def create (a : Arena) (content : Content) : Arena :=
  ⟨a.entries.push ⟨content, none, [], none⟩⟩

def createElement (a : Arena) (name : ElementName) (attributes : List Attribute) : Arena :=
  if name.is "template" then
    ⟨(a.entries.push ⟨.element name attributes, none, [], some (a.size + 1)⟩).push
      ⟨.root, none, [], none⟩⟩
  else a.create (.element name attributes)

def detach (a : Arena) (id : NodeId) : Arena :=
  match (a.entry id).parent with
  | none => a
  | some parent =>
      (a.modify parent (fun e => { e with children := e.children.erase id })).modify id
        (fun e => { e with parent := none })

def append (a : Arena) (parent id : NodeId) : Arena :=
  (a.modify parent (fun e => { e with children := id :: e.children })).modify id
    (fun e => { e with parent := some parent })

def placeBefore (sibling id : NodeId) : List NodeId → List NodeId
  | [] => [id]
  | child :: rest =>
      if child = sibling then child :: id :: rest else child :: placeBefore sibling id rest

def insertBefore (a : Arena) (parent sibling id : NodeId) : Arena :=
  (a.modify parent (fun e => { e with children := placeBefore sibling id e.children })).modify id
    (fun e => { e with parent := some parent })

def isText (a : Arena) (id : NodeId) : Bool :=
  match a.content id with
  | .text _ => true
  | _ => false

def leadingText? (a : Arena) : List NodeId → Option NodeId
  | [] => none
  | id :: _ => if a.isText id then some id else none

def extend (a : Arena) (id : NodeId) (more : String) : Arena :=
  a.modify id (fun e =>
    match e.content with
    | .text content => { e with content := .text (content ++ more) }
    | _ => e)

def appendText (a : Arena) (parent : NodeId) (content : String) : Arena :=
  match a.leadingText? (a.entry parent).children with
  | some last => a.extend last content
  | none => (a.create (.text content)).append parent a.size

def insertTextBefore (a : Arena) (parent sibling : NodeId) (content : String) : Arena :=
  match a.leadingText? (((a.entry parent).children.dropWhile (· != sibling)).drop 1) with
  | some last => a.extend last content
  | none => (a.create (.text content)).insertBefore parent sibling a.size

def moveChildren (a : Arena) (source target : NodeId) : Arena :=
  let moved := (a.entry source).children
  let a := moved.foldl (fun a id => a.modify id (fun e => { e with parent := some target })) a
  (a.modify source (fun e => { e with children := [] })).modify target
    (fun e => { e with children := moved ++ e.children })

/-- The trees of these nodes, or `none` if a chain of more than `levels` nodes hangs from them. -/
def nodes? (a : Arena) : (levels : Nat) → List NodeId → Option (List Node)
  | 0, ids => if ids.isEmpty then some [] else none
  | levels + 1, ids => do
      let trees ← ids.mapM (fun id =>
        match a.content id with
        | .element name attributes => do
            let children ← a.nodes? levels (a.entry id).children.reverse
            pure [Node.element name.tag attributes children]
        | .text content => pure (if content.isEmpty then [] else [Node.text content])
        | _ => pure [])
      pure trees.flatten

end Arena

end SafeReadme.Html
