import CursorDoc.Yaml.Fault
import CursorDoc.Yaml.Tag
import CursorDoc.Yaml.Token

/-!
# Nodes of a document

A document is a graph: an alias makes a node appear in several places, even
inside itself. Nodes are kept in a store and refer to each other by number.
`Document.ofTokens` reads the first document of a token list, which has to be
the only one.
-/

namespace CursorDoc.Yaml

inductive Content where
  | scalar (text : Text)
  | sequence (items : List Nat)
  | mapping (entries : List (Nat × Nat))
deriving DecidableEq, Repr

structure Node where
  tag : Tag
  content : Content
deriving DecidableEq, Repr

abbrev Store := Array Node

/-- The node of a number; numbers without a node stand for an empty scalar. -/
def Store.node (store : Store) (id : Nat) : Node := store.getD id ⟨.null, .scalar []⟩

structure Document where
  store : Store
  /-- The outermost node; documents without content have none. -/
  root : Option Nat
deriving Repr

/-! ## Reading tokens -/

structure BuildState where
  tokens : List Token
  /-- What to report where the tokens end too early. -/
  fault : Fault
  store : Store := #[]
  anchors : List (Text × Nat) := []
  handles : List (Text × Text) := []

abbrev Build := StateT BuildState (Except Fault)

namespace Build

/-- The next token, which stays. -/
def peek : Build Token := do
  let s ← get
  match s.tokens with
  | token :: _ => pure token
  | [] => throw s.fault

def skip : Build Unit := modify fun s => { s with tokens := s.tokens.tail }

def malformed {α : Type} : Build α := throw .malformed

structure Properties where
  anchor : Option Text := none
  tag : Option Text := none

def tagName (name : TagName) : Build Text := do
  match name.handle with
  | none => pure name.suffix
  | some handle =>
    match (← get).handles.find? (·.1 == handle) with
    | some (_, start) => pure (start ++ name.suffix)
    | none => malformed

/-- An anchor and a tag, in either order, each at most once. -/
def properties : Build Properties := do
  match ← peek with
  | .anchor name =>
    skip
    match ← peek with
    | .tag written => do
      skip
      pure { anchor := some name, tag := some (← tagName written) }
    | _ => pure { anchor := some name }
  | .tag written =>
    skip
    match ← peek with
    | .anchor name => do
      skip
      pure { anchor := some name, tag := some (← tagName written) }
    | _ => pure { tag := some (← tagName written) }
  | _ => pure {}

/-- Whether a tag was given that says something; a lone exclamation mark does not. -/
def Properties.explicit? (p : Properties) : Option Tag :=
  match p.tag with
  | none => none
  | some name => if name = ['!'] then none else some (.ofName name)

/-- The tag of a scalar. Without a tag, quoted scalars are texts; a lone exclamation mark makes
them be read like plain ones. -/
def Properties.scalarTag (p : Properties) (text : Text) (plain : Bool) : Tag :=
  match p.explicit? with
  | some tag => tag
  | none => if plain || p.tag.isSome then .ofText text else .text

/-- Add a node, and remember its anchor, which has to be new. -/
def add (p : Properties) (node : Node) : Build Nat := do
  let s ← get
  let id := s.store.size
  match p.anchor with
  | none => set { s with store := s.store.push node }
  | some name =>
    if s.anchors.any (·.1 == name) then malformed
    else set { s with store := s.store.push node, anchors := (name, id) :: s.anchors }
  pure id

def fill (id : Nat) (content : Content) : Build Unit :=
  modify fun s => { s with
    store := s.store.setIfInBounds id { s.store.node id with content := content } }

def addEmpty (p : Properties) : Build Nat := add p ⟨p.scalarTag [] true, .scalar []⟩

/-- Where a node stands, which decides what it may be. -/
inductive Context where
  | block
  /-- The key or value of a block mapping, where a sequence needs no indentation of its own. -/
  | blockEntry
  | flow
deriving DecidableEq, Repr

mutual

/-- A node; `limit` bounds the number of steps. -/
def node : Nat → Context → Build Nat
  | 0, _ => malformed
  | limit + 1, context => do
    match ← peek with
    | .alias name =>
      skip
      match (← get).anchors.find? (·.1 == name) with
      | some (_, id) => pure id
      | none => malformed
    | _ =>
      let p ← properties
      match ← peek with
      | .scalar text plain =>
        skip
        add p ⟨p.scalarTag text plain, .scalar text⟩
      | .flowSequenceStart =>
        let id ← add p ⟨p.explicit?.getD .sequence, .sequence []⟩
        skip
        fill id (.sequence (← flowItems limit true))
        pure id
      | .flowMappingStart =>
        let id ← add p ⟨p.explicit?.getD .mapping, .mapping []⟩
        skip
        fill id (.mapping (← flowEntries limit true))
        pure id
      | .blockEntry =>
        if context = .blockEntry then
          let id ← add p ⟨p.explicit?.getD .sequence, .sequence []⟩
          fill id (.sequence (← looseItems limit))
          pure id
        else noContent p
      | .blockSequenceStart =>
        if context = .flow then noContent p
        else
          let id ← add p ⟨p.explicit?.getD .sequence, .sequence []⟩
          skip
          fill id (.sequence (← blockItems limit))
          pure id
      | .blockMappingStart =>
        if context = .flow then noContent p
        else
          let id ← add p ⟨p.explicit?.getD .mapping, .mapping []⟩
          skip
          fill id (.mapping (← blockEntries limit))
          pure id
      | _ => noContent p

/-- A place with an anchor or a tag alone is an empty node. -/
def noContent (p : Properties) : Build Nat :=
  if p.anchor.isSome || p.tag.isSome then addEmpty p else malformed

/-- The items of an indented sequence, and its end. -/
def blockItems : Nat → Build (List Nat)
  | 0 => malformed
  | limit + 1 => do
    match ← peek with
    | .blockEntry =>
      skip
      let item ← match ← peek with
        | .blockEntry => addEmpty {}
        | .blockEnd => addEmpty {}
        | _ => node limit .block
      return item :: (← blockItems limit)
    | .blockEnd =>
      skip
      pure []
    | _ => malformed

/-- The items of a sequence that is not indented; it ends where no item follows. -/
def looseItems : Nat → Build (List Nat)
  | 0 => malformed
  | limit + 1 => do
    match ← peek with
    | .blockEntry =>
      skip
      let item ← match ← peek with
        | .blockEntry => addEmpty {}
        | .key => addEmpty {}
        | .value => addEmpty {}
        | .blockEnd => addEmpty {}
        | _ => node limit .block
      return item :: (← looseItems limit)
    | _ => pure []

/-- The key or the value of a block mapping, which may be empty. -/
def blockPart (limit : Nat) : Build Nat := do
  match ← peek with
  | .key => addEmpty {}
  | .value => addEmpty {}
  | .blockEnd => addEmpty {}
  | _ => node limit .blockEntry

/-- The entries of a block mapping, and its end. -/
def blockEntries : Nat → Build (List (Nat × Nat))
  | 0 => malformed
  | limit + 1 => do
    match ← peek with
    | .key =>
      skip
      let key ← blockPart limit
      let value ← match ← peek with
        | .value => do
          skip
          blockPart limit
        | _ => addEmpty {}
      return (key, value) :: (← blockEntries limit)
    | .blockEnd =>
      skip
      pure []
    | _ => malformed

/-- The items of a sequence in brackets, and its end. A key in it makes a mapping of one entry. -/
def flowItems : Nat → Bool → Build (List Nat)
  | 0, _ => malformed
  | limit + 1, isFirst => do
    match ← peek with
    | .flowSequenceEnd =>
      skip
      pure []
    | token =>
      if !isFirst then
        if token = .flowEntry then skip else malformed
      match ← peek with
      | .flowSequenceEnd =>
        skip
        pure []
      | .key =>
        let pair ← add {} ⟨.mapping, .mapping []⟩
        skip
        let key ← match ← peek with
          | .value => addEmpty {}
          | .flowEntry => addEmpty {}
          | .flowSequenceEnd => addEmpty {}
          | _ => node limit .flow
        let value ← match ← peek with
          | .value => do
            skip
            match ← peek with
            | .flowEntry => addEmpty {}
            | .flowSequenceEnd => addEmpty {}
            | _ => node limit .flow
          | _ => addEmpty {}
        fill pair (.mapping [(key, value)])
        return pair :: (← flowItems limit false)
      | _ =>
        let item ← node limit .flow
        return item :: (← flowItems limit false)

/-- The entries of a mapping in braces, and its end. -/
def flowEntries : Nat → Bool → Build (List (Nat × Nat))
  | 0, _ => malformed
  | limit + 1, isFirst => do
    match ← peek with
    | .flowMappingEnd =>
      skip
      pure []
    | token =>
      if !isFirst then
        if token = .flowEntry then skip else malformed
      match ← peek with
      | .flowMappingEnd =>
        skip
        pure []
      | .key =>
        skip
        let key ← match ← peek with
          | .value => addEmpty {}
          | .flowEntry => addEmpty {}
          | .flowMappingEnd => addEmpty {}
          | _ => node limit .flow
        let value ← match ← peek with
          | .value => do
            skip
            match ← peek with
            | .flowEntry => addEmpty {}
            | .flowMappingEnd => addEmpty {}
            | _ => node limit .flow
          | _ => addEmpty {}
        return (key, value) :: (← flowEntries limit false)
      | _ =>
        let key ← node limit .flow
        let value ← addEmpty {}
        return (key, value) :: (← flowEntries limit false)

end

/-! ## Documents -/

/-- The tag handles that need no directive. -/
def defaultHandles : List (Text × Text) := [(['!'], ['!']), (['!', '!'], Tag.start)]

/-- Take in the directives at the front of some tokens: the handles they declare, and whether there
was a version. -/
def directives : List Token → List (Text × Text) → Bool → Build (List (Text × Text))
  | .directive (.version major) :: rest, handles, versioned => do
    skip
    if versioned || major != 1 then malformed else directives rest handles true
  | .directive (.tagHandle handle start) :: rest, handles, versioned => do
    skip
    if handles.any (·.1 == handle) then malformed
    else directives rest (handles ++ [(handle, start)]) versioned
  | .directive .other :: rest, handles, versioned => do
    skip
    directives rest handles versioned
  | _, handles, _ => pure handles

def documentStart : Build Unit := do
  let handles ← directives (← get).tokens [] false
  match ← peek with
  | .documentStart =>
    skip
    let missing := defaultHandles.filter fun (handle, _) => !handles.any (·.1 == handle)
    modify fun s => { s with handles := handles ++ missing }
  | _ => malformed

/-- Skip marks that end a document. -/
def skipEnds : List Token → Build Unit
  | .documentEnd :: rest => do
    skip
    skipEnds rest
  | _ => pure ()

def document (limit : Nat) : Build (Option Nat) := do
  match ← peek with
  | .streamEnd => pure none
  | token =>
    let explicitStart := match token with
      | .directive _ => true
      | .documentStart => true
      | _ => false
    let root ← if explicitStart then do
        documentStart
        match ← peek with
        | .directive _ => addEmpty {}
        | .documentStart => addEmpty {}
        | .documentEnd => addEmpty {}
        | .streamEnd => addEmpty {}
        | _ => node limit .block
      else do
        modify fun s => { s with handles := defaultHandles }
        node limit .block
    let _ ← peek
    skipEnds (← get).tokens
    match ← peek with
    | .streamEnd => pure (some root)
    | _ =>
      documentStart
      malformed

end Build

/-- The document that tokens describe; `fault` is what ended them too early, if something did.
Every step of a reading takes a token or goes down one level, so four steps for each suffice. -/
def Document.ofTokens (tokens : List Token) (fault : Option Fault) : Except Fault Document :=
  match (Build.document (4 * tokens.length + 4)).run
      { tokens, fault := fault.getD .malformed } with
  | .ok (root, s) => .ok { store := s.store, root }
  | .error fault => .error fault

end CursorDoc.Yaml
