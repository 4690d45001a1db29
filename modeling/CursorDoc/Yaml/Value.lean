import CursorDoc.Dictionary
import CursorDoc.Yaml.Node
import CursorDoc.Yaml.Number
import CursorDoc.Yaml.Timestamp

/-!
# Values of a document

The values that the nodes of a document stand for. Collections are reached one
level after the other, each node once, so a collection may contain itself.
Merge keys are replaced by the entries of the mappings they name first.
-/

namespace CursorDoc.Yaml

inductive Value where
  | null
  | bool (b : Bool)
  | int (n : Int)
  | text (t : Text)
  /-- Any other scalar: a float, a point in time, bytes. -/
  | scalar
  /-- The mapping of a node. -/
  | mapping (id : Nat)
  | collection
deriving DecidableEq, Repr

/-- Whether a value can be a key of a mapping. -/
def Value.isKey : Value → Bool
  | .mapping _ => false
  | .collection => false
  | _ => true

abbrev Entries := Dictionary Value Value

/-- The values of a document: the outermost one, and the entries of its mappings. -/
structure Values where
  root : Value
  mappings : List (Nat × Entries)
deriving Repr

def Values.entries? (values : Values) : Value → Option Entries
  | .mapping id => (values.mappings.find? (·.1 == id)).map (·.2)
  | _ => none

/-! ## Scalars -/

/-- The text of a scalar. A mapping with a value key is as good as the scalar of that key; `limit`
such keys can be followed in a row, the scalar itself included. -/
def scalarText (store : Store) : Nat → Nat → Except Fault Text
  | 0, _ => .error (.scalar .tooDeep)
  | limit + 1, id =>
    match (store.node id).content with
    | .scalar text => .ok text
    | .sequence _ => .error .malformed
    | .mapping entries =>
      match entries.find? fun (key, _) => (store.node key).tag = .value with
      | some (_, value) => scalarText store limit value
      | none => .error .malformed

def boolOf? (word : Text) : Option Bool :=
  if ["yes".toList, "true".toList, "on".toList].contains word then some true
  else if ["no".toList, "false".toList, "off".toList].contains word then some false
  else none

/-- The place in a group of four characters and the padding so far, after one more character. -/
def base64Step : Nat × Nat → Char → Nat × Nat
  | (place, padding), c =>
    if c = '=' then
      if place < 2 then (place, padding) else (place, padding + 1)
    else if c.isAlphanum || c == '+' || c == '/' then ((place + 1) % 4, 0)
    else (place, padding)

/-- Whether a text has the form of bytes in base sixty-four. Reading stops at a complete padding,
and other characters are passed over. -/
def isBase64From : Nat × Nat → Text → Bool
  | (place, _), [] => place == 0
  | state, c :: r =>
    let next := base64Step state c
    (c == '=' && 2 ≤ next.1 && 4 ≤ next.1 + next.2) || isBase64From next r

def isBase64 (t : Text) : Bool := t.all (·.toNat < 0x80) && isBase64From (0, 0) t

def scalarValue (tag : Tag) (isText : Bool) (text : Text) : Except Fault Value :=
  match tag with
  | .null => .ok .null
  | .bool =>
    match boolOf? text.lower with
    | some b => .ok (.bool b)
    | none => .error (.scalar (.bool text.lower))
  | .int => ((readInteger text).mapError .scalar).map .int
  | .float => ((checkFloat text).mapError .scalar).map fun _ => .scalar
  | .binary => if isBase64 text then .ok .scalar else .error .malformed
  | .timestamp =>
    if isText then ((Timestamp.check text).mapError .scalar).map fun _ => .scalar
    else .error (.scalar .timestampKind)
  | .text => .ok (.text text)
  | _ => .error .malformed

/-! ## Merging -/

/-- The number of merge keys in all mappings. -/
def mergeKeys (store : Store) : Nat :=
  (store.toList.flatMap fun node =>
    match node.content with
    | .mapping entries => entries.filter fun (key, _) => (store.node key).tag = .merge
    | _ => []).length

def entriesOf (store : Store) (id : Nat) : List (Nat × Nat) :=
  match (store.node id).content with
  | .mapping entries => entries
  | _ => []

def setEntries (store : Store) (id : Nat) (entries : List (Nat × Nat)) : Store :=
  store.setIfInBounds id { store.node id with content := .mapping entries }

/-- Make value keys ordinary texts. -/
def plainKeys (store : Store) (entries : List (Nat × Nat)) : Store :=
  entries.foldl (fun store (key, _) =>
    if (store.node key).tag = .value then
      store.setIfInBounds key { store.node key with tag := .text }
    else store) store

mutual

/-- Replace the merge keys of a mapping from entry `place` on. `merged` are the entries that come
in so far. Every step that goes on takes a merge key away, so `limit` bounds their number. Mappings
that are merged into one another are followed as long as there is `room`. -/
def mergeFrom : Nat → Nat → Nat → Nat → List (Nat × Nat) → Store → Except Fault Store
  | limit, room, id, place, merged, store =>
    if room = 0 then .error (.scalar .tooDeep) else
    let entries := entriesOf store id
    let isMerge := fun (entry : Nat × Nat) => (store.node entry.1).tag = .merge
    let before := (entries.drop place).takeWhile fun entry => !isMerge entry
    match (entries.drop place).dropWhile fun entry => !isMerge entry with
    | [] =>
      let store := plainKeys store before
      .ok (if merged.isEmpty then store else setEntries store id (merged ++ entries))
    | (_, source) :: after =>
      match limit with
      | 0 => .error .malformed
      | limit + 1 => do
        let place := place + before.length
        let store := setEntries (plainKeys store before) id (entries.take place ++ after)
        match (store.node source).content with
        | .mapping _ =>
          let store ← mergeFrom limit (room - 1) source 0 [] store
          mergeFrom limit room id place (merged ++ entriesOf store source) store
        | .sequence items =>
          let (store, lists) ← mergeAll limit (room - 1) items store
          mergeFrom limit room id place (merged ++ lists.reverse.flatten) store
        | .scalar _ => .error .malformed

/-- Replace the merge keys of several mappings, and collect their entries. -/
def mergeAll : Nat → Nat → List Nat → Store → Except Fault (Store × List (List (Nat × Nat)))
  | _, _, [], store => .ok (store, [])
  | limit, room, item :: items, store =>
    match (store.node item).content with
    | .mapping _ => do
      let store ← mergeFrom limit room item 0 [] store
      let (store', lists) ← mergeAll limit room items store
      .ok (store', entriesOf store item :: lists)
    | _ => .error .malformed

end

/-! ## Collections -/

structure ValueState where
  store : Store
  /-- How many value keys or merged mappings can be followed in a row. -/
  chain : Nat
  /-- The collections that were met, oldest first. -/
  met : List Nat := []
  mappings : List (Nat × Entries) := []

abbrev Evaluate := StateT ValueState (Except Fault)

namespace Evaluate

def malformed {α : Type} : Evaluate α := throw .malformed

/-- Remember a collection whose content is still to be looked at. -/
def meet (id : Nat) : Evaluate Unit :=
  modify fun s => if s.met.contains id then s else { s with met := s.met ++ [id] }

def value (id : Nat) : Evaluate Value := do
  let { store, chain, .. } ← get
  let node := store.node id
  match node.tag with
  | .mapping =>
    meet id
    pure (.mapping id)
  | .sequence => collection id
  | .orderedMap => collection id
  | .pairs => collection id
  | .set => collection id
  | .merge => malformed
  | .value => malformed
  | .other => malformed
  | tag =>
    let text ← (scalarText store (chain + 1) id : Except Fault Text)
    let isText := match node.content with
      | .scalar _ => true
      | _ => false
    (scalarValue tag isText text : Except Fault Value)
where
  collection (id : Nat) : Evaluate Value := do
    meet id
    pure .collection

def entries (nodes : List (Nat × Nat)) : Evaluate Entries :=
  nodes.foldlM (fun entries (keyNode, valueNode) => do
    let key ← value keyNode
    if !key.isKey then malformed
    let value ← value valueNode
    pure (entries.insert key value)) []

def mergedEntries (id : Nat) : Evaluate Entries := do
  let s ← get
  let store ← (mergeFrom (mergeKeys s.store + 1) (s.chain + 1) id 0 [] s.store : Except Fault Store)
  set { s with store }
  entries (entriesOf store id)

def look (id : Nat) : Evaluate Unit := do
  let store := (← get).store
  let node := store.node id
  match node.tag, node.content with
  | .mapping, .mapping _ =>
    let found ← mergedEntries id
    modify fun s => { s with mappings := s.mappings ++ [(id, found)] }
  | .set, .mapping _ => discard (mergedEntries id)
  | .sequence, .sequence items => items.forM fun item => discard (value item)
  | .orderedMap, .sequence items => items.forM pair
  | .pairs, .sequence items => items.forM pair
  | _, _ => malformed
where
  pair (id : Nat) : Evaluate Unit := do
    match entriesOf (← get).store id with
    | [(key, item)] =>
      discard (value key)
      discard (value item)
    | _ => malformed

/-- Look at the collections that were met, from number `place` on, those that are met on the way
included. No collection is met twice, so `limit` bounds their number. -/
def lookFrom : Nat → Nat → Evaluate Unit
  | 0, _ => pure ()
  | limit + 1, place => do
    match (← get).met[place]? with
    | none => pure ()
    | some id =>
      look id
      lookFrom limit (place + 1)

end Evaluate

def Values.ofDocument? (chain : Nat) (document : Document) : Except Fault (Option Values) :=
  match document.root with
  | none => .ok none
  | some root =>
    let evaluation : Evaluate Value := do
      let value ← Evaluate.value root
      Evaluate.lookFrom document.store.size 0
      pure value
    match evaluation.run { store := document.store, chain } with
    | .ok (root, s) => .ok (some { root, mappings := s.mappings })
    | .error fault => .error fault

end CursorDoc.Yaml
