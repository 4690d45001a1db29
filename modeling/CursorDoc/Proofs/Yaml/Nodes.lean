import CursorDoc.Proofs.Yaml.Outline
import CursorDoc.Yaml.Node

/-!
# Nodes of an outline

The outermost node of an outline is a mapping. The nodes of its sections follow
in the order in which they are written: for each section the name, then its
value, and if that is a mapping its keys and values.
-/

namespace CursorDoc.Yaml

def Word.tag (w : Word) : Tag := if w.plain then .ofText w.text else .text

def Word.node (w : Word) : Node := ⟨w.tag, .scalar w.text⟩

def emptyNode : Node := ⟨.null, .scalar []⟩

def entryNodes (entry : Word × Word) : List Node := [entry.1.node, entry.2.node]

def entryPairs (first : Nat) : List (Word × Word) → List (Nat × Nat)
  | [] => []
  | _ :: entries => (first, first + 1) :: entryPairs (first + 2) entries

namespace Section

def valueNodes (first : Nat) (part : Section) : List Node :=
  if part.entries.isEmpty then [emptyNode]
  else ⟨.mapping, .mapping (entryPairs first part.entries)⟩ :: part.entries.flatMap entryNodes

def nodes (first : Nat) (part : Section) : List Node := part.name.node :: part.valueNodes (first + 2)

theorem length_nodes (part : Section) (first : Nat) : 2 ≤ (part.nodes first).length := by
  unfold nodes valueNodes
  split <;> simp

theorem length_le (part : Section) : part.entries.length + 3 ≤ part.tokens.length := by
  unfold tokens inner
  split
  · next h => simp [List.isEmpty_iff.mp h]
  · simp [entryTokens, List.map_const']
    omega

end Section

def outlineNodes (first : Nat) : List Section → List Node
  | [] => []
  | part :: parts => part.nodes first ++ outlineNodes (first + (part.nodes first).length) parts

def outlinePairs (first : Nat) : List Section → List (Nat × Nat)
  | [] => []
  | part :: parts => (first, first + 1) :: outlinePairs (first + (part.nodes first).length) parts

def outlineDocument (parts : List Section) : Document where
  store := (⟨.mapping, .mapping (outlinePairs 1 parts)⟩ :: outlineNodes 1 parts).toArray
  root := some 0

/-- The same state in front of some tokens, with some nodes. -/
def BuildState.facing (s : BuildState) (tokens : List Token) (nodes : List Node) : BuildState :=
  { s with tokens, store := nodes.toArray }

namespace Build

theorem run_bind_of {α β : Type} {x : Build α} {f : α → Build β} {s s' : BuildState} {a : α}
    (h : x.run s = .ok (a, s')) : (x >>= f).run s = (f a).run s' := by
  rw [StateT.run_bind, h]
  rfl

variable {s : BuildState}

/-! ## Steps -/

theorem run_peek (token : Token) (rest : List Token) (nodes : List Node) :
    peek.run (s.facing (token :: rest) nodes) = .ok (token, s.facing (token :: rest) nodes) := rfl

theorem run_skip (token : Token) (rest : List Token) (nodes : List Node) :
    skip.run (s.facing (token :: rest) nodes) = .ok ((), s.facing rest nodes) := rfl

theorem run_handles (handles : List (Text × Text)) (tokens : List Token) (nodes : List Node) :
    (modify fun s => { s with handles } : Build Unit).run (s.facing tokens nodes) =
      .ok ((), BuildState.facing { s with handles } tokens nodes) := rfl

theorem run_properties {token : Token} (ha : ∀ name, token ≠ .anchor name) (ht : ∀ name, token ≠ .tag name)
    (rest : List Token) (nodes : List Node) :
    properties.run (s.facing (token :: rest) nodes) = .ok ({}, s.facing (token :: rest) nodes) := by
  unfold properties
  rw [run_bind_of (run_peek token rest nodes)]
  split
  · exact absurd rfl (ha _)
  · exact absurd rfl (ht _)
  · rfl

theorem run_add (node : Node) (tokens : List Token) (nodes : List Node) :
    (add {} node).run (s.facing tokens nodes) = .ok (nodes.length, s.facing tokens (nodes ++ [node])) := by
  have hpush : nodes.toArray.push node = (nodes ++ [node]).toArray := by simp
  unfold BuildState.facing
  rw [← hpush]
  rfl

theorem run_fill (tag : Tag) (content content' : Content) (tokens : List Token) (nodes more : List Node) :
    (fill nodes.length content').run (s.facing tokens (nodes ++ ⟨tag, content⟩ :: more)) =
      .ok ((), s.facing tokens (nodes ++ ⟨tag, content'⟩ :: more)) := by
  have hset : (nodes ++ ⟨tag, content⟩ :: more).toArray.setIfInBounds nodes.length
      { Store.node (nodes ++ ⟨tag, content⟩ :: more).toArray nodes.length with content := content' } =
        (nodes ++ ⟨tag, content'⟩ :: more).toArray := by
    simp [Store.node]
  unfold BuildState.facing
  rw [← hset]
  rfl

/-! ## Nodes -/

theorem node_word (limit : Nat) (context : Context) (w : Word) (rest : List Token) (nodes : List Node) :
    (node (limit + 1) context).run (s.facing (w.token :: rest) nodes) =
      .ok (nodes.length, s.facing rest (nodes ++ [w.node])) := by
  have hnode : (⟨({} : Properties).scalarTag w.text w.plain, .scalar w.text⟩ : Node) = w.node := by
    simp [Word.node, Word.tag, Properties.scalarTag, Properties.explicit?]
  unfold node Word.token
  rw [run_bind_of (run_peek _ _ _)]
  dsimp only
  rw [run_bind_of (run_properties (by simp) (by simp) _ _), run_bind_of (run_peek _ _ _)]
  dsimp only
  rw [run_bind_of (run_skip _ _ _), hnode]
  exact run_add w.node rest nodes

/-- A mapping in a block of its own, once its entries are read. -/
theorem node_mapping {limit : Nat} {context : Context} (hc : context ≠ .flow) {tokens rest : List Token}
    {nodes more : List Node} {entries : List (Nat × Nat)}
    (h : (blockEntries limit).run (s.facing tokens (nodes ++ [⟨.mapping, .mapping []⟩])) =
      .ok (entries, s.facing rest (nodes ++ ⟨.mapping, .mapping []⟩ :: more))) :
    (node (limit + 1) context).run (s.facing (.blockMappingStart :: tokens) nodes) =
      .ok (nodes.length, s.facing rest (nodes ++ ⟨.mapping, .mapping entries⟩ :: more)) := by
  unfold node
  rw [run_bind_of (run_peek _ _ _)]
  dsimp only
  rw [run_bind_of (run_properties (by simp) (by simp) _ _), run_bind_of (run_peek _ _ _)]
  dsimp only
  rw [if_neg hc]
  change StateT.run (add {} ⟨.mapping, .mapping []⟩ >>= _) _ = _
  rw [run_bind_of (run_add _ _ _), run_bind_of (run_skip _ _ _), run_bind_of h, run_bind_of (run_fill _ _ _ _ _ _)]
  rfl

/-! ## Entries of a block -/

theorem blockPart_word (limit : Nat) (w : Word) (rest : List Token) (nodes : List Node) :
    (blockPart (limit + 1)).run (s.facing (w.token :: rest) nodes) =
      .ok (nodes.length, s.facing rest (nodes ++ [w.node])) := by
  unfold blockPart
  rw [run_bind_of (run_peek _ _ _)]
  exact node_word limit .blockEntry w rest nodes

/-- A value that is left out: the next key or the end of the block follows. -/
theorem blockPart_empty (limit : Nat) {token : Token} (h : token = .key ∨ token = .blockEnd) (rest : List Token)
    (nodes : List Node) :
    (blockPart limit).run (s.facing (token :: rest) nodes) =
      .ok (nodes.length, s.facing (token :: rest) (nodes ++ [emptyNode])) := by
  unfold blockPart
  rw [run_bind_of (run_peek _ _ _)]
  obtain rfl | rfl := h <;> exact run_add emptyNode _ nodes

/-- An entry of a block mapping, once its value and the entries behind it are read. -/
theorem blockEntries_key {limit : Nat} {k : Word} {tokens tokens' rest : List Token} {nodes nodes' nodes'' : List Node}
    {value : Nat} {entries : List (Nat × Nat)}
    (hv : (blockPart (limit + 1)).run (s.facing tokens (nodes ++ [k.node])) = .ok (value, s.facing tokens' nodes'))
    (he : (blockEntries (limit + 1)).run (s.facing tokens' nodes') = .ok (entries, s.facing rest nodes'')) :
    (blockEntries (limit + 2)).run (s.facing (.key :: k.token :: .value :: tokens) nodes) =
      .ok ((nodes.length, value) :: entries, s.facing rest nodes'') := by
  unfold blockEntries
  rw [run_bind_of (run_peek _ _ _)]
  dsimp only
  rw [run_bind_of (run_skip _ _ _), run_bind_of (blockPart_word _ _ _ _), run_bind_of (run_peek _ _ _)]
  dsimp only
  rw [run_bind_of (run_skip _ _ _), run_bind_of hv, run_bind_of he]
  rfl

theorem blockEntries_end (limit : Nat) (rest : List Token) (nodes : List Node) :
    (blockEntries (limit + 1)).run (s.facing (.blockEnd :: rest) nodes) = .ok ([], s.facing rest nodes) := by
  unfold blockEntries
  rw [run_bind_of (run_peek _ _ _)]
  dsimp only
  rw [run_bind_of (run_skip _ _ _)]
  rfl

theorem blockEntries_entries (entries : List (Word × Word)) {limit : Nat} (hl : entries.length + 2 ≤ limit)
    (rest : List Token) (nodes : List Node) :
    (blockEntries limit).run (s.facing (entries.flatMap entryTokens ++ .blockEnd :: rest) nodes) =
      .ok (entryPairs nodes.length entries, s.facing rest (nodes ++ entries.flatMap entryNodes)) := by
  induction entries generalizing limit nodes with
  | nil =>
    obtain ⟨limit, rfl⟩ := Nat.exists_eq_add_of_le' hl
    rw [List.flatMap_nil, List.flatMap_nil, List.append_nil, List.nil_append]
    exact blockEntries_end _ rest nodes
  | cons entry entries ih =>
    obtain ⟨limit, rfl⟩ := Nat.exists_eq_add_of_le' hl
    have hvalue := blockPart_word (s := s) (limit + (entries.length + 1)) entry.2
      (entries.flatMap entryTokens ++ .blockEnd :: rest) (nodes ++ [entry.1.node])
    have hrest := ih (show entries.length + 2 ≤ limit + (entries.length + 2) by omega)
      (nodes ++ [entry.1.node] ++ [entry.2.node])
    have hkey := blockEntries_key hvalue hrest
    simpa [entryPairs, entryNodes, entryTokens, Nat.add_assoc] using hkey

/-- The value of a section: nothing, or a mapping of its own. -/
theorem blockPart_section (part : Section) {limit : Nat} (hl : part.entries.length + 3 ≤ limit) {token : Token}
    (h : token = .key ∨ token = .blockEnd) (rest : List Token) (nodes : List Node) :
    (blockPart limit).run (s.facing (part.inner ++ token :: rest) nodes) =
      .ok (nodes.length, s.facing (token :: rest) (nodes ++ part.valueNodes (nodes.length + 1))) := by
  unfold Section.inner Section.valueNodes
  split
  · exact blockPart_empty limit h rest nodes
  · obtain ⟨limit, rfl⟩ := Nat.exists_eq_add_of_le' hl
    have hentries := blockEntries_entries (s := s) part.entries
      (show part.entries.length + 2 ≤ limit + (part.entries.length + 2) by omega) (token :: rest)
      (nodes ++ [⟨.mapping, .mapping []⟩])
    simp only [List.length_append, List.length_singleton, List.append_assoc, List.singleton_append] at hentries
    unfold blockPart
    simp only [List.append_assoc, List.cons_append, List.nil_append]
    rw [run_bind_of (run_peek _ _ _)]
    exact node_mapping (by decide) hentries

theorem blockEntries_sections (parts : List Section) {limit : Nat}
    (hl : (parts.flatMap Section.tokens).length + 2 ≤ limit) (rest : List Token) (nodes : List Node) :
    (blockEntries limit).run (s.facing (parts.flatMap Section.tokens ++ .blockEnd :: rest) nodes) =
      .ok (outlinePairs nodes.length parts, s.facing rest (nodes ++ outlineNodes nodes.length parts)) := by
  induction parts generalizing limit nodes with
  | nil =>
    obtain ⟨limit, rfl⟩ := Nat.exists_eq_add_of_le' hl
    rw [List.flatMap_nil, outlineNodes, List.append_nil, List.nil_append]
    exact blockEntries_end _ rest nodes
  | cons part parts ih =>
    -- behind a section comes the key of the next one, or the end of the block
    obtain ⟨token, rest', htoken, hrest'⟩ : ∃ token rest', (token = Token.key ∨ token = .blockEnd) ∧
        parts.flatMap Section.tokens ++ .blockEnd :: rest = token :: rest' := by
      cases parts with
      | nil => exact ⟨_, _, .inr rfl, rfl⟩
      | cons part' parts => exact ⟨_, _, .inl rfl, rfl⟩
    have hlen := part.length_le
    rw [List.flatMap_cons, List.length_append] at hl
    obtain ⟨limit, rfl⟩ := Nat.exists_eq_add_of_le' (show 2 ≤ limit by omega)
    have hvalue := blockPart_section (s := s) part (show part.entries.length + 3 ≤ limit + 1 by omega) htoken rest'
      (nodes ++ [part.name.node])
    rw [← hrest'] at hvalue
    have hrest := ih (show (parts.flatMap Section.tokens).length + 2 ≤ limit + 1 by omega)
      (nodes ++ [part.name.node] ++ part.valueNodes ((nodes ++ [part.name.node]).length + 1))
    have hkey := blockEntries_key hvalue hrest
    simpa [outlinePairs, outlineNodes, Section.nodes, Section.tokens, Nat.add_assoc, Nat.add_comm 1] using hkey

theorem run_document {parts : List Section} {limit : Nat} (hl : (outlineTokens parts).length ≤ limit) :
    (document limit).run (s.facing (outlineTokens parts) []) =
      .ok (some 0, ({ s with handles := defaultHandles } : BuildState).facing [.streamEnd]
        (⟨.mapping, .mapping (outlinePairs 1 parts)⟩ :: outlineNodes 1 parts)) := by
  have hlength : (outlineTokens parts).length = (parts.flatMap Section.tokens).length + 3 := by simp [outlineTokens]
  obtain ⟨limit, rfl⟩ := Nat.exists_eq_add_of_le' (show 1 ≤ limit by omega)
  have htokens : outlineTokens parts =
      .blockMappingStart :: (parts.flatMap Section.tokens ++ [.blockEnd, .streamEnd]) := by
    simp [outlineTokens]
  have hsections := blockEntries_sections (s := { s with handles := defaultHandles }) parts
    (show (parts.flatMap Section.tokens).length + 2 ≤ limit by omega) [.streamEnd] ([] ++ [⟨.mapping, .mapping []⟩])
  have hnode := node_mapping (show Context.block ≠ .flow by decide) hsections
  unfold document
  rw [htokens, run_bind_of (run_peek _ _ _)]
  dsimp only
  rw [if_neg Bool.false_ne_true, run_bind_of (run_handles _ _ _), run_bind_of hnode]
  rfl

end Build

/-- The tokens of an outline are read to its document. -/
theorem ofTokens_outline (parts : List Section) :
    Document.ofTokens (outlineTokens parts) none = .ok (outlineDocument parts) := by
  have hrun : (Build.document (4 * (outlineTokens parts).length + 4)).run
      { tokens := outlineTokens parts, fault := .malformed } = _ :=
    Build.run_document (s := { tokens := [], fault := .malformed }) (by omega)
  unfold Document.ofTokens
  rw [Option.getD_none, hrun]
  rfl

end CursorDoc.Yaml
