import CursorDoc.Proofs.Yaml.Merge
import CursorDoc.Proofs.Yaml.Nodes
import CursorDoc.Proofs.Yaml.Tag

/-!
# Values of an outline

The outermost mapping of an outline is looked at first; that meets the mappings
of the sections that have entries, and these are looked at next, in order. A
word without a value of its tag ends the evaluation.
-/

namespace CursorDoc.Yaml

def Word.value (w : Word) : Except Fault Value := scalarValue w.tag true w.text

def entryValues (entry : Word × Word) : Except Fault (Value × Value) := do
  let key ← entry.1.value
  let value ← entry.2.value
  pure (key, value)

def Entries.insertAll (entries : Entries) (pairs : List (Value × Value)) : Entries :=
  pairs.foldl (fun entries pair => Dictionary.insert entries pair.1 pair.2) entries

def Entries.ofPairs (pairs : List (Value × Value)) : Entries := Entries.insertAll [] pairs

def Section.value (id : Nat) (part : Section) : Value := if part.entries.isEmpty then .null else .mapping id

def sectionValues (first : Nat) : List Section → Except Fault (List (Value × Value))
  | [] => .ok []
  | part :: parts => do
    let name ← part.name.value
    let rest ← sectionValues (first + (part.nodes first).length) parts
    pure ((name, part.value (first + 1)) :: rest)

def mappingIds (first : Nat) : List Section → List Nat
  | [] => []
  | part :: parts =>
    (if part.entries.isEmpty then [] else [first + 1]) ++ mappingIds (first + (part.nodes first).length) parts

def sectionMappings (first : Nat) : List Section → Except Fault (List (Nat × Entries))
  | [] => .ok []
  | part :: parts =>
    if part.entries.isEmpty then sectionMappings (first + (part.nodes first).length) parts
    else do
      let pairs ← part.entries.mapM entryValues
      let rest ← sectionMappings (first + (part.nodes first).length) parts
      pure ((first + 1, .ofPairs pairs) :: rest)

def outlineValues (parts : List Section) : Except Fault Values := do
  let sections ← sectionValues 1 parts
  let mappings ← sectionMappings 1 parts
  pure { root := .mapping 0, mappings := (0, .ofPairs sections) :: mappings }

/-! ## Words -/

theorem Word.IsSimple.tag_mem {w : Word} (h : w.IsSimple) :
    w.tag ∈ [Tag.null, .bool, .int, .float, .timestamp, .text] := by
  unfold tag
  split
  · exact Tag.ofText_mem h.all
  · simp

theorem Word.IsSimple.tag_ne {w : Word} (h : w.IsSimple) : w.tag ≠ .merge ∧ w.tag ≠ .value := by
  have hmem := h.tag_mem
  constructor <;> intro htag <;> simp [htag] at hmem

theorem isKey_of_scalarValue {tag : Tag} {isText : Bool} {t : Text} {v : Value} (h : scalarValue tag isText t = .ok v) :
    v.isKey = true := by
  have hmap : ∀ {α : Type} {x : Except Fault α} {f : α → Value}, (∀ a, (f a).isKey = true) → x.map f = .ok v →
      v.isKey = true := by
    intro α x f hf hx
    cases x with
    | error fault => cases hx
    | ok a =>
      cases hx
      exact hf a
  unfold scalarValue at h
  split at h
  · cases h; rfl
  · split at h <;> cases h
    rfl
  · exact hmap (fun _ => rfl) h
  · exact hmap (fun _ => rfl) h
  · split at h <;> cases h
    rfl
  · split at h
    · exact hmap (fun _ => rfl) h
    · cases h
  · cases h; rfl
  · cases h

def collectionTags : List Tag := [.mapping, .sequence, .orderedMap, .pairs, .set]

namespace Evaluate

theorem run_lift {α : Type} (x : Except Fault α) (s : ValueState) :
    (liftM x : Evaluate α).run s = x.map (·, s) := by
  cases x <;> rfl

theorem run_value_scalar {s : ValueState} {id : Nat} {text : Text} (hcontent : (s.store.node id).content = .scalar text)
    (htag : (s.store.node id).tag ∉ collectionTags) :
    (value id).run s = (scalarValue (s.store.node id).tag true text).map (·, s) := by
  have htext : scalarText s.store (s.chain + 1) id = .ok text := by
    rw [scalarText, hcontent]
  unfold value
  simp only [StateT.run_bind, StateT.run_get, pure_bind, hcontent]
  generalize (s.store.node id).tag = tag at htag
  cases tag
  case mapping | sequence | orderedMap | pairs | set => simp [collectionTags] at htag
  all_goals
    simp only [StateT.run_bind, htext, run_lift]
    rfl

theorem run_value_word {w : Word} (hw : w.IsSimple) {s : ValueState} {id : Nat} (h : s.store.node id = w.node) :
    (value id).run s = w.value.map (·, s) := by
  have hcontent : (s.store.node id).content = .scalar w.text := by
    rw [h]
    rfl
  have htag : (s.store.node id).tag ∉ collectionTags := by
    have hmem := hw.tag_mem
    rw [h, show w.node.tag = w.tag from rfl]
    intro hcollection
    generalize w.tag = tag at hmem hcollection
    cases tag <;> simp [collectionTags] at hmem hcollection
  rw [run_value_scalar hcontent htag, h]
  rfl

theorem run_value_empty {s : ValueState} {id : Nat} (h : s.store.node id = emptyNode) :
    (value id).run s = .ok (.null, s) := by
  have hcontent : (s.store.node id).content = .scalar [] := by
    rw [h]
    rfl
  rw [run_value_scalar hcontent (by rw [h]; decide), h]
  rfl

theorem run_value_mapping {s : ValueState} {id : Nat} {content : Content}
    (h : s.store.node id = ⟨.mapping, content⟩) (hmet : s.met.contains id = false) :
    (value id).run s = .ok (.mapping id, { s with met := s.met ++ [id] }) := by
  unfold value
  simp only [StateT.run_bind, StateT.run_get, pure_bind, h]
  change Except.ok (Value.mapping id, if s.met.contains id then s else { s with met := s.met ++ [id] }) = _
  rw [if_neg (by simpa using hmet)]

end Evaluate

/-! ## Entries -/

theorem node_append (before after : List Node) (node : Node) :
    Store.node (before ++ node :: after).toArray before.length = node := by
  simp [Store.node]

theorem length_append_nodes (before : List Node) (part : Section) :
    (before ++ part.nodes before.length).length = before.length + (part.nodes before.length).length :=
  List.length_append

/-- The nodes of one more section. -/
theorem append_outlineNodes (before : List Node) (part : Section) (parts : List Section) :
    before ++ outlineNodes before.length (part :: parts) =
      before ++ part.nodes before.length ++ outlineNodes (before ++ part.nodes before.length).length parts := by
  rw [outlineNodes, length_append_nodes, List.append_assoc]

/-- The keys of a section are words. -/
theorem exists_key_of_mem_entryPairs {words : List (Word × Word)} (hw : ∀ entry ∈ words, IsEntry entry)
    (before after : List Node) : ∀ pair ∈ entryPairs before.length words, ∃ k : Word, k.IsSimple ∧
      Store.node (before ++ (words.flatMap entryNodes ++ after)).toArray pair.1 = k.node := by
  induction words generalizing before with
  | nil => simp [entryPairs]
  | cons entry words ih =>
    intro pair hpair
    rcases List.mem_cons.mp hpair with rfl | hpair
    · exact ⟨entry.1, (hw entry List.mem_cons_self).1.toIsSimple, node_append _ _ _⟩
    · have hrest := ih (fun e he => hw e (List.mem_cons_of_mem entry he)) (before ++ entryNodes entry) pair
        (by simpa [entryNodes] using hpair)
      simpa using hrest

/-- The keys of the outermost mapping are words. -/
theorem exists_key_of_mem_outlinePairs {parts : List Section} (hp : ∀ part ∈ parts, part.IsSimple)
    (before : List Node) : ∀ pair ∈ outlinePairs before.length parts, ∃ k : Word, k.IsSimple ∧
      Store.node (before ++ outlineNodes before.length parts).toArray pair.1 = k.node := by
  induction parts generalizing before with
  | nil => simp [outlinePairs]
  | cons part parts ih =>
    intro pair hpair
    rcases List.mem_cons.mp hpair with rfl | hpair
    · exact ⟨part.name, (hp part List.mem_cons_self).name.toIsSimple, node_append _ _ _⟩
    · have hrest := ih (fun p h => hp p (List.mem_cons_of_mem part h)) (before ++ part.nodes before.length) pair
        (by simpa using hpair)
      simpa [outlineNodes] using hrest

namespace Evaluate

def addEntry (entries : Entries) (pair : Nat × Nat) : Evaluate Entries := do
  let key ← value pair.1
  if !key.isKey then malformed
  let value ← value pair.2
  pure (entries.insert key value)

theorem entries_eq (pairs : List (Nat × Nat)) : entries pairs = pairs.foldlM addEntry [] := rfl

theorem run_addEntry {k : Word} (hk : k.IsSimple) {s : ValueState} (pair : Nat × Nat)
    (hkey : s.store.node pair.1 = k.node) {result : Except Fault (Value × ValueState)}
    (hvalue : (value pair.2).run s = result) (entries : Entries) :
    (addEntry entries pair).run s =
      k.value >>= fun key => result.map fun r => (Dictionary.insert entries key r.1, r.2) := by
  unfold addEntry
  rw [StateT.run_bind, run_value_word hk hkey]
  cases hv : k.value with
  | error fault => rfl
  | ok key =>
    have hkey : key.isKey = true := isKey_of_scalarValue hv
    change StateT.run (if !key.isKey then malformed >>= _ else value pair.2 >>= _) s = _
    rw [hkey, if_neg (by decide), StateT.run_bind, hvalue]
    cases result <;> rfl

/-- The entries of a section, which are words. -/
theorem run_entryPairs {words : List (Word × Word)} (hw : ∀ entry ∈ words, IsEntry entry) {s : ValueState}
    (before after : List Node) (hs : s.store = (before ++ (words.flatMap entryNodes ++ after)).toArray)
    (entries : Entries) :
    ((entryPairs before.length words).foldlM addEntry entries).run s =
      (words.mapM entryValues).map fun pairs => (entries.insertAll pairs, s) := by
  induction words generalizing before entries with
  | nil => rfl
  | cons entry words ih =>
    obtain ⟨hkey, hvalue⟩ := hw entry List.mem_cons_self
    have hkeyNode : s.store.node before.length = entry.1.node := by
      rw [hs]
      exact node_append _ _ _
    have hvalueNode : s.store.node (before.length + 1) = entry.2.node := by
      have hnode := node_append (before ++ [entry.1.node]) (words.flatMap entryNodes ++ after) entry.2.node
      rw [hs]
      simpa [entryNodes] using hnode
    have hrest := fun entries => ih (fun e he => hw e (List.mem_cons_of_mem entry he))
      (before ++ entryNodes entry) (by simp [hs]) entries
    simp only [List.length_append, show (entryNodes entry).length = 2 from rfl] at hrest
    rw [entryPairs, List.foldlM_cons, StateT.run_bind,
      run_addEntry hkey.toIsSimple (before.length, before.length + 1) hkeyNode (run_value_word hvalue hvalueNode),
      List.mapM_cons]
    have hentry : entryValues entry =
        entry.1.value >>= fun key => entry.2.value >>= fun value => pure (key, value) := rfl
    rw [hentry]
    cases hk : entry.1.value with
    | error fault => rfl
    | ok key =>
      cases hv : entry.2.value with
      | error fault => rfl
      | ok value =>
        change ((entryPairs (before.length + 2) words).foldlM addEntry (Dictionary.insert entries key value)).run s = _
        rw [hrest]
        cases hm : words.mapM entryValues <;> rfl

/-- The value of a section, which is met if it is a mapping. -/
theorem run_value_section (part : Section) {s : ValueState} (before after : List Node)
    (hs : s.store = (before ++ (part.valueNodes (before.length + 1) ++ after)).toArray)
    (hmet : ∀ id ∈ s.met, id < before.length) :
    (value before.length).run s = .ok (part.value before.length,
      { s with met := s.met ++ if part.entries.isEmpty then [] else [before.length] }) := by
  unfold Section.value
  unfold Section.valueNodes at hs
  split
  · next hempty =>
    rw [if_pos hempty] at hs
    rw [run_value_empty (by rw [hs]; exact node_append _ _ _), List.append_nil]
  · next hempty =>
    rw [if_neg hempty] at hs
    apply run_value_mapping (by rw [hs]; exact node_append _ _ _)
    rw [List.contains_eq_mem, decide_eq_false_iff_not]
    intro hmem
    exact absurd (hmet _ hmem) (Nat.lt_irrefl _)

/-- The names and values of sections. -/
theorem run_outlinePairs {parts : List Section} (hp : ∀ part ∈ parts, part.IsSimple) {s : ValueState}
    (before : List Node) (hs : s.store = (before ++ outlineNodes before.length parts).toArray)
    (hmet : ∀ id ∈ s.met, id < before.length) (entries : Entries) :
    ((outlinePairs before.length parts).foldlM addEntry entries).run s =
      (sectionValues before.length parts).map fun pairs =>
      (entries.insertAll pairs, { s with met := s.met ++ mappingIds before.length parts }) := by
  induction parts generalizing s before entries with
  | nil => simp [outlinePairs, sectionValues, mappingIds]; rfl
  | cons part parts ih =>
    have hlen := length_append_nodes before part
    have hname : s.store.node before.length = part.name.node := by
      rw [hs]
      exact node_append _ _ _
    have hvalue := run_value_section part (s := s) (before ++ [part.name.node])
      (outlineNodes (before.length + (part.nodes before.length).length) parts)
      (by rw [hs]; simp [outlineNodes, Section.nodes, Nat.add_assoc])
      (fun id hid => by have := hmet id hid; simp; omega)
    rw [List.length_append, List.length_singleton] at hvalue
    rw [outlinePairs, List.foldlM_cons, StateT.run_bind,
      run_addEntry (hp part List.mem_cons_self).name.toIsSimple (before.length, before.length + 1) hname hvalue,
      sectionValues, mappingIds]
    cases hv : part.name.value with
    | error fault => rfl
    | ok name =>
      have hrest := ih (s := { s with met := s.met ++ if part.entries.isEmpty then [] else [before.length + 1] })
        (fun p h => hp p (List.mem_cons_of_mem part h)) (before ++ part.nodes before.length)
        (by rw [hs, append_outlineNodes]) ?_ (Dictionary.insert entries name (part.value (before.length + 1)))
      · rw [hlen] at hrest
        change ((outlinePairs (before.length + (part.nodes before.length).length) parts).foldlM addEntry _).run _ = _
        rw [hrest, List.append_assoc]
        cases hm : sectionValues (before.length + (part.nodes before.length).length) parts <;> rfl
      · intro id hid
        rw [hlen]
        rcases List.mem_append.mp hid with hid | hid
        · have := hmet id hid
          omega
        · split at hid
          · cases hid
          · rw [List.mem_singleton.mp hid]
            have := part.length_nodes before.length
            omega

/-! ## Mappings -/

theorem run_look {s : ValueState} {id : Nat} {pairs : List (Nat × Nat)}
    (h : s.store.node id = ⟨.mapping, .mapping pairs⟩)
    (hkeys : ∀ pair ∈ pairs, ∃ k : Word, k.IsSimple ∧ s.store.node pair.1 = k.node)
    {result : Except Fault (Entries × ValueState)} (hentries : (entries pairs).run s = result) :
    (look id).run s = result.map fun r => ((), { r.2 with mappings := r.2.mappings ++ [(id, r.1)] }) := by
  have hpairs : entriesOf s.store id = pairs := by
    unfold entriesOf
    rw [h]
  have hplain : ∀ pair ∈ entriesOf s.store id,
      (s.store.node pair.1).tag ≠ .merge ∧ (s.store.node pair.1).tag ≠ .value := by
    intro pair hmem
    rw [hpairs] at hmem
    obtain ⟨k, hk, hnode⟩ := hkeys pair hmem
    rw [hnode]
    exact hk.tag_ne
  have hmerge := mergeFrom_eq_self hplain (mergeKeys s.store + 1) s.chain
  unfold look
  simp only [StateT.run_bind, StateT.run_get, pure_bind, h]
  unfold mergedEntries
  simp only [StateT.run_bind, StateT.run_get, pure_bind, hmerge, run_lift]
  change ((entries (entriesOf s.store id)).run s >>= fun r => _) = _
  rw [hpairs, hentries]
  cases result <;> rfl

/-- The mapping of a section that has entries. -/
theorem run_look_section {part : Section} (hp : part.IsSimple) (hne : ¬ part.entries.isEmpty = true) {s : ValueState}
    (before after : List Node) (hs : s.store = (before ++ part.nodes before.length ++ after).toArray) :
    (look (before.length + 1)).run s = (part.entries.mapM entryValues).map fun pairs =>
      ((), { s with mappings := s.mappings ++ [(before.length + 1, .ofPairs pairs)] }) := by
  generalize hpairs : entryPairs (before.length + 2) part.entries = pairs
  have hvalues : part.valueNodes (before.length + 2) =
      ⟨.mapping, .mapping pairs⟩ :: part.entries.flatMap entryNodes := by rw [← hpairs]; exact if_neg hne
  have hnodes : before ++ part.nodes before.length ++ after =
      (before ++ [part.name.node]) ++ ⟨.mapping, .mapping pairs⟩ :: (part.entries.flatMap entryNodes ++ after) := by
    simp [Section.nodes, hvalues]
  have hstore : s.store =
      (before ++ [part.name.node, ⟨.mapping, .mapping pairs⟩] ++
        (part.entries.flatMap entryNodes ++ after)).toArray := by
    rw [hs, hnodes]
    simp
  have hnode : s.store.node (before.length + 1) = ⟨.mapping, .mapping pairs⟩ := by
    have happend := node_append (before ++ [part.name.node]) (part.entries.flatMap entryNodes ++ after)
      ⟨.mapping, .mapping pairs⟩
    rw [hs, hnodes]
    simpa using happend
  have hkeys := exists_key_of_mem_entryPairs hp.entries (before ++ [part.name.node, ⟨.mapping, .mapping pairs⟩]) after
  have hentries := run_entryPairs hp.entries _ _ hstore []
  rw [← hstore] at hkeys
  simp only [List.length_append, List.length_cons, List.length_nil, Nat.zero_add, Nat.reduceAdd,
    hpairs] at hkeys hentries
  rw [run_look hnode hkeys hentries]
  cases part.entries.mapM entryValues <;> rfl

theorem run_lookFrom {parts : List Section} (hp : ∀ part ∈ parts, part.IsSimple) {s : ValueState} (before : List Node)
    (hs : s.store = (before ++ outlineNodes before.length parts).toArray) {place : Nat}
    (hmet : s.met.drop place = mappingIds before.length parts) {limit : Nat}
    (hl : (mappingIds before.length parts).length ≤ limit) :
    (lookFrom limit place).run s = (sectionMappings before.length parts).map fun found =>
      ((), { s with mappings := s.mappings ++ found }) := by
  -- the mappings still to be looked at are those of the sections behind `before`
  induction parts generalizing s before place limit with
  | nil =>
    have hnone : s.met[place]? = none := List.getElem?_eq_none (List.drop_eq_nil_iff.mp hmet)
    simp only [sectionMappings, Except.map, List.append_nil]
    cases limit with
    | zero => rfl
    | succ limit =>
      unfold lookFrom
      simp only [StateT.run_bind, StateT.run_get, pure_bind, hnone]
      rfl
  | cons part parts ih =>
    have hp' : ∀ p ∈ parts, p.IsSimple := fun p h => hp p (List.mem_cons_of_mem part h)
    rw [append_outlineNodes] at hs
    by_cases hempty : part.entries.isEmpty = true
    · rw [mappingIds, if_pos hempty, List.nil_append, ← length_append_nodes] at hmet hl
      rw [sectionMappings, if_pos hempty, ← length_append_nodes]
      exact ih hp' _ hs hmet hl
    · rw [mappingIds, if_neg hempty, List.singleton_append, ← length_append_nodes] at hmet hl
      obtain ⟨limit, rfl⟩ := Nat.exists_eq_add_of_le' (Nat.le_trans (Nat.succ_le_succ (Nat.zero_le _)) hl)
      have hplace : s.met[place]? = some (before.length + 1) := by
        rw [← List.head?_drop, hmet]
        rfl
      have hnext : s.met.drop (place + 1) = mappingIds (before ++ part.nodes before.length).length parts := by
        rw [← List.drop_drop, hmet]
        rfl
      unfold lookFrom
      simp only [StateT.run_bind, StateT.run_get, pure_bind, hplace]
      rw [run_look_section (hp part List.mem_cons_self) hempty before _ hs, sectionMappings, if_neg hempty,
        ← length_append_nodes]
      cases hm : part.entries.mapM entryValues with
      | error fault => rfl
      | ok pairs =>
        have hrest := ih (s := { s with mappings := s.mappings ++ [(before.length + 1, .ofPairs pairs)] })
          hp' _ hs hnext (Nat.le_of_succ_le_succ hl)
        refine Eq.trans hrest ?_
        simp only [List.append_assoc]
        cases sectionMappings (before ++ part.nodes before.length).length parts <;> rfl

end Evaluate

theorem length_mappingIds (first : Nat) (parts : List Section) :
    (mappingIds first parts).length ≤ (outlineNodes first parts).length := by
  induction parts generalizing first with
  | nil => simp [mappingIds]
  | cons part parts ih =>
    have := part.length_nodes first
    have := ih (first + (part.nodes first).length)
    rw [mappingIds, outlineNodes, List.length_append, List.length_append]
    split <;> simp <;> omega

theorem Values.ofDocument?_root (chain : Nat) (store : Store) (root : Nat) :
    Values.ofDocument? chain ⟨store, some root⟩ =
      ((Evaluate.value root >>= fun value => Evaluate.lookFrom store.size 0 >>= fun _ => pure value).run
        { store, chain }).map fun r => some ⟨r.1, r.2.mappings⟩ := by
  unfold Values.ofDocument?
  dsimp only
  generalize StateT.run _ _ = result
  cases result <;> rfl

/-- The values of an outline. -/
theorem ofDocument?_outline (chain : Nat) {parts : List Section} (hp : ∀ part ∈ parts, part.IsSimple) :
    Values.ofDocument? chain (outlineDocument parts) = (outlineValues parts).map some := by
  obtain ⟨root, hroot⟩ : ∃ root : Node, root = ⟨.mapping, .mapping (outlinePairs 1 parts)⟩ := ⟨_, rfl⟩
  obtain ⟨store, hstore⟩ : ∃ store : Store, store = ([root] ++ outlineNodes 1 parts).toArray := ⟨_, rfl⟩
  have hdocument : outlineDocument parts = ⟨store, some 0⟩ := by
    rw [hstore, hroot]
    rfl
  have hnode : store.node 0 = ⟨.mapping, .mapping (outlinePairs 1 parts)⟩ := by
    rw [hstore, hroot]
    rfl
  have hsize : (mappingIds 1 parts).length ≤ (outlineNodes 1 parts).length := length_mappingIds 1 parts
  have hlimit : store.size = (outlineNodes 1 parts).length + 1 := by
    rw [hstore]
    simp
  have hvalue := Evaluate.run_value_mapping (s := { store, chain }) hnode rfl
  have hkeys := exists_key_of_mem_outlinePairs hp [root]
  have hentries := Evaluate.run_outlinePairs hp (s := { store, chain, met := [0] }) [root] hstore (by simp) []
  rw [List.length_singleton, ← hstore] at hkeys
  have hlook : (Evaluate.lookFrom store.size 0).run { store, chain, met := [0] } = sectionValues 1 parts >>= fun pairs =>
      (sectionMappings 1 parts).map fun found =>
        ((), { store, chain, met := [0] ++ mappingIds 1 parts, mappings := (0, .ofPairs pairs) :: found }) := by
    rw [hlimit, Evaluate.lookFrom]
    change ((Evaluate.look 0).run { store, chain, met := [0] } >>= fun r => (Evaluate.lookFrom _ 1).run r.2) = _
    rw [Evaluate.run_look hnode hkeys hentries, List.length_singleton]
    cases hm : sectionValues 1 parts with
    | error fault => rfl
    | ok pairs =>
      exact Evaluate.run_lookFrom
        (s := { store, chain, met := [0] ++ mappingIds 1 parts, mappings := [(0, .ofPairs pairs)] }) hp [root] hstore
        (show ([0] ++ mappingIds 1 parts).drop 1 = mappingIds 1 parts from rfl) hsize
  have hrun : (Evaluate.value 0 >>= fun root => Evaluate.lookFrom store.size 0 >>= fun _ => pure root).run { store, chain } =
      sectionValues 1 parts >>= fun pairs => (sectionMappings 1 parts).map fun found =>
        (Value.mapping 0, { store, chain, met := [0] ++ mappingIds 1 parts, mappings := (0, .ofPairs pairs) :: found }) := by
    rw [StateT.run_bind, hvalue]
    change ((Evaluate.lookFrom store.size 0).run { store, chain, met := [0] } >>= fun r => pure (Value.mapping 0, r.2)) = _
    rw [hlook]
    cases sectionValues 1 parts with
    | error fault => rfl
    | ok pairs => cases sectionMappings 1 parts <;> rfl
  rw [hdocument, Values.ofDocument?_root, hrun, outlineValues]
  cases sectionValues 1 parts with
  | error fault => rfl
  | ok pairs => cases sectionMappings 1 parts <;> rfl

end CursorDoc.Yaml
