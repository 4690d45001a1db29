import CursorDoc.Proofs.Yaml.Value
import CursorDoc.Proofs.Yaml.ValueFault
import Mathlib.Data.List.Nodup
import Mathlib.Data.List.Perm.Subperm

/-!
# Nodes that are reached

A document is looked at as far as its nodes can be reached from the outermost
one, each collection once, also if it contains itself. Where every node on the
way has the shape that its tag asks for, nothing but a scalar without a value
can go wrong, and no such scalar is passed over.
-/

namespace CursorDoc.Yaml

def partsOf (pairs : List (Nat × Nat)) : List Nat := pairs.flatMap fun pair => [pair.1, pair.2]

/-- The nodes whose values belong to a collection. -/
def Store.parts (store : Store) (id : Nat) : List Nat :=
  match (store.node id).tag, (store.node id).content with
  | .mapping, .mapping pairs => partsOf pairs
  | .set, .mapping pairs => partsOf pairs
  | .sequence, .sequence items => items
  | .orderedMap, .sequence items => items.flatMap fun item => partsOf (entriesOf store item)
  | .pairs, .sequence items => items.flatMap fun item => partsOf (entriesOf store item)
  | _, _ => []

def Document.Reaches (document : Document) (id : Nat) : Prop :=
  ∃ root, document.root = some root ∧ Relation.ReflTransGen (fun id part => part ∈ document.store.parts id) root id

def Store.IsScalar (store : Store) (id : Nat) : Prop := ∃ text, (store.node id).content = .scalar text

/-- A scalar without a value of its tag. -/
def Store.Lacks (store : Store) (id : Nat) (fault : ScalarFault) : Prop :=
  ∃ text, (store.node id).content = .scalar text ∧ scalarValue (store.node id).tag true text = .error (.scalar fault)

/-- What the tag of a node asks for. The keys of a mapping are scalars, and have no meaning of their own. -/
inductive Store.IsShaped (store : Store) (id : Nat) : Prop
  | scalar {text : Text} (content : (store.node id).content = .scalar text)
      (fits : scalarValue (store.node id).tag true text ≠ .error .malformed) : IsShaped store id
  | mapping {pairs : List (Nat × Nat)} (tag : (store.node id).tag = .mapping ∨ (store.node id).tag = .set)
      (content : (store.node id).content = .mapping pairs) (plain : ArePlain store pairs)
      (keys : ∀ pair ∈ pairs, store.IsScalar pair.1) : IsShaped store id
  | sequence {items : List Nat} (tag : (store.node id).tag = .sequence)
      (content : (store.node id).content = .sequence items) : IsShaped store id
  | pairs {items : List Nat} (tag : (store.node id).tag = .orderedMap ∨ (store.node id).tag = .pairs)
      (content : (store.node id).content = .sequence items)
      (single : ∀ item ∈ items, ∃ key value, entriesOf store item = [(key, value)]) : IsShaped store id

/-! ## Progress of an evaluation -/

structure IsSound (document : Document) (s : ValueState) : Prop where
  store : s.store = document.store
  nodup : s.met.Nodup
  reached : ∀ id ∈ s.met, document.Reaches id
  collection : ∀ id ∈ s.met, ¬ document.store.IsScalar id

/-- A node that was seen to have a value, or will be looked at. -/
def Covers (document : Document) (s : ValueState) (id : Nat) : Prop :=
  id ∈ s.met ∨ ∃ text value, (document.store.node id).content = .scalar text ∧
    scalarValue (document.store.node id).tag true text = .ok value

structure Progress (document : Document) (ids : List Nat) (s s' : ValueState) : Prop where
  sound : IsSound document s'
  met : s.met <+: s'.met
  covers : ∀ id ∈ ids, Covers document s' id

def IsMissing (document : Document) (fault : Fault) : Prop :=
  ∃ id found, fault = .scalar found ∧ document.Reaches id ∧ document.store.Lacks id found

/-- An evaluation that covers some nodes and gives a good result, or comes to a scalar without a value. -/
def Visits {α : Type} (document : Document) (ids : List Nat) (good : α → Prop) (x : Evaluate α) : Prop :=
  ∀ s, IsSound document s → Ends (fun r => good r.1 ∧ Progress document ids s r.2) (IsMissing document) (x.run s)

section
variable {document : Document} {s s' : ValueState}

theorem Covers.mono {id : Nat} (h : Covers document s id) (hmet : s.met <+: s'.met) : Covers document s' id :=
  h.imp_left fun hmem => hmet.subset hmem

theorem IsSound.length_met (h : IsSound document s) : s.met.length ≤ document.store.size := by
  have hlt : s.met ⊆ List.range document.store.size := by
    intro id hid
    rw [List.mem_range]
    refine Nat.lt_of_not_ge fun hge => h.collection id hid ⟨[], ?_⟩
    rw [node_of_size_le hge]
  have hlength := (h.nodup.subperm hlt).length_le
  rwa [List.length_range] at hlength

theorem Progress.refl (h : IsSound document s) : Progress document [] s s :=
  ⟨h, List.prefix_rfl, fun _ hid => absurd hid List.not_mem_nil⟩

theorem Progress.trans {s'' : ValueState} {ids ids' : List Nat} (h : Progress document ids s s')
    (h' : Progress document ids' s' s'') : Progress document (ids ++ ids') s s'' where
  sound := h'.sound
  met := h.met.trans h'.met
  covers id hid := by
    rcases List.mem_append.mp hid with hid | hid
    · exact (h.covers id hid).mono h'.met
    · exact h'.covers id hid

end

namespace Visits
variable {α β : Type} {document : Document} {ids ids' : List Nat} {good : α → Prop} {good' : β → Prop}

theorem pure {a : α} (h : good a) : Visits document [] good (pure a : Evaluate α) := fun _ hs => ⟨h, .refl hs⟩

theorem bind {x : Evaluate α} {f : α → Evaluate β} (hx : Visits document ids good x)
    (hf : ∀ a, good a → Visits document ids' good' (f a)) : Visits document (ids ++ ids') good' (x >>= f) := by
  intro s hs
  refine Ends.bind (hx s hs) fun r hr => ?_
  exact (hf r.1 hr.1 r.2 hr.2.sound).mono (fun _ h => ⟨h.1, hr.2.trans h.2⟩) fun _ h => h

theorem get_bind {f : ValueState → Evaluate β} (hf : ∀ s, IsSound document s → Visits document ids good' (f s)) :
    Visits document ids good' (get >>= f) := fun s hs => hf s hs s hs

theorem discard {x : Evaluate α} (hx : Visits document ids good x) :
    Visits document (ids ++ []) (fun _ => True) (discard x) :=
  hx.bind fun _ _ => .pure trivial

theorem forM {f : Nat → Evaluate PUnit} {parts : Nat → List Nat} {items : List Nat}
    (hf : ∀ item ∈ items, Visits document (parts item) (fun _ => True) (f item)) :
    Visits document (items.flatMap parts) (fun _ => True) (items.forM f) := by
  induction items with
  | nil => exact .pure trivial
  | cons item items ih =>
    exact .bind (hf item List.mem_cons_self) fun _ _ => ih fun i hi => hf i (List.mem_cons_of_mem item hi)

theorem meet {id : Nat} (hid : document.Reaches id)
    (hcollection : ¬ document.store.IsScalar id) :
    Visits document [id] (fun _ => True) (Evaluate.meet id) := by
  intro s hs
  refine ⟨trivial, ?_⟩
  change Progress document [id] s (if s.met.contains id then s else { s with met := s.met ++ [id] })
  split
  · next hmem =>
    refine ⟨hs, List.prefix_rfl, fun id' hid' => .inl ?_⟩
    rw [List.mem_singleton.mp hid']
    exact List.contains_iff_mem.mp hmem
  · next hnew =>
    rw [List.contains_iff_mem] at hnew
    have hadded : ∀ {p : Nat → Prop}, p id → (∀ i ∈ s.met, p i) → ∀ i ∈ s.met ++ [id], p i := by
      intro p hp hmet i hi
      rcases List.mem_append.mp hi with hi | hi
      · exact hmet i hi
      · rwa [List.mem_singleton.mp hi]
    refine ⟨⟨hs.store, ?_, hadded hid hs.reached, hadded hcollection hs.collection⟩, List.prefix_append _ _,
      fun id' hid' => .inl (List.mem_append_right _ hid')⟩
    exact List.nodup_append.mpr ⟨hs.nodup, List.nodup_singleton id, fun i hi j hj hij =>
      hnew (List.mem_singleton.mp hj ▸ hij ▸ hi)⟩

end Visits

/-! ## Values -/

namespace Visits
variable {document : Document} (hshaped : ∀ id, document.Reaches id → document.store.IsShaped id)

theorem value_scalar {id : Nat} (hid : document.Reaches id) {text : Text}
    (hcontent : (document.store.node id).content = .scalar text)
    (hfits : scalarValue (document.store.node id).tag true text ≠ .error .malformed) :
    Visits document [id] (·.isKey = true) (Evaluate.value id) := by
  intro s hs
  have htag : (document.store.node id).tag ∉ collectionTags := by
    intro hmem
    simp only [collectionTags, List.mem_cons, List.not_mem_nil, or_false] at hmem
    rcases hmem with htag | htag | htag | htag | htag <;> exact hfits (by rw [htag]; rfl)
  rw [← hs.store] at hcontent htag hfits
  rw [Evaluate.run_value_scalar hcontent htag]
  rw [hs.store] at hcontent hfits ⊢
  cases hvalue : scalarValue (document.store.node id).tag true text with
  | ok value =>
    refine ⟨isKey_of_scalarValue hvalue, hs, List.prefix_rfl, fun id' hid' => ?_⟩
    rw [List.mem_singleton.mp hid']
    exact .inr ⟨text, value, hcontent, hvalue⟩
  | error fault =>
    cases fault with
    | malformed => exact absurd hvalue hfits
    | scalar found => exact ⟨id, found, rfl, hid, text, hcontent, hvalue⟩

/-- A collection is met, and looked at later. -/
theorem value_collection {id : Nat} (hid : document.Reaches id)
    (hcollection : ¬ document.store.IsScalar id)
    (htag : (document.store.node id).tag ∈ collectionTags) :
    Visits document [id] (fun _ => True) (Evaluate.value id) := by
  have hmet : ∀ v : Value, Visits document [id] (fun _ => True)
      (Evaluate.meet id >>= fun _ => Pure.pure v) := fun v => (meet hid hcollection).bind fun _ _ => .pure trivial
  refine .get_bind fun s hs => ?_
  rw [← hs.store] at htag
  dsimp only
  generalize (s.store.node id).tag = tag at htag
  simp only [collectionTags, List.mem_cons, List.not_mem_nil, or_false] at htag
  obtain rfl | rfl | rfl | rfl | rfl := htag
  · exact hmet _
  all_goals exact hmet .collection

include hshaped

theorem value {id : Nat} (hid : document.Reaches id) :
    Visits document [id] (fun _ => True) (Evaluate.value id) := by
  cases hshaped id hid with
  | scalar content fits =>
    intro s hs
    exact (value_scalar hid content fits s hs).mono (fun _ h => ⟨trivial, h.2⟩) fun _ h => h
  | mapping tag content =>
    refine value_collection hid (by simp [Store.IsScalar, content]) ?_
    rcases tag with tag | tag <;> simp [collectionTags, tag]
  | sequence tag content =>
    refine value_collection hid (by simp [Store.IsScalar, content]) ?_
    simp [collectionTags, tag]
  | pairs tag content =>
    refine value_collection hid (by simp [Store.IsScalar, content]) ?_
    rcases tag with tag | tag <;> simp [collectionTags, tag]

theorem addEntry (found : Entries) {pair : Nat × Nat} (hkey : document.Reaches pair.1) (hvalue : document.Reaches pair.2)
    (hscalar : document.store.IsScalar pair.1) :
    Visits document [pair.1, pair.2] (fun _ => True) (Evaluate.addEntry found pair) := by
  obtain ⟨text, htext⟩ := hscalar
  have hfits : scalarValue (document.store.node pair.1).tag true text ≠ .error .malformed := by
    cases hshaped pair.1 hkey with
    | scalar content fits =>
      cases htext.symm.trans content
      exact fits
    | mapping _ content | sequence _ content | pairs _ content =>
      cases htext.symm.trans content
  change Visits document ([pair.1] ++ ([pair.2] ++ [])) _ _
  refine (value_scalar hkey htext hfits).bind fun key hkey => ?_
  rw [hkey, if_neg (by decide)]
  exact (value hshaped hvalue).bind fun _ _ => .pure trivial

theorem entries {pairs : List (Nat × Nat)} (hreached : ∀ id ∈ partsOf pairs, document.Reaches id)
    (hkeys : ∀ pair ∈ pairs, document.store.IsScalar pair.1) :
    Visits document (partsOf pairs) (fun _ => True) (Evaluate.entries pairs) := by
  rw [Evaluate.entries_eq]
  generalize ([] : Entries) = found
  induction pairs generalizing found with
  | nil => exact .pure trivial
  | cons pair pairs ih =>
    rw [List.foldlM_cons]
    have hpair := addEntry hshaped found (hreached pair.1 (by simp [partsOf])) (hreached pair.2 (by simp [partsOf]))
      (hkeys pair List.mem_cons_self)
    have hpairs := ih (fun id hid => hreached id (List.mem_append_right _ hid)) fun p hp =>
      hkeys p (List.mem_cons_of_mem pair hp)
    exact hpair.bind fun found' _ => hpairs found'

theorem mergedEntries {id : Nat} {pairs : List (Nat × Nat)} (hpairs : entriesOf document.store id = pairs)
    (hplain : ArePlain document.store pairs) (hreached : ∀ id ∈ partsOf pairs, document.Reaches id)
    (hkeys : ∀ pair ∈ pairs, document.store.IsScalar pair.1) :
    Visits document (partsOf pairs) (fun _ => True) (Evaluate.mergedEntries id) := by
  intro s hs
  have hmerge : mergeFrom (mergeKeys s.store + 1) (s.chain + 1) id 0 [] s.store = .ok s.store :=
    mergeFrom_eq_self (by rwa [hs.store, hpairs]) _ _
  unfold Evaluate.mergedEntries
  simp only [StateT.run_bind, StateT.run_get, pure_bind, hmerge, Evaluate.run_lift]
  change Ends _ _ ((Evaluate.entries (entriesOf s.store id)).run s)
  rw [hs.store, hpairs]
  exact entries hshaped hreached hkeys s hs

omit hshaped in
theorem addMapping {id : Nat} {x : Evaluate Entries} {ids : List Nat} (hx : Visits document ids (fun _ => True) x) :
    Visits document (ids ++ []) (fun _ => True)
      (x >>= fun found => modify fun s => { s with mappings := s.mappings ++ [(id, found)] }) :=
  hx.bind fun _ _ _ hs => ⟨trivial, ⟨hs.store, hs.nodup, hs.reached, hs.collection⟩, List.prefix_rfl,
    fun _ hid => absurd hid List.not_mem_nil⟩

theorem pair {id : Nat} (hpair : ∃ key value, entriesOf document.store id = [(key, value)])
    (hreached : ∀ part ∈ partsOf (entriesOf document.store id), document.Reaches part) :
    Visits document (partsOf (entriesOf document.store id)) (fun _ => True) (Evaluate.look.pair id) := by
  obtain ⟨key, item, hpair⟩ := hpair
  rw [hpair] at hreached
  refine .get_bind fun _ hs => ?_
  simp only [hs.store, hpair]
  have hkey := value hshaped (hreached key (by simp [partsOf]))
  have hitem := value hshaped (hreached item (by simp [partsOf]))
  exact hkey.discard.bind fun _ _ => hitem.discard

theorem pairs {items : List Nat} (hsingle : ∀ item ∈ items, ∃ key value, entriesOf document.store item = [(key, value)])
    (hreached : ∀ part ∈ items.flatMap fun item => partsOf (entriesOf document.store item), document.Reaches part) :
    Visits document (items.flatMap fun item => partsOf (entriesOf document.store item)) (fun _ => True)
      (items.forM Evaluate.look.pair) :=
  forM fun item hitem => pair hshaped (hsingle item hitem) fun part hpart =>
    hreached part (List.mem_flatMap.mpr ⟨item, hitem, hpart⟩)

theorem look {id : Nat} (hcollection : ¬ document.store.IsScalar id)
    (hid : document.Reaches id) :
    Visits document (document.store.parts id) (fun _ => True) (Evaluate.look id) := by
  have hparts : ∀ part ∈ document.store.parts id, document.Reaches part := by
    obtain ⟨root, hroot, hway⟩ := hid
    exact fun part hpart => ⟨root, hroot, hway.tail hpart⟩
  refine .get_bind fun _ hs => ?_
  rw [hs.store]
  dsimp only
  unfold Store.parts at hparts ⊢
  cases hshaped id hid with
  | scalar content => exact absurd ⟨_, content⟩ hcollection
  | @mapping pairs tag content plain keys =>
    have hpairs : entriesOf document.store id = pairs := by
      unfold entriesOf
      rw [content]
    rcases tag with tag | tag <;> simp only [tag, content] at hparts ⊢
    · simpa using addMapping (mergedEntries hshaped hpairs plain hparts keys)
    · simpa using (mergedEntries hshaped hpairs plain hparts keys).discard
  | sequence tag content =>
    simp only [tag, content] at hparts ⊢
    have hitems := forM fun item hitem => (value hshaped (hparts item hitem)).discard
    simpa using hitems
  | @pairs items tag content single =>
    rcases tag with tag | tag <;> simp only [tag, content] at hparts ⊢
    · exact pairs hshaped single hparts
    · exact pairs hshaped single hparts

end Visits

/-! ## All collections -/

section
variable {document : Document} (hshaped : ∀ id, document.Reaches id → document.store.IsShaped id)
include hshaped

/-- What was met at last is closed: the parts of every collection are covered. -/
theorem lookFrom_ends {limit place : Nat} (hlimit : document.store.size ≤ limit + place) {s : ValueState}
    (hs : IsSound document s)
    (hdone : ∀ id ∈ s.met.take place, ∀ part ∈ document.store.parts id, Covers document s part) :
    Ends (fun r => s.met <+: r.2.met ∧ IsSound document r.2 ∧
        ∀ id ∈ r.2.met, ∀ part ∈ document.store.parts id, Covers document r.2 part)
      (IsMissing document) ((Evaluate.lookFrom limit place).run s) := by
  induction limit generalizing place s with
  | zero =>
    rw [Nat.zero_add] at hlimit
    rw [List.take_of_length_le (hs.length_met.trans hlimit)] at hdone
    exact ⟨List.prefix_rfl, hs, hdone⟩
  | succ limit ih =>
    unfold Evaluate.lookFrom
    simp only [StateT.run_bind, StateT.run_get, pure_bind]
    cases hplace : s.met[place]? with
    | none =>
      rw [List.take_of_length_le (List.getElem?_eq_none_iff.mp hplace)] at hdone
      exact ⟨List.prefix_rfl, hs, hdone⟩
    | some id =>
      have hid : id ∈ s.met := List.mem_of_getElem? hplace
      have hlook := Visits.look hshaped (hs.collection id hid) (hs.reached id hid) s hs
      refine Ends.bind hlook fun r hr => ?_
      obtain ⟨-, hr⟩ := hr
      refine Ends.mono (ih (by omega) hr.sound fun id' hid' part hpart => ?_) (fun _ h => ⟨hr.met.trans h.1, h.2⟩)
        fun _ h => h
      obtain ⟨rest, hrest⟩ := hr.met
      have hlt : place < s.met.length := (List.getElem?_eq_some_iff.mp hplace).1
      rw [← hrest, List.take_append_of_le_length hlt, List.take_add_one, hplace] at hid'
      rcases List.mem_append.mp hid' with hid' | hid'
      · exact (hdone id' hid' part hpart).mono hr.met
      · rw [List.mem_singleton.mp hid'] at hpart
        exact hr.covers part hpart

/-- A document whose nodes are shaped fails for a scalar without a value that is reached, or every scalar that is
reached has one. -/
theorem Values.ofDocument?_ends (chain : Nat) :
    Ends (fun _ => ∀ id, document.Reaches id → ∀ fault, ¬ document.store.Lacks id fault) (IsMissing document)
      (ofDocument? chain document) := by
  obtain ⟨store, root⟩ := document
  cases root with
  | none =>
    rintro id ⟨root, hroot, -⟩
    cases hroot
  | some root =>
    rw [ofDocument?_root]
    have hroot : Document.Reaches ⟨store, some root⟩ root := ⟨root, rfl, .refl⟩
    have hstart : IsSound ⟨store, some root⟩ { store, chain } :=
      ⟨rfl, List.nodup_nil, fun _ hid => absurd hid List.not_mem_nil, fun _ hid => absurd hid List.not_mem_nil⟩
    refine Ends.map (Ends.bind (Visits.value hshaped hroot _ hstart) fun r hr => ?_)
    obtain ⟨-, hr⟩ := hr
    have hlook := lookFrom_ends hshaped (show store.size ≤ store.size + 0 from Nat.le_refl _) hr.sound
      fun _ hid => absurd hid List.not_mem_nil
    refine Ends.bind hlook fun r' hr' => ?_
    obtain ⟨hmet, hsound, hclosed⟩ := hr'
    have hcovers : ∀ id, Document.Reaches ⟨store, some root⟩ id → Covers ⟨store, some root⟩ r'.2 id := by
      rintro id ⟨start, hstart, hway⟩
      cases hstart
      induction hway with
      | refl => exact (hr.covers root List.mem_cons_self).mono hmet
      | tail hway hpart ih =>
        rcases ih with hmem | ⟨text, value, hcontent, -⟩
        · exact hclosed _ hmem _ hpart
        · simp [Store.parts, hcontent] at hpart
    rintro id hid fault ⟨text, hcontent, hfault⟩
    rcases hcovers id hid with hmem | ⟨text', value, hcontent', hvalue⟩
    · exact hsound.collection id hmem ⟨text, hcontent⟩
    · cases hcontent.symm.trans hcontent'
      cases hfault.symm.trans hvalue

end

/-! ## Outlines -/

theorem isShaped_word {store : Store} {id : Nat} {w : Word} (hw : w.IsSimple) (hnode : store.node id = w.node) :
    store.IsShaped id := by
  have hcontent : (store.node id).content = .scalar w.text := by
    rw [hnode]
    rfl
  refine .scalar hcontent ?_
  have htag := hw.tag_mem
  rw [hnode, show w.node.tag = w.tag from rfl]
  generalize w.tag = tag at htag
  simp only [List.mem_cons, List.not_mem_nil, or_false] at htag
  unfold scalarValue
  obtain rfl | rfl | rfl | rfl | rfl | rfl := htag
  · exact nofun
  · cases boolOf? w.text.lower <;> exact nofun
  · cases readInteger w.text <;> exact nofun
  · cases checkFloat w.text <;> exact nofun
  · cases Timestamp.check w.text <;> exact nofun
  · exact nofun

theorem isShaped_empty {store : Store} {id : Nat} (hnode : store.node id = emptyNode) : store.IsShaped id := by
  refine .scalar (by rw [hnode]; rfl) ?_
  rw [hnode]
  intro hmalformed
  cases hmalformed

theorem isShaped_mapping {store : Store} {id : Nat} {pairs : List (Nat × Nat)}
    (hnode : store.node id = ⟨.mapping, .mapping pairs⟩)
    (hkeys : ∀ pair ∈ pairs, ∃ k : Word, k.IsSimple ∧ store.node pair.1 = k.node) : store.IsShaped id := by
  refine .mapping (.inl (by rw [hnode])) (by rw [hnode]) (fun pair hpair => ?_) fun pair hpair => ?_
  · obtain ⟨k, hk, hkey⟩ := hkeys pair hpair
    rw [hkey]
    exact hk.tag_ne
  · obtain ⟨k, -, hkey⟩ := hkeys pair hpair
    exact ⟨k.text, by rw [hkey]; rfl⟩

theorem isShaped_section {part : Section} (hp : part.IsSimple) {store : Store} (before after : List Node)
    (hstore : store = (before ++ part.nodes before.length ++ after).toArray) {id : Nat}
    (h : store.node id ∈ part.nodes before.length) : store.IsShaped id := by
  unfold Section.nodes Section.valueNodes at h
  rcases List.mem_cons.mp h with hname | hvalue
  · exact isShaped_word hp.name.toIsSimple hname
  · split at hvalue
    · exact isShaped_empty (List.mem_singleton.mp hvalue)
    · next hne =>
      rcases List.mem_cons.mp hvalue with hmapping | hentry
      · have hkeys := exists_key_of_mem_entryPairs hp.entries
          (before ++ [part.name.node, ⟨.mapping, .mapping (entryPairs (before.length + 2) part.entries)⟩]) after
        refine isShaped_mapping hmapping ?_
        simpa [hstore, Section.nodes, Section.valueNodes, hne] using hkeys
      · obtain ⟨entry, hmem, hentry⟩ := List.mem_flatMap.mp hentry
        obtain ⟨hkey, hword⟩ := hp.entries entry hmem
        simp only [entryNodes, List.mem_cons, List.not_mem_nil, or_false] at hentry
        rcases hentry with hentry | hentry
        · exact isShaped_word hkey.toIsSimple hentry
        · exact isShaped_word hword hentry

theorem isShaped_sections {parts : List Section} (hp : ∀ part ∈ parts, part.IsSimple) {store : Store}
    (before : List Node) (hstore : store = (before ++ outlineNodes before.length parts).toArray) {id : Nat}
    (h : store.node id ∈ outlineNodes before.length parts) : store.IsShaped id := by
  induction parts generalizing before with
  | nil => cases h
  | cons part parts ih =>
    rw [append_outlineNodes] at hstore
    rw [outlineNodes, ← length_append_nodes] at h
    rcases List.mem_append.mp h with hpart | hrest
    · exact isShaped_section (hp part List.mem_cons_self) before _ hstore hpart
    · exact ih (fun p hmem => hp p (List.mem_cons_of_mem part hmem)) _ hstore hrest

theorem isShaped_outline {parts : List Section} (hp : ∀ part ∈ parts, part.IsSimple) (id : Nat) :
    (outlineDocument parts).store.IsShaped id := by
  obtain ⟨root, hroot⟩ : ∃ root : Node, root = ⟨.mapping, .mapping (outlinePairs 1 parts)⟩ := ⟨_, rfl⟩
  have hstore : (outlineDocument parts).store = ([root] ++ outlineNodes [root].length parts).toArray := by
    rw [hroot]
    rfl
  have hkeys := exists_key_of_mem_outlinePairs hp [root]
  rw [← hstore] at hkeys
  generalize (outlineDocument parts).store = store at hstore hkeys
  rcases Nat.lt_or_ge id store.size with hlt | hge
  · have hmem : store.node id ∈ store.toList := by
      simp only [Store.node, Array.getD_eq_getD_getElem?, Array.getElem?_eq_getElem hlt, Option.getD_some]
      exact Array.getElem_mem_toList _
    rw [hstore, List.toList_toArray, ← hstore] at hmem
    rcases List.mem_cons.mp hmem with hmem | hmem
    · exact isShaped_mapping (hmem.trans hroot) hkeys
    · exact isShaped_sections hp [root] hstore hmem
  · exact isShaped_empty (node_of_size_le hge)

end CursorDoc.Yaml
