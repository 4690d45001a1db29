import CursorDoc.Proofs.Outcome
import CursorDoc.Yaml.Value
import Mathlib.Data.List.TakeWhile

/-!
# Merge keys

Replacing merge keys changes the entries of mappings and makes texts of value
keys. It leaves alone what any other node says, and where entries changed, no
key with a meaning is left among them. Where no key has a meaning, nothing
changes. Mappings that are merged into one another are followed up to a limit.
-/

namespace CursorDoc.Yaml

def ArePlain (store : Store) (pairs : List (Nat × Nat)) : Prop :=
  ∀ pair ∈ pairs, (store.node pair.1).tag ≠ .merge ∧ (store.node pair.1).tag ≠ .value

/-! ## Nothing to merge -/

theorem plainKeys_eq_self {store : Store} {entries : List (Nat × Nat)}
    (h : ∀ entry ∈ entries, (store.node entry.1).tag ≠ .value) : plainKeys store entries = store := by
  unfold plainKeys
  induction entries with
  | nil => rfl
  | cons entry entries ih =>
    have hentry := h entry List.mem_cons_self
    obtain ⟨key, value⟩ := entry
    rw [List.foldl_cons]
    simp only [if_neg hentry]
    exact ih fun e he => h e (List.mem_cons_of_mem _ he)

/-- Where no key has a meaning of its own, the store stays as it is. -/
theorem mergeFrom_eq_self {store : Store} {id : Nat} (h : ArePlain store (entriesOf store id)) (limit room : Nat) :
    mergeFrom limit (room + 1) id 0 [] store = .ok store := by
  have hplain : ∀ entry ∈ entriesOf store id, (!decide ((store.node entry.1).tag = .merge)) = true := by
    intro entry hmem
    simpa using (h entry hmem).1
  rw [mergeFrom, if_neg (Nat.succ_ne_zero room)]
  simp only [List.drop_zero, List.takeWhile_eq_self_iff.mpr hplain, List.dropWhile_eq_nil_iff.mpr hplain,
    plainKeys_eq_self fun entry hmem => (h entry hmem).2]
  rfl

/-! ## What merging keeps -/

theorem node_setIfInBounds (store : Store) (id j : Nat) (node : Node) :
    Store.node (store.setIfInBounds id node) j = if id = j ∧ id < store.size then node else store.node j := by
  unfold Store.node
  rw [Array.getD_eq_getD_getElem?, Array.getD_eq_getD_getElem?, Array.getElem?_setIfInBounds]
  by_cases hid : id = j
  · subst hid
    by_cases hlt : id < store.size
    · simp [hlt]
    · simp [hlt]
  · simp [hid]

theorem node_of_size_le {store : Store} {id : Nat} (h : store.size ≤ id) : store.node id = ⟨.null, .scalar []⟩ := by
  rw [Store.node, Array.getD_eq_getD_getElem?, Array.getElem?_eq_none h]
  rfl

def IsMapping (store : Store) (id : Nat) : Prop := ∃ pairs, (store.node id).content = .mapping pairs

structure Merged (store store' : Store) : Prop where
  size_eq : store'.size = store.size
  tag : ∀ id, (store'.node id).tag = (store.node id).tag ∨ (store.node id).tag = .value ∧ (store'.node id).tag = .text
  content : ∀ id, (store'.node id).content = (store.node id).content ∨
    IsMapping store id ∧ IsMapping store' id ∧ ArePlain store' (entriesOf store' id)

namespace Merged
variable {store store' store'' : Store}

theorem refl (store : Store) : Merged store store := ⟨rfl, fun _ => .inl rfl, fun _ => .inl rfl⟩

theorem arePlain (h : Merged store store') {pairs : List (Nat × Nat)} (hplain : ArePlain store pairs) :
    ArePlain store' pairs := by
  intro pair hpair
  rcases h.tag pair.1 with heq | ⟨hvalue, -⟩
  · rw [heq]
    exact hplain pair hpair
  · exact absurd hvalue (hplain pair hpair).2

theorem tag_ne_merge (h : Merged store store') {id : Nat} (hid : (store.node id).tag ≠ .merge) :
    (store'.node id).tag ≠ .merge := by
  rcases h.tag id with heq | ⟨-, htext⟩
  · rwa [heq]
  · rw [htext]
    exact Tag.noConfusion

theorem isMapping (h : Merged store store') {id : Nat} (hid : IsMapping store id) : IsMapping store' id := by
  rcases h.content id with heq | ⟨-, hmapping, -⟩
  · obtain ⟨pairs, hpairs⟩ := hid
    exact ⟨pairs, heq.trans hpairs⟩
  · exact hmapping

theorem entriesOf_eq {id : Nat} (heq : (store'.node id).content = (store.node id).content) :
    entriesOf store' id = entriesOf store id := by
  unfold entriesOf
  rw [heq]

theorem trans (h : Merged store store') (h' : Merged store' store'') : Merged store store'' where
  size_eq := h'.size_eq.trans h.size_eq
  tag id := by
    rcases h'.tag id with heq' | ⟨hvalue, htext⟩
    · rcases h.tag id with heq | ⟨hvalue, htext⟩
      · exact .inl (heq'.trans heq)
      · exact .inr ⟨hvalue, heq'.trans htext⟩
    · rcases h.tag id with heq | ⟨-, htext'⟩
      · exact .inr ⟨heq.symm.trans hvalue, htext⟩
      · rw [htext'] at hvalue
        cases hvalue
  content id := by
    rcases h'.content id with heq' | ⟨hmapping, hmapping', hplain⟩
    · rcases h.content id with heq | ⟨hmapping, hmapping', hplain⟩
      · exact .inl (heq'.trans heq)
      · refine .inr ⟨hmapping, h'.isMapping hmapping', ?_⟩
        rw [entriesOf_eq heq']
        exact h'.arePlain hplain
    · refine .inr ⟨?_, hmapping', hplain⟩
      rcases h.content id with heq | ⟨hmapping, -, -⟩
      · obtain ⟨pairs, hpairs⟩ := hmapping
        exact ⟨pairs, heq.symm.trans hpairs⟩
      · exact hmapping

end Merged

/-! ## Keys -/

theorem lt_size_of_tag {store : Store} {id : Nat} (h : (store.node id).tag = .value) : id < store.size := by
  rcases Nat.lt_or_ge id store.size with hlt | hge
  · exact hlt
  · rw [node_of_size_le hge] at h
    cases h

/-- A value key becomes a text. -/
theorem plainKey_merged {store : Store} {key : Nat} (h : (store.node key).tag = .value) :
    Merged store (store.setIfInBounds key { store.node key with tag := .text }) where
  size_eq := Array.size_setIfInBounds
  tag id := by
    rw [node_setIfInBounds]
    split
    · next hid => exact .inr ⟨hid.1 ▸ h, rfl⟩
    · exact .inl rfl
  content id := by
    rw [node_setIfInBounds]
    split
    · next hid => rw [← hid.1]; exact .inl rfl
    · exact .inl rfl

theorem plainKeys_content (store : Store) (entries : List (Nat × Nat)) (id : Nat) :
    ((plainKeys store entries).node id).content = (store.node id).content := by
  unfold plainKeys
  induction entries generalizing store with
  | nil => rfl
  | cons entry entries ih =>
    rw [List.foldl_cons, ih]
    dsimp only
    split
    · rw [node_setIfInBounds]
      split
      · next hid => rw [← hid.1]
      · rfl
    · rfl

theorem plainKeys_merged {store : Store} {entries : List (Nat × Nat)}
    (h : ∀ entry ∈ entries, (store.node entry.1).tag ≠ .merge) :
    Merged store (plainKeys store entries) ∧ ArePlain (plainKeys store entries) entries := by
  unfold plainKeys
  induction entries generalizing store with
  | nil => exact ⟨.refl store, by intro pair hpair; cases hpair⟩
  | cons entry entries ih =>
    rw [List.foldl_cons]
    dsimp only
    split
    · next hvalue =>
      have hkey := plainKey_merged hvalue
      obtain ⟨hmerged, hplain⟩ := ih fun e he => hkey.tag_ne_merge (h e (List.mem_cons_of_mem entry he))
      have hentry : ArePlain (store.setIfInBounds entry.1 { store.node entry.1 with tag := .text }) [entry] := by
        intro pair hpair
        rw [List.mem_singleton.mp hpair, node_setIfInBounds, if_pos ⟨rfl, lt_size_of_tag hvalue⟩]
        exact ⟨Tag.noConfusion, Tag.noConfusion⟩
      refine ⟨hkey.trans hmerged, fun pair hpair => ?_⟩
      rcases List.mem_cons.mp hpair with rfl | hpair
      · exact hmerged.arePlain hentry pair List.mem_cons_self
      · exact hplain pair hpair
    · next hne =>
      obtain ⟨hmerged, hplain⟩ := ih fun e he => h e (List.mem_cons_of_mem entry he)
      have hentry : ArePlain store [entry] := by
        intro pair hpair
        rw [List.mem_singleton.mp hpair]
        exact ⟨h entry List.mem_cons_self, hne⟩
      refine ⟨hmerged, fun pair hpair => ?_⟩
      rcases List.mem_cons.mp hpair with rfl | hpair
      · exact hmerged.arePlain hentry pair List.mem_cons_self
      · exact hplain pair hpair

/-! ## Entries -/

section
variable {store : Store} {id : Nat} (hid : IsMapping store id) (pairs : List (Nat × Nat))
include hid

theorem lt_size_of_isMapping : id < store.size := by
  rcases Nat.lt_or_ge id store.size with hlt | hge
  · exact hlt
  · obtain ⟨pairs, hpairs⟩ := hid
    rw [node_of_size_le hge] at hpairs
    cases hpairs

theorem entriesOf_setEntries : entriesOf (setEntries store id pairs) id = pairs := by
  unfold entriesOf setEntries
  rw [node_setIfInBounds, if_pos ⟨rfl, lt_size_of_isMapping hid⟩]

theorem isMapping_setEntries : IsMapping (setEntries store id pairs) id := by
  unfold setEntries
  refine ⟨pairs, ?_⟩
  rw [node_setIfInBounds, if_pos ⟨rfl, lt_size_of_isMapping hid⟩]

end

theorem tag_setEntries (store : Store) (id : Nat) (pairs : List (Nat × Nat)) (j : Nat) :
    ((setEntries store id pairs).node j).tag = (store.node j).tag := by
  unfold setEntries
  rw [node_setIfInBounds]
  split
  · next hj => rw [← hj.1]
  · rfl

theorem arePlain_setEntries {store : Store} {id : Nat} {pairs pairs' : List (Nat × Nat)} :
    ArePlain (setEntries store id pairs) pairs' ↔ ArePlain store pairs' := by
  unfold ArePlain
  simp only [tag_setEntries]

/-- The entries of a mapping may be replaced, as long as no key with a meaning is among them in the end. -/
theorem Merged.of_setEntries {store store' : Store} {id : Nat} {pairs : List (Nat × Nat)} (hid : IsMapping store id)
    (h : Merged (setEntries store id pairs) store') (hplain : ArePlain store' (entriesOf store' id)) :
    Merged store store' where
  size_eq := h.size_eq.trans Array.size_setIfInBounds
  tag j := by
    have htag := h.tag j
    rwa [tag_setEntries] at htag
  content j := by
    by_cases hj : id = j
    · subst hj
      exact .inr ⟨hid, h.isMapping (isMapping_setEntries hid pairs), hplain⟩
    · have hnode : Store.node (setEntries store id pairs) j = store.node j := by
        unfold setEntries
        rw [node_setIfInBounds, if_neg fun hand => hj hand.1]
      have hcontent := h.content j
      unfold IsMapping at hcontent ⊢
      rwa [hnode] at hcontent

/-! ## Merged mappings -/

inductive HasWay (step : Nat → Nat → Prop) : Nat → Nat → Prop
  | here (start : Nat) : HasWay step start 0
  | onward {start next length : Nat} (first : step start next) (rest : HasWay step next length) :
      HasWay step start (length + 1)

theorem HasWay.mono {step step' : Nat → Nat → Prop} (h : ∀ {id target}, step id target → step' id target)
    {start length : Nat} (way : HasWay step start length) : HasWay step' start length := by
  induction way with
  | here start => exact .here start
  | onward first _ ih => exact .onward (h first) ih

/-- A mapping has a merge key for another one, or for a list that names it. -/
def Merges (store : Store) (id source : Nat) : Prop :=
  ∃ pair ∈ entriesOf store id, (store.node pair.1).tag = .merge ∧
    (pair.2 = source ∨ ∃ items, (store.node pair.2).content = .sequence items ∧ source ∈ items)

theorem Merged.merges {store store' : Store} (h : Merged store store') {id source : Nat}
    (hmerges : Merges store' id source) : Merges store id source := by
  obtain ⟨pair, hpair, htag, hsource⟩ := hmerges
  have hentries : entriesOf store' id = entriesOf store id := by
    rcases h.content id with heq | ⟨-, -, hplain⟩
    · exact entriesOf_eq heq
    · exact absurd htag (hplain pair hpair).1
  rw [hentries] at hpair
  refine ⟨pair, hpair, ?_, hsource.imp_right fun ⟨items, hitems, hmem⟩ => ⟨items, ?_, hmem⟩⟩
  · rcases h.tag pair.1 with heq | ⟨-, htext⟩
    · exact heq.symm.trans htag
    · rw [htext] at htag
      cases htag
  · rcases h.content pair.2 with heq | ⟨-, ⟨pairs, hpairs⟩, -⟩
    · exact heq.symm.trans hitems
    · rw [hpairs] at hitems
      cases hitems

theorem sequence_of_setEntries {store : Store} {id : Nat} {pairs : List (Nat × Nat)} (hid : IsMapping store id)
    {j : Nat} {items : List Nat} (h : (Store.node (setEntries store id pairs) j).content = .sequence items) :
    (store.node j).content = .sequence items := by
  have hne : id ≠ j := by
    rintro rfl
    obtain ⟨pairs', hpairs'⟩ := isMapping_setEntries hid pairs
    rw [hpairs'] at h
    cases h
  unfold setEntries at h
  rwa [node_setIfInBounds, if_neg fun hand => hne hand.1] at h

/-- Fewer entries are fewer merged mappings. -/
theorem merges_of_setEntries {store : Store} {id : Nat} {pairs : List (Nat × Nat)} (hid : IsMapping store id)
    (hpairs : pairs ⊆ entriesOf store id) {id' source : Nat} (h : Merges (setEntries store id pairs) id' source) :
    Merges store id' source := by
  obtain ⟨pair, hpair, htag, hsource⟩ := h
  rw [tag_setEntries] at htag
  refine ⟨pair, ?_, htag,
    hsource.imp_right fun ⟨items, hitems, hmem⟩ => ⟨items, sequence_of_setEntries hid hitems, hmem⟩⟩
  by_cases hid' : id = id'
  · subst hid'
    rw [entriesOf_setEntries hid] at hpair
    exact hpairs hpair
  · unfold entriesOf setEntries at hpair
    rwa [node_setIfInBounds, if_neg fun hand => hid' hand.1] at hpair

/-! ## All merge keys -/

structure MappingDone (store : Store) (id : Nat) (store' : Store) : Prop where
  merged : Merged store store'
  plain : ArePlain store' (entriesOf store' id)

structure AllDone (store : Store) (result : Store × List (List (Nat × Nat))) : Prop where
  merged : Merged store result.1
  plain : ∀ list ∈ result.2, ArePlain result.1 list

def MergeFault (store : Store) (ids : List Nat) (room : Nat) (fault : Fault) : Prop :=
  fault = .malformed ∨ fault = .scalar .tooDeep ∧ ∃ id ∈ ids, HasWay (Merges store) id room

theorem MergeFault.mono {store store' : Store} {ids ids' : List Nat} {room : Nat} {fault : Fault}
    (hstore : ∀ {id source}, Merges store' id source → Merges store id source) (hids : ids' ⊆ ids)
    (h : MergeFault store' ids' room fault) : MergeFault store ids room fault :=
  h.imp_right fun ⟨heq, id, hid, way⟩ => ⟨heq, id, hids hid, way.mono hstore⟩

def MergesBelow (limit : Nat) : Prop :=
  ∀ {room id place : Nat} {merged : List (Nat × Nat)} {store : Store}, (merged = [] ∨ IsMapping store id) →
    ArePlain store merged → ArePlain store ((entriesOf store id).take place) →
    Ends (MappingDone store id) (MergeFault store [id] room) (mergeFrom limit room id place merged store)

theorem MergesBelow.fromStart {limit : Nat} (hlimit : MergesBelow limit) (room id : Nat) (store : Store) :
    Ends (MappingDone store id) (MergeFault store [id] room) (mergeFrom limit room id 0 [] store) :=
  hlimit (.inl rfl) (fun _ hpair => absurd hpair List.not_mem_nil) fun _ hpair => absurd hpair List.not_mem_nil

theorem mergeAll_ends {limit : Nat} (hlimit : MergesBelow limit) (room : Nat) (items : List Nat) (store : Store) :
    Ends (AllDone store) (MergeFault store items room) (mergeAll limit room items store) := by
  induction items generalizing store with
  | nil =>
    unfold mergeAll
    exact ⟨.refl store, by intro list hlist; cases hlist⟩
  | cons item items ih =>
    unfold mergeAll
    split
    · have hitem := (hlimit.fromStart room item store).mono (fun _ h => h) fun _ h =>
        h.mono id (List.cons_subset_cons item (List.nil_subset items))
      refine hitem.bind fun store' hdone => ?_
      have hitems := (ih store').mono (fun _ h => h) fun _ h =>
        h.mono hdone.merged.merges (List.subset_cons_self item items)
      refine hitems.bind fun r hall => ?_
      refine ⟨hdone.merged.trans hall.merged, fun list hlist => ?_⟩
      rcases List.mem_cons.mp hlist with rfl | hlist
      · exact hall.merged.arePlain hdone.plain
      · exact hall.plain list hlist
    · exact .inl rfl

theorem ArePlain.append {store : Store} {pairs pairs' : List (Nat × Nat)} (h : ArePlain store pairs)
    (h' : ArePlain store pairs') : ArePlain store (pairs ++ pairs') := fun pair hpair =>
  (List.mem_append.mp hpair).elim (h pair) (h' pair)

theorem ArePlain.of_subset {store : Store} {pairs pairs' : List (Nat × Nat)} (h : ArePlain store pairs)
    (hsubset : pairs' ⊆ pairs) : ArePlain store pairs' := fun pair hpair => h pair (hsubset hpair)

theorem isMapping_of_mem {store : Store} {id : Nat} {pair : Nat × Nat} (h : pair ∈ entriesOf store id) :
    IsMapping store id := by
  unfold entriesOf at h
  split at h
  · next pairs heq => exact ⟨pairs, heq⟩
  · cases h

section
variable {store : Store} {id place : Nat} {merged before : List (Nat × Nat)}
  (hkeys : ∀ entry ∈ before, (store.node entry.1).tag ≠ .merge)
include hkeys

/-- The last step: no merge key is left. -/
theorem mappingDone_last (hid : merged = [] ∨ IsMapping store id) (hmerged : ArePlain store merged)
    (hplace : ArePlain store ((entriesOf store id).take place)) (hbefore : (entriesOf store id).drop place = before) :
    MappingDone store id (if merged.isEmpty = true then plainKeys store before
      else setEntries (plainKeys store before) id (merged ++ entriesOf store id)) := by
  obtain ⟨hkeys, hplain⟩ := plainKeys_merged hkeys
  have hentries : ArePlain (plainKeys store before) (entriesOf store id) := by
    rw [← List.take_append_drop place (entriesOf store id), hbefore]
    exact (hkeys.arePlain hplace).append hplain
  split
  · refine ⟨hkeys, ?_⟩
    rwa [Merged.entriesOf_eq (plainKeys_content store before id)]
  · next hne =>
    have hmapping := hkeys.isMapping (hid.resolve_left (by simpa using hne))
    have hplain' : ArePlain (setEntries (plainKeys store before) id (merged ++ entriesOf store id))
        (entriesOf (setEntries (plainKeys store before) id (merged ++ entriesOf store id)) id) := by
      rw [entriesOf_setEntries hmapping, arePlain_setEntries]
      exact (hkeys.arePlain hmerged).append hentries
    exact ⟨hkeys.trans (.of_setEntries hmapping (.refl _) hplain'), hplain'⟩

variable {after : List (Nat × Nat)} {merge : Nat × Nat}
  (hbefore : (entriesOf store id).drop place = before ++ merge :: after)
include hbefore

theorem isMapping_before : IsMapping (plainKeys store before) id := by
  have hmem : merge ∈ (entriesOf store id).drop place := by
    rw [hbefore]
    simp
  exact (plainKeys_merged hkeys).1.isMapping (isMapping_of_mem (List.mem_of_mem_drop hmem))

/-- Taking a merge key away takes no others in. -/
theorem merges_of_step {id' source : Nat}
    (h : Merges (setEntries (plainKeys store before) id ((entriesOf store id).take (place + before.length) ++ after))
      id' source) : Merges store id' source := by
  refine (plainKeys_merged hkeys).1.merges (merges_of_setEntries (isMapping_before hkeys hbefore) ?_ h)
  rw [Merged.entriesOf_eq (plainKeys_content store before id)]
  refine List.append_subset.mpr ⟨List.take_subset _ _, fun pair hpair => List.mem_of_mem_drop (i := place) ?_⟩
  rw [hbefore]
  simp [hpair]

/-- A step that goes on: the merge key behind the entries `before` is taken away, and then `more` comes in. -/
theorem mergeFrom_step {limit room : Nat} (hlimit : MergesBelow limit)
    (hmerged : ArePlain store merged) (hplace : ArePlain store ((entriesOf store id).take place)) {store' : Store}
    (hstore : Merged
      (setEntries (plainKeys store before) id ((entriesOf store id).take (place + before.length) ++ after)) store')
    {more : List (Nat × Nat)} (hmore : ArePlain store' more) :
    Ends (MappingDone store id) (MergeFault store [id] room)
      (mergeFrom limit room id (place + before.length) (merged ++ more) store') := by
  have hmerges : ∀ {id' source}, Merges store' id' source → Merges store id' source := fun h =>
    merges_of_step hkeys hbefore (hstore.merges h)
  have hmapping := isMapping_before hkeys hbefore
  obtain ⟨hkeys, hplain⟩ := plainKeys_merged hkeys
  have htake : (entriesOf store id).take (place + before.length) = (entriesOf store id).take place ++ before := by
    rw [List.take_add, hbefore, List.take_left']
    rfl
  have hlen : ((entriesOf store id).take (place + before.length)).length = place + before.length := by
    have hdrop := congrArg List.length hbefore
    simp at hdrop ⊢
    omega
  generalize hpairs : (entriesOf store id).take (place + before.length) = taken at hstore htake hlen
  have hrest := hstore.isMapping (isMapping_setEntries hmapping _)
  -- the way through the sources may have come back to this mapping and replaced its entries
  have htaken : ArePlain store' ((entriesOf store' id).take (place + before.length)) := by
    rcases hstore.content id with heq | ⟨-, -, hall⟩
    · rw [Merged.entriesOf_eq heq, entriesOf_setEntries hmapping, List.take_left' hlen, htake]
      refine hstore.arePlain ?_
      rw [arePlain_setEntries]
      exact (hkeys.arePlain hplace).append hplain
    · exact hall.of_subset (List.take_subset _ _)
  have hmerged' : ArePlain store' merged := by
    refine hstore.arePlain ?_
    rw [arePlain_setEntries]
    exact hkeys.arePlain hmerged
  refine (hlimit (.inr hrest) (hmerged'.append hmore) htaken).mono (fun store'' hdone => ?_) fun _ h =>
    h.mono hmerges (List.Subset.refl _)
  exact ⟨hkeys.trans (.of_setEntries hmapping (hstore.trans hdone.merged) hdone.plain), hdone.plain⟩

/-- What ends the merging of the mappings that one merge key names. -/
theorem mergeFault_step {room : Nat} (hroom : ¬ room = 0) (hmerge : (store.node merge.1).tag = .merge) {ids : List Nat}
    (hids : ∀ source ∈ ids, merge.2 = source ∨ ∃ items, (store.node merge.2).content = .sequence items ∧ source ∈ items)
    {fault : Fault} (h : MergeFault
      (setEntries (plainKeys store before) id ((entriesOf store id).take (place + before.length) ++ after)) ids
      (room - 1) fault) :
    MergeFault store [id] room fault := by
  refine h.imp_right fun ⟨heq, source, hsource, way⟩ => ⟨heq, id, List.mem_singleton_self id, ?_⟩
  have hmem : merge ∈ entriesOf store id := by
    refine List.mem_of_mem_drop (i := place) ?_
    rw [hbefore]
    simp
  rw [← Nat.sub_one_add_one hroom]
  exact .onward ⟨merge, hmem, hmerge, hids source hsource⟩ (way.mono fun h => merges_of_step hkeys hbefore h)

end

theorem mergesBelow (limit : Nat) : MergesBelow limit := by
  induction limit using Nat.strongRecOn with
  | ind limit ih =>
    intro room id place merged store hid hmerged hplace
    have hbefore := List.takeWhile_append_dropWhile
      (p := fun entry => !decide ((store.node entry.1).tag = .merge)) (l := (entriesOf store id).drop place)
    have hkeys : ∀ entry ∈ ((entriesOf store id).drop place).takeWhile fun entry =>
        !decide ((store.node entry.1).tag = .merge), (store.node entry.1).tag ≠ .merge := by
      intro entry hentry
      simpa using List.mem_takeWhile_imp hentry
    unfold mergeFrom
    split
    · next hroom => exact .inr ⟨rfl, id, List.mem_singleton_self id, hroom ▸ .here id⟩
    · next hroom =>
      dsimp only
      split
      · next heq =>
        rw [heq, List.append_nil] at hbefore
        exact mappingDone_last hkeys hid hmerged hplace hbefore.symm
      · next key source after heq =>
        have hmerge : (store.node key).tag = .merge := by
          have hhead := List.head?_dropWhile_not (fun entry : Nat × Nat => !decide ((store.node entry.1).tag = .merge))
            ((entriesOf store id).drop place)
          simpa [heq] using hhead
        rw [heq] at hbefore
        split
        · exact .inl rfl
        · next limit =>
          have hbelow : MergesBelow limit := ih limit (Nat.lt_succ_self limit)
          split
          · have hsource := (hbelow.fromStart (room - 1) source _).mono (fun _ h => h) fun _ h =>
              mergeFault_step hkeys hbefore.symm hroom hmerge (fun s hs => .inl (List.mem_singleton.mp hs).symm) h
            exact hsource.bind fun store' hdone =>
              mergeFrom_step hkeys hbefore.symm hbelow hmerged hplace hdone.merged hdone.plain
          · next items hitems =>
            have hitems' : (store.node source).content = .sequence items := by
              rw [← plainKeys_content store _ source]
              exact sequence_of_setEntries (isMapping_before hkeys hbefore.symm) hitems
            have hsources := (mergeAll_ends hbelow (room - 1) items _).mono (fun _ h => h) fun _ h =>
              mergeFault_step hkeys hbefore.symm hroom hmerge (fun s hs => .inr ⟨items, hitems', hs⟩) h
            refine hsources.bind fun r hall => ?_
            refine mergeFrom_step hkeys hbefore.symm hbelow hmerged hplace hall.merged fun pair hpair => ?_
            obtain ⟨list, hlist, hpair⟩ := List.mem_flatten.mp hpair
            exact hall.plain list (List.mem_reverse.mp hlist) pair hpair
          · exact .inl rfl

end CursorDoc.Yaml
