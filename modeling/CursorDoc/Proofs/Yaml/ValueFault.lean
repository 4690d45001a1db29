import CursorDoc.Proofs.Yaml.Merge
import Mathlib.Logic.Relation

/-!
# Nodes without a value

A well-formed document has values unless one of its nodes has a tag that its
text does not fit, or too many nodes have to be followed in a row. The text is
its own, or the one that value keys lead to.
-/

namespace CursorDoc.Yaml

/-- A mapping leads to the value of its value key. -/
def Leads (store : Store) (id target : Nat) : Prop :=
  ∃ key, (key, target) ∈ entriesOf store id ∧ (store.node key).tag = .value

/-- The nodes that have no value of their tag, and why. No more than `chain` nodes are followed in a row. -/
inductive Store.Faulty (store : Store) (chain : Nat) : ScalarFault → Prop
  /-- A scalar that does not fit its tag. -/
  | scalar {id : Nat} {text : Text} {fault : ScalarFault} (content : (store.node id).content = .scalar text)
      (value : scalarValue (store.node id).tag true text = .error (.scalar fault)) : Faulty store chain fault
  /-- A mapping in the place of a scalar that does not fit its tag. -/
  | mapping {id target : Nat} {text : Text} {fault : ScalarFault} (leads : Relation.TransGen (Leads store) id target)
      (content : (store.node target).content = .scalar text)
      (value : scalarValue (store.node id).tag false text = .error (.scalar fault)) : Faulty store chain fault
  /-- A mapping in the place of a scalar, with too many value keys on the way. -/
  | leads {id : Nat} (tag : (store.node id).tag ≠ .mapping) (way : HasWay (Leads store) id (chain + 1)) :
      Faulty store chain .tooDeep
  /-- A mapping into which others are merged, with too many merge keys on the way. -/
  | merges {id : Nat} (way : HasWay (Merges store) id (chain + 1)) : Faulty store chain .tooDeep

/-! ## Value keys -/

theorem Merged.leads {store store' : Store} (h : Merged store store') {id target : Nat}
    (hleads : Leads store' id target) :
    Leads store id target := by
  obtain ⟨key, hmem, htag⟩ := hleads
  have hkey : (store.node key).tag = .value := by
    rcases h.tag key with heq | ⟨hvalue, -⟩
    · exact heq.symm.trans htag
    · exact hvalue
  rcases h.content id with heq | ⟨-, -, hplain⟩
  · rw [Merged.entriesOf_eq heq] at hmem
    exact ⟨key, hmem, hkey⟩
  · exact absurd htag (hplain _ hmem).2

theorem scalarText_ends (store : Store) (limit id : Nat) :
    Ends
      (fun text => ∃ target, Relation.ReflTransGen (Leads store) id target ∧ (store.node target).content = .scalar text)
      (fun fault => fault = .malformed ∨ fault = .scalar .tooDeep ∧ HasWay (Leads store) id limit)
      (scalarText store limit id) := by
  induction limit generalizing id with
  | zero => exact .inr ⟨rfl, .here id⟩
  | succ limit ih =>
    unfold scalarText
    split
    · next text htext => exact ⟨id, .refl, htext⟩
    · exact .inl rfl
    · next pairs hpairs =>
      split
      · next key target hfind =>
        have hleads : Leads store id target := by
          refine ⟨key, ?_, by simpa using List.find?_some hfind⟩
          unfold entriesOf
          rw [hpairs]
          exact List.mem_of_find?_eq_some hfind
        refine (ih target).mono (fun text htext => ?_) fun fault hfault => ?_
        · obtain ⟨target', hreach, hcontent⟩ := htext
          exact ⟨target', .head hleads hreach, hcontent⟩
        · exact hfault.imp_right fun h => ⟨h.1, .onward hleads h.2⟩
      · exact .inl rfl

/-! ## Values of nodes -/

def Blames (store : Store) (chain : Nat) (fault : Fault) : Prop :=
  ∀ found, fault = .scalar found → store.Faulty chain found

theorem blames_malformed (store : Store) (chain : Nat) : Blames store chain .malformed := fun _ h => by cases h

structure Follows (store : Store) (chain : Nat) (s : ValueState) : Prop where
  merged : Merged store s.store
  chain_eq : s.chain = chain

def Evaluates {α : Type} (store : Store) (chain : Nat) (x : Evaluate α) : Prop :=
  Keeps (Follows store chain) (Blames store chain) x

section
variable {store store' : Store} {chain : Nat} (h : Merged store store') {id : Nat}
include h

theorem Merged.scalar {text : Text} (hcontent : (store'.node id).content = .scalar text) :
    (store.node id).content = .scalar text := by
  rcases h.content id with heq | ⟨-, ⟨pairs, hpairs⟩, -⟩
  · exact heq.symm.trans hcontent
  · rw [hcontent] at hpairs
    cases hpairs

theorem scalarValue_ends {target : Nat} {text : Text} {isText : Bool}
    (hreach : Relation.ReflTransGen (Leads store') id target) (hcontent : (store'.node target).content = .scalar text)
    (hisText : isText = true ↔ ∃ text, (store'.node id).content = .scalar text) :
    Ends (fun _ => True) (Blames store chain) (scalarValue (store'.node id).tag isText text) := by
  cases hvalue : scalarValue (store'.node id).tag isText text with
  | ok value => trivial
  | error fault =>
    rintro found rfl
    -- a tag that was changed is that of a text, which fits every text
    have htag : (store'.node id).tag = (store.node id).tag := by
      rcases h.tag id with heq | ⟨-, htext⟩
      · exact heq
      · rw [htext] at hvalue
        cases hvalue
    rw [htag] at hvalue
    rcases Relation.reflTransGen_iff_eq_or_transGen.mp hreach with rfl | hleads
    · rw [hisText.mpr ⟨text, hcontent⟩] at hvalue
      exact .scalar (h.scalar hcontent) hvalue
    · have hnot : isText = false := by
        rw [Bool.eq_false_iff, Ne, hisText]
        rintro ⟨text', htext'⟩
        obtain ⟨next, ⟨key, hmem, -⟩, -⟩ := Relation.TransGen.head'_iff.mp hleads
        obtain ⟨pairs, hpairs⟩ := isMapping_of_mem hmem
        rw [htext'] at hpairs
        cases hpairs
      rw [hnot] at hvalue
      exact .mapping (Relation.TransGen.mono (fun _ _ => h.leads) _ _ hleads) (h.scalar hcontent) hvalue

theorem scalarText_fault (htag : (store'.node id).tag ≠ .mapping) {fault : Fault}
    (hfault : fault = .malformed ∨ fault = .scalar .tooDeep ∧ HasWay (Leads store') id (chain + 1)) :
    Blames store chain fault := by
  rcases hfault with rfl | ⟨rfl, way⟩
  · exact blames_malformed store chain
  · rintro found hfound
    cases hfound
    refine .leads (fun hmapping => ?_) (way.mono h.leads)
    rcases h.tag id with heq | ⟨hvalue, -⟩
    · exact htag (heq.trans hmapping)
    · rw [hvalue] at hmapping
      cases hmapping

end

namespace Evaluates
variable {α β : Type} {store : Store} {chain : Nat}

theorem pure (a : α) : Evaluates store chain (pure a : Evaluate α) := Keeps.pure a

theorem bind {x : Evaluate α} {f : α → Evaluate β} (hx : Evaluates store chain x) (hf : ∀ a, Evaluates store chain (f a)) :
    Evaluates store chain (x >>= f) :=
  Keeps.bind hx hf

theorem get_bind {f : ValueState → Evaluate β} (hf : ∀ s, Follows store chain s → Evaluates store chain (f s)) :
    Evaluates store chain (get >>= f) :=
  Keeps.get_bind hf

theorem malformed : Evaluates store chain (Evaluate.malformed : Evaluate α) := Keeps.throw (blames_malformed store chain)

theorem meet (id : Nat) : Evaluates store chain (Evaluate.meet id) := by
  refine Keeps.modify fun s hs => ?_
  split
  · exact hs
  · exact ⟨hs.merged, hs.chain_eq⟩

theorem value (id : Nat) : Evaluates store chain (Evaluate.value id) := by
  have hcollection : Evaluates store chain (Evaluate.value.collection id) := .bind (.meet id) fun _ => .pure _
  refine .get_bind fun s hs => ?_
  dsimp only
  split
  · exact .bind (.meet id) fun _ => .pure _
  · exact hcollection
  · exact hcollection
  · exact hcollection
  · exact hcollection
  · exact .malformed
  · exact .malformed
  · exact .malformed
  · next hmapping _ _ _ _ _ _ _ =>
    have htext := (scalarText_ends s.store (s.chain + 1) id).mono (fun _ h => h) fun _ h =>
      scalarText_fault hs.merged hmapping (hs.chain_eq ▸ h)
    refine Keeps.lift_bind htext fun text hreach => Keeps.lift ?_
    obtain ⟨target, hreach, hcontent⟩ := hreach
    refine scalarValue_ends hs.merged hreach hcontent ?_
    cases (s.store.node id).content <;> simp

theorem entries (nodes : List (Nat × Nat)) : Evaluates store chain (Evaluate.entries nodes) := by
  refine Keeps.foldlM (fun found pair => ?_) nodes []
  refine Evaluates.bind (.value _) fun key => ?_
  dsimp only
  split
  · exact .bind .malformed fun _ => .bind (.value _) fun _ => .pure _
  · exact .bind (.value _) fun _ => .pure _

theorem mergedEntries (id : Nat) : Evaluates store chain (Evaluate.mergedEntries id) := by
  refine .get_bind fun s hs => ?_
  have hfault : ∀ fault, MergeFault s.store [id] (s.chain + 1) fault → Blames store chain fault := by
    rintro fault (rfl | ⟨rfl, start, -, way⟩)
    · exact blames_malformed store chain
    · rintro found hfound
      cases hfound
      exact .merges (hs.chain_eq ▸ way.mono hs.merged.merges)
  have hdone := (MergesBelow.fromStart (mergesBelow (mergeKeys s.store + 1)) (s.chain + 1) id s.store).mono
    (fun _ h => h) hfault
  exact Keeps.lift_bind hdone fun store' hdone =>
    .bind (Keeps.set ⟨hs.merged.trans hdone.merged, hs.chain_eq⟩) fun _ => Evaluates.entries _

theorem look (id : Nat) : Evaluates store chain (Evaluate.look id) := by
  have hpair : ∀ id, Evaluates store chain (Evaluate.look.pair id) := by
    intro id
    refine .get_bind fun s hs => ?_
    split
    · exact .bind (Keeps.discard (Evaluates.value _)) fun _ => Keeps.discard (Evaluates.value _)
    · exact .malformed
  refine .get_bind fun s hs => ?_
  dsimp only
  split
  · exact .bind (.mergedEntries id) fun _ => Keeps.modify fun _ hs => ⟨hs.merged, hs.chain_eq⟩
  · exact Keeps.discard (Evaluates.mergedEntries id)
  · exact Keeps.forM (fun item => Keeps.discard (Evaluates.value item)) _
  · exact Keeps.forM hpair _
  · exact Keeps.forM hpair _
  · exact .malformed

theorem lookFrom (limit place : Nat) : Evaluates store chain (Evaluate.lookFrom limit place) := by
  induction limit generalizing place with
  | zero => exact .pure _
  | succ limit ih =>
    refine .get_bind fun s hs => ?_
    split
    · exact .pure _
    · exact .bind (.look _) fun _ => ih (place + 1)

end Evaluates

/-- A document fails to have values only because of a node that has none. -/
theorem Values.ofDocument?_fault {chain : Nat} {document : Document} {fault : ScalarFault}
    (h : ofDocument? chain document = .error (.scalar fault)) : document.store.Faulty chain fault := by
  unfold ofDocument? at h
  split at h
  · cases h
  · next root _ =>
    have hevaluates : Evaluates document.store chain (Evaluate.value root >>= fun value =>
        Evaluate.lookFrom document.store.size 0 >>= fun _ => pure value) :=
      .bind (.value root) fun _ => .bind (.lookFrom _ 0) fun _ => .pure _
    dsimp only at h
    split at h
    · cases h
    · next heq =>
      cases h
      exact (hevaluates { store := document.store, chain } ⟨.refl _, rfl⟩).of_error heq fault rfl

end CursorDoc.Yaml
