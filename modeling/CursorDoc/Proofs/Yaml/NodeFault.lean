import CursorDoc.Proofs.Outcome
import CursorDoc.Yaml.Node

/-!
# What stops the reading of a document

The tokens of a document can be in a wrong order, and then the document is
malformed, or they can end too early, and then the fault that ended them is
reported. Nothing else stops the reading.
-/

namespace CursorDoc.Yaml

namespace Build

/-- A reading that reports `fault` where the tokens end, and fails for nothing else but a malformed document. -/
def Reports {α : Type} (fault : Fault) (x : Build α) : Prop :=
  Keeps (·.fault = fault) (fun found => found = .malformed ∨ found = fault) x

variable {fault : Fault}

namespace Reports
variable {α β : Type}

theorem pure (a : α) : Reports fault (pure a : Build α) := Keeps.pure a

theorem bind {x : Build α} {f : α → Build β} (hx : Reports fault x) (hf : ∀ a, Reports fault (f a)) :
    Reports fault (x >>= f) :=
  Keeps.bind hx hf

/-- A reading that starts with a look at its state. -/
theorem get_bind {f : BuildState → Build β} (hf : ∀ s, s.fault = fault → Reports fault (f s)) :
    Reports fault (get >>= f) :=
  Keeps.get_bind hf

theorem malformed : Reports fault (malformed : Build α) := Keeps.throw (.inl rfl)

theorem skip : Reports fault skip := Keeps.modify fun _ h => h

theorem peek : Reports fault peek :=
  .get_bind fun s hs => by
    split
    · exact .pure _
    · exact Keeps.throw (.inr hs)

theorem fill (id : Nat) (content : Content) : Reports fault (fill id content) := Keeps.modify fun _ h => h

theorem add (p : Properties) (node : Node) : Reports fault (add p node) :=
  .get_bind fun s hs => by
    dsimp only
    split
    · exact .bind (Keeps.set hs) fun _ => .pure _
    · split
      · exact .bind .malformed fun _ => .pure _
      · exact .bind (Keeps.set hs) fun _ => .pure _

theorem addEmpty (p : Properties) : Reports fault (addEmpty p) := .add p _

theorem noContent (p : Properties) : Reports fault (noContent p) := by
  unfold Build.noContent
  split
  · exact .addEmpty p
  · exact .malformed

theorem tagName (name : TagName) : Reports fault (tagName name) := by
  unfold Build.tagName
  split
  · exact .pure _
  · refine .get_bind fun s hs => ?_
    split
    · exact .pure _
    · exact .malformed

/-- A collection whose content is read after its node was added. -/
theorem filled {items : Build α} (hitems : Reports fault items) (id : Nat) (content : α → Content) :
    Reports fault (items >>= fun found => Build.fill id (content found) >>= fun _ => Pure.pure id) :=
  .bind hitems fun _ => .bind (.fill id _) fun _ => .pure id

/-- An item in front of those that follow. -/
theorem consed {items : Build (List α)} (hitems : Reports fault items) (item : α) :
    Reports fault (items >>= fun found => Pure.pure (item :: found)) :=
  .bind hitems fun _ => .pure _

theorem properties : Reports fault properties := by
  unfold Build.properties
  refine .bind .peek fun token => ?_
  split
  · refine .bind .skip fun _ => .bind .peek fun token => ?_
    split
    · exact .bind .skip fun _ => .bind (.tagName _) fun _ => .pure _
    · exact .pure _
  · refine .bind .skip fun _ => .bind .peek fun token => ?_
    split
    · exact .bind .skip fun _ => .bind (.tagName _) fun _ => .pure _
    · exact .bind (.tagName _) fun _ => .pure _
  · exact .pure _

end Reports

structure AllReport (fault : Fault) (limit : Nat) : Prop where
  node : ∀ context, Reports fault (node limit context)
  blockItems : Reports fault (blockItems limit)
  looseItems : Reports fault (looseItems limit)
  blockEntries : Reports fault (blockEntries limit)
  flowItems : ∀ isFirst, Reports fault (flowItems limit isFirst)
  flowEntries : ∀ isFirst, Reports fault (flowEntries limit isFirst)

namespace AllReport
variable {limit : Nat} (h : AllReport fault limit)
include h

theorem node_succ (context : Context) : Reports fault (Build.node (limit + 1) context) := by
  unfold Build.node
  refine .bind .peek fun token => ?_
  split
  · refine .bind .skip fun _ => .get_bind fun s hs => ?_
    split
    · exact .pure _
    · exact .malformed
  · refine .bind .properties fun p => .bind .peek fun token => ?_
    split
    · exact .bind .skip fun _ => .add p _
    · exact .bind (.add p _) fun id => .bind .skip fun _ => .filled (h.flowItems true) id _
    · exact .bind (.add p _) fun id => .bind .skip fun _ => .filled (h.flowEntries true) id _
    · split
      · exact .bind (.add p _) fun id => .filled h.looseItems id _
      · exact .noContent p
    · split
      · exact .noContent p
      · exact .bind (.add p _) fun id => .bind .skip fun _ => .filled h.blockItems id _
    · split
      · exact .noContent p
      · exact .bind (.add p _) fun id => .bind .skip fun _ => .filled h.blockEntries id _
    · exact .noContent p

theorem blockItems_succ : Reports fault (Build.blockItems (limit + 1)) := by
  unfold Build.blockItems
  refine .bind .peek fun token => ?_
  split
  · refine .bind .skip fun _ => .bind .peek fun token => ?_
    dsimp only
    split
    · exact .bind (.addEmpty {}) fun _ => .consed h.blockItems _
    · exact .bind (.addEmpty {}) fun _ => .consed h.blockItems _
    · exact .bind (h.node .block) fun _ => .consed h.blockItems _
  · exact .bind .skip fun _ => .pure _
  · exact .malformed

theorem looseItems_succ : Reports fault (Build.looseItems (limit + 1)) := by
  unfold Build.looseItems
  refine .bind .peek fun token => ?_
  split
  · refine .bind .skip fun _ => .bind .peek fun token => ?_
    dsimp only
    split
    · exact .bind (.addEmpty {}) fun _ => .consed h.looseItems _
    · exact .bind (.addEmpty {}) fun _ => .consed h.looseItems _
    · exact .bind (.addEmpty {}) fun _ => .consed h.looseItems _
    · exact .bind (.addEmpty {}) fun _ => .consed h.looseItems _
    · exact .bind (h.node .block) fun _ => .consed h.looseItems _
  · exact .pure _

theorem blockPart : Reports fault (Build.blockPart limit) := by
  unfold Build.blockPart
  refine .bind .peek fun token => ?_
  split
  · exact .addEmpty {}
  · exact .addEmpty {}
  · exact .addEmpty {}
  · exact h.node .blockEntry

theorem blockEntries_succ : Reports fault (Build.blockEntries (limit + 1)) := by
  unfold Build.blockEntries
  refine .bind .peek fun token => ?_
  split
  · refine .bind .skip fun _ => .bind h.blockPart fun key => .bind .peek fun token => ?_
    dsimp only
    split
    · exact .bind .skip fun _ => .bind h.blockPart fun _ => .consed h.blockEntries _
    · exact .bind (.addEmpty {}) fun _ => .consed h.blockEntries _
  · exact .bind .skip fun _ => .pure _
  · exact .malformed

theorem flowItems_succ (isFirst : Bool) : Reports fault (Build.flowItems (limit + 1) isFirst) := by
  unfold Build.flowItems
  refine .bind .peek fun token => ?_
  split
  · exact .bind .skip fun _ => .pure _
  · extract_lets go
    have hgo : ∀ a, Reports fault (go a) := by
      refine fun _ => .bind .peek fun token => ?_
      split
      · exact .bind .skip fun _ => .pure _
      · refine .bind (.add {} _) fun pair => .bind .skip fun _ => .bind .peek fun token => ?_
        extract_lets goKey
        have hgoKey : ∀ key, Reports fault (goKey key) := by
          refine fun key => .bind .peek fun token => ?_
          extract_lets goValue
          have hgoValue : ∀ value, Reports fault (goValue value) := fun value =>
            .bind (.fill pair _) fun _ => .consed (h.flowItems false) pair
          split
          · refine .bind .skip fun _ => .bind .peek fun token => ?_
            split
            · exact .bind (.addEmpty {}) hgoValue
            · exact .bind (.addEmpty {}) hgoValue
            · exact .bind (h.node .flow) hgoValue
          · exact .bind (.addEmpty {}) hgoValue
        split
        · exact .bind (.addEmpty {}) hgoKey
        · exact .bind (.addEmpty {}) hgoKey
        · exact .bind (.addEmpty {}) hgoKey
        · exact .bind (h.node .flow) hgoKey
      · exact .bind (h.node .flow) fun item => .consed (h.flowItems false) item
    clear_value go
    split
    · split
      · exact .bind .skip hgo
      · exact .bind .malformed hgo
    · exact hgo _

theorem flowEntries_succ (isFirst : Bool) : Reports fault (Build.flowEntries (limit + 1) isFirst) := by
  unfold Build.flowEntries
  refine .bind .peek fun token => ?_
  split
  · exact .bind .skip fun _ => .pure _
  · extract_lets goKey go
    have hgoKey : ∀ key, Reports fault (goKey key) := by
      refine fun key => .bind .peek fun token => ?_
      extract_lets goValue
      have hgoValue : ∀ value, Reports fault (goValue value) := fun value => .consed (h.flowEntries false) (key, value)
      split
      · refine .bind .skip fun _ => .bind .peek fun token => ?_
        split
        · exact .bind (.addEmpty {}) hgoValue
        · exact .bind (.addEmpty {}) hgoValue
        · exact .bind (h.node .flow) hgoValue
      · exact .bind (.addEmpty {}) hgoValue
    have hgo : ∀ a, Reports fault (go a) := by
      refine fun _ => .bind .peek fun token => ?_
      split
      · exact .bind .skip fun _ => .pure _
      · refine .bind .skip fun _ => .bind .peek fun token => ?_
        split
        · exact .bind (.addEmpty {}) hgoKey
        · exact .bind (.addEmpty {}) hgoKey
        · exact .bind (.addEmpty {}) hgoKey
        · exact .bind (h.node .flow) hgoKey
      · exact .bind (h.node .flow) fun key => .bind (.addEmpty {}) fun value =>
        .consed (h.flowEntries false) (key, value)
    clear_value go
    split
    · split
      · exact .bind .skip hgo
      · exact .bind .malformed hgo
    · exact hgo _

end AllReport

theorem allReport (fault : Fault) (limit : Nat) : AllReport fault limit := by
  induction limit with
  | zero =>
    constructor
    · intro context
      unfold node
      exact .malformed
    · unfold blockItems
      exact .malformed
    · unfold looseItems
      exact .malformed
    · unfold blockEntries
      exact .malformed
    · intro isFirst
      unfold flowItems
      exact .malformed
    · intro isFirst
      unfold flowEntries
      exact .malformed
  | succ limit ih =>
    exact ⟨ih.node_succ, ih.blockItems_succ, ih.looseItems_succ, ih.blockEntries_succ, ih.flowItems_succ,
      ih.flowEntries_succ⟩

/-! ## Documents -/

namespace Reports

theorem directives (tokens : List Token) (handles : List (Text × Text)) (versioned : Bool) :
    Reports fault (directives tokens handles versioned) := by
  fun_induction Build.directives tokens handles versioned with
  | case1 handles versioned major rest ih =>
    refine .bind .skip fun _ => ?_
    split
    · exact .malformed
    · exact ih
  | case2 handles versioned handle start rest ih =>
    refine .bind .skip fun _ => ?_
    split
    · exact .malformed
    · exact ih
  | case3 handles versioned rest ih => exact .bind .skip fun _ => ih
  | case4 => exact .pure _

theorem documentStart : Reports fault documentStart := by
  refine .get_bind fun s hs => .bind (.directives _ _ _) fun handles => .bind .peek fun token => ?_
  split
  · exact .bind .skip fun _ => Keeps.modify fun _ h => h
  · exact .malformed

theorem skipEnds (tokens : List Token) : Reports fault (skipEnds tokens) := by
  fun_induction Build.skipEnds tokens with
  | case1 rest ih => exact .bind .skip fun _ => ih
  | case2 => exact .pure _

theorem document (limit : Nat) : Reports fault (document limit) := by
  refine .bind .peek fun token => ?_
  split
  · exact .pure _
  · extract_lets explicitStart go
    have hgo : ∀ root, Reports fault (go root) := by
      refine fun root => .bind .peek fun _ => .get_bind fun s hs => .bind (.skipEnds _) fun _ =>
        .bind .peek fun token => ?_
      split
      · exact .pure _
      · exact .bind .documentStart fun _ => .malformed
    have hnode := (allReport fault limit).node .block
    split
    · refine .bind .documentStart fun _ => .bind .peek fun token => ?_
      split
      · exact .bind (.addEmpty {}) hgo
      · exact .bind (.addEmpty {}) hgo
      · exact .bind (.addEmpty {}) hgo
      · exact .bind (.addEmpty {}) hgo
      · exact .bind hnode hgo
    · exact .bind (Keeps.modify fun _ h => h) fun _ => .bind hnode hgo

end Reports

end Build

/-- The reading of tokens fails for a malformed document, or for what ended the tokens. -/
theorem Document.ofTokens_fault {tokens : List Token} {stopped : Option Fault} {fault : Fault}
    (h : ofTokens tokens stopped = .error fault) : fault = .malformed ∨ stopped = some fault := by
  have hdocument : Build.Reports (stopped.getD .malformed) (Build.document (4 * tokens.length + 4)) := .document _
  have hreports := hdocument { tokens, fault := stopped.getD .malformed } rfl
  unfold ofTokens at h
  split at h
  · cases h
  · next found heq =>
    cases h
    rcases hreports.of_error heq with hmalformed | hfound
    · exact .inl hmalformed
    · cases stopped with
      | none => exact .inl hfound
      | some fault => exact .inr (congrArg some hfound.symm)

end CursorDoc.Yaml
