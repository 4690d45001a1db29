/-!
# Dictionaries

A dictionary keeps its entries in the order in which their keys came first; a
key that comes again takes its new value in its old place.
-/

namespace CursorDoc

/-- Entries of which no two have the same key. -/
abbrev Dictionary (α β : Type) := List (α × β)

namespace Dictionary

variable {α β : Type} [BEq α]

def find? (entries : Dictionary α β) (key : α) : Option β :=
  (List.find? (·.1 == key) entries).map (·.2)

def insert (entries : Dictionary α β) (key : α) (value : β) : Dictionary α β :=
  match entries with
  | [] => [(key, value)]
  | entry :: rest =>
    if entry.1 == key then (key, value) :: rest else entry :: insert rest key value

theorem find?_cons (entry : α × β) (rest : Dictionary α β) (key : α) :
    find? (entry :: rest) key = if entry.1 == key then some entry.2 else find? rest key := by
  unfold find?
  rw [List.find?_cons]
  cases entry.1 == key <;> rfl

theorem find?_insert [LawfulBEq α] (entries : Dictionary α β) (key key' : α) (value : β) :
    find? (insert entries key value) key' = if key == key' then some value else find? entries key' := by
  induction entries with
  | nil => rw [insert, find?_cons]
  | cons entry rest ih =>
    rw [insert]
    split
    · next h =>
      rw [find?_cons, find?_cons, eq_of_beq h]
      split <;> rfl
    · next h =>
      rw [find?_cons, find?_cons, ih]
      split
      · next h' =>
        rw [if_neg]
        intro he
        exact h (by rw [eq_of_beq he]; exact h')
      · rfl

/-- A key that is new comes last. -/
theorem insert_of_not_mem [LawfulBEq α] {entries : Dictionary α β} {key : α} (h : key ∉ entries.map Prod.fst)
    (value : β) : insert entries key value = entries ++ [(key, value)] := by
  induction entries with
  | nil => rfl
  | cons entry rest ih =>
    have hne : ¬ (entry.1 == key) = true := fun he => h (by rw [← eq_of_beq he]; exact List.mem_cons_self)
    rw [insert, if_neg hne, ih fun hmem => h (List.mem_cons_of_mem _ hmem)]
    rfl

theorem mem_insert {entries : Dictionary α β} {key : α} {value : β} {entry : α × β}
    (h : entry ∈ insert entries key value) :
    entry ∈ entries ∨ entry = (key, value) := by
  induction entries with
  | nil => exact .inr (List.mem_singleton.mp h)
  | cons first rest ih =>
    rw [insert] at h
    split at h
    · exact (List.mem_cons.mp h).symm.imp_left (List.mem_cons_of_mem first)
    · rcases List.mem_cons.mp h with rfl | h
      · exact .inl List.mem_cons_self
      · exact (ih h).imp_left (List.mem_cons_of_mem first)

theorem mem_foldl_insert {pairs entries : Dictionary α β} {entry : α × β}
    (h : entry ∈ pairs.foldl (fun entries pair => insert entries pair.1 pair.2) entries) :
    entry ∈ entries ∨ entry ∈ pairs := by
  induction pairs generalizing entries with
  | nil => exact .inl h
  | cons pair pairs ih =>
    rcases ih h with h | h
    · rcases mem_insert h with h | rfl
      · exact .inl h
      · exact .inr List.mem_cons_self
    · exact .inr (List.mem_cons_of_mem pair h)

/-- Entries with different keys are kept in the order in which they come in. -/
theorem foldl_insert [LawfulBEq α] {pairs entries : Dictionary α β} (h : ((entries ++ pairs).map Prod.fst).Nodup) :
    pairs.foldl (fun entries pair => insert entries pair.1 pair.2) entries = entries ++ pairs := by
  induction pairs generalizing entries with
  | nil => exact (List.append_nil entries).symm
  | cons pair pairs ih =>
    have hnew : pair.1 ∉ entries.map Prod.fst := by
      rw [List.map_append, List.map_cons] at h
      exact fun hmem => (List.nodup_append.mp h).2.2 _ hmem _ List.mem_cons_self rfl
    rw [List.foldl_cons, insert_of_not_mem hnew, ih (by simpa using h), List.append_assoc]
    rfl

end Dictionary
end CursorDoc
