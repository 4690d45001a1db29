import CursorDoc.Text.Lines

/-!
# Lines and their terminators

The lists of lines that a text can be cut into are those whose lines all end
in their only newline, except that the last one may have none. On such lists
cutting undoes concatenation, so a text can be edited line by line. A line is
its plain text followed by the carriage returns and newlines at its end.
-/

namespace CursorDoc.Text

/-! ## Runs at the end of a text -/

theorem exists_last_run {α : Type} (p : α → Bool) (l : List α) : ∃ front run, l = front ++ run ∧
    (∀ x ∈ run, p x = true) ∧ ∀ x ∈ front.getLast?, p x = false := by
  refine ⟨(l.reverse.dropWhile p).reverse, (l.reverse.takeWhile p).reverse, ?_, ?_, ?_⟩
  · rw [← List.reverse_append, List.takeWhile_append_dropWhile, List.reverse_reverse]
  · intro x hm
    exact List.all_eq_true.mp List.all_takeWhile x (List.mem_reverse.mp hm)
  · intro x hm
    have hhead := List.head?_dropWhile_not p l.reverse
    rw [List.getLast?_reverse] at hm
    rw [hm] at hhead
    exact hhead

theorem dropEndWhile_append_of_all {p : Char → Bool} {e : Text} (he : ∀ c ∈ e, p c = true) (t : Text) :
    dropEndWhile p (t ++ e) = dropEndWhile p t := by
  unfold dropEndWhile
  rw [List.reverse_append, List.dropWhile_append_of_pos]
  intro c hc
  exact he c (List.mem_reverse.mp hc)

theorem dropEndWhile_append_of_ne_nil {p : Char → Bool} {t : Text} (h : dropEndWhile p t ≠ []) (w : Text) :
    dropEndWhile p (w ++ t) = w ++ dropEndWhile p t := by
  have hne : (t.reverse.dropWhile p).isEmpty = false := by
    simpa [dropEndWhile] using h
  unfold dropEndWhile
  rw [List.reverse_append, List.dropWhile_append, hne]
  simp

theorem dropEndWhile_append_cons {p : Char → Bool} {c : Char} (hc : p c = false) (w t : Text) :
    dropEndWhile p (w ++ c :: t) = w ++ c :: dropEndWhile p t := by
  unfold dropEndWhile
  rw [List.reverse_append, List.reverse_cons, List.append_assoc, List.dropWhile_append]
  split
  · rename_i hnil
    rw [List.isEmpty_iff.mp hnil, List.singleton_append, List.dropWhile_cons_of_neg (by simp [hc])]
    simp
  · simp

theorem exists_dropEndWhile_append (p : Char → Bool) (t : Text) :
    ∃ e : Text, (∀ c ∈ e, p c = true) ∧ dropEndWhile p t ++ e = t := by
  refine ⟨(t.reverse.takeWhile p).reverse, ?_, ?_⟩
  · intro c hc
    exact List.all_eq_true.mp List.all_takeWhile c (List.mem_reverse.mp hc)
  · unfold dropEndWhile
    rw [← List.reverse_append, List.takeWhile_append_dropWhile, List.reverse_reverse]

theorem dropEndWhile_of_all_not {p : Char → Bool} {t : Text} (h : ∀ c ∈ t, p c = false) : dropEndWhile p t = t := by
  obtain ⟨e, hall, he⟩ := exists_dropEndWhile_append p t
  cases e with
  | nil => rwa [List.append_nil] at he
  | cons c e =>
    have hc := h c (by rw [← he]; simp)
    rw [hall c (by simp)] at hc
    cases hc

theorem mem_of_mem_dropEndWhile {p : Char → Bool} {t : Text} {c : Char} (h : c ∈ dropEndWhile p t) : c ∈ t := by
  obtain ⟨e, -, he⟩ := exists_dropEndWhile_append p t
  rw [← he]
  exact List.mem_append_left e h

theorem eq_false_of_getLast?_dropEndWhile {p : Char → Bool} {t : Text} {c : Char}
    (h : (dropEndWhile p t).getLast? = some c) : p c = false := by
  have hhead := List.head?_dropWhile_not p t.reverse
  rw [dropEndWhile, List.getLast?_reverse] at h
  rwa [h] at hhead

theorem dropEndWhile_idem (p : Char → Bool) (t : Text) :
    dropEndWhile p (dropEndWhile p t) = dropEndWhile p t := by
  obtain ⟨e, hall, he⟩ := exists_dropEndWhile_append p t
  have := dropEndWhile_append_of_all hall (dropEndWhile p t)
  rw [he] at this
  exact this.symm

/-! ## Plain lines and terminators -/

theorem stripLineEnd_append_lineEnd (line : Text) : stripLineEnd line ++ lineEnd line = line := by
  obtain ⟨e, -, he⟩ := exists_dropEndWhile_append isLineEnd line
  have hp : stripLineEnd line <+: line := ⟨e, he⟩
  exact List.prefix_iff_eq_append.mp hp

theorem stripLineEnd_of_lineEnd_eq_nil {line : Text} (h : lineEnd line = []) : stripLineEnd line = line := by
  have hline := stripLineEnd_append_lineEnd line
  rwa [h, List.append_nil] at hline

theorem isLineEnd_of_mem_lineEnd {line : Text} {c : Char} (h : c ∈ lineEnd line) : isLineEnd c = true := by
  obtain ⟨e, hall, he⟩ := exists_dropEndWhile_append isLineEnd line
  have hl : stripLineEnd line ++ lineEnd line = stripLineEnd line ++ e := by
    rw [stripLineEnd_append_lineEnd]
    exact he.symm
  exact hall c (List.append_cancel_left hl ▸ h)

theorem stripLineEnd_append {e : Text} (he : ∀ c ∈ e, isLineEnd c = true) (t : Text) :
    stripLineEnd (t ++ e) = stripLineEnd t := dropEndWhile_append_of_all he t

theorem lineEnd_append {e : Text} (he : ∀ c ∈ e, isLineEnd c = true) (t : Text) :
    lineEnd (t ++ e) = lineEnd t ++ e := by
  have h : stripLineEnd (t ++ e) ++ lineEnd (t ++ e) = stripLineEnd (t ++ e) ++ (lineEnd t ++ e) := by
    rw [stripLineEnd_append_lineEnd, stripLineEnd_append he, ← List.append_assoc, stripLineEnd_append_lineEnd]
  exact List.append_cancel_left h

@[simp] theorem stripLineEnd_stripLineEnd (line : Text) :
    stripLineEnd (stripLineEnd line) = stripLineEnd line := dropEndWhile_idem isLineEnd line

@[simp] theorem stripLineEnd_nil : stripLineEnd [] = [] := rfl

theorem getLast?_stripLineEnd (line : Text) : (stripLineEnd line).getLast? ≠ some '\r' := by
  intro h
  have hend : isLineEnd '\r' = false := eq_false_of_getLast?_dropEndWhile h
  cases hend

theorem getLast?_of_lineEnd_eq_nil {line : Text} (h : lineEnd line = []) : line.getLast? ≠ some '\r' := by
  have hlast := getLast?_stripLineEnd line
  rwa [stripLineEnd_of_lineEnd_eq_nil h] at hlast

theorem stripLineEnd_append_plain {line : Text} (hs : stripLineEnd line = line) (hne : line ≠ []) (w : Text) :
    stripLineEnd (w ++ line) = w ++ line := by
  have hd : dropEndWhile isLineEnd line ≠ [] := by
    have he : dropEndWhile isLineEnd line = line := hs
    rw [he]
    exact hne
  have ha : stripLineEnd (w ++ line) = w ++ stripLineEnd line := dropEndWhile_append_of_ne_nil hd w
  rw [ha, hs]

theorem lineEnd_eq_nil {line : Text} (h : ∀ c, line.getLast? = some c → isLineEnd c = false) :
    lineEnd line = [] := by
  rcases List.eq_nil_or_concat (lineEnd line) with hn | ⟨e, c, hc⟩
  · exact hn
  · rw [List.concat_eq_append] at hc
    have hlast : line.getLast? = some c := by
      rw [← stripLineEnd_append_lineEnd line, hc, ← List.append_assoc]
      simp
    have hmem : c ∈ lineEnd line := by simp [hc]
    have hend := isLineEnd_of_mem_lineEnd hmem
    rw [h c hlast] at hend
    cases hend

theorem lineEnd_eq_nil_of_not_mem {line : Text} (hn : '\n' ∉ line) (hr : line.getLast? ≠ some '\r') :
    lineEnd line = [] := by
  apply lineEnd_eq_nil
  intro c hc
  have hret : c ≠ '\r' := fun e => hr (e ▸ hc)
  have hnew : c ≠ '\n' := fun e => hn (e ▸ List.mem_of_getLast? hc)
  simp [isLineEnd, hret, hnew]

/-! ## The lists that texts are cut into -/

def IsTerminated (line : Text) : Prop := ∃ t : Text, '\n' ∉ t ∧ line = t ++ ['\n']

inductive IsSplit : List Text → Prop where
  | nil : IsSplit []
  | last {line : Text} : line ≠ [] → '\n' ∉ line → IsSplit [line]
  | cons {line : Text} {lines : List Text} : IsTerminated line → IsSplit lines → IsSplit (line :: lines)

theorem getLast?_ne_return {line : Text} (h : IsTerminated line) : line.getLast? ≠ some '\r' := by
  obtain ⟨t, -, rfl⟩ := h
  simp

theorem eq_of_splitLines {s t : Text} (h : splitLines s = splitLines t) : s = t := by
  rw [← flatten_splitLines s, h, flatten_splitLines]

theorem splitLines_of_not_mem : ∀ {t : Text}, t ≠ [] → '\n' ∉ t → splitLines t = [t]
  | [], h, _ => absurd rfl h
  | c :: r, _, hn => by
    have hc : c ≠ '\n' := fun e => hn (by simp [e])
    have hr : '\n' ∉ r := fun m => hn (List.mem_cons_of_mem c m)
    rw [splitLines, if_neg hc]
    cases r with
    | nil => rfl
    | cons d r => rw [splitLines_of_not_mem (by simp) hr]

theorem splitLines_newline (r : Text) : ∀ {t : Text}, '\n' ∉ t →
    splitLines (t ++ '\n' :: r) = (t ++ ['\n']) :: splitLines r
  | [], _ => by simp [splitLines]
  | c :: t, hn => by
    have hc : c ≠ '\n' := fun e => hn (by simp [e])
    have ht : '\n' ∉ t := fun m => hn (List.mem_cons_of_mem c m)
    rw [List.cons_append, splitLines, if_neg hc, splitLines_newline r ht]
    rfl

theorem exists_splitLines_append_of_not_mem (t : Text) : ∀ {line : Text}, line ≠ [] → '\n' ∉ line →
    ∃ e lines, splitLines (line ++ t) = (line ++ e) :: lines
  | [], h, _ => absurd rfl h
  | [c], _, hn => by
    have hc : c ≠ '\n' := fun e => hn (by simp [e])
    rw [List.singleton_append, splitLines, if_neg hc]
    cases splitLines t with
    | nil => exact ⟨[], [], rfl⟩
    | cons line lines => exact ⟨line, lines, rfl⟩
  | c :: d :: line, _, hn => by
    have hc : c ≠ '\n' := fun e => hn (by simp [e])
    have hline : '\n' ∉ d :: line := fun m => hn (List.mem_cons_of_mem c m)
    obtain ⟨e, lines, h⟩ := exists_splitLines_append_of_not_mem t (by simp) hline
    rw [List.cons_append, splitLines, if_neg hc, h]
    exact ⟨e, lines, rfl⟩

theorem splitLines_terminated_append {line : Text} (h : IsTerminated line) (r : Text) :
    splitLines (line ++ r) = line :: splitLines r := by
  obtain ⟨t, ht, rfl⟩ := h
  rw [List.append_assoc, List.singleton_append, splitLines_newline r ht]

theorem exists_splitLines_append {line : Text} (hne : line ≠ []) (h : IsTerminated line ∨ '\n' ∉ line) (t : Text) :
    ∃ e lines, splitLines (line ++ t) = (line ++ e) :: lines := by
  cases h with
  | inl h => exact ⟨[], _, by rw [splitLines_terminated_append h, List.append_nil]⟩
  | inr h => exact exists_splitLines_append_of_not_mem t hne h

theorem splitLines_flatten_append (r : Text) : ∀ {lines : List Text}, (∀ line ∈ lines, IsTerminated line) →
    splitLines (lines.flatten ++ r) = lines ++ splitLines r
  | [], _ => rfl
  | line :: lines, h => by
    rw [List.flatten_cons, List.append_assoc, splitLines_terminated_append (h line (by simp)),
      splitLines_flatten_append r fun l hl => h l (List.mem_cons_of_mem _ hl), List.cons_append]

theorem splitLines_flatten {lines : List Text} (h : IsSplit lines) : splitLines lines.flatten = lines := by
  induction h with
  | nil => rfl
  | last hne hn => rw [List.flatten_cons, List.flatten_nil, List.append_nil, splitLines_of_not_mem hne hn]
  | cons hl _ ih => rw [List.flatten_cons, splitLines_terminated_append hl, ih]

theorem flatten_inj_of_terminated {above lines lines' below : List Text} (h : ∀ line ∈ lines, IsTerminated line)
    (h' : ∀ line ∈ lines', IsTerminated line) :
    (above ++ (lines ++ below)).flatten = (above ++ (lines' ++ below)).flatten ↔ lines = lines' := by
  constructor
  · intro heq
    rw [List.flatten_append, List.flatten_append, List.flatten_append, List.flatten_append] at heq
    have hcut := congrArg splitLines (List.append_cancel_right (List.append_cancel_left heq))
    rw [← List.append_nil lines.flatten, ← List.append_nil lines'.flatten, splitLines_flatten_append _ h,
      splitLines_flatten_append _ h'] at hcut
    exact List.append_cancel_right hcut
  · rintro rfl
    rfl

theorem isSplit_splitLines : ∀ t : Text, IsSplit (splitLines t)
  | [] => .nil
  | c :: r => by
    have ih := isSplit_splitLines r
    by_cases hc : c = '\n'
    · rw [splitLines, if_pos hc]
      exact .cons ⟨[], by simp, by simp [hc]⟩ ih
    · have hc' : '\n' ≠ c := Ne.symm hc
      rw [splitLines, if_neg hc]
      cases hr : splitLines r with
      | nil => exact .last (by simp) (by simpa using hc')
      | cons line lines =>
        rw [hr] at ih
        cases ih with
        | last hne hn => exact .last (by simp) (by simpa [hc'] using hn)
        | cons hl hls =>
          obtain ⟨t, ht, rfl⟩ := hl
          exact .cons ⟨c :: t, by simpa [hc'] using ht, rfl⟩ hls

theorem isSplit_cons_iff {line : Text} {lines : List Text} : IsSplit (line :: lines) ↔
    (lines = [] ∧ line ≠ [] ∧ '\n' ∉ line) ∨ (IsTerminated line ∧ IsSplit lines) := by
  constructor
  · intro h
    cases h with
    | last hne hn => exact .inl ⟨rfl, hne, hn⟩
    | cons hl hls => exact .inr ⟨hl, hls⟩
  · rintro (⟨rfl, hne, hn⟩ | ⟨hl, hls⟩)
    · exact .last hne hn
    · exact .cons hl hls

theorem IsSplit.of_append : ∀ {above below : List Text}, IsSplit (above ++ below) → IsSplit below
  | [], _, h => h
  | _ :: above, below, h => by
    rcases isSplit_cons_iff.mp h with ⟨hnil, -, -⟩ | ⟨-, h⟩
    · rw [(List.append_eq_nil_iff.mp hnil).2]
      exact .nil
    · exact IsSplit.of_append h

theorem IsSplit.terminated_of_append : ∀ {above below : List Text}, IsSplit (above ++ below) → below ≠ [] →
    ∀ line ∈ above, IsTerminated line
  | [], _, _, _ => by simp
  | first :: above, below, h, hb => by
    intro line hm
    rcases isSplit_cons_iff.mp h with ⟨hnil, -, -⟩ | ⟨hl, h⟩
    · exact absurd (List.append_eq_nil_iff.mp hnil).2 hb
    · rcases List.mem_cons.mp hm with rfl | hm
      · exact hl
      · exact IsSplit.terminated_of_append h hb line hm

theorem IsSplit.append {above below : List Text} (ha : ∀ line ∈ above, IsTerminated line) (hb : IsSplit below) :
    IsSplit (above ++ below) := by
  induction above with
  | nil => exact hb
  | cons line above ih => exact .cons (ha line (by simp)) (ih fun l hl => ha l (List.mem_cons_of_mem _ hl))

theorem IsSplit.terminated_or {lines : List Text} (h : IsSplit lines) :
    ∀ line ∈ lines, IsTerminated line ∨ '\n' ∉ line := by
  induction h with
  | nil => intro line hm; cases hm
  | last _ hn => intro line hm; rw [List.mem_singleton.mp hm]; exact .inr hn
  | cons hl _ ih =>
    intro line hm
    cases hm with
    | head => exact .inl hl
    | tail _ hm => exact ih line hm

theorem IsSplit.terminated_or_getD {lines : List Text} (h : IsSplit lines) (n : Nat) :
    IsTerminated (lines.getD n []) ∨ '\n' ∉ lines.getD n [] := by
  rw [List.getD_eq_getElem?_getD]
  cases hget : lines[n]? with
  | none => exact .inr (by simp)
  | some line => exact h.terminated_or line (List.mem_of_getElem? hget)

theorem newline_not_mem_stripLineEnd {line : Text} (h : IsTerminated line ∨ '\n' ∉ line) :
    '\n' ∉ stripLineEnd line := by
  rcases h with ⟨t, ht, rfl⟩ | hn
  · rw [stripLineEnd_append (by simp [isLineEnd])]
    exact fun hm => ht (mem_of_mem_dropEndWhile hm)
  · exact fun hm => hn (mem_of_mem_dropEndWhile hm)

theorem IsSplit.newline_not_mem {lines : List Text} (h : IsSplit lines) :
    ∀ line ∈ lines.map stripLineEnd, '\n' ∉ line := by
  intro line hm
  obtain ⟨raw, hraw, rfl⟩ := List.mem_map.mp hm
  exact newline_not_mem_stripLineEnd (h.terminated_or raw hraw)

theorem newline_not_mem_asLines (t : Text) : ∀ line ∈ (Buffer.text t).asLines, '\n' ∉ line :=
  (isSplit_splitLines t).newline_not_mem

theorem stripLineEnd_of_mem_asLines {t line : Text} (h : line ∈ (Buffer.text t).asLines) :
    stripLineEnd line = line := by
  obtain ⟨line, -, rfl⟩ := List.mem_map.mp h
  exact stripLineEnd_stripLineEnd line

/-! ## Joined lines -/

theorem splitOn_append (separator : Char) (r : Text) : ∀ t : Text,
    splitOn separator (t ++ separator :: r) = splitOn separator t ++ splitOn separator r
  | [] => by simp [splitOn]
  | c :: t => by
    rw [List.cons_append, splitOn, splitOn, splitOn_append separator r t]
    split
    · rfl
    · cases hparts : splitOn separator t with
      | nil => exact absurd hparts (splitOn_ne_nil separator t)
      | cons part parts => rfl

theorem splitOn_of_not_mem (separator : Char) : ∀ {t : Text}, separator ∉ t → splitOn separator t = [t]
  | [], _ => rfl
  | c :: t, hn => by
    have hc : c ≠ separator := fun e => hn (by simp [e])
    have ht : separator ∉ t := fun m => hn (List.mem_cons_of_mem c m)
    rw [splitOn, if_neg hc, splitOn_of_not_mem separator ht]

/-- Parts without the separator come back one by one from the text that they are joined to. -/
theorem splitOn_flatMap {separator : Char} (parts : List Text) : ∀ {part : Text},
    (∀ p ∈ part :: parts, separator ∉ p) →
    splitOn separator (part ++ parts.flatMap (separator :: ·)) = part :: parts := by
  induction parts with
  | nil =>
    intro part hn
    rw [List.flatMap_nil, List.append_nil]
    exact splitOn_of_not_mem separator (hn part List.mem_cons_self)
  | cons next parts ih =>
    intro part hn
    obtain ⟨hpart, hparts⟩ := List.forall_mem_cons.mp hn
    rw [List.flatMap_cons, List.cons_append, splitOn_append, splitOn_of_not_mem separator hpart, ih hparts,
      List.singleton_append]

theorem mem_of_mem_splitOn {separator c : Char} : ∀ {t part : Text}, part ∈ splitOn separator t → c ∈ part →
    c ∈ t ∧ c ≠ separator
  | [], part, hm, hc => by
    obtain rfl := List.mem_singleton.mp hm
    cases hc
  | d :: t, part, hm, hc => by
    rw [splitOn] at hm
    split at hm
    · obtain rfl | hm := List.mem_cons.mp hm
      · cases hc
      · have ih := mem_of_mem_splitOn hm hc
        exact ⟨List.mem_cons_of_mem d ih.1, ih.2⟩
    · rename_i hd
      cases hparts : splitOn separator t with
      | nil => exact absurd hparts (splitOn_ne_nil separator t)
      | cons first parts =>
        rw [hparts] at hm
        have hrest {part : Text} (hm : part ∈ first :: parts) (hc : c ∈ part) : c ∈ d :: t ∧ c ≠ separator := by
          have ih := mem_of_mem_splitOn (hparts ▸ hm) hc
          exact ⟨List.mem_cons_of_mem d ih.1, ih.2⟩
        obtain rfl | hm := List.mem_cons.mp hm
        · obtain rfl | hc := List.mem_cons.mp hc
          · exact ⟨List.mem_cons_self .., hd⟩
          · exact hrest (List.mem_cons_self ..) hc
        · exact hrest (List.mem_cons_of_mem first hm) hc

theorem joinLines_singleton (line : Text) : joinLines [line] = line := by simp [joinLines, joinWith]

theorem joinLines_cons (line : Text) {lines : List Text} (h : lines ≠ []) :
    joinLines (line :: lines) = line ++ '\n' :: joinLines lines := by
  cases lines with
  | nil => exact absurd rfl h
  | cons next lines => simp [joinLines, joinWith, List.intercalate]

theorem joinLines_concat (last : Text) : ∀ lines : List Text,
    joinLines (lines ++ [last]) = (lines.map (· ++ ['\n'])).flatten ++ last
  | [] => joinLines_singleton last
  | line :: lines => by
    rw [List.cons_append, joinLines_cons line (by simp), joinLines_concat last lines]
    simp

theorem joinLines_append_nil : ∀ {lines : List Text}, lines ≠ [] →
    joinLines (lines ++ [[]]) = joinLines lines ++ ['\n']
  | [], h => absurd rfl h
  | [line], _ => by
    rw [List.singleton_append, joinLines_cons line (by simp), joinLines_singleton, joinLines_singleton]
  | line :: next :: lines, _ => by
    rw [List.cons_append, joinLines_cons line (by simp), joinLines_append_nil (by simp), joinLines_cons line (by simp),
      List.append_assoc, List.cons_append]

theorem joinLines_append_replicate {lines : List Text} (h : lines ≠ []) : ∀ n : Nat,
    joinLines (lines ++ List.replicate n []) = joinLines lines ++ List.replicate n '\n'
  | 0 => by simp
  | n + 1 => by
    rw [List.replicate_succ', List.replicate_succ', ← List.append_assoc, joinLines_append_nil (by simp [h]),
      joinLines_append_replicate h n, List.append_assoc]

theorem joinLines_replicate_append {lines : List Text} (h : lines ≠ []) : ∀ n : Nat,
    joinLines (List.replicate n [] ++ lines) = List.replicate n '\n' ++ joinLines lines
  | 0 => rfl
  | n + 1 => by
    rw [List.replicate_succ, List.cons_append, joinLines_cons [] (by simp [h]), joinLines_replicate_append h n]
    rfl

theorem exists_joinLines_cons (line : Text) (lines : List Text) : ∃ t, joinLines (line :: lines) = line ++ t := by
  cases lines with
  | nil => exact ⟨[], by rw [joinLines_singleton, List.append_nil]⟩
  | cons next lines => exact ⟨_, joinLines_cons line (by simp)⟩

/-- Empty lines at the end of joined lines are newlines at the end of the text. -/
theorem trimWhile_joinLines {lines : List Text} (hne : lines ≠ []) (hfirst : lines.head? ≠ some [])
    (hlast : lines.getLast? ≠ some []) (hn : ∀ line ∈ lines, '\n' ∉ line) (n : Nat) :
    trimWhile (· == '\n') (joinLines (lines ++ List.replicate n [])) = joinLines lines := by
  have hdrop : (joinLines (lines ++ List.replicate n [])).dropWhile (· == '\n') =
      joinLines (lines ++ List.replicate n []) := by
    cases lines with
    | nil => exact absurd rfl hne
    | cons first rest =>
      cases first with
      | nil => exact absurd rfl hfirst
      | cons c first =>
        obtain ⟨t, ht⟩ := exists_joinLines_cons (c :: first) (rest ++ List.replicate n [])
        have hc : c ≠ '\n' := fun h => hn _ (List.mem_cons_self ..) (by simp [h])
        rw [List.cons_append, ht, List.cons_append, List.dropWhile_cons_of_neg (by simp [hc])]
  obtain ⟨init, last, rfl⟩ : ∃ init last, lines = init ++ [last] :=
    ⟨_, _, (List.dropLast_concat_getLast hne).symm⟩
  have hkeep : dropEndWhile (· == '\n') last = last := by
    apply dropEndWhile_of_all_not
    intro c hc
    exact beq_false_of_ne fun h => hn last (by simp) (h ▸ hc)
  rw [trimWhile, hdrop, joinLines_append_replicate hne, dropEndWhile_append_of_all (by simp), joinLines_concat,
    dropEndWhile_append_of_ne_nil, hkeep]
  rw [hkeep]
  simpa using hlast

theorem trimWhile_joinLines_between {lines : List Text} (hne : lines ≠ []) (hfirst : lines.head? ≠ some [])
    (hlast : lines.getLast? ≠ some []) (hn : ∀ line ∈ lines, '\n' ∉ line) (a b : Nat) :
    trimWhile (· == '\n') (joinLines (List.replicate a [] ++ (lines ++ List.replicate b []))) = joinLines lines := by
  rw [joinLines_replicate_append (by simp [hne]), trimWhile, List.dropWhile_append_of_pos (by simp)]
  exact trimWhile_joinLines hne hfirst hlast hn b

theorem pieces_joinLines {lines : List Text} (hne : lines ≠ []) (hn : ∀ line ∈ lines, '\n' ∉ line) :
    pieces (joinLines lines) = lines := by
  cases lines with
  | nil => exact absurd rfl hne
  | cons line lines =>
    rw [joinLines, joinWith_cons]
    exact splitOn_flatMap lines hn

theorem count_joinLines : ∀ {lines : List Text}, lines ≠ [] → (∀ line ∈ lines, '\n' ∉ line) →
    (joinLines lines).count '\n' + 1 = lines.length
  | [], h, _ => absurd rfl h
  | [line], _, hn => by
    rw [joinLines_singleton, List.count_eq_zero_of_not_mem (hn line (by simp))]
    rfl
  | line :: next :: lines, _, hn => by
    have ih : (joinLines (next :: lines)).count '\n' + 1 = (next :: lines).length :=
      count_joinLines (by simp) fun l hl => hn l (List.mem_cons_of_mem _ hl)
    have hline : line.count '\n' = 0 := List.count_eq_zero_of_not_mem (hn line (by simp))
    rw [joinLines_cons line (by simp), List.count_append, List.count_cons_self, hline, Nat.zero_add, ih]
    simp

/-- Joined lines are cut back into the lines, but an empty last line is lost. -/
theorem splitLines_joinLines_concat {lines : List Text} (hn : ∀ line ∈ lines, '\n' ∉ line) {last : Text}
    (hlast : '\n' ∉ last) :
    splitLines (joinLines (lines ++ [last])) = lines.map (· ++ ['\n']) ++ if last = [] then [] else [last] := by
  have hterm : ∀ line ∈ lines.map (· ++ ['\n']), IsTerminated line := by
    intro line hm
    obtain ⟨t, ht, rfl⟩ := List.mem_map.mp hm
    exact ⟨t, hn t ht, rfl⟩
  rw [joinLines_concat, splitLines_flatten_append _ hterm]
  by_cases h : last = []
  · rw [if_pos h, h]
    rfl
  · rw [if_neg h, splitLines_of_not_mem h hlast]

/-! ## Lines read back -/

theorem map_stripLineEnd_newline (lines : List Text) :
    (lines.map (· ++ ['\n'])).map stripLineEnd = lines.map stripLineEnd := by
  rw [List.map_map]
  exact List.map_congr_left fun line _ => stripLineEnd_append (by simp [isLineEnd]) line

theorem map_stripLineEnd_of_plain {lines : List Text} (hs : ∀ line ∈ lines, stripLineEnd line = line) :
    lines.map stripLineEnd = lines := (List.map_congr_left hs).trans (List.map_id lines)

section
variable {lines : List Text} (hn : ∀ line ∈ lines, '\n' ∉ line)
include hn

theorem asLines_joinLines {last : Text} (hlast : '\n' ∉ last) : (Buffer.text (joinLines (lines ++ [last]))).asLines =
    lines.map stripLineEnd ++ if last = [] then [] else [stripLineEnd last] := by
  show (splitLines (joinLines (lines ++ [last]))).map stripLineEnd = _
  rw [splitLines_joinLines_concat hn hlast, List.map_append, map_stripLineEnd_newline]
  split <;> rfl

theorem splitLines_joinBody : splitLines (joinBody lines) = lines.map (· ++ ['\n']) := by
  have hterm : ∀ line ∈ lines.map (· ++ ['\n']), IsTerminated line := by
    intro line hm
    obtain ⟨t, ht, rfl⟩ := List.mem_map.mp hm
    exact ⟨t, hn t ht, rfl⟩
  have hcut := splitLines_flatten_append [] hterm
  rw [List.append_nil] at hcut
  rw [joinBody, List.flatMap_def, hcut]
  simp [splitLines]

theorem asLines_joinBody (hs : ∀ line ∈ lines, stripLineEnd line = line) :
    (Buffer.text (joinBody lines)).asLines = lines := by
  have hplain : (Buffer.text (joinBody lines)).asLines = (splitLines (joinBody lines)).map stripLineEnd := rfl
  rw [hplain, splitLines_joinBody hn, map_stripLineEnd_newline, map_stripLineEnd_of_plain hs]

end

end CursorDoc.Text
