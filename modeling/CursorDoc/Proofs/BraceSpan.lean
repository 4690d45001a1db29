import CursorDoc.Proofs.Braces

/-!
# Bodies in braces

A body in braces is found line by line. Told from the text as a whole, it ends
with the shortest stretch, read from the first opening brace on, in which as
many braces are opened as closed; every shorter stretch has braces open.
-/

namespace CursorDoc

open Text

/-! ## Balanced stretches -/

/-- The shortest start of a text, the empty one apart, in which as many braces are opened as closed. -/
structure IsShortestBalanced (u t : Text) : Prop where
  isPrefix : u <+: t
  ne_nil : u ≠ []
  balanced : u.count '{' = u.count '}'
  shortest : ∀ v, v <+: t → v ≠ [] → v.count '{' = v.count '}' → u.length ≤ v.length

theorem braceDepth_eq (t : Text) : braceDepth t = (t.count '{' : Int) - t.count '}' := by
  induction t with
  | nil => rfl
  | cons c t ih =>
    rw [braceDepth_cons, ih, List.count_cons, List.count_cons]
    unfold braceStep
    by_cases hopen : c = '{'
    · subst hopen
      simp
      omega
    · by_cases hclose : c = '}'
      · subst hclose
        simp
        omega
      · simp [hopen, hclose]

theorem braceDepth_eq_zero_iff {t : Text} : braceDepth t = 0 ↔ t.count '{' = t.count '}' := by
  rw [braceDepth_eq]
  omega

theorem isShortestBalanced_iff {u t : Text} : IsShortestBalanced u t ↔ u <+: t ∧ Closes 0 u := by
  constructor
  · intro h
    refine ⟨h.isPrefix, h.ne_nil, ?_, fun v w huvw hv hzero => ?_⟩
    · rw [Int.zero_add, braceDepth_eq_zero_iff]
      exact h.balanced
    · rw [Int.zero_add, braceDepth_eq_zero_iff] at hzero
      subst huvw
      have hle := h.shortest v ((List.prefix_append v w).trans h.isPrefix) hv hzero
      rw [List.length_append] at hle
      exact List.eq_nil_of_length_eq_zero (by omega)
  · rintro ⟨hfirst, h⟩
    have hzero := h.zero
    rw [Int.zero_add, braceDepth_eq_zero_iff] at hzero
    refine ⟨hfirst, h.ne_nil, hzero, fun v hv hne hbalanced => Nat.le_of_not_lt fun hlt => ?_⟩
    obtain ⟨w, rfl⟩ := List.prefix_of_prefix_length_le hv hfirst (Nat.le_of_lt hlt)
    rw [h.first v w rfl hne (by rw [Int.zero_add, braceDepth_eq_zero_iff, hbalanced])] at hlt
    simp at hlt

/-- On the way to the end of a stretch that closes the last brace, braces are open. -/
theorem Closes.depth_pos {depth : Nat} (hpos : 0 < depth) {t u : Text} (h : Closes depth (t ++ u)) (hu : u ≠ []) :
    0 < depth + braceDepth t := by
  obtain ⟨-, v, ⟨w, rfl⟩, hclose⟩ | ⟨-, hopen⟩ := followBraces_cases hpos t
  · rw [List.append_assoc] at h
    exact absurd h (hclose.not_of_append fun hnil => hu (List.append_eq_nil_iff.mp hnil).2)
  · exact hopen t (List.prefix_refl t)

theorem IsShortestBalanced.lt_of_prefix {u t : Text} (h : IsShortestBalanced u ('{' :: t)) {v : Text} (hv : v <+: u)
    (hne : v ≠ []) (hproper : v ≠ u) : v.count '}' < v.count '{' := by
  obtain ⟨hfirst, hclose⟩ := isShortestBalanced_iff.mp h
  obtain ⟨w, rfl⟩ := hv
  have hw : w ≠ [] := fun hnil => hproper (by rw [hnil, List.append_nil])
  cases v with
  | nil => exact absurd rfl hne
  | cons c v =>
    obtain rfl : c = '{' := (List.cons_prefix_cons.mp hfirst).1
    have hrest : Closes 1 (v ++ w) := by
      obtain ⟨hzero, -⟩ | ⟨-, hrest⟩ := closes_cons.mp hclose
      · cases hzero
      · exact hrest
    have hopen := hrest.depth_pos Nat.one_pos hw
    have hdepth : braceDepth ('{' :: v) = 1 + braceDepth v := rfl
    rw [braceDepth_eq] at hdepth
    omega

/-! ## Where a stretch ends -/

def LastOn (lines : List Text) (k : Nat) (t : Text) : Prop :=
  ∃ u, u ≠ [] ∧ u <+: lines.getD k [] ∧ t = (lines.take k).flatten ++ u

theorem closesOn_iff {depth : Int} {lines : List Text} {k : Nat} :
    ClosesOn depth lines k ↔ ∃ t, LastOn lines k t ∧ Closes depth t := by
  constructor
  · rintro ⟨u, hne, hu, hclose⟩
    exact ⟨_, ⟨u, hne, hu, rfl⟩, hclose⟩
  · rintro ⟨_, ⟨u, hne, hu, rfl⟩, hclose⟩
    exact ⟨u, hne, hu, hclose⟩

theorem exists_lastOn {lines : List Text} {t : Text} (h : t <+: lines.flatten) (hne : t ≠ []) :
    ∃ k, LastOn lines k t := by
  induction lines generalizing t with
  | nil => exact absurd (List.prefix_nil.mp h) hne
  | cons line lines ih =>
    rw [List.flatten_cons] at h
    by_cases hline : t <+: line
    · exact ⟨0, t, hne, hline, rfl⟩
    · obtain ⟨v, rfl⟩ := (List.prefix_or_prefix_of_prefix h (List.prefix_append line _)).resolve_left hline
      have hv : v ≠ [] := by
        rintro rfl
        rw [List.append_nil] at hline
        exact hline (List.prefix_refl line)
      obtain ⟨k, u, hu, hfirst, rfl⟩ := ih ((List.prefix_append_right_inj line).mp h) hv
      exact ⟨k + 1, u, hu, hfirst, by simp⟩

/-- A place in some lines is found again when text is put in front of their first line, and lines above it. -/
theorem LastOn.append {line : Text} {below : List Text} {k : Nat} {t : Text} (h : LastOn (line :: below) k t)
    (front : List Text) (before : Text) :
    LastOn (front ++ (before ++ line) :: below) (front.length + k) (front.flatten ++ before ++ t) := by
  obtain ⟨u, hne, hu, rfl⟩ := h
  cases k with
  | zero =>
    refine ⟨before ++ u, fun hnil => hne (List.append_eq_nil_iff.mp hnil).2, ?_, by simp⟩
    simpa using hu
  | succ k =>
    have hget : (front ++ (before ++ line) :: below).getD (front.length + (k + 1)) [] = below.getD k [] := by
      simp [List.getD_eq_getElem?_getD, List.getElem?_append_right]
    refine ⟨u, hne, by rwa [hget], ?_⟩
    simp [List.take_length_add_append]

/-! ## The first brace of some lines -/

theorem exists_first_brace_of_mem {lines : List Text} (h : '{' ∈ lines.flatten) :
    ∃ front before after below, lines = front ++ (before ++ '{' :: after) :: below ∧ '{' ∉ front.flatten ∧
      '{' ∉ before := by
  induction lines with
  | nil => cases h
  | cons line lines ih =>
    by_cases hline : '{' ∈ line
    · obtain ⟨before, after, rfl, hbefore⟩ := List.eq_append_cons_of_mem hline
      exact ⟨[], before, after, lines, rfl, List.not_mem_nil, hbefore⟩
    · rw [List.flatten_cons, List.mem_append, or_iff_right hline] at h
      obtain ⟨front, before, after, below, rfl, hfront, hbefore⟩ := ih h
      refine ⟨line :: front, before, after, below, rfl, ?_, hbefore⟩
      rw [List.flatten_cons, List.mem_append]
      exact not_or.mpr ⟨hline, hfront⟩

theorem closingLine?_of_not_mem {lines : List Text} (h : '{' ∉ lines.flatten) : closingLine? 0 lines = none := by
  have hopen := closingLine?_append_lines 0 lines []
  rw [List.append_nil, followBraces_of_not_mem h] at hopen
  exact hopen

def fromBrace (t : Text) : Text := t.dropWhile (· != '{')

def beforeBrace (t : Text) : Text := t.takeWhile (· != '{')

theorem fromBrace_append {before : Text} (h : '{' ∉ before) (after : Text) :
    fromBrace (before ++ '{' :: after) = '{' :: after ∧ beforeBrace (before ++ '{' :: after) = before := by
  have hall : ∀ c ∈ before, (c != '{') = true := fun c hc => bne_iff_ne.mpr fun he => h (he ▸ hc)
  constructor
  · rw [fromBrace, List.dropWhile_append_of_pos hall]
    rfl
  · rw [beforeBrace, List.takeWhile_append_of_pos hall]
    simp

theorem fromBrace_of_not_mem {t : Text} (h : '{' ∉ t) : fromBrace t = [] := by
  have hall : ∀ c ∈ t, (c != '{') = true := fun c hc => bne_iff_ne.mpr fun he => h (he ▸ hc)
  have happend : (t ++ []).dropWhile (· != '{') = [].dropWhile (· != '{') := List.dropWhile_append_of_pos hall
  rwa [List.append_nil] at happend

theorem closingLine?_zero_cases (lines : List Text) :
    (∃ k u, closingLine? 0 lines = some k ∧ IsShortestBalanced u (fromBrace lines.flatten) ∧
        (∀ v, v <+: u → v ≠ [] → v ≠ u → v.count '}' < v.count '{') ∧
        LastOn lines k (beforeBrace lines.flatten ++ u)) ∨
      (closingLine? 0 lines = none ∧
        ∀ u, u <+: fromBrace lines.flatten → u ≠ [] → u.count '{' ≠ u.count '}') := by
  by_cases hmem : '{' ∈ lines.flatten
  · obtain ⟨front, before, after, below, rfl, hfront, hbefore⟩ := exists_first_brace_of_mem hmem
    have hline : closingLine? 0 (front ++ (before ++ '{' :: after) :: below) =
        (closingLine? 1 (after :: below)).map (· + front.length) := by
      rw [closingLine?_append_lines, followBraces_of_not_mem hfront]
      exact congrArg (Option.map (· + front.length)) (closingLine?_of_first hbefore after below)
    have hflat : (front ++ (before ++ '{' :: after) :: below).flatten =
        (front.flatten ++ before) ++ '{' :: (after :: below).flatten := by simp
    have hnone : '{' ∉ front.flatten ++ before := by
      rw [List.mem_append]
      exact not_or.mpr ⟨hfront, hbefore⟩
    obtain ⟨hfrom, hskipped⟩ := fromBrace_append hnone (after :: below).flatten
    -- the lines above the first brace open nothing, so the count starts behind it, at depth one
    rw [hline, hflat, hfrom, hskipped]
    obtain ⟨-, u, hu, hclose⟩ | ⟨hsome, hopen⟩ := followBraces_cases Nat.one_pos (after :: below).flatten
    · have hfirst : '{' :: u <+: '{' :: (after :: below).flatten := List.cons_prefix_cons.mpr ⟨rfl, hu⟩
      have hclose' : Closes 0 ('{' :: u) := closes_cons.mpr (.inr ⟨by decide, hclose⟩)
      obtain ⟨k, hlast⟩ : ∃ k, LastOn (('{' :: after) :: below) k ('{' :: u) :=
        exists_lastOn hfirst (List.cons_ne_nil _ _)
      have hk : closingLine? 1 (after :: below) = some k :=
        closesOn_brace.mp (closesOn_iff.mpr ⟨_, hlast, hclose'⟩)
      have hshortest := isShortestBalanced_iff.mpr ⟨hfirst, hclose'⟩
      refine .inl ⟨front.length + k, '{' :: u, ?_, hshortest, fun v => hshortest.lt_of_prefix,
        hlast.append front before⟩
      rw [hk, Option.map_some, Nat.add_comm]
    · have hopens := closingLine?_append_lines 1 (after :: below) []
      rw [List.append_nil, hsome] at hopens
      refine .inr ⟨by rw [hopens]; rfl, fun u hu hne hbalanced => ?_⟩
      cases u with
      | nil => exact hne rfl
      | cons c u =>
        obtain ⟨rfl, htail⟩ := List.cons_prefix_cons.mp hu
        have hpos := hopen u htail
        have hzero : 1 + braceDepth u = 0 := braceDepth_eq_zero_iff.mpr hbalanced
        omega
  · refine .inr ⟨closingLine?_of_not_mem hmem, fun u hu hne => ?_⟩
    rw [fromBrace_of_not_mem hmem] at hu
    exact absurd (List.prefix_nil.mp hu) hne

/-! ## The span -/

def countedLines (lines : List Text) (header : Nat) (skipLiterals : Bool) : List Text :=
  if skipLiterals then stripLiterals (lines.drop header) else lines.drop header

/-- **A body in braces ends where its braces balance.** From the first opening brace on or below the header, the
shortest stretch in which as many braces are opened as closed ends on the last line of the body, and each shorter
stretch has braces open; without such a stretch the body goes to the last line. It consists of whole lines as they
are, with or without literals. -/
theorem ofBraces_endLine (lines : List Text) (header : Nat) (skipLiterals : Bool) :
    let counted := countedLines lines header skipLiterals
    let span := Span.ofBraces lines header skipLiterals
    ((∃ k u, span.endLine = header + k ∧ IsShortestBalanced u (fromBrace counted.flatten) ∧
          (∀ v, v <+: u → v ≠ [] → v ≠ u → v.count '}' < v.count '{') ∧
          LastOn counted k (beforeBrace counted.flatten ++ u)) ∨
        (span.endLine = max header (lines.length - 1) ∧
          ∀ u, u <+: fromBrace counted.flatten → u ≠ [] → u.count '{' ≠ u.count '}')) ∧
      span.startLine = header ∧
      span.body = joinBody ((lines.drop header).take (span.endLine + 1 - header)) ∧
      (lines.length ≤ header → span.body = []) := by
  intro counted span
  have hsome : ∀ k, closingLine? 0 counted = some k → span = .ofLines lines header (header + k) := by
    intro k hk
    simp only [span, Span.ofBraces]
    rw [show closingLine? 0 (if skipLiterals then _ else _) = some k from hk]
  have hnone : closingLine? 0 counted = none → span = .ofLines lines header (lines.length - 1) := by
    intro hk
    simp only [span, Span.ofBraces]
    rw [show closingLine? 0 (if skipLiterals then _ else _) = none from hk]
  have hbody : ∀ stop, (Span.ofLines lines header stop).startLine = header ∧
      (Span.ofLines lines header stop).body =
        joinBody ((lines.drop header).take ((Span.ofLines lines header stop).endLine + 1 - header)) :=
    fun stop => ⟨rfl, rfl⟩
  have hempty : ∀ stop, lines.length ≤ header → (Span.ofLines lines header stop).body = [] := by
    intro stop hle
    rw [(hbody stop).2, List.drop_eq_nil_of_le hle, List.take_nil]
    rfl
  obtain ⟨k, u, hk, hshortest, hopen, hlast⟩ | ⟨hk, hnever⟩ := closingLine?_zero_cases counted
  · rw [hsome k hk]
    exact ⟨.inl ⟨k, u, Nat.max_eq_right (Nat.le_add_right header k), hshortest, hopen, hlast⟩, (hbody _).1, (hbody _).2,
      hempty _⟩
  · rw [hnone hk]
    exact ⟨.inr ⟨rfl, hnever⟩, (hbody _).1, (hbody _).2, hempty _⟩

end CursorDoc
