import Mathlib.Data.List.Chain
import InferenceBroker.Text.Wrap

/-!
# Greedy wrapping keeps the words and fills each line

A blank always ends a word, so the words (`fields`) of a text joined at a blank are those of
each side (`fields_blank_split`), and words laid out with spaces and line feeds read back as
themselves (`fields_layout`). `fillWords`, the filling on lists of words, agrees with the one on
strings (`fill_line`), so the output is the layout of `lines` (`wrap_eq_layout`). One step of
`fillWords` keeps `Filled` (`Filled.fillWords`); `wrap_wraps` assembles these.
-/

namespace InferenceBroker

namespace Wrap

/-! ## Words -/

/-- A blank ends the word under way, any other character extends it. -/
def scan (acc : List String × List Char) (c : Char) : List String × List Char :=
  if isBlank c then
    if acc.2.isEmpty then acc else (String.ofList acc.2.reverse :: acc.1, [])
  else (acc.1, c :: acc.2)

def flush (acc : List String × List Char) : List String :=
  (if acc.2.isEmpty then acc.1 else String.ofList acc.2.reverse :: acc.1).reverse

def fields (cs : List Char) : List String := flush (cs.foldl scan ([], []))

theorem words_eq_fields (s : String) : words s = fields s.toList := rfl

def Word (w : String) : Prop := w ≠ "" ∧ ∀ c ∈ w.toList, isBlank c = false

theorem foldl_scan_done (done : List String) (cur : List Char) (cs : List Char) :
    cs.foldl scan (done, cur) = ((cs.foldl scan ([], cur)).1 ++ done, (cs.foldl scan ([], cur)).2) := by
  induction cs generalizing done cur with
  | nil => rfl
  | cons c cs ih =>
    simp only [List.foldl_cons, scan]
    split
    · split
      · exact ih done cur
      · rw [ih, ih [_] []]
        simp
    · exact ih done (c :: cur)

theorem flush_append (found done : List String) (cur : List Char) :
    flush (found ++ done, cur) = done.reverse ++ flush (found, cur) := by
  unfold flush
  split <;> simp

theorem fields_blank_split {b : Char} (blank : isBlank b = true) (xs ys : List Char) :
    fields (xs ++ b :: ys) = fields xs ++ fields ys := by
  unfold fields
  rw [List.foldl_append, List.foldl_cons]
  obtain ⟨done, cur⟩ := xs.foldl scan ([], [])
  have ended : scan (done, cur) b = ((if cur.isEmpty then done else String.ofList cur.reverse :: done), []) := by
    unfold scan
    rw [if_pos blank]
    split <;> simp_all
  rw [ended, foldl_scan_done, flush_append]
  rfl

theorem foldl_scan_word (done : List String) (cur cs : List Char) (noBlank : ∀ c ∈ cs, isBlank c = false) :
    cs.foldl scan (done, cur) = (done, cs.reverse ++ cur) := by
  induction cs generalizing cur with
  | nil => rfl
  | cons c cs ih =>
    rw [List.foldl_cons, scan, if_neg (by simp [noBlank c List.mem_cons_self]),
      ih (c :: cur) fun x hx => noBlank x (List.mem_cons_of_mem c hx)]
    simp

theorem fields_word {w : String} (word : Word w) : fields w.toList = [w] := by
  unfold fields
  rw [foldl_scan_word [] [] w.toList word.2, List.append_nil, flush]
  have full : (w.toList.reverse.isEmpty) = false := by simpa using word.1
  simp [full]

theorem foldl_scan_words (done : List String) (cur : List Char) (cs : List Char)
    (words : ∀ w ∈ done, Word w) (noBlank : ∀ c ∈ cur, isBlank c = false) :
    (∀ w ∈ (cs.foldl scan (done, cur)).1, Word w) ∧ ∀ c ∈ (cs.foldl scan (done, cur)).2, isBlank c = false := by
  induction cs generalizing done cur with
  | nil => exact ⟨words, noBlank⟩
  | cons c cs ih =>
    rw [List.foldl_cons, scan]
    split
    · split
      · exact ih _ _ words noBlank
      · rename_i blank full
        refine ih _ _ (fun w hw => ?_) (fun _ none => absurd none List.not_mem_nil)
        rcases List.mem_cons.1 hw with rfl | old
        · refine ⟨fun empty => full ?_, fun x hx => noBlank x (by simpa using hx)⟩
          simpa using congrArg String.toList empty
        · exact words w old
    · rename_i notBlank
      refine ih _ _ words fun x hx => ?_
      rcases List.mem_cons.1 hx with rfl | old
      · simpa using notBlank
      · exact noBlank x old

theorem word_of_mem_fields {cs : List Char} {w : String} (h : w ∈ fields cs) : Word w := by
  have found := foldl_scan_words [] [] cs (fun _ none => absurd none List.not_mem_nil)
    (fun _ none => absurd none List.not_mem_nil)
  unfold fields flush at h
  rw [List.mem_reverse] at h
  split at h
  · exact found.1 w h
  · rcases List.mem_cons.1 h with rfl | old
    · rename_i full
      refine ⟨fun empty => full ?_, fun x hx => found.2 x (by simpa using hx)⟩
      simpa using congrArg String.toList empty
    · exact found.1 w old

theorem fields_intercalate {b : Char} (blank : isBlank b = true) (xss : List (List Char)) :
    fields ([b].intercalate xss) = (xss.map fields).flatten := by
  induction xss with
  | nil => rfl
  | cons xs rest ih =>
    cases rest with
    | nil => simp
    | cons ys rest =>
      rw [List.intercalate_cons_cons, List.append_assoc, List.singleton_append, fields_blank_split blank, ih]
      simp

/-! ## Layout -/

def line (l : List String) : String := " ".intercalate l

def layout (ls : List (List String)) : String := "\n".intercalate (ls.map line)

theorem fields_line {l : List String} (words : ∀ w ∈ l, Word w) : fields (line l).toList = l := by
  rw [line, String.toList_intercalate, show " ".toList = [' '] from rfl, fields_intercalate rfl, List.map_map]
  calc (l.map (fields ∘ String.toList)).flatten = (l.map fun w => [w]).flatten :=
        congrArg List.flatten (List.map_congr_left fun w hw => fields_word (words w hw))
    _ = l := List.flatMap_singleton' l

theorem fields_layout {ls : List (List String)} (words : ∀ l ∈ ls, ∀ w ∈ l, Word w) :
    fields (layout ls).toList = ls.flatten := by
  rw [layout, String.toList_intercalate, show "\n".toList = ['\n'] from rfl, fields_intercalate rfl,
    List.map_map, List.map_map]
  calc (ls.map ((fields ∘ String.toList) ∘ line)).flatten = (ls.map id).flatten :=
        congrArg List.flatten (List.map_congr_left fun l hl => fields_line (words l hl))
    _ = ls.flatten := by rw [List.map_id]

def Edged (cs : List Char) : Prop :=
  (∀ c ∈ cs.head?, isBlank c = false) ∧ ∀ c ∈ cs.getLast?, isBlank c = false

theorem intercalate_ne_nil {sep x : List Char} {rest : List (List Char)} (h : x ≠ []) :
    sep.intercalate (x :: rest) ≠ [] := by
  cases rest with
  | nil => simpa using h
  | cons y rest => simp [List.intercalate_cons_cons, h]

theorem edged_intercalate (sep : List Char) {xss : List (List Char)} (h : ∀ xs ∈ xss, xs ≠ [] ∧ Edged xs) :
    Edged (sep.intercalate xss) := by
  induction xss with
  | nil => simp [Edged]
  | cons xs rest ih =>
    obtain ⟨full, head, _⟩ := h xs List.mem_cons_self
    cases rest with
    | nil => simpa using h xs List.mem_cons_self |>.2
    | cons ys rest =>
      have tail := ih fun zs hz => h zs (List.mem_cons_of_mem xs hz)
      have more : sep.intercalate (ys :: rest) ≠ [] := intercalate_ne_nil (h ys (by simp)).1
      rw [List.intercalate_cons_cons]
      refine ⟨fun c hc => head c ?_, fun c hc => tail.2 c ?_⟩
      · rwa [List.append_assoc, List.head?_append_of_ne_nil _ full] at hc
      · rwa [List.getLast?_append_of_ne_nil _ more] at hc

theorem edged_word {w : String} (word : Word w) : w.toList ≠ [] ∧ Edged w.toList := by
  refine ⟨by simpa using word.1, fun c hc => word.2 c (List.mem_of_mem_head? hc),
    fun c hc => word.2 c (List.mem_of_mem_getLast? hc)⟩

theorem edged_line {l : List String} (full : l ≠ []) (words : ∀ w ∈ l, Word w) :
    (line l).toList ≠ [] ∧ Edged (line l).toList := by
  rw [line, String.toList_intercalate]
  obtain ⟨w, rest, rfl⟩ := List.exists_cons_of_ne_nil full
  exact ⟨intercalate_ne_nil (edged_word (words w List.mem_cons_self)).1,
    edged_intercalate _ fun xs hx => by
      obtain ⟨v, hv, rfl⟩ := List.mem_map.1 hx
      exact edged_word (words v hv)⟩

theorem edged_layout {ls : List (List String)} (full : ∀ l ∈ ls, l ≠ []) (words : ∀ l ∈ ls, ∀ w ∈ l, Word w) :
    Edged (layout ls).toList := by
  rw [layout, String.toList_intercalate]
  refine edged_intercalate _ fun xs hx => ?_
  obtain ⟨s, hs, rfl⟩ := List.mem_map.1 hx
  obtain ⟨l, hl, rfl⟩ := List.mem_map.1 hs
  exact edged_line (full l hl) (words l hl)

/-! ## Filling -/

/-- The finished lines, latest first, and the line under way. -/
def fillWords (acc : List (List String) × List String) (w : String) : List (List String) × List String :=
  if acc.2.isEmpty then (acc.1, [w])
  else if (line acc.2).utf8ByteSize + 1 + w.utf8ByteSize > width then (acc.2 :: acc.1, [w])
  else (acc.1, acc.2 ++ [w])

theorem fillWords_start (done : List (List String)) (w : String) : fillWords (done, []) w = (done, [w]) := rfl

theorem fillWords_break {done : List (List String)} {cur : List String} (full : cur ≠ []) {w : String}
    (overflow : width < (line cur).utf8ByteSize + 1 + w.utf8ByteSize) : fillWords (done, cur) w = (cur :: done, [w]) := by
  simp [fillWords, full, overflow]

theorem fillWords_extend {done : List (List String)} {cur : List String} (full : cur ≠ []) {w : String}
    (within : (line cur).utf8ByteSize + 1 + w.utf8ByteSize ≤ width) :
    fillWords (done, cur) w = (done, cur ++ [w]) := by
  simp [fillWords, full, Nat.not_lt.2 within]

def lines (acc : List (List String) × List String) : List (List String) :=
  (if acc.2.isEmpty then acc.1 else acc.2 :: acc.1).reverse

theorem line_isEmpty {l : List String} (words : ∀ w ∈ l, w ≠ "") : (line l).isEmpty = l.isEmpty := by
  cases l with
  | nil => rfl
  | cons w rest =>
    have first : w ≠ "" := words w List.mem_cons_self
    cases rest with
    | nil => simpa [line] using first
    | cons v rest => simp [line, String.intercalate_cons_cons, first]

theorem line_append {l : List String} (full : l ≠ []) (w : String) : line (l ++ [w]) = line l ++ " " ++ w := by
  rw [line, String.intercalate_append_of_ne_nil full (List.cons_ne_nil w []), String.intercalate_singleton]
  rfl

theorem fill_line (acc : List (List String) × List String) (words : ∀ v ∈ acc.2, v ≠ "") (w : String) :
    fill (acc.1.map line, line acc.2) w = ((fillWords acc w).1.map line, line (fillWords acc w).2) := by
  have empty := line_isEmpty words
  unfold fill fillWords
  dsimp only
  rw [empty]
  split
  · rfl
  · rename_i full
    split
    · rfl
    · rw [line_append (by simpa using full)]

theorem fillWords_words {acc : List (List String) × List String} (words : ∀ v ∈ acc.2, v ≠ "") {w : String}
    (word : w ≠ "") : ∀ v ∈ (fillWords acc w).2, v ≠ "" := by
  unfold fillWords
  split
  · simpa using word
  · split
    · simpa using word
    · intro v hv
      rcases List.mem_append.1 hv with old | new
      · exact words v old
      · rwa [List.mem_singleton.1 new]

theorem foldl_fillWords_words (acc : List (List String) × List String) (words : ∀ v ∈ acc.2, v ≠ "")
    {ws : List String} (nonempty : ∀ w ∈ ws, w ≠ "") : ∀ v ∈ (ws.foldl fillWords acc).2, v ≠ "" := by
  induction ws generalizing acc with
  | nil => exact words
  | cons w ws ih =>
    exact ih _ (fillWords_words words (nonempty w List.mem_cons_self)) fun v hv => nonempty v (List.mem_cons_of_mem w hv)

theorem foldl_fill (acc : List (List String) × List String) (words : ∀ v ∈ acc.2, v ≠ "") {ws : List String}
    (nonempty : ∀ w ∈ ws, w ≠ "") :
    ws.foldl fill (acc.1.map line, line acc.2) =
      ((ws.foldl fillWords acc).1.map line, line (ws.foldl fillWords acc).2) := by
  induction ws generalizing acc with
  | nil => rfl
  | cons w ws ih =>
    rw [List.foldl_cons, List.foldl_cons, fill_line acc words w,
      ih _ (fillWords_words words (nonempty w List.mem_cons_self)) fun v hv => nonempty v (List.mem_cons_of_mem w hv)]

theorem wrap_eq_layout (text : String) : wrap text = layout (lines ((words text).foldl fillWords ([], []))) := by
  have nonempty : ∀ w ∈ words text, w ≠ "" := fun w hw => (word_of_mem_fields hw).1
  have run := foldl_fill ([], []) (fun _ none => absurd none List.not_mem_nil) nonempty
  unfold wrap
  rw [show (([] : List (List String)).map line, line []) = (([] : List String), "") from rfl] at run
  rw [run]
  have words := foldl_fillWords_words ([], []) (fun _ none => absurd none List.not_mem_nil) nonempty
  dsimp only
  rw [line_isEmpty words, layout, lines]
  split <;> simp

/-! ## Greedy lines -/

def Fits (l : List String) : Prop := (line l).utf8ByteSize ≤ width ∨ ∃ w, l = [w] ∧ width < w.utf8ByteSize

/-- The first word of the next line would not fit after a space. -/
def Breaks (l l' : List String) : Prop := ∀ w ∈ l'.head?, width < (line l).utf8ByteSize + 1 + w.utf8ByteSize

/-- The words in order, no line empty, each fitting, each but the last full. -/
structure Filled (ws : List String) (ls : List (List String)) : Prop where
  flatten : ls.flatten = ws
  nonempty : ∀ l ∈ ls, l ≠ []
  fits : ∀ l ∈ ls, Fits l
  greedy : ls.IsChain Breaks

theorem fits_single (w : String) : Fits [w] := by
  rcases Nat.lt_or_ge width w.utf8ByteSize with long | short
  · exact .inr ⟨w, rfl, long⟩
  · exact .inl (by simpa [line] using short)

theorem Breaks.append {l l' : List String} (h : Breaks l l') (full : l' ≠ []) (w : String) : Breaks l (l' ++ [w]) := by
  intro v hv
  rw [List.head?_append_of_ne_nil _ full] at hv
  exact h v hv

theorem Filled.fillWords {ws : List String} {acc : List (List String) × List String}
    (filled : Filled ws (lines acc)) (started : acc.2 = [] → acc.1 = []) (w : String) :
    Filled (ws ++ [w]) (lines (Wrap.fillWords acc w)) ∧ ((Wrap.fillWords acc w).2 = [] → (Wrap.fillWords acc w).1 = []) := by
  obtain ⟨done, cur⟩ := acc
  simp only at started
  by_cases empty : cur = []
  · -- the first word starts the first line
    have none : done = [] := started empty
    subst empty none
    have : ws = [] := by simpa [lines] using filled.flatten.symm
    subst this
    rw [fillWords_start]
    refine ⟨⟨by simp [lines], by simp [lines], ?_, by simp [lines]⟩, by simp⟩
    simpa [lines] using fits_single w
  have before : lines (done, cur) = done.reverse ++ [cur] := by simp [lines, empty]
  rw [before] at filled
  rcases Nat.lt_or_ge width ((line cur).utf8ByteSize + 1 + w.utf8ByteSize) with overflow | within
  · -- the word does not fit: the line ends and the word starts the next
    rw [fillWords_break empty overflow]
    have after : lines (cur :: done, [w]) = done.reverse ++ [cur] ++ [[w]] := by simp [lines]
    rw [after]
    refine ⟨⟨by simp [← filled.flatten], ?_, ?_, ?_⟩, by simp⟩
    · intro l hl
      rcases List.mem_append.1 hl with old | new
      · exact filled.nonempty l old
      · simp [List.mem_singleton.1 new]
    · intro l hl
      rcases List.mem_append.1 hl with old | new
      · exact filled.fits l old
      · rw [List.mem_singleton.1 new]
        exact fits_single w
    · refine filled.greedy.append (List.isChain_singleton _) fun x hx y hy => ?_
      simp only [List.getLast?_append, List.getLast?_singleton, Option.some_or, Option.mem_def,
        Option.some.injEq] at hx
      simp only [List.head?_cons, Option.mem_def, Option.some.injEq] at hy
      subst hx hy
      intro v hv
      simp only [List.head?_cons, Option.mem_def, Option.some.injEq] at hv
      subst hv
      exact overflow
  · -- the word fits after a space: the line grows
    rw [fillWords_extend empty within]
    have after : lines (done, cur ++ [w]) = done.reverse ++ [cur ++ [w]] := by simp [lines]
    rw [after]
    refine ⟨⟨by simp [← filled.flatten], ?_, ?_, ?_⟩, by simp⟩
    · intro l hl
      rcases List.mem_append.1 hl with old | new
      · exact filled.nonempty l (List.mem_append_left _ old)
      · simp [List.mem_singleton.1 new]
    · intro l hl
      rcases List.mem_append.1 hl with old | new
      · exact filled.fits l (List.mem_append_left _ old)
      · rw [List.mem_singleton.1 new]
        left
        rw [line_append empty, String.utf8ByteSize_append, String.utf8ByteSize_append]
        have space : " ".utf8ByteSize = 1 := rfl
        omega
    · have chain := List.isChain_append.1 filled.greedy
      refine chain.1.append (List.isChain_singleton _) fun x hx y hy => ?_
      simp only [List.head?_cons, Option.mem_def, Option.some.injEq] at hy
      subst hy
      exact (chain.2.2 x hx cur (by simp)).append empty w

theorem filled_foldl (ws : List String) :
    Filled ws (lines (ws.foldl Wrap.fillWords ([], []))) ∧
      ((ws.foldl Wrap.fillWords ([], [])).2 = [] → (ws.foldl Wrap.fillWords ([], [])).1 = []) := by
  induction ws using List.reverseRecOn with
  | nil => exact ⟨⟨rfl, by simp [lines], by simp [lines], by simp [lines]⟩, fun _ => rfl⟩
  | append_singleton ws w ih =>
    rw [List.foldl_append, List.foldl_cons, List.foldl_nil]
    exact ih.1.fillWords ih.2 w

/-! ## The promise of wrapping -/

/-- The same words; no blank at either end; lines joined by single line feeds, words by single
spaces; each line within `width` bytes unless one longer word; and every line but the last
ended only because the next word would not fit. -/
structure Wraps (text out : String) : Prop where
  same_words : words out = words text
  head : ∀ c ∈ out.toList.head?, isBlank c = false
  last : ∀ c ∈ out.toList.getLast?, isBlank c = false
  laid : ∃ ls, out = layout ls ∧ (∀ l ∈ ls, ∀ w ∈ l, Word w) ∧ Filled (words text) ls

theorem wrap_wraps (text : String) : Wraps text (wrap text) := by
  obtain ⟨filled, -⟩ := filled_foldl (words text)
  set ls := lines ((words text).foldl Wrap.fillWords ([], []))
  have words : ∀ l ∈ ls, ∀ w ∈ l, Word w := fun l hl w hw =>
    word_of_mem_fields (show w ∈ words text from filled.flatten ▸ List.mem_flatten.2 ⟨l, hl, hw⟩)
  have edged := edged_layout filled.nonempty words
  rw [wrap_eq_layout]
  exact ⟨by rw [words_eq_fields, fields_layout words, filled.flatten], edged.1, edged.2, ls, rfl, words, filled⟩

end Wrap

end InferenceBroker
