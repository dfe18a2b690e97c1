import LoopRepair.TextPieces

/-!
# Layouts of words and lines

What the words of a text are can be said without cutting it: a layout is words with blanks
around them, at least one between two. Cutting finds the words of every layout, and every
text is a layout of its words. A line is laid out in the same way, and the carriage return
in front of a line feed is a blank among others there, so nobody who reads the words of a
line can tell which way it ended.
-/
namespace LoopRepair.TextPieces
variable {c : Char} {w l t : List Char} {ws : List (List Char)} {cut : Char → Bool}

theorem pieces_eq_splitOnP (cut : Char → Bool) (text : List Char) :
    pieces cut text = text.splitOnP cut := by
  induction text with
  | nil => rfl
  | cons c cs ih => rw [pieces,List.splitOnP_cons_eq_if_modifyHead,ih]

/-- What stands before a cut is cut apart from what stands behind it. -/
theorem pieces_append (h : cut c = true) (x y : List Char) :
    pieces cut (x ++ c :: y) = pieces cut x ++ pieces cut y := by
  simp only [pieces_eq_splitOnP]
  exact List.splitOnP_append_cons x y h

theorem pieces_of_uncut (h : ∀ d ∈ w, cut d = false) : pieces cut w = [w] := by
  rw [pieces_eq_splitOnP]
  exact List.splitOnP_eq_singleton h

/-- A text is one stretch without a cut, or such a stretch, a cut and a shorter text. -/
theorem cut_induction (cut : Char → Bool) {motive : List Char → Prop}
    (whole : ∀ w, (∀ d ∈ w, cut d = false) → motive w)
    (cons : ∀ w c t, (∀ d ∈ w, cut d = false) → cut c = true → motive t →
      motive (w ++ c :: t)) (text : List Char) : motive text := by
  -- The stretch that is being passed through is carried along.
  suffices carried : ∀ w, (∀ d ∈ w, cut d = false) → motive (w ++ text) from
    carried [] (by simp)
  induction text with
  | nil =>
      intro w uncut
      rw [List.append_nil]
      exact whole w uncut
  | cons c t ih =>
      intro w uncut
      cases hc : cut c with
      | true => exact cons w c t uncut hc (ih [] (by simp))
      | false =>
          rw [List.append_cons]
          refine ih (w ++ [c]) ?_
          intro d hd
          rcases List.mem_append.1 hd with hd | hd
          · exact uncut d hd
          · exact List.mem_singleton.1 hd ▸ hc

/-- A word is not empty and holds no blank. -/
def IsWord (w : List Char) : Prop := w ≠ [] ∧ ∀ c ∈ w, isBlank c = false

/-- A text that holds nothing but blanks. -/
def Blank (t : List Char) : Prop := ∀ c ∈ t, isBlank c = true

instance (t : List Char) : Decidable (Blank t) :=
  List.decidableBAll (fun c => isBlank c = true) t

/-- The text is a layout of the words `ws`: blanks keep them apart, and there may be more of
them on every side. -/
inductive Spaced : List Char → List (List Char) → Prop
  | nil : Spaced [] []
  | word {w : List Char} : IsWord w → Spaced w [w]
  | blank {c : Char} {t : List Char} {ws : List (List Char)} :
      isBlank c = true → Spaced t ws → Spaced (c :: t) ws
  | cons {w : List Char} {c : Char} {t : List Char} {ws : List (List Char)} :
      IsWord w → isBlank c = true → Spaced t ws → Spaced (w ++ c :: t) (w :: ws)

theorem words_append (h : isBlank c = true) (x y : List Char) :
    words (x ++ c :: y) = words x ++ words y := by
  rw [words,pieces_append h,List.filter_append,words,words]

theorem words_of_isWord (h : IsWord w) : words w = [w] := by
  rw [words,pieces_of_uncut h.2]
  simp [h.1]

theorem Spaced.words_eq (h : Spaced t ws) : words t = ws := by
  induction h with
  | nil => rfl
  | word hw => exact words_of_isWord hw
  | blank hc _ ih => rw [words_cons_blank hc,ih]
  | cons hw hc _ ih => rw [words_append hc,words_of_isWord hw,ih,List.singleton_append]

theorem spaced_words (t : List Char) : Spaced t (words t) := by
  induction t using cut_induction isBlank with
  | whole w free =>
      by_cases empty : w = []
      · subst empty
        exact .nil
      · rw [words_of_isWord ⟨empty,free⟩]
        exact .word ⟨empty,free⟩
  | cons w c t free hc ih =>
      by_cases empty : w = []
      · subst empty
        rw [List.nil_append,words_cons_blank hc]
        exact .blank hc ih
      · rw [words_append hc,words_of_isWord ⟨empty,free⟩,List.singleton_append]
        exact .cons ⟨empty,free⟩ hc ih

/-- Every text has one layout, which is that of its words. -/
theorem spaced_iff : Spaced t ws ↔ words t = ws :=
  ⟨Spaced.words_eq,fun h => h ▸ spaced_words t⟩

theorem Spaced.isBlank_of_nil (h : Spaced t []) : Blank t := by
  generalize none : ([] : List (List Char)) = ws at h
  induction h with
  | nil => exact List.forall_mem_nil _
  | blank hc _ ih => exact List.forall_mem_cons.2 ⟨hc,ih none⟩
  | word _ | cons _ _ _ => cases none

theorem Blank.spaced (h : Blank t) : Spaced t [] := by
  induction t with
  | nil => exact .nil
  | cons c t ih =>
      obtain ⟨hc,ht⟩ := List.forall_mem_cons.1 h
      exact .blank hc (ih ht)

theorem words_eq_nil_iff : words t = [] ↔ Blank t :=
  ⟨fun h => (spaced_iff.2 h).isBlank_of_nil,fun h => h.spaced.words_eq⟩

/-- A carriage return at the end of a line is a blank like any other. -/
theorem words_dropReturn (l : List Char) : words (dropReturn l) = words l := by
  unfold dropReturn
  split
  · rename_i last
    obtain ⟨body,rfl⟩ := List.getLast?_eq_some_iff.1 last
    rw [List.dropLast_concat,words_append (by decide),words_nil,List.append_nil]
  · rfl

/-- What stands behind a line: nothing, or a line feed with the next lines. -/
def EndsLine (rest : List Char) : Prop := rest = [] ∨ ∃ t, rest = '\n' :: t

/-- What stands before a line: nothing, or earlier lines and the line feed behind them. -/
def StartsLine (before : List Char) : Prop := before = [] ∨ ∃ t, before = t ++ ['\n']

theorem uncut_iff_line : (∀ d ∈ l, decide (d = '\n') = false) ↔ '\n' ∉ l := by
  simp only [decide_eq_false_iff_not]
  exact ⟨fun h feed => h _ feed rfl,fun h d hd e => h (e ▸ hd)⟩

theorem pieces_of_line (h : '\n' ∉ l) : pieces (· = '\n') l = [l] :=
  pieces_of_uncut (uncut_iff_line.2 h)

theorem pieces_line_append (h : '\n' ∉ l) (t : List Char) :
    pieces (· = '\n') (l ++ '\n' :: t) = l :: pieces (· = '\n') t := by
  rw [pieces_append (by simp),pieces_of_line h,List.singleton_append]

theorem lines_append (h : '\n' ∉ l) (t : List Char) :
    lines (l ++ '\n' :: t) = dropReturn l :: lines t := by
  have more := pieces_ne_nil (· = '\n') t
  simp only [lines,pieces_line_append h,List.dropLast_cons_of_ne_nil more,List.map_cons,
    List.cons_append,List.getLast?_cons,List.getLast?_eq_some_getLast more,Option.getD_some]

theorem lines_of_line (h : '\n' ∉ l) : lines l = if l = [] then [] else [l] := by
  simp only [lines,pieces_of_line h]
  by_cases empty : l = [] <;> simp [empty]

/-- A text is one line, or a line, a line feed and a shorter text. -/
theorem line_induction {motive : List Char → Prop} (last : ∀ l, '\n' ∉ l → motive l)
    (line : ∀ l t, '\n' ∉ l → motive t → motive (l ++ '\n' :: t)) (text : List Char) :
    motive text := by
  induction text using cut_induction fun d : Char => decide (d = '\n') with
  | whole l uncut => exact last l (uncut_iff_line.1 uncut)
  | cons l c t uncut hc ih =>
      rw [of_decide_eq_true hc]
      exact line l t (uncut_iff_line.1 uncut) ih

end LoopRepair.TextPieces
