import LoopRepair.Proofs.ListingLanguage

/-!
# The first fault of a text

Which error a text is refused with. The words of a line are looked at twice: first for
numbers that are malformed, wherever they stand, and then one after the other for the word
that does not fit. The lines of a text are looked at once, in order, so the error is that
of the first line that spells no instruction, and no line behind it has a part in it.
-/
namespace LoopRepair.Listing
open TextPieces SignedDecimal Token
variable {line rest text : List Char} {ws : List (List Char)} {ts : List Token}
  {fault : Fault} {a : Instruction} {number : Nat} {e : LoadError}
  {before : List (List Char)}

/-- Of the words, all numbers among them well formed, the first that does not fit gives this
fault. -/
inductive Misfit : List (List Char) → Fault → Prop
  | number {w : List Char} {ws : List (List Char)} {n : Int64} : Denotes w n →
      Misfit (w :: ws) (.unexpectedToken (signed n))
  | unknown {w : List Char} {ws : List (List Char)} : ¬ Numeric w →
      (∀ op : Operation, w.map Char.toLower ≠ op.mnemonic) →
      Misfit (w :: ws) (.unknownOperation (LetterCase.lower w))
  | missing {w : List Char} {op : Operation} : w.map Char.toLower = op.mnemonic →
      Misfit [w] (.missingArgument op)
  | name {w v : List Char} {ws : List (List Char)} {op : Operation} :
      w.map Char.toLower = op.mnemonic → ¬ Numeric v →
      Misfit (w :: v :: ws) (.invalidNumber (LetterCase.lower v))
  | extraName {w v u : List Char} {ws : List (List Char)} {op : Operation} {m : Int64} :
      w.map Char.toLower = op.mnemonic → Denotes v m → ¬ Numeric u →
      Misfit (w :: v :: u :: ws) (.unexpectedToken (LetterCase.lower u))
  | extraNumber {w v u : List Char} {ws : List (List Char)} {op : Operation} {m n : Int64} :
      w.map Char.toLower = op.mnemonic → Denotes v m → Denotes u n →
      Misfit (w :: v :: u :: ws) (.unexpectedToken (signed n))

/-- The fault of the words of a line. A malformed number comes before all else, the leftmost
one if there are several, and is reported as it is written. -/
inductive Diagnosis : List (List Char) → Fault → Prop
  | malformed {earlier later : List (List Char)} {w : List Char} :
      (∀ v ∈ earlier, ¬ Malformed v) → Malformed w →
      Diagnosis (earlier ++ w :: later) (.invalidNumber w)
  | misfit {ws : List (List Char)} {fault : Fault} :
      (∀ v ∈ ws, ¬ Malformed v) → Misfit ws fault → Diagnosis ws fault

theorem map_eq_error_iff {ε α β : Type} {f : α → β} {x : Except ε α} {e : ε} :
    x.map f = .error e ↔ x = .error e := by
  cases x <;> simp [Except.map]

theorem not_malformed_of_ofWord {w : List Char} {t : Token} (h : ofWord w = .ok t) :
    ¬ Malformed w := by
  intro malformed
  cases h.symm.trans (ofWord_eq_error_iff.2 ⟨malformed,rfl⟩)

/-- The words of a line are read up to the first malformed number. -/
theorem tokens_eq_error_iff : tokens ws = .error fault ↔
    ∃ earlier w later, ws = earlier ++ w :: later ∧ (∀ v ∈ earlier, ¬ Malformed v) ∧
      Malformed w ∧ fault = .invalidNumber w := by
  induction ws with
  | nil => simp [tokens]
  | cons w ws ih =>
      rw [tokens]
      cases hw : ofWord w with
      | error fault' =>
          obtain ⟨malformed,rfl⟩ := ofWord_eq_error_iff.1 hw
          constructor
          · intro h
            cases h
            exact ⟨[],w,ws,rfl,by simp,malformed,rfl⟩
          · rintro ⟨earlier,u,later,split,fine,_,rfl⟩
            cases earlier with
            | nil => cases split; rfl
            | cons v earlier =>
                cases split
                exact absurd malformed (fine _ List.mem_cons_self)
      | ok t =>
          have fine := not_malformed_of_ofWord hw
          simp only [map_eq_error_iff,ih]
          constructor
          · rintro ⟨earlier,u,later,rfl,before,malformed,rfl⟩
            exact ⟨w :: earlier,u,later,rfl,List.forall_mem_cons.2 ⟨fine,before⟩,malformed,rfl⟩
          · rintro ⟨earlier,u,later,split,before,malformed,rfl⟩
            cases earlier with
            | nil => cases split; exact absurd malformed fine
            | cons v earlier =>
                cases split
                exact ⟨earlier,u,later,rfl,(List.forall_mem_cons.1 before).2,malformed,rfl⟩

theorem exists_tokens (h : ∀ v ∈ ws, ¬ Malformed v) : ∃ ts, tokens ws = .ok ts := by
  cases read : tokens ws with
  | ok ts => exact ⟨ts,rfl⟩
  | error fault =>
      obtain ⟨_,w,_,rfl,_,malformed,_⟩ := tokens_eq_error_iff.1 read
      exact absurd malformed (h w (by simp))

theorem not_malformed_of_tokens (h : tokens ws = .ok ts) : ∀ v ∈ ws, ¬ Malformed v := by
  intro v hv
  have read : ofWord v ∈ ts.map Except.ok := tokens_eq_ok_iff.1 h ▸ List.mem_map_of_mem hv
  obtain ⟨t,_,ht⟩ := List.mem_map.1 read
  exact not_malformed_of_ofWord ht.symm

/-- Behind a mnemonic the second word is at fault, or the third. -/
theorem misfit_of_mnemonic {w : List Char} {op : Operation}
    (known : w.map Char.toLower = op.mnemonic) (read : ws.map ofWord = ts.map .ok)
    (h : assemble (.name (LetterCase.lower w) :: ts) = .error fault) : Misfit (w :: ws) fault := by
  simp only [assemble,Operation.ofMnemonic?_lower.2 known] at h
  cases ts with
  | nil =>
      cases List.map_eq_nil_iff.1 read
      cases h
      exact .missing known
  | cons second ts =>
      obtain ⟨v,_,rfl,hv,third⟩ := List.map_eq_cons_iff.1 read
      cases second with
      | name _ =>
          obtain ⟨plain,rfl⟩ := ofWord_eq_name_iff.1 hv
          cases h
          exact .name known plain
      | number _ =>
          have denotes := ofWord_eq_number_iff.1 hv
          cases ts with
          | nil => cases h
          | cons extra _ =>
              obtain ⟨u,_,rfl,hu,_⟩ := List.map_eq_cons_iff.1 third
              cases h
              cases extra with
              | name _ =>
                  obtain ⟨plain,rfl⟩ := ofWord_eq_name_iff.1 hu
                  exact .extraName known denotes plain
              | number _ => exact .extraNumber known denotes (ofWord_eq_number_iff.1 hu)

theorem misfit_of_assemble (read : ws.map ofWord = ts.map .ok)
    (h : assemble ts = .error fault) : Misfit ws fault := by
  cases ts with
  | nil => cases h
  | cons first ts =>
      obtain ⟨w,_,rfl,hw,second⟩ := List.map_eq_cons_iff.1 read
      cases first with
      | number _ =>
          cases h
          exact .number (ofWord_eq_number_iff.1 hw)
      | name _ =>
          obtain ⟨plain,rfl⟩ := ofWord_eq_name_iff.1 hw
          cases found : Operation.ofMnemonic? (LetterCase.lower w) with
          | none =>
              simp only [assemble,found] at h
              cases h
              refine .unknown plain ?_
              intro op known
              cases found.symm.trans (Operation.ofMnemonic?_lower.2 known)
          | some op => exact misfit_of_mnemonic (Operation.ofMnemonic?_lower.1 found) second h

theorem exists_tail {w : List Char} {t : Token} (read : (w :: ws).map ofWord = ts.map .ok)
    (h : ofWord w = .ok t) : ∃ us, ts = t :: us ∧ ws.map ofWord = us.map .ok := by
  obtain ⟨u,us,rfl,hu,tail⟩ := List.map_eq_cons_iff.1 read.symm
  cases hu.trans h
  exact ⟨us,rfl,tail.symm⟩

theorem exists_mnemonic_tail {w : List Char} {op : Operation}
    (read : (w :: ws).map ofWord = ts.map .ok) (known : w.map Char.toLower = op.mnemonic) :
    ∃ us, ts = .name (LetterCase.lower w) :: us ∧ ws.map ofWord = us.map .ok :=
  exists_tail read (ofWord_eq_name_iff.2 ⟨not_numeric_of_mnemonic known,rfl⟩)

theorem assemble_of_misfit (read : ws.map ofWord = ts.map .ok) (misfit : Misfit ws fault) :
    assemble ts = .error fault := by
  cases misfit with
  | number denotes =>
      obtain ⟨_,rfl,_⟩ := exists_tail read (ofWord_eq_number_iff.2 denotes)
      rfl
  | unknown plain unknown =>
      obtain ⟨_,rfl,_⟩ := exists_tail read (ofWord_eq_name_iff.2 ⟨plain,rfl⟩)
      have none := Option.eq_none_iff_forall_ne_some.2 fun op found =>
        unknown op (Operation.ofMnemonic?_lower.1 found)
      simp only [assemble,none]
  | missing known =>
      obtain ⟨_,rfl,second⟩ := exists_mnemonic_tail read known
      cases List.map_eq_nil_iff.1 second.symm
      simp only [assemble,Operation.ofMnemonic?_lower.2 known]
  | name known plain =>
      obtain ⟨_,rfl,second⟩ := exists_mnemonic_tail read known
      obtain ⟨_,rfl,_⟩ := exists_tail second (ofWord_eq_name_iff.2 ⟨plain,rfl⟩)
      simp only [assemble,Operation.ofMnemonic?_lower.2 known]
  | extraName known denotes plain =>
      obtain ⟨_,rfl,second⟩ := exists_mnemonic_tail read known
      obtain ⟨_,rfl,third⟩ := exists_tail second (ofWord_eq_number_iff.2 denotes)
      obtain ⟨_,rfl,_⟩ := exists_tail third (ofWord_eq_name_iff.2 ⟨plain,rfl⟩)
      simp only [assemble,Operation.ofMnemonic?_lower.2 known,word]
  | extraNumber known denotes denotes' =>
      obtain ⟨_,rfl,second⟩ := exists_mnemonic_tail read known
      obtain ⟨_,rfl,third⟩ := exists_tail second (ofWord_eq_number_iff.2 denotes)
      obtain ⟨_,rfl,_⟩ := exists_tail third (ofWord_eq_number_iff.2 denotes')
      simp only [assemble,Operation.ofMnemonic?_lower.2 known,word]

/-- The fault of a line is the one that its words call for. -/
theorem readLine_eq_error_iff : readLine line = .error fault ↔ Diagnosis (words line) fault := by
  rw [readLine]
  constructor
  · intro h
    split at h
    · rename_i fault' read
      cases h
      obtain ⟨earlier,w,later,split,fine,malformed,rfl⟩ := tokens_eq_error_iff.1 read
      rw [split]
      exact .malformed fine malformed
    · rename_i ts read
      exact .misfit (not_malformed_of_tokens read) (misfit_of_assemble (tokens_eq_ok_iff.1 read) h)
  · generalize words line = ws
    intro h
    cases h with
    | malformed fine malformed =>
        rw [tokens_eq_error_iff.2 ⟨_,_,_,rfl,fine,malformed,rfl⟩]
    | misfit fine misfit =>
        obtain ⟨ts,read⟩ := exists_tokens fine
        rw [read]
        exact assemble_of_misfit (tokens_eq_ok_iff.1 read) misfit

/-- The lines with a line feed behind each of them. -/
def unlines (ls : List (List Char)) : List Char := ls.flatMap fun l => l ++ ['\n']

theorem unlines_cons (l : List Char) (ls : List (List Char)) :
    unlines (l :: ls) = l ++ '\n' :: unlines ls := by
  simp [unlines]

/-- The error `e` is that of the line `line`, which stands behind the lines `before`, where
the first line has the number `number`: the lines before spell instructions, and the words
of this one have a fault. -/
structure FirstFault (number : Nat) (before : List (List Char)) (line : List Char)
    (e : LoadError) : Prop where
  spelled : ∀ l ∈ before, '\n' ∉ l ∧ ∃ a, Spells l a
  single : '\n' ∉ line
  place : e.line = number + before.length
  diagnosis : ∃ ws, Spaced line ws ∧ Diagnosis ws e.fault

theorem FirstFault.readLine_eq (h : FirstFault number before line e) :
    readLine line = .error e.fault := by
  obtain ⟨ws,spaced,diagnosis⟩ := h.diagnosis
  rw [readLine_eq_error_iff,spaced.words_eq]
  exact diagnosis

theorem FirstFault.not_blank (h : FirstFault number before line e) : ¬ Blank line := by
  intro blank
  cases h.readLine_eq.symm.trans (readLine_eq_none_iff.2 blank)

theorem FirstFault.not_spells (h : FirstFault number before line e) : ¬ ∃ a, Spells line a := by
  rintro ⟨a,spells⟩
  cases h.readLine_eq.symm.trans (readLine_eq_some_iff.2 spells)

theorem firstFault_nil_iff : FirstFault number [] line e ↔
    '\n' ∉ line ∧ readLine line = .error e.fault ∧ e.line = number := by
  constructor
  · intro h
    exact ⟨h.single,h.readLine_eq,h.place⟩
  · rintro ⟨single,read,place⟩
    exact ⟨List.forall_mem_nil _,single,place,words line,spaced_words line,
      readLine_eq_error_iff.1 read⟩

theorem firstFault_cons_iff {first : List Char} : FirstFault number (first :: before) line e ↔
    '\n' ∉ first ∧ (∃ a, Spells first a) ∧ FirstFault (number + 1) before line e := by
  have shift : number + (before.length + 1) = number + 1 + before.length := by omega
  constructor
  · rintro ⟨spelled,single,place,diagnosis⟩
    obtain ⟨⟨alone,spells⟩,spelled⟩ := List.forall_mem_cons.1 spelled
    exact ⟨alone,spells,spelled,single,place.trans shift,diagnosis⟩
  · rintro ⟨alone,spells,spelled,single,place,diagnosis⟩
    exact ⟨List.forall_mem_cons.2 ⟨⟨alone,spells⟩,spelled⟩,single,place.trans shift.symm,
      diagnosis⟩

/-- The lines before the fault are read, and nothing behind it is. -/
theorem FirstFault.readLines_eq (h : FirstFault number before line e) (ends : EndsLine rest) :
    readLines number (lines (unlines before ++ line ++ rest)) = .error e := by
  induction before generalizing number with
  | nil =>
      obtain ⟨single,read,rfl⟩ := firstFault_nil_iff.1 h
      change readLines e.line (lines (line ++ rest)) = _
      rw [readLines_append single ends,read]
  | cons first before ih =>
      obtain ⟨alone,⟨a,spells⟩,later⟩ := firstFault_cons_iff.1 h
      rw [unlines_cons,List.append_assoc,List.append_assoc,List.cons_append,
        readLines_append alone (.inr ⟨_,rfl⟩),readLine_eq_some_iff.2 spells]
      simp only [List.tail_cons,← List.append_assoc,ih later]
      rfl

theorem of_readLines_append_error (single : '\n' ∉ line) (ends : EndsLine rest)
    (h : readLines number (lines (line ++ rest)) = .error e) :
    FirstFault number [] line e ∨ ∃ a, Spells line a ∧
      readLines (number + 1) (lines rest.tail) = .error e := by
  rw [readLines_append single ends] at h
  split at h
  · rename_i read
    cases h
    exact .inl (firstFault_nil_iff.2 ⟨single,read,rfl⟩)
  · cases h
  · rename_i a read
    exact .inr ⟨a,readLine_eq_some_iff.1 read,map_eq_error_iff.1 h⟩

/-- A text that is refused has a first fault, and is refused for it. -/
theorem exists_firstFault (h : readLines number (lines text) = .error e) :
    ∃ before line rest, text = unlines before ++ line ++ rest ∧ EndsLine rest ∧
      FirstFault number before line e := by
  induction text using line_induction generalizing number with
  | last line single =>
      rw [← List.append_nil line] at h
      obtain fault | ⟨_,_,later⟩ := of_readLines_append_error single (.inl rfl) h
      · exact ⟨[],line,[],(List.append_nil line).symm,.inl rfl,fault⟩
      · cases later
  | line first text alone ih =>
      obtain fault | ⟨a,spells,later⟩ := of_readLines_append_error alone (.inr ⟨text,rfl⟩) h
      · exact ⟨[],first,'\n' :: text,rfl,.inr ⟨text,rfl⟩,fault⟩
      · obtain ⟨before,line,rest,rfl,ends,fault⟩ := ih later
        refine ⟨first :: before,line,rest,?_,ends,firstFault_cons_iff.2 ⟨alone,⟨a,spells⟩,fault⟩⟩
        simp only [unlines_cons,List.append_assoc,List.cons_append]

/-- A text is refused exactly for its first line that is at fault, with the number of that
line, counted from one, and what the words on it call for. That line is not blank and spells no
instruction, and whatever stands behind it, the error is the same. -/
theorem first_fault_reported (text : List Char) (e : LoadError) :
    (load text = .error e ↔ ∃ before line rest, text = unlines before ++ line ++ rest ∧
      EndsLine rest ∧ FirstFault 1 before line e) ∧
    ∀ before line, FirstFault 1 before line e →
      ¬ Blank line ∧ (¬ ∃ a, Spells line a) ∧
        ∀ rest, EndsLine rest → load (unlines before ++ line ++ rest) = .error e := by
  have refused : ∀ {before line rest}, FirstFault 1 before line e → EndsLine rest →
      load (unlines before ++ line ++ rest) = .error e := fun fault ends =>
    map_eq_error_iff.2 (fault.readLines_eq ends)
  constructor
  · constructor
    · intro h
      exact exists_firstFault (map_eq_error_iff.1 h)
    · rintro ⟨before,line,rest,rfl,ends,fault⟩
      exact refused fault ends
  · intro before line fault
    exact ⟨fault.not_blank,fault.not_spells,fun rest ends => refused fault ends⟩

-- The malformed number hides the name that does not fit, and the line above hides its own.
example : load "NOP +1\njmp up -5x\nfoo".toList =
    .error ⟨2,.invalidNumber "-5x".toList⟩ := by
  cbv

end LoopRepair.Listing
