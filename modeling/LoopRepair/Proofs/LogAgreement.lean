import Mathlib.Data.List.Forall2
import LoopRepair.RunLog
import LoopRepair.Proofs.RecordedRun
import LoopRepair.Proofs.WordReading

/-!
# The log and the record agree

A run that logs its events leaves the entries of two logs in one: the notices of the machine,
which it would leave unasked, and between them one entry for every event. The fields of such
an entry can be read back, and say what the recorded event says.
-/
namespace LoopRepair

namespace SignedDecimal

theorem numeral_plain (n : Int64) : Numeral (plain n) n.toInt := by
  have size := Nat.ofDigitChars_ten_toDigits (n := n.toInt.natAbs)
  unfold plain
  split
  · have negative : n.toInt = -(Nat.ofDigitChars 10 (magnitude n) 0 : Nat) := by
      rw [magnitude,size]
      omega
    rw [negative]
    exact .minus (digits_toDigits _)
  · have positive : n.toInt = (Nat.ofDigitChars 10 (magnitude n) 0 : Nat) := by
      rw [magnitude,size]
      omega
    rw [positive]
    exact .unsigned (digits_toDigits _)

/-- Every number is read back from its plain form. -/
theorem read?_plain (n : Int64) : read? (plain n) = some n := by
  rw [read?,value?_eq_some_iff.2 (numeral_plain n)]
  exact ofInt?_toInt n

end SignedDecimal

namespace LogEntry

/-- The value of the first field with this name. -/
def field? (e : LogEntry) (name : String) : Option (List Char) :=
  (e.fields.lookup name).map String.toList

/-- The field with this name, read as a number without a sign. -/
def natural? (e : LogEntry) (name : String) : Option Nat :=
  (e.field? name).bind SignedDecimal.digits?

/-- The field with this name, read as a number of 64 bits. -/
def number? (e : LogEntry) (name : String) : Option Int64 :=
  (e.field? name).bind SignedDecimal.read?

/-- The field with this name, read as an operation. -/
def operation? (e : LogEntry) (name : String) : Option Operation :=
  (e.field? name).bind Operation.ofMnemonic?

/-- The entry is about an event of this kind, with the same data. -/
inductive Tells (e : LogEntry) : Event → Prop
  | executed {i : Nat} {a : Instruction} {accumulator : Int64} : e.message = "exec" →
      e.natural? "at" = some i → e.number? "accumulator" = some accumulator →
      Tells e (.executed i a accumulator)
  | looped {i : Nat} : e.message = "loop detected" → e.natural? "at" = some i →
      Tells e (.looped i)
  | deadEnd {i : Nat} {offset : Int64} : e.message = "jump before first instruction" →
      e.natural? "at" = some i → e.number? "offset" = some offset → Tells e (.deadEnd i offset)
  | retracted {i : Nat} {accumulator : Int64} : e.message = "rollback" →
      e.natural? "index" = some i → e.number? "accumulator" = some accumulator →
      Tells e (.retracted i accumulator)
  | flipped {f : Flip} : e.message = "speculative edit" → e.natural? "index" = some f.index →
      e.operation? "from" = some f.replaced → e.operation? "to" = some f.replacement →
      Tells e (.flipped f)
  | halted {o : Outcome} : e.message = "terminated" →
      e.number? "accumulator" = some o.accumulator → e.natural? "steps" = some o.steps →
      e.natural? "repairs" = some o.repairs → Tells e (.halted o)

end LogEntry

theorem digits?_toString (n : Nat) : SignedDecimal.digits? (toString n).toList = some n := by
  rw [Nat.toString_eq_ofList_toDigits,String.toList_ofList,SignedDecimal.digits?_toDigits]

theorem read?_fieldText (n : Int64) : SignedDecimal.read? (fieldText n).toList = some n := by
  rw [fieldText,String.toList_ofList,SignedDecimal.read?_plain]

theorem ofMnemonic?_toString (op : Operation) :
    Operation.ofMnemonic? (toString op).toList = some op := by
  have word : (toString op).toList = op.mnemonic := String.toList_ofList
  rw [word,Operation.ofMnemonic?_mnemonic]

theorem Event.tells_entry (e : Event) : e.entry.Tells e := by
  cases e with
  | executed i a accumulator =>
      exact .executed rfl (digits?_toString i) (read?_fieldText accumulator)
  | looped i => exact .looped rfl (digits?_toString i)
  | deadEnd i offset => exact .deadEnd rfl (digits?_toString i) (read?_fieldText offset)
  | retracted i accumulator =>
      exact .retracted rfl (digits?_toString i) (read?_fieldText accumulator)
  | flipped f =>
      exact .flipped rfl (digits?_toString _) (ofMnemonic?_toString _) (ofMnemonic?_toString _)
  | halted o =>
      exact .halted rfl (read?_fieldText _) (digits?_toString _) (digits?_toString _)

namespace Observer

/-- Keeps the entries of the events, in order, and no notices. -/
def entries : Observer (List LogEntry) := ⟨fun log e => log ++ [e.entry],fun log _ => log⟩

/-- What picks the notices out of a log leaves the log of the notices. -/
theorem logging_carries_notices {P : LogEntry → Bool} (event : ∀ e : Event, P e.entry = false)
    (notice : ∀ n : Notice, P n.entry = true) :
    (logging true).Carries (logging false) fun log => log.filter P := by
  constructor
  · intro log e
    simp [logging,event]
  · intro log n
    simp [logging,notice]

theorem logging_carries_entries {P : LogEntry → Bool} (event : ∀ e : Event, P e.entry = true)
    (notice : ∀ n : Notice, P n.entry = false) :
    (logging true).Carries entries fun log => log.toList.filter P := by
  constructor
  · intro log e
    simp [logging,entries,event]
  · intro log n
    simp [logging,entries,notice]

theorem recording_carries_entries :
    recording.Carries entries fun es => es.toList.map Event.entry := by
  constructor
  · intro es e
    simp [recording,entries]
  · intro es n
    rfl

end Observer

/-- What the machine has to say of a repair, in the words of its log. -/
def Notice.messages : List String :=
  ["reverted speculative edit","applied speculative edit","visit history exhausted"]

theorem Notice.message_mem (n : Notice) : n.entry.message ∈ Notice.messages := by
  cases n <;> simp [Notice.entry,Notice.messages]

theorem Event.message_not_mem (e : Event) : e.entry.message ∉ Notice.messages := by
  cases e <;> simp [Event.entry,Notice.messages]

theorem Notice.source_entry (n : Notice) : n.entry.source = .notices := by
  cases n <;> rfl

theorem Event.source_entry (e : Event) : e.entry.source = .events := by
  cases e <;> rfl

namespace Machine
variable {P : LogEntry → Bool}

theorem filter_runLogged_notices (event : ∀ e : Event, P e.entry = false)
    (notice : ∀ n : Notice, P n.entry = true) (m : Machine) :
    (m.runLogged true).seen.toList.filter P = (m.runLogged false).seen.toList := by
  have told := runWith_map (Observer.logging_carries_notices event notice) #[] m
  rw [← Array.toList_filter]
  exact (congrArg (fun r => r.seen.toList) told).symm

theorem filter_runLogged_events (event : ∀ e : Event, P e.entry = true)
    (notice : ∀ n : Notice, P n.entry = false) (m : Machine) :
    (m.runLogged true).seen.toList.filter P =
      (m.runWith .recording #[]).seen.toList.map Event.entry := by
  have logged := runWith_map (Observer.logging_carries_entries event notice) #[] m
  have recorded := runWith_map Observer.recording_carries_entries #[] m
  exact congrArg Observed.seen (logged.symm.trans recorded)

/-- Observers only observe, and all of them see the same run: the log of a run with its events
is the log of the run and the record of the run, in one. -/
theorem observers_agree :
    (∀ (σ : Type) (o : Observer σ) (s : σ) (m : Machine),
      ((stepWith o s m).result = m.step.result ∧ (stepWith o s m).machine = m.step.machine) ∧
        (runWith o s m).result = m.run.result ∧ (runWith o s m).machine = m.run.machine) ∧
      ∀ p : Program,
        let log := ((start p).runLogged true).seen.toList
        log.filter (·.source = .notices) = ((start p).runLogged false).seen.toList ∧
          (∀ e ∈ log, e.source = .notices ↔ e.message ∈ Notice.messages) ∧
          List.Forall₂ LogEntry.Tells (log.filter (·.source ≠ .notices)) p.runRecorded.2 := by
  constructor
  · intro σ o s m
    exact ⟨⟨result_stepWith o s m,machine_stepWith o s m⟩,
      result_runWith o s m,machine_runWith o s m⟩
  · intro p
    have notices := filter_runLogged_notices (P := (·.source = .notices))
      (by simp [Event.source_entry]) (by simp [Notice.source_entry]) (start p)
    have messages := filter_runLogged_notices (P := (·.message ∈ Notice.messages))
      (by simp [Event.message_not_mem]) (by simp [Notice.message_mem]) (start p)
    have events := filter_runLogged_events (P := (·.source ≠ .notices))
      (by simp [Event.source_entry]) (by simp [Notice.source_entry]) (start p)
    refine ⟨notices,?_,?_⟩
    · intro e he
      -- Picked by source or by message, the notices are the same part of the log.
      have same := congrArg (e ∈ ·) (notices.trans messages.symm)
      simpa [he] using same
    · rw [events,List.forall₂_map_left_iff]
      exact List.forall₂_same.2 fun e _ => e.tells_entry

end Machine
end LoopRepair
