import LoopRepair.Proofs.MachineCalls

/-!
# Recorded runs

An observer that keeps a list keeps of a run what it keeps of the calls, one call after the
other, and what it keeps of a call does not depend on what it kept before. So this is spoken of
as a list that belongs to the machine: what is told of the next call, or of the next few. The
events of a run are those of all its calls, the one that ends it included.
-/
namespace LoopRepair

namespace Observer

/-- What the observer has kept before has no part in what it keeps next. -/
def Appends {α : Type} (o : Observer (List α)) : Prop := ∀ before, o.Carries o (before ++ ·)

/-- Keeps every event, in order, as a list. -/
def events : Observer (List Event) := ⟨fun s e => s ++ [e],fun s _ => s⟩

theorem recording_carries_events : recording.Carries events Array.toList :=
  ⟨fun _ _ => Array.toList_push,fun _ _ => rfl⟩

theorem events_appends : events.Appends := fun before =>
  ⟨fun s e => (List.append_assoc before s [e]).symm,fun _ _ => rfl⟩

end Observer

namespace Machine
variable {α : Type} {o : Observer (List α)} {m n : Machine} {ts : List Transition}

/-- What the observer keeps of the next call. -/
def told (o : Observer (List α)) (m : Machine) : List α := (stepWith o [] m).seen

/-- What the observer keeps of the next `k` calls. -/
def toldOf (o : Observer (List α)) (m : Machine) : Nat → List α
  | 0 => []
  | k + 1 => m.told o ++ m.step.machine.toldOf o k

theorem toldOf_succ (o : Observer (List α)) (m : Machine) (k : Nat) :
    m.toldOf o (k + 1) = m.toldOf o k ++ (m.after k).told o := by
  induction k generalizing m with
  | zero => exact List.append_nil _
  | succ k ih => rw [toldOf,ih,toldOf,after,List.append_assoc]

theorem seen_stepWith_told (appends : o.Appends) (s : List α) (m : Machine) :
    (stepWith o s m).seen = s ++ m.told o := by
  have seen := congrArg Observed.seen (stepWith_map (appends s) [] m)
  rwa [List.append_nil] at seen

theorem Makes.seen_run (h : Makes m ts n) (appends : o.Appends) (s : List α) :
    (runWith o s m).seen = (runWith o (s ++ m.toldOf o ts.length) n).seen := by
  induction h generalizing s with
  | nil m => rw [List.length_nil,toldOf,List.append_nil]
  | cons went going _ ih =>
      rw [runWith_of_ok o s went going,ih,seen_stepWith_told appends,List.length_cons,toldOf,
        List.append_assoc]

theorem AtEnd.seen_run (h : m.AtEnd) (appends : o.Appends) (s : List α) :
    (runWith o s m).seen = s ++ m.told o := by
  rw [← seen_stepWith_told appends]
  rcases h with halted | ⟨e,failed⟩
  · rw [runWith_of_halted o s halted]
  · rw [runWith_of_error o s failed]

/-- Of a run the observer keeps what it keeps of the calls, up to the one that ends it. -/
theorem Makes.told_run (h : Makes m ts n) (ended : n.AtEnd) (appends : o.Appends) :
    (runWith o [] m).seen = m.toldOf o (ts.length + 1) := by
  rw [h.seen_run appends,ended.seen_run appends,List.nil_append,toldOf_succ,h.after_eq]

/-- The events of the next call. -/
def events (m : Machine) : List Event := (stepWith .events [] m).seen

/-- The events of the next `k` calls. -/
def eventsOf (m : Machine) : Nat → List Event
  | 0 => []
  | k + 1 => m.events ++ m.step.machine.eventsOf k

theorem eventsOf_eq_toldOf (m : Machine) (k : Nat) : m.eventsOf k = m.toldOf .events k := by
  induction k generalizing m with
  | zero => rfl
  | succ k ih => exact congrArg (m.events ++ ·) (ih _)

theorem eventsOf_succ (m : Machine) (k : Nat) :
    m.eventsOf (k + 1) = m.eventsOf k ++ (m.after k).events := by
  rw [eventsOf_eq_toldOf,eventsOf_eq_toldOf,toldOf_succ]
  rfl

end Machine

namespace Program

theorem runRecorded_result (p : Program) : p.runRecorded.1 = p.run := by
  rw [run,runRecorded,Machine.result_runWith]

theorem runRecorded_events (p : Program) :
    p.runRecorded.2 = (Machine.runWith .events [] (.start p)).seen := by
  have told := Machine.runWith_map Observer.recording_carries_events #[] (.start p)
  exact (congrArg Observed.seen told).symm

/-- A recorded run, once it is known by which transitions it comes to which end. -/
theorem runRecorded_eq {p : Program} {ts : List Transition} {n : Machine}
    {r : Except RepairExhausted Outcome} (made : Machine.Makes (.start p) ts n)
    (concluded : n.Concludes r) :
    p.runRecorded = (r,(Machine.start p).eventsOf (ts.length + 1)) := by
  apply Prod.ext
  · rw [runRecorded_result,run,made.run,concluded.run]
  · rw [runRecorded_events,made.told_run concluded.atEnd Observer.events_appends,
      Machine.eventsOf_eq_toldOf]

end Program
end LoopRepair
