import Mathlib.Algebra.GroupWithZero.Nat
import LoopRepair.Proofs.AttemptOutcome
import LoopRepair.Proofs.MachineCalls

/-!
# A run as a search

What a run does, told without a machine. The attempt that is under way ends where the
attempt of the flipped program from its first instruction ends, because the trail left
standing is the beginning of its path. A repair takes the next flip among the visits of
the unflipped attempt, newest first, so a run tries the flips on that path one by one.
The closed form counts steps and repairs as the machine does, work taken back included.
-/
namespace LoopRepair

namespace Program
variable {p : Program} {l : List Nat} {f : Flip} {t : Flip × Attempt}
  {ts : List (Flip × Attempt)}

/-- The steps that a run takes for a trial: what was executed before the flipped instruction
stands, and is not executed again. -/
def spent (p : Program) (t : Flip × Attempt) : Nat := t.2.path.length - p.position t.1.index

/-- How a run ends that makes these trials after so many steps and repairs. -/
def outcomeOf (p : Program) (ts : List (Flip × Attempt)) (steps repairs : Nat) :
    Except RepairExhausted Outcome :=
  match ts.find? (·.2.halted) with
  | some t =>
      .ok ⟨some t.1,t.2.accumulator,steps + (ts.map p.spent).sum,repairs + ts.length⟩
  | none => .error ⟨repairs + ts.length + 1⟩

/-- How a whole run ends. -/
def searchOutcome (p : Program) : Except RepairExhausted Outcome :=
  if p.attempt.halted then .ok ⟨none,p.attempt.accumulator,p.attempt.path.length,0⟩
  else p.outcomeOf p.trials p.attempt.path.length 0

/-- The steps counted when a whole run has ended. -/
def searchSteps (p : Program) : Nat := p.attempt.path.length + (p.trials.map p.spent).sum

theorem outcomeOf_single (halted : t.2.halted = true) (steps repairs : Nat) :
    p.outcomeOf [t] steps repairs =
      .ok ⟨some t.1,t.2.accumulator,steps + p.spent t,repairs + 1⟩ := by
  simp [outcomeOf,halted]

theorem outcomeOf_cons (failed : t.2.halted = false) (steps repairs : Nat) :
    p.outcomeOf (t :: ts) steps repairs =
      p.outcomeOf ts (steps + p.spent t) (repairs + 1) := by
  have counted : repairs + (t :: ts).length = repairs + 1 + ts.length := by
    rw [List.length_cons]
    omega
  rw [outcomeOf,outcomeOf,List.find?_cons_of_neg (by simp [failed]),counted,List.map_cons,
    List.sum_cons,← Nat.add_assoc]

theorem outcomeOf_eq_ok {steps repairs : Nat} {o : Outcome}
    (h : p.outcomeOf ts steps repairs = .ok o) : ∃ t, ts.find? (·.2.halted) = some t ∧
      o = ⟨some t.1,t.2.accumulator,steps + (ts.map p.spent).sum,repairs + ts.length⟩ := by
  rw [outcomeOf] at h
  split at h
  · rename_i t found
    exact ⟨t,found,(Except.ok.inj h).symm⟩
  · cases h

theorem outcomeOf_eq_error {steps repairs : Nat} {e : RepairExhausted}
    (h : p.outcomeOf ts steps repairs = .error e) :
    ts.find? (·.2.halted) = none ∧ e = ⟨repairs + ts.length + 1⟩ := by
  rw [outcomeOf] at h
  split at h
  · cases h
  · rename_i none
    exact ⟨none,(Except.error.inj h).symm⟩

theorem searchOutcome_of_halted (halted : p.attempt.halted = true) :
    p.searchOutcome = .ok ⟨none,p.attempt.accumulator,p.attempt.path.length,0⟩ :=
  if_pos halted

theorem searchOutcome_of_failed (failed : p.attempt.halted = false) :
    p.searchOutcome = p.outcomeOf p.trials p.attempt.path.length 0 :=
  if_neg (by simp [failed])

theorem trials_of_halted (halted : p.attempt.halted = true) : p.trials = [] := if_pos halted

theorem trials_of_failed (failed : p.attempt.halted = false) :
    p.trials = upToHalted (p.trialsAlong p.attempt.path) :=
  if_neg (by simp [failed])

/-- The trials along a path, told by the flips that a repair makes. -/
theorem trialsAlong_eq (p : Program) (l : List Nat) : p.trialsAlong l =
    match p.nextFlip? l with
    | none => []
    | some (f,r) => (f,(p.apply f).attempt) :: p.trialsAlong r := by
  induction l with
  | nil => rfl
  | cons i l ih =>
      rw [trialsAlong,List.filterMap_cons,nextFlip?,← flipAt?_eq_candidate?]
      cases hi : p.flipAt? i with
      | none => exact ih
      | some f =>
          have index := flipAt?_index hi
          subst index
          simp only [Option.map_some,apply_eq_exchange hi]
          rfl

theorem mem_trialsAlong : t ∈ p.trialsAlong l ↔
    t.1.index ∈ l ∧ p.flipAt? t.1.index = some t.1 ∧ t.2 = (p.apply t.1).attempt := by
  obtain ⟨f,a⟩ := t
  simp only [trialsAlong,List.mem_filterMap,← flipAt?_eq_candidate?,Option.map_eq_some_iff,
    Prod.mk.injEq]
  constructor
  · rintro ⟨i,on,g,hi,rfl,rfl⟩
    have index := flipAt?_index hi
    subst index
    exact ⟨on,hi,congrArg attempt (apply_eq_exchange hi).symm⟩
  · rintro ⟨on,hi,rfl⟩
    exact ⟨f.index,on,f,hi,rfl,congrArg attempt (apply_eq_exchange hi).symm⟩

/-- Every trial that is made is the attempt of a flip on the path. -/
theorem mem_trials (h : t ∈ p.trials) : t.1.index ∈ p.attempt.path ∧
    p.flipAt? t.1.index = some t.1 ∧ t.2 = (p.apply t.1).attempt := by
  rw [trials] at h
  split at h
  · cases h
  · exact mem_trialsAlong.1 ((upToHalted_prefix_trials _).subset h)

/-- What is tried along a path are flips of it, in its order. -/
theorem map_fst_trialsAlong (p : Program) (l : List Nat) :
    (p.trialsAlong l).map Prod.fst = l.filterMap p.flipAt? := by
  rw [trialsAlong,List.map_filterMap]
  congr 1
  funext i
  rw [flipAt?_eq_candidate?,Option.map_map]
  exact Option.map_id'

end Program

/-- The flip that a transition makes. -/
def Transition.flip? : Transition → Option Flip
  | .repaired f => some f
  | .executed _ | .looped _ | .deadEnd _ | .halted => none

namespace Machine
variable {p : Program} {m n : Machine} {a : Instruction}

/-- `n` is what the running machine `m` has become at the end of its attempt. -/
structure Attempted (p : Program) (m n : Machine) : Prop where
  tracks : Tracks p n
  flip : n.flip = m.flip
  repairs : n.repairs = m.repairs
  steps : n.steps + m.trail.length = m.steps + n.trail.length
  choices : ∀ f ∈ m.flip, Program.choices n.trail (some f) = Program.choices m.trail (some f)
  path : (p.flipped m.flip).attempt.path = n.trail
  phase : n.phase = if (p.flipped m.flip).attempt.halted then .running else .looping
  past : (p.flipped m.flip).attempt.halted = true → p.size ≤ n.pc

/-- An attempt has ended when its path cannot be continued. -/
theorem attempted_of_stops {next : Option Nat} (track : Tracks p n) (flip : n.flip = m.flip)
    (repairs : n.repairs = m.repairs) (steps : n.steps + m.trail.length = m.steps + n.trail.length)
    (choices : ∀ f ∈ m.flip,
      Program.choices n.trail (some f) = Program.choices m.trail (some f))
    (path : (p.flipped m.flip).Path n.trail next) (stop : (p.flipped m.flip).Stops n.trail next)
    (phase : n.phase = if (p.flipped m.flip).past next then .running else .looping)
    (past : (p.flipped m.flip).past next = true → p.size ≤ n.pc) : Attempted p m n := by
  have attempt := path.attempt_eq stop
  refine ⟨track,flip,repairs,steps,choices,?_,?_,?_⟩
  · rw [attempt]
  · rw [attempt]
    exact phase
  · rw [attempt]
    exact past

/-- An attempt goes on from every instruction that it executes. -/
theorem Attempted.of_visit {o : Machine} (h : Tracks p m) (out : m.pc ∉ m.trail)
    (flip : o.flip = m.flip) (repairs : o.repairs = m.repairs) (steps : o.steps = m.steps + 1)
    (trail : o.trail = m.pc :: m.trail) (rest : Attempted p o n) : Attempted p m n := by
  obtain ⟨track,flip',repairs',steps',choices,path,phase,past⟩ := rest
  rw [flip] at choices path phase past
  refine ⟨track,flip'.trans flip,repairs'.trans repairs,?_,?_,path,phase,past⟩
  · rw [trail,steps,List.length_cons] at steps'
    omega
  · intro f hf
    rw [choices f hf,trail,h.choices_visit out hf]

theorem Attempted.of_left (h : Tracks p m) (running : m.phase = .running)
    (past : p.size ≤ m.pc) : Attempted p m m := by
  have path := h.path_running running
  have here : (p.flipped m.flip).past (some m.pc) = true := by
    rw [Program.past_some,Program.size_flipped]
    exact past
  have stop := Program.stops_of_past (l := m.trail) here
  refine attempted_of_stops h rfl rfl rfl (fun _ _ => rfl) path stop ?_ fun _ => past
  rw [here,running]
  rfl

theorem Attempted.of_looped (h : Tracks p m) (running : m.phase = .running)
    (ha : (p.flipped m.flip).get? m.pc = some a) (seen : a.visits ≠ 0 ∨ m.pc ∈ m.trail) :
    Attempted p m { m with phase := .looping } := by
  have track := (Move.looped running ha seen).tracks h
  have path := h.path_running running
  have here : (p.flipped m.flip).past (some m.pc) = false := by
    rw [Bool.eq_false_iff,ne_eq,Program.past_some]
    exact Nat.not_le.2 (Program.lt_size_of_get? ha)
  have stop : (p.flipped m.flip).Stops m.trail (some m.pc) := by
    intro i hi b hb
    cases hi
    rw [ha] at hb
    cases hb
    exact seen
  refine attempted_of_stops track rfl rfl rfl (fun _ _ => rfl) path stop ?_ ?_
  · rw [here]
    rfl
  · intro past
    rw [here] at past
    cases past

theorem Attempted.of_deadEnd (h : Tracks p m) (running : m.phase = .running)
    (ha : (p.flipped m.flip).get? m.pc = some a) (fresh : a.visits = 0)
    (out : m.pc ∉ m.trail) (next : a.next? m.pc = none) :
    Attempted p m
      { m.place p m.flip (m.pc :: m.trail) with phase := .looping, steps := m.steps + 1 } := by
  have track := (Move.deadEnd running ha fresh out next).tracks h
  have path := (h.path_running running).step ha fresh out
  rw [next] at path
  have stop : (p.flipped m.flip).Stops (m.pc :: m.trail) none := by
    intro i hi
    cases hi
  refine attempted_of_stops track rfl rfl ?_ (fun f hf => h.choices_visit out hf) path stop rfl ?_
  · simp only [place,List.length_cons]
    omega
  · intro past
    cases past

/-- A running machine carries its attempt through without a repair. -/
theorem Tracks.attempted (h : Tracks p m) (running : m.phase = .running) :
    ∃ ts n, Makes m ts n ∧ ts.filterMap Transition.flip? = [] ∧ Attempted p m n := by
  -- On the instructions that the attempt may still execute.
  induction hd : p.size - m.trail.length using Nat.strongRecOn generalizing m with
  | ind d ih =>
      have track := h.step
      have move := h.move
      generalize hr : m.step.result = r at move
      generalize hn : m.step.machine = n at move track
      cases move with
      | left _ past => exact ⟨[],m,.nil m,rfl,.of_left h running past⟩
      | looped _ ha seen =>
          have made := Makes.single hr (by simp)
          rw [hn] at made
          exact ⟨_,_,made,rfl,.of_looped h running ha seen⟩
      | deadEnd _ ha fresh out next =>
          have made := Makes.single hr (by simp)
          rw [hn] at made
          exact ⟨_,_,made,rfl,.of_deadEnd h running ha fresh out next⟩
      | executed _ _ _ out _ =>
          have bound := track.trail_length_le
          simp only [place,List.length_cons] at bound
          obtain ⟨ts,n,made,none,rest⟩ := ih (p.size - (m.trail.length + 1)) (by omega) track
            running rfl
          rw [← hn] at made
          refine ⟨.executed m.pc :: ts,n,.cons hr (by simp) made,none,?_⟩
          refine Attempted.of_visit h out ?_ ?_ ?_ ?_ rest <;> rfl
      | repaired other _ | exhausted other _ | halted other =>
          rw [running] at other
          cases other

/-- At the end of an attempt that halts the next call concludes the run. -/
theorem Attempted.concludes (h : Attempted p m n)
    (halted : (p.flipped m.flip).attempt.halted = true) :
    n.Concludes (.ok ⟨m.flip,(p.flipped m.flip).attempt.accumulator,n.steps,m.repairs⟩) := by
  have running : n.phase = .running := by
    rw [h.phase,halted]
    rfl
  have accumulator : n.accumulator = (p.flipped m.flip).attempt.accumulator := by
    obtain ⟨_,_,_,total,_⟩ := (p.flipped m.flip).exists_attempt
    rw [total,h.path,h.tracks.accumulator,Program.tally_flipped (h.flip ▸ h.tracks.found)]
  have move := h.tracks.move_running running
  generalize hr : n.step.result = r at move
  generalize hn : n.step.machine = o at move
  cases move with
  | left _ _ =>
      refine ⟨hr,?_⟩
      rw [hn,outcome,h.flip,h.repairs,accumulator]
  | looped _ ha _ | deadEnd _ ha _ _ _ | executed _ ha _ _ _ =>
      have inside := Program.lt_size_of_get? ha
      rw [Program.size_flipped] at inside
      exact absurd (h.past halted) (Nat.not_le.2 inside)
  | repaired other _ | exhausted other _ | halted other =>
      rw [running] at other
      cases other

/-- At the end of an attempt that fails the machine is about to repair. -/
theorem Attempted.looping (h : Attempted p m n)
    (failed : (p.flipped m.flip).attempt.halted = false) : n.phase = .looping := by
  rw [h.phase,failed]
  rfl

/-- The flip that a repair chooses stands on the path of the attempt, before what stays on the
trail. -/
theorem Tracks.suffix_of_nextFlip (h : Tracks p m) {f : Flip} {r : List Nat}
    (chosen : p.nextFlip? (Program.choices m.trail m.flip) = some (f,r)) :
    f.index :: r <:+ p.attempt.path := by
  obtain ⟨_,out,path,_,ha,fresh⟩ := h.of_nextFlip chosen
  exact (path.step ha fresh out).suffix_attempt

/-- The attempt that a repair begins takes the steps that are spent on its trial. -/
theorem Tracks.steps_of_nextFlip (h : Tracks p m) {f : Flip} {r : List Nat}
    (chosen : p.nextFlip? (Program.choices m.trail m.flip) = some (f,r)) {o : Machine}
    (rest : Attempted p o n) (flip : o.flip = some f) (trail : o.trail = r) :
    n.steps = o.steps + p.spent (f,(p.apply f).attempt) := by
  have stands := h.suffix_of_nextFlip chosen
  have longer := (Program.suffix_attempt_apply stands (h.of_nextFlip chosen).1).length_le
  have path := rest.path
  have steps := rest.steps
  rw [flip,Program.flipped_some] at path
  rw [trail,← path] at steps
  rw [Program.spent,Program.position_of_suffix stands]
  dsimp only
  omega

/-- From a failed attempt on, a run is a search along the choices that are left. -/
theorem Tracks.searched (h : Tracks p m) (looping : m.phase = .looping) :
    let trials := Program.upToHalted (p.trialsAlong (Program.choices m.trail m.flip))
    ∃ ts n, Makes m ts n ∧ ts.filterMap Transition.flip? = trials.map Prod.fst ∧
      n.Concludes (p.outcomeOf trials m.steps m.repairs) ∧
      n.step.machine.steps = m.steps + (trials.map p.spent).sum := by
  dsimp only
  -- On the choices left: the attempt between two repairs may lengthen the trail, never these.
  induction hd : (Program.choices m.trail m.flip).length using Nat.strongRecOn
    generalizing m with
  | ind d ih =>
      have track := h.step
      have move := h.move_looping looping
      rw [Program.trialsAlong_eq]
      generalize hr : m.step.result = r at move
      generalize hn : m.step.machine = o at move track
      cases move with
      | exhausted _ none =>
          rw [none]
          refine ⟨[],m,.nil m,rfl,hr,?_⟩
          rw [hn]
          rfl
      | @repaired f r _ chosen =>
          rw [chosen]
          obtain ⟨us,n,made,none,rest⟩ := track.attempted rfl
          have begun : Makes m (.repaired f :: us) n := .cons hr (by simp) (hn ▸ made)
          have steps := h.steps_of_nextFlip chosen rest rfl rfl
          change n.steps = m.steps + p.spent (f,(p.apply f).attempt) at steps
          dsimp only
          rw [Program.upToHalted]
          cases halted : (p.apply f).attempt.halted with
          | true =>
              have concluded := rest.concludes halted
              refine ⟨_,n,begun,?_,?_,?_⟩
              · simp [Transition.flip?,none]
              · rw [if_pos rfl,Program.outcomeOf_single halted,← steps]
                exact concluded
              · simp only [if_true,List.map_singleton,List.sum_singleton,← steps]
                exact congrArg Outcome.steps concluded.2
          | false =>
              have left : Program.choices n.trail n.flip = r := by
                rw [rest.flip]
                exact (rest.choices f rfl).trans
                  (Program.choices_of_not_mem (h.of_nextFlip chosen).2.1)
              have fewer : r.length < d := by
                obtain ⟨_,k,split,_⟩ := Program.nextFlip?_eq_some chosen
                rw [← hd,split,List.length_append,List.length_cons]
                omega
              obtain ⟨vs,o,more,tried,concluded,spent⟩ :=
                ih r.length fewer rest.tracks (rest.looping halted) (by rw [left])
              rw [left] at tried concluded spent
              rw [if_neg Bool.false_ne_true]
              refine ⟨_,o,begun.append more,?_,?_,?_⟩
              · simp [Transition.flip?,none,tried]
              · rw [steps,rest.repairs] at concluded
                rw [Program.outcomeOf_cons halted]
                exact concluded
              · rw [spent,steps,List.map_cons,List.sum_cons,Nat.add_assoc]
      | left other _ | looped other _ _ | deadEnd other _ _ _ _ | executed other _ _ _ _
      | halted other =>
          rw [looping] at other
          cases other

/-- A run from the start is the attempt of the program and, if that fails, a search along
its path. -/
theorem start_searched_steps (p : Program) :
    ∃ ts n, Makes (start p) ts n ∧ ts.filterMap Transition.flip? = p.tried ∧
      n.Concludes p.searchOutcome ∧ n.step.machine.steps = p.searchSteps := by
  obtain ⟨ts,n,made,none,rest⟩ := (tracks_start p).attempted rfl
  have steps : n.steps = p.attempt.path.length := by
    have path : p.attempt.path = n.trail := rest.path
    have counted : n.steps + 0 = 0 + n.trail.length := rest.steps
    rw [path]
    omega
  rw [Program.tried,Program.searchSteps,← steps]
  cases halted : p.attempt.halted with
  | true =>
      rw [Program.searchOutcome_of_halted halted,Program.trials_of_halted halted,← steps]
      have concluded := rest.concludes halted
      exact ⟨ts,n,made,none,concluded,congrArg Outcome.steps concluded.2⟩
  | false =>
      have all : Program.choices n.trail n.flip = p.attempt.path := by
        rw [rest.flip]
        exact rest.path.symm
      have unrepaired : n.repairs = 0 := rest.repairs
      obtain ⟨us,o,more,tried,concluded,spent⟩ := rest.tracks.searched (rest.looping halted)
      rw [all,← Program.trials_of_failed halted] at tried concluded spent
      rw [Program.searchOutcome_of_failed halted,← steps]
      refine ⟨ts ++ us,o,made.append more,?_,?_,spent⟩
      · rw [List.filterMap_append,none,tried]
        rfl
      · rw [unrepaired] at concluded
        exact concluded

theorem start_searched (p : Program) :
    ∃ ts n, Makes (start p) ts n ∧ ts.filterMap Transition.flip? = p.tried ∧
      n.Concludes p.searchOutcome := by
  obtain ⟨ts,n,made,tried,concluded,_⟩ := start_searched_steps p
  exact ⟨ts,n,made,tried,concluded⟩

end Machine

theorem Program.run_eq (p : Program) : p.run = p.searchOutcome := by
  obtain ⟨ts,n,made,_,concluded⟩ := Machine.start_searched p
  rw [run,made.run,concluded.run]

end LoopRepair
