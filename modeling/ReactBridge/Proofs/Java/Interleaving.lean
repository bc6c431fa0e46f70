import ReactBridge.Proofs.FileSystem.Confined
import ReactBridge.Proofs.Java.History

/-!
# Writers side by side

Several writers share a file system, and their actions come in any order. As long as their paths
lead to different places in directories that exist, each writer only ever sees and changes its own
place, so that its actions come to what they would come to without the others.

* `Writer.At`, `Action.confined` : the place of a writer, and its actions there;
* `Shared` : writers on one file system, and what steps of them leave;
* `Shared.Settled`, `Shared.Agrees` : what each step keeps, for all writers and for one of them;
* `Shared.Agrees.run` : a run, seen by one writer, is a run of its own steps;
* `Shared.run_inTurn` : two writers in any order, and one behind the other.
-/

namespace ReactBridge.Java
open FileSystem (Handle Confined)

/-! ## Actions at a place -/

/-- Whether the action leaves the path of the writer as it is. -/
def Action.stays : Action → Bool
  | retarget _ => false
  | _ => true

namespace Writer

/-- A writer with this path, whose handle is at this place if it has one. -/
structure At (writer : Writer Handle) (path : Path) (place : Location) : Prop where
  path : writer.path = path
  handle : ∀ handle ∈ writer.handle, handle.location = place

theorem at_ofPath (path : Path) (place : Location) : (ofPath path).At path place :=
  ⟨rfl, fun handle h => absurd h (Option.not_mem_none handle)⟩

variable {writer : Writer Handle} {path : Path} {place : Location}

theorem At.released (h : writer.At path place) : At { writer with handle := none } path place :=
  ⟨h.path, fun handle h => absurd h (Option.not_mem_none handle)⟩

theorem confined_openFile (h : writer.At path place) :
    Confined place (fun fs => fs.Leads path place) writer.openFile
      fun outcome => outcome.2.At path place := by
  obtain rfl := h.path
  rw [openFile]
  split
  · exact .pure h
  · refine (FileSystem.confined_create writer.path place).bind fun opened hopened => ?_
    cases opened with
    | some handle => exact .pure ⟨rfl, hopened⟩
    | none => exact .pure h

theorem confined_close (h : writer.At path place) (p : FileSystem → Prop) :
    Confined place p writer.close fun outcome => outcome.2.At path place := by
  rw [close]
  split
  · exact .pure h
  · next handle hhandle =>
    obtain rfl := h.handle handle hhandle
    exact (FileSystem.confined_release handle p).bind fun _ _ => .pure h.released

theorem confined_append (h : writer.At path place) (text : String) (p : FileSystem → Prop) :
    Confined place p (writer.append text) fun outcome => outcome.2.At path place := by
  rw [append]
  split
  · exact .pure h
  · next handle hhandle =>
    obtain rfl := h.handle handle hhandle
    refine (FileSystem.confined_append handle text p).bind fun opened hopened => ?_
    cases opened with
    | some handle => exact .pure ⟨h.path, hopened⟩
    | none => exact .pure h

theorem confined_writeLine (h : writer.At path place) (line : Line) (p : FileSystem → Prop) :
    Confined place p (writer.writeLine line) fun outcome => outcome.2.At path place := by
  cases line with
  | verbatim text => exact confined_append h text p
  | placed text mode =>
    exact (confined_append h _ p).bind fun outcome houtcome => .pure ⟨houtcome.path, houtcome.handle⟩

theorem confined_writeLines (h : writer.At path place) (lines : List Line)
    (p : FileSystem → Prop) :
    Confined place p (writer.writeLines lines) fun outcome => outcome.2.At path place := by
  induction lines generalizing writer p with
  | nil => exact .pure h
  | cons line lines ih =>
    refine (confined_writeLine h line p).bind fun outcome houtcome => ?_
    obtain ⟨result, next⟩ := outcome
    cases result with
    | ok => exact ih houtcome _
    | error e => exact .pure houtcome

end Writer

/-- Where a writer stands, its actions see and change nothing else. -/
theorem Action.confined {action : Action} (hstays : action.stays = true) {writer : Writer Handle}
    {path : Path} {place : Location} (h : writer.At path place) :
    Confined place (fun fs => fs.Leads path place) (action.run writer)
      fun outcome => outcome.2.At path place := by
  cases action with
  | openFile => exact Writer.confined_openFile h
  | close => exact Writer.confined_close h _
  | write piece => exact Writer.confined_writeLines h piece.lines _
  | retarget => cases hstays

/-! ## Writers on one file system -/

structure Shared (ι : Type) where
  writers : ι → Writer Handle
  fs : FileSystem

namespace Shared

variable {ι : Type} [DecidableEq ι]

def start (paths : ι → Path) (fs : FileSystem) : Shared ι :=
  ⟨fun i => .ofPath (paths i), fs⟩

def outcome (s : Shared ι) (step : ι × Action) : Writer.Outcome Handle :=
  ((step.2.run (s.writers step.1)).run s.fs).1

def next (s : Shared ι) (step : ι × Action) : Shared ι :=
  ⟨Function.update s.writers step.1 (s.outcome step).2,
    ((step.2.run (s.writers step.1)).run s.fs).2⟩

def run (s : Shared ι) : List (ι × Action) → Shared ι
  | [] => s
  | step :: steps => (s.next step).run steps

/-- What the steps of one writer give back, while the others take theirs. -/
def outcomes (s : Shared ι) (i : ι) : List (ι × Action) → List (Writer.Outcome Handle)
  | [] => []
  | step :: steps =>
    if step.1 = i then s.outcome step :: (s.next step).outcomes i steps
    else (s.next step).outcomes i steps

def own (i : ι) (steps : List (ι × Action)) : List (ι × Action) :=
  steps.filter (·.1 = i)

theorem own_own (i j : ι) (steps : List (ι × Action)) :
    own i (own j steps) = if i = j then own i steps else [] := by
  rw [own, own, List.filter_filter]
  split
  · next hij =>
    subst hij
    simp only [Bool.and_self]
    rfl
  · next hij =>
    rw [List.filter_eq_nil_iff]
    intro step _ h
    rw [Bool.and_eq_true, decide_eq_true_iff, decide_eq_true_iff] at h
    exact hij (h.1.symm.trans h.2)

variable {paths : ι → Path} {places : ι → Location} {s t : Shared ι} {step : ι × Action}

theorem writers_next_self (s : Shared ι) (step : ι × Action) :
    (s.next step).writers step.1 = (s.outcome step).2 :=
  Function.update_self ..

theorem writers_next_of_ne {i : ι} (h : i ≠ step.1) (s : Shared ι) :
    (s.next step).writers i = s.writers i :=
  Function.update_of_ne h ..

/-- Whether the writers stand where their paths lead. -/
structure Settled (paths : ι → Path) (places : ι → Location) (s : Shared ι) : Prop where
  writers : ∀ i, (s.writers i).At (paths i) (places i)
  leads : ∀ i, s.fs.Leads (paths i) (places i)

/-- Whether a writer and what stands at its place are the same in both. -/
structure Agrees (places : ι → Location) (i : ι) (s t : Shared ι) : Prop where
  writer : s.writers i = t.writers i
  find : s.fs.find (places i) = t.fs.find (places i)

/-- A step is told by the writer that takes it and the entry at its place. -/
theorem Settled.exists_change (h : s.Settled paths places) (hstays : step.2.stays = true) :
    ∃ outcome change, outcome.2.At (paths step.1) (places step.1) ∧
      (change.isSome = true → s.fs.find (places step.1) ≠ some .directory) ∧
        ∀ t : Shared ι, t.Settled paths places → s.Agrees places step.1 t →
          t.outcome step = outcome ∧ (t.next step).fs = t.fs.amend (places step.1) change := by
  obtain ⟨outcome, change, hat, hchange, hrun⟩ :=
    Action.confined hstays (h.writers step.1) (s.fs.find (places step.1))
  refine ⟨outcome, change, hat, hchange, fun t ht hagrees => ?_⟩
  have hstep := hrun t.fs (ht.leads step.1) hagrees.find.symm
  rw [hagrees.writer] at hstep
  rw [Shared.next, Shared.outcome, hstep]
  exact ⟨rfl, rfl⟩

/-- A step touches no other place. -/
theorem Settled.find_next (h : s.Settled paths places) (hstays : step.2.stays = true)
    {other : Location} (hother : other ≠ places step.1) :
    (s.next step).fs.find other = s.fs.find other := by
  obtain ⟨outcome, change, -, -, hstep⟩ := h.exists_change hstays
  rw [(hstep s h ⟨rfl, rfl⟩).2]
  exact FileSystem.find_amend_of_ne s.fs hother change

theorem Settled.next (h : s.Settled paths places) (hstays : step.2.stays = true) :
    (s.next step).Settled paths places := by
  obtain ⟨outcome, change, hat, hchange, hstep⟩ := h.exists_change hstays
  obtain ⟨houtcome, hfs⟩ := hstep s h ⟨rfl, rfl⟩
  refine ⟨fun i => ?_, fun i => ?_⟩
  · by_cases hi : i = step.1
    · subst hi
      rw [writers_next_self, houtcome]
      exact hat
    · rw [writers_next_of_ne hi]
      exact h.writers i
  · rw [hfs]
    exact (h.leads i).keeps (.amend hchange)

theorem Agrees.next (h : s.Agrees places step.1 t) (hs : s.Settled paths places)
    (ht : t.Settled paths places) (hstays : step.2.stays = true) :
    s.outcome step = t.outcome step ∧ (s.next step).Agrees places step.1 (t.next step) := by
  obtain ⟨outcome, change, -, -, hstep⟩ := hs.exists_change hstays
  obtain ⟨hsoutcome, hsfs⟩ := hstep s hs ⟨rfl, rfl⟩
  obtain ⟨htoutcome, htfs⟩ := hstep t ht h
  refine ⟨hsoutcome.trans htoutcome.symm, ?_, ?_⟩
  · rw [writers_next_self, writers_next_self, hsoutcome, htoutcome]
  · rw [hsfs, htfs, FileSystem.find_amend, FileSystem.find_amend, h.find]

theorem Agrees.skip {i : ι} (h : s.Agrees places i t) (hs : s.Settled paths places)
    (hstays : step.2.stays = true) (hplaces : Function.Injective places) (hi : i ≠ step.1) :
    (s.next step).Agrees places i t where
  writer := (writers_next_of_ne hi s).trans h.writer
  find := (hs.find_next hstays (hplaces.ne hi)).trans h.find

/-- **A run, seen by one writer**, is a run of its own steps. -/
theorem Agrees.run {i : ι} {steps : List (ι × Action)} (h : s.Agrees places i t)
    (hs : s.Settled paths places) (ht : t.Settled paths places)
    (hplaces : Function.Injective places) (hstays : ∀ step ∈ steps, step.2.stays = true) :
    s.outcomes i steps = t.outcomes i (own i steps) ∧
      (s.run steps).Agrees places i (t.run (own i steps)) := by
  induction steps generalizing s t with
  | nil => exact ⟨rfl, h⟩
  | cons step steps ih =>
    rw [List.forall_mem_cons] at hstays
    by_cases hi : step.1 = i
    · subst hi
      obtain ⟨houtcome, hnext⟩ := h.next hs ht hstays.1
      obtain ⟨houtcomes, hrun⟩ := ih hnext (hs.next hstays.1) (ht.next hstays.1) hstays.2
      have hown : own step.1 (step :: steps) = step :: own step.1 steps :=
        List.filter_cons_of_pos (decide_eq_true rfl)
      rw [hown, outcomes, outcomes, if_pos rfl, if_pos rfl, houtcome, houtcomes]
      exact ⟨rfl, hrun⟩
    · have hown : own i (step :: steps) = own i steps :=
        List.filter_cons_of_neg (by rwa [decide_eq_true_iff])
      rw [hown, outcomes, if_neg hi]
      exact ih (h.skip hs hstays.1 hplaces (Ne.symm hi)) (hs.next hstays.1) ht hstays.2

theorem Settled.find_run {steps : List (ι × Action)} (h : s.Settled paths places)
    (hstays : ∀ step ∈ steps, step.2.stays = true) {other : Location}
    (hother : ∀ i, other ≠ places i) : (s.run steps).fs.find other = s.fs.find other := by
  induction steps generalizing s with
  | nil => rfl
  | cons step steps ih =>
    rw [List.forall_mem_cons] at hstays
    rw [run, ih (h.next hstays.1) hstays.2, h.find_next hstays.1 (hother step.1)]

/-- **Runs with the same steps of each writer**, in whatever order, come to the same. -/
theorem Settled.run_congr {steps steps' : List (ι × Action)} (h : s.Settled paths places)
    (hplaces : Function.Injective places) (hstays : ∀ step ∈ steps, step.2.stays = true)
    (hown : ∀ i, own i steps = own i steps') :
    (∀ i, s.outcomes i steps = s.outcomes i steps') ∧
      (s.run steps).writers = (s.run steps').writers ∧
        ∀ location, (s.run steps).fs.find location = (s.run steps').fs.find location := by
  have hstays' : ∀ step ∈ steps', step.2.stays = true := by
    intro step hstep
    have hmem : step ∈ own step.1 steps' := List.mem_filter.2 ⟨hstep, decide_eq_true rfl⟩
    rw [← hown] at hmem
    exact hstays step (List.mem_of_mem_filter hmem)
  have hrun := fun i => (⟨rfl, rfl⟩ : s.Agrees places i s).run h h hplaces hstays
  have hrun' := fun i => (⟨rfl, rfl⟩ : s.Agrees places i s).run h h hplaces hstays'
  refine ⟨fun i => ?_, funext fun i => ?_, fun location => ?_⟩
  · rw [(hrun i).1, (hrun' i).1, hown]
  · rw [(hrun i).2.writer, (hrun' i).2.writer, hown]
  · by_cases hlocation : ∃ i, location = places i
    · obtain ⟨i, rfl⟩ := hlocation
      rw [(hrun i).2.find, (hrun' i).2.find, hown]
    · rw [not_exists] at hlocation
      rw [h.find_run hstays hlocation, h.find_run hstays' hlocation]

end Shared

/-! ## Two writers -/

inductive Side where
  | left
  | right
deriving DecidableEq

def Side.other : Side → Side
  | left => right
  | right => left

namespace Shared

/-- The steps of one of two writers, and then those of the other one. -/
def inTurn (side : Side) (steps : List (Side × Action)) : List (Side × Action) :=
  own side steps ++ own side.other steps

theorem own_inTurn (i side : Side) (steps : List (Side × Action)) :
    own i (inTurn side steps) = own i steps := by
  have happend : own i (inTurn side steps) =
      own i (own side steps) ++ own i (own side.other steps) := List.filter_append ..
  rw [happend, own_own, own_own]
  by_cases hi : i = side
  · have hother : i ≠ side.other := by
      subst hi
      cases i <;> exact nofun
    rw [if_pos hi, if_neg hother, List.append_nil]
  · have hother : i = side.other := by
      cases i <;> cases side
      · exact absurd rfl hi
      · rfl
      · rfl
      · exact absurd rfl hi
    rw [if_neg hi, if_pos hother, List.nil_append]

/-- **Two writers on different files do not meet.** In whatever order they take their steps, each
step gives back what it would, and the writers and all files end as they would, if one writer took
all its steps before the other. -/
theorem run_inTurn {paths : Side → Path} {places : Side → Location} {fs : FileSystem}
    (hleads : ∀ side, fs.Leads (paths side) (places side))
    (hplaces : places .left ≠ places .right) {steps : List (Side × Action)}
    (hstays : ∀ step ∈ steps, step.2.stays = true) (side : Side) :
    (∀ i, (start paths fs).outcomes i steps = (start paths fs).outcomes i (inTurn side steps)) ∧
      ((start paths fs).run steps).writers = ((start paths fs).run (inTurn side steps)).writers ∧
        ∀ location, ((start paths fs).run steps).fs.find location =
          ((start paths fs).run (inTurn side steps)).fs.find location := by
  have hinjective : Function.Injective places := by
    intro i j hij
    cases i <;> cases j
    · rfl
    · exact absurd hij hplaces
    · exact absurd hij.symm hplaces
    · rfl
  have hstart : (start paths fs).Settled paths places :=
    ⟨fun side => Writer.at_ofPath (paths side) (places side), hleads⟩
  exact hstart.run_congr hinjective hstays fun i => (own_inTurn i side steps).symm

/-- The path of one of two files. -/
def samplePath : Side → Path
  | .left => ⟨"Left.java"⟩
  | .right => ⟨"Right.java"⟩

def samplePlace : Side → Location
  | .left => ["Left.java"]
  | .right => ["Right.java"]

/-- Two writers that take turns, one of which opens its file again. -/
def sampleSteps : List (Side × Action) :=
  [(.left, .openFile), (.right, .openFile), (.left, .write .tryHeader),
    (.right, .write (.statement "b()")), (.left, .write (.catchAll "f()")), (.right, .close),
    (.left, .write .close), (.right, .openFile), (.left, .close)]

theorem run_inTurn_sample :
    (∀ side, FileSystem.Leads ⟨[([], .directory)], []⟩ (samplePath side) (samplePlace side)) ∧
      samplePlace .left ≠ samplePlace .right ∧
        (∀ step ∈ sampleSteps, step.2.stays = true) ∧
          ∀ location, ((start samplePath ⟨[([], .directory)], []⟩).run sampleSteps).fs.find location =
            ((start samplePath ⟨[([], .directory)], []⟩).run (inTurn .right sampleSteps)).fs.find
              location := by
  have hleads : ∀ side,
      FileSystem.Leads ⟨[([], .directory)], []⟩ (samplePath side) (samplePlace side) := by
    intro side
    cases side with
    | left => exact ⟨⟨""⟩, [], "Left.java", by decide, by decide, rfl, rfl, rfl⟩
    | right => exact ⟨⟨""⟩, [], "Right.java", by decide, by decide, rfl, rfl, rfl⟩
  have hplaces : samplePlace .left ≠ samplePlace .right := by decide
  have hstays : ∀ step ∈ sampleSteps, step.2.stays = true := by decide
  exact ⟨hleads, hplaces, hstays, (run_inTurn hleads hplaces hstays .right).2.2⟩

end Shared

end ReactBridge.Java
