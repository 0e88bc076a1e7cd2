/-
  DaqMonitor.Proofs.Service.Following

  A monitor and an exporter that runs beside it. Their steps come in any order. The
  monitor performs operations until it is closed. The exporter waits for news, takes
  up the newest graph, writes it, and waits again; it ends when there is no news of
  a closed monitor.

  There is room for one graph between them. What is written is what the exporter
  looked at: the graph of a cycle, if it looks before the next cycle. Of two cycles
  without a look in between the first leaves no file.

    * `Following.run? s actions` — the state after some steps, where they can be made.
    * `run?_turn` — a turn of the exporter without a break is `Exporter.step`.
    * `settled_run?` — the files are the snapshots of the graphs that were taken up.
    * `canEnd` — when the monitor is closed, the exporter comes to its end.
    * `file?_of_ended` — which files there are at the end.
-/
import DaqMonitor.Proofs.Cycle.Operations
import DaqMonitor.Proofs.SortedMap.Lookup
import DaqMonitor.Service.Snapshot

namespace DaqMonitor

open Flashlist

/-- Two numbers with the same digits are one. -/
theorem Text.ofNat_injective {m n : Nat} (h : Text.ofNat m = Text.ofNat n) : m = n := by
  have hdigits : Nat.toDigits 10 m = Nat.toDigits 10 n := String.ofList_injective h
  rw [← Nat.ofDigitChars_ten_toDigits (n := m), hdigits, Nat.ofDigitChars_ten_toDigits]

namespace Service

/-! ## Files -/

/-- The file of a name. -/
def Output.file? : Output → String → Option String
  | .blocked, _ => none
  | .folder files, name => files.find? name

/-- The output after some snapshots, one after the other; those that cannot be written are given
    up. -/
def Output.writeAll (output : Output) (snapshots : List Snapshot) : Output :=
  snapshots.foldl (fun o s => (o.write? s).getD o) output

/-- Where all snapshots of a name say the same, that is in the file of the name. -/
theorem Output.file?_writeAll (content : String) {files : SortedMap String String}
    {snapshots : List Snapshot} {name : String}
    (h : ∀ s ∈ snapshots, s.name = name → s.content = content) :
    ((Output.folder files).writeAll snapshots).file? name
      = if name ∈ snapshots.map (·.name) then some content else files.find? name := by
  induction snapshots generalizing files with
  | nil => simp [writeAll, file?]
  | cons s rest ih =>
    have hrest : ((Output.folder (files.insert s.name s.content)).writeAll rest).file? name = _ :=
      ih fun s' hs' => h s' (List.mem_cons_of_mem _ hs')
    refine hrest.trans ?_
    rw [SortedMap.find?_insert, List.map_cons]
    by_cases hname : name = s.name
    · subst hname
      simp [h s List.mem_cons_self rfl]
    · simp [hname]

namespace Snapshot

/-- The name of the snapshot that belongs to the cycle of a time. -/
def nameAt (time : UInt64) : String := "snapshot_" ++ Text.ofNat time.toNat ++ ".json"

theorem nameAt_inj {s t : UInt64} : nameAt s = nameAt t ↔ s = t := by
  refine ⟨fun h => ?_, fun h => by rw [h]⟩
  simp only [nameAt, String.append_left_inj, String.append_right_inj] at h
  exact UInt64.toNat_inj.1 (Text.ofNat_injective h)

end Snapshot

/-! ## Both sides -/

/-- How far an exporter is with its turn. -/
inductive Phase where
  /-- It waits for news. -/
  | waiting
  /-- There is news, and it is about to look. -/
  | awake
  /-- It writes what it took up. -/
  | writing (snapshot : Snapshot)
  /-- It has ended. -/
  | ended
  deriving DecidableEq

/-- A monitor, and an exporter that follows it. -/
structure Following where
  monitor : Monitor
  /-- Whether the monitor is gone. -/
  closed : Bool := false
  exporter : Exporter
  phase : Phase := .waiting

/-- A step of one of the sides. -/
inductive Action where
  | perform (operation : Operation)
  /-- The monitor goes. -/
  | close
  /-- The exporter learns that there is news. -/
  | wake
  /-- The exporter takes up the newest graph. -/
  | look
  | write
  /-- The exporter learns that there will be no more news. -/
  | finish

/-- What the monitor is asked to do. -/
def Action.operation? : Action → Option Operation
  | .perform operation => some operation
  | _ => none

/-- What the monitor is asked to do in some steps. -/
def operationsOf (actions : List Action) : List Operation := actions.filterMap Action.operation?

/-- The time of a cycle. -/
def Action.time? : Action → Option UInt64
  | .perform operation => operation.time?
  | _ => none

/-- The times of the cycles among some steps. -/
def timesOf (actions : List Action) : List UInt64 := actions.filterMap Action.time?

namespace Following

/-- An exporter that begins to follow a monitor. -/
def start (monitor : Monitor) (output : Output) : Following where
  monitor
  exporter := .follow monitor.published output

/-- There is something that the exporter has not seen. -/
def HasNews (s : Following) : Prop := s.exporter.reader.hasNews s.monitor.published

instance (s : Following) : Decidable s.HasNews := inferInstanceAs (Decidable (_ = true))

/-- The exporter has learned of news, all of which it counts as seen. -/
def woken (s : Following) : Following :=
  { s with
    phase := .awake
    exporter := { s.exporter with reader := s.monitor.published.subscribe } }

/-- The exporter has taken up the newest graph. -/
def looked (s : Following) : Following :=
  let (graph, reader) := s.exporter.reader.look s.monitor.published
  { s with
    phase := (graph.map fun g => Phase.writing (.ofGraph g)).getD .waiting
    exporter := { s.exporter with reader } }

/-- The exporter has written a snapshot, or given it up. -/
def written (s : Following) (snapshot : Snapshot) : Following :=
  { s with
    phase := .waiting
    exporter := { s.exporter with
      output := (s.exporter.output.write? snapshot).getD s.exporter.output } }

/-- The state after a step; `none` where the side is not ready for it. -/
def step? (s : Following) : Action → Option Following
  | .perform operation =>
    if s.closed then none else some { s with monitor := s.monitor.perform operation }
  | .close => if s.closed then none else some { s with closed := true }
  | .wake => if s.phase = .waiting ∧ s.HasNews then some s.woken else none
  | .look => if s.phase = .awake then some s.looked else none
  | .write =>
    match s.phase with
    | .writing snapshot => some (s.written snapshot)
    | _ => none
  | .finish =>
    if s.phase = .waiting ∧ s.closed = true ∧ ¬ s.HasNews then some { s with phase := .ended }
    else none

/-- The state after some steps. -/
def run? (s : Following) (actions : List Action) : Option Following := actions.foldlM step? s

variable {s s' : Following} {actions : List Action}

/-! ## What a step does -/

theorem step?_perform {operation : Operation} (h : s.step? (.perform operation) = some s') :
    s.closed = false ∧ s' = { s with monitor := s.monitor.perform operation } := by
  obtain ⟨hopen, h⟩ := Option.ite_none_left_eq_some.1 h
  exact ⟨Bool.eq_false_iff.2 hopen, (Option.some.inj h).symm⟩

theorem step?_close (h : s.step? .close = some s') : s' = { s with closed := true } := by
  obtain ⟨-, h⟩ := Option.ite_none_left_eq_some.1 h
  exact (Option.some.inj h).symm

theorem step?_wake (h : s.step? .wake = some s') :
    s.phase = .waiting ∧ s.HasNews ∧ s' = s.woken := by
  obtain ⟨⟨hphase, hnews⟩, h⟩ := Option.ite_none_right_eq_some.1 h
  exact ⟨hphase, hnews, (Option.some.inj h).symm⟩

theorem step?_look (h : s.step? .look = some s') : s.phase = .awake ∧ s' = s.looked := by
  obtain ⟨hphase, h⟩ := Option.ite_none_right_eq_some.1 h
  exact ⟨hphase, (Option.some.inj h).symm⟩

theorem step?_write (h : s.step? .write = some s') :
    ∃ snapshot, s.phase = .writing snapshot ∧ s' = s.written snapshot := by
  simp only [step?] at h
  split at h
  · rename_i snapshot hphase
    exact ⟨snapshot, hphase, (Option.some.inj h).symm⟩
  · cases h

theorem step?_finish (h : s.step? .finish = some s') :
    s.phase = .waiting ∧ s.closed = true ∧ ¬ s.HasNews ∧ s' = { s with phase := .ended } := by
  obtain ⟨⟨hphase, hclosed, hnone⟩, h⟩ := Option.ite_none_right_eq_some.1 h
  exact ⟨hphase, hclosed, hnone, (Option.some.inj h).symm⟩

theorem run?_cons {a : Action} (h : s.run? (a :: actions) = some s') :
    ∃ t, s.step? a = some t ∧ t.run? actions = some s' := by
  rw [run?, List.foldlM_cons] at h
  exact Option.bind_eq_some_iff.1 h

theorem run?_append {before after : List Action} (h : s.run? (before ++ after) = some s') :
    ∃ t, s.run? before = some t ∧ t.run? after = some s' := by
  rw [run?, List.foldlM_append] at h
  exact Option.bind_eq_some_iff.1 h

/-- What an exporter takes up is the newest graph. -/
theorem looked_of_latest {g : Graph} (hlatest : s.monitor.latest = some g) :
    s.looked = { s with
      phase := .writing (.ofGraph g)
      exporter := { s.exporter with reader := s.monitor.published.subscribe } } := by
  have hnewest : s.monitor.published.newest = some g := hlatest
  simp only [looked, Reader.look, hnewest, Option.map_some, Option.getD_some]

/-- A turn that nothing comes between is a step of the exporter. -/
theorem run?_turn {g : Graph} (hphase : s.phase = .waiting) (hnews : s.HasNews)
    (hlatest : s.monitor.latest = some g) :
    s.run? [.wake, .look, .write]
      = some { s with exporter := s.exporter.step s.monitor.published } := by
  have hstep : s.exporter.step s.monitor.published =
      { reader := s.monitor.published.subscribe
        output := (s.exporter.output.write? (.ofGraph g)).getD s.exporter.output } := by
    have hnewest : s.monitor.published.newest = some g := hlatest
    have hreader : s.exporter.reader.hasNews s.monitor.published = true := hnews
    simp only [Exporter.step, Exporter.next?, hreader, Reader.look, hnewest, Option.map_some,
      if_true]
  have hwake : s.step? .wake = some s.woken := if_pos ⟨hphase, hnews⟩
  have hlook : s.woken.step? .look = some s.woken.looked := rfl
  rw [looked_of_latest (show s.woken.monitor.latest = some g from hlatest)] at hlook
  rw [hstep, run?, List.foldlM_cons, hwake, Option.bind_eq_bind, Option.bind_some, List.foldlM_cons,
    hlook]
  obtain ⟨monitor, closed, exporter, phase⟩ := s
  cases hphase
  rfl

/-! ## What is taken up -/

/-- The graphs that an exporter takes up beside a monitor. -/
def taken (m : Monitor) : List Action → List Graph
  | [] => []
  | .perform operation :: rest => taken (m.perform operation) rest
  | .look :: rest => m.latest.toList ++ taken m rest
  | _ :: rest => taken m rest

/-- Whether an exporter looks before the next cycle. -/
def looksFirst : List Action → Bool
  | [] => false
  | .look :: _ => true
  | .perform (.cycle _ _) :: _ => false
  | _ :: rest => looksFirst rest

theorem monitor_step? {a : Action} (h : s.step? a = some s') :
    s'.monitor = s.monitor.performAll (operationsOf [a]) := by
  cases a with
  | perform operation => rw [(step?_perform h).2]; rfl
  | close => rw [step?_close h]; rfl
  | wake => rw [(step?_wake h).2.2]; rfl
  | look => rw [(step?_look h).2]; rfl
  | write =>
    obtain ⟨snapshot, -, rfl⟩ := step?_write h
    rfl
  | finish => rw [(step?_finish h).2.2.2]; rfl

/-- The exporter does nothing to the monitor. -/
theorem monitor_run? (h : s.run? actions = some s') :
    s'.monitor = s.monitor.performAll (operationsOf actions) := by
  induction actions generalizing s with
  | nil =>
    cases h
    rfl
  | cons a rest ih =>
    obtain ⟨t, hstep, hrest⟩ := run?_cons h
    have hcons : operationsOf (a :: rest) = operationsOf [a] ++ operationsOf rest :=
      List.filterMap_append (l := [a])
    rw [ih hrest, monitor_step? hstep, hcons, Monitor.performAll, Monitor.performAll,
      Monitor.performAll, List.foldl_append]

theorem taken_append (m : Monitor) (before after : List Action) :
    taken m (before ++ after)
      = taken m before ++ taken (m.performAll (operationsOf before)) after := by
  induction before generalizing m with
  | nil => rfl
  | cons a rest ih =>
    rw [List.cons_append]
    cases a with
    | perform operation => exact ih (m.perform operation)
    | look => exact (congrArg _ (ih m)).trans (List.append_assoc _ _ _).symm
    | _ => exact ih m

/-- Only the graph from before the steps and those of the cycles among them are taken up. -/
theorem mem_taken {m : Monitor} {g : Graph} (h : g ∈ taken m actions) :
    (m.latest = some g ∧ looksFirst actions = true) ∨ g.run.lastUpdate ∈ timesOf actions := by
  induction actions generalizing m with
  | nil => cases h
  | cons a rest ih =>
    cases a with
    | perform operation =>
      cases operation with
      | cycle flashlists time =>
        -- From here on the newest graph is that of this cycle.
        right
        rcases ih h with ⟨hlatest, -⟩ | htime
        · cases hlatest
          exact List.mem_cons_self
        · exact List.mem_cons_of_mem _ htime
      | _ => exact (ih h).imp_left (And.imp_left ((Monitor.latest_perform m rfl).symm.trans ·))
    | look =>
      rcases List.mem_append.1 h with h | h
      · exact .inl ⟨Option.mem_toList.1 h, rfl⟩
      · exact (ih h).imp_left fun hold => ⟨hold.1, rfl⟩
    | _ => exact ih h

theorem mem_taken_of_looksFirst {m : Monitor} {g : Graph} (hlatest : m.latest = some g)
    (h : looksFirst actions = true) : g ∈ taken m actions := by
  induction actions generalizing m with
  | nil => cases h
  | cons a rest ih =>
    cases a with
    | perform operation =>
      cases operation with
      | cycle flashlists time => cases h
      | _ => exact ih ((Monitor.latest_perform m rfl).trans hlatest) h
    | look => exact List.mem_append_left _ (Option.mem_toList.2 hlatest)
    | _ => exact ih hlatest h

/-! ## What is written -/

/-- The output as it will be once the snapshot that is being written is there. -/
def settled (s : Following) : Output :=
  match s.phase with
  | .writing snapshot => s.exporter.output.writeAll [snapshot]
  | _ => s.exporter.output

theorem settled_of_phase (h : ∀ snapshot, s.phase ≠ .writing snapshot) :
    s.settled = s.exporter.output := by
  unfold settled
  split
  · rename_i snapshot hphase
    exact absurd hphase (h snapshot)
  · rfl

theorem settled_looked (hphase : s.phase = .awake) :
    s.looked.settled
      = s.settled.writeAll (s.monitor.latest.toList.map Snapshot.ofGraph) := by
  rw [settled_of_phase (s := s) (by simp [hphase])]
  cases hlatest : s.monitor.latest with
  | some g => rw [looked_of_latest hlatest]; rfl
  | none =>
    have hnewest : s.monitor.published.newest = none := hlatest
    simp only [looked, Reader.look, hnewest]
    rfl

/-- Only a look adds to the output as it will be. -/
theorem settled_step? {a : Action} (h : s.step? a = some s') :
    s'.settled = s.settled.writeAll ((taken s.monitor [a]).map Snapshot.ofGraph) := by
  cases a with
  | perform operation => rw [(step?_perform h).2]; rfl
  | close => rw [step?_close h]; rfl
  | wake =>
    -- Nothing is being written, neither before nor after.
    obtain ⟨hphase, -, rfl⟩ := step?_wake h
    exact (settled_of_phase (s := s) (by simp [hphase])).symm
  | look =>
    obtain ⟨hphase, rfl⟩ := step?_look h
    rw [settled_looked hphase, taken, taken, List.append_nil]
  | write =>
    obtain ⟨snapshot, hphase, rfl⟩ := step?_write h
    simp only [settled, hphase]
    rfl
  | finish =>
    obtain ⟨hphase, -, -, rfl⟩ := step?_finish h
    exact (settled_of_phase (s := s) (by simp [hphase])).symm

/-- The files are the snapshots of the graphs that were taken up. -/
theorem settled_run? (h : s.run? actions = some s') :
    s'.settled = s.settled.writeAll ((taken s.monitor actions).map Snapshot.ofGraph) := by
  induction actions generalizing s with
  | nil =>
    cases h
    rfl
  | cons a rest ih =>
    obtain ⟨t, hstep, hrest⟩ := run?_cons h
    rw [ih hrest, settled_step? hstep, monitor_step? hstep,
      show taken s.monitor (a :: rest) = _ from taken_append s.monitor [a] rest, List.map_append,
      Output.writeAll, Output.writeAll, Output.writeAll, List.foldl_append]

/-! ## When the exporter looks -/

/-- What holds from the start on: nothing is seen before it is published, and the exporter ends
    after the monitor. -/
structure Regular (s : Following) : Prop where
  seen : s.exporter.reader.seen ≤ s.monitor.published.count
  closed : s.phase = .ended → s.closed = true

theorem regular_start (m : Monitor) (output : Output) : (start m output).Regular :=
  ⟨Nat.le_refl _, nofun⟩

theorem Regular.step? {a : Action} (hs : s.Regular) (h : s.step? a = some s') : s'.Regular := by
  cases a with
  | perform operation =>
    obtain ⟨-, rfl⟩ := step?_perform h
    exact ⟨Nat.le_trans hs.seen (s.monitor.count_le_perform operation), hs.closed⟩
  | close =>
    rw [step?_close h]
    exact ⟨hs.seen, fun _ => rfl⟩
  | wake =>
    obtain ⟨-, -, rfl⟩ := step?_wake h
    exact ⟨Nat.le_refl _, nofun⟩
  | look =>
    obtain ⟨-, rfl⟩ := step?_look h
    refine ⟨Nat.le_refl _, fun hended => ?_⟩
    simp only [looked] at hended
    cases hlatest : (s.exporter.reader.look s.monitor.published).1 <;> simp [hlatest] at hended
  | write =>
    obtain ⟨snapshot, -, rfl⟩ := step?_write h
    exact ⟨hs.seen, nofun⟩
  | finish =>
    obtain ⟨-, hclosed, -, rfl⟩ := step?_finish h
    exact ⟨hs.seen, fun _ => hclosed⟩

theorem Regular.run? (hs : s.Regular) (h : s.run? actions = some s') : s'.Regular := by
  induction actions generalizing s with
  | nil =>
    cases h
    exact hs
  | cons a rest ih =>
    obtain ⟨t, hstep, hrest⟩ := run?_cons h
    exact ih (hs.step? hstep) hrest

/-- The exporter has a graph to look at and will not end before it did. -/
def Due (s : Following) : Prop := s.phase = .awake ∨ (s.HasNews ∧ s.phase ≠ .ended)

/-- After a cycle the exporter is to look. -/
theorem Regular.due_cycle {flashlists : List Flashlist} {time : UInt64} (hs : s.Regular)
    (h : s.step? (.perform (.cycle flashlists time)) = some s') : s'.Due := by
  obtain ⟨hopen, rfl⟩ := step?_perform h
  refine .inr ⟨?_, fun hended => ?_⟩
  · -- The cycle counts one more than was ever seen.
    have hseen := hs.seen
    simp only [HasNews, Reader.hasNews, Monitor.published_cycle, Publication.publish,
      decide_eq_true_eq]
    omega
  · rw [hs.closed hended] at hopen
    cases hopen

theorem Due.step? {a : Action} (hs : s.Due) (h : s.step? a = some s')
    (ha : looksFirst [a] = false) : s'.Due := by
  cases a with
  | perform operation =>
    obtain ⟨-, rfl⟩ := step?_perform h
    rcases hs with hawake | ⟨hnews, hphase⟩
    · exact .inl hawake
    · -- What was unseen stays unseen when the monitor goes on.
      have hcount := s.monitor.count_le_perform operation
      refine .inr ⟨?_, hphase⟩
      simp only [HasNews, Reader.hasNews, decide_eq_true_eq] at hnews ⊢
      omega
  | close =>
    rw [step?_close h]
    exact hs
  | wake =>
    obtain ⟨-, -, rfl⟩ := step?_wake h
    exact .inl rfl
  | look => cases ha
  | write =>
    obtain ⟨snapshot, hphase, rfl⟩ := step?_write h
    rcases hs with hawake | ⟨hnews, -⟩
    · rw [hphase] at hawake
      cases hawake
    · refine .inr ⟨hnews, fun hended => ?_⟩
      cases hended
  | finish =>
    obtain ⟨hphase, -, hnone, rfl⟩ := step?_finish h
    rcases hs with hawake | ⟨hnews, -⟩
    · rw [hphase] at hawake
      cases hawake
    · exact absurd hnews hnone

/-- Before it ends the exporter looks at the last graph. -/
theorem Due.looksFirst (hs : s.Due) (h : s.run? actions = some s') (hended : s'.phase = .ended)
    (htimes : timesOf actions = []) : Following.looksFirst actions = true := by
  induction actions generalizing s with
  | nil =>
    cases h
    rcases hs with hawake | ⟨-, hphase⟩
    · rw [hended] at hawake
      cases hawake
    · exact absurd hended hphase
  | cons a rest ih =>
    obtain ⟨t, hstep, hrest⟩ := run?_cons h
    cases a with
    | perform operation =>
      cases operation with
      | cycle flashlists time => cases htimes
      | _ => exact ih (hs.step? hstep rfl) hrest htimes
    | look => rfl
    | _ => exact ih (hs.step? hstep rfl) hrest htimes

/-- The exporter has seen everything and is not about to look. -/
def Idle (s : Following) : Prop := (s.phase = .waiting ∨ s.phase = .ended) ∧ ¬ s.HasNews

theorem idle_start (m : Monitor) (output : Output) : (start m output).Idle :=
  ⟨.inl rfl, by simp [HasNews, start, Exporter.follow]⟩

theorem Idle.step?_look (hs : s.Idle) : s.step? .look = none := by
  refine if_neg fun hawake => ?_
  rcases hs.1 with hphase | hphase <;> cases hawake.symm.trans hphase

theorem Idle.step? {a : Action} (hs : s.Idle) (h : s.step? a = some s') (ha : a.time? = none) :
    s'.Idle := by
  -- Of the steps of the exporter only the last can be made, and it ends.
  cases a with
  | perform operation =>
    obtain ⟨-, rfl⟩ := step?_perform h
    refine ⟨hs.1, ?_⟩
    rw [HasNews, s.monitor.published_perform ha]
    exact hs.2
  | close =>
    rw [step?_close h]
    exact hs
  | wake => exact absurd (step?_wake h).2.1 hs.2
  | look =>
    rw [hs.step?_look] at h
    cases h
  | write =>
    obtain ⟨snapshot, hwriting, -⟩ := step?_write h
    rcases hs.1 with hphase | hphase <;> cases hwriting.symm.trans hphase
  | finish =>
    obtain ⟨-, -, -, rfl⟩ := step?_finish h
    exact ⟨.inr rfl, hs.2⟩

/-- An exporter that has seen everything does not look before the next cycle. -/
theorem Idle.looksFirst (hs : s.Idle) (h : s.run? actions = some s') :
    Following.looksFirst actions = false := by
  induction actions generalizing s with
  | nil => rfl
  | cons a rest ih =>
    obtain ⟨t, hstep, hrest⟩ := run?_cons h
    cases a with
    | perform operation =>
      cases operation with
      | cycle flashlists time => rfl
      | _ => exact ih (hs.step? hstep rfl) hrest
    | look =>
      rw [hs.step?_look] at hstep
      cases hstep
    | _ => exact ih (hs.step? hstep rfl) hrest

/-! ## Runs to the end -/

/-- The exporter can come to its end without the monitor. -/
def CanEnd (s : Following) : Prop :=
  ∃ rest s', operationsOf rest = [] ∧ s.run? rest = some s' ∧ s'.phase = .ended

theorem CanEnd.of_step? {a : Action} (h : s.step? a = some s') (ha : a.operation? = none)
    (hs' : s'.CanEnd) : s.CanEnd := by
  obtain ⟨rest, t, hquiet, hrun, hended⟩ := hs'
  refine ⟨a :: rest, t, (List.filterMap_cons_none ha).trans hquiet, ?_, hended⟩
  rw [run?, List.foldlM_cons, h]
  exact hrun

theorem canEnd_of_waiting (hclosed : s.closed = true) (hphase : s.phase = .waiting)
    (hnone : ¬ s.HasNews) : s.CanEnd := by
  have hfinish : s.step? .finish = some { s with phase := .ended } :=
    if_pos ⟨hphase, hclosed, hnone⟩
  exact .of_step? hfinish rfl ⟨[], _, rfl, rfl, rfl⟩

theorem canEnd_of_awake (hclosed : s.closed = true) (hphase : s.phase = .awake) : s.CanEnd := by
  have hlook : s.step? .look = some s.looked := if_pos hphase
  refine .of_step? hlook rfl ?_
  -- What the exporter looks at is the last that it sees, as the monitor is closed.
  have hnone : ¬ s.looked.HasNews := by simp [HasNews, looked, Reader.look]
  cases hlatest : s.monitor.latest with
  | none =>
    have hnewest : s.monitor.published.newest = none := hlatest
    refine canEnd_of_waiting hclosed ?_ hnone
    simp only [looked, Reader.look, hnewest, Option.map_none, Option.getD_none]
  | some g =>
    rw [looked_of_latest hlatest] at hnone ⊢
    exact .of_step? (a := .write) rfl rfl (canEnd_of_waiting hclosed rfl hnone)

/-- When the monitor is closed, the exporter comes to its end. -/
theorem canEnd (hclosed : s.closed = true) : s.CanEnd := by
  have hwaiting : ∀ t : Following, t.closed = true → t.phase = .waiting → t.CanEnd := by
    intro t hclosed hphase
    by_cases hnews : t.HasNews
    · have hwake : t.step? .wake = some t.woken := if_pos ⟨hphase, hnews⟩
      exact .of_step? hwake rfl (canEnd_of_awake hclosed rfl)
    · exact canEnd_of_waiting hclosed hphase hnews
  cases hphase : s.phase with
  | waiting => exact hwaiting s hclosed hphase
  | awake => exact canEnd_of_awake hclosed hphase
  | writing snapshot =>
    have hwrite : s.step? .write = some (s.written snapshot) := by simp only [step?, hphase]
    exact .of_step? hwrite rfl (hwaiting _ hclosed rfl)
  | ended => exact ⟨[], s, rfl, rfl, hphase⟩

section Ended

variable {m : Monitor} {files : SortedMap String String}

theorem lastUpdate_of_mem_taken {output : Output} {g : Graph}
    (hrun : (start m output).run? actions = some s) (hg : g ∈ taken m actions) :
    g.run.lastUpdate ∈ timesOf actions := by
  refine (mem_taken hg).resolve_left fun ⟨_, hlooks⟩ => ?_
  rw [(idle_start m output).looksFirst hrun] at hlooks
  cases hlooks

theorem output_of_ended {output : Output} (hrun : (start m output).run? actions = some s)
    (hended : s.phase = .ended) :
    s.exporter.output = output.writeAll ((taken m actions).map Snapshot.ofGraph) := by
  rw [← settled_of_phase (s := s) (by simp [hended]), settled_run? hrun]
  rfl

theorem timesOf_cycle (before after : List Action) (flashlists : List Flashlist) (time : UInt64) :
    timesOf (before ++ .perform (.cycle flashlists time) :: after)
      = timesOf before ++ time :: timesOf after := List.filterMap_append

/-- Of the graphs with the time of a cycle only its own is taken up, and that if the exporter looks
    before the next cycle. -/
theorem mem_taken_of_cycle {before after : List Action} {flashlists : List Flashlist}
    {time : UInt64} {output : Output} {g : Graph}
    (hrun : (start m output).run? (before ++ .perform (.cycle flashlists time) :: after) = some s)
    (htimes : (timesOf (before ++ .perform (.cycle flashlists time) :: after)).Nodup)
    (hg : g.run.lastUpdate = time) :
    g ∈ taken m (before ++ .perform (.cycle flashlists time) :: after) ↔
      g = ((m.performAll (operationsOf before)).runCycle flashlists time).1.graph ∧
        looksFirst after = true := by
  obtain ⟨t, hbefore, -⟩ := run?_append hrun
  rw [timesOf_cycle, List.nodup_append, List.nodup_cons] at htimes
  obtain ⟨-, ⟨hlater, -⟩, hearlier⟩ := htimes
  rw [taken_append, taken, List.mem_append]
  constructor
  · rintro (hmem | hmem)
    · -- What was taken up before the cycle has the time of an earlier one.
      have htime := lastUpdate_of_mem_taken hbefore hmem
      exact absurd hg (hearlier _ htime _ List.mem_cons_self)
    · rcases mem_taken hmem with ⟨hlatest, hlooks⟩ | htime
      · rw [Monitor.latest_cycle] at hlatest
        exact ⟨(Option.some.inj hlatest).symm, hlooks⟩
      · rw [hg] at htime
        exact absurd htime hlater
  · rintro ⟨rfl, hlooks⟩
    exact .inr (mem_taken_of_looksFirst (Monitor.latest_cycle _ flashlists time) hlooks)

/-- The file of a cycle has the graph of the cycle, if that was taken up. -/
theorem file?_of_cycle {before after : List Action} {flashlists : List Flashlist} {time : UInt64}
    {output : Output}
    (hrun : (start m output).run? (before ++ .perform (.cycle flashlists time) :: after) = some s)
    (htimes : (timesOf (before ++ .perform (.cycle flashlists time) :: after)).Nodup) :
    let g := ((m.performAll (operationsOf before)).runCycle flashlists time).1.graph
    let graphs := taken m (before ++ .perform (.cycle flashlists time) :: after)
    ((Output.folder files).writeAll (graphs.map Snapshot.ofGraph)).file? (Snapshot.nameAt time)
      = if looksFirst after then some g.toJson.indent else files.find? (Snapshot.nameAt time) := by
  intro g graphs
  have hsame : ∀ h : Graph, (Snapshot.ofGraph h).name = Snapshot.nameAt time →
      (h ∈ graphs ↔ h = g ∧ looksFirst after = true) :=
    fun h hname => mem_taken_of_cycle hrun htimes (Snapshot.nameAt_inj.1 hname)
  rw [Output.file?_writeAll g.toJson.indent]
  · refine if_congr ?_ rfl rfl
    simp only [List.map_map, List.mem_map, Function.comp_apply]
    constructor
    · rintro ⟨h, hmem, hname⟩
      exact ((hsame h hname).1 hmem).2
    · exact fun hlooks => ⟨g, (hsame g rfl).2 ⟨rfl, hlooks⟩, rfl⟩
  · simp only [List.mem_map]
    rintro _ ⟨h, hmem, rfl⟩ hname
    rw [((hsame h hname).1 hmem).1]
    rfl

/-- A file that is named for no cycle stays as it is. -/
theorem file?_of_no_cycle {output : Output} {name : String}
    (hrun : (start m output).run? actions = some s)
    (hname : ∀ time ∈ timesOf actions, Snapshot.nameAt time ≠ name) :
    ((Output.folder files).writeAll ((taken m actions).map Snapshot.ofGraph)).file? name
      = files.find? name := by
  have hnone : ∀ snapshot ∈ (taken m actions).map Snapshot.ofGraph, snapshot.name ≠ name := by
    simp only [List.mem_map]
    rintro _ ⟨g, hmem, rfl⟩
    exact hname _ (lastUpdate_of_mem_taken hrun hmem)
  rw [Output.file?_writeAll "" fun snapshot hmem heq => absurd heq (hnone snapshot hmem), if_neg]
  intro hmem
  obtain ⟨snapshot, hsnapshot, heq⟩ := List.mem_map.1 hmem
  exact hnone snapshot hsnapshot heq

/-- Before its end the exporter looks at the graph of the last cycle. -/
theorem looksFirst_of_last {before after : List Action} {flashlists : List Flashlist}
    {time : UInt64} {output : Output}
    (hrun : (start m output).run? (before ++ .perform (.cycle flashlists time) :: after) = some s)
    (hended : s.phase = .ended) (hlast : timesOf after = []) : looksFirst after = true := by
  obtain ⟨t, hbefore, hrest⟩ := run?_append hrun
  obtain ⟨t', hcycle, hafter⟩ := run?_cons hrest
  have hregular := (regular_start m output).run? hbefore
  exact (hregular.due_cycle hcycle).looksFirst hafter hended hlast

/-- At its end the exporter has written the graph of a cycle exactly if it looked before the next
    cycle, as it does after the last one; and it has written nothing else. -/
theorem file?_of_ended (hrun : (start m (.folder files)).run? actions = some s)
    (hended : s.phase = .ended) (htimes : (timesOf actions).Nodup) :
    (∀ before flashlists time after,
      actions = before ++ .perform (.cycle flashlists time) :: after →
        let g := ((m.performAll (operationsOf before)).runCycle flashlists time).1.graph
        s.exporter.output.file? (Snapshot.nameAt time)
            = (if looksFirst after then some g.toJson.indent
                else files.find? (Snapshot.nameAt time)) ∧
          (timesOf after = [] → looksFirst after = true)) ∧
      ∀ name, (∀ time ∈ timesOf actions, Snapshot.nameAt time ≠ name) →
        s.exporter.output.file? name = files.find? name := by
  rw [output_of_ended hrun hended]
  refine ⟨?_, fun name hname => file?_of_no_cycle hrun hname⟩
  rintro before flashlists time after rfl g
  exact ⟨file?_of_cycle hrun htimes, looksFirst_of_last hrun hended⟩

/-- The exporter is woken by the first graph and takes up the second, which it writes when the third
    is there already. -/
theorem file?_of_ended_woken :
    let m : Monitor := { graph := { uid := ⟨1⟩ }, session := {} }
    let told : List Action :=
      [.perform (.cycle [] 1), .wake, .perform (.cycle [] 2), .look, .perform (.cycle [] 3), .close,
        .write, .wake, .look, .write, .finish]
    let content (operations : List Operation) : Option String :=
      (m.performAll operations).latest.map fun g => g.toJson.indent
    ∃ s, (start m (.folder ∅)).run? told = some s ∧ s.phase = .ended ∧ (timesOf told).Nodup ∧
      s.exporter.output.file? (Snapshot.nameAt 1) = none ∧
      s.exporter.output.file? (Snapshot.nameAt 2) = content [.cycle [] 1, .cycle [] 2] ∧
      s.exporter.output.file? (Snapshot.nameAt 3)
        = content [.cycle [] 1, .cycle [] 2, .cycle [] 3] := by
  intro m told content
  have hphase : ((start m (.folder ∅)).run? told).map (·.phase) = some .ended := by decide +kernel
  obtain ⟨s, hrun, hended⟩ := Option.map_eq_some_iff.1 hphase
  have htimes : (timesOf told).Nodup := by decide
  obtain ⟨hcycles, -⟩ := file?_of_ended hrun hended htimes
  refine ⟨s, hrun, hended, htimes, ?_, ?_, ?_⟩
  · exact (hcycles [] [] 1 _ rfl).1
  · exact (hcycles [.perform (.cycle [] 1), .wake] [] 2 _ rfl).1
  · exact (hcycles [.perform (.cycle [] 1), .wake, .perform (.cycle [] 2), .look] [] 3 _ rfl).1

/-- Of two cycles before the exporter looks the first leaves no file. -/
theorem file?_of_ended_two_cycles :
    let m : Monitor := { graph := { uid := ⟨1⟩ }, session := {} }
    let told : List Action :=
      [.perform (.cycle [] 1), .perform (.cycle [] 2), .close, .wake, .look, .write, .finish]
    ∃ s, (start m (.folder ∅)).run? told = some s ∧ s.phase = .ended ∧ (timesOf told).Nodup ∧
      (m.perform (.cycle [] 1)).latest.isSome ∧
      s.exporter.output.file? "snapshot_1.json" = none := by
  intro m told
  have hlost : ((start m (.folder ∅)).run? told).map
      (fun s => (s.phase, s.exporter.output.file? "snapshot_1.json")) = some (.ended, none) := by
    decide +kernel
  obtain ⟨s, hrun, hs⟩ := Option.map_eq_some_iff.1 hlost
  obtain ⟨hended, hfile⟩ := Prod.mk.inj hs
  exact ⟨s, hrun, hended, by decide, rfl, hfile⟩

end Ended

end Following

end Service

end DaqMonitor
