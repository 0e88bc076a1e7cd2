/-
  DaqMonitor.Proofs.Cycle.Independence

  How tables get along with each other.

  Each table speaks about the topics of its kind, and so tables of kinds without a
  topic in common may change places. Of tables of one kind the later ones stand: a
  table before others has no effect where it comes again after them, unless the
  tables carry a running total.

    * `Table.speaks` — a table speaks about the topics of its kind.
    * `Table.settles` — what it says does not depend on what was there before.
    * `Table.absorb_of_kind_eq` — a table that comes again makes its first coming void.
-/
import DaqMonitor.Proofs.Cycle.Routes

namespace DaqMonitor

open Flashlist Matching

/-! ## The topics of a table -/

theorem Fed.tells_clearProblems : Tells .fed .ru Fed.clearProblems :=
  .of_sets (fun _ => rfl) fun t => by cases t <;> exact fun _ => rfl

theorem Effect.speaks_clearing (s : TargetSort) (n : Nat) :
    Speaks s (topics .ru) (Effect.clearing s n) := by
  cases s with
  | fed => exact Fed.tells_clearProblems.speaks
  | _ => exact .of_eq_self fun _ => rfl

theorem Effect.settles_clearing (s : TargetSort) (n : Nat) :
    Settles s (topics .ru) (Effect.clearing s n) := by
  cases s with
  | fed => exact Fed.tells_clearProblems.settles rfl
  | _ => exact .of_eq_self fun _ => rfl

section Routes

variable (session : Session) (g : Graph) (kind : Kind) (rows : List Row)

theorem Effect.speaks_gives (matches? : Option (List RowMatch)) (s : TargetSort) (n : Nat) :
    Speaks s (topics kind) (Route.gives kind rows matches? s n) := by
  cases matches? with
  | none => exact .of_eq_self fun _ => rfl
  | some ms => exact TargetSort.take_speaks _

theorem Effect.settles_gives (htotal : carriesTotal kind = false)
    (matches? : Option (List RowMatch)) (s : TargetSort) (n : Nat) :
    Settles s (topics kind) (Route.gives kind rows matches? s n) := by
  cases matches? with
  | none => exact .of_eq_self fun _ => rfl
  | some ms => exact TargetSort.take_settles htotal _

end Routes

/-! ## Channels -/

/-- Of three optional values, each standing over those after it, the third is void where it is the
    first. -/
theorem or_absorb {α : Type} (x y z : Option α) : x.or (y.or (x.or z)) = x.or (y.or z) := by
  cases x <;> cases y <;> rfl

theorem or_again {α : Type} (x z : Option α) : x.or (x.or z) = x.or z := by
  cases x <;> rfl

section Channels

variable (service context : String) (rows : List Row)

/-- The partition with new states from its channels, where there are any. -/
def TtcPartition.withStates (own emulator : Option String) (p : TtcPartition) : TtcPartition :=
  { p with
    tcdsPmTtsState := own.or p.tcdsPmTtsState
    tcdsApvPmTtsState := emulator.or p.tcdsApvPmTtsState }

@[simp] theorem TtcPartition.reset_withStates (own emulator : Option String) (p : TtcPartition) :
    (p.withStates own emulator).reset = p.reset := rfl

/-- Which states a partition gets from its channels is fixed. -/
theorem partitionAfter_cases (channels : Channels) (b : TtcPartition) :
    ∃ own emulator : Option String, ∀ p : TtcPartition, p.reset = b →
      (partitionAfter channels service p).value = p.withStates own emulator := by
  have htcds : ∀ p : TtcPartition, p.reset = b → p.tcds = b.tcds := by
    rintro p rfl
    rfl
  -- A cause for a null stands as the state of both channels; an error leaves both as they are.
  cases hcause : b.tcds.nullCause with
  | some cause =>
    refine ⟨some cause, some cause, fun p hp => ?_⟩
    simp only [partitionAfter, htcds p hp, hcause, TtcPartition.withStates, Option.some_or]
  | none =>
    cases hown : readChannel? readTtsState
        (channels.at? (.make service partitionType b.tcds.pmNumber b.tcds.iciNumber)) with
    | error error =>
      refine ⟨none, none, fun p hp => ?_⟩
      simp only [partitionAfter, htcds p hp, hcause, hown, TtcPartition.withStates, Option.none_or]
      rw [← htcds p hp]
    | ok own =>
      cases hemulator : readChannel? readEmulatorState
          (channels.at? (.make service emulatorType b.tcds.pmNumber b.tcds.iciNumber)) with
      | error error =>
        refine ⟨none, none, fun p hp => ?_⟩
        simp only [partitionAfter, htcds p hp, hcause, hown, hemulator,
          TtcPartition.withStates, Option.none_or]
        rw [← htcds p hp]
      | ok emulator =>
        refine ⟨own, emulator, fun p hp => ?_⟩
        simp only [partitionAfter, htcds p hp, hcause, hown, hemulator, TtcPartition.withStates]

/-- The states of channels are a topic of their own. -/
theorem Effect.speaks_channels (s : TargetSort) (n : Nat) :
    Speaks s [.channels] (Effect.channels service context rows s n) := by
  cases s with
  | ttcPartition =>
    refine ⟨fun p => partitionAfter_fixed _ service p, fun t ht p => ?_, fun t ht p p' hfixed hown => ?_⟩
    · obtain ⟨own, emulator, hafter⟩ := partitionAfter_cases service (Channels.ofRows rows) p.reset
      simp only [channels, hafter p rfl]
      cases t <;> first | rfl | exact absurd (List.mem_singleton_self _) ht
    · obtain ⟨own, emulator, hafter⟩ := partitionAfter_cases service (Channels.ofRows rows) p.reset
      obtain rfl : t = .channels := List.mem_singleton.1 ht
      have hstates := hown .channels ht
      simp only [channels, hafter p rfl, hafter p' hfixed.symm]
      simp_all [TargetSort.part, TtcPartition.part, TtcPartition.withStates]
  | tcds =>
    refine ⟨fun _ => rfl, fun t ht tcds => ?_, fun t ht tcds tcds' _ hown => ?_⟩
    · cases t <;> first | rfl | exact absurd (List.mem_singleton_self _) ht
    · obtain rfl : t = .channels := List.mem_singleton.1 ht
      have hstates := hown .channels ht
      simp_all [TargetSort.part, TcdsInfo.part, channels]
  | _ => exact .of_eq_self fun _ => rfl

/-- Of three tables of channels the first is void for a partition where it is the third as well. -/
theorem partitionAfter_absorb (a b : Channels) (serviceA serviceB : String) (p : TtcPartition) :
    (partitionAfter a serviceA
        (partitionAfter b serviceB (partitionAfter a serviceA p).value).value).value
      = (partitionAfter a serviceA (partitionAfter b serviceB p).value).value := by
  obtain ⟨own, emulator, ha⟩ := partitionAfter_cases serviceA a p.reset
  obtain ⟨own', emulator', hb⟩ := partitionAfter_cases serviceB b p.reset
  rw [ha p rfl, hb p rfl, hb (p.withStates own emulator) rfl, ha (p.withStates own' emulator') rfl,
    ha ((p.withStates own emulator).withStates own' emulator') rfl]
  simp only [TtcPartition.withStates, or_absorb]

theorem partitionAfter_again (a : Channels) (p : TtcPartition) :
    (partitionAfter a service (partitionAfter a service p).value).value
      = (partitionAfter a service p).value := by
  obtain ⟨own, emulator, ha⟩ := partitionAfter_cases service a p.reset
  rw [ha p rfl, ha (p.withStates own emulator) rfl]
  simp only [TtcPartition.withStates, or_again]

theorem takeOutputs_absorb (a b : List (String × TtsPart (Option GlobalTtsState)))
    (states : SortedMap String GlobalTtsState) :
    takeOutputs (takeOutputs (takeOutputs states a) b) a = takeOutputs (takeOutputs states b) a := by
  apply SortedMap.ext_find?
  intro type
  simp only [find?_takeOutputs, or_absorb]

theorem takeOutputs_again (a : List (String × TtsPart (Option GlobalTtsState)))
    (states : SortedMap String GlobalTtsState) :
    takeOutputs (takeOutputs states a) a = takeOutputs states a := by
  apply SortedMap.ext_find?
  intro type
  simp only [find?_takeOutputs, or_again]

/-- Of three tables of channels the first is void where it is the third as well. -/
theorem Effect.channels_absorb (service' context' : String) (rows' : List Row) (s : TargetSort)
    (n : Nat) (e : s.Entity) :
    Effect.channels service context rows s n
        (Effect.channels service' context' rows' s n (Effect.channels service context rows s n e))
      = Effect.channels service context rows s n (Effect.channels service' context' rows' s n e) := by
  cases s with
  | ttcPartition => exact partitionAfter_absorb _ _ service service' e
  | tcds => simp only [channels, takeOutputs_absorb]
  | _ => rfl

theorem Effect.channels_again (s : TargetSort) (n : Nat) (e : s.Entity) :
    Effect.channels service context rows s n (Effect.channels service context rows s n e)
      = Effect.channels service context rows s n e := by
  cases s with
  | ttcPartition => exact partitionAfter_again service _ e
  | tcds => simp only [channels, takeOutputs_again]
  | _ => rfl

end Channels

/-! ## Whole tables -/

section Tables

variable (session : Session) (g : Graph) (kind : Kind) (rows : List Row)

theorem Route.speaks_effect {r : Route} (hplan : r ∈ plan kind) (s : TargetSort) (n : Nat) :
    Speaks s (topics kind) (r.effect session g kind rows s n) := by
  refine r.effect_induction session kind rows g (P := fun E => Speaks s (topics kind) (E s n)) ?_ ?_ ?_
  · exact fun matches? => Effect.speaks_gives kind rows matches? s n
  · rintro rfl matches?
    obtain rfl := kind_of_problemLists_mem_plan hplan
    exact (Effect.speaks_clearing s n).comp (Effect.speaks_gives .ru rows matches? s n)
  · rintro rfl service context
    obtain rfl := kind_of_ttsChannels_mem_plan hplan
    exact Effect.speaks_channels service context rows s n

/-- A table speaks about the topics of its kind. -/
theorem Table.speaks (s : TargetSort) (n : Nat) :
    Speaks s (topics kind) (Table.effect session g kind rows s n) := by
  -- The induction is over any of the routes of the plan, which itself is fixed.
  have hroutes : ∀ routes : List Route, (∀ r ∈ routes, r ∈ plan kind) →
      Speaks s (topics kind) (Table.effectOn session g kind rows routes s n) := by
    intro routes
    induction routes with
    | nil => exact fun _ => .of_eq_self fun _ => rfl
    | cons r routes ih =>
      intro hplan
      have hr := Route.speaks_effect session g kind rows (hplan r List.mem_cons_self) s n
      exact hr.comp (ih fun r' hr' => hplan r' (List.mem_cons_of_mem r hr'))
  exact hroutes (plan kind) fun _ hr => hr

/-- Only tables with values of the run change the session. -/
theorem Table.sessionId_effect {kind : Kind} (hkind : kind ≠ .levelZeroDynamic) (g h : Graph) :
    (h.apply (Table.effect session g kind rows)).sessionId = h.sessionId := by
  have htopics : .runValues ∉ topics kind := by
    cases kind <;> first | decide | exact absurd rfl hkind
  have hpart := (Table.speaks session g kind rows .run 0).others .runValues htopics h.run
  have hsession := congrArg RunInfo.sessionId hpart
  exact hsession

/-- A table without running totals and channels settles its topics. -/
theorem Table.settles (htotal : carriesTotal kind = false) (hchannels : kind ≠ .tcdsTtsChannels)
    (s : TargetSort) (n : Nat) :
    Settles s (topics kind) (Table.effect session g kind rows s n) := by
  have hroute : ∀ r ∈ plan kind, Settles s (topics kind) (r.effect session g kind rows s n) := by
    intro r hplan
    refine r.effect_induction session kind rows g (P := fun E => Settles s (topics kind) (E s n))
      ?_ ?_ ?_
    · exact fun matches? => Effect.settles_gives kind rows htotal matches? s n
    · rintro rfl matches?
      obtain rfl := kind_of_problemLists_mem_plan hplan
      exact (Effect.settles_clearing s n).comp (Effect.settles_gives .ru rows htotal matches? s n)
        (Effect.speaks_clearing s n)
    · -- The states of channels are kept where the table has none.
      rintro rfl
      exact absurd (kind_of_ttsChannels_mem_plan hplan) hchannels
  have hroutes : ∀ routes : List Route, (∀ r ∈ routes, r ∈ plan kind) →
      Settles s (topics kind) (Table.effectOn session g kind rows routes s n) := by
    intro routes
    induction routes with
    | nil => exact fun _ => .of_eq_self fun _ => rfl
    | cons r routes ih =>
      intro hplan
      have hr := hplan r List.mem_cons_self
      exact (hroute r hr).comp (ih fun r' hr' => hplan r' (List.mem_cons_of_mem r hr'))
        (Route.speaks_effect session g kind rows hr s n)
  exact hroutes (plan kind) fun _ hr => hr

/-- A table with running totals gives rows, on a single route. -/
theorem Table.effect_of_carriesTotal (htotal : carriesTotal kind = true) :
    ∃ matches?, Table.effect session g kind rows = Route.gives kind rows matches? := by
  cases kind with
  | ferolInputStream =>
    exact ⟨(Route.position .fedOnFerolStream).matches? session g rows, rfl⟩
  | ferol40InputStream =>
    exact ⟨(Route.position .fedOnFerol40Stream).matches? session g rows, rfl⟩
  | _ => exact absurd htotal (by decide)

/-- A table of channels takes up states, if the session has a TCDS partition manager. -/
theorem Table.effect_channels :
    Table.effect session g .tcdsTtsChannels rows = .none ∨ ∃ service context,
      Table.effect session g .tcdsTtsChannels rows = .channels service context rows := by
  unfold Table.effect Table.effectOn plan
  simp only [List.foldr_cons, List.foldr_nil, Route.effect]
  cases session.tcds? with
  | none => exact .inl rfl
  | some tcds => exact .inr ⟨tcds.1, tcds.2, rfl⟩

theorem Table.again (s : TargetSort) (n : Nat) (e : s.Entity) :
    Table.effect session g kind rows s n (Table.effect session g kind rows s n e)
      = Table.effect session g kind rows s n e := by
  by_cases hchannels : kind = .tcdsTtsChannels
  · subst hchannels
    rcases Table.effect_channels session g rows with hnone | ⟨service, context, hsome⟩
    · rw [hnone]
      rfl
    · rw [hsome, Effect.channels_again]
  · cases htotal : carriesTotal kind with
    | false =>
      have hnothing : Settles s [] (id : s.Entity → s.Entity) := .of_eq_self fun _ => rfl
      have hsettles := Table.settles session g kind rows htotal hchannels s n
      exact hsettles.absorb hnothing
        (Table.speaks session g kind rows s n) (.of_eq_self fun _ => rfl) e
    | true =>
      obtain ⟨matches?, heffect⟩ := Table.effect_of_carriesTotal session g kind rows htotal
      rw [heffect]
      cases matches? with
      | none => rfl
      | some ms => exact TargetSort.take_take _ e

/-- Of tables of one kind without running totals the first has no effect where it comes again. -/
theorem Table.absorb_of_kind_eq (htotal : carriesTotal kind = false) (rows' : List Row)
    (s : TargetSort) (n : Nat) (e : s.Entity) :
    Table.effect session g kind rows s n
        (Table.effect session g kind rows' s n (Table.effect session g kind rows s n e))
      = Table.effect session g kind rows s n (Table.effect session g kind rows' s n e) := by
  by_cases hchannels : kind = .tcdsTtsChannels
  · subst hchannels
    rcases Table.effect_channels session g rows with hnone | ⟨service, context, hsome⟩
    · rw [hnone]
      rfl
    · rcases Table.effect_channels session g rows' with hnone' | ⟨service', context', hsome'⟩
      · rw [hnone', hsome]
        exact Effect.channels_again service context rows s n e
      · rw [hsome, hsome', Effect.channels_absorb]
  · exact (Table.settles session g kind rows htotal hchannels s n).absorb
      (Table.settles session g kind rows' htotal hchannels s n)
      (Table.speaks session g kind rows s n) (Table.speaks session g kind rows' s n) e

end Tables

end DaqMonitor
