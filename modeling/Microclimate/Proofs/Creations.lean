import Microclimate.Proofs.Decisions
import Microclimate.Proofs.Waiting

/-!
# Weather that fails to start

When the weather of a zone is started, the new cycle is entered in the register before its weather
is rolled for the first time. The roll may fail, for the clock need not show a day and a source may
refuse to be drawn from. One would like such a cycle to be gone again, and it is not: **it keeps
running**, at the beginning of its interval and with an intensity of zero, and it has taken the
place of the cycle that ran in the zone before.

Nothing else is lost. All other cycles run as before, in the same order. And a zone that is no key
is found out before there is any cycle.

* `Microclimate.CycleId.regenerate_stalls` – what is left of a roll of fine weather that fails;
* `Microclimate.World.Stalls` – a cycle was started, and that is all that came of it;
* `Microclimate.Manager.ends_add_stalls` – starting the weather of a zone, and what a failure
  leaves behind;
* `Microclimate.ManagerCommand.Starts` – the commands by which weather is started;
* `Microclimate.Reachable.start_fails` – **what a failing command to start weather leaves behind.**
-/

namespace Microclimate

variable {γ : Type}

/-! ### Rolls of fine weather that fail -/

theorem World.aside_cycles : Aside fun w : World γ => w.cycles where
  emit _ _ := rfl
  dispatch _ _ _ _ := rfl
  setSource _ owner _ := by cases owner <;> rfl
  countCall _ _ := rfl

/-- **A cycle lingers** in the state of a roll that went nowhere: it is what it was, but for its
kind, and has no intensity. -/
def World.Lingers (id : CycleId) (w w' : World γ) : Prop :=
  ∃ kind, w'.cycle id = (w.cycle id).withWeather kind 0.0

/-- Fine weather of no intensity lingers while no cycle changes. -/
theorem World.Lingers.of_cycles {id : CycleId} {w w' : World γ}
    (clear : w.cycle id = (w.cycle id).withWeather .fine 0.0) (same : w'.cycles = w.cycles) :
    Lingers id w w' :=
  ⟨.fine, (World.cycle_congr same id).trans clear⟩

theorem Sim.dayOfYear_same : (dayOfYear : Sim γ Int).Keeps (.same fun w => w.cycles) := by
  intro w
  rw [ends_dayOfYear]
  cases w.clock.dayOfYear <;> exact rfl

variable [RandomSource γ]

theorem Sim.integer_same (low high : Int) :
    (integer low high : Sim γ Int).Keeps (.same fun w => w.cycles) :=
  .bind .get fun _ => World.aside_cycles.draw _ _ _

theorem HalfNormal.draw_same : (draw : Sim γ Float).Keeps (.same fun w => w.cycles) :=
  draw_keeps (fun _ _ => .bind .get fun _ => World.aside_cycles.draw _ _ _) fun _ => rfl

namespace CycleId

variable {id : CycleId} {w : World γ}

/-- Where selecting new weather fails, nothing but a kind has been selected. -/
theorem selectWeather_stalls (known : id.number < w.cycles.size)
    (clear : w.cycle id = (w.cycle id).withWeather .fine 0.0) (chances : Chances)
    (radical : Bool) :
    (id.selectWeather chances radical).Ends w (fun _ _ => True) fun _ w' => w.Lingers id w' := by
  rw [selectWeather, Sim.ends_bind]
  refine (Sim.integer_same 1 100 w).mono (fun r w₁ (same : w₁.cycles = w.cycles) => ?_)
    fun _ _ same => .of_cycles clear same
  -- from here on the kind is the selected one, and the intensity is drawn last
  let w₂ := w₁.editCycle id fun c => { c with kind := chances.select r }
  have selected : w₂.cycle id = (w.cycle id).withWeather (chances.select r) 0.0 := by
    have there : id.number < w₁.cycles.size := by rwa [same]
    rw [w₁.cycle_editCycle there, World.cycle_congr same, clear]
    rfl
  rw [Sim.ends_bind, Sim.ends_editCycle, Sim.ends_ite, Sim.ends_bind]
  split
  · exact trivial
  · have drawing := newIntensity_keeps_of (Sim.integer_same 0 99) HalfNormal.draw_same radical w₂
    exact drawing.mono (fun _ _ _ => trivial) fun _ _ same =>
      ⟨_, (World.cycle_congr same id).trans selected⟩

/-- Fine weather does not change but by selecting new weather. -/
theorem changeWeather_of_clear (known : id.number < w.cycles.size)
    (clear : w.cycle id = (w.cycle id).withWeather .fine 0.0) (roll : Int) :
    (id.changeWeather roll).Ends w
      (fun done w' => done = false ∧ w'.cycles.size = w.cycles.size ∧ w'.cycle id = w.cycle id)
      fun _ _ => False := by
  have fine : (w.cycle id).kind = .fine := by
    rw [clear]
    rfl
  refine (changeWeather_fine known fine roll).mono ?_ fun _ _ never => never
  rintro done w' ⟨undone, rfl | rfl⟩
  · exact ⟨undone, rfl, rfl⟩
  -- the weather is set to what it is
  · exact ⟨undone, by simp, (w.cycle_editCycle known _).trans clear.symm⟩

/-- **What is left of a roll of fine weather that fails**: at most a kind was selected, at an
intensity of zero. -/
theorem regenerate_stalls (known : id.number < w.cycles.size)
    (clear : w.cycle id = (w.cycle id).withWeather .fine 0.0) :
    id.regenerate.Ends w (fun _ _ => True) fun _ w' => w.Lingers id w' := by
  cases chances : (w.cycle id).table with
  | none => exact (ends_regenerate_of_none chances).2 trivial
  | some table =>
    rw [ends_regenerate chances]
    refine (Sim.integer_same 0 99 w).mono (fun roll w₁ same => ?_) fun _ _ same =>
      .of_cycles clear same
    split
    · exact trivial
    refine (Sim.dayOfYear_same.ends_trans same).mono
      (fun day w₂ (same : w₂.cycles = w.cycles) => ?_)
      fun _ _ same => .of_cycles clear same
    have noted : (w₂.emit (.logged (.generating (.ofDay day) (w.cycle id).zone))).cycle id =
        w.cycle id := World.cycle_congr same id
    have there : id.number <
        (w₂.emit (.logged (.generating (.ofDay day) (w.cycle id).zone))).cycles.size := by
      change id.number < w₂.cycles.size
      rwa [same]
    generalize w₂.emit _ = w₃ at noted there ⊢
    -- the present weather stays as it is, so it is the selection that may fail
    refine (changeWeather_of_clear there (noted.symm ▸ clear) roll).mono ?_
      fun _ _ never => never.elim
    rintro _ w₄ ⟨rfl, size, still⟩
    have now : w₄.cycle id = w.cycle id := still.trans noted
    rw [if_neg Bool.false_ne_true]
    have selecting := selectWeather_stalls (size.symm ▸ there) (now.symm ▸ clear)
      (table.chances (.ofDay day)) (90 ≤ roll)
    refine selecting.mono (fun _ _ _ => trivial) ?_
    rintro _ w' ⟨kind, left⟩
    rw [now] at left
    exact ⟨kind, left⟩

end CycleId

/-! ### Starting the weather of a zone -/

/-- **A cycle was started, and that is all that came of it**: it runs in its zone, in the place of
the one that ran there or after all others, at the beginning of its interval, with no more weather
than a kind. The cycles that were running are what they were. -/
structure World.Stalls (w : World γ) (zone : Value) (table : SeasonTable) (w' : World γ) :
    Prop where
  /-- The new cycle is entered in the register. -/
  live : w'.manager.live = w.manager.live.insert zone ⟨w.cycles.size⟩
  /-- It is a new entry, or it is the cycle of an old one. -/
  place :
    w.manager.find? zone = none ∧
        w'.manager.live.entries = w.manager.live.entries ++ [(zone, ⟨w.cycles.size⟩)] ∨
      ∃ before key old after,
        w.manager.live.entries = before ++ (key, old) :: after ∧ key.sameKey zone = true ∧
          w'.manager.live.entries = before ++ (key, ⟨w.cycles.size⟩) :: after
  /-- The zone has its weather from now on. -/
  found : w'.manager.find? zone = some ⟨w.cycles.size⟩
  /-- It has a kind, and an intensity of zero. -/
  new : ∃ kind, w'.cycle ⟨w.cycles.size⟩ =
    { zone := zone, table := some table, timer := { interval := w.manager.config.changeInterval },
      kind := kind, intensity := 0.0 }
  /-- All other cycles are what they were. -/
  others : ∀ e ∈ w.manager.live.entries, w'.cycle e.2 = w.cycle e.2

omit [RandomSource γ] in
/-- Writing under a key adds an entry at the end, or replaces the value of one. -/
theorem Table.entries_insert {α : Type} (t : Table α) (z : Value) (a : α) :
    t.find? z = none ∧ (t.insert z a).entries = t.entries ++ [(z, a)] ∨
      ∃ before key old after, t.entries = before ++ (key, old) :: after ∧
        key.sameKey z = true ∧ (t.insert z a).entries = before ++ (key, a) :: after := by
  rcases put_eq z a t.entries with ⟨apart, written⟩ | split
  · refine .inl ⟨?_, written⟩
    rw [find?, List.find?_eq_none.2 fun e mem => by simp [apart e mem]]
    rfl
  · exact .inr split

omit [RandomSource γ] in
/-- A roll that touched the new cycle only, and left it lingering, is all that came of the start. -/
theorem World.Stalls.of_start {w w' : World γ} (registered : w.Registered) {zone : Value}
    (self : zone.sameKey zone = true) {table : SeasonTable} {kind : Event → Prop}
    (touched : (w.start zone table).Touches kind ⟨w.cycles.size⟩ w')
    (lingers : (w.start zone table).Lingers ⟨w.cycles.size⟩ w') : w.Stalls zone table w' := by
  have live : w'.manager.live = w.manager.live.insert zone ⟨w.cycles.size⟩ :=
    congrArg Manager.live touched.manager
  constructor
  · exact live
  · rw [live]
    exact w.manager.live.entries_insert zone _
  · rw [Manager.find?, live, Table.find?_insert, if_pos self]
  · obtain ⟨kind, new⟩ := lingers
    refine ⟨kind, ?_⟩
    rw [new, w.cycle_start_self]
    rfl
  · rintro ⟨key, id⟩ mem
    have old := (registered.made mem).known
    -- the cycles that were running have smaller numbers than the new one
    have other : id ≠ ⟨w.cycles.size⟩ := by
      rintro rfl
      exact absurd old (Nat.lt_irrefl _)
    rw [touched.others other, World.cycle_start_of_known old]

/-- **Starting the weather of a zone, and what a failure leaves behind.** -/
theorem Manager.ends_add_stalls {w : World γ} (registered : w.Registered) (zone : Value) :
    (add zone).Ends w (fun _ _ => zone.isKey = true) fun f w' =>
      zone.isKey = false ∧ f = .notAKey zone ∧ w' = w ∨
        zone.isKey = true ∧ ∃ table, w.manager.chances? zone = some table ∧
          (w.clock.dayOfYear = .error f ∨ (w.start zone table).StopsShort w' f) ∧
            w.Stalls zone table w' := by
  rw [ends_add]
  split
  next key =>
    rcases chances : w.manager.chances? zone with _ | table
    · exact key
    have self : zone.sameKey zone = true := by
      obtain ⟨other, -, same⟩ := Table.mem_of_find? chances
      exact Value.sameKey_trans (Value.sameKey_symm same) same
    -- the new cycle is in fine weather of no intensity, and its weather is rolled
    have fresh := w.cycle_start_self zone table
    have known : (CycleId.mk w.cycles.size).number < (w.start zone table).cycles.size := by
      simp [World.start]
    have number : IsNumber ((w.start zone table).cycle ⟨w.cycles.size⟩).intensity := by
      rw [fresh]
      exact (by decide : IsNumber (0.0 : Float))
    have goes := CycleId.regenerate_goes known (congrArg Cycle.table fresh) number
    have stalls := CycleId.regenerate_stalls known (by rw [fresh]; rfl)
    have touches := CycleId.regenerate_touches ⟨w.cycles.size⟩ (w.start zone table)
    refine ((goes.and stalls).and touches).mono (fun _ _ _ => key) ?_
    rintro f w' ⟨⟨cause, lingers⟩, touched⟩
    exact .inr ⟨key, table, rfl, cause, .of_start registered self touched lingers⟩
  next noKey => exact .inl ⟨Bool.eq_false_iff.2 noKey, rfl, rfl⟩

/-! ### Commands by which weather is started -/

/-- **A command starts the weather of a zone**: it says so, or it needs the weather of a zone where
none is running. -/
def ManagerCommand.Starts (w : World γ) (zone : Value) : ManagerCommand → Prop
  | add z => z = zone
  | getOrCreate z | observerEntered _ z | setWeather z _ _ _ =>
    z = zone ∧ w.manager.find? zone = none
  | _ => False

/-- Where no weather is running, asking for the weather of a zone is starting it. -/
theorem Manager.getOrCreate_eq_add {w : World γ} {zone : Value}
    (absent : w.manager.find? zone = none) : getOrCreate zone w = add zone w := by
  cases key : zone.isKey with
  | true =>
    have required : (Sim.requireKey zone : Sim γ Unit) w = .ok () w := by
      rw [Sim.requireKey, if_pos key]
      rfl
    have found : (find zone : Sim γ (Option CycleId)) w = .ok none w := by
      rw [find, Sim.bind_of_ok required, ← absent]
      rfl
    rw [getOrCreate, Sim.bind_of_ok found]
  | false =>
    have refused : (Sim.requireKey zone : Sim γ Unit) w = .error (.notAKey zone) w := by
      rw [Sim.requireKey, if_neg (by simp [key])]
      rfl
    have found : (find zone : Sim γ (Option CycleId)) w = .error (.notAKey zone) w :=
      Sim.bind_of_error refused
    have chances : (chances zone : Sim γ (Option SeasonTable)) w = .error (.notAKey zone) w :=
      Sim.bind_of_error refused
    rw [getOrCreate, Sim.bind_of_error found, add, Sim.bind_of_error chances]

/-- A command fails as the start does that it leads to. -/
theorem ManagerCommand.perform_of_add_fails {react : Reaction γ} {c : ManagerCommand} {zone : Value}
    {f : Fault} {w w' : World γ} (starts : c.Starts w zone)
    (failed : Manager.add zone w = .error f w') : c.perform react w = .error f w' := by
  cases c with
  | add z =>
    obtain rfl : z = zone := starts
    exact Sim.bind_of_error failed
  | getOrCreate z =>
    obtain ⟨rfl, absent⟩ := starts
    exact Sim.bind_of_error ((Manager.getOrCreate_eq_add absent).trans failed)
  | observerEntered observer z =>
    obtain ⟨rfl, absent⟩ := starts
    have got := (Manager.getOrCreate_eq_add absent).trans failed
    exact Sim.bind_of_error (Sim.bind_of_error got)
  | setWeather z kind intensity trigger =>
    obtain ⟨rfl, absent⟩ := starts
    have got := (Manager.getOrCreate_eq_add absent).trans failed
    exact Sim.bind_of_error (Sim.bind_of_error got)
  | _ => exact starts.elim

/-- **What a failing command to start weather leaves behind.** Nothing, if the zone is no key. Else
the clock shows no day or a draw fails, and the new cycle goes on running; all others are what they
were, in the same order, but for the one whose place it took. -/
theorem Reachable.start_fails {w w' : World γ} (reachable : Reachable w) {zone : Value} {f : Fault}
    (failed : Manager.add zone w = .error f w') (react : Reaction γ) {c : ManagerCommand}
    (starts : c.Starts w zone) :
    c.perform react w = .error f w' ∧
      (zone.isKey = false ∧ f = .notAKey zone ∧ w' = w ∨
        zone.isKey = true ∧ ∃ table, w.manager.chances? zone = some table ∧
          (w.clock.dayOfYear = .error f ∨ (w.start zone table).StopsShort w' f) ∧
            w.Stalls zone table w') := by
  refine ⟨c.perform_of_add_fails starts failed, ?_⟩
  have ends := Manager.ends_add_stalls reachable.registered zone
  rwa [Sim.Ends, failed] at ends

namespace TwoZones

/-- The weather is running in both zones, and there is nothing left to draw. -/
def drained : World Script := running { integers := [0, 0] }

/-- The world once the weather of the second zone was to be started anew. -/
def restarted : World Script := (Manager.add (.text "b")).worldLeft drained

theorem add_drained : Manager.add (.text "b") drained = .error .drawsExhausted restarted := rfl

/-- No weather is running, and the clock shows no time. -/
def dayless : World Script := { idle { integers := [50] } with clock := .running (0.0 / 0.0) }

/-- The world once the weather of the first zone was to be started. -/
def begun : World Script := (Manager.add (.text "a")).worldLeft dayless

theorem add_dayless : Manager.add (.text "a") dayless = .error .timeUndefined begun := rfl

end TwoZones

/-- The new cycle has taken the place of the second one. -/
theorem Reachable.start_fails_restarted :
    Reachable TwoZones.drained ∧
      Manager.add (.text "b") TwoZones.drained = .error .drawsExhausted TwoZones.restarted ∧
      (ManagerCommand.add (.text "b")).Starts TwoZones.drained (.text "b") ∧
      TwoZones.restarted.manager.find? (.text "b") = some ⟨2⟩ := by
  have starts : (ManagerCommand.add (.text "b")).Starts TwoZones.drained (.text "b") := rfl
  have reachable : Reachable TwoZones.drained := TwoZones.reachable_running _
  obtain ⟨-, left⟩ := reachable.start_fails TwoZones.add_drained Call.note starts
  obtain ⟨noKey, -⟩ | ⟨-, table, -, -, stalls⟩ := left
  · cases noKey
  · exact ⟨reachable, TwoZones.add_drained, starts, stalls.found⟩

/-- **A cycle that fails to start is not taken out again.** -/
theorem Manager.add_fails_and_runs :
    Reachable TwoZones.dayless ∧
      Manager.add (.text "a") TwoZones.dayless = .error .timeUndefined TwoZones.begun ∧
      TwoZones.dayless.manager.live.entries = [] ∧
      TwoZones.begun.manager.live.entries = [(.text "a", ⟨0⟩)] :=
  ⟨.start rfl, TwoZones.add_dayless, rfl, rfl⟩

end Microclimate
