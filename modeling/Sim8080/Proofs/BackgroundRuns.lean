import Mathlib
import Sim8080.Proofs.PhaseTracking
import Sim8080.Proofs.SnapshotLoading
import Sim8080.Proofs.Subroutines

namespace Sim8080

theorem Scripted.poll_cases (s : Scripted) (cycles : Nat) (held : Bool) :
    ((held || (s.pauseAt == some (s.polls + 1) && !s.released)) = true ∧
      s.poll cycles held = (.pause, s)) ∨
    s.poll cycles held = (.failure, s) ∨
    ∃ q s', s.poll cycles held = (.answer q, s') ∧ s'.released = s.released := by
  unfold Scripted.poll
  dsimp only
  by_cases hp : (held || (s.pauseAt == some (s.polls + 1) && !s.released)) = true
  · exact .inl ⟨hp, by rw [if_pos hp]⟩
  rw [if_neg hp]
  by_cases hf : (s.failAt == some (s.polls + 1)) = true
  · exact .inr (.inl (by rw [if_pos hf]))
  rw [if_neg hf]
  refine .inr (.inr ?_)
  split
  · exact ⟨_, _, rfl, rfl⟩
  split
  · split
    · exact ⟨_, _, rfl, rfl⟩
    · exact ⟨_, _, rfl, rfl⟩
  · exact ⟨_, _, rfl, rfl⟩

namespace Device

def Released : Device → Prop
  | scripted s => s.released = true
  | _ => True

theorem release_released (d : Device) : d.release.Released := by
  cases d
  case scripted s => rfl
  all_goals trivial

variable {d : Device}

theorem Released.read (h : d.Released) (p : UInt16) : (d.read p).2.Released := by
  cases d
  case scripted s =>
    change (s.read p).2.released = true
    unfold Scripted.read
    split <;> exact h
  all_goals trivial

theorem Released.write (h : d.Released) (p : UInt16) (v : UInt8) : (d.write p v).Released := by
  cases d
  case scripted s =>
    change (s.write p v).released = true
    unfold Scripted.write
    split
    · exact h
    · split <;> exact h
  all_goals trivial

theorem Released.poll (h : d.Released) (timeNs cycles : Nat) (held : Bool) :
    (d.poll timeNs cycles held).2.Released := by
  cases d
  case scripted s =>
    change (s.poll cycles held).2.released = true
    rcases s.poll_cases cycles held with ⟨-, hp⟩ | hp | ⟨q, s', hp, hr⟩
    all_goals rw [hp]
    · exact h
    · exact h
    · exact hr.trans h
  all_goals trivial

theorem Released.poll_ne_pause (h : d.Released) (timeNs cycles : Nat) :
    (d.poll timeNs cycles false).1 ≠ .pause := by
  cases d
  case scripted s =>
    change (s.poll cycles false).1 ≠ .pause
    have hs : s.released = true := h
    rcases s.poll_cases cycles false with ⟨hp, -⟩ | hp | ⟨q, s', hp, -⟩
    · simp [hs] at hp
    all_goals simp [hp]
  all_goals simp [Device.poll]

end Device

namespace Board

variable {β : Type} [Bus β]

structure BusInvariant (P : β → Prop) : Prop where
  read : ∀ bus a, P bus → P (Bus.read bus a).2
  write : ∀ bus a v, P bus → P (Bus.write bus a v)
  input : ∀ bus p, P bus → P (Bus.input bus p).2
  output : ∀ bus p v, P bus → P (Bus.output bus p v)

theorem BusInvariant.readOperand {P : β → Prop} (hP : BusInvariant P) (o : Operand) (b : Board β)
    (h : P b.bus) : P ((Board.readOperand o).run b).2.bus := by
  cases o
  · exact h
  · exact hP.read _ _ h

theorem BusInvariant.writeOperand {P : β → Prop} (hP : BusInvariant P) (o : Operand) (v : UInt8)
    (b : Board β) (h : P b.bus) : P ((Board.writeOperand o v).run b).2.bus := by
  cases o
  · exact h
  · exact hP.write _ _ _ h

theorem BusInvariant.perform {P : β → Prop} (hP : BusInvariant P) (i : Instr) (d : UInt16)
    (b : Board β) (h : P b.bus) : P ((perform i d).run b).2.bus := by
  have hr := hP.read
  have hw := hP.write
  have hi := hP.input
  have ho := hP.output
  cases i
  case retIf cc | jmpIf cc | callIf cc =>
    cases hc : cc.holds b.cpu.f <;>
      simp only [Board.perform, hc, ↓reduceIte, Bool.false_eq_true, run_bind, run_cpuState, run_push,
        run_pop, run_modifyCpu, run_pure, fst_pair, snd_pair, hr, hw, h]
  -- The exchange with the stack nests four accesses, deeper than the side goals simp discharges.
  case xthl =>
    simp only [Board.perform, readWord, writeWord, run_bind, run_pure, run_cpuState, run_modifyCpu,
      fst_pair, snd_pair, run_read, run_write]
    exact hw _ _ _ (hw _ _ _ (hr _ _ (hr _ _ h)))
  all_goals simp only [Board.perform, updateOperand, accumulate, readWord, writeWord, run_push,
    run_pop, run_bind, run_pure, run_cpuState, run_modifyCpu, fst_pair, snd_pair, run_read, run_write,
    run_input, run_output, hr, hw, hi, ho, h, hP.readOperand, hP.writeOperand]

theorem BusInvariant.execute [MemoryBus β] {P : β → Prop} (hP : BusInvariant P) (b : Board β)
    (h : P b.bus) : P (execute.run b).2.bus := by
  obtain ⟨bus, hbus, he⟩ := execute_fetch b P hP.read h
  rw [he]
  simp only [run_bind, run_pure, snd_pair]
  exact hP.perform _ _ _ hbus

theorem BusInvariant.step [MemoryBus β] {P : β → Prop} (hP : BusInvariant P) (b : Board β)
    (h : P b.bus) : P (step.run b).2.bus := by
  rcases step_cases b with ⟨-, n, -, hs⟩ | ⟨-, -, hs⟩ | ⟨-, -, hs⟩
  all_goals rw [hs]
  · exact hP.write _ _ _ (hP.write _ _ _ h)
  · exact h
  · exact hP.execute b.passed h

end Board

theorem System.released_invariant : Board.BusInvariant fun s : System => s.device.Released where
  read _ _ h := h
  write s _ _ h := by cases s; exact h
  input s p h := by cases s; exact Device.Released.read h _
  output s _ _ h := by cases s; exact Device.Released.write h _ _

theorem Poll.eq_pause_of_stop? {q : Poll} (h : q.stop? = some .paused) : q = .pause := by
  cases q
  case answer a => cases a <;> simp [Poll.stop?] at h
  case pause => rfl
  case failure => simp [Poll.stop?] at h

theorem Pass.poll_of_ends_paused {p : Pass} {exit : Option UInt16}
    (h : p.ends exit = some .paused) : p.poll = some .pause := by
  unfold Pass.ends at h
  split at h
  · next s hs =>
    cases h
    obtain ⟨q, hq, hstop⟩ := Option.bind_eq_some_iff.mp hs
    rw [hq, Poll.eq_pause_of_stop? hstop]
  · split at h <;> cases h

namespace Run

variable {σ : Type} (ctx : Context σ) (held : Bool) {r : Run σ}

@[simp] theorem load_device (r : Run σ) : (r.load ctx).board.bus.device = r.board.bus.device := by
  obtain ⟨cpu, m, world, h⟩ := load_frame ctx r
  rw [h]

theorem pass_poll (r : Run σ) : (r.pass ctx held).1.poll = r.poll? held := by
  unfold pass
  split <;> rfl

theorem service_released (h : r.board.bus.device.Released) :
    (r.service ctx held).2.board.bus.device.Released := by
  by_cases hdue : r.clock.total - r.lastPoll < r.pollInterval
  case pos => simpa only [service, hdue, ↓reduceIte] using h
  case neg =>
    have hd := h.poll (r.wall r.clock.total) r.clock.total held
    simp only [service, hdue, ↓reduceIte]
    rcases ha : r.board.bus.device.poll (r.wall r.clock.total) r.clock.total held with ⟨q | _ | _, d⟩
    all_goals rw [ha] at hd
    case answer => cases q <;> simpa using hd
    all_goals exact h

theorem advance_released (h : r.board.bus.device.Released) :
    (r.advance ctx).2.board.bus.device.Released := by
  have hs := System.released_invariant.step r.board h
  rcases hb : Board.step.run r.board with ⟨st, bd⟩
  rw [hb] at hs
  simpa only [advance, hb] using hs

theorem pass_released (h : r.board.bus.device.Released) :
    (r.pass ctx held).2.2.board.bus.device.Released := by
  have hs := service_released ctx held h
  rcases hsv : r.service ctx held with ⟨_ | s, rs⟩
  all_goals rw [hsv] at hs
  · have ha := advance_released ctx hs
    rcases hadv : rs.advance ctx with ⟨atExit, ra⟩
    rw [hadv] at ha
    simpa only [pass, hsv, hadv] using ha
  · simpa only [pass, hsv] using hs

theorem poll?_ne_pause (h : r.board.bus.device.Released) : r.poll? false ≠ some .pause := by
  unfold poll?
  split
  · simp
  · simpa using h.poll_ne_pause (r.wall r.clock.total) r.clock.total

theorem go_not_paused (fuel : Nat) (r : Run σ) (h : r.board.bus.device.Released) :
    (go ctx false fuel r).1 ≠ .paused := by
  induction fuel generalizing r with
  | zero => simp [go]
  | succ fuel ih =>
    rw [go_succ]
    have hr := pass_released ctx false h
    have hpoll := pass_poll ctx false r
    rcases hp : r.pass ctx false with ⟨p, _ | s, r'⟩
    all_goals rw [hp] at hr hpoll
    case none => exact ih r' hr
    case some =>
      rintro rfl
      have he := ends_of_pass ctx false r hp
      exact poll?_ne_pause h (hpoll ▸ Pass.poll_of_ends_paused he)

end Run

def Worker.outcome {σ : Type} : Worker σ → Option (Except MachineError Unit)
  | .paused .. => none
  | .finished r => some r
  | .failed => some (.error .runThread)

namespace Machine

variable {σ : Type}

def FinishedOk (m : Machine σ) : Prop := ∀ res, m.worker = some (.finished res) → res = .ok ()

theorem FinishedOk.of_worker {m m' : Machine σ} (hm : m.FinishedOk) (h : m'.worker = m.worker) :
    m'.FinishedOk :=
  fun res hw => hm res (h ▸ hw)

def KeepsWorker {α : Type} (op : MachineM σ α) : Prop := ∀ m, (op.run m).2.worker = m.worker

theorem keepsWorker_bind {α β : Type} {x : MachineM σ α} {f : α → MachineM σ β} (hx : KeepsWorker x)
    (hf : ∀ a, KeepsWorker (f a)) : KeepsWorker (x >>= f) := by
  intro m
  have h := hx m
  rw [run_bind]
  rcases hr : x.run m with ⟨_ | a, m'⟩
  all_goals rw [hr] at h
  · exact h
  · exact (hf a m').trans h

theorem keepsWorker_pure {α : Type} (a : α) : KeepsWorker (pure a : MachineM σ α) := fun _ => rfl

theorem keepsWorker_throw {α : Type} (e : MachineError) : KeepsWorker (throw e : MachineM σ α) :=
  fun _ => rfl

theorem keepsWorker_idle_bind {α : Type} {f : Context σ → MachineM σ α}
    (hf : ∀ m, ((f m.context).run m).2.worker = m.worker) : KeepsWorker (idleContext >>= f) := by
  intro m
  rw [run_idle_bind]
  rcases hi : m.idle with e | ctx
  · rfl
  · rw [idle_eq_ok hi]
    exact hf m

@[simp] theorem run_throwIf (c : Prop) [Decidable c] (e : MachineError) (m : Machine σ) :
    ((if c then throw e else pure ()) : MachineM σ Unit).run m = (if c then .error e else .ok (), m) := by
  split <;> rfl

@[simp] theorem settle_worker (m : Machine σ) (ctx : Context σ) (stop : Stop) (r : Run σ) :
    (m.settle ctx stop r).worker = m.worker := by
  cases stop <;> rfl

theorem keepsWorker_setMemory (mem : Option Memory) : KeepsWorker (setMemory mem : MachineM σ Unit) := by
  rcases mem with _ | mem
  · exact keepsWorker_throw _
  · exact keepsWorker_idle_bind fun _ => rfl

theorem keepsWorker_setDevice (d : Option Device) : KeepsWorker (setDevice d : MachineM σ Unit) := by
  rcases d with _ | d
  · exact keepsWorker_throw _
  · exact keepsWorker_idle_bind fun _ => rfl

theorem keepsWorker_setClockResolution (ns : Int) : KeepsWorker (setClockResolution ns : MachineM σ Unit) :=
  keepsWorker_idle_bind fun m => by
    dsimp only
    split <;> rfl

theorem keepsWorker_setOptions (files : Files) (text : Option String) :
    KeepsWorker (setOptions files text : MachineM σ Unit) := by
  refine keepsWorker_idle_bind fun m => ?_
  dsimp only
  split
  · split
    · simp only [pure_bind]
      split <;> rfl
    · rfl
  · simp only [pure_bind]
    split <;> rfl

theorem keepsWorker_runForeground (entry : Option UInt16) (wall : Nat → Nat) :
    KeepsWorker (runForeground entry wall : MachineM σ Unit) := by
  refine keepsWorker_idle_bind fun m => ?_
  simp only [run_bind, run_get]
  rcases Run.start m.context entry wall m.world with e | r
  · rfl
  · simp only [pure_bind, run_bind, run_set, run_throwIf, settle_worker]

theorem keepsWorker_save : KeepsWorker (save : MachineM σ String) :=
  keepsWorker_idle_bind fun m => by
    split <;> rfl

theorem keepsWorker_load (text : String) : KeepsWorker (load text : MachineM σ Unit) := by
  refine keepsWorker_idle_bind fun m => ?_
  rcases m.context.system with e | sys
  · rfl
  · simp only [pure_bind]
    split <;> rfl

theorem run_bind_pure {α β : Type} (x : MachineM σ α) (b : β) (m : Machine σ) :
    (x >>= fun _ => pure b).run m = ((x.run m).1.map fun _ => b, (x.run m).2) := by
  rw [run_bind]
  rcases x.run m with ⟨_ | a, m'⟩ <;> rfl

theorem idle_bind_of_busy {α : Type} {m : Machine σ} (h : m.Busy) (f : Context σ → MachineM σ α) :
    (idleContext >>= f).run m = (.error .busy, m) := by
  rw [run_idle_bind, idle_of_busy h]

theorem background_run (ctx : Context σ) (r : Run σ) (m : Machine σ) :
    ((background ctx r).run m).1 = .ok () ∧ ((background ctx r).run m).2.FinishedOk ∧
      ∃ w, ((background ctx r).run m).2.worker = some w ∧
        (w.outcome.isSome ↔ (m.carry ctx m.held r).1 ≠ .paused) := by
  refine ⟨rfl, ?_, ?_⟩
  all_goals simp only [background, run_modify]
  all_goals rcases m.carry ctx m.held r with ⟨stop, r'⟩
  · intro res h
    cases stop <;> cases h
    rfl
  · cases stop <;> simp [Worker.outcome]

theorem spawn_cases (entry : Option UInt16) (wall : Nat → Nat) (m : Machine σ) :
    (∃ e, (spawn entry wall).run m = (.error e, m)) ∨
      (m.worker = none ∧ ¬m.Busy ∧ ∃ r, (spawn entry wall).run m = (background m.context r).run m) := by
  simp only [spawn, run_bind, run_get]
  split
  · exact .inl ⟨_, rfl⟩
  next hw =>
  rw [run_idle_bind]
  by_cases hb : m.Busy
  · rw [idle_of_busy hb]
    exact .inl ⟨_, rfl⟩
  rw [idle_of_not_busy hb]
  dsimp only
  rcases Run.start m.context entry wall m.world with e | r
  · exact .inl ⟨e, rfl⟩
  · exact .inr ⟨Option.not_isSome_iff_eq_none.mp hw, hb, r, rfl⟩

theorem spawn_of_busy (entry : Option UInt16) (wall : Nat → Nat) {m : Machine σ} (h : m.Busy) :
    (spawn entry wall).run m = (.error .busy, m) := by
  simp only [spawn, run_bind, run_get]
  split
  · rfl
  · exact idle_bind_of_busy h _

theorem run_eq (pc : UInt16) (wall : Nat → Nat) (m : Machine σ) :
    (run pc wall).run m =
      if m.context.options.runAsync then (spawn (some pc) wall >>= fun _ => pure true).run m
      else (runForeground (some pc) wall >>= fun _ => pure false).run m := by
  -- A busy machine refuses the run either way, before the options are read.
  by_cases hb : m.Busy
  · have hs := spawn_of_busy (some pc) wall hb
    unfold run
    rw [idle_bind_of_busy hb]
    split
    · rw [run_bind, hs]
    · rw [runForeground, run_bind, idle_bind_of_busy hb]
  · unfold run
    rw [run_idle_bind, idle_of_not_busy hb]
    dsimp only
    cases m.context.options.runAsync <;> rfl

theorem carry_not_paused (m : Machine σ) (ctx : Context σ) {r : Run σ} (h : r.board.bus.device.Released) :
    (m.carry ctx false r).1 ≠ .paused :=
  Run.go_not_paused ctx Run.fuel _ h

theorem release_paused {m : Machine σ} {ctx : Context σ} {r : Run σ} (h : m.worker = some (.paused ctx r)) :
    (release.run m).1 = .ok () ∧ (release.run m).2.FinishedOk ∧
      ∃ w, (release.run m).2.worker = some w ∧ w.outcome.isSome := by
  have hrel : release.run m = (background ctx r.release).run { m with held := false } := by
    simp only [release, run_bind, run_modify, run_get, h]
  obtain ⟨hok, hfin, w, hw, ho⟩ := background_run ctx r.release { m with held := false }
  rw [hrel]
  exact ⟨hok, hfin, w, hw, ho.mpr (carry_not_paused _ _ (Device.release_released _))⟩

theorem release_of_not_paused {m : Machine σ} (h : ∀ ctx r, m.worker ≠ some (.paused ctx r)) :
    (release.run m).2.worker = m.worker := by
  -- The hypothesis discharges the side condition of the match's catch-all case.
  simp only [release, run_bind, run_modify, run_get]
  rfl

theorem release_cases (m : Machine σ) :
    ((∃ ctx r, m.worker = some (.paused ctx r)) ∧ (release.run m).2.FinishedOk ∧
      ∃ w, (release.run m).2.worker = some w ∧ w.outcome.isSome) ∨
    (release.run m).2.worker = m.worker := by
  by_cases hp : ∃ ctx r, m.worker = some (.paused ctx r)
  · obtain ⟨ctx, r, hp⟩ := hp
    exact .inl ⟨⟨ctx, r, hp⟩, (release_paused hp).2⟩
  · exact .inr (release_of_not_paused fun ctx r h => hp ⟨ctx, r, h⟩)

theorem wait_none {m : Machine σ} (h : m.worker = none) :
    waitForCompletion.run m = (.error .notRunning, m) := by
  simp only [waitForCompletion, run_bind, run_get, h]
  rfl

theorem wait_outcome {m : Machine σ} {w : Worker σ} {res : Except MachineError Unit}
    (hw : m.worker = some w) (ho : w.outcome = some res) :
    (waitForCompletion.run m).1 = res ∧ (waitForCompletion.run m).2.worker = none := by
  cases w
  case paused => cases ho
  case finished r =>
    simp only [Worker.outcome, Option.some.injEq] at ho
    subst ho
    simp only [waitForCompletion, run_bind, run_get, hw, run_set]
    cases r <;> exact ⟨rfl, rfl⟩
  case failed =>
    simp only [Worker.outcome, Option.some.injEq] at ho
    subst ho
    simp only [waitForCompletion, run_bind, run_get, hw, run_set]
    exact ⟨rfl, rfl⟩

theorem wait_paused {m : Machine σ} {ctx : Context σ} {r : Run σ} (h : m.worker = some (.paused ctx r)) :
    waitForCompletion.run m = waitForCompletion.run (release.run m).2 := by
  obtain ⟨hok, -, w, hw, ho⟩ := release_paused h
  simp only [waitForCompletion, run_bind, run_get, h]
  rcases hr : release.run m with ⟨_ | u, m'⟩
  · rw [hr] at hok
    cases hok
  · rw [hr] at hw
    dsimp only at hw ⊢
    cases w
    case paused => simp [Worker.outcome] at ho
    all_goals simp only [hw, run_bind, run_get]

theorem outcome_ne_notRunning {m : Machine σ} (hm : m.FinishedOk) {w : Worker σ}
    {res : Except MachineError Unit} (hw : m.worker = some w) (ho : w.outcome = some res) :
    res ≠ .error .notRunning := by
  cases w
  case paused => cases ho
  case finished r =>
    simp only [Worker.outcome, Option.some.injEq] at ho
    rw [← ho, hm r hw]
    simp
  case failed =>
    simp only [Worker.outcome, Option.some.injEq] at ho
    rw [← ho]
    simp

theorem wait_collects {m : Machine σ} (hm : m.FinishedOk) :
    (waitForCompletion.run m).2.worker = none ∧
    ((waitForCompletion.run m).1 = .error .notRunning ↔ m.worker = none) ∧
    (∀ w res, m.worker = some w → w.outcome = some res → (waitForCompletion.run m).1 = res) ∧
    (∀ ctx r, m.worker = some (.paused ctx r) →
      ∃ w, (release.run m).2.worker = some w ∧ w.outcome = some (waitForCompletion.run m).1) := by
  rcases hw : m.worker with _ | w
  case none =>
    rw [wait_none hw]
    exact ⟨hw, by simp, by simp, by simp⟩
  case some =>
    cases ho : w.outcome
    case some res =>
      obtain ⟨hres, hnone⟩ := wait_outcome hw ho
      refine ⟨hnone, ?_, ?_, ?_⟩
      · simpa [hres] using outcome_ne_notRunning hm hw ho
      · intro w' res' hw' ho'
        cases Option.some.inj hw'
        rw [ho] at ho'
        rw [hres, Option.some.inj ho']
      · rintro ctx r ⟨⟩
        simp [Worker.outcome] at ho
    case none =>
      -- Only a paused worker has no outcome; once let go it has one, which the wait answers.
      cases w
      case finished | failed => simp [Worker.outcome] at ho
      case paused ctx r =>
      obtain ⟨-, hfin, w', hw', ho'⟩ := release_paused hw
      obtain ⟨res, hres⟩ := Option.isSome_iff_exists.mp ho'
      obtain ⟨hans, hnone⟩ := wait_outcome hw' hres
      rw [wait_paused hw]
      refine ⟨hnone, ?_, ?_, ?_⟩
      · simpa [hans] using outcome_ne_notRunning hfin hw' hres
      · intro w'' res' hw'' ho''
        cases Option.some.inj hw''
        simp [Worker.outcome] at ho''
      · intro ctx' r' _
        exact ⟨w', hw', by rw [hres, hans]⟩

def Call.Spawns (c : Call σ) (m : Machine σ) : Prop :=
  (∃ pc wall, c = .runAsync pc wall) ∨ ∃ pc wall, c = .run pc wall ∧ m.context.options.runAsync = true

def Call.needsContext : Call σ → Bool
  | .release | .hold | .waitForCompletion => false
  | _ => true

def Call.refusal : Call σ → MachineError
  | .setMemory none | .setDevice none => .invalidArgument
  | _ => .busy

theorem Call.perform_of_spawns {c : Call σ} {m : Machine σ} (h : c.Spawns m) :
    ∃ pc wall, c.perform.run m = (spawn (some pc) wall).run m := by
  rcases h with ⟨pc, wall, rfl⟩ | ⟨pc, wall, rfl, ha⟩
  · exact ⟨pc, wall, rfl⟩
  · refine ⟨pc, wall, ?_⟩
    simp only [Call.perform, run_bind_pure, run_eq, ha, if_true]
    rcases (spawn (some pc) wall).run m with ⟨_ | u, m'⟩ <;> rfl

theorem Call.perform_worker {c : Call σ} {m : Machine σ} (hs : ¬c.Spawns m) (hr : c ≠ .release)
    (hw : c ≠ .waitForCompletion) : (c.perform.run m).2.worker = m.worker := by
  have hread : ∀ {α} (f : Context σ → α),
      KeepsWorker ((idleContext >>= fun ctx => pure (f ctx)) >>= fun _ => pure ()) :=
    fun f => keepsWorker_bind (keepsWorker_idle_bind fun _ => rfl) fun _ => keepsWorker_pure _
  cases c
  case setMemory mem => exact keepsWorker_setMemory mem m
  case setDevice d => exact keepsWorker_setDevice d m
  case setClockResolution ns => exact keepsWorker_setClockResolution ns m
  case setOptions files text => exact keepsWorker_setOptions files text m
  case options => exact hread _ m
  case onSave hook => exact keepsWorker_idle_bind (fun _ => rfl) m
  case onLoad hook => exact keepsWorker_idle_bind (fun _ => rfl) m
  case run pc wall =>
    have ha : m.context.options.runAsync = false := by simpa [Call.Spawns] using hs
    simp only [Call.perform, run_bind_pure, run_eq, ha, Bool.false_eq_true, if_false]
    exact keepsWorker_runForeground (some pc) wall m
  case resume wall => exact keepsWorker_runForeground none wall m
  case runAsync pc wall => exact absurd (.inl ⟨pc, wall, rfl⟩) hs
  case release => exact absurd rfl hr
  case hold => rfl
  case waitForCompletion => exact absurd rfl hw
  case save => exact keepsWorker_bind keepsWorker_save (fun _ => keepsWorker_pure _) m
  case load text => exact keepsWorker_load text m
  case cpuState => exact hread _ m
  case stats => exact hread _ m

theorem Call.perform_of_busy {c : Call σ} {m : Machine σ} (hb : m.Busy) (hc : c.needsContext = true) :
    c.perform.run m = (.error c.refusal, m) := by
  have hread : ∀ {α} (f : Context σ → α),
      ((idleContext >>= fun ctx => pure (f ctx)) >>= fun _ => pure ()).run m = (.error .busy, m) :=
    fun f => by rw [run_bind_pure, idle_bind_of_busy hb]; rfl
  cases c
  case setMemory mem =>
    cases mem
    · rfl
    · exact idle_bind_of_busy hb _
  case setDevice d =>
    cases d
    · rfl
    · exact idle_bind_of_busy hb _
  case run pc wall =>
    simp only [Call.perform, run_bind_pure, run_eq]
    split
    · rw [spawn_of_busy _ _ hb]
      rfl
    · rw [runForeground, idle_bind_of_busy hb]
      rfl
  case runAsync pc wall => exact spawn_of_busy _ _ hb
  case release | hold | waitForCompletion => cases hc
  case options | cpuState | stats => exact hread _
  case save => rw [Call.perform, run_bind_pure, Machine.save, idle_bind_of_busy hb]; rfl
  all_goals exact idle_bind_of_busy hb _

theorem Call.start_cases {c : Call σ} {m : Machine σ} (h : c.Spawns m) :
    (∃ e, c.perform.run m = (.error e, m)) ∨
      (m.worker = none ∧ ¬m.Busy ∧ (c.perform.run m).1 = .ok () ∧
        (c.perform.run m).2.FinishedOk ∧ ((c.perform.run m).2.worker).isSome) := by
  obtain ⟨pc, wall, hpc⟩ := Call.perform_of_spawns h
  rw [hpc]
  rcases spawn_cases (some pc) wall m with he | ⟨hw, hb, r, he⟩
  · exact .inl he
  · obtain ⟨hok, hfin, w, hw', -⟩ := background_run m.context r m
    rw [he]
    exact .inr ⟨hw, hb, hok, hfin, by simp [hw']⟩

theorem Call.spawns_of_worker {c : Call σ} {m : Machine σ} (hw : m.worker = none)
    (h : ((c.perform.run m).2.worker).isSome) : c.Spawns m := by
  by_contra hs
  by_cases hr : c = .release
  · subst hr
    rcases release_cases m with ⟨⟨ctx, r, hp⟩, -⟩ | hkeep
    · simp [hw] at hp
    · simp [Call.perform, hkeep, hw] at h
  by_cases hwt : c = .waitForCompletion
  · subst hwt
    simp [Call.perform, wait_none hw, hw] at h
  rw [Call.perform_worker hs hr hwt, hw] at h
  cases h

theorem Call.worker_isSome {c : Call σ} {m : Machine σ} (hc : c ≠ .waitForCompletion)
    (h : m.worker.isSome) : ((c.perform.run m).2.worker).isSome := by
  by_cases hs : c.Spawns m
  · rcases Call.start_cases hs with ⟨e, he⟩ | ⟨hw, -⟩
    · rw [he]
      exact h
    · simp [hw] at h
  by_cases hr : c = .release
  · subst hr
    rcases release_cases m with ⟨-, -, w, hw, -⟩ | hkeep
    · simp [Call.perform, hw]
    · simpa [Call.perform, hkeep] using h
  rw [Call.perform_worker hs hr hc]
  exact h

theorem Call.perform_finishedOk (c : Call σ) {m : Machine σ} (hm : m.FinishedOk) :
    (c.perform.run m).2.FinishedOk := by
  by_cases hs : c.Spawns m
  · rcases Call.start_cases hs with ⟨e, he⟩ | ⟨-, -, -, hfin, -⟩
    · rw [he]
      exact hm
    · exact hfin
  by_cases hr : c = .release
  · subst hr
    rcases release_cases m with ⟨-, hfin, -⟩ | hkeep
    · exact hfin
    · exact hm.of_worker hkeep
  by_cases hwt : c = .waitForCompletion
  · subst hwt
    intro res h
    rw [Call.perform, (wait_collects hm).1] at h
    cases h
  exact hm.of_worker (Call.perform_worker hs hr hwt)

theorem replay_finishedOk (calls : List (Call σ)) {m : Machine σ} (hm : m.FinishedOk) :
    (m.replay calls).FinishedOk := by
  induction calls generalizing m with
  | nil => exact hm
  | cons c cs ih => exact ih (c.perform_finishedOk hm)

structure WorkerGuarded (m : Machine σ) : Prop where
  start_ok : ∀ c : Call σ, c.Spawns m → (c.perform.run m).1 = .ok () →
    m.worker = none ∧ m.phase.isActive = false ∧ ((c.perform.run m).2.worker).isSome
  start_refused : ∀ (c : Call σ) e, c.Spawns m → (c.perform.run m).1 = .error e →
    (c.perform.run m).2 = m
  created_by_start : ∀ c : Call σ, m.worker = none → ((c.perform.run m).2.worker).isSome → c.Spawns m
  removed_by_wait : ∀ c : Call σ, c ≠ .waitForCompletion → m.worker.isSome →
    ((c.perform.run m).2.worker).isSome
  wait_clears : (waitForCompletion.run m).2.worker = none
  wait_notRunning : (waitForCompletion.run m).1 = .error .notRunning ↔ m.worker = none
  wait_answers : ∀ w res, m.worker = some w → w.outcome = some res →
    (waitForCompletion.run m).1 = res
  finished_ok : m.FinishedOk
  wait_answers_released : ∀ ctx r, m.worker = some (.paused ctx r) →
    ∃ w, (release.run m).2.worker = some w ∧ w.outcome = some (waitForCompletion.run m).1
  busy_refused : m.Busy → ∀ c : Call σ, c.needsContext = true → c.perform.run m = (.error c.refusal, m)

theorem workerGuarded_of_finishedOk {m : Machine σ} (hm : m.FinishedOk) : m.WorkerGuarded := by
  obtain ⟨hclear, hnot, hans, hrel⟩ := wait_collects hm
  refine ⟨fun c hs hok => ?_, fun c e hs he => ?_, fun c hw h => Call.spawns_of_worker hw h,
    fun c hc h => Call.worker_isSome hc h, hclear, hnot, hans, hm, hrel,
    fun hb c hc => Call.perform_of_busy hb hc⟩
  · rcases Call.start_cases hs with ⟨e, he⟩ | ⟨hw, hb, -, -, hsome⟩
    · rw [he] at hok
      cases hok
    · refine ⟨hw, ?_, hsome⟩
      cases ha : m.phase.isActive
      · rfl
      · exact absurd (.inl ha) hb
  · rcases Call.start_cases hs with ⟨e', he'⟩ | ⟨-, -, hok, -⟩
    · rw [he']
    · rw [hok] at he
      cases he

-- Whatever calls the host makes, in whatever order, the worker of the machine is kept in order:
-- a run starts in the background only on a machine with no worker and no run in progress, and one
-- that is refused changes nothing; only such a start creates a worker and only a wait removes it;
-- a wait answers the outcome of the run it collects, letting a paused one go on first, and
-- `notRunning` exactly when there is no worker; and while a run holds the context every call that
-- needs it is refused, as an invalid argument for a missing memory or device and else as busy, and
-- changes nothing.
theorem background_runs (lib : Libraries) (world : σ) (calls : List (Call σ)) :
    ((Machine.new lib world).replay calls).WorkerGuarded :=
  workerGuarded_of_finishedOk (replay_finishedOk calls fun _ h => by cases h)

end Machine

end Sim8080
