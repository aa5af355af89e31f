import Mathlib
import Sim8080.Proofs.PollCadence

namespace Sim8080

namespace Clock

def resolutionFor (ns : Int) : Option Nat := if ns < 0 then none else some (max 1 (ns.toNat / 500))

def Fits (c : Clock) (ns : Int) : Prop := c.periodNs = 500 ∧ c.resolution = resolutionFor ns

variable (c : Clock)

@[simp] theorem tick_periodNs (n : Nat) : (c.tick n).periodNs = c.periodNs := by
  unfold tick; dsimp only; split
  · split <;> rfl
  · rfl

@[simp] theorem tick_resolution (n : Nat) : (c.tick n).resolution = c.resolution := by
  unfold tick; dsimp only; split
  · split <;> rfl
  · rfl

@[simp] theorem sync_periodNs : c.sync.periodNs = c.periodNs := rfl
@[simp] theorem sync_resolution : c.sync.resolution = c.resolution := rfl
@[simp] theorem reset_periodNs : c.reset.periodNs = c.periodNs := rfl
@[simp] theorem reset_resolution : c.reset.resolution = c.resolution := rfl

theorem setResolution_fits {ns : Int} {t : Nat} {c' : Clock} (hp : c.periodNs = 500)
    (h : c.setResolution ns = .ok (t, c')) : ns ≠ 0 ∧ c'.Fits ns := by
  unfold setResolution at h
  by_cases h0 : ns = 0
  · simp [h0] at h
  by_cases hn : ns < 0
  · simp [h0, hn] at h
    obtain ⟨-, rfl⟩ := h
    exact ⟨h0, hp, by simp [resolutionFor, hn]⟩
  · simp [h0, hn, hp] at h
    obtain ⟨-, rfl⟩ := h
    exact ⟨h0, rfl, by simp [resolutionFor, hn]⟩

theorem setResolution_ok {ns : Int} (hp : c.periodNs = 500) (h0 : ns ≠ 0) :
    ∃ t c', c.setResolution ns = .ok (t, c') := by
  unfold setResolution
  by_cases hn : ns < 0
  · simp [h0, hn]
  · simp [h0, hn, hp]

theorem new_fits : Clock.new.Fits (-1) := ⟨rfl, rfl⟩

end Clock

theorem Options.validate_default : ({} : Options).validate = .ok () := by rfl

theorem Except.exists_of_bind_eq_ok {ε α β : Type} {x : Except ε α} {f : α → Except ε β} {b : β}
    (h : x >>= f = .ok b) : ∃ a, x = .ok a ∧ f a = .ok b := by
  cases x with
  | error e => cases h
  | ok a => exact ⟨a, rfl, h⟩

theorem Options.merge_valid {parse : String → Except String Json} {codec : Options.Codec}
    {o o' : Options} {files : Files} {t : String} (h : o.merge parse codec files t = .ok o') : o'.validate = .ok () := by
  -- Read the text (from a file if it names one), then parse, merge, read back and validate.
  obtain ⟨text, -, h⟩ := Except.exists_of_bind_eq_ok h
  split at h
  · unfold mergeValue at h
    split at h
    · dsimp only at h
      split at h
      · obtain ⟨u, hv, h⟩ := Except.exists_of_bind_eq_ok h
        cases h
        cases u
        exact hv
      · cases h
    · cases h
  · cases h

namespace Run

variable {σ : Type} (ctx : Context σ) (held : Bool)

theorem advance_clock (r : Run σ) :
    (r.advance ctx).2.clock = r.clock.tick (Board.step.run r.board).1.cycles := by
  rcases h : Board.step.run r.board with ⟨st, bd⟩
  simp only [advance, h]

theorem pass_clock_fits {r : Run σ} {ns : Int} (h : r.clock.Fits ns) :
    (r.pass ctx held).2.2.clock.Fits ns := by
  have hc := (service_polls ctx held r).1
  rcases hs : r.service ctx held with ⟨_ | s, rs⟩
  all_goals rw [hs] at hc
  · rcases ha : rs.advance ctx with ⟨atExit, ra⟩
    have hra := advance_clock ctx rs
    rw [ha] at hra
    simp only [pass, hs, ha]
    rw [hra, hc]
    exact ⟨by simp [h.1], by simp [h.2]⟩
  · simp only [pass, hs]
    rw [hc]
    exact h

theorem go_invariant (I : Run σ → Prop) (hstep : ∀ r, I r → I (r.pass ctx held).2.2) (fuel : Nat)
    (r : Run σ) (h : I r) : I (go ctx held fuel r).2 := by
  induction fuel generalizing r with
  | zero => exact h
  | succ fuel ih =>
    rw [go_succ]
    have h' := hstep r h
    rcases hp : r.pass ctx held with ⟨p, _ | s, r'⟩
    all_goals rw [hp] at h'
    · exact ih r' h'
    · exact h'

theorem go_clock_fits (fuel : Nat) {r : Run σ} {ns : Int} (h : r.clock.Fits ns) :
    (go ctx held fuel r).2.clock.Fits ns :=
  go_invariant ctx held (·.clock.Fits ns) (fun _ hr => pass_clock_fits ctx held hr) fuel r h

theorem finish_clock_fits {r : Run σ} {ns : Int} (h : r.clock.Fits ns) : r.finish.clock.Fits ns := by
  unfold finish
  split
  · exact h
  · exact h

theorem start_clock_fits {entry : Option UInt16} {wall : Nat → Nat} {world : σ} {r : Run σ}
    (hp : ctx.clock.periodNs = 500) (hstart : start ctx entry wall world = .ok r) :
    r.clock.Fits ctx.options.clockResolution := by
  unfold start Context.prepare at hstart
  rcases hsys : ctx.system with e | sys
  case error => simp [hsys, bind, Except.bind] at hstart
  rcases hres : ctx.clock.setResolution ctx.options.clockResolution with e | ⟨ticks, clock⟩
  case error => simp [hsys, hres, bind, Except.bind, pure, Except.pure] at hstart
  simp only [hsys, hres, bind, Except.bind, pure, Except.pure, Except.ok.injEq] at hstart
  subst hstart
  exact (Clock.setResolution_fits _ hp hres).2

end Run

def Context.Consistent {σ : Type} (ctx : Context σ) : Prop :=
  ctx.options.validate = .ok () ∧ ctx.options.clockResolution ≠ 0 ∧
    ctx.clock.Fits ctx.options.clockResolution

namespace Machine

variable {σ : Type}

def Consistent (m : Machine σ) : Prop :=
  m.context.Consistent ∧ ∀ ctx r, m.worker = some (.paused ctx r) →
    ctx.Consistent ∧ r.clock.Fits ctx.options.clockResolution

def Keeps {α : Type} (op : MachineM σ α) : Prop := ∀ m, m.Consistent → (op.run m).2.Consistent

theorem run_bind {α β : Type} (x : MachineM σ α) (f : α → MachineM σ β) (m : Machine σ) :
    (x >>= f).run m = match x.run m with
      | (.ok a, m') => (f a).run m'
      | (.error e, m') => (.error e, m') := by
  have h : (x >>= f).run m = match x.run m with | (r, m') => ExceptT.bindCont f r m' := rfl
  rw [h]
  rcases x.run m with ⟨_ | a, m'⟩ <;> rfl

@[simp] theorem run_pure {α : Type} (a : α) (m : Machine σ) :
    (pure a : MachineM σ α).run m = (.ok a, m) := rfl

@[simp] theorem run_throw {α : Type} (e : MachineError) (m : Machine σ) :
    (throw e : MachineM σ α).run m = (.error e, m) := rfl

@[simp] theorem run_get (m : Machine σ) : (get : MachineM σ (Machine σ)).run m = (.ok m, m) := rfl

@[simp] theorem run_set (m m' : Machine σ) : (set m' : MachineM σ PUnit).run m = (.ok ⟨⟩, m') := rfl

@[simp] theorem run_modify (f : Machine σ → Machine σ) (m : Machine σ) :
    (modify f : MachineM σ PUnit).run m = (.ok ⟨⟩, f m) := rfl

theorem keeps_bind {α β : Type} {x : MachineM σ α} {f : α → MachineM σ β} (hx : Keeps x)
    (hf : ∀ a, Keeps (f a)) : Keeps (x >>= f) := by
  intro m hm
  rw [run_bind]
  have := hx m hm
  rcases hr : x.run m with ⟨_ | a, m'⟩
  all_goals rw [hr] at this
  · exact this
  · exact hf a m' this

theorem keeps_pure {α : Type} (a : α) : Keeps (pure a : MachineM σ α) := fun _ hm => hm

theorem keeps_throw {α : Type} (e : MachineError) : Keeps (throw e : MachineM σ α) := fun _ hm => hm

theorem keeps_modify {f : Machine σ → Machine σ} (hf : ∀ m, m.Consistent → (f m).Consistent) :
    Keeps (modify f : MachineM σ Unit) := fun m hm => hf m hm

theorem keeps_get_bind {α : Type} {f : Machine σ → MachineM σ α}
    (hf : ∀ m, m.Consistent → ((f m).run m).2.Consistent) : Keeps (get >>= f) := hf

theorem idle_eq_ok {m : Machine σ} {ctx : Context σ} (h : m.idle = .ok ctx) : ctx = m.context := by
  unfold idle at h
  split at h
  · cases h
  · split at h
    · cases h
    · cases h
      rfl

theorem run_idle_bind {α : Type} (f : Context σ → MachineM σ α) (m : Machine σ) :
    (idleContext >>= f).run m = match m.idle with
      | .ok ctx => (f ctx).run m
      | .error e => (.error e, m) := by
  change ((match m.idle with | .ok c => (pure c : MachineM σ (Context σ)) | .error e => throw e) >>= f).run m = _
  rcases m.idle with e | c <;> rfl

theorem keeps_idle_bind {α : Type} {f : Context σ → MachineM σ α}
    (hf : ∀ m, m.Consistent → ((f m.context).run m).2.Consistent) : Keeps (idleContext >>= f) := by
  intro m hm
  rw [run_idle_bind]
  rcases hi : m.idle with e | ctx
  · exact hm
  · rw [idle_eq_ok hi]
    exact hf m hm

theorem consistent_setContext {m : Machine σ} {ctx : Context σ} (hm : m.Consistent)
    (hc : ctx.Consistent) : ({ m with context := ctx } : Machine σ).Consistent := ⟨hc, hm.2⟩

theorem keeps_setClockResolution (ns : Int) : Keeps (setClockResolution ns : MachineM σ Unit) := by
  apply keeps_idle_bind
  intro m hm
  rcases hr : m.context.clock.setResolution ns with e | ⟨t, clock⟩
  · exact hm
  · obtain ⟨h0, hfit⟩ := Clock.setResolution_fits _ hm.1.2.2.1 hr
    exact consistent_setContext hm ⟨hm.1.1, h0, hfit⟩

theorem keeps_setOptions (files : Files) (text : Option String) : Keeps (setOptions files text : MachineM σ Unit) := by
  apply keeps_idle_bind
  intro m hm
  -- The options to set are merged from the text, or the defaults; either way they pass their
  -- checks, and the clock must accept their resolution.
  rcases text with _ | t
  · simp only [pure_bind]
    rcases hr : m.context.clock.setResolution ({} : Options).clockResolution with e | ⟨n, clock⟩
    · exact hm
    · obtain ⟨h0, hfit⟩ := Clock.setResolution_fits _ hm.1.2.2.1 hr
      exact consistent_setContext hm ⟨Options.validate_default, h0, hfit⟩
  · simp only [pure_bind]
    rcases hmerge : m.context.options.merge m.context.lib.parse m.context.lib.options files t with
      e | o
    · exact hm
    · dsimp only
      rcases hr : m.context.clock.setResolution o.clockResolution with e | ⟨n, clock⟩
      · exact hm
      · obtain ⟨h0, hfit⟩ := Clock.setResolution_fits _ hm.1.2.2.1 hr
        exact consistent_setContext hm ⟨Options.merge_valid hmerge, h0, hfit⟩

theorem Context.consistent_of_eq {c c' : Context σ} (ho : c'.options = c.options)
    (hc : c'.clock = c.clock) (h : c.Consistent) : c'.Consistent := by
  unfold Context.Consistent
  rw [ho, hc]
  exact h

theorem absorb_consistent {ctx : Context σ} {r : Run σ} (hc : ctx.Consistent)
    (hr : r.clock.Fits ctx.options.clockResolution) : (ctx.absorb r).Consistent :=
  ⟨hc.1, hc.2.1, hr⟩

theorem settle_consistent {m : Machine σ} {ctx : Context σ} {r : Run σ} (stop : Stop) (hm : m.Consistent)
    (hc : ctx.Consistent) (hr : r.clock.Fits ctx.options.clockResolution) :
    (m.settle ctx stop r).Consistent := by
  cases stop
  case paused => exact hm
  case failed => exact ⟨absorb_consistent hc hr, hm.2⟩
  case finished => exact ⟨absorb_consistent hc (Run.finish_clock_fits hr), hm.2⟩

theorem carry_clock_fits (m : Machine σ) {ctx : Context σ} {r : Run σ} (held : Bool)
    (hr : r.clock.Fits ctx.options.clockResolution) :
    (m.carry ctx held r).2.clock.Fits ctx.options.clockResolution :=
  Run.go_clock_fits ctx held _ hr

theorem keeps_runForeground (entry : Option UInt16) (wall : Nat → Nat) :
    Keeps (runForeground entry wall : MachineM σ Unit) := by
  apply keeps_idle_bind
  intro m hm
  rcases hstart : Run.start m.context entry wall m.world with e | r
  · simp only [run_bind, run_get, hstart, run_throw]
    exact hm
  · have hr := Run.start_clock_fits m.context hm.1.2.2.1 hstart
    have hc := carry_clock_fits m false hr
    rcases hcarry : m.carry m.context false r with ⟨stop, r'⟩
    rw [hcarry] at hc
    simp only [run_bind, run_get, hstart, run_pure, hcarry]
    -- A device that pauses a run in the foreground is let go at once.
    have hfits : (if (stop == Stop.paused) = true then Run.go m.context false Run.fuel r'.release
        else (stop, r')).2.clock.Fits m.context.options.clockResolution := by
      split
      · exact Run.go_clock_fits m.context false Run.fuel hc
      · exact hc
    generalize (if (stop == Stop.paused) = true then Run.go m.context false Run.fuel r'.release
      else (stop, r')) = p at hfits ⊢
    rcases p with ⟨stop', r''⟩
    have hs := settle_consistent stop' hm hm.1 hfits
    by_cases hf : stop' == .failed
    · simp only [hf, ↓reduceIte, run_set, run_throw]
      exact hs
    · simp only [hf, Bool.false_eq_true, ↓reduceIte, run_set, run_pure]
      exact hs

theorem keeps_background {ctx : Context σ} {r : Run σ} (hc : ctx.Consistent)
    (hr : r.clock.Fits ctx.options.clockResolution) : Keeps (background ctx r) := by
  intro m hm
  simp only [background, run_modify]
  rcases hcarry : m.carry ctx m.held r with ⟨stop, r'⟩
  have hfit := carry_clock_fits m m.held hr
  rw [hcarry] at hfit
  refine ⟨(settle_consistent stop hm hc hfit).1, ?_⟩
  intro ctx' r'' hw
  cases stop
  case paused =>
    simp only [Option.some.injEq, Worker.paused.injEq] at hw
    obtain ⟨rfl, rfl⟩ := hw
    exact ⟨hc, hfit⟩
  all_goals cases hw

theorem keeps_spawn (entry : Option UInt16) (wall : Nat → Nat) : Keeps (spawn entry wall : MachineM σ Unit) := by
  intro m hm
  simp only [spawn, run_bind, run_get]
  split
  · exact hm
  · rw [run_idle_bind]
    rcases hi : m.idle with e | ctx
    · exact hm
    · rw [idle_eq_ok hi]
      dsimp only
      rcases hstart : Run.start m.context entry wall m.world with e | r
      · exact hm
      · exact keeps_background hm.1 (Run.start_clock_fits m.context hm.1.2.2.1 hstart) m hm

theorem keeps_run (pc : UInt16) (wall : Nat → Nat) : Keeps (run pc wall : MachineM σ Bool) := by
  apply keeps_idle_bind
  intro m hm
  split
  · exact keeps_bind (keeps_spawn _ wall) (fun _ => keeps_pure _) m hm
  · exact keeps_bind (keeps_runForeground _ wall) (fun _ => keeps_pure _) m hm

theorem keeps_release : Keeps (release : MachineM σ Unit) := by
  refine keeps_bind (keeps_modify fun m hm => hm) fun _ => keeps_get_bind fun m hm => ?_
  split
  · rename_i ctx r hw
    obtain ⟨hc, hr⟩ := hm.2 ctx r hw
    exact keeps_background (r := r.release) hc hr m hm
  · exact ⟨Context.consistent_of_eq rfl rfl hm.1, hm.2⟩

theorem keeps_waitForCompletion : Keeps (waitForCompletion : MachineM σ Unit) := by
  intro m hm
  simp only [waitForCompletion, run_bind, run_get]
  -- A paused run is let go first; then the worker's result is collected.
  split
  on_goal 1 =>
    rw [run_bind]
    have h1 := keeps_release m hm
    rcases hr : release.run m with ⟨e | u, m'⟩
    case error => rw [hr] at h1; exact h1
    rw [hr] at h1
    dsimp only
    clear hm
  all_goals
    refine keeps_get_bind (fun m hm => ?_) _ ‹_›
    split
    · exact hm
    · exact hm
    · exact ⟨hm.1, fun _ _ h => by cases h⟩
    · split <;> exact ⟨hm.1, fun _ _ h => by cases h⟩

theorem consistent_of_context {m m' : Machine σ} (hm : m.Consistent)
    (ho : m'.context.options = m.context.options) (hc : m'.context.clock = m.context.clock)
    (hw : m'.worker = m.worker) : m'.Consistent :=
  ⟨Context.consistent_of_eq ho hc hm.1, fun ctx r h => hm.2 ctx r (hw ▸ h)⟩

theorem keeps_setMemory (mem : Option Memory) : Keeps (setMemory mem : MachineM σ Unit) := by
  rcases mem with _ | mem
  · exact keeps_throw _
  · exact keeps_idle_bind fun _ hm => consistent_of_context hm rfl rfl rfl

theorem keeps_setDevice (d : Option Device) : Keeps (setDevice d : MachineM σ Unit) := by
  rcases d with _ | d
  · exact keeps_throw _
  · exact keeps_idle_bind fun _ hm => consistent_of_context hm rfl rfl rfl

theorem keeps_onSave (hook : σ → String → σ) : Keeps (onSave hook) :=
  keeps_idle_bind fun _ hm => consistent_of_context hm rfl rfl rfl

theorem keeps_onLoad (hook : σ → Option String × σ) : Keeps (onLoad hook) :=
  keeps_idle_bind fun _ hm => consistent_of_context hm rfl rfl rfl

theorem keeps_hold : Keeps (hold : MachineM σ Unit) := keeps_modify fun _ hm => consistent_of_context hm rfl rfl rfl

theorem keeps_save : Keeps (save : MachineM σ String) := by
  refine keeps_idle_bind fun m hm => ?_
  split
  · exact hm
  · exact hm

theorem keeps_load (text : String) : Keeps (load text : MachineM σ Unit) := by
  refine keeps_idle_bind fun m hm => ?_
  rcases m.context.system with e | sys
  · exact hm
  · simp only [pure_bind]
    split
    · exact consistent_of_context hm rfl rfl rfl
    · exact hm

theorem keeps_options : Keeps (options : MachineM σ Options) := keeps_idle_bind fun _ hm => hm

theorem keeps_cpuState : Keeps (cpuState : MachineM σ SavedCpu) := keeps_idle_bind fun _ hm => hm

theorem keeps_stats : Keeps (stats : MachineM σ Stats) := keeps_idle_bind fun _ hm => hm

theorem idle_error {m : Machine σ} {e : MachineError} (h : m.idle = .error e) : e = .busy := by
  unfold idle at h
  split at h
  · cases h
    rfl
  · split at h
    · cases h
      rfl
    · cases h

theorem prepare_error {ctx : Context σ} (hc : ctx.Consistent) {e : MachineError}
    (h : ctx.prepare = .error e) : e = .noMemory ∨ e = .noDevice := by
  unfold Context.prepare at h
  rcases hs : ctx.system with e' | sys
  · simp only [hs, bind, Except.bind, Except.error.injEq] at h
    subst h
    unfold Context.system at hs
    split at hs
    · cases hs
      exact .inl rfl
    · cases hs
      exact .inr rfl
    · cases hs
  · obtain ⟨t, c', hr⟩ := Clock.setResolution_ok _ hc.2.2.1 hc.2.1
    simp [hs, hr, bind, Except.bind, pure, Except.pure] at h

theorem start_error {ctx : Context σ} (hc : ctx.Consistent) {entry : Option UInt16}
    {wall : Nat → Nat} {world : σ} {e : MachineError}
    (h : Run.start ctx entry wall world = .error e) : e = .noMemory ∨ e = .noDevice := by
  unfold Run.start at h
  rcases hp : ctx.prepare with e' | ⟨sys, clock, ticks⟩
  · simp only [hp, bind, Except.bind, Except.error.injEq] at h
    subst h
    exact prepare_error hc hp
  · simp [hp, bind, Except.bind, pure, Except.pure] at h

theorem runForeground_error (entry : Option UInt16) (wall : Nat → Nat) {m : Machine σ} (hm : m.Consistent)
    {e : MachineError} (h : ((runForeground entry wall).run m).1 = .error e) :
    e ∈ [.busy, .noMemory, .noDevice, .deviceFailed] := by
  unfold runForeground at h
  rw [run_idle_bind] at h
  rcases hi : m.idle with e' | ctx
  · rw [hi] at h
    cases h
    simp [idle_error hi]
  rw [hi, idle_eq_ok hi] at h
  simp only [run_bind, run_get] at h
  rcases hstart : Run.start m.context entry wall m.world with e' | r
  · simp only [hstart, run_bind, run_throw, Except.error.injEq] at h
    subst h
    rcases start_error hm.1 hstart with rfl | rfl <;> simp
  · simp only [hstart, run_bind, run_pure] at h
    -- Past the start only a failed device ends the run with an error.
    generalize (if (m.carry m.context false r).1 == Stop.paused then
      Run.go m.context false Run.fuel (m.carry m.context false r).2.release
      else ((m.carry m.context false r).1, (m.carry m.context false r).2)) = p at h
    rcases p with ⟨stop, r'⟩
    by_cases hf : stop == .failed
    · simp only [hf, ↓reduceIte, run_set, run_throw, Except.error.injEq] at h
      subst h
      simp
    · simp [hf] at h

theorem spawn_error (entry : Option UInt16) (wall : Nat → Nat) {m : Machine σ} (hm : m.Consistent)
    {e : MachineError} (h : ((spawn entry wall).run m).1 = .error e) :
    e ∈ [.busy, .noMemory, .noDevice, .deviceFailed] := by
  simp only [spawn, run_bind, run_get] at h
  split at h
  · simp only [run_bind, run_throw, Except.error.injEq] at h
    subst h
    simp
  rw [run_idle_bind] at h
  rcases hi : m.idle with e' | ctx
  · rw [hi] at h
    cases h
    simp [idle_error hi]
  rw [hi, idle_eq_ok hi] at h
  rcases hstart : Run.start m.context entry wall m.world with e' | r
  · simp only [hstart, run_throw, Except.error.injEq] at h
    subst h
    rcases start_error hm.1 hstart with rfl | rfl <;> simp
  · simp only [hstart] at h
    -- A run in the background answers at once; how it ends is collected later.
    cases h

theorem error_of_bind_pure {α β : Type} {x : MachineM σ α} {b : β} {m : Machine σ}
    {e : MachineError} (h : ((x >>= fun _ => pure b).run m).1 = .error e) :
    (x.run m).1 = .error e := by
  rw [run_bind] at h
  rcases hx : x.run m with ⟨_ | a, m'⟩
  all_goals rw [hx] at h
  · dsimp only at h ⊢
    rw [Except.error.injEq] at h ⊢
    exact h
  · cases h

theorem run_error (pc : UInt16) (wall : Nat → Nat) {m : Machine σ} (hm : m.Consistent) {e : MachineError}
    (h : ((run pc wall).run m).1 = .error e) : e ∈ [.busy, .noMemory, .noDevice, .deviceFailed] := by
  unfold run at h
  rw [run_idle_bind] at h
  rcases hi : m.idle with e' | ctx
  · rw [hi] at h
    cases h
    simp [idle_error hi]
  rw [hi, idle_eq_ok hi] at h
  dsimp only at h
  split at h
  · exact spawn_error _ _ hm (error_of_bind_pure h)
  · exact runForeground_error _ _ hm (error_of_bind_pure h)

inductive Call (σ : Type) where
  | setMemory (mem : Option Memory)
  | setDevice (d : Option Device)
  | setClockResolution (ns : Int)
  | setOptions (files : Files) (text : Option String)
  | options
  | onSave (hook : σ → String → σ)
  | onLoad (hook : σ → Option String × σ)
  | run (pc : UInt16) (wall : Nat → Nat)
  | resume (wall : Nat → Nat)
  | runAsync (pc : UInt16) (wall : Nat → Nat)
  | release
  | hold
  | waitForCompletion
  | save
  | load (text : String)
  | cpuState
  | stats

def Call.perform : Call σ → MachineM σ Unit
  | .setMemory mem => Machine.setMemory mem
  | .setDevice d => Machine.setDevice d
  | .setClockResolution ns => Machine.setClockResolution ns
  | .setOptions files text => Machine.setOptions files text
  | .options => do let _ ← Machine.options
  | .onSave hook => Machine.onSave hook
  | .onLoad hook => Machine.onLoad hook
  | .run pc wall => do let _ ← Machine.run pc wall
  | .resume wall => Machine.resume wall
  | .runAsync pc wall => Machine.runAsync pc wall
  | .release => Machine.release
  | .hold => Machine.hold
  | .waitForCompletion => Machine.waitForCompletion
  | .save => do let _ ← Machine.save
  | .load text => Machine.load text
  | .cpuState => do let _ ← Machine.cpuState
  | .stats => do let _ ← Machine.stats

def replay (m : Machine σ) : List (Call σ) → Machine σ
  | [] => m
  | c :: cs => replay (c.perform.run m).2 cs

theorem Call.keeps : ∀ c : Call σ, Keeps c.perform
  | .setMemory mem => keeps_setMemory mem
  | .setDevice d => keeps_setDevice d
  | .setClockResolution ns => keeps_setClockResolution ns
  | .setOptions files text => keeps_setOptions files text
  | .options => keeps_bind keeps_options fun _ => keeps_pure _
  | .onSave hook => keeps_onSave hook
  | .onLoad hook => keeps_onLoad hook
  | .run pc wall => keeps_bind (keeps_run pc wall) fun _ => keeps_pure _
  | .resume wall => keeps_runForeground none wall
  | .runAsync pc wall => keeps_spawn (some pc) wall
  | .release => keeps_release
  | .hold => keeps_hold
  | .waitForCompletion => keeps_waitForCompletion
  | .save => keeps_bind keeps_save fun _ => keeps_pure _
  | .load text => keeps_load text
  | .cpuState => keeps_bind keeps_cpuState fun _ => keeps_pure _
  | .stats => keeps_bind keeps_stats fun _ => keeps_pure _

theorem replay_consistent (calls : List (Call σ)) {m : Machine σ} (hm : m.Consistent) :
    (m.replay calls).Consistent := by
  induction calls generalizing m with
  | nil => exact hm
  | cons c cs ih => exact ih (c.keeps m hm)

theorem new_consistent (lib : Libraries) (world : σ) : (Machine.new lib world).Consistent :=
  ⟨⟨Options.validate_default, (by decide : (-1 : Int) ≠ 0), Clock.new_fits⟩, fun _ _ h => by cases h⟩

structure SoundSettings (m : Machine σ) : Prop where
  valid : m.context.options.validate = .ok ()
  resolution_ne_zero : m.context.options.clockResolution ≠ 0
  clock_resolution : m.context.clock.resolution = Clock.resolutionFor m.context.options.clockResolution
  prepare_error : ∀ e, m.context.prepare = .error e → e = .noMemory ∨ e = .noDevice
  run_error : ∀ pc wall e, ((run pc wall).run m).1 = .error e →
    e ∈ [.busy, .noMemory, .noDevice, .deviceFailed]
  resume_error : ∀ wall e, ((resume wall).run m).1 = .error e →
    e ∈ [.busy, .noMemory, .noDevice, .deviceFailed]
  runAsync_error : ∀ pc wall e, ((runAsync pc wall).run m).1 = .error e →
    e ∈ [.busy, .noMemory, .noDevice, .deviceFailed]

theorem soundSettings_of_consistent {m : Machine σ} (hm : m.Consistent) : m.SoundSettings where
  valid := hm.1.1
  resolution_ne_zero := hm.1.2.1
  clock_resolution := hm.1.2.2.2
  prepare_error _ h := prepare_error hm.1 h
  run_error pc wall _ h := run_error pc wall hm h
  resume_error wall _ h := runForeground_error none wall hm h
  runAsync_error pc wall _ h := spawn_error (some pc) wall hm h

theorem replay_settings_sound (lib : Libraries) (world : σ) (calls : List (Call σ)) :
    ((Machine.new lib world).replay calls).SoundSettings :=
  soundSettings_of_consistent (replay_consistent calls (new_consistent lib world))

end Machine

end Sim8080
