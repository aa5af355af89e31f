import Mathlib
import Sim8080.Proofs.Frame

namespace Sim8080

namespace Cpu

def Accepting (c : Cpu) : Prop := c.iff = true ∧ c.eiDelay = false

instance : DecidablePred Accepting := fun c =>
  inferInstanceAs (Decidable (c.iff = true ∧ c.eiDelay = false))

def Taking (c : Cpu) : Prop := c.Accepting ∧ c.pending.isSome

instance : DecidablePred Taking := fun c => inferInstanceAs (Decidable (c.Accepting ∧ _))

theorem signal_eq (s : Cpu) (r : Request) : s.signal r = { s with pending := r.restart?.or s.pending } := by
  cases r <;> rfl

theorem signal_of_restart_none (s : Cpu) {r : Request} (h : r.restart? = none) : s.signal r = s := by
  simp only [signal, h]

end Cpu

namespace Board

variable {β : Type} [Bus β]

def interrupted (b : Board β) (n : Restart) : Board β where
  cpu := { b.cpu with
    sp := b.cpu.sp - 2
    pc := n.val.toUInt16 * 8
    iff := false
    halted := false
    pending := none }
  bus := Bus.write (Bus.write b.bus (b.cpu.sp - 1) (Word.hi b.cpu.pc)) (b.cpu.sp - 2) (Word.lo b.cpu.pc)

def passed (b : Board β) : Board β := ⟨{ b.cpu with eiDelay := false }, b.bus⟩

theorem acknowledge_take (b : Board β) {n : Restart} (ha : b.cpu.Accepting)
    (hp : b.cpu.pending = some n) : acknowledge.run b = (some interruptCycles, b.interrupted n) := by
  obtain ⟨hi, he⟩ := ha
  simp only [acknowledge, run_bind, run_cpuState, run_modifyCpu, run_push, run_pure, fst_pair,
    snd_pair, he, hi, hp, Bool.false_eq_true, ↓reduceIte, Bool.not_true, interrupted]

theorem acknowledge_pass (b : Board β) (h : ¬b.cpu.Taking) :
    acknowledge.run b = (none, b.passed) := by
  obtain ⟨⟨a, b', c, d, e, h', l, f, sp, pc, iff, halted, eiDelay, pending⟩, bus⟩ := b
  simp only [Cpu.Taking, Cpu.Accepting, not_and] at h
  cases eiDelay
  case true => rfl
  case false =>
    cases iff
    case false => rfl
    case true =>
      cases pending
      case none => rfl
      case some n => simp at h

theorem step_take (b : Board β) {n : Restart} (ha : b.cpu.Accepting) (hp : b.cpu.pending = some n) :
    step.run b = (⟨interruptCycles, .interrupt⟩, b.interrupted n) := by
  simp only [step, run_bind, acknowledge_take b ha hp, fst_pair, snd_pair, run_pure]

theorem step_idle (b : Board β) (h : ¬b.cpu.Taking) (hh : b.cpu.halted = true) :
    step.run b = (⟨idleCycles, .idle⟩, b.passed) := by
  simp only [step, run_bind, acknowledge_pass b h, fst_pair, snd_pair, run_cpuState, passed, hh,
    ↓reduceIte, run_pure]

theorem step_execute (b : Board β) (h : ¬b.cpu.Taking) (hh : b.cpu.halted = false) :
    step.run b = (⟨(execute.run b.passed).1, .executed⟩, (execute.run b.passed).2) := by
  simp only [step, run_bind, acknowledge_pass b h, fst_pair, snd_pair, run_cpuState, passed, hh,
    Bool.false_eq_true, ↓reduceIte, run_pure]

theorem step_cases (b : Board β) :
    (b.cpu.Taking ∧ ∃ n, b.cpu.pending = some n ∧
      step.run b = (⟨interruptCycles, .interrupt⟩, b.interrupted n)) ∨
    (¬b.cpu.Taking ∧ b.cpu.halted = true ∧ step.run b = (⟨idleCycles, .idle⟩, b.passed)) ∨
    (¬b.cpu.Taking ∧ b.cpu.halted = false ∧
      step.run b = (⟨(execute.run b.passed).1, .executed⟩, (execute.run b.passed).2)) := by
  by_cases ht : b.cpu.Taking
  case pos =>
    obtain ⟨n, hn⟩ := Option.isSome_iff_exists.mp ht.2
    exact Or.inl ⟨ht, n, hn, step_take b ht.1 hn⟩
  case neg =>
    cases hh : b.cpu.halted
    case true => exact Or.inr (Or.inl ⟨ht, rfl, step_idle b ht hh⟩)
    case false => exact Or.inr (Or.inr ⟨ht, rfl, step_execute b ht hh⟩)

theorem step_interrupt_iff (b : Board β) : (step.run b).1.kind = .interrupt ↔ b.cpu.Taking := by
  rcases step_cases b with ⟨ht, _, -, hs⟩ | ⟨ht, -, hs⟩ | ⟨ht, -, hs⟩
  all_goals simp only [hs, ht, reduceCtorEq]

theorem step_pending (b : Board β) (h : ¬b.cpu.Taking) :
    (step.run b).2.cpu.pending = b.cpu.pending := by
  cases hh : b.cpu.halted
  case true => simp only [step_idle b h hh, passed]
  case false => simp only [step_execute b h hh, execute_pending, passed]

theorem step_ei (b : Board β) (hk : (step.run b).1.kind = .executed)
    (hei : Instr.decode (Bus.read b.bus b.cpu.pc).1 = .ei) :
    (step.run b).2.cpu.eiDelay = true ∧ (step.run b).2.cpu.halted = false := by
  have ht : ¬b.cpu.Taking := fun ht => by simp [(step_interrupt_iff b).mpr ht] at hk
  cases hh : b.cpu.halted
  case true => simp [step_idle b ht hh] at hk
  case false =>
    simp only [step_execute b ht hh, execute, passed, run_bind, run_cpuState, run_read, fst_pair,
      snd_pair, hei, Instr.size, perform, run_modifyCpu, run_pure, hh, and_self]

end Board

inductive Action where
  | step
  | signal (r : Request)

namespace Board

variable {β : Type} [Bus β]

def trace : List Action → Board β → List (Board β × Step)
  | [], _ => []
  | .step :: as, b => (b, (step.run b).1) :: trace as (step.run b).2
  | .signal r :: as, b => trace as { b with cpu := b.cpu.signal r }

theorem taken_at_first_accepting (as : List Action) (b : Board β) {n : Restart}
    (hp : b.cpu.pending = some n) (hq : ∀ r, Action.signal r ∈ as → r.restart? = none)
    (pre : List (Board β × Step)) (x : Board β × Step) (post : List (Board β × Step))
    (h : trace as b = pre ++ x :: post) (hpre : ∀ y ∈ pre, ¬y.1.cpu.Accepting)
    (hx : x.1.cpu.Accepting) :
    (∀ y ∈ pre, y.2.kind ≠ .interrupt) ∧
      step.run x.1 = (⟨interruptCycles, .interrupt⟩, x.1.interrupted n) := by
  induction as generalizing b pre with
  | nil => simp [trace] at h
  | cons a as ih =>
    cases a
    case signal r =>
      have hr := hq r (List.mem_cons_self ..)
      apply ih { b with cpu := b.cpu.signal r } (by simp [Cpu.signal_of_restart_none _ hr, hp])
        (fun r' hr' => hq r' (List.mem_cons_of_mem _ hr')) pre h hpre
    case step =>
      cases pre
      case nil =>
        simp only [trace, List.nil_append, List.cons.injEq] at h
        obtain ⟨rfl, -⟩ := h
        exact ⟨by simp, step_take b hx hp⟩
      case cons y pre =>
        simp only [trace, List.cons_append, List.cons.injEq] at h
        obtain ⟨rfl, h⟩ := h
        -- The boundary of this step is not accepting, so the request is kept and not taken.
        have hy : ¬b.cpu.Taking := fun ht => hpre _ (List.mem_cons_self ..) ht.1
        obtain ⟨hpre', hstep⟩ := ih (step.run b).2 (by rw [step_pending b hy, hp])
          (fun r' hr' => hq r' (List.mem_cons_of_mem _ hr')) pre h
          (fun y hy' => hpre y (List.mem_cons_of_mem _ hy'))
        refine ⟨?_, hstep⟩
        intro z hz
        rcases List.mem_cons.mp hz with rfl | hz
        · exact fun hk => hy ((step_interrupt_iff b).mp hk)
        · exact hpre' z hz

theorem trace_head {Q : Board β → Prop} (hQ : ∀ b r, Q b → Q { b with cpu := b.cpu.signal r })
    (as : List Action) (b : Board β) (hb : Q b) (x : Board β × Step)
    (rest : List (Board β × Step)) (h : trace as b = x :: rest) :
    Q x.1 ∧ x.2 = (step.run x.1).1 := by
  induction as generalizing b with
  | nil => simp [trace] at h
  | cons a as ih =>
    cases a
    case step =>
      simp only [trace, List.cons.injEq] at h
      obtain ⟨rfl, -⟩ := h
      exact ⟨hb, rfl⟩
    case signal r => exact ih _ (hQ b r hb) h

theorem executes_after_ei (as : List Action) (b : Board β) (pre : List (Board β × Step))
    (x y : Board β × Step) (post : List (Board β × Step)) (h : trace as b = pre ++ x :: y :: post)
    (hk : x.2.kind = .executed) (hei : Instr.decode (Bus.read x.1.bus x.1.cpu.pc).1 = .ei) :
    y.2.kind = .executed := by
  induction as generalizing b pre with
  | nil => simp [trace] at h
  | cons a as ih =>
    cases a
    case signal r => exact ih _ pre h
    case step =>
      cases pre
      case nil =>
        simp only [trace, List.nil_append, List.cons.injEq] at h
        obtain ⟨rfl, h⟩ := h
        -- Requests change only the pending restart, so the boundary after `EI` keeps its delay.
        obtain ⟨⟨hd, hh⟩, hy⟩ := trace_head (Q := fun c => c.cpu.eiDelay = true ∧ c.cpu.halted = false)
          (fun c r hc => by cases r <;> exact hc) as _ (step_ei b hk hei) y post h
        have ht : ¬y.1.cpu.Taking := fun ht => by simp [ht.1.2] at hd
        rw [hy, step_execute y.1 ht hh]
      case cons z pre =>
        simp only [trace, List.cons_append, List.cons.injEq] at h
        exact ih _ pre h.2

-- The interrupt discipline of the processor, over every board and every run of steps and
-- requests: when a step is an interrupt and what it does, what changes the pending restart, when a
-- pending restart is taken, the instruction after `EI`, and what a halted processor does.
theorem interrupt_discipline :
    (∀ b : Board β, (step.run b).1.kind = .interrupt →
      b.cpu.Accepting ∧ ∃ n, b.cpu.pending = some n ∧
        step.run b = (⟨interruptCycles, .interrupt⟩, b.interrupted n)) ∧
    (∀ b : Board β, (step.run b).1.kind ≠ .interrupt →
      (step.run b).2.cpu.pending = b.cpu.pending) ∧
    (∀ (c : Cpu) (r : Request), c.signal r = { c with pending := r.restart?.or c.pending }) ∧
    (∀ (as : List Action) (b : Board β) (n : Restart), b.cpu.pending = some n →
      (∀ r, Action.signal r ∈ as → r.restart? = none) →
      ∀ pre x post, trace as b = pre ++ x :: post → (∀ y ∈ pre, ¬y.1.cpu.Accepting) →
        x.1.cpu.Accepting → (∀ y ∈ pre, y.2.kind ≠ .interrupt) ∧
          step.run x.1 = (⟨interruptCycles, .interrupt⟩, x.1.interrupted n)) ∧
    (∀ (as : List Action) (b : Board β) pre x y post, trace as b = pre ++ x :: y :: post →
      x.2.kind = .executed → Instr.decode (Bus.read x.1.bus x.1.cpu.pc).1 = .ei →
      y.2.kind = .executed) ∧
    (∀ b : Board β, b.cpu.halted = true → ¬b.cpu.Taking →
      step.run b = (⟨idleCycles, .idle⟩, b.passed)) := by
  refine ⟨?interrupt, ?pending, Cpu.signal_eq, ?first, ?ei, fun b hh ht => step_idle b ht hh⟩
  case interrupt =>
    intro b hk
    obtain ⟨ha, hp⟩ := (step_interrupt_iff b).mp hk
    obtain ⟨n, hn⟩ := Option.isSome_iff_exists.mp hp
    exact ⟨ha, n, hn, step_take b ha hn⟩
  case pending =>
    intro b hk
    exact step_pending b (fun ht => hk ((step_interrupt_iff b).mpr ht))
  case first =>
    intro as b n hp hq pre x post h hpre hx
    exact taken_at_first_accepting as b hp hq pre x post h hpre hx
  case ei =>
    intro as b pre x y post h hk hei
    exact executes_after_ei as b pre x y post h hk hei

end Board

end Sim8080
