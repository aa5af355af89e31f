import Mathlib
import Sim8080.Proofs.PortWrites

namespace Sim8080

namespace Console

def writeAll (c : Console) (ws : List (UInt8 × UInt8)) : Console :=
  ws.foldl (fun c w => c.write w.1.toUInt16 w.2) c

def portRequest? (port : UInt8) : Option Request :=
  if port = 0x00 then some .quit
  else if port = 0xFD then some .load
  else if port = 0xFE then some .save
  else none

def pending (c : Console) : Option Request := if c.quit then some .quit else c.requested

def textOf (ws : List (UInt8 × UInt8)) : List Char :=
  ws.filterMap fun w => if w.1 = 0x01 then some (Char.ofNat w.2.toNat) else none

def firstDue (due : Nat) (polls : List (Nat × Option Request)) : Option Nat :=
  polls.findIdx? fun p => p.2.isNone && decide (due ≤ p.1)

variable (c : Console)

theorem write_port (p v : UInt8) :
    c.write p.toUInt16 v =
      if p = 0x00 then { c with quit := true }
      else if p = 0x01 then
        { c with message := c.message.push (Char.ofNat v.toNat)
                 echoed := if c.echo then c.echoed.push (Char.ofNat v.toNat) else c.echoed }
      else if p = 0xFD then { c with requested := some .load }
      else if p = 0xFE then { c with requested := some .save }
      else c := by
  -- the console compares 16-bit ports; a byte port widens without changing equality
  have hbeq : ∀ k : UInt8, (p.toUInt16 == k.toUInt16) = decide (p = k) := by
    intro k
    by_cases h : p = k
    · simp [h]
    · simp [h, UInt8.toUInt16_inj]
  have h0 : (p.toUInt16 == 0x00) = decide (p = 0x00) := hbeq 0x00
  have h1 : (p.toUInt16 == 0x01) = decide (p = 0x01) := hbeq 0x01
  have hd : (p.toUInt16 == 0xFD) = decide (p = 0xFD) := hbeq 0xFD
  have he : (p.toUInt16 == 0xFE) = decide (p = 0xFE) := hbeq 0xFE
  simp only [write, h0, h1, hd, he, decide_eq_true_eq]

theorem writeAll_cons (w : UInt8 × UInt8) (ws : List (UInt8 × UInt8)) :
    c.writeAll (w :: ws) = (c.write w.1.toUInt16 w.2).writeAll ws := rfl

@[simp] theorem writeAll_saveAt (ws : List (UInt8 × UInt8)) : (c.writeAll ws).saveAt = c.saveAt := by
  induction ws generalizing c with
  | nil => rfl
  | cons w ws ih =>
    rw [writeAll_cons, ih, write_port]
    split_ifs <;> rfl

theorem writeAll_message (ws : List (UInt8 × UInt8)) :
    (c.writeAll ws).message.toList = c.message.toList ++ textOf ws := by
  induction ws generalizing c with
  | nil => simp [writeAll, textOf]
  | cons w ws ih =>
    rw [writeAll_cons, ih, write_port]
    by_cases h1 : w.1 = 0x01
    · simp [h1, textOf]
    · split_ifs <;> simp [textOf, h1]

theorem pending_write (h : c.pending = none) (p v : UInt8) :
    (c.write p.toUInt16 v).pending = portRequest? p := by
  have hq : c.quit = false := by
    unfold pending at h
    split at h <;> simp_all
  have hr : c.requested = none := by simpa [pending, hq] using h
  rw [write_port]
  unfold pending portRequest?
  split_ifs <;> simp_all

theorem writeAll_pending {ws : List (UInt8 × UInt8)} (hws : ws.length ≤ 1) (h : c.pending = none) :
    (c.writeAll ws).pending = ws.head?.bind fun w => portRequest? w.1 := by
  match ws, hws with
  | [], _ => simpa [writeAll] using h
  | [(p, v)], _ => exact pending_write c h p v

@[simp] theorem poll_message (n : Nat) : (c.poll n).2.message = c.message := by
  unfold poll
  split
  · rfl
  · split
    · rfl
    · split
      · split <;> rfl
      · rfl

theorem poll_answer (n : Nat) :
    (c.poll n).1 = c.pending.getD (if c.saveAt.any fun due => decide (due ≤ n) then .save else .nothing) := by
  unfold poll pending
  cases c.quit
  · rcases c.requested with _ | q
    · rcases c.saveAt with _ | due
      · rfl
      · by_cases h : due ≤ n <;> simp [h]
    · rfl
  · rfl

theorem poll_saveAt (n : Nat) :
    (c.poll n).2.saveAt = c.saveAt.filter fun due => !(c.pending.isNone && decide (due ≤ n)) := by
  rcases c with ⟨m, e, ed, _ | _, _ | q, _ | due⟩
  case false.none.some => by_cases h : due ≤ n <;> simp [poll, pending, h, Option.filter]
  all_goals simp [poll, pending, Option.filter]

theorem poll_pending {n : Nat} (h : (c.poll n).1 ≠ .quit) : (c.poll n).2.pending = none := by
  rcases c with ⟨m, e, ed, _ | _, _ | q, _ | due⟩
  -- only a console with no request and a save armed looks at the cycle count
  case false.none.some => by_cases hd : due ≤ n <;> simp [poll, pending, hd]
  all_goals simp_all [poll, pending]

theorem firstDue_cons (due n : Nat) (a : Option Request) (ps : List (Nat × Option Request)) :
    firstDue due ((n, a) :: ps) =
      if a.isNone && decide (due ≤ n) then some 0 else (firstDue due ps).map (· + 1) := by
  simp only [firstDue, List.findIdx?_cons]

theorem firstDue_zero (s : Option Nat) (n : Nat) (a : Option Request) (ps : List (Nat × Option Request)) :
    (s.bind fun due => firstDue due ((n, a) :: ps)) = some 0 ↔
      a.isNone ∧ s.any fun due => decide (due ≤ n) := by
  rcases s with _ | due
  · simp
  · rcases a with _ | q
    · by_cases h : due ≤ n <;> simp [firstDue_cons, h]
    · simp [firstDue_cons]

theorem firstDue_succ (s : Option Nat) (n : Nat) (a : Option Request) (ps : List (Nat × Option Request))
    (j : Nat) :
    (s.bind fun due => firstDue due ((n, a) :: ps)) = some (j + 1) ↔
      ((s.filter fun due => !(a.isNone && decide (due ≤ n))).bind fun due => firstDue due ps) =
        some j := by
  rcases s with _ | due
  · simp
  · rcases a with _ | q
    · by_cases h : due ≤ n <;> simp [firstDue_cons, h, Option.filter]
    · simp [firstDue_cons, Option.filter]

end Console

theorem System.step_console {c : Console} (b : Board System) (h : b.bus.device = .console c) :
    (Board.step.run b).2.bus.device = .console (c.writeAll b.portWrites) := by
  -- on a logged bus the console is the start console after the writes listed so far
  let P : Logged System → Prop := fun l => l.bus.device = .console (c.writeAll l.outputs)
  have hP : Board.BusInvariant P :=
    { read := fun _ _ hl => hl
      write := fun l _ _ hl => by
        obtain ⟨⟨m, d⟩, ws⟩ := l
        exact hl
      input := fun l _ hl => by
        obtain ⟨⟨m, d⟩, ws⟩ := l
        simp only [P] at hl
        subst hl
        rfl
      output := fun l p v hl => by
        obtain ⟨⟨m, d⟩, ws⟩ := l
        simp only [P] at hl
        subst hl
        simp only [P, Logged.outputs_output, Console.writeAll, List.foldl_append]
        rfl }
  have hs := hP.step (⟨b.cpu, ⟨b.bus, []⟩⟩ : Board (Logged System)) (by simp [P, h, Console.writeAll])
  rw [Board.step_logged] at hs
  exact hs

namespace Run

variable {σ : Type} (ctx : Context σ) (held : Bool) {r : Run σ} {c : Console}

def passWrites (r : Run σ) : List (UInt8 × UInt8) :=
  match r.service ctx held with
  | (.proceed, r') => r'.board.portWrites
  | (.stop _, _) => []

def passRequest (r : Run σ) : Option Request :=
  (r.passWrites ctx held).head?.bind fun w => Console.portRequest? w.1

def pendingRequests (fuel : Nat) (r : Run σ) (c : Console) : List (Option Request) :=
  c.pending :: (passStates ctx held fuel r).map (passRequest ctx held)

def consolePolls (fuel : Nat) (r : Run σ) (c : Console) : List (Nat × Option Request) :=
  ((passStates ctx held fuel r).map (·.clock.total)).zip (pendingRequests ctx held fuel r c)

theorem passWrites_length_le (r : Run σ) : (r.passWrites ctx held).length ≤ 1 := by
  unfold passWrites
  split
  · exact Board.portWrites_length_le _
  · simp

theorem passStates_of_pass (fuel : Nat) {p : Pass} {r' : Run σ} (hp : r.pass ctx held = (p, none, r')) :
    passStates ctx held (fuel + 1) r = r :: passStates ctx held fuel r' := by
  rw [passStates_succ, hp]

theorem passStates_of_stop (fuel : Nat) {p : Pass} {stop : Stop} {r' : Run σ}
    (hp : r.pass ctx held = (p, some stop, r')) : passStates ctx held (fuel + 1) r = [r] := by
  rw [passStates_succ, hp]

theorem pending_pass (hq : (c.poll r.clock.total).1 ≠ .quit) :
    ((c.poll r.clock.total).2.writeAll (r.passWrites ctx held)).pending = r.passRequest ctx held :=
  Console.writeAll_pending _ (passWrites_length_le ctx held r) (Console.poll_pending c hq)

theorem passStates_cons (fuel : Nat) (r : Run σ) : ∃ S, passStates ctx held (fuel + 1) r = r :: S :=
  List.head?_eq_some_iff.mp (passStates_head ctx held r (fuel + 1) (Nat.succ_pos fuel))

theorem consolePolls_cons (fuel : Nat) (r : Run σ) (c : Console) :
    ∃ ps, consolePolls ctx held (fuel + 1) r c = (r.clock.total, c.pending) :: ps := by
  obtain ⟨S, hS⟩ := passStates_cons ctx held fuel r
  rw [consolePolls, pendingRequests, hS]
  exact ⟨_, rfl⟩

section Console

variable (hdev : r.board.bus.device = .console c) (hP : r.pollInterval = 0)
include hdev hP

theorem poll?_console : r.poll? held = some (.answer (c.poll r.clock.total).1) := by
  simp [poll?, hP, hdev, Device.poll]

theorem poll?_first (ps : List (Nat × Option Request)) :
    r.poll? held = some (.answer (c.pending.getD
      (if (c.saveAt.bind fun due => Console.firstDue due ((r.clock.total, c.pending) :: ps)) = some 0
        then .save else .nothing))) := by
  rw [poll?_console held hdev hP, Console.poll_answer]
  simp only [Console.firstDue_zero]
  cases c.pending <;> simp

theorem service_console :
    (r.service ctx held).1 = (if (c.poll r.clock.total).1 = .quit then .stop .finished else .proceed) ∧
      (r.service ctx held).2.board.bus.device = .console (c.poll r.clock.total).2 := by
  have hdue : ¬r.clock.total - r.lastPoll < r.pollInterval := by omega
  simp only [service, hdue, ↓reduceIte, hdev, Device.poll]
  generalize c.poll r.clock.total = a
  rcases a with ⟨q, c'⟩
  cases q <;> simp [save_board, load_device]

theorem pass_console {p : Pass} {stop : Option Stop} {r' : Run σ} (hp : r.pass ctx held = (p, stop, r')) :
    r'.board.bus.device = .console ((c.poll r.clock.total).2.writeAll (r.passWrites ctx held)) ∧
      r'.pollInterval = 0 ∧ ((c.poll r.clock.total).1 = .quit → stop = some .finished) := by
  obtain ⟨hnext, hdevice⟩ := service_console ctx held hdev hP
  obtain ⟨-, hint, -⟩ := service_polls ctx held r
  rcases hs : r.service ctx held with ⟨_ | s, rs⟩
  all_goals rw [hs] at hnext hdevice hint
  all_goals dsimp only at hnext hdevice hint
  case proceed =>
    -- the step runs on the polled console
    have hw : r.passWrites ctx held = rs.board.portWrites := by simp only [passWrites, hs]
    have hboard : (rs.advance ctx).2.board = (Board.step.run rs.board).2 := (advance_exit ctx rs).2
    obtain ⟨-, hint'⟩ := advance_polls ctx rs
    rcases ha : rs.advance ctx with ⟨atExit, ra⟩
    rw [ha] at hboard hint'
    simp only [pass, hs, ha, Prod.mk.injEq] at hp
    obtain ⟨-, -, rfl⟩ := hp
    refine ⟨?_, by rw [hint', hint, hP], fun hq => by simp [hq] at hnext⟩
    rw [hboard, hw]
    exact System.step_console rs.board hdevice
  case stop =>
    have hw : r.passWrites ctx held = [] := by simp only [passWrites, hs]
    simp only [pass, hs, Prod.mk.injEq] at hp
    obtain ⟨-, rfl, rfl⟩ := hp
    refine ⟨by rw [hdevice, hw]; rfl, by rw [hint, hP], fun hq => ?_⟩
    simp only [hq, ↓reduceIte, Next.stop.injEq] at hnext
    rw [hnext]

theorem consolePolls_succ (fuel : Nat) {p : Pass} {r' : Run σ} (hp : r.pass ctx held = (p, none, r')) :
    pendingRequests ctx held (fuel + 1) r c =
        c.pending :: pendingRequests ctx held fuel r'
          ((c.poll r.clock.total).2.writeAll (r.passWrites ctx held)) ∧
      consolePolls ctx held (fuel + 1) r c =
        (r.clock.total, c.pending) :: consolePolls ctx held fuel r'
          ((c.poll r.clock.total).2.writeAll (r.passWrites ctx held)) := by
  have hq : (c.poll r.clock.total).1 ≠ .quit := fun hq =>
    Option.some_ne_none _ ((pass_console ctx held hdev hP hp).2.2 hq).symm
  have hasks : pendingRequests ctx held (fuel + 1) r c =
      c.pending :: pendingRequests ctx held fuel r'
        ((c.poll r.clock.total).2.writeAll (r.passWrites ctx held)) := by
    simp only [pendingRequests, passStates_of_pass ctx held fuel hp, List.map_cons,
      pending_pass ctx held hq]
  refine ⟨hasks, ?_⟩
  rw [consolePolls, hasks, passStates_of_pass ctx held fuel hp]
  rfl

end Console

theorem poll?_of_console (fuel : Nat) (hdev : r.board.bus.device = .console c) (hP : r.pollInterval = 0) :
    ∀ (j : Nat) (s : Run σ) (a : Option Request), (passStates ctx held fuel r)[j]? = some s →
      (pendingRequests ctx held fuel r c)[j]? = some a →
      s.poll? held = some (.answer (a.getD
        (if (c.saveAt.bind fun due => Console.firstDue due (consolePolls ctx held fuel r c)) = some j
          then .save else .nothing))) := by
  induction fuel generalizing r c with
  | zero => simp [passStates]
  | succ fuel ih =>
    intro j s a hs ha
    cases j with
    | zero =>
      obtain ⟨S, hS⟩ := passStates_cons ctx held fuel r
      obtain ⟨ps, hps⟩ := consolePolls_cons ctx held fuel r c
      rw [hS, List.getElem?_cons_zero, Option.some.injEq] at hs
      rw [pendingRequests, List.getElem?_cons_zero, Option.some.injEq] at ha
      subst hs ha
      rw [hps]
      exact poll?_first held hdev hP ps
    | succ j =>
      rcases hp : r.pass ctx held with ⟨p, _ | stop, r'⟩
      case some => simp [passStates_of_stop ctx held fuel hp] at hs
      case none =>
        obtain ⟨hdev', hP', -⟩ := pass_console ctx held hdev hP hp
        obtain ⟨hasks, hpolls⟩ := consolePolls_succ ctx held hdev hP fuel hp
        rw [passStates_of_pass ctx held fuel hp, List.getElem?_cons_succ] at hs
        rw [hasks, List.getElem?_cons_succ] at ha
        -- the first poll leaves the arming as `poll_saveAt` says, and the writes keep it
        have h := ih hdev' hP' j s a hs ha
        rw [Console.writeAll_saveAt, Console.poll_saveAt] at h
        simpa only [hpolls, Console.firstDue_succ] using h

theorem passStates_length_of_quit (fuel : Nat) (hdev : r.board.bus.device = .console c)
    (hP : r.pollInterval = 0) :
    ∀ j : Nat, (pendingRequests ctx held fuel r c)[j]? = some (some .quit) →
      (passStates ctx held fuel r).length ≤ j + 1 := by
  induction fuel generalizing r c with
  | zero => simp [passStates]
  | succ fuel ih =>
    intro j hj
    rcases hp : r.pass ctx held with ⟨p, _ | stop, r'⟩
    case some => simp [passStates_of_stop ctx held fuel hp]
    case none =>
      obtain ⟨hdev', hP', hquit⟩ := pass_console ctx held hdev hP hp
      obtain ⟨hasks, -⟩ := consolePolls_succ ctx held hdev hP fuel hp
      rw [hasks] at hj
      cases j with
      | zero =>
        -- a stop pending at the first pass is what the console answers, and it stops the run
        rw [List.getElem?_cons_zero, Option.some.injEq] at hj
        have hq : (c.poll r.clock.total).1 = .quit := by simp [Console.poll_answer, hj]
        exact absurd (hquit hq).symm (Option.some_ne_none _)
      | succ j =>
        rw [List.getElem?_cons_succ] at hj
        have := ih hdev' hP' j hj
        rw [passStates_of_pass ctx held fuel hp, List.length_cons]
        omega

theorem message_of_console (fuel : Nat) (hdev : r.board.bus.device = .console c)
    (hP : r.pollInterval = 0) :
    ∃ c', (go ctx held fuel r).2.board.bus.device = .console c' ∧
      c'.message.toList =
        c.message.toList ++ Console.textOf ((passStates ctx held fuel r).map (passWrites ctx held)).flatten := by
  induction fuel generalizing r c with
  | zero => exact ⟨c, hdev, by simp [passStates, Console.textOf]⟩
  | succ fuel ih =>
    have hmsg := Console.writeAll_message (c.poll r.clock.total).2 (r.passWrites ctx held)
    rw [Console.poll_message] at hmsg
    rcases hp : r.pass ctx held with ⟨p, _ | stop, r'⟩
    all_goals obtain ⟨hdev', hP', -⟩ := pass_console ctx held hdev hP hp
    case some =>
      rw [go_succ, hp, passStates_of_stop ctx held fuel hp]
      exact ⟨_, hdev', by simp [hmsg]⟩
    case none =>
      rw [go_succ, hp, passStates_of_pass ctx held fuel hp]
      obtain ⟨c', hc', hm⟩ := ih hdev' hP'
      refine ⟨c', hc', ?_⟩
      rw [hm, hmsg]
      simp [Console.textOf, List.filterMap_append]

structure ConsoleService (ctx : Context σ) (held : Bool) (fuel : Nat) (r : Run σ) (c : Console) :
    Prop where
  one_write : ∀ s ∈ passStates ctx held fuel r, (s.passWrites ctx held).length ≤ 1
  answers_pending : ∀ (j : Nat) (s : Run σ) (q : Request), (passStates ctx held fuel r)[j]? = some s →
    (pendingRequests ctx held fuel r c)[j]? = some (some q) → s.poll? held = some (.answer q)
  quit_ends : ∀ j : Nat, (pendingRequests ctx held fuel r c)[j]? = some (some .quit) →
    (passStates ctx held fuel r).length ≤ j + 1
  answers_armed : ∀ (j : Nat) (s : Run σ), (passStates ctx held fuel r)[j]? = some s →
    (pendingRequests ctx held fuel r c)[j]? = some none →
      s.poll? held = some (.answer
        (if (c.saveAt.bind fun due => Console.firstDue due (consolePolls ctx held fuel r c)) = some j
          then .save else .nothing))
  message : ∃ c', (go ctx held fuel r).2.board.bus.device = .console c' ∧
    c'.message.toList =
      c.message.toList ++ Console.textOf ((passStates ctx held fuel r).map (passWrites ctx held)).flatten

-- Every run on a console polled before every step is served as `ConsoleService` says.
theorem console_requests (fuel : Nat) (hdev : r.board.bus.device = .console c) (hP : r.pollInterval = 0) :
    ConsoleService ctx held fuel r c where
  one_write s _ := passWrites_length_le ctx held s
  answers_pending j s q hs ha := poll?_of_console ctx held fuel hdev hP j s (some q) hs ha
  quit_ends := passStates_length_of_quit ctx held fuel hdev hP
  answers_armed j s hs ha := poll?_of_console ctx held fuel hdev hP j s none hs ha
  message := message_of_console ctx held fuel hdev hP

-- A run from reset over memory holding `OUT FEh` at address zero and `NOP` after it, on a
-- fresh console polled before every step; its hooks count the saves they are handed.
def outSave : Run Nat :=
  { board := ⟨Cpu.reset 0, ⟨(Memory.filled 0).writeAll 0 [0xD3, 0xFE], .console {}⟩⟩,
    clock := Clock.new, pollInterval := 0, wall := fun _ => 0, world := 0 }

theorem out_save_served :
    outSave.board.bus.device = .console {} ∧ outSave.pollInterval = 0 ∧
      ConsoleService ({ lib := default } : Context Nat) false 3 outSave {} :=
  ⟨rfl, rfl, console_requests _ false 3 rfl rfl⟩

def exitAtTwo : Context Nat :=
  { lib := default, options := { exitAddress := some 2 }, onSave := some fun n _ => n + 1 }

-- With the exit right after it, the save `OUT FEh` asks for is answered by no poll: the run
-- ends after its one pass with the save hook never called, and the console still holds the
-- request.
theorem save_request_outlives_exit :
    pendingRequests exitAtTwo false fuel outSave {} = [none, some .save] ∧
      (go exitAtTwo false fuel outSave).2.world = 0 ∧
      (go exitAtTwo false fuel outSave).2.board.bus.device = .console { requested := some .save } := by
  have hstop : (outSave.pass exitAtTwo false).2.1 = some .finished := by decide
  have hw : outSave.passWrites exitAtTwo false = [(0xFE, 0)] := by decide
  have hsaves : (outSave.pass exitAtTwo false).2.2.world = 0 := by decide
  rcases hp : outSave.pass exitAtTwo false with ⟨p, stop, r'⟩
  have hdev := (pass_console exitAtTwo false (c := {}) rfl rfl hp).1
  rw [hp] at hstop hsaves
  dsimp only at hstop hsaves
  subst hstop
  have hgo : go exitAtTwo false fuel outSave = (.finished, r') := by
    rw [show fuel = 1099511627775 + 1 from rfl, go_succ, hp]
  refine ⟨?_, ?_, ?_⟩
  · rw [pendingRequests, show fuel = 1099511627775 + 1 from rfl, passStates_of_stop exitAtTwo false _ hp]
    simp [passRequest, hw, Console.portRequest?, Console.pending]
  · rw [hgo]
    exact hsaves
  · rw [hgo, hdev, hw]
    rfl

end Run

end Sim8080
