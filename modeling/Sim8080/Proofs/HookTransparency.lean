import Mathlib
import Sim8080.Proofs.BackgroundRuns
import Sim8080.Proofs.SnapshotRoundTrip

namespace Sim8080

namespace Run

variable {σ : Type}

-- What a load request reads from the hooks' state `w`, and the state each kind of request
-- leaves: a hook call moves the state on whatever it answers.

def loadAnswer (ctx : Context σ) (w : σ) : Option String :=
  match ctx.onLoad with
  | some hook => (hook w).1
  | none => none

def afterLoad (ctx : Context σ) (w : σ) : σ :=
  match ctx.onLoad with
  | some hook => (hook w).2
  | none => w

def afterSave (ctx : Context σ) (w : σ) (text : String) : σ :=
  match ctx.onSave with
  | some hook => hook w text
  | none => w

def loadedBoard (ctx : Context σ) (text : Option String) (b : Board System) : Board System :=
  match text with
  | none => b
  | some t =>
    match (Snapshot.ofText ctx.lib.parse ctx.lib.snapshots t).bind
        (·.restore ctx.lib.flate b.bus.memory) with
    | .ok (m, cpu) => ⟨cpu, { b.bus with memory := m }⟩
    | .error _ => b

-- A load request whose hook is absent, answers nothing, or answers a text that is no snapshot
-- or does not restore over the memory.
def LoadFails (ctx : Context σ) (r : Run σ) : Prop :=
  ∀ t ∈ loadAnswer ctx r.world, ∀ x,
    (Snapshot.ofText ctx.lib.parse ctx.lib.snapshots t).bind (·.restore ctx.lib.flate r.board.bus.memory) ≠
      .ok x

-- Hook states that no later hook call tells apart: from related states the load hook answers
-- alike, and both kinds of request leave them related.
def HookBisim (ctx : Context σ) (E : σ → σ → Prop) : Prop :=
  ∀ w w', E w w' → loadAnswer ctx w = loadAnswer ctx w' ∧ E (afterLoad ctx w) (afterLoad ctx w') ∧
    ∀ t, E (afterSave ctx w t) (afterSave ctx w' t)

variable (ctx : Context σ) (held : Bool) {r r' : Run σ}

theorem save_eq (r : Run σ) :
    r.save ctx =
      { r with
        world := afterSave ctx r.world (ctx.lib.snapshots.toText (ctx.snapshot r.board.cpu r.board.bus.memory)) } := by
  rcases hs : ctx.onSave with _ | hook
  all_goals simp only [save, afterSave, hs]

theorem load_eq (r : Run σ) :
    r.load ctx = { r with board := loadedBoard ctx (loadAnswer ctx r.world) r.board,
                          world := afterLoad ctx r.world } := by
  rcases hl : ctx.onLoad with _ | hook
  case none => simp only [load, loadAnswer, afterLoad, loadedBoard, hl]
  case some =>
    simp only [load, loadAnswer, afterLoad, hl]
    rcases (hook r.world).1 with _ | t
    · rfl
    · dsimp only [loadedBoard]
      rcases (Snapshot.ofText ctx.lib.parse ctx.lib.snapshots t).bind
        (·.restore ctx.lib.flate r.board.bus.memory) with _ | ⟨m, cpu⟩ <;> rfl

theorem load_of_restores {t : String} {m : Memory} {c : Cpu} (ht : loadAnswer ctx r.world = some t)
    (hr : (Snapshot.ofText ctx.lib.parse ctx.lib.snapshots t).bind
      (·.restore ctx.lib.flate r.board.bus.memory) = .ok (m, c)) :
    r.load ctx = { r with board := ⟨c, { r.board.bus with memory := m }⟩, world := afterLoad ctx r.world } := by
  rw [load_eq, ht]
  simp only [loadedBoard, hr]

theorem load_of_fails (h : r.LoadFails ctx) : r.load ctx = { r with world := afterLoad ctx r.world } := by
  rw [load_eq]
  rcases ht : loadAnswer ctx r.world with _ | t
  case none => rfl
  case some =>
    have hf := h t ht
    simp only [loadedBoard]
    split
    case h_1 m cpu hx => exact absurd hx (hf _)
    case h_2 => rfl

structure SameBut (E : σ → σ → Prop) (r r' : Run σ) : Prop where
  board : r.board = r'.board
  clock : r.clock = r'.clock
  stats : r.stats = r'.stats
  lastPoll : r.lastPoll = r'.lastPoll
  pollInterval : r.pollInterval = r'.pollInterval
  phase : r.phase = r'.phase
  wall : r.wall = r'.wall
  world : E r.world r'.world

variable {ctx} {E : σ → σ → Prop}

theorem SameBut.save (hE : HookBisim ctx E) (h : SameBut E r r') :
    SameBut E (r.save ctx) (r'.save ctx) := by
  rw [save_eq, save_eq]
  refine { h with world := ?_ }
  -- both hooks are handed the text of one snapshot
  rw [h.board]
  exact (hE _ _ h.world).2.2 _

theorem SameBut.load (hE : HookBisim ctx E) (h : SameBut E r r') :
    SameBut E (r.load ctx) (r'.load ctx) := by
  obtain ⟨hans, hafter, -⟩ := hE _ _ h.world
  rw [load_eq, load_eq, hans, h.board]
  exact { h with board := rfl, world := hafter }

variable (ctx) in
theorem SameBut.advance (h : SameBut E r r') :
    (r.advance ctx).1 = (r'.advance ctx).1 ∧ SameBut E (r.advance ctx).2 (r'.advance ctx).2 := by
  rcases hs : Board.step.run r'.board with ⟨st, bd⟩
  simp only [Run.advance, h.board, hs, h.clock, h.stats, h.phase, true_and]
  exact { h with board := rfl, clock := rfl, stats := rfl, phase := rfl }

theorem SameBut.service (hE : HookBisim ctx E) (h : SameBut E r r') :
    (r.service ctx held).1 = (r'.service ctx held).1 ∧
      SameBut E (r.service ctx held).2 (r'.service ctx held).2 := by
  have hpoll : r.board.bus.device.poll (r.wall r.clock.total) r.clock.total held =
      r'.board.bus.device.poll (r'.wall r'.clock.total) r'.clock.total held := by
    rw [h.board, h.clock, h.wall]
  -- both runs are due for a poll or neither is
  have hdue_eq : (r.clock.total - r.lastPoll < r.pollInterval) =
      (r'.clock.total - r'.lastPoll < r'.pollInterval) := by
    rw [h.clock, h.lastPoll, h.pollInterval]
  by_cases hdue : r'.clock.total - r'.lastPoll < r'.pollInterval
  case pos =>
    simp only [Run.service, hdue_eq, hdue, ↓reduceIte, true_and]
    exact h
  case neg =>
    simp only [Run.service, hdue_eq, hdue, ↓reduceIte]
    rw [hpoll]
    rcases r'.board.bus.device.poll (r'.wall r'.clock.total) r'.clock.total held with ⟨q | _ | _, d⟩
    case pause => exact ⟨rfl, h⟩
    case failure => exact ⟨rfl, h⟩
    case answer =>
      -- the poll moves both runs alike; the answer then acts on both alike
      have hp : SameBut E
          { r with lastPoll := r.clock.total, board := { r.board with bus := { r.board.bus with device := d } } }
          { r' with lastPoll := r'.clock.total, board := { r'.board with bus := { r'.board.bus with device := d } } } :=
        { h with board := by rw [h.board], lastPoll := by rw [h.clock] }
      cases q
      case save => exact ⟨rfl, hp.save hE⟩
      case load => exact ⟨rfl, hp.load hE⟩
      case restart n => exact ⟨rfl, { hp with board := by rw [h.board], stats := by rw [h.stats] }⟩
      all_goals exact ⟨rfl, hp⟩

theorem SameBut.go_of_service {fuel : Nat} {r₀ : Run σ}
    (hn : (r.service ctx held).1 = (r₀.service ctx held).1)
    (h : SameBut E (r.service ctx held).2 (r₀.service ctx held).2)
    (go_rest : ∀ {s s' : Run σ}, SameBut E s s' →
      (go ctx held fuel s).1 = (go ctx held fuel s').1 ∧
        SameBut E (go ctx held fuel s).2 (go ctx held fuel s').2) :
    (go ctx held (fuel + 1) r).1 = (go ctx held (fuel + 1) r₀).1 ∧
      SameBut E (go ctx held (fuel + 1) r).2 (go ctx held (fuel + 1) r₀).2 := by
  rw [go, go]
  revert hn h
  generalize r.service ctx held = a
  generalize r₀.service ctx held = a₀
  rintro hn h
  rcases a with ⟨_ | s, rs⟩ <;> rcases a₀ with ⟨_ | s₀, rs₀⟩
  case proceed.proceed =>
    dsimp only
    obtain ⟨hx, ha⟩ := SameBut.advance ctx h
    revert hx ha
    generalize rs.advance ctx = b
    generalize rs₀.advance ctx = b₀
    rintro hx ha
    rcases b with ⟨atExit, rb⟩
    rcases b₀ with ⟨atExit₀, rb₀⟩
    -- both steps reach the exit address or neither does
    obtain rfl : atExit = atExit₀ := hx
    cases atExit
    · exact go_rest ha
    · exact ⟨rfl, ha⟩
  case stop.stop =>
    cases hn
    exact ⟨rfl, h⟩
  all_goals cases hn

theorem SameBut.go (hE : HookBisim ctx E) (fuel : Nat) (h : SameBut E r r') :
    (go ctx held fuel r).1 = (go ctx held fuel r').1 ∧
      SameBut E (go ctx held fuel r).2 (go ctx held fuel r').2 := by
  induction fuel generalizing r r' with
  | zero => exact ⟨rfl, h⟩
  | succ fuel ih =>
    obtain ⟨hn, hs⟩ := h.service held hE
    exact SameBut.go_of_service held hn hs ih

-- Where a device answers a due poll with a save request, or with a load request that fails, a
-- device that answers `NoInterrupt` instead and is otherwise the same gives the same run, as
-- long as what the hook call did to the hooks' state no later hook call can tell: the poll
-- differs only by that call, which for a save hands the hook the snapshot of the processor and
-- memory between the two steps, and the runs stop alike and are the same but for the hooks'
-- state after any number of passes.
theorem poll_transparent (hE : HookBisim ctx E) {r : Run σ} {d₀ d : Device} {q : Request}
    (hdue : r.pollInterval ≤ r.clock.total - r.lastPoll)
    (hq : r.board.bus.device.poll (r.wall r.clock.total) r.clock.total held = (.answer q, d))
    (hnothing : d₀.poll (r.wall r.clock.total) r.clock.total held = (.answer .nothing, d))
    (hcase : q = .save ∧ E (afterSave ctx r.world
        (ctx.lib.snapshots.toText (ctx.snapshot r.board.cpu r.board.bus.memory))) r.world ∨
      q = .load ∧ r.LoadFails ctx ∧ E (afterLoad ctx r.world) r.world)
    (fuel : Nat) :
    let r₀ : Run σ := { r with board := { r.board with bus := { r.board.bus with device := d₀ } } }
    (r.service ctx held).2 = { (r₀.service ctx held).2 with
      world := if q = .save
        then afterSave ctx r.world (ctx.lib.snapshots.toText (ctx.snapshot r.board.cpu r.board.bus.memory))
        else afterLoad ctx r.world } ∧
    (go ctx held (fuel + 1) r).1 = (go ctx held (fuel + 1) r₀).1 ∧
      SameBut E (go ctx held (fuel + 1) r).2 (go ctx held (fuel + 1) r₀).2 := by
  intro r₀
  have hnot : ¬r.clock.total - r.lastPoll < r.pollInterval := by omega
  -- the run as the poll leaves it, whichever the answer
  let p : Run σ :=
    { r with lastPoll := r.clock.total, board := { r.board with bus := { r.board.bus with device := d } } }
  have hs₀ : r₀.service ctx held = (.proceed, p) := by
    simp only [Run.service, r₀, hnot, ↓reduceIte, hnothing]
    rfl
  -- the answer in `r` is `p` with the hook call's state
  have hstep : ∃ w, E w r.world ∧ r.service ctx held = (.proceed, { p with world := w }) ∧
      w = if q = .save
        then afterSave ctx r.world (ctx.lib.snapshots.toText (ctx.snapshot r.board.cpu r.board.bus.memory))
        else afterLoad ctx r.world := by
    rcases hcase with ⟨rfl, hsaved⟩ | ⟨rfl, hfail, hloaded⟩
    case inl =>
      refine ⟨_, hsaved, ?_, by simp⟩
      simp only [Run.service, hnot, ↓reduceIte, hq]
      rw [save_eq]
    case inr =>
      refine ⟨_, hloaded, ?_, by simp⟩
      simp only [Run.service, hnot, ↓reduceIte, hq]
      -- the poll changes neither the hooks' state nor the memory, so the load still fails
      rw [load_of_fails ctx (r := p) hfail]
  obtain ⟨w, hw, hs, hwq⟩ := hstep
  have hsame : SameBut E { p with world := w } p :=
    { board := rfl, clock := rfl, stats := rfl, lastPoll := rfl, pollInterval := rfl, phase := rfl,
      wall := rfl, world := hw }
  refine ⟨by rw [hs, hs₀, hwq], ?_⟩
  exact SameBut.go_of_service held (by rw [hs, hs₀]) (by rw [hs, hs₀]; exact hsame)
    (SameBut.go held hE fuel)

-- A run from reset over memory full of `HLT`, polled before every step, whose device answers
-- its first two polls with `first` and `second`, and whose hooks keep a list of texts `w`.
def haltRun (first second : Request) (w : List String) : Run (List String) :=
  { board := ⟨Cpu.reset 0, ⟨Memory.filled 0x76, .scripted { script := [(0, first), (0, second)] }⟩⟩,
    clock := Clock.new, pollInterval := 0, wall := fun _ => 0, world := w }

-- Hooks that keep the texts they are handed in a list and load its first.
def shelved (lib : Libraries) : Context (List String) :=
  { lib, onSave := some fun w t => w ++ [t], onLoad := some fun w => (w.head?, w) }

-- Lists with the same first text, which a save does not change.
theorem shelved_bisim (lib : Libraries) :
    HookBisim (shelved lib) fun w w' => w ≠ [] ∧ w.head? = w'.head? := by
  rintro w w' ⟨hne, hhead⟩
  obtain ⟨x, xs, rfl⟩ := List.exists_cons_of_ne_nil hne
  refine ⟨hhead, ⟨hne, hhead⟩, fun t => ⟨by simp [afterSave, shelved], ?_⟩⟩
  -- appending keeps the head of a list that has one
  have hw' : w' ≠ [] := by
    rintro rfl
    simp at hhead
  obtain ⟨y, ys, rfl⟩ := List.exists_cons_of_ne_nil hw'
  simpa [afterSave, shelved] using hhead

theorem saving_the_halting_run_goes_unseen :
    HookBisim (shelved default) (fun w w' => w ≠ [] ∧ w.head? = w'.head?) ∧
      (haltRun .save .load ["x"]).board.bus.device.poll 0 0 false =
        (.answer .save, .scripted { script := [(0, .load)], polls := 1, pollCycles := #[0] }) ∧
      (haltRun .nothing .load ["x"]).board.bus.device.poll 0 0 false =
        (.answer .nothing, .scripted { script := [(0, .load)], polls := 1, pollCycles := #[0] }) ∧
      (go (shelved default) false 3 (haltRun .save .load ["x"])).1 =
        (go (shelved default) false 3 (haltRun .nothing .load ["x"])).1 ∧
      SameBut (fun w w' => w ≠ [] ∧ w.head? = w'.head?)
        (go (shelved default) false 3 (haltRun .save .load ["x"])).2
        (go (shelved default) false 3 (haltRun .nothing .load ["x"])).2 := by
  have hq : (haltRun .save .load ["x"]).board.bus.device.poll 0 0 false =
      (.answer .save, .scripted { script := [(0, .load)], polls := 1, pollCycles := #[0] }) := rfl
  have hn : (haltRun .nothing .load ["x"]).board.bus.device.poll 0 0 false =
      (.answer .nothing, .scripted { script := [(0, .load)], polls := 1, pollCycles := #[0] }) := rfl
  have hsaved : ["x"] ++ [""] ≠ [] ∧ (["x"] ++ [""]).head? = (["x"] : List String).head? :=
    ⟨by simp, rfl⟩
  exact ⟨shelved_bisim default, hq, hn,
    (poll_transparent false (shelved_bisim default) (Nat.zero_le _) hq hn (.inl ⟨rfl, hsaved⟩) 2).2⟩

-- The snapshot of the processor from reset over memory full of `HLT`.
def haltSnapshot : Snapshot :=
  (Snapshot.capture Flate.verbatim (Cpu.reset 0) (Memory.filled 0x76) .zlib).withRom Flate.verbatim
    (Memory.filled 0x76) []

theorem halt_snapshot_restores :
    (Snapshot.ofText (Libraries.holding haltSnapshot).parse (Libraries.holding haltSnapshot).snapshots
        "").bind (·.restore (Libraries.holding haltSnapshot).flate (Memory.filled 0x76)) =
      .ok (Memory.filled 0x76, Cpu.reset 0) := by
  have hjson : (Libraries.holding haltSnapshot).snapshots.ReadsBack
      (Libraries.holding haltSnapshot).parse haltSnapshot := ⟨_, rfl, rfl, rfl, rfl⟩
  have htext := Snapshot.ofText_toText rfl rfl hjson
  have hempty : (Libraries.holding haltSnapshot).snapshots.toText haltSnapshot = "" := rfl
  rw [hempty] at htext
  -- the bind is taken apart by its equation: reducing it would run the restore on all 64K
  have hbind : ∀ g : Snapshot → Except SnapshotError (Memory × Cpu),
      (Except.ok haltSnapshot).bind g = g haltSnapshot := fun _ => rfl
  rw [htext, hbind]
  have hz : Flate.verbatim.Inverts (Memory.filled 0x76).toByteArray := rfl
  exact Snapshot.restore_capture _ hz Flags.fixed_fixed (by simp) (by simp)

theorem reloading_a_save_repeats_steps :
    (go (shelved (Libraries.holding haltSnapshot)) false 2 (haltRun .save .load [])).2.stats.instructions = 2 ∧
      (go (shelved (Libraries.holding haltSnapshot)) false 2
        (haltRun .nothing .load [])).2.stats.instructions = 1 := by
  constructor
  · -- the first pass saves the processor from reset, then `HLT` halts it at 1
    have hs₁ : (haltRun .save .load []).service (shelved (Libraries.holding haltSnapshot)) false =
        (.proceed,
          { haltRun .save .load [""] with
            board := ⟨Cpu.reset 0, ⟨Memory.filled 0x76,
              .scripted { script := [(0, .load)], polls := 1, pollCycles := #[0] }⟩⟩ }) := rfl
    have ha₁ : Run.advance (shelved (Libraries.holding haltSnapshot))
          { haltRun .save .load [""] with
            board := ⟨Cpu.reset 0, ⟨Memory.filled 0x76,
              .scripted { script := [(0, .load)], polls := 1, pollCycles := #[0] }⟩⟩ } =
        (false,
          { haltRun .save .load [""] with
            board := ⟨{ Cpu.reset 0 with pc := 1, halted := true }, ⟨Memory.filled 0x76,
              .scripted { script := [(0, .load)], polls := 1, pollCycles := #[0] }⟩⟩
            clock := Clock.new.tick 7
            stats := { instructions := 1 }
            phase := .halted }) := rfl
    -- the second pass loads the save back over the halted processor
    have hs₂ : Run.service (shelved (Libraries.holding haltSnapshot)) false
          { haltRun .save .load [""] with
            board := ⟨{ Cpu.reset 0 with pc := 1, halted := true }, ⟨Memory.filled 0x76,
              .scripted { script := [(0, .load)], polls := 1, pollCycles := #[0] }⟩⟩
            clock := Clock.new.tick 7
            stats := { instructions := 1 }
            phase := .halted } =
        (.proceed, Run.load (shelved (Libraries.holding haltSnapshot))
          { haltRun .save .load [""] with
            board := ⟨{ Cpu.reset 0 with pc := 1, halted := true }, ⟨Memory.filled 0x76,
              .scripted { script := [], polls := 2, pollCycles := #[0, 7] }⟩⟩
            clock := Clock.new.tick 7
            stats := { instructions := 1 }
            lastPoll := 7
            phase := .halted }) := rfl
    have h₁ : go (shelved (Libraries.holding haltSnapshot)) false 2 (haltRun .save .load []) =
        go (shelved (Libraries.holding haltSnapshot)) false 1
          { haltRun .save .load [""] with
            board := ⟨{ Cpu.reset 0 with pc := 1, halted := true }, ⟨Memory.filled 0x76,
              .scripted { script := [(0, .load)], polls := 1, pollCycles := #[0] }⟩⟩
            clock := Clock.new.tick 7
            stats := { instructions := 1 }
            phase := .halted } := by
      rw [go, hs₁]
      dsimp only
      rw [ha₁]
    -- the load restores the snapshot; stated on its own so that no reduction runs the restore
    have hl : Run.load (shelved (Libraries.holding haltSnapshot))
          { haltRun .save .load [""] with
            board := ⟨{ Cpu.reset 0 with pc := 1, halted := true }, ⟨Memory.filled 0x76,
              .scripted { script := [], polls := 2, pollCycles := #[0, 7] }⟩⟩
            clock := Clock.new.tick 7
            stats := { instructions := 1 }
            lastPoll := 7
            phase := .halted } =
        { haltRun .save .load [""] with
          board := ⟨Cpu.reset 0, ⟨Memory.filled 0x76,
            .scripted { script := [], polls := 2, pollCycles := #[0, 7] }⟩⟩
          clock := Clock.new.tick 7
          stats := { instructions := 1 }
          lastPoll := 7
          phase := .halted } := by
      rw [load_of_restores _ (t := "") (m := Memory.filled 0x76) (c := Cpu.reset 0)]
      · rfl
      · rfl
      · exact halt_snapshot_restores
    rw [h₁, go, hs₂, hl]
    rfl
  · decide

end Run

end Sim8080
