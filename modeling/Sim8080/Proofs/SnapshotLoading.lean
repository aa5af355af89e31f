import Mathlib
import Sim8080.Proofs.MachineSettings

namespace Sim8080

namespace MemoryImage

variable (flate : Flate)

theorem inflateAtMost_size_le {bytes : ByteArray} {limit : Nat} {out : ByteArray}
    (h : inflateAtMost flate bytes limit = .ok out) : out.size ≤ limit := by
  unfold inflateAtMost at h
  split at h
  case h_1 =>
    cases h
    simp
  case h_2 =>
    split at h
    · cases h
      simp
    · cases h

-- Why an image is refused: each case holds when the checks before it pass and its own fails.
inductive Rejects (img : MemoryImage) : SnapshotError → Prop
  | size : img.size ≠ addressSpace → Rejects img (.size addressSpace img.size)
  | codec {m : String} : img.size = addressSpace → img.inflate flate = .error m →
      Rejects img (.codec m)
  | length {raw : ByteArray} : img.size = addressSpace → img.inflate flate = .ok raw →
      raw.size ≠ img.size → Rejects img (.size img.size raw.size)
  | checksum {raw : ByteArray} : img.size = addressSpace → img.inflate flate = .ok raw →
      raw.size = img.size → flate.crc32 [raw] ≠ img.crc32 →
      Rejects img (.checksum img.crc32 (flate.crc32 [raw]))

theorem decode_eq (img : MemoryImage) :
    img.decode flate =
      if img.size = addressSpace then
        match img.inflate flate with
        | .error m => .error (.codec m)
        | .ok raw =>
          if raw.size = img.size then
            if flate.crc32 [raw] = img.crc32 then .ok raw
            else .error (.checksum img.crc32 (flate.crc32 [raw]))
          else .error (.size img.size raw.size)
      else .error (.size addressSpace img.size) := by
  unfold decode
  by_cases hs : img.size = addressSpace
  · rcases img.inflate flate with m | raw
    all_goals simp [hs, bind, Except.bind, Except.mapError, throw, throwThe, MonadExceptOf.throw,
      pure, Except.pure]
  · simp [hs, bind, Except.bind, throw, throwThe, MonadExceptOf.throw]

theorem decode_eq_error {img : MemoryImage} {e : SnapshotError} :
    img.decode flate = .error e ↔ img.Rejects flate e := by
  rw [decode_eq]
  constructor
  · intro h
    by_cases hs : img.size = addressSpace
    · rw [if_pos hs] at h
      rcases hi : img.inflate flate with m | raw
      · rw [hi] at h
        cases h
        exact .codec hs hi
      · rw [hi] at h
        by_cases hl : raw.size = img.size
        · by_cases hc : flate.crc32 [raw] = img.crc32
          · simp [hl, hc] at h
          · simp only [hl, hc, if_true, if_false, Except.error.injEq] at h
            subst h
            exact .checksum hs hi hl hc
        · simp only [hl, if_false, Except.error.injEq] at h
          subst h
          exact .length hs hi hl
    · rw [if_neg hs] at h
      cases h
      exact .size hs
  · rintro (⟨hs⟩ | ⟨hs, hi⟩ | ⟨hs, hi, hl⟩ | ⟨hs, hi, hl, hc⟩)
    · rw [if_neg hs]
    · rw [if_pos hs, hi]
    · simp only [if_pos hs, hi, if_neg hl]
    · simp only [if_pos hs, hi, if_pos hl, if_neg hc]

theorem decode_eq_ok {img : MemoryImage} {raw : ByteArray} :
    img.decode flate = .ok raw ↔
      img.size = addressSpace ∧ img.inflate flate = .ok raw ∧ raw.size = addressSpace ∧
        flate.crc32 [raw] = img.crc32 := by
  rw [decode_eq]
  constructor
  · intro h
    by_cases hs : img.size = addressSpace
    · rw [if_pos hs] at h
      rcases hi : img.inflate flate with m | raw'
      · rw [hi] at h
        cases h
      · rw [hi] at h
        by_cases hl : raw'.size = img.size
        · by_cases hc : flate.crc32 [raw'] = img.crc32
          · simp only [hl, hc, if_true, Except.ok.injEq] at h
            subst h
            exact ⟨hs, rfl, hl.trans hs, hc⟩
          · simp [hl, hc] at h
        · simp [hl] at h
    · rw [if_neg hs] at h
      cases h
  · rintro ⟨hs, hi, hl, hc⟩
    simp only [if_pos hs, hi, if_pos (hl.trans hs.symm), if_pos hc]

end MemoryImage

namespace Snapshot

def formatOf (v : Json) : String := ((v.get? "format").bind Json.asString?).getD ""

def versionOf (v : Json) : Nat := ((v.get? "version").bind Json.asNat?).getD 0

theorem ofText_eq (parse : String → Except String Json) (codec : Codec) (text : String) :
    ofText parse codec text =
      match parse text with
      | .error m => .error (.json m)
      | .ok v =>
        if formatOf v = formatTag then
          if versionOf v = formatVersion then (codec.ofValue v).mapError .json
          else .error (.version (versionOf v))
        else .error (.format (formatOf v)) := by
  unfold ofText
  rcases parse text with m | v
  · rfl
  · simp [formatOf, versionOf, bind, Except.bind, Except.mapError, throw, throwThe,
      MonadExceptOf.throw]
    rfl

theorem restore_eq (flate : Flate) (s : Snapshot) (mem : Memory) :
    s.restore flate mem =
      if (RomDigest.compute flate mem s.rom.regions).crc32 = s.rom.crc32 then
        (s.memory.decode flate).map fun raw =>
          (if h : raw.size = addressSpace then Memory.ofByteArray raw h else mem.writeAll 0 raw.toList,
            Cpu.ofSaved s.cpu)
      else .error (.incompatibleRom s.rom.crc32 (RomDigest.compute flate mem s.rom.regions).crc32) := by
  unfold restore
  by_cases hr : (RomDigest.compute flate mem s.rom.regions).crc32 = s.rom.crc32
  · rcases s.memory.decode flate with e | raw
    all_goals simp [hr, bind, Except.bind, Except.map, pure, Except.pure]
  · simp [hr, bind, Except.bind, throw, throwThe, MonadExceptOf.throw]

-- Why the document `text` is not restored over memory `mem` with the libraries `lib`: each case
-- holds when the checks before it pass and its own fails.
inductive Rejects (lib : Libraries) (text : String) (mem : Memory) : SnapshotError → Prop
  | notJson {m : String} : lib.parse text = .error m → Rejects lib text mem (.json m)
  | format {v : Json} : lib.parse text = .ok v → formatOf v ≠ formatTag →
      Rejects lib text mem (.format (formatOf v))
  | version {v : Json} : lib.parse text = .ok v → formatOf v = formatTag →
      versionOf v ≠ formatVersion → Rejects lib text mem (.version (versionOf v))
  | shape {v : Json} {m : String} : lib.parse text = .ok v → formatOf v = formatTag →
      versionOf v = formatVersion → lib.snapshots.ofValue v = .error m → Rejects lib text mem (.json m)
  | rom {s : Snapshot} : ofText lib.parse lib.snapshots text = .ok s →
      (RomDigest.compute lib.flate mem s.rom.regions).crc32 ≠ s.rom.crc32 →
      Rejects lib text mem
        (.incompatibleRom s.rom.crc32 (RomDigest.compute lib.flate mem s.rom.regions).crc32)
  | image {s : Snapshot} {e : SnapshotError} : ofText lib.parse lib.snapshots text = .ok s →
      (RomDigest.compute lib.flate mem s.rom.regions).crc32 = s.rom.crc32 →
      s.memory.Rejects lib.flate e → Rejects lib text mem e

theorem restore_eq_error {flate : Flate} {s : Snapshot} {mem : Memory} {e : SnapshotError} :
    s.restore flate mem = .error e ↔
      ((RomDigest.compute flate mem s.rom.regions).crc32 ≠ s.rom.crc32 ∧
          e = .incompatibleRom s.rom.crc32 (RomDigest.compute flate mem s.rom.regions).crc32) ∨
        ((RomDigest.compute flate mem s.rom.regions).crc32 = s.rom.crc32 ∧
          s.memory.Rejects flate e) := by
  rw [restore_eq, ← MemoryImage.decode_eq_error]
  by_cases hr : (RomDigest.compute flate mem s.rom.regions).crc32 = s.rom.crc32
  · rw [if_pos hr]
    rcases s.memory.decode flate with e' | raw <;> simp [Except.map, hr]
  · rw [if_neg hr]
    simp [hr, eq_comm]

theorem restore_eq_ok {flate : Flate} {s : Snapshot} {mem mem' : Memory} {cpu : Cpu} :
    s.restore flate mem = .ok (mem', cpu) ↔
      (RomDigest.compute flate mem s.rom.regions).crc32 = s.rom.crc32 ∧
        ∃ raw, ∃ h : raw.size = addressSpace, s.memory.decode flate = .ok raw ∧
          mem' = Memory.ofByteArray raw h ∧ cpu = Cpu.ofSaved s.cpu := by
  rw [restore_eq]
  by_cases hr : (RomDigest.compute flate mem s.rom.regions).crc32 = s.rom.crc32
  · rw [if_pos hr]
    rcases hd : s.memory.decode flate with e' | raw
    · simp [Except.map, hr]
    · have hsize := ((MemoryImage.decode_eq_ok flate).mp hd).2.2.1
      simp [Except.map, hr, hsize, eq_comm]
  · rw [if_neg hr]
    simp [hr]

variable {lib : Libraries} {text : String} {mem : Memory}

theorem rejects_of_ofText {e : SnapshotError} (h : ofText lib.parse lib.snapshots text = .error e) :
    Rejects lib text mem e := by
  rw [ofText_eq] at h
  rcases hp : lib.parse text with m | v
  · simp only [hp] at h
    cases h
    exact .notJson hp
  simp only [hp] at h
  by_cases hf : formatOf v = formatTag
  · by_cases hv : versionOf v = formatVersion
    · rw [if_pos hf, if_pos hv] at h
      rcases hr : lib.snapshots.ofValue v with m | s'
      · rw [hr] at h
        cases h
        exact .shape hp hf hv hr
      · rw [hr] at h
        cases h
    · rw [if_pos hf, if_neg hv] at h
      cases h
      exact .version hp hf hv
  · rw [if_neg hf] at h
    cases h
    exact .format hp hf

theorem bind_restore_eq_error {e : SnapshotError} :
    (ofText lib.parse lib.snapshots text).bind (·.restore lib.flate mem) = .error e ↔
      Rejects lib text mem e := by
  constructor
  · intro h
    rcases ho : ofText lib.parse lib.snapshots text with e' | s
    · rw [ho] at h
      cases h
      exact rejects_of_ofText ho
    · rw [ho] at h
      rcases restore_eq_error.mp h with ⟨hr, rfl⟩ | ⟨hr, hi⟩
      · exact .rom ho hr
      · exact .image ho hr hi
  · intro h
    cases h with
    | notJson hp => simp only [ofText_eq, hp]; rfl
    | format hp hf => simp only [ofText_eq, hp, if_neg hf]; rfl
    | version hp hf hv => simp only [ofText_eq, hp, if_pos hf, if_neg hv]; rfl
    | shape hp hf hv hr => simp only [ofText_eq, hp, if_pos hf, if_pos hv, hr]; rfl
    | rom ho hr => rw [ho]; exact restore_eq_error.mpr (.inl ⟨hr, rfl⟩)
    | image ho hr hi => rw [ho]; exact restore_eq_error.mpr (.inr ⟨hr, hi⟩)

theorem bind_restore_eq_ok {mem' : Memory} {cpu : Cpu} :
    (ofText lib.parse lib.snapshots text).bind (·.restore lib.flate mem) = .ok (mem', cpu) ↔
      ∃ s raw, ∃ h : raw.size = addressSpace, ofText lib.parse lib.snapshots text = .ok s ∧
        (RomDigest.compute lib.flate mem s.rom.regions).crc32 = s.rom.crc32 ∧
        s.memory.decode lib.flate = .ok raw ∧
        mem' = Memory.ofByteArray raw h ∧ cpu = Cpu.ofSaved s.cpu := by
  rcases ho : ofText lib.parse lib.snapshots text with e | s
  · simp [Except.bind]
  · simp only [Except.bind, restore_eq_ok, Except.ok.injEq, exists_and_left, exists_eq_left']

end Snapshot

namespace Machine

variable {σ : Type}

-- A run holds the context: the phase is running or halted, or a background run is paused.
def Busy (m : Machine σ) : Prop := m.phase.isActive = true ∨ ∃ ctx r, m.worker = some (.paused ctx r)

theorem idle_of_busy {m : Machine σ} (h : m.Busy) : m.idle = .error .busy := by
  unfold idle
  rcases h with h | ⟨ctx, r, h⟩
  · rw [if_pos h]
  · split
    · rfl
    · rw [h]

theorem idle_of_not_busy {m : Machine σ} (h : ¬m.Busy) : m.idle = .ok m.context := by
  unfold idle
  rw [if_neg fun ha => h (.inl ha)]
  split
  · next ctx r hw => exact absurd (.inr ⟨ctx, r, hw⟩) h
  · rfl

theorem load_run (text : String) (m : Machine σ) :
    (load text).run m =
      match m.idle with
      | .error e => (.error e, m)
      | .ok _ =>
        match m.context.system with
        | .error e => (.error e, m)
        | .ok sys =>
          match (Snapshot.ofText m.context.lib.parse m.context.lib.snapshots text).bind
              (·.restore m.context.lib.flate sys.memory) with
          | .ok (mem, cpu) =>
            (.ok (), { m with context := { m.context with memory := some mem, cpu } })
          | .error e => (.error (.snapshot e), m) := by
  unfold load
  rw [run_idle_bind]
  rcases hi : m.idle with e | ctx
  · rfl
  · obtain rfl := idle_eq_ok hi
    dsimp only
    rcases hsys : m.context.system with e | sys
    · rfl
    · simp only [pure_bind]
      rcases (Snapshot.ofText m.context.lib.parse m.context.lib.snapshots text).bind
        (·.restore m.context.lib.flate sys.memory) with e | ⟨mem, cpu⟩ <;> rfl

-- Why loading `text` into `m` fails: each case holds when the checks before it pass and its own
-- fails.
inductive LoadRejects (m : Machine σ) (text : String) : MachineError → Prop
  | busy : m.Busy → LoadRejects m text .busy
  | noMemory : ¬m.Busy → m.context.memory = none → LoadRejects m text .noMemory
  | noDevice {mem : Memory} : ¬m.Busy → m.context.memory = some mem → m.context.device = none →
      LoadRejects m text .noDevice
  | snapshot {mem : Memory} {d : Device} {e : SnapshotError} : ¬m.Busy →
      m.context.memory = some mem → m.context.device = some d →
      Snapshot.Rejects m.context.lib text mem e → LoadRejects m text (.snapshot e)

theorem load_of_rejects {text : String} {m : Machine σ} {e : MachineError}
    (h : LoadRejects m text e) : (load text).run m = (.error e, m) := by
  rw [load_run]
  cases h with
  | busy hb => rw [idle_of_busy hb]
  | noMemory hb hmem => simp only [idle_of_not_busy hb, Context.system, hmem]
  | noDevice hb hmem hdev => simp only [idle_of_not_busy hb, Context.system, hmem, hdev]
  | snapshot hb hmem hdev hs =>
    simp only [idle_of_not_busy hb, Context.system, hmem, hdev,
      Snapshot.bind_restore_eq_error.mpr hs]

theorem rejects_of_load {text : String} {m m' : Machine σ} {e : MachineError}
    (h : (load text).run m = (.error e, m')) : m' = m ∧ LoadRejects m text e := by
  rw [load_run] at h
  by_cases hb : m.Busy
  · rw [idle_of_busy hb] at h
    cases h
    exact ⟨rfl, .busy hb⟩
  rw [idle_of_not_busy hb] at h
  rcases hmem : m.context.memory with _ | mem
  · simp only [Context.system, hmem] at h
    cases h
    exact ⟨rfl, .noMemory hb hmem⟩
  rcases hdev : m.context.device with _ | d
  · simp only [Context.system, hmem, hdev] at h
    cases h
    exact ⟨rfl, .noDevice hb hmem hdev⟩
  simp only [Context.system, hmem, hdev] at h
  rcases hs : (Snapshot.ofText m.context.lib.parse m.context.lib.snapshots text).bind
      (·.restore m.context.lib.flate mem) with e' | ⟨mem', cpu⟩
  · rw [hs] at h
    cases h
    exact ⟨rfl, .snapshot hb hmem hdev (Snapshot.bind_restore_eq_error.mp hs)⟩
  · rw [hs] at h
    cases h

theorem load_restores {text : String} {m m' : Machine σ} (h : (load text).run m = (.ok (), m')) :
    ∃ s raw, ∃ hr : raw.size = addressSpace,
      Snapshot.ofText m.context.lib.parse m.context.lib.snapshots text = .ok s ∧
      s.memory.decode m.context.lib.flate = .ok raw ∧
      m' = { m with context := { m.context with memory := some (Memory.ofByteArray raw hr),
                                                cpu := Cpu.ofSaved s.cpu } } := by
  rw [load_run] at h
  rcases hi : m.idle with e | ctx
  · rw [hi] at h
    cases h
  rw [hi] at h
  rcases hsys : m.context.system with e | sys
  · simp only [hsys] at h
    cases h
  simp only [hsys] at h
  rcases hs : (Snapshot.ofText m.context.lib.parse m.context.lib.snapshots text).bind
      (·.restore m.context.lib.flate sys.memory) with e | ⟨mem, cpu⟩
  · rw [hs] at h
    cases h
  rw [hs] at h
  cases h
  obtain ⟨s, raw, hr, ho, -, hd, rfl, rfl⟩ := Snapshot.bind_restore_eq_ok.mp hs
  exact ⟨s, raw, hr, ho, hd, rfl⟩

end Machine

-- Apart from the hooks' state, which the hook moves on whatever it answers, a load the program
-- asks for either restores a snapshot or leaves the run as it was.
theorem Run.load_restores_or_keeps {σ : Type} (ctx : Context σ) (r : Run σ) :
    r.load ctx = { r with world := (r.load ctx).world } ∨
      ∃ t s raw, ∃ hr : raw.size = addressSpace,
        Snapshot.ofText ctx.lib.parse ctx.lib.snapshots t = .ok s ∧
        s.memory.decode ctx.lib.flate = .ok raw ∧
        r.load ctx = { r with board := ⟨Cpu.ofSaved s.cpu,
                                        { r.board.bus with memory := Memory.ofByteArray raw hr }⟩,
                              world := (r.load ctx).world } := by
  unfold Run.load
  split
  case h_1 => exact .inl rfl
  case h_2 hook _ =>
    dsimp only
    split
    case h_1 => exact .inl rfl
    case h_2 t _ =>
      rcases hs : (Snapshot.ofText ctx.lib.parse ctx.lib.snapshots t).bind
          (·.restore ctx.lib.flate r.board.bus.memory) with e | ⟨mem, cpu⟩
      · exact .inl rfl
      · obtain ⟨s, raw, hr, ho, -, hd, rfl, rfl⟩ := Snapshot.bind_restore_eq_ok.mp hs
        exact .inr ⟨t, s, raw, hr, ho, hd, rfl⟩

namespace Machine

variable {σ : Type}

theorem load_atomic_in_order (text : String) (m : Machine σ) :
    (∀ e m', (load text).run m = (.error e, m') ↔ m' = m ∧ LoadRejects m text e) ∧
    (∀ m', (load text).run m = (.ok (), m') →
      ∃ s raw, ∃ hr : raw.size = addressSpace,
        Snapshot.ofText m.context.lib.parse m.context.lib.snapshots text = .ok s ∧
        s.memory.decode m.context.lib.flate = .ok raw ∧
        m.context.lib.flate.crc32 [raw] = s.memory.crc32 ∧
        m' = { m with context := { m.context with memory := some (Memory.ofByteArray raw hr),
                                                  cpu := Cpu.ofSaved s.cpu } }) ∧
    (∀ (ctx : Context σ) r, Run.load ctx r = { r with world := (Run.load ctx r).world } ∨
      ∃ t s raw, ∃ hr : raw.size = addressSpace,
        Snapshot.ofText ctx.lib.parse ctx.lib.snapshots t = .ok s ∧
        s.memory.decode ctx.lib.flate = .ok raw ∧
        Run.load ctx r = { r with board := ⟨Cpu.ofSaved s.cpu,
                                             { r.board.bus with memory := Memory.ofByteArray raw hr }⟩,
                                  world := (Run.load ctx r).world }) ∧
    (∀ (flate : Flate) (img : MemoryImage) raw, img.decode flate = .ok raw →
      raw.size = addressSpace ∧ flate.crc32 [raw] = img.crc32) ∧
    (∀ (flate : Flate) (img : MemoryImage) raw, img.compressor = .zlib →
      img.inflate flate = .ok raw → raw.size ≤ addressSpace + 1) := by
  refine ⟨fun e m' => ⟨rejects_of_load, by rintro ⟨rfl, h⟩; exact load_of_rejects h⟩,
    fun m' h => ?_, Run.load_restores_or_keeps, fun flate img raw h => ?_,
    fun flate img raw hz h => ?_⟩
  · obtain ⟨s, raw, hr, ho, hd, rfl⟩ := load_restores h
    exact ⟨s, raw, hr, ho, hd, ((MemoryImage.decode_eq_ok _).mp hd).2.2.2, rfl⟩
  · obtain ⟨-, -, hsize, hcrc⟩ := (MemoryImage.decode_eq_ok flate).mp h
    exact ⟨hsize, hcrc⟩
  · simp only [MemoryImage.inflate, hz] at h
    exact MemoryImage.inflateAtMost_size_le flate h

end Machine

end Sim8080
