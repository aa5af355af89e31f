import Mathlib
import Sim8080.Device.Timer

namespace Sim8080

namespace Timer

inductive Op where
  | raise (r : Request)
  | write (port : UInt16) (v : UInt8)
  | poll (timeNs : Nat)
  deriving Repr, DecidableEq

def Op.time? : Op → Option Nat
  | .poll τ => some τ
  | _ => none

structure Watch where
  device : Timer
  raised : List Request := []
  answers : List Request := []
  served : List Request := []
  fires : List Nat := []
  deriving Repr

namespace Watch

def step (w : Watch) : Op → Watch
  | .raise r => { w with device := w.device.raise r, raised := w.raised ++ [r] }
  | .write port v => { w with device := w.device.write port v }
  | .poll τ =>
    let answer := w.device.poll τ
    { w with device := answer.2, answers := w.answers ++ [answer.1]
             served := if w.device.quit || w.device.queued.isEmpty then w.served
               else w.served ++ [answer.1]
             fires := if !w.device.quit && w.device.queued.isEmpty && answer.1 != .nothing
               then w.fires ++ [τ] else w.fires }

def run (w : Watch) (ops : List Op) : Watch := ops.foldl step w

def start (periodNs : Nat) : Watch := { device := Timer.new periodNs }

theorem run_append (w : Watch) (xs ys : List Op) : w.run (xs ++ ys) = (w.run xs).run ys :=
  List.foldl_append

theorem run_cons (w : Watch) (o : Op) (os : List Op) : w.run (o :: os) = (w.step o).run os := rfl

end Watch

variable (t : Timer)

@[simp] theorem raise_queued (r : Request) : (t.raise r).queued = t.queued ++ [r] := rfl
@[simp] theorem raise_quit (r : Request) : (t.raise r).quit = t.quit := rfl
@[simp] theorem raise_lastFireNs (r : Request) : (t.raise r).lastFireNs = t.lastFireNs := rfl
@[simp] theorem raise_periodNs (r : Request) : (t.raise r).periodNs = t.periodNs := rfl

@[simp] theorem write_queued (p : UInt16) (v : UInt8) : (t.write p v).queued = t.queued := by
  unfold write; split
  · rfl
  · split <;> rfl

@[simp] theorem write_lastFireNs (p : UInt16) (v : UInt8) :
    (t.write p v).lastFireNs = t.lastFireNs := by
  unfold write; split
  · rfl
  · split <;> rfl

@[simp] theorem write_periodNs (p : UInt16) (v : UInt8) : (t.write p v).periodNs = t.periodNs := by
  unfold write; split
  · rfl
  · split <;> rfl

theorem write_quit (p : UInt16) (v : UInt8) : (t.write p v).quit = (t.quit || p == 0) := by
  unfold write
  by_cases h : p = 0
  · simp [h]
  · have h0 : (p == 0) = false := beq_eq_false_iff_ne.mpr h
    simp only [h0, Bool.or_false, Bool.false_eq_true, ↓reduceIte]
    split <;> rfl

theorem poll_cases (τ : Nat) :
    (t.quit = true ∧ t.poll τ = (.quit, t)) ∨
    (t.quit = false ∧ ∃ r rest, t.queued = r :: rest ∧ t.poll τ = (r, { t with queued := rest })) ∨
    (t.quit = false ∧ t.queued = [] ∧ t.periodNs ≤ τ - t.lastFireNs ∧
      t.poll τ = (.restart 1, { t with lastFireNs := τ })) ∨
    (t.quit = false ∧ t.queued = [] ∧ τ - t.lastFireNs < t.periodNs ∧ t.poll τ = (.nothing, t)) := by
  cases hq : t.quit
  case true => exact .inl ⟨rfl, by simp [poll, hq]⟩
  case false =>
    cases hl : t.queued with
    | cons r rest => exact .inr (.inl ⟨rfl, r, rest, rfl, by simp [poll, hq, hl]⟩)
    | nil =>
      by_cases hp : t.periodNs ≤ τ - t.lastFireNs
      · exact .inr (.inr (.inl ⟨rfl, rfl, hp, by simp [poll, hq, hl, hp]⟩))
      · exact .inr (.inr (.inr ⟨rfl, rfl, by omega, by simp [poll, hq, hl, hp]⟩))

namespace Watch

theorem run_of_quit (w : Watch) (hq : w.device.quit = true) (ops : List Op) :
    (w.run ops).device.quit = true ∧
      (w.run ops).answers = w.answers ++ ops.filterMap fun o => o.time?.map fun _ => .quit := by
  induction ops generalizing w with
  | nil => simp [run, hq]
  | cons o os ih =>
    rw [run_cons]
    cases o with
    | raise r => simpa [step, Op.time?] using ih _ (by simpa [step] using hq)
    | write p v => simpa [step, Op.time?] using ih _ (by simp [write_quit, hq])
    | poll τ =>
      have hp : w.device.poll τ = (.quit, w.device) := by simp [Timer.poll, hq]
      have h := ih (w.step (.poll τ)) (by simp [step, hp, hq])
      simpa [step, hp, Op.time?] using h

structure Inv (w : Watch) : Prop where
  queue : w.served ++ w.device.queued = w.raised
  last_fire : w.device.lastFireNs = w.fires.getLast?.getD 0

theorem inv_start (p : Nat) : (start p).Inv := ⟨rfl, rfl⟩

theorem step_inv {w : Watch} (h : w.Inv) (o : Op) : (w.step o).Inv := by
  cases o with
  | raise r => exact ⟨by simp [step, ← h.queue], by simpa [step] using h.last_fire⟩
  | write p v => exact ⟨by simpa [step] using h.queue, by simpa [step] using h.last_fire⟩
  | poll τ =>
    rcases poll_cases w.device τ with ⟨hq, hp⟩ | ⟨hq, r, rest, hl, hp⟩ | ⟨hq, hl, -, hp⟩ |
      ⟨hq, hl, -, hp⟩
    · exact ⟨by simpa [step, hp, hq] using h.queue, by simpa [step, hp, hq] using h.last_fire⟩
    · refine ⟨?_, by simpa [step, hp, hq, hl] using h.last_fire⟩
      simp only [step, hp, hq, hl, Bool.false_or, List.isEmpty_cons, Bool.false_eq_true, ↓reduceIte]
      rw [← h.queue, hl]
      simp
    · exact ⟨by simpa [step, hp, hq, hl] using h.queue, by simp [step, hp, hq, hl]⟩
    · exact ⟨by simpa [step, hp, hq, hl] using h.queue, by simpa [step, hp, hq, hl] using h.last_fire⟩

theorem run_inv {w : Watch} (h : w.Inv) (ops : List Op) : (w.run ops).Inv := by
  induction ops generalizing w with
  | nil => exact h
  | cons o os ih => exact ih (step_inv h o)

@[simp] theorem step_periodNs (w : Watch) (o : Op) : (w.step o).device.periodNs = w.device.periodNs := by
  cases o with
  | raise r => rfl
  | write p v => simp [step]
  | poll τ =>
    rcases poll_cases w.device τ with ⟨-, hp⟩ | ⟨-, r, rest, -, hp⟩ | ⟨-, -, -, hp⟩ | ⟨-, -, -, hp⟩
    all_goals simp [step, hp]

theorem run_periodNs (w : Watch) (ops : List Op) : (w.run ops).device.periodNs = w.device.periodNs := by
  induction ops generalizing w with
  | nil => rfl
  | cons o os ih => rw [run_cons, ih, step_periodNs]

theorem step_fires (w : Watch) (o : Op) :
    ((w.step o).fires = w.fires ∧ (w.step o).device.lastFireNs = w.device.lastFireNs) ∨
    (∃ τ, o = .poll τ ∧ w.device.periodNs ≤ τ - w.device.lastFireNs ∧
      (w.step o).fires = w.fires ++ [τ] ∧ (w.step o).device.lastFireNs = τ) := by
  cases o with
  | raise r => exact .inl ⟨rfl, rfl⟩
  | write p v => exact .inl ⟨rfl, by simp [step]⟩
  | poll τ =>
    rcases poll_cases w.device τ with ⟨hq, hp⟩ | ⟨hq, r, rest, hl, hp⟩ | ⟨hq, hl, hpd, hp⟩ |
      ⟨hq, hl, -, hp⟩
    · exact .inl ⟨by simp [step, hp, hq], by simp [step, hp]⟩
    · exact .inl ⟨by simp [step, hp, hq, hl], by simp [step, hp]⟩
    · exact .inr ⟨τ, rfl, hpd, by simp [step, hp, hq, hl], by simp [step, hp]⟩
    · exact .inl ⟨by simp [step, hp, hq, hl], by simp [step, hp]⟩

def Spaced (p b : Nat) (fires : List Nat) : Prop := (b :: fires).IsChain fun x y => x + p ≤ y

theorem Spaced.snoc {p b τ : Nat} {fires : List Nat} (h : Spaced p b fires)
    (hτ : fires.getLast?.getD b + p ≤ τ) : Spaced p b (fires ++ [τ]) := by
  unfold Spaced at h ⊢
  rw [← List.cons_append]
  refine h.append (List.isChain_singleton τ) fun x hx y hy => ?_
  rw [List.getLast?_cons, Option.mem_some_iff] at hx
  rw [List.head?_cons, Option.mem_some_iff] at hy
  subst hx hy
  exact hτ

theorem run_spaced {w : Watch} (h : w.Inv) {p : Nat} (hp : w.device.periodNs = p) (ops : List Op)
    (hmono : (ops.filterMap Op.time?).Pairwise (· ≤ ·))
    (hlate : ∀ τ ∈ ops.filterMap Op.time?, w.device.lastFireNs ≤ τ)
    (hs : Spaced p 0 w.fires) : Spaced p 0 (w.run ops).fires := by
  induction ops generalizing w with
  | nil => exact hs
  | cons o os ih =>
    rw [run_cons]
    have hsub := (List.sublist_cons_self o os).filterMap Op.time?
    have hp' : (w.step o).device.periodNs = p := by rw [step_periodNs, hp]
    rcases step_fires w o with ⟨hf, hl⟩ | ⟨τ, rfl, hpd, hf, hl⟩
    · refine ih (step_inv h o) hp' (hmono.sublist hsub) (fun τ' hτ' => ?_) (hf ▸ hs)
      rw [hl]
      exact hlate τ' (hsub.subset hτ')
    · -- the poll at `τ` fires; it is no earlier than the last fire, and the later polls follow it
      have hτ : w.device.lastFireNs ≤ τ := hlate τ (by simp [Op.time?])
      have hcons : (Op.poll τ :: os).filterMap Op.time? = τ :: os.filterMap Op.time? := rfl
      have hnext : ∀ τ' ∈ os.filterMap Op.time?, τ ≤ τ' := by
        rw [hcons] at hmono
        exact (List.pairwise_cons.mp hmono).1
      refine ih (step_inv h _) hp' (hmono.sublist hsub) (fun τ' hτ' => ?_) ?_
      · rw [hl]
        exact hnext τ' hτ'
      · rw [hf]
        refine hs.snoc ?_
        rw [← h.last_fire]
        omega

theorem Spaced.count_le {p : Nat} (t : Nat) : ∀ {b : Nat} {fires : List Nat}, Spaced p b fires →
    b + (fires.filter (· ≤ t)).length * p ≤ max t b
  | b, [], _ => by simp
  | b, x :: l, h => by
    unfold Spaced at h
    rw [List.isChain_cons_cons] at h
    have ih := Spaced.count_le t h.2
    by_cases hx : x ≤ t
    · simp only [List.filter_cons, hx, decide_true, ↓reduceIte, List.length_cons]
      rw [max_eq_left hx] at ih
      have := h.1
      rw [Nat.add_mul, Nat.one_mul]
      omega
    · simp only [List.filter_cons, hx, decide_false, Bool.false_eq_true, ↓reduceIte]
      -- no fire after `x` is up to `t` either, so the count adds nothing
      have hz : (l.filter (· ≤ t)).length * p = 0 := by
        rw [max_eq_right (by omega)] at ih
        omega
      omega

theorem Spaced.count_le_div {p : Nat} (hp : 0 < p) {fires : List Nat} (h : Spaced p 0 fires)
    (t : Nat) : (fires.filter (· ≤ t)).length ≤ t / p := by
  have := h.count_le t
  rw [Nat.le_div_iff_mul_le hp]
  simpa using this

theorem step_poll {w : Watch} (h : w.Inv) (hq : w.device.quit = false) (τ : Nat) :
    (w.step (.poll τ)).answers = w.answers ++
      [w.device.queued.head?.getD
        (if w.device.periodNs ≤ τ - w.fires.getLast?.getD 0 then .restart 1 else .nothing)] := by
  rw [← h.last_fire]
  rcases poll_cases w.device τ with ⟨hq', -⟩ | ⟨-, r, rest, hl, hp⟩ | ⟨-, hl, hpd, hp⟩ |
    ⟨-, hl, hpd, hp⟩
  · rw [hq] at hq'
    cases hq'
  · simp [step, hp, hl]
  · simp [step, hp, hl, hpd]
  · have hn : ¬w.device.periodNs ≤ τ - w.device.lastFireNs := by omega
    simp [step, hp, hl, hn]

-- Every session on a new timer device with period `p`. Once port 0 is written, every poll after
-- answers `quit`. The answers taken from the queue, followed by what is still queued, are the
-- raised requests in the order raised, so none is lost or answered twice. A poll of a device that
-- is not stopped answers the oldest queued request, and only with an empty queue the timer's:
-- restart 1 exactly when `p` has passed since the timer last fired, or since time zero. When the
-- polls come at non-decreasing times, the timer's fires are `p` apart, the first at `p` or later,
-- so with a positive period at most `t / p` of them come by time `t`.
theorem timer_session (p : Nat) :
    (∀ pre v post, ((start p).run (pre ++ .write 0 v :: post)).answers =
      ((start p).run pre).answers ++ post.filterMap fun o => o.time?.map fun _ => .quit) ∧
    (∀ ops, ((start p).run ops).served ++ ((start p).run ops).device.queued =
      ((start p).run ops).raised) ∧
    (∀ pre τ, ((start p).run pre).device.quit = false →
      (((start p).run pre).step (.poll τ)).answers = ((start p).run pre).answers ++
        [((start p).run pre).device.queued.head?.getD
          (if p ≤ τ - ((start p).run pre).fires.getLast?.getD 0 then .restart 1 else .nothing)]) ∧
    (∀ ops, (ops.filterMap Op.time?).Pairwise (· ≤ ·) →
      Spaced p 0 ((start p).run ops).fires ∧
      (0 < p → ∀ t, (((start p).run ops).fires.filter (· ≤ t)).length ≤ t / p)) := by
  have hinv (ops : List Op) : ((start p).run ops).Inv := run_inv (inv_start p) ops
  have hperiod (ops : List Op) : ((start p).run ops).device.periodNs = p := run_periodNs _ ops
  refine ⟨fun pre v post => ?_, fun ops => (hinv ops).queue, fun pre τ hq => ?_, fun ops hmono => ?_⟩
  · -- the write stops the device, and it stays stopped for the rest
    have hq : ((start p).run (pre ++ [.write 0 v])).device.quit = true := by
      simp [run, step, write_quit]
    rw [← List.singleton_append, ← List.append_assoc, run_append, (run_of_quit _ hq post).2,
      run_append]
    rfl
  · rw [step_poll (hinv pre) hq, hperiod]
  · have hs : Spaced p 0 ((start p).run ops).fires :=
      run_spaced (inv_start p) rfl ops hmono (fun τ _ => Nat.zero_le τ) (List.isChain_singleton 0)
    exact ⟨hs, fun hp t => hs.count_le_div hp t⟩

-- With a period of 1000 ns and polls every 500 ns, the timer fires at 1000 and 2000, and by
-- time 2000 it has fired twice.
theorem timer_fires_each_period :
    ((start 1000).run [.poll 500]).device.quit = false ∧
      (((start 1000).run [.poll 500]).step (.poll 1000)).answers = [.nothing, .restart 1] ∧
      ((start 1000).run [.poll 500, .poll 1000, .poll 1500, .poll 2000]).fires = [1000, 2000] ∧
      (((start 1000).run [.poll 500, .poll 1000, .poll 1500, .poll 2000]).fires.filter
        (· ≤ 2000)).length ≤ 2000 / 1000 := by
  obtain ⟨-, -, hpoll, hpace⟩ := timer_session 1000
  exact ⟨rfl, (hpoll [.poll 500] 1000 rfl).trans rfl, rfl, (hpace _ (by decide)).2 (by decide) 2000⟩

-- A restart 1 raised by hand is answered from the queue and does not restart the period: the
-- timer's own restart still comes at the same time, so two restart 1 answers come at 1000 ns with
-- a period of 1000 ns.
theorem queued_restart_leaves_timer_due :
    ((start 1000).run [.raise (.restart 1), .poll 1000, .poll 1000]).answers =
        [.restart 1, .restart 1] ∧
      ((start 1000).run [.raise (.restart 1), .poll 1000, .poll 1000]).fires = [1000] := by
  decide

end Watch

end Timer

end Sim8080
