import Mathlib.Data.List.Basic
import Mathlib.Data.List.TakeWhile

/-!
# Counting in fixed windows

A counter admits so many times in a window. The first time after a window has ended opens the next one. Whatever the
times are, they fall into windows of at most that many, and no interval as long as a window meets more than two of
them.
-/

namespace FixedWindow

/-- How often the window was used, and when it ends. -/
structure Bucket where
  count : Nat
  expiresAt : Int
  deriving DecidableEq

/-- The window that is open, or else the one that opens now. -/
def current (length : Nat) (now : Int) : Option Bucket → Bucket
  | some bucket => if bucket.expiresAt > now then bucket else ⟨0, now + length⟩
  | none => ⟨0, now + length⟩

def used (bucket : Bucket) : Bucket :=
  { bucket with count := bucket.count + 1 }

/-- Each of the times found its window not full. -/
def Admits (length limit : Nat) : Option Bucket → List Int → Prop
  | _, [] => True
  | bucket, now :: times => (current length now bucket).count < limit ∧
    Admits length limit (some (used (current length now bucket))) times

/-- The time comes before the window ends. -/
def within (expiresAt time : Int) : Bool :=
  decide (time < expiresAt)

/-- A window is opened by the first time after the one before has ended. -/
def windows (length : Nat) : List Int → List (List Int)
  | [] => []
  | opened :: times =>
    (opened :: times.takeWhile (within (opened + length))) ::
      windows length (times.dropWhile (within (opened + length)))
  termination_by times => times.length
  decreasing_by
    have h := (List.dropWhile_suffix (within (opened + length)) : times.dropWhile _ <:+ times).length_le
    simp only [List.length_cons]
    omega

variable {length limit : Nat} {times : List Int}

theorem windows_nil : windows length [] = [] := by
  unfold windows
  rfl

theorem windows_cons (opened : Int) : windows length (opened :: times) =
    (opened :: times.takeWhile (within (opened + length))) ::
      windows length (times.dropWhile (within (opened + length))) := by
  rw [windows]

/-- Induction over the windows. -/
theorem windows_induction {motive : List Int → Prop} (length : Nat) (hnil : motive [])
    (hcons : ∀ opened times, motive (times.dropWhile (within (opened + length))) →
      motive (opened :: times)) (times : List Int) : motive times := by
  induction times using windows.induct length with
  | case1 => exact hnil
  | case2 opened times ih => exact hcons opened times ih

/-- No time is lost. -/
theorem flatten_windows (times : List Int) : (windows length times).flatten = times := by
  induction times using windows_induction length with
  | hnil => rw [windows_nil]; rfl
  | hcons opened times ih =>
    rw [windows_cons, List.flatten_cons, ih, List.cons_append, List.takeWhile_append_dropWhile]

/-- The times that a window has room for, and those of later windows. -/
theorem windows_of_admits {bucket : Bucket} (hroom : bucket.count ≤ limit) (h : Admits length limit (some bucket) times) :
    (times.takeWhile (within bucket.expiresAt)).length + bucket.count ≤ limit ∧
      ∀ window ∈ windows length (times.dropWhile (within bucket.expiresAt)), window.length ≤ limit := by
  induction times generalizing bucket with
  | nil => simpa [windows_nil] using hroom
  | cons now times ih =>
    obtain ⟨hcount, hrest⟩ := h
    by_cases hopen : now < bucket.expiresAt
    · -- the time falls into the window that is open
      have hcurrent : current length now (some bucket) = bucket := if_pos hopen
      rw [hcurrent] at hcount hrest
      obtain ⟨hfirst, hlater⟩ := @ih (used bucket) hcount hrest
      rw [List.takeWhile_cons_of_pos (by simpa [within] using hopen), List.dropWhile_cons_of_pos (by simpa [within] using hopen)]
      simp only [used, List.length_cons] at hfirst ⊢
      exact ⟨by omega, hlater⟩
    · -- the time opens a window of its own
      have hcurrent : current length now (some bucket) = ⟨0, now + length⟩ := if_neg hopen
      rw [hcurrent] at hcount hrest
      obtain ⟨hfirst, hlater⟩ := @ih (used ⟨0, now + length⟩) hcount hrest
      rw [List.takeWhile_cons_of_neg (by simpa [within] using hopen), List.dropWhile_cons_of_neg (by simpa [within] using hopen),
        windows_cons]
      refine ⟨by simpa using hroom, ?_⟩
      rw [List.forall_mem_cons]
      refine ⟨?_, hlater⟩
      simp only [used, List.length_cons] at hfirst ⊢
      omega

/-- From the beginning, no window has more than the limit. -/
theorem length_le_of_admits (h : Admits length limit none times) : ∀ window ∈ windows length times, window.length ≤ limit := by
  cases times with
  | nil =>
    rw [windows_nil]
    simp
  | cons now times =>
    obtain ⟨hcount, hrest⟩ := h
    obtain ⟨hfirst, hlater⟩ := @windows_of_admits length limit times (used ⟨0, now + length⟩) hcount hrest
    rw [windows_cons, List.forall_mem_cons]
    refine ⟨?_, hlater⟩
    simp only [used, List.length_cons] at hfirst ⊢
    omega

/-! ## Times that do not decrease -/

/-- Every window is opened by its first time and over after its length, before the next one is opened. -/
structure Separate (length : Nat) (groups : List (List Int)) : Prop where
  opened : ∀ group ∈ groups, ∃ opened later, group = opened :: later ∧ ∀ time ∈ later, opened ≤ time ∧ time < opened + length
  apart : groups.Pairwise fun group next => ∀ opened ∈ group.head?, ∀ time ∈ next, opened + (length : Int) ≤ time

theorem le_of_dropWhile {expiresAt time : Int} (hsorted : times.Pairwise (· ≤ ·))
    (h : time ∈ times.dropWhile (within expiresAt)) : expiresAt ≤ time := by
  induction times with
  | nil => simp at h
  | cons first times ih =>
    obtain ⟨hfirst, hsorted⟩ := List.pairwise_cons.1 hsorted
    by_cases hwithin : within expiresAt first = true
    · rw [List.dropWhile_cons_of_pos hwithin] at h
      exact ih hsorted h
    · rw [List.dropWhile_cons_of_neg hwithin] at h
      have hle : expiresAt ≤ first := by simpa [within] using hwithin
      rcases List.mem_cons.1 h with rfl | h
      · exact hle
      · exact Int.le_trans hle (hfirst time h)

theorem sorted_dropWhile {p : Int → Bool} (hsorted : times.Pairwise (· ≤ ·)) : (times.dropWhile p).Pairwise (· ≤ ·) :=
  hsorted.sublist (List.dropWhile_sublist p)

theorem separate_windows (hsorted : times.Pairwise (· ≤ ·)) : Separate length (windows length times) := by
  induction times using windows_induction length with
  | hnil =>
    rw [windows_nil]
    exact ⟨by simp, .nil⟩
  | hcons opened times ih =>
    obtain ⟨hfirst, hsorted⟩ := List.pairwise_cons.1 hsorted
    obtain ⟨hopened, hapart⟩ := ih (sorted_dropWhile hsorted)
    rw [windows_cons]
    refine ⟨?_, List.pairwise_cons.2 ⟨?_, hapart⟩⟩
    · rw [List.forall_mem_cons]
      refine ⟨⟨opened, _, rfl, fun time htime => ?_⟩, hopened⟩
      have hwithin := List.mem_takeWhile_imp htime
      exact ⟨hfirst time ((List.takeWhile_sublist _).subset htime), by simpa [within] using hwithin⟩
    · -- what comes later was not taken
      intro next hnext first hhead time htime
      obtain rfl := Option.some.inj hhead
      refine le_of_dropWhile hsorted ?_
      rw [← flatten_windows (times.dropWhile _)]
      exact List.mem_flatten.2 ⟨next, hnext, htime⟩

/-- How many of the times fall into an interval. -/
def countIn (start : Int) (length : Nat) (times : List Int) : Nat :=
  times.countP fun time => decide (start ≤ time ∧ time < start + length)

theorem countIn_le_length (start : Int) : countIn start length times ≤ times.length :=
  List.countP_le_length

theorem countIn_append (start : Int) (earlier later : List Int) :
    countIn start length (earlier ++ later) = countIn start length earlier + countIn start length later :=
  List.countP_append

theorem countIn_eq_zero {start : Int} (h : ∀ time ∈ times, time < start ∨ start + length ≤ time) :
    countIn start length times = 0 := by
  refine List.countP_eq_zero.2 fun time htime => ?_
  have := h time htime
  simp only [decide_eq_true_eq]
  omega

/-- An interval as long as a window meets two of them at most. -/
theorem countIn_le (hlimit : ∀ window ∈ windows length times, window.length ≤ limit) (hsorted : times.Pairwise (· ≤ ·))
    (start : Int) : countIn start length times ≤ 2 * limit ∧
      ((∀ time ∈ times, start ≤ time) → countIn start length times ≤ limit) := by
  induction times using windows_induction length with
  | hnil => simp [countIn]
  | hcons opened times ih =>
    obtain ⟨hfirst, hsorted⟩ := List.pairwise_cons.1 hsorted
    rw [windows_cons, List.forall_mem_cons] at hlimit
    have hih := ih hlimit.2 (sorted_dropWhile hsorted)
    have hsplit : opened :: times = (opened :: times.takeWhile (within (opened + length))) ++
        times.dropWhile (within (opened + length)) := by
      rw [List.cons_append, List.takeWhile_append_dropWhile]
    have hwindow : countIn start length (opened :: times.takeWhile (within (opened + length))) ≤ limit :=
      (countIn_le_length start).trans hlimit.1
    rw [hsplit, countIn_append]
    by_cases hstart : start ≤ opened
    · -- the later windows begin after the interval
      have hlater : countIn start length (times.dropWhile (within (opened + length))) = 0 :=
        countIn_eq_zero fun time htime => .inr (by have := le_of_dropWhile hsorted htime; omega)
      rw [hlater]
      exact ⟨by omega, fun _ => by omega⟩
    · refine ⟨?_, fun hall => absurd (hall opened (by simp)) hstart⟩
      by_cases hend : ∀ time ∈ times.dropWhile (within (opened + length)), start ≤ time
      · have := hih.2 hend
        omega
      · -- the next window begins before the interval, and this one is over by then
        obtain ⟨next, hnext, hbefore⟩ : ∃ next ∈ times.dropWhile (within (opened + length)), next < start := by
          simpa using hend
        have hover := le_of_dropWhile hsorted hnext
        have hnone : countIn start length (opened :: times.takeWhile (within (opened + length))) = 0 := by
          refine countIn_eq_zero fun time htime => .inl ?_
          rcases List.mem_cons.1 htime with rfl | htime
          · omega
          · have hwithin := List.mem_takeWhile_imp htime
            simp only [within, decide_eq_true_eq] at hwithin
            omega
        have := hih.1
        omega

/-- The times fall into windows of at most the limit, and at most twice as many into any interval as long as a window. -/
structure Bounded (length limit : Nat) (times : List Int) : Prop where
  windows : ∀ window ∈ windows length times, window.length ≤ limit
  separate : Separate length (FixedWindow.windows length times)
  intervals : ∀ start, countIn start length times ≤ 2 * limit

theorem bounded_of_admits (h : Admits length limit none times) (hsorted : times.Pairwise (· ≤ ·)) :
    Bounded length limit times where
  windows := length_le_of_admits h
  separate := separate_windows hsorted
  intervals start := (countIn_le (length_le_of_admits h) hsorted start).1

end FixedWindow
