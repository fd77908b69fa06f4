import Mathlib.Data.List.ReduceOption
import Mathlib.Logic.Relation
import Timetable.Job.Pool
/-!
# Runs of a worker pool

No step of a worker loses, repeats or changes a result that is still to come. When the queue
and all hands are empty, the finished results are therefore those of all items, in some order.
Until then some worker can go on, and each step brings the end nearer. The run in rounds is one
such run.

## Main definitions

- `Pool.Reaches` — what a pool can become by steps of its workers
- `Pool.Done` — nothing is left to do
- `Pool.outcome` — the results that are there and those still to come
- `Pool.stepsLeft` — how many steps are still to come

## Main statements

- `Pool.finished_perm_of_done` — every run that ends has the results of all items
- `Pool.exists_step_of_not_done`, `Pool.stepsLeft_run` — every run goes on to its end and ends
- `Pool.run_perm` — the run in rounds has the results of all items too
-/

namespace Timetable

namespace Pool

variable {α β : Type} {work : α → β}

/-- Any number of steps, by workers in any order. -/
abbrev Reaches (work : α → β) : Pool α β → Pool α β → Prop :=
  Relation.ReflTransGen (Step work)

/-- The queue is empty and no worker holds an item. -/
def Done (p : Pool α β) : Prop :=
  p.queue = [] ∧ ∀ hand ∈ p.hands, hand = none

/-- The finished results, those of the items in hand and those of the queue. -/
def outcome (work : α → β) (p : Pool α β) : List β :=
  p.finished ++ (p.hands.reduceOption ++ p.queue).map work

/-! ## Every run -/

/-- A step moves one result, from the queue to a hand or from a hand to the finished ones. -/
theorem Step.outcome_perm {p q : Pool α β} (h : Step work p q) :
    (q.outcome work).Perm (p.outcome work) := by
  cases h with
  | take item queue before after finished =>
    simp only [outcome, List.reduceOption_append, List.reduceOption_cons_of_some,
      List.reduceOption_cons_of_none, List.append_assoc]
    refine (List.Perm.map work ?_).append_left finished
    refine List.Perm.append_left _ ?_
    exact List.perm_middle.symm
  | finish item queue before after finished =>
    simp only [outcome, List.reduceOption_append, List.reduceOption_cons_of_some,
      List.reduceOption_cons_of_none, List.append_assoc]
    refine List.Perm.append_left finished ?_
    rw [List.singleton_append, ← List.map_cons]
    refine List.Perm.map work ?_
    exact List.perm_middle.symm

theorem Reaches.outcome_perm {p q : Pool α β} (h : Reaches work p q) :
    (q.outcome work).Perm (p.outcome work) := by
  induction h with
  | refl => exact List.Perm.refl _
  | tail _ hstep ih => exact hstep.outcome_perm.trans ih

theorem outcome_start (workers : Nat) (items : List α) :
    outcome work (start workers items) = items.map work := by
  simp [outcome, start, List.reduceOption_replicate_none]

theorem outcome_of_done {p : Pool α β} (h : p.Done) : p.outcome work = p.finished := by
  obtain ⟨hqueue, hhands⟩ := h
  have hidle : p.hands.reduceOption = [] := by
    rw [List.reduceOption, List.filterMap_eq_nil_iff]
    intro hand hmem
    exact hhands hand hmem
  simp [outcome, hqueue, hidle]

/-- However the workers took turns, at the end each item has given its result once. -/
theorem finished_perm_of_done {workers : Nat} {items : List α} {p : Pool α β}
    (h : Reaches work (start workers items) p) (hdone : p.Done) :
    p.finished.Perm (items.map work) := by
  have hperm := h.outcome_perm
  rwa [outcome_of_done hdone, outcome_start] at hperm

/-! ## Progress -/

theorem Step.length_hands {p q : Pool α β} (h : Step work p q) :
    q.hands.length = p.hands.length := by
  cases h with
  | take item queue before after finished => simp
  | finish item queue before after finished => simp

theorem Reaches.length_hands {p q : Pool α β} (h : Reaches work p q) :
    q.hands.length = p.hands.length := by
  induction h with
  | refl => rfl
  | tail _ hstep ih => exact hstep.length_hands.trans ih

theorem Done.not_step {p q : Pool α β} (h : p.Done) : ¬Step work p q := by
  obtain ⟨hqueue, hhands⟩ := h
  intro hstep
  cases hstep with
  | take item queue before after finished => cases hqueue
  | finish item queue before after finished =>
    cases hhands (some item) (List.mem_append_right before List.mem_cons_self)

/-- If there are workers, one of them can go on until all is done: one that holds an item can
finish it, and if none does, each can take the item at the front of the queue. -/
theorem exists_step_of_not_done {p : Pool α β} (hworkers : p.hands ≠ []) (h : ¬p.Done) :
    ∃ q, Step work p q := by
  obtain ⟨queue, hands, finished⟩ := p
  by_cases hidle : ∀ hand ∈ hands, hand = none
  · cases queue with
    | nil => exact absurd ⟨rfl, hidle⟩ h
    | cons item queue =>
      cases hands with
      | nil => exact absurd rfl hworkers
      | cons hand hands =>
        obtain rfl : hand = none := hidle hand List.mem_cons_self
        exact ⟨_, Step.take item queue [] hands finished⟩
  · push Not at hidle
    obtain ⟨hand, hmem, hheld⟩ := hidle
    obtain ⟨item, rfl⟩ := Option.ne_none_iff_exists'.1 hheld
    obtain ⟨before, after, rfl⟩ := List.append_of_mem hmem
    exact ⟨_, Step.finish item queue before after finished⟩

/-- The number of steps that are left: an item in the queue is still to be taken and then to
be finished, one in hand only to be finished. -/
def stepsLeft (p : Pool α β) : Nat :=
  2 * p.queue.length + p.hands.reduceOption.length

theorem Step.stepsLeft_eq {p q : Pool α β} (h : Step work p q) :
    p.stepsLeft = q.stepsLeft + 1 := by
  cases h with
  | take item queue before after finished =>
    simp only [stepsLeft, List.reduceOption_append, List.reduceOption_cons_of_some,
      List.reduceOption_cons_of_none, List.length_append, List.length_cons]
    omega
  | finish item queue before after finished =>
    simp only [stepsLeft, List.reduceOption_append, List.reduceOption_cons_of_some,
      List.reduceOption_cons_of_none, List.length_append, List.length_cons]
    omega

theorem stepsLeft_start (workers : Nat) (items : List α) :
    stepsLeft (start workers items : Pool α β) = 2 * items.length := by
  simp [stepsLeft, start, List.reduceOption_replicate_none]

/-- A row of steps is as long as the number of steps left goes down, whichever steps they are. -/
theorem stepsLeft_run {run : Nat → Pool α β} {n : Nat}
    (h : ∀ i < n, Step work (run i) (run (i + 1))) :
    (run 0).stepsLeft = n + (run n).stepsLeft := by
  induction n with
  | zero => rw [Nat.zero_add]
  | succ n ih =>
    have hbefore := ih fun i hi => h i (Nat.lt_succ_of_lt hi)
    have hstep := (h n (Nat.lt_succ_self n)).stepsLeft_eq
    omega

/-! ## The run in rounds -/

variable (work)

theorem length_deal (queue : List α) (hands : List (Option α)) :
    (deal queue hands).2.length = hands.length := by
  induction queue, hands using deal.induct with
  | case1 item queue hands ih => simp [deal, ih]
  | case2 queue held hands ih => simp [deal, ih]
  | case3 queue hands => simp [deal]

/-- Dealing is a row of steps in which idle workers take items. The workers in front have had
their turn. -/
theorem reaches_deal (queue : List α) (before hands : List (Option α)) (finished : List β) :
    Reaches work ⟨queue, before ++ hands, finished⟩
      ⟨(deal queue hands).1, before ++ (deal queue hands).2, finished⟩ := by
  induction queue, hands using deal.induct generalizing before with
  | case1 item queue hands ih =>
    -- The first idle worker takes the item and is then one of those in front.
    have hlater := ih (before ++ [some item])
    simp only [List.append_assoc, List.singleton_append] at hlater
    rw [deal]
    exact Relation.ReflTransGen.head (Step.take item queue before hands finished) hlater
  | case2 queue held hands ih =>
    have hlater := ih (before ++ [some held])
    simp only [List.append_assoc, List.singleton_append] at hlater
    rw [deal]
    exact hlater
  | case3 queue hands htake hheld =>
    have hdeal : deal queue hands = (queue, hands) := by
      rw [deal]
      · exact hheld
      · exact htake
    rw [hdeal]

/-- Then each worker that holds an item finishes it. -/
theorem reaches_finish (queue : List α) (before hands : List (Option α)) (finished : List β) :
    Reaches work ⟨queue, before ++ hands, finished⟩
      ⟨queue, before ++ List.replicate hands.length none,
        finished ++ hands.filterMap (Option.map work)⟩ := by
  induction hands generalizing before finished with
  | nil => simpa using Relation.ReflTransGen.refl
  | cons hand hands ih =>
    cases hand with
    | none =>
      have hlater := ih (before ++ [none]) finished
      simp only [List.append_assoc, List.singleton_append] at hlater
      simpa [List.replicate_succ] using hlater
    | some item =>
      have hlater := ih (before ++ [none]) (finished ++ [work item])
      simp only [List.append_assoc, List.singleton_append] at hlater
      have hstep : Step work ⟨queue, before ++ some item :: hands, finished⟩
          ⟨queue, before ++ none :: hands, finished ++ [work item]⟩ :=
        Step.finish item queue before hands finished
      simpa [List.replicate_succ] using Relation.ReflTransGen.head hstep hlater

theorem reaches_round (p : Pool α β) : Reaches work p (p.round work) := by
  have hdeal := reaches_deal work p.queue [] p.hands p.finished
  have hfinish := reaches_finish work (deal p.queue p.hands).1 []
    (deal p.queue p.hands).2 p.finished
  rw [length_deal] at hfinish
  exact hdeal.trans hfinish

theorem reaches_rounds (n : Nat) (p : Pool α β) : Reaches work p (rounds work n p) := by
  induction n generalizing p with
  | zero => exact Relation.ReflTransGen.refl
  | succ n ih =>
    rw [rounds]
    split
    · exact Relation.ReflTransGen.refl
    · exact (reaches_round work p).trans (ih _)

/-- Idle workers take as many items from the front of the queue as they are. -/
theorem deal_replicate_none (queue : List α) (workers : Nat) :
    (deal queue (List.replicate workers none)).1 = queue.drop workers := by
  induction workers generalizing queue with
  | zero => cases queue <;> rfl
  | succ workers ih =>
    cases queue with
    | nil => rfl
    | cons item queue => exact ih queue

/-- With at least one worker each round shortens the queue, so that as many rounds as items
are enough. -/
theorem done_rounds {workers : Nat} (hpos : 0 < workers) {n : Nat} {p : Pool α β}
    (hhands : p.hands = List.replicate workers none) (hlength : p.queue.length ≤ n) :
    (rounds work n p).Done := by
  have hidle : ∀ hand ∈ p.hands, hand = none := by
    rw [hhands]
    intro hand hmem
    exact List.eq_of_mem_replicate hmem
  induction n generalizing p with
  | zero => exact ⟨List.length_eq_zero_iff.1 (Nat.le_zero.1 hlength), hidle⟩
  | succ n ih =>
    rw [rounds]
    split
    · next hempty => exact ⟨List.isEmpty_iff.1 hempty, hidle⟩
    · next hne =>
      -- After a round all workers are idle again, and the queue is shorter.
      have hround : (p.round work).hands = List.replicate workers none := by
        simp only [round, hhands, List.length_replicate]
      refine ih hround ?_ ?_
      · simp only [round, hhands, deal_replicate_none, List.length_drop]
        omega
      · rw [hround]
        intro hand hmem
        exact List.eq_of_mem_replicate hmem

/-- The run in rounds has the results of all items. -/
theorem run_perm {workers : Nat} (hpos : 0 < workers) (items : List α) :
    (run work workers items).Perm (items.map work) :=
  finished_perm_of_done (reaches_rounds work _ _) (done_rounds work hpos rfl (Nat.le_refl _))

end Pool

end Timetable
