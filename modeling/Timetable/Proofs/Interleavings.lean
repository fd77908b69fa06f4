import Mathlib
import Timetable.Proofs.Loading
/-!
# Workers in any order

In whatever order the workers of a pool take turns, they come to an end, and the jobs that are
then finished are those built one after the other, once their numbers have put them back into
order. Adding a text therefore has one possible answer, and the number of workers is no part of
it.

## Main definitions

- `Crontab.Builds` — what building jobs may give, over all runs of the workers
- `Crontab.Loads` — what adding a text may give

## Main statements

- `Crontab.loads_iff` — adding a text gives the answer of `Crontab.loadText` and no other
- `interleavings_build_in_order` — all runs of the workers, and all numbers of workers
-/

namespace Timetable

namespace Crontab

/-- What building numbered schedules may give. With several workers these are the results of
any finished run of the pool, in the order of their numbers. -/
def Builds (c : Crontab) (items : List (Nat × Schedule)) (jobs : List Job) : Prop :=
  if 1 < c.threads ∧ 1 < items.length then
    ∃ p : Pool (Nat × Schedule) Job,
      Pool.Reaches c.buildJob (Pool.start (min c.threads items.length) items) p ∧ p.Done ∧
        jobs = p.finished.mergeSort fun a b => a.id ≤ b.id
  else jobs = c.buildInOrder items

/-- What adding a text may give: an answer and the crontab after it. -/
def Loads (c : Crontab) (text : String) (outcome : Except Error Nat × Crontab) : Prop :=
  match readText text with
  | .ok schedules =>
    ∃ jobs, c.Builds (numbered c.jobs.length schedules) jobs ∧
      outcome = (.ok schedules.length, { c with jobs := c.jobs ++ jobs })
  | .error error => outcome = (.error error, c)

/-- The results of a finished run come back in the order of the items. -/
theorem mergeSort_finished (c : Crontab) {workers : Nat} {items : List (Nat × Schedule)}
    (hnumbers : items.Pairwise fun a b => a.1 < b.1) {p : Pool (Nat × Schedule) Job}
    (h : Pool.Reaches c.buildJob (Pool.start workers items) p) (hdone : p.Done) :
    (p.finished.mergeSort fun a b => a.id ≤ b.id) = c.buildInOrder items := by
  apply mergeSort_eq_of_perm (Pool.finished_perm_of_done h hdone)
  exact List.pairwise_map.2 hnumbers

theorem builds_iff (c : Crontab) {items : List (Nat × Schedule)}
    (hnumbers : items.Pairwise fun a b => a.1 < b.1) {jobs : List Job} :
    c.Builds items jobs ↔ jobs = c.buildInOrder items := by
  rw [Builds]
  split
  · next hworkers =>
    constructor
    · rintro ⟨p, hreaches, hdone, rfl⟩
      exact c.mergeSort_finished hnumbers hreaches hdone
    · rintro rfl
      -- The run in rounds is a run that ends.
      have hpos : 0 < min c.threads items.length := by omega
      have hreaches := Pool.reaches_rounds c.buildJob items.length
        (Pool.start (min c.threads items.length) items)
      have hdone := Pool.done_rounds c.buildJob hpos (n := items.length)
        (p := Pool.start (min c.threads items.length) items) rfl (Nat.le_refl _)
      exact ⟨_, hreaches, hdone, (c.mergeSort_finished hnumbers hreaches hdone).symm⟩
  · exact Iff.rfl

/-- The turns of the workers leave no choice: adding a text has one possible outcome. -/
theorem loads_iff (c : Crontab) (text : String) {outcome : Except Error Nat × Crontab} :
    c.Loads text outcome ↔ outcome = c.loadText text := by
  rw [Loads, loadText_eq]
  cases readText text with
  | error error => exact Iff.rfl
  | ok schedules =>
    have hnumbers := pairwise_numbered c.jobs.length schedules
    have hjobs : c.buildInOrder (numbered c.jobs.length schedules) = c.furtherJobs schedules := by
      rw [← build_eq_buildInOrder c hnumbers, build_numbered]
    simp only [c.builds_iff hnumbers, exists_eq_left, hjobs]
    exact Iff.rfl

/-- The number of workers does not change what adding a text does. -/
theorem loadText_withThreads (c : Crontab) (threads : Nat) (text : String) :
    (c.withThreads threads).loadText text =
      ((c.loadText text).1, (c.loadText text).2.withThreads threads) := by
  rw [loadText_eq, loadText_eq]
  cases readText text with
  | ok schedules => rfl
  | error error => rfl

end Crontab

/-- Schedules that are numbered consecutively give the same jobs in whatever order workers take
turns. While there is something left to do, some worker can go on, and no run takes more than
two steps for each schedule. At the end each schedule has given its one job, and the jobs in the
order of their numbers are those that are built one after the other. So a text adds the same
jobs, and its answer is the same, for any number of workers and any order of their steps. -/
theorem interleavings_build_in_order (c : Crontab) :
    (∀ (first : Nat) (schedules : List Schedule) (workers : Nat), 0 < workers →
      (∀ p, Pool.Reaches c.buildJob (Pool.start workers (Crontab.numbered first schedules)) p →
        ((∀ q, ¬Pool.Step c.buildJob p q) ↔ p.Done) ∧
          (p.Done →
            (p.finished.mergeSort fun a b => a.id ≤ b.id) =
                c.buildInOrder (Crontab.numbered first schedules) ∧
              p.finished.Perm (c.buildInOrder (Crontab.numbered first schedules)))) ∧
        ∀ (run : Nat → Pool (Nat × Schedule) Job) (n : Nat),
          run 0 = Pool.start workers (Crontab.numbered first schedules) →
            (∀ i < n, Pool.Step c.buildJob (run i) (run (i + 1))) → n ≤ 2 * schedules.length) ∧
      ∀ (text : String) (threads : Nat) (outcome : Except Error Nat × Crontab),
        (c.withThreads threads).Loads text outcome ↔
          outcome = ((c.loadText text).1, (c.loadText text).2.withThreads threads) := by
  refine ⟨?_, ?_⟩
  · intro first schedules workers hpos
    have hnumbers := Crontab.pairwise_numbered first schedules
    refine ⟨?_, ?_⟩
    · intro p hreaches
      have hworkers : p.hands ≠ [] := by
        rw [← List.length_pos_iff, hreaches.length_hands, Pool.start, List.length_replicate]
        exact hpos
      refine ⟨⟨?_, ?_⟩, ?_⟩
      · intro hstuck
        by_contra hleft
        obtain ⟨q, hstep⟩ := Pool.exists_step_of_not_done hworkers hleft
        exact hstuck q hstep
      · intro hdone q
        exact hdone.not_step
      · intro hdone
        exact ⟨c.mergeSort_finished hnumbers hreaches hdone,
          Pool.finished_perm_of_done hreaches hdone⟩
    · intro run n hstart hsteps
      have hleft := Pool.stepsLeft_run hsteps
      rw [hstart, Pool.stepsLeft_start, Crontab.numbered, List.length_mapIdx] at hleft
      omega
  · intro text threads outcome
    rw [Crontab.loads_iff, Crontab.loadText_withThreads]

/-- Two workers of which the second finishes first, after three jobs from earlier texts. -/
theorem interleavings_build_in_order_overtaking :
    ∃ (w : Window) (c : Crontab) (s t : Schedule) (p : Pool (Nat × Schedule) Job),
      Window.parse "2011-10-11 00:00" "2011-10-12 00:00" = .ok w ∧
        c = Crontab.empty w .builtin ∧
        Schedule.parse "0 1 * * * first" = .ok s ∧
        Schedule.parse "*/5 * * * * second" = .ok t ∧
        Pool.Reaches c.buildJob (Pool.start 2 (Crontab.numbered 3 [s, t])) p ∧
        p.finished = [c.buildJob (4, t), c.buildJob (3, s)] ∧
        (p.finished.mergeSort fun a b => a.id ≤ b.id) =
          [c.buildJob (3, s), c.buildJob (4, t)] := by
  let s : Schedule :=
    { Schedule.everyMinute with minute := ⟨[0]⟩, hour := ⟨[1]⟩, command := "first" }
  let t : Schedule := { Schedule.everyFiveMinutes with command := "second" }
  have hs : Schedule.parse "0 1 * * * first" = .ok s := by cbv
  have ht : Schedule.parse "*/5 * * * * second" = .ok t := by cbv
  have hok : (Window.parse "2011-10-11 00:00" "2011-10-12 00:00").isOk = true := by cbv
  obtain ⟨w, hw⟩ : ∃ w, Window.parse "2011-10-11 00:00" "2011-10-12 00:00" = .ok w := by
    cases hw : Window.parse "2011-10-11 00:00" "2011-10-12 00:00" with
    | error error =>
      rw [hw] at hok
      cases hok
    | ok w => exact ⟨w, rfl⟩
  let c := Crontab.empty w .builtin
  have hreaches : Pool.Reaches c.buildJob (Pool.start 2 (Crontab.numbered 3 [s, t]))
      ⟨[], [none, none], [c.buildJob (4, t), c.buildJob (3, s)]⟩ := by
    refine .head (.take (3, s) [(4, t)] [] [none] []) ?_
    refine .head (.take (4, t) [] [some (3, s)] [] []) ?_
    refine .head (.finish (4, t) [] [some (3, s)] [] []) ?_
    exact .single (.finish (3, s) [] [] [none] [c.buildJob (4, t)])
  obtain ⟨hruns, -⟩ := interleavings_build_in_order c
  obtain ⟨hends, -⟩ := hruns 3 [s, t] 2 Nat.two_pos
  obtain ⟨-, hresults⟩ := hends _ hreaches
  obtain ⟨hsorted, -⟩ := hresults ⟨rfl, by simp⟩
  exact ⟨w, c, s, t, _, hw, rfl, hs, ht, hreaches, rfl, hsorted⟩

end Timetable
