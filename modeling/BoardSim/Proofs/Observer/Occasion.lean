import Mathlib.Algebra.BigOperators.Group.Finset.Basic
import Mathlib.Data.FinEnum
import BoardSim.Simulator.Basic

/-!
# What there is to hear

Observers hear of starts, stops and ticks (`Occasion`), and of a tick from its start through the
devices and the dispatched lines to its end. A log of occasions fixes what a recorder has recorded
and what metrics have counted (`Metrics.counts`).
-/

namespace BoardSim

-- ---------------------------------------------------------------------------
-- Occasions
-- ---------------------------------------------------------------------------

structure TickRecord where
  report : TickReport
  results : List (String × TickResult)
  ended : Bool
  /-- The stepping loop has made it. -/
  woken : Bool

inductive Occasion where
  | started
  | stopped
  | tick (record : TickRecord)

namespace TickRecord

def served (r : TickRecord) : List Notification :=
  .tickStarted r.report.tick ::
    (r.results.map fun (name, result) => .deviceUpdated name result) ++
      r.report.dispatched.map .lineDispatched

def notifications (r : TickRecord) : List Notification :=
  r.served ++ if r.ended then [.tickEnded r.report.tick] else []

end TickRecord

namespace Occasion

def notifications : Occasion → List Notification
  | .started => [.started]
  | .stopped => [.stopped]
  | .tick r => r.notifications

def record? : Occasion → Option TickRecord
  | .tick r => some r
  | .started | .stopped => none

end Occasion

def ticksOf (log : List Occasion) : List TickRecord := log.filterMap Occasion.record?

@[simp] theorem ticksOf_append (a b : List Occasion) :
    ticksOf (a ++ b) = ticksOf a ++ ticksOf b := List.filterMap_append

namespace Observer

def hear (o : Observer) (heard : List Notification) : Observer := heard.foldl notify o

theorem hear_append (o : Observer) (a b : List Notification) :
    o.hear (a ++ b) = (o.hear a).hear b := List.foldl_append

theorem hear_recorder (seen : Array Notification) (heard : List Notification) :
    (recorder seen).hear heard = recorder (seen ++ heard.toArray) := by
  induction heard generalizing seen with
  | nil => simp [hear]
  | cons n rest ih =>
    show (recorder (seen.push n)).hear rest = _
    simp [ih]

end Observer

-- ---------------------------------------------------------------------------
-- Metrics
-- ---------------------------------------------------------------------------

def dispatchedIn (log : List Occasion) : List UInt32 :=
  (ticksOf log).flatMap (·.report.dispatched)

def resultsIn (log : List Occasion) : List (String × TickResult) :=
  (ticksOf log).flatMap (·.results)

namespace Notification

def ends : Notification → Bool
  | tickEnded _ => true
  | _ => false

def line? : Notification → Option UInt32
  | lineDispatched line => some line
  | _ => none

def update? : Notification → Option (String × TickResult)
  | deviceUpdated name result => some (name, result)
  | _ => none

end Notification

namespace Metrics

structure Adds (before after : Metrics) (heard : List Notification) : Prop where
  ticks : after.tickCount = before.tickCount + UInt64.ofNat (heard.countP (·.ends))
  irqs : after.irqCount =
    before.irqCount + UInt64.ofNat (heard.filterMap Notification.line?).length
  byLine : ∀ line, after.irqsByLine.count line =
    before.irqsByLine.count line + UInt64.ofNat ((heard.filterMap Notification.line?).count line)
  requests : ∀ name, after.requestsByDevice.count name =
    before.requestsByDevice.count name +
      UInt64.ofNat ((heard.filterMap Notification.update?).countP fun (device, result) =>
        device == name && result.isRequest)

theorem Adds.trans {m₁ m₂ m₃ : Metrics} {a b : List Notification} (first : m₁.Adds m₂ a)
    (second : m₂.Adds m₃ b) : m₁.Adds m₃ (a ++ b) := by
  refine ⟨?_, ?_, fun line => ?_, fun name => ?_⟩
  · rw [second.ticks, first.ticks, List.countP_append, UInt64.ofNat_add, UInt64.add_assoc]
  · rw [second.irqs, first.irqs, List.filterMap_append, List.length_append, UInt64.ofNat_add,
      UInt64.add_assoc]
  · rw [second.byLine, first.byLine, List.filterMap_append, List.count_append, UInt64.ofNat_add,
      UInt64.add_assoc]
  · rw [second.requests, first.requests, List.filterMap_append, List.countP_append,
      UInt64.ofNat_add, UInt64.add_assoc]

/-- What metrics do not count. -/
theorem adds_of_uncounted (m : Metrics) {heard : List Notification}
    (ends : heard.countP (·.ends) = 0) (lines : heard.filterMap Notification.line? = [])
    (asked : (heard.filterMap Notification.update?).countP (·.2.isRequest) = 0) :
    m.Adds m heard := by
  have none (name : String) : (heard.filterMap Notification.update?).countP
      (fun (device, result) => device == name && result.isRequest) = 0 := by
    rw [List.countP_eq_zero] at asked ⊢
    intro update mem both
    exact asked update mem (Bool.and_eq_true_iff.1 both).2
  refine ⟨?_, ?_, fun _ => ?_, fun name => ?_⟩
  · simp [ends]
  · simp [lines]
  · simp [lines]
  · rw [none name]
    exact (UInt64.add_zero _).symm

theorem adds_notify (m : Metrics) (n : Notification) : m.Adds (m.notify n) [n] := by
  cases n with
  | lineDispatched line =>
    refine ⟨(UInt64.add_zero _).symm, rfl, fun other => ?_, fun _ => (UInt64.add_zero _).symm⟩
    refine (m.irqsByLine.count_bump line other).trans
      (congrArg (m.irqsByLine.count other + ·) ?_)
    by_cases same : other = line <;> simp [Notification.line?, same, Ne.symm]
  | deviceUpdated name result =>
    cases asked : result.isRequest with
    | true =>
      rw [notify, if_pos asked]
      refine ⟨(UInt64.add_zero _).symm, (UInt64.add_zero _).symm,
        fun _ => (UInt64.add_zero _).symm, fun other => ?_⟩
      refine (m.requestsByDevice.count_bump name other).trans
        (congrArg (m.requestsByDevice.count other + ·) ?_)
      by_cases same : other = name <;> simp [Notification.update?, same, asked, Ne.symm]
    | false =>
      rw [notify, asked, if_neg Bool.false_ne_true]
      exact m.adds_of_uncounted rfl rfl (by simp [Notification.update?, asked])
  | tickEnded tick =>
    exact ⟨rfl, (UInt64.add_zero _).symm, fun _ => (UInt64.add_zero _).symm,
      fun _ => (UInt64.add_zero _).symm⟩
  | started | stopped | tickStarted => exact m.adds_of_uncounted rfl rfl rfl

theorem adds_foldl (m : Metrics) (heard : List Notification) :
    m.Adds (heard.foldl notify m) heard := by
  induction heard generalizing m with
  | nil => exact m.adds_of_uncounted rfl rfl rfl
  | cons n rest ih =>
    rw [← List.singleton_append]
    exact (m.adds_notify n).trans (ih _)

theorem hear_metrics (m : Metrics) (heard : List Notification) :
    (Observer.metrics m).hear heard = .metrics (heard.foldl notify m) := by
  induction heard generalizing m with
  | nil => rfl
  | cons n rest ih => exact ih (m.notify n)

end Metrics

namespace TickRecord

theorem countP_ends_notifications (r : TickRecord) :
    r.notifications.countP (·.ends) = if r.ended then 1 else 0 := by
  cases ended : r.ended <;>
    simp [notifications, served, ended, List.countP_append, Function.comp_def, Notification.ends]

theorem line?_notifications (r : TickRecord) :
    r.notifications.filterMap Notification.line? = r.report.dispatched := by
  cases ended : r.ended <;>
    simp [notifications, served, ended, List.filterMap_cons, Function.comp_def,
      Notification.line?]

theorem update?_notifications (r : TickRecord) :
    r.notifications.filterMap Notification.update? = r.results := by
  cases ended : r.ended <;>
    simp [notifications, served, ended, List.filterMap_cons, Function.comp_def,
      Notification.update?]

end TickRecord

/-- A fact about what a log tells comes from its ticks: starts and stops tell nothing of them. -/
theorem countP_ends_notifications (log : List Occasion) :
    (log.flatMap Occasion.notifications).countP (·.ends) = (ticksOf log).countP (·.ended) := by
  induction log with
  | nil => rfl
  | cons o rest ih =>
    rw [List.flatMap_cons, List.countP_append, ih]
    cases o with
    | started | stopped => exact Nat.zero_add _
    | tick r =>
      rw [show ticksOf (.tick r :: rest) = r :: ticksOf rest from rfl, List.countP_cons,
        Nat.add_comm]
      exact congrArg (_ + ·) r.countP_ends_notifications

theorem line?_notifications (log : List Occasion) :
    (log.flatMap Occasion.notifications).filterMap Notification.line? = dispatchedIn log := by
  induction log with
  | nil => rfl
  | cons o rest ih =>
    rw [List.flatMap_cons, List.filterMap_append, ih]
    cases o with
    | started | stopped => rfl
    | tick r => exact congrArg (· ++ dispatchedIn rest) r.line?_notifications

theorem update?_notifications (log : List Occasion) :
    (log.flatMap Occasion.notifications).filterMap Notification.update? = resultsIn log := by
  induction log with
  | nil => rfl
  | cons o rest ih =>
    rw [List.flatMap_cons, List.filterMap_append, ih]
    cases o with
    | started | stopped => rfl
    | tick r => exact congrArg (· ++ resultsIn rest) r.update?_notifications

/-- Metrics that have heard a log and nothing before it. Their counters wrap. -/
structure Metrics.Counts (m : Metrics) (log : List Occasion) : Prop where
  ticks : m.ticks = (ticksOf log).countP (·.ended) % UInt64.size
  byLine : ∀ line, m.irqsOf line = (dispatchedIn log).count line % UInt64.size
  total : m.irqs = (dispatchedIn log).length % UInt64.size
  sum : m.irqs = (∑ line : UInt32, m.irqsOf line) % UInt64.size
  requests : ∀ name, m.requestsOf name = ((resultsIn log).countP fun (device, result) =>
    device == name && (result.irq || !result.explicit.isEmpty)) % UInt64.size

theorem toNat_zero_add_ofNat (n : Nat) : (0 + UInt64.ofNat n).toNat = n % UInt64.size := by
  rw [UInt64.zero_add, UInt64.toNat_ofNat']

theorem Metrics.counts (log : List Occasion) :
    ((log.flatMap Occasion.notifications).foldl notify {}).Counts log := by
  have added := Metrics.adds_foldl {} (log.flatMap Occasion.notifications)
  generalize (log.flatMap Occasion.notifications).foldl notify {} = m at added
  obtain ⟨ticks, irqs, byLine, requests⟩ := added
  simp only [countP_ends_notifications, line?_notifications, update?_notifications]
    at ticks irqs byLine requests
  have lines (line : UInt32) : m.irqsOf line = (dispatchedIn log).count line % UInt64.size :=
    (congrArg UInt64.toNat (byLine line)).trans (toNat_zero_add_ofNat _)
  have total : m.irqs = (dispatchedIn log).length % UInt64.size :=
    (congrArg UInt64.toNat irqs).trans (toNat_zero_add_ofNat _)
  refine ⟨(congrArg UInt64.toNat ticks).trans (toNat_zero_add_ofNat _), lines, total, ?_,
    fun name => (congrArg UInt64.toNat (requests name)).trans (toNat_zero_add_ofNat _)⟩
  have all : ∑ line : UInt32, (dispatchedIn log : Multiset UInt32).count line =
      (dispatchedIn log : Multiset UInt32).card :=
    Multiset.sum_count_eq_card fun _ _ => Finset.mem_univ _
  rw [total, Finset.sum_congr rfl fun line _ => lines line, ← Finset.sum_nat_mod]
  exact congrArg (· % UInt64.size) (by simpa using all.symm)

end BoardSim
