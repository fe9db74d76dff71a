import BoardSim.Proofs.Can.Mode

/-!
# The frames of a CAN controller

No frame is lost on the way through a controller, none is doubled and none overtakes another
(`FrameContract`): with a trace from the start, the frames that were received or dropped and those
still on the bus are the injected ones, and the sent ones are those that the host has collected
and those it can collect. `Moved` is what one step of time does to the two queues; a buffer that
has been sent stays unarmed until firmware writes its CS word (`unarmed_act`).
-/

namespace BoardSim.Can

namespace Action

def injected? : Action → Option Frame
  | .inject frame => some frame
  | _ => none

def Writes (a : Action) (n : Nat) : Prop :=
  ∃ offset size payload, a = .access offset size .write payload ∧
    Peripheral.Touches offset size (bufferOffset (UInt64.ofNat n))

end Action

namespace Controller

def handedOver (c : Controller) : Action → List Frame
  | .collect => c.collect.1.toList
  | .collectAll => c.collectAll.1
  | _ => []

def collected (c : Controller) : List Action → List Frame
  | [] => []
  | a :: rest => c.handedOver a ++ (c.act a).collected rest

def receivedIn (events : List TraceEvent) : List Frame :=
  (events.filter (·.flow ≠ .tx)).map TraceEvent.frame

def sentIn (events : List TraceEvent) : List Frame :=
  (events.filter (·.flow = .tx)).map TraceEvent.frame

def events (c : Controller) (a : Action) : List TraceEvent :=
  (c.act a).trace.toList.drop c.trace.size

-- ---------------------------------------------------------------------------
-- Register accesses
-- ---------------------------------------------------------------------------

structure Unmoved (c d : Controller) : Prop where
  inbox : d.inbox = c.inbox
  outbox : d.outbox = c.outbox
  tracing : d.tracing = c.tracing
  trace : d.trace = c.trace

theorem kept_unmoved (c : Controller) : Peripheral.Kept (Unmoved c) := by
  refine kept_of_commit fun d i word h => ?_
  obtain ⟨inbox, outbox, tracing, trace⟩ := h
  unfold commit
  split
  · obtain ⟨regs, written, -⟩ := configure_cases d word
    rw [written]
    exact ⟨inbox, outbox, tracing, trace⟩
  · exact ⟨inbox, outbox, tracing, trace⟩

theorem unmoved_access (c : Controller) (offset : UInt64) (size : AccessSize)
    (direction : Direction) (payload : UInt64) :
    Unmoved c (c.act (.access offset size direction payload)) :=
  (kept_unmoved c).access ⟨rfl, rfl, rfl, rfl⟩ offset size direction payload

-- ---------------------------------------------------------------------------
-- Steps of time
-- ---------------------------------------------------------------------------

/-- How a step of time moves frames, and the events that tell it. -/
inductive Moved (c d : Controller) : List TraceEvent → Prop where
  | nothing (inbox : d.inbox = c.inbox) (outbox : d.outbox = c.outbox) : Moved c d []
  | discarded (off : c.mode = .off) (inbox : d.inbox = []) (outbox : d.outbox = c.outbox) :
      Moved c d (c.inbox.map fun frame => ⟨c.bus, .dropped, frame, none⟩)
  | received (running : c.Running) {event : TraceEvent}
      (inbox : c.inbox = event.frame :: d.inbox) (outbox : d.outbox = c.outbox)
      (arrival : Arrival c event.frame event) : Moved c d [event]
  | sent (running : c.Running) {n : Nat} (empty : c.inbox = []) (inbox : d.inbox = [])
      (armed : c.armedBuffer? = some n) (outbox : d.outbox = c.outbox ++ [c.frameOf n])
      (disarmed : armedIn d.regs n = false) :
      Moved c d [⟨c.bus, .tx, c.frameOf n, some (UInt8.ofNat n)⟩]

theorem toList_traced {c : Controller} (tracing : c.tracing = true) (event : TraceEvent) :
    (c.traced event).toList = c.trace.toList ++ [event] := by
  rw [traced, if_pos tracing, Array.toList_push]

theorem Advanced.moved {c d : Controller} {nanos : Nat} (tracing : c.tracing = true)
    (step : Advanced c nanos d) :
    ∃ events, Moved c d events ∧ d.trace.toList = c.trace.toList ++ events ∧ d.tracing = true := by
  cases step with
  | discards off =>
    rw [discardAll_eq]
    refine ⟨_, .discarded off rfl rfl, ?_, tracing⟩
    show (if c.tracing then c.trace ++ (c.inbox.map _).toArray else c.trace).toList = _
    rw [if_pos tracing, Array.toList_append]
    rfl
  | stays _ _ => exact ⟨[], .nothing rfl rfl, (List.append_nil _).symm, tracing⟩
  | waits _ _ _ => exact ⟨[], .nothing rfl rfl, (List.append_nil _).symm, tracing⟩
  | wakes _ _ => exact ⟨[], .nothing rfl rfl, (List.append_nil _).symm, tracing⟩
  | @receives running frame inbox regs event arrived arrival handled =>
    obtain rfl := arrival.frame_eq
    exact ⟨[event], .received running arrived rfl arrival, toList_traced tracing event, tracing⟩
  | @sends running n regs empty armed handled disarmed =>
    refine ⟨_, .sent running empty empty armed rfl ?_, toList_traced tracing _, tracing⟩
    exact ((Alike.enter _ .idle).armedIn n).trans disarmed

-- ---------------------------------------------------------------------------
-- Buffers between two frames
-- ---------------------------------------------------------------------------

theorem indexOf?_ne_csWord {offset : UInt64} {i n : Nat} (inside : n < bufferCount)
    (elsewhere : offset ≠ bufferOffset (UInt64.ofNat n))
    (found : Layout.indexOf? layout offset = some i) : i ≠ csWord n := by
  rintro rfl
  have here := Layout.offset_of_indexOf? found
  rw [offset_csWord n inside] at here
  cases here
  exact elsewhere rfl

theorem unarmed_commit {c : Controller} {i n : Nat} (unarmed : armedIn c.regs n = false)
    (other : i ≠ csWord n) (word : UInt32) : armedIn (c.commit i word).regs n = false := by
  unfold commit
  split
  · obtain ⟨regs, written, -, -, buffers⟩ := configure_cases c word
    have later : iflag1 < csWord n := by
      unfold iflag1 csWord
      omega
    rw [written, (Alike.showMode _).armedIn n, armedIn, buffers _ later]
    exact unarmed
  · exact (armedIn_set c.regs other _).trans unarmed

theorem unarmed_write {c : Controller} {n : Nat} (inside : n < bufferCount)
    (unarmed : armedIn c.regs n = false) {offset : UInt64}
    (elsewhere : offset ≠ bufferOffset (UInt64.ofNat n)) (word : UInt32) :
    armedIn (Peripheral.write c offset word).regs n = false := by
  unfold Peripheral.write
  split
  · exact unarmed
  · next i found => exact unarmed_commit unarmed (indexOf?_ne_csWord inside elsewhere found) word

/-- Only firmware arms a buffer, by a write of its CS word. -/
theorem unarmed_act {c : Controller} {a : Action} {n : Nat} (inside : n < bufferCount)
    (unarmed : armedIn c.regs n = false) (unwritten : ¬a.Writes n) :
    armedIn (c.act a).regs n = false := by
  cases a with
  | access offset size direction payload =>
    cases direction with
    | read =>
      show armedIn (Peripheral.load c offset size).2.regs n = false
      rwa [Peripheral.snd_load snd_read]
    | write =>
      have kept : Peripheral.KeptAt (Peripheral.Touches offset size)
          fun d : Controller => armedIn d.regs n = false := {
        read := fun d _ _ h => by rwa [snd_read]
        write := fun d touched word covered h => by
          refine unarmed_write inside h ?_ word
          rintro rfl
          exact unwritten ⟨offset, size, payload, rfl, covered⟩ }
      exact kept.access unarmed .write payload
  | advance nanos => exact (c.advance_cases nanos).handled.unarmed n unarmed
  | inject frame => exact unarmed
  | collect => exact unarmed
  | collectAll => exact unarmed

theorem unarmed_after {c : Controller} {n : Nat} (inside : n < bufferCount) {actions : List Action}
    (unarmed : armedIn c.regs n = false) (unwritten : ∀ a ∈ actions, ¬a.Writes n) :
    armedIn (c.after actions).regs n = false := by
  induction actions generalizing c with
  | nil => exact unarmed
  | cons a rest ih =>
    obtain ⟨first, later⟩ := List.forall_mem_cons.1 unwritten
    exact ih (unarmed_act inside unarmed first) later

-- ---------------------------------------------------------------------------
-- Accounts
-- ---------------------------------------------------------------------------

theorem receivedIn_append (first last : List TraceEvent) :
    receivedIn (first ++ last) = receivedIn first ++ receivedIn last := by
  rw [receivedIn, List.filter_append, List.map_append, receivedIn, receivedIn]

theorem sentIn_append (first last : List TraceEvent) :
    sentIn (first ++ last) = sentIn first ++ sentIn last := by
  rw [sentIn, List.filter_append, List.map_append, sentIn, sentIn]

theorem Moved.inbox_eq {c d : Controller} {events : List TraceEvent} (h : Moved c d events) :
    c.inbox = receivedIn events ++ d.inbox := by
  cases h with
  | nothing inbox outbox => exact inbox.symm
  | discarded off inbox outbox =>
    rw [inbox]
    simp [receivedIn, List.filter_map, Function.comp_def]
  | received running inbox outbox arrival => simp [receivedIn, inbox, arrival.flow_ne]
  | sent running empty inbox armed outbox disarmed => simp [receivedIn, empty, inbox]

theorem Moved.outbox_eq {c d : Controller} {events : List TraceEvent} (h : Moved c d events) :
    c.outbox ++ sentIn events = d.outbox := by
  cases h with
  | nothing inbox outbox => simp [sentIn, outbox]
  | discarded off inbox outbox => simp [sentIn, outbox, List.filter_map, Function.comp_def]
  | received running inbox outbox arrival => simp [sentIn, outbox, arrival.flow_ne]
  | sent running empty inbox armed outbox disarmed => simp [sentIn, outbox]

theorem events_eq {c : Controller} {a : Action} {events : List TraceEvent}
    (trace : (c.act a).trace.toList = c.trace.toList ++ events) : c.events a = events := by
  rw [Controller.events, trace, ← Array.length_toList, List.drop_left]

/-- An action takes from the queues and adds to them what it tells and what the host gets. -/
structure Balanced (c : Controller) (a : Action) : Prop where
  tracing : (c.act a).tracing = true
  trace : (c.act a).trace.toList = c.trace.toList ++ c.events a
  inbox : c.inbox ++ a.injected?.toList = receivedIn (c.events a) ++ (c.act a).inbox
  outbox : c.outbox ++ sentIn (c.events a) = c.handedOver a ++ (c.act a).outbox
  moved : c.events a = [] ∨ Moved c (c.act a) (c.events a)

theorem balanced_of_untraced {c : Controller} {a : Action} (tracing : (c.act a).tracing = true)
    (trace : (c.act a).trace = c.trace) (inbox : c.inbox ++ a.injected?.toList = (c.act a).inbox)
    (outbox : c.outbox = c.handedOver a ++ (c.act a).outbox) : Balanced c a := by
  have none : c.events a = [] := events_eq (by rw [trace, List.append_nil])
  refine ⟨tracing, ?_, ?_, ?_, .inl none⟩
  · rw [trace, none, List.append_nil]
  · rw [inbox, none]
    rfl
  · rw [none, ← outbox]
    exact List.append_nil _

theorem balanced {c : Controller} (tracing : c.tracing = true) (a : Action) : Balanced c a := by
  cases a with
  | access offset size direction payload =>
    have unmoved := c.unmoved_access offset size direction payload
    exact balanced_of_untraced (unmoved.tracing.trans tracing) unmoved.trace
      ((List.append_nil _).trans unmoved.inbox.symm) unmoved.outbox.symm
  | advance nanos =>
    obtain ⟨events, moved, trace, still⟩ := (c.advance_cases nanos).moved tracing
    obtain rfl : c.events (.advance nanos) = events := events_eq trace
    exact ⟨still, trace, (List.append_nil _).trans moved.inbox_eq, moved.outbox_eq, .inr moved⟩
  | inject frame => exact balanced_of_untraced tracing rfl rfl rfl
  | collect =>
    have split : c.outbox = c.outbox.head?.toList ++ c.outbox.tail := by
      cases c.outbox <;> rfl
    exact balanced_of_untraced tracing rfl (List.append_nil _) split
  | collectAll =>
    exact balanced_of_untraced tracing rfl (List.append_nil _) (List.append_nil _).symm

theorem tracing_after {c : Controller} (tracing : c.tracing = true) (actions : List Action) :
    (c.after actions).tracing = true :=
  after_induction (P := fun c => c.tracing = true) tracing (fun _ a h => (balanced h a).tracing)
    actions

theorem received_after {c : Controller} (tracing : c.tracing = true) (actions : List Action) :
    receivedIn (c.after actions).trace.toList ++ (c.after actions).inbox =
      receivedIn c.trace.toList ++ c.inbox ++ actions.filterMap Action.injected? := by
  induction actions generalizing c with
  | nil => exact (List.append_nil _).symm
  | cons a rest ih =>
    have balance := balanced tracing a
    rw [after_cons, ih balance.tracing, balance.trace, receivedIn_append,
      List.append_assoc (receivedIn _) _ (c.act a).inbox, ← balance.inbox, List.filterMap_cons]
    cases a.injected? <;> simp

theorem sent_after {c : Controller} (tracing : c.tracing = true) {past : List Frame}
    (accounted : sentIn c.trace.toList = past ++ c.outbox) (actions : List Action) :
    sentIn (c.after actions).trace.toList =
      past ++ c.collected actions ++ (c.after actions).outbox := by
  -- `past` is what the host has collected before, so it grows along the run
  induction actions generalizing c past with
  | nil => rwa [collected, List.append_nil]
  | cons a rest ih =>
    have balance := balanced tracing a
    have later : sentIn (c.act a).trace.toList = past ++ c.handedOver a ++ (c.act a).outbox := by
      rw [balance.trace, sentIn_append, accounted, List.append_assoc, balance.outbox,
        List.append_assoc]
    rw [after_cons, ih balance.tracing later, collected, List.append_assoc past]

-- ---------------------------------------------------------------------------
-- The contract
-- ---------------------------------------------------------------------------

def Sends (c : Controller) (a : Action) (n : UInt8) : Prop :=
  ∃ event ∈ c.events a, event.flow = .tx ∧ event.buffer = some n

structure FrameContract (c : Controller) (injected collected : List Frame) : Prop where
  arrived : receivedIn c.trace.toList ++ c.inbox = injected
  departed : sentIn c.trace.toList = collected ++ c.outbox
  single : ∀ nanos, c.mode ≠ .off →
    let d := (c.advance nanos).1
    let events := c.events (.advance nanos)
    (events = [] ∧ d.inbox = c.inbox ∧ d.outbox = c.outbox) ∨
      (∃ event, events = [event] ∧ event.flow ≠ .tx ∧ c.inbox = event.frame :: d.inbox ∧
        d.outbox = c.outbox) ∨
      ∃ event, events = [event] ∧ event.flow = .tx ∧ c.inbox = [] ∧ d.inbox = [] ∧
        d.outbox = c.outbox ++ [event.frame]
  sent : ∀ a, ∀ event ∈ c.events a, event.flow = .tx → ∃ n,
    event = ⟨c.bus, .tx, c.frameOf n, some (UInt8.ofNat n)⟩ ∧ n < bufferCount ∧
      n ≤ (c.regs.get mcr &&& Mcr.maxmb).toNat ∧
      (c.code n = Code.txData ∨ c.code n = Code.txRemote) ∧
      Code.armed ((c.act a).code n) = false
  rearmed : ∀ a between b n, c.Sends a n → ((c.act a).after between).Sends b n →
    ∃ w ∈ between, w.Writes n.toNat
  held : c.mode = .init ∨ c.mode = .sleep → ∀ a, c.inbox <+: (c.act a).inbox ∧ c.events a = []
  /-- Only a controller that is off drops frames without looking at its buffers. -/
  matched : ∀ a, ∀ event ∈ c.events a, event.flow ≠ .tx →
    c.mode = .off ∨ Arrival c event.frame event

theorem Moved.single {c d : Controller} {events : List TraceEvent} (h : Moved c d events)
    (on : c.mode ≠ .off) :
    (events = [] ∧ d.inbox = c.inbox ∧ d.outbox = c.outbox) ∨
      (∃ event, events = [event] ∧ event.flow ≠ .tx ∧ c.inbox = event.frame :: d.inbox ∧
        d.outbox = c.outbox) ∨
      ∃ event, events = [event] ∧ event.flow = .tx ∧ c.inbox = [] ∧ d.inbox = [] ∧
        d.outbox = c.outbox ++ [event.frame] := by
  cases h with
  | nothing inbox outbox => exact .inl ⟨rfl, inbox, outbox⟩
  | discarded off inbox outbox => exact absurd off on
  | received running inbox outbox arrival =>
    exact .inr (.inl ⟨_, rfl, arrival.flow_ne, inbox, outbox⟩)
  | sent running empty inbox armed outbox disarmed =>
    exact .inr (.inr ⟨_, rfl, rfl, empty, inbox, outbox⟩)

theorem Moved.sent_of_mem {c d : Controller} {events : List TraceEvent} (h : Moved c d events)
    {event : TraceEvent} (mem : event ∈ events) (tx : event.flow = .tx) :
    ∃ n, event = ⟨c.bus, .tx, c.frameOf n, some (UInt8.ofNat n)⟩ ∧ c.armedBuffer? = some n ∧
      armedIn d.regs n = false := by
  cases h with
  | nothing inbox outbox => cases mem
  | discarded off inbox outbox =>
    obtain ⟨frame, -, rfl⟩ := List.mem_map.1 mem
    cases tx
  | received running inbox outbox arrival =>
    obtain rfl := List.mem_singleton.1 mem
    exact absurd tx arrival.flow_ne
  | sent running empty inbox armed outbox disarmed =>
    exact ⟨_, List.mem_singleton.1 mem, armed, disarmed⟩

theorem moved_of_mem_events {c : Controller} (tracing : c.tracing = true) {a : Action}
    {event : TraceEvent} (h : event ∈ c.events a) : Moved c (c.act a) (c.events a) := by
  rcases (balanced tracing a).moved with none | moved
  · rw [none] at h
    cases h
  · exact moved

theorem Sends.armed {c : Controller} (tracing : c.tracing = true) {a : Action} {n : UInt8}
    (h : c.Sends a n) : n.toNat < bufferCount ∧ armedIn c.regs n.toNat = true ∧
      armedIn (c.act a).regs n.toNat = false := by
  obtain ⟨event, mem, tx, buffer⟩ := h
  obtain ⟨m, rfl, armed, disarmed⟩ := (moved_of_mem_events tracing mem).sent_of_mem mem tx
  obtain ⟨scanned, waiting⟩ := armedBuffer?_eq_some armed
  have inside := (mem_scanned.1 scanned).2
  have number : n.toNat = m := by
    rw [← Option.some.inj buffer, UInt8.toNat_ofNat']
    unfold bufferCount at inside
    omega
  rw [number]
  exact ⟨inside, waiting, disarmed⟩

theorem Sends.written {c : Controller} (tracing : c.tracing = true) {a b : Action}
    {between : List Action} {n : UInt8} (first : c.Sends a n)
    (second : ((c.act a).after between).Sends b n) : ∃ w ∈ between, w.Writes n.toNat := by
  by_contra unwritten
  have quiet : ∀ w ∈ between, ¬w.Writes n.toNat := fun w mem writes => unwritten ⟨w, mem, writes⟩
  -- the first event leaves the buffer unarmed, and the second finds it armed
  obtain ⟨inside, -, disarmed⟩ := first.armed tracing
  obtain ⟨-, armed, -⟩ := second.armed (tracing_after (balanced tracing a).tracing between)
  rw [unarmed_after inside disarmed quiet] at armed
  cases armed

theorem held_act {c : Controller} (tracing : c.tracing = true)
    (waiting : c.mode = .init ∨ c.mode = .sleep) (a : Action) :
    c.inbox <+: (c.act a).inbox ∧ c.events a = [] := by
  have balance := balanced tracing a
  have none : c.events a = [] := by
    rcases balance.moved with none | moved
    · exact none
    · generalize c.events a = events at moved
      cases moved with
      | nothing _ _ => rfl
      | discarded off _ _ => simp [off] at waiting
      | received running _ _ _ => rcases waiting with h | h <;> simp [Running, h] at running
      | sent running _ _ _ _ _ => rcases waiting with h | h <;> simp [Running, h] at running
  have inbox := balance.inbox
  rw [none] at inbox
  exact ⟨⟨_, inbox⟩, none⟩

theorem Moved.matched_of_mem {c d : Controller} {events : List TraceEvent} (h : Moved c d events)
    {event : TraceEvent} (mem : event ∈ events) (arriving : event.flow ≠ .tx) :
    c.mode = .off ∨ Arrival c event.frame event := by
  cases h with
  | nothing inbox outbox => cases mem
  | discarded off inbox outbox => exact .inl off
  | received running inbox outbox arrival =>
    obtain rfl := List.mem_singleton.1 mem
    exact .inr arrival
  | sent running empty inbox armed outbox disarmed =>
    obtain rfl := List.mem_singleton.1 mem
    exact absurd rfl arriving

theorem frameContract {c : Controller} (tracing : c.tracing = true)
    {injected collected : List Frame}
    (arrived : receivedIn c.trace.toList ++ c.inbox = injected)
    (departed : sentIn c.trace.toList = collected ++ c.outbox) :
    FrameContract c injected collected where
  arrived := arrived
  departed := departed
  single nanos on := by
    obtain ⟨events, moved, trace, -⟩ := (c.advance_cases nanos).moved tracing
    rw [events_eq (a := .advance nanos) trace]
    exact moved.single on
  sent a event mem tx := by
    obtain ⟨n, same, armed, disarmed⟩ := (moved_of_mem_events tracing mem).sent_of_mem mem tx
    obtain ⟨scanned, waiting⟩ := armedBuffer?_eq_some armed
    obtain ⟨within, inside⟩ := mem_scanned.1 scanned
    refine ⟨n, same, inside, within, ?_, disarmed⟩
    simpa [armedIn, Code.armed, code] using waiting
  rearmed a between b n first second := first.written tracing second
  held waiting a := held_act tracing waiting a
  matched a event mem arriving := (moved_of_mem_events tracing mem).matched_of_mem mem arriving

theorem frameContract_after (bus : UInt8) (actions : List Action) :
    let start := ({ bus } : Controller).startTrace
    FrameContract (start.after actions) (actions.filterMap Action.injected?)
      (start.collected actions) := by
  intro start
  have fresh : sentIn start.trace.toList = [] ++ start.outbox := rfl
  exact frameContract (tracing_after rfl actions) (received_after (c := start) rfl actions)
    (sent_after rfl fresh actions)

def oneShot : List Action :=
  [.access Offset.mcr .word .write 0x0F, .advance 0,
    .access (bufferOffset 0) .word .write 0x0C080000, .advance 0, .advance 0]

example : (({ bus := 1 } : Controller).startTrace.after oneShot).outbox.length = 1 := by
  decide +kernel

end Controller

end BoardSim.Can
